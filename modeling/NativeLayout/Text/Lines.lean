/-
# Lines of a text

A line ends at a line feed, and one carriage return directly before that line
feed belongs to the ending. A text that ends in a line feed has no empty last
line, and a carriage return anywhere else is an ordinary character.
-/

namespace NativeLayout.Text

/-- The lines of a text, without their endings. -/
def splitLines : List Char → List (List Char)
  | [] => []
  | '\n' :: cs => [] :: splitLines cs
  | '\r' :: '\n' :: cs => [] :: splitLines cs
  | c :: cs =>
    match splitLines cs with
    | [] => [[c]]
    | l :: ls => (c :: l) :: ls

/-- The lines of a text as texts. -/
def lines (s : String) : List String := (splitLines s.toList).map String.ofList

/-- The text of some lines, each ended by a line feed. -/
def ofLines (ls : List String) : String := String.join (ls.map (· ++ "\n"))

example : lines "a\r\n\nb\rc\r" = ["a", "", "b\rc\r"] := by decide +kernel
example : lines "a\r\r\n" = ["a\r"] := by decide +kernel
example : lines "" = [] := by decide +kernel

end NativeLayout.Text
