/-
# Blank characters

The characters with the Unicode property White_Space, and the two things done
with them: cutting them off the ends of a text and splitting a text into words.
The tables are those of the property itself, not the six ASCII blanks.
-/

namespace NativeLayout.Text

/-- The code points with the property White_Space. -/
def isBlank (c : Char) : Bool :=
  let n := c.toNat
  (0x09 ≤ n && n ≤ 0x0D) || n == 0x20 || n == 0x85 || n == 0xA0 || n == 0x1680 ||
    (0x2000 ≤ n && n ≤ 0x200A) || n == 0x2028 || n == 0x2029 || n == 0x202F ||
    n == 0x205F || n == 0x3000

/-- Every blank of ASCII text has the property. -/
theorem isBlank_of_isWhitespace {c : Char} (h : c.isWhitespace = true) : isBlank c = true := by
  simp only [Char.isWhitespace, Bool.or_eq_true, decide_eq_true_eq] at h
  rcases h with ((rfl | rfl) | rfl) | rfl <;> decide

/-- The text after its leading blanks. -/
def dropBlanks (s : List Char) : List Char := s.dropWhile isBlank

/-- The text up to its last character that is not blank. -/
def dropTrailingBlanks (s : List Char) : List Char := (dropBlanks s.reverse).reverse

/-- A text without blanks at its end. -/
def trimEnd (s : String) : String := String.ofList (dropTrailingBlanks s.toList)

/-- A text without blanks at either end. -/
def trim (s : String) : String := String.ofList (dropTrailingBlanks (dropBlanks s.toList))

/-- The longest runs of characters that are not blank, in order. -/
def runs : List Char → List (List Char)
  | [] => []
  | c :: cs =>
    if isBlank c then runs cs
    else match cs with
      | [] => [[c]]
      | d :: _ =>
        if isBlank d then [c] :: runs cs
        else match runs cs with
          | [] => [[c]]
          | r :: rs => (c :: r) :: rs

/-- The words of a text: what stands between blanks, no word empty. -/
def words (s : String) : List String := (runs s.toList).map String.ofList

example : words " -O2\u00a0-g \t" = ["-O2", "-g"] := by decide +kernel
example : trim "\u3000 a b \n" = "a b" := by decide +kernel

end NativeLayout.Text
