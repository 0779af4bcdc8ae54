/-
# Readers

A reader takes a beginning of a text and gives what it stands for, or has no
answer. All readers of the TOML grammar are built from the few here. Repetition
is bounded by the length of the text, which no useful round exceeds.
-/

namespace NativeLayout.Toml

/-- What a beginning of a text stands for, and what follows it. -/
abbrev Reader (α : Type) := List Char → Option (α × List Char)

namespace Reader

variable {α : Type}

/-- The items that a reader reads one after the other, up to a number of rounds. -/
def manyUpTo (item : Reader α) : Nat → List Char → List α × List Char
  | 0, s => ([], s)
  | n + 1, s =>
    match item s with
    | none => ([], s)
    | some (a, rest) =>
      let (more, rest) := manyUpTo item n rest
      (a :: more, rest)

/-- All items that a reader reads one after the other. -/
def many (item : Reader α) (s : List Char) : List α × List Char := manyUpTo item s.length s

/-- One character of a class. -/
def charOf (ok : Char → Bool) : Reader Char
  | c :: rest => if ok c then some (c, rest) else none
  | [] => none

/-- One given character. -/
def char (expected : Char) (s : List Char) : Option (List Char) :=
  match s with
  | c :: rest => if c = expected then some rest else none
  | [] => none

/-- A given word. -/
def word : List Char → List Char → Option (List Char)
  | [], s => some s
  | w :: ws, s => (char w s).bind (word ws)

/-- Spaces and tabs. -/
def skipSpaces (s : List Char) : List Char := s.dropWhile fun c => c == ' ' || c == '\t'

/-- A line break, with or without a carriage return. -/
def newline? : List Char → Option (List Char)
  | '\n' :: rest => some rest
  | '\r' :: '\n' :: rest => some rest
  | _ => none

/-- The characters that may stand in comments and literal strings: no controls but the tab. -/
def isPlain (c : Char) : Bool := c == '\t' || (0x20 ≤ c.toNat && c.toNat != 0x7F)

/-- A comment, if one begins here. -/
def skipComment : List Char → List Char
  | '#' :: rest => rest.dropWhile isPlain
  | s => s

/-- The end of a line: spaces, perhaps a comment, then a line break or the end of the text. -/
def lineEnd (s : List Char) : Option (List Char) :=
  match skipComment (skipSpaces s) with
  | [] => some []
  | rest => newline? rest

/-- What may stand between the items of an array: spaces, line breaks and comments. -/
def filler : Reader Unit
  | '#' :: rest => some ((), rest.dropWhile isPlain)
  | ' ' :: rest => some ((), rest)
  | '\t' :: rest => some ((), rest)
  | s => (newline? s).map ((), ·)

/-- The text after everything that may stand between the items of an array. -/
def skipFiller (s : List Char) : List Char := (many filler s).2

end Reader

end NativeLayout.Toml
