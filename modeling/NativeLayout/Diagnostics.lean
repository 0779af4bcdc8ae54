/-
# Reading mismatches out of compiler output

A compiler repeats the message of a failed assertion somewhere in a line, often
more than once. Each line gives at most one mismatch: the leftmost place where a
field message can be read, and only if there is none the leftmost place where a
message about a total size can be read. Names are identifiers of ASCII letters,
digits and underscores, so a message about any other name gives nothing.
-/

import NativeLayout.Mismatch
import NativeLayout.Text.Lines
import NativeLayout.Text.Search

namespace NativeLayout.Diagnostics

open NativeLayout.Text

/-- The characters that an identifier may begin with. -/
def isNameStart (c : Char) : Bool := c.isAlpha || c == '_'

/-- The characters that an identifier may go on with. -/
def isNamePart (c : Char) : Bool := isNameStart c || c.isDigit

/-- A text is an identifier if it begins with a letter or underscore and has only
letters, digits and underscores. -/
def isIdentifier : List Char → Bool
  | [] => false
  | c :: cs => isNameStart c && cs.all isNamePart

/-- The longest identifier that a text begins with, and what follows it. -/
def identifier? : List Char → Option (List Char × List Char)
  | [] => none
  | c :: cs =>
    if isNameStart c then some (c :: cs.takeWhile isNamePart, cs.dropWhile isNamePart) else none

/-- The kind of a field message, read from what follows the names. -/
def fieldKind? (s : List Char) : Option MismatchKind :=
  if (after? " is not at expected offset".toList s).isSome then some .offset
  else if (after? " is not of expected size".toList s).isSome then some .size
  else none

/-- A field message that begins here. -/
def fieldMessage? (s : List Char) : Option Mismatch :=
  match identifier? s with
  | none => none
  | some (owner, rest) =>
    match rest with
    | '.' :: rest =>
      match identifier? rest with
      | none => none
      | some (field, rest) =>
        (fieldKind? rest).map (⟨String.ofList owner, String.ofList field, ·⟩)
    | _ => none

/-- A message about a total size that begins here, with the name in front. -/
def plainTotalMessage? (s : List Char) : Option Mismatch :=
  match identifier? s with
  | none => none
  | some (owner, rest) =>
    if (after? " does not have expected size".toList rest).isSome then
      some (.totalSize (String.ofList owner))
    else none

/-- A message about a total size that begins here; the word for structures may stand
before the name. -/
def totalMessage? (s : List Char) : Option Mismatch :=
  ((after? "struct ".toList s).bind plainTotalMessage?).or (plainTotalMessage? s)

/-- The mismatch that a line tells of. -/
def ofLine? (line : List Char) : Option Mismatch :=
  (leftmost fieldMessage? line).or (leftmost totalMessage? line)

/-- A list with an element at its end, unless the list has that element already. -/
def addNew {α : Type} [DecidableEq α] (l : List α) (a : α) : List α :=
  if a ∈ l then l else l ++ [a]

/-- The mismatches that the lines of a text tell of, each at its first place. -/
def mismatchesIn (text : List Char) : List Mismatch :=
  ((splitLines text).filterMap ofLine?).foldl addNew []

/-- The mismatches that a compiler's output tells of, each at its first place. -/
def mismatches (output : String) : List Mismatch := mismatchesIn output.toList

example : mismatches "check.c:9: error: \"msghdr.msg_flags is not at expected offset\"\n" =
    [⟨"msghdr", "msg_flags", .offset⟩] := by decide +kernel
example : mismatches "struct does not have expected size" = [.totalSize "struct"] := by
  decide +kernel

end NativeLayout.Diagnostics
