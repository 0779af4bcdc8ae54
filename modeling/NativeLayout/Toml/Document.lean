/-
# TOML documents

The grammar of keys, values and lines, and the document that the lines of a text
make. Whatever is not a document of TOML 1.0 makes none. Arrays and tables nest
less than eighty deep, and a dotted key has fewer than eighty parts.
-/

import NativeLayout.Toml.Number
import NativeLayout.Toml.Tree

namespace NativeLayout.Toml

open Reader

/-- The characters of a key without quotes. -/
def isBareKey (c : Char) : Bool := c.isAlphanum || c == '-' || c == '_'

/-- One part of a key. -/
def keyPart : Reader String := fun s =>
  (basicString s).or <| (literalString s).or <|
    match s.takeWhile isBareKey with
    | [] => none
    | name => some (String.ofList name, s.dropWhile isBareKey)

/-- A part of a key after a point. -/
def dottedPart : Reader String := fun s => do
  let s ← char '.' s
  let (part, s) ← keyPart (skipSpaces s)
  some (part, skipSpaces s)

/-- How deep a document may nest, and how many parts a key may have, less one. -/
def depthLimit : Nat := 79

/-- A key: the parts before the last one, and the last. -/
def key : Reader (List String × String) := fun s => do
  let (first, s) ← keyPart (skipSpaces s)
  let (more, s) := many dottedPart (skipSpaces s)
  if depthLimit < (first :: more).length then none
  else some (((first :: more).dropLast, more.getLast?.getD first), s)

/-- The items of an array after its opening, up to and with its closing. A comma may follow
the last item. -/
def arrayItems (item : Reader Value) : Nat → Reader (List Value)
  | 0, _ => none
  | n + 1, s =>
    match skipFiller s with
    | ']' :: rest => some ([], rest)
    | s =>
      match item s with
      | none => none
      | some (value, rest) =>
        match skipFiller rest with
        | ']' :: rest => some ([value], rest)
        | ',' :: rest => (arrayItems item n rest).map fun (more, rest) => (value :: more, rest)
        | _ => none

/-- A key, an equals sign and a value. -/
def pair (item : Reader Value) : Reader Pair := fun s => do
  let ((path, last), s) ← key s
  let s ← char '=' s
  let (value, s) ← item (skipSpaces s)
  some (⟨path, last, value⟩, s)

/-- The pairs of a table between braces, up to and with its closing. -/
def tablePairs (item : Reader Value) : Nat → Reader (List Pair)
  | 0, _ => none
  | n + 1, s =>
    match pair item s with
    | none => none
    | some (first, rest) =>
      match skipSpaces rest with
      | '\x7d' :: rest => some ([first], rest)
      | ',' :: rest => (tablePairs item n rest).map fun (more, rest) => (first :: more, rest)
      | _ => none

/-- A table between braces after its opening. -/
def bracedTable (item : Reader Value) : Reader Table := fun s =>
  match skipSpaces s with
  | '\x7d' :: rest => some ([], rest)
  | s =>
    (tablePairs item s.length s).bind fun (pairs, rest) => (tableOfPairs pairs).map (·, rest)

/-- A value in which arrays and tables nest at most so deep. -/
def value : Nat → Reader Value
  | 0, s => scalar s
  | depth + 1, s =>
    match s with
    | '[' :: rest =>
      (arrayItems (value depth) (rest.length + 1) rest).map fun (items, r) => (.array items, r)
    | '\x7b' :: rest =>
      (bracedTable (value depth) rest).map fun (members, r) => (.table members, r)
    | s => scalar s

/-- What a line can state. -/
inductive Statement
  | pair (p : Pair)
  | table (path : List String) (key : String)
  | repeated (path : List String) (key : String)

/-- A header between brackets. -/
def headerLine : Reader Statement
  | '[' :: '[' :: rest => do
    let ((path, last), s) ← key rest
    let s ← word [']', ']'] s
    some (.repeated path last, ← lineEnd s)
  | '[' :: rest => do
    let ((path, last), s) ← key rest
    let s ← char ']' s
    some (.table path last, ← lineEnd s)
  | _ => none

/-- A line that states a value. -/
def pairLine : Reader Statement := fun s => do
  let (p, s) ← pair (value depthLimit) s
  some (.pair p, ← lineEnd s)

/-- A line with a statement, or one without. -/
def line (s : List Char) : Option (Option Statement × List Char) :=
  match skipSpaces s with
  | '[' :: rest => (headerLine ('[' :: rest)).map fun (header, rest) => (some header, rest)
  | s =>
    match lineEnd s with
    | some rest => some (none, rest)
    | none => (pairLine s).map fun (p, rest) => (some p, rest)

/-- The statements of at most so many lines. -/
def statements : Nat → List Char → Option (List Statement)
  | _, [] => some []
  | 0, _ => none
  | n + 1, s =>
    match line s with
    | none => none
    | some (none, rest) => statements n rest
    | some (some statement, rest) => (statements n rest).map (statement :: ·)

/-- A header with the pairs up to the next one. -/
structure Section where
  repeats : Bool
  path : List String
  key : String
  pairs : List Pair

/-- The pairs before the first header, and the sections. -/
def sections : List Statement → List Pair × List Section
  | [] => ([], [])
  | .pair p :: rest =>
    let (pairs, later) := sections rest
    (p :: pairs, later)
  | .table path key :: rest =>
    let (pairs, later) := sections rest
    ([], ⟨false, path, key, pairs⟩ :: later)
  | .repeated path key :: rest =>
    let (pairs, later) := sections rest
    ([], ⟨true, path, key, pairs⟩ :: later)

/-- A document with one more section. -/
def addSection (root : Members) (s : Section) : Option Members :=
  root.within
    (if s.repeats then Members.addRepeated s.key (·.addPairs s.pairs)
    else Members.addTable s.key (·.addPairs s.pairs)) s.path

/-- The document that statements make. -/
def ofStatements (all : List Statement) : Option Table := do
  let (pairs, later) := sections all
  let root ← Members.addPairs [] pairs
  let grown ← later.foldlM addSection root
  some (Node.toTable grown)

/-- A text without a byte order mark at its beginning. -/
def withoutMark : List Char → List Char
  | '\uFEFF' :: rest => rest
  | s => s

/-- The document that a text writes, if it writes one. -/
def parse? (text : String) : Option Table :=
  let s := withoutMark text.toList
  (statements s.length s).bind ofStatements

end NativeLayout.Toml
