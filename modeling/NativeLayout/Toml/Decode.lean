/-
# Reading data out of TOML values

Decoders for the shapes that catalog and configuration files are made of. A
record is a table with known members, read in document order so that the first
problem is the one reported, members that are missing coming last; a record may
also be written as an array of its members in order. The messages say what was
found and what was expected.
-/

import NativeLayout.Text.Quoted
import NativeLayout.Toml.Value

namespace NativeLayout.Toml

/-- Why a value does not fit the data model. -/
inductive DataError
  | missingField (name : String)
  | unknownField (name : String) (allowed : List String)
  | unknownVariant (name : String) (allowed : List String)
  /-- A value of the wrong type; what was found, and what was expected. -/
  | wrongType (found expected : String)
  /-- An integer outside the range of its type. -/
  | outOfRange (n : Int) (expected : String)
  /-- An array too short for the record that it stands for. -/
  | wrongLength (length : Nat) (expected : String)
  /-- Neither a word nor a table of one word. -/
  | notAWord
  /-- A table in place of a word without the one word, or with more than one. -/
  | wordCount (found : Nat)
  /-- A word in a table with a value that says more. -/
  | wordValue (found : String)
deriving DecidableEq, Repr

/-- Words to choose from, as a message lists them. -/
def choices (allowed : List String) : String :=
  let listed := allowed.map fun name => "`" ++ name ++ "`"
  match listed with
  | [a, b] => "expected " ++ a ++ " or " ++ b
  | _ => "expected one of " ++ String.intercalate ", " listed

namespace DataError

/-- The text of the error. -/
def message : DataError → String
  | missingField name => "missing field `" ++ name ++ "`"
  | unknownField name allowed => "unknown field `" ++ name ++ "`, " ++ choices allowed
  | unknownVariant name allowed => "unknown variant `" ++ name ++ "`, " ++ choices allowed
  | wrongType found expected => "invalid type: " ++ found ++ ", expected " ++ expected
  | outOfRange n expected => s!"invalid value: integer `{n}`, expected {expected}"
  | wrongLength length expected => s!"invalid length {length}, expected {expected}"
  | notAWord => "wanted string or table"
  | wordCount 0 => "wanted exactly 1 element, found 0 elements"
  | wordCount _ => "wanted exactly 1 element, more than 1 element"
  | wordValue found => "expected " ++ found

end DataError

/-- What a value is made into, or why it does not fit. -/
abbrev Decoder (α : Type) := Value → Except DataError α

namespace Value

/-- A value as a message describes it. -/
def describe : Value → String
  | string s => "string " ++ Text.quoted s
  | integer n => s!"integer `{n}`"
  | float x => "floating point `" ++ x.display ++ "`"
  | boolean b => "boolean `" ++ (if b then "true" else "false") ++ "`"
  | array _ | tables _ => "sequence"
  | moment _ | table _ => "map"

/-- A value of the wrong type. -/
def wrong {α : Type} (v : Value) (expected : String) : Except DataError α :=
  .error (.wrongType v.describe expected)

end Value

namespace Decoder

variable {α σ : Type}

/-- A text, under the name that a message has for it. -/
def stringAs (expected : String) : Decoder String
  | .string s => .ok s
  | v => v.wrong expected

/-- A text. -/
def string : Decoder String := stringAs "a string"

/-- A path. -/
def path : Decoder String := stringAs "path string"

/-- A truth value. -/
def bool : Decoder Bool
  | .boolean b => .ok b
  | v => v.wrong "a boolean"

/-- A natural number below a bound, under the name of its type. -/
def natural (bound : Nat) (expected : String) : Decoder Nat
  | .integer n =>
    if 0 ≤ n ∧ n < bound then .ok n.toNat else .error (.outOfRange n expected)
  | v => v.wrong expected

/-- A size or an offset. -/
def size : Decoder Nat := natural 18446744073709551616 "usize"

/-- A size that fits into sixteen bits. -/
def smallSize : Decoder Nat := natural 65536 "u16"

/-- A list. -/
def list (item : Decoder α) : Decoder (List α) := fun v =>
  match v.items? with
  | some items => items.mapM item
  | none => v.wrong "a sequence"

/-- A map from names. -/
def map (item : Decoder α) : Decoder (List (String × α)) := fun v =>
  match v.members? with
  | some members => members.mapM fun (name, member) => (item member).map (name, ·)
  | none => v.wrong "a map"

/-- What stands beside a word in a table of one word: it must say nothing. -/
def nothing : Value → Except DataError Unit
  | .tables _ => .error (.wordValue "empty array")
  | .array items => if items.isEmpty then .ok () else .error (.wordValue "empty table")
  | .table members => if members.isEmpty then .ok () else .error (.wordValue "empty table")
  | .string _ => .error (.wordValue "table, found string")
  | .integer _ => .error (.wordValue "table, found integer")
  | .float _ => .error (.wordValue "table, found float")
  | .boolean _ => .error (.wordValue "table, found boolean")
  | .moment _ => .error (.wordValue "table, found datetime")

/-- One of some words. The word may also be the only name in a table that says nothing
about it. -/
def word (words : List (String × α)) : Decoder α := fun v =>
  let named (name : String) : Except DataError α :=
    match words.lookup name with
    | some a => .ok a
    | none => .error (.unknownVariant name (words.map Prod.fst))
  match v with
  | .string name => named name
  | .table [(name, about)] =>
    match named name with
    | .error e => .error e
    | .ok a => (nothing about).map fun _ => a
  | .table members => .error (.wordCount members.length)
  | _ => .error .notAWord

/-- A member of a record: how to read it into the record, and whether it may be left out
when members are named and when they are written in order. -/
structure Member (σ : Type) where
  name : String
  read : Value → σ → Except DataError σ
  optional : Bool
  optionalInOrder : Bool

/-- A member that must be there. -/
def Member.required (name : String) (item : Decoder α) (set : σ → α → σ) : Member σ :=
  ⟨name, fun v record => (item v).map (set record), false, false⟩

/-- A member with a default. -/
def Member.defaulted (name : String) (item : Decoder α) (set : σ → α → σ) : Member σ :=
  ⟨name, fun v record => (item v).map (set record), true, true⟩

/-- A member that may be left out, but only if members are named. -/
def Member.optionalNamed (name : String) (item : Decoder α) (set : σ → α → σ) : Member σ :=
  ⟨name, fun v record => (item v).map (set record), true, false⟩

/-- A kind of record. -/
structure RecordShape (σ : Type) where
  /-- What messages call it. -/
  kind : String
  /-- Whether other members are refused. -/
  closed : Bool
  members : List (Member σ)
  /-- The record before any member was read. -/
  start : σ

namespace RecordShape

/-- The names of the members. -/
def names (shape : RecordShape σ) : List String := shape.members.map (·.name)

/-- One named member read into a record. -/
def readNamed (shape : RecordShape σ) (record : σ) (name : String) (v : Value) :
    Except DataError σ :=
  match shape.members.find? (·.name = name) with
  | some member => member.read v record
  | none => if shape.closed then .error (.unknownField name shape.names) else .ok record

/-- A record from named members. -/
def ofTable (shape : RecordShape σ) (members : Table) : Except DataError σ := do
  let record ← members.foldlM (fun record (name, v) => shape.readNamed record name v) shape.start
  match shape.members.find? fun m => !m.optional && !members.any (·.1 = m.name) with
  | some missing => .error (.missingField missing.name)
  | none => .ok record

/-- What a message expects of an array in place of a record. -/
def expectedLength (shape : RecordShape σ) : String :=
  let n := shape.members.length
  shape.kind ++ s!" with {n} element" ++ (if n = 1 then "" else "s")

/-- The remaining members of a record, written in order, when some have been read. -/
def ofItems (shape : RecordShape σ) : Nat → List (Member σ) → List Value → σ → Except DataError σ
  | _, [], _, record => .ok record
  | index, member :: rest, v :: items, record => do
    shape.ofItems (index + 1) rest items (← member.read v record)
  | index, member :: rest, [], record =>
    if member.optionalInOrder then shape.ofItems (index + 1) rest [] record
    else .error (.wrongLength index shape.expectedLength)

/-- A record in either form. -/
def decode (shape : RecordShape σ) : Decoder σ := fun v =>
  match v.members? with
  | some members => shape.ofTable members
  | none =>
    match v.items? with
    | some items => shape.ofItems 0 shape.members items shape.start
    | none => v.wrong shape.kind

end RecordShape

end Decoder

end NativeLayout.Toml
