/-
# Names of structures and fields

A structure is known to native source either by an alias or by its tag. A field
name carries an encoding that tells whether the field belongs to the contract
with the native headers, and under which name. Decoding is partial: fields whose
name decodes to nothing are never compared.
-/

import NativeLayout.OrderedSet

namespace NativeLayout

/-- How native source refers to a structure. -/
inductive NameStyle
  /-- By an alias that stands alone. -/
  | typedef
  /-- By a tag after the word for structures. -/
  | tag
deriving DecidableEq, Repr

namespace NameStyle

/-- A name is an alias exactly if the catalog lists it as one. -/
def ofName (name : String) (typedefs : NameSet) : NameStyle :=
  if name ∈ typedefs then .typedef else .tag

/-- The spelling of a name in native source. -/
def spell (style : NameStyle) (name : String) : String :=
  match style with
  | typedef => name
  | tag => "struct " ++ name

/-- The word for a style in reports. -/
def word : NameStyle → String
  | typedef => "typedef"
  | tag => "tag"

end NameStyle

namespace FieldName

/-- A text, unless it is empty. -/
def nonEmpty? : List Char → Option (List Char)
  | [] => none
  | c :: cs => some (c :: cs)

/-- The text before the first closing bracket, if there is such a bracket. -/
def beforeClose? : List Char → Option (List Char)
  | [] => none
  | c :: cs => if c = '>' then some [] else (beforeClose? cs).map (c :: ·)

/-- The header name that an encoded field name stands for. A name in angle brackets
stands for what is between them, a name after one underscore for itself; empty
names, names after two underscores and all others stand for nothing. -/
def decode : List Char → Option (List Char)
  | '<' :: rest => (beforeClose? rest).bind nonEmpty?
  | '_' :: '_' :: _ => none
  | '_' :: rest => nonEmpty? rest
  | _ => none

/-- The header name that an encoded field name stands for, if any. -/
def resolve? (raw : String) : Option String := (decode raw.toList).map String.ofList

/-- An identifier without the mark that lets it be spelt like a keyword. -/
def plain : List Char → List Char
  | 'r' :: '#' :: rest => rest
  | name => name

/-- The encoding of the field that a binding declares: one underscore before a public
field, nothing before a private one. -/
def encode (identifier : String) (isPublic : Bool) : String :=
  let name := plain identifier.toList
  String.ofList (if isPublic then '_' :: name else name)

example : resolve? "<value>k__BackingField" = some "value" := by decide +kernel
example : resolve? "__pad" = none ∧ resolve? "<>x" = none ∧ resolve? "_" = none := by
  decide +kernel
example : encode "r#type" true = "_type" := by decide +kernel

end FieldName

end NativeLayout
