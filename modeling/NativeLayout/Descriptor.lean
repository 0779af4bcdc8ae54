/-
# Descriptors of structures

A descriptor is the layout that a binding declares for one structure. It is made
from the fields as a producer lists them, under encoded names; a list in which a
field has no elements, or in which two fields stand for the same header field,
makes no descriptor.
-/

import NativeLayout.Name

namespace NativeLayout

/-- The type of one element of a field; its name is for readers only. -/
structure ElementType where
  name : String
  size : Nat
deriving DecidableEq, Repr

/-- A field as a producer lists it: an encoded name, where the field begins, and
how many elements of which type it has. -/
structure RawField where
  name : String
  offset : Nat
  element : ElementType
  count : Nat := 1
deriving DecidableEq, Repr

namespace RawField

/-- The header field that this field stands for, if any. -/
def checkedName? (field : RawField) : Option String := FieldName.resolve? field.name

/-- The declared width in bytes, as a 64-bit word. -/
def width (field : RawField) : Nat := field.element.size * field.count % UInt64.size

end RawField

/-- Why a list of fields makes no descriptor. -/
inductive DescriptorError
  /-- Two fields, given by their encoded names, stand for the same header field. -/
  | duplicateField (owner first second resolved : String)
  /-- A field has no elements. -/
  | zeroCount (owner field : String)
deriving DecidableEq, Repr

/-- The text of the error. -/
def DescriptorError.message : DescriptorError → String
  | duplicateField owner first second resolved =>
    s!"`{owner}`: fields `{first}` and `{second}` both resolve to `{resolved}`"
  | zeroCount owner field => s!"`{owner}.{field}` has an element count of zero"

/-- The declared layout of one structure. -/
structure Descriptor where
  name : String
  style : NameStyle
  fields : List RawField
  size : Nat
  declaredSize : Option Nat := none
deriving DecidableEq, Repr

namespace Descriptor

/-- The first defect of a list of fields, looking only at fields after `earlier`. -/
def defect? (owner : String) : List RawField → List RawField → Option DescriptorError
  | _, [] => none
  | earlier, field :: rest =>
    if field.count = 0 then some (.zeroCount owner field.name)
    else match field.checkedName? with
      | none => defect? owner (earlier ++ [field]) rest
      | some resolved =>
        match earlier.find? (·.checkedName? = some resolved) with
        | some first => some (.duplicateField owner first.name field.name resolved)
        | none => defect? owner (earlier ++ [field]) rest

/-- The descriptor of a structure with the given fields and total size, or the first
defect of the fields. -/
def ofFields (name : String) (fields : List RawField) (size : Nat) (typedefs : NameSet) :
    Except DescriptorError Descriptor :=
  match defect? name [] fields with
  | some error => .error error
  | none => .ok { name, style := .ofName name typedefs, fields, size }

/-- The name by which native source knows the structure. -/
def nativeName (d : Descriptor) : String := d.style.spell d.name

/-- The fields that are compared with the headers, under their header names. -/
def checkedFields (d : Descriptor) : List (String × RawField) :=
  d.fields.filterMap fun field => field.checkedName?.map (·, field)

/-- The compared field of a header name. -/
def checkedField? (d : Descriptor) (name : String) : Option RawField :=
  (d.checkedFields.find? (·.1 = name)).map Prod.snd

end Descriptor

end NativeLayout
