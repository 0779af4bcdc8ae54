/-
# Catalogs of bindings

A catalog is everything known about one set of bindings: the definitions with
their measured layouts, a table of declared sizes that is kept apart from them,
which structures to check against which headers, which to leave unchecked, the
aliases, and the fields whose size is not compared. Nothing here makes the parts
agree; where they disagree is the matter of the module on gaps.
-/

import NativeLayout.Descriptor
import NativeLayout.Dictionary
import NativeLayout.HeaderSet
import NativeLayout.SkipList

namespace NativeLayout

/-- What kind of native type a definition describes. -/
inductive DefinitionKind
  | struct
  | union
  /-- One value under an alias. -/
  | scalar
deriving DecidableEq, Repr

/-- The word for a kind in catalog files and answers. -/
def DefinitionKind.word : DefinitionKind → String
  | struct => "struct"
  | union => "union"
  | scalar => "scalar"

/-- One binding as its producer measured it. -/
structure Definition where
  name : String
  isPublic : Bool := true
  kind : DefinitionKind := .struct
  fields : List RawField := []
  size : Nat
deriving DecidableEq, Repr

/-- A structure to check, and the headers that declare it. -/
structure Check where
  name : String
  headers : HeaderSet
deriving DecidableEq

/-- Everything known about one set of bindings. -/
structure Catalog where
  name : String
  definitions : List Definition := []
  declaredSizes : Dictionary Nat := ∅
  checks : List Check := []
  unchecked : NameSet := ∅
  typedefs : NameSet := ∅
  skipList : SkipList := ∅
deriving DecidableEq

/-- Why a name gives no descriptor. -/
inductive CatalogError
  /-- The catalog defines no such structure. -/
  | unknownStructure (name : String)
  /-- The definition has a defect. -/
  | descriptor (error : DescriptorError)
deriving DecidableEq, Repr

/-- The text of the error. -/
def CatalogError.message : CatalogError → String
  | unknownStructure name => s!"no binding named `{name}` in the catalog"
  | descriptor error => error.message

namespace Catalog

/-- The definition of a name; of several with one name the first counts. -/
def definition? (c : Catalog) (name : String) : Option Definition :=
  c.definitions.find? (·.name = name)

/-- The check of a name, the first if there are several. -/
def check? (c : Catalog) (name : String) : Option Check := c.checks.find? (·.name = name)

/-- The descriptor of a name, with the declared size if there is one. -/
def descriptor (c : Catalog) (name : String) : Except CatalogError Descriptor :=
  match c.definition? name with
  | none => .error (.unknownStructure name)
  | some d =>
    match Descriptor.ofFields name d.fields d.size c.typedefs with
    | .error error => .error (.descriptor error)
    | .ok descriptor => .ok { descriptor with declaredSize := c.declaredSizes.get? name }

/-- Whether a name is defined. -/
def defines (c : Catalog) (name : String) : Bool := c.definitions.any (·.name = name)

/-- Whether a name is checked. -/
def hasCheck (c : Catalog) (name : String) : Bool := c.checks.any (·.name = name)

/-- Whether a name has a descriptor with a compared field of the given name. -/
def hasCheckedField (c : Catalog) (name field : String) : Bool :=
  match c.descriptor name with
  | .error _ => false
  | .ok d => (d.checkedField? field).isSome

end Catalog

end NativeLayout
