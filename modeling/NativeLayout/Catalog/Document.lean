/-
# Catalog files

A catalog written down by the producer of some bindings. Each structure has its
measured layout and, if it is to be checked, the headers that declare it. Of two
declared sizes for one name the later one counts; structures with one name are
all kept.
-/

import NativeLayout.Catalog.Basic
import NativeLayout.Toml.Error

namespace NativeLayout

/-- A structure as a catalog file describes it. -/
structure StructEntry where
  name : String := ""
  kind : DefinitionKind := .struct
  isPublic : Bool := true
  size : Nat := 0
  declaredSize : Option Nat := none
  headers : Option HeaderSet := none
  fields : List RawField := []
deriving DecidableEq

/-- A catalog file. -/
structure CatalogDocument where
  name : Option String := none
  typedefs : List String := []
  unchecked : List String := []
  skip : List (String × String) := []
  structs : List StructEntry := []
deriving DecidableEq

namespace StructEntry

/-- The definition in an entry. -/
def definition (entry : StructEntry) : Definition where
  name := entry.name
  isPublic := entry.isPublic
  kind := entry.kind
  fields := entry.fields
  size := entry.size

/-- The check in an entry, if it has headers. -/
def check? (entry : StructEntry) : Option Check := entry.headers.map (⟨entry.name, ·⟩)

/-- The declared size in an entry, if it has one. -/
def declared? (entry : StructEntry) : Option (String × Nat) :=
  entry.declaredSize.map (entry.name, ·)

end StructEntry

/-- The catalog that a file describes. -/
def CatalogDocument.catalog (document : CatalogDocument) : Catalog where
  name := document.name.getD "custom"
  definitions := document.structs.map StructEntry.definition
  declaredSizes := .ofList (document.structs.filterMap StructEntry.declared?)
  checks := document.structs.filterMap StructEntry.check?
  unchecked := .ofList document.unchecked
  typedefs := .ofList document.typedefs
  skipList := .ofList document.skip

namespace CatalogDocument

open Toml Toml.Decoder

/-- The type of an element. -/
def elementType : RecordShape ElementType where
  kind := "struct ElementType"
  closed := false
  members :=
    [.required "name" string fun e name => { e with name },
     .required "size" size fun e size => { e with size }]
  start := { name := "", size := 0 }

/-- A field. -/
def rawField : RecordShape RawField where
  kind := "struct RawField"
  closed := false
  members :=
    [.required "name" string fun f name => { f with name },
     .required "offset" size fun f offset => { f with offset },
     .required "type" elementType.decode fun f element => { f with element },
     .defaulted "count" size fun f count => { f with count }]
  start := { name := "", offset := 0, element := { name := "", size := 0 } }

/-- An entry of the skip list. -/
def skipEntry : RecordShape (String × String) where
  kind := "struct SkipEntry"
  closed := true
  members :=
    [.required "structure" string fun e name => (name, e.2),
     .required "field" string fun e field => (e.1, field)]
  start := ("", "")

/-- The words for the kinds of definition. -/
def kinds : List (String × DefinitionKind) :=
  [.struct, .union, .scalar].map fun kind => (DefinitionKind.word kind, kind)

/-- A structure. -/
def structEntry : RecordShape StructEntry where
  kind := "struct StructEntry"
  closed := true
  members :=
    [.required "name" string fun e name => { e with name },
     .defaulted "kind" (word kinds) fun e kind => { e with kind },
     .defaulted "public" bool fun e isPublic => { e with isPublic },
     .required "size" size fun e size => { e with size },
     .optionalNamed "declared_size" smallSize fun e n => { e with declaredSize := some n },
     .optionalNamed "headers" (list string) fun e headers =>
       { e with headers := some (.ofList headers) },
     .defaulted "field" (list rawField.decode) fun e fields => { e with fields }]
  start := {}

/-- A whole file. -/
def shape : RecordShape CatalogDocument where
  kind := "struct CatalogFile"
  closed := true
  members :=
    [.optionalNamed "name" string fun d name => { d with name := some name },
     .defaulted "typedefs" (list string) fun d typedefs => { d with typedefs },
     .defaulted "unchecked" (list string) fun d unchecked => { d with unchecked },
     .defaulted "skip" (list skipEntry.decode) fun d skip => { d with skip },
     .defaulted "struct" (list structEntry.decode) fun d structs => { d with structs }]
  start := {}

/-- The catalog file that a text writes. -/
def parse (text : String) : Except Toml.Error CatalogDocument := decodeText shape.ofTable text

end CatalogDocument

end NativeLayout
