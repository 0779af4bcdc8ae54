/-
# Assertions about a native layout

What a descriptor demands of the native structure, and the source that makes a
compiler verify the demands. Each demand is one static assertion whose message
names the structure and the field, so that a failure can be attributed. The
source includes the headers in order and defines nothing but two aliases that
some declared types need.
-/

import NativeLayout.Descriptor
import NativeLayout.HeaderSet
import NativeLayout.Mismatch
import NativeLayout.SkipList
import NativeLayout.Text.Lines

namespace NativeLayout

/-- What one assertion demands. -/
inductive Demand
  | offset (field : String) (value : Nat)
  | size (field : String) (value : Nat)
  | totalSize (value : Nat)
deriving DecidableEq, Repr

/-- The layout that native headers give to a structure. -/
structure Layout where
  offset : String → Nat
  size : String → Nat
  total : Nat

namespace Demand

/-- Whether a native layout meets a demand. -/
def holds (layout : Layout) : Demand → Bool
  | offset field value => layout.offset field == value
  | size field value => layout.size field == value
  | totalSize value => layout.total == value

/-- The condition of a demand in native source, for a type spelt so. -/
def condition (type : String) : Demand → String
  | offset field value => "offsetof(" ++ type ++ ", " ++ field ++ ") == " ++ toString value
  | size field value => "member_size(" ++ type ++ ", " ++ field ++ ") == " ++ toString value
  | totalSize value => "sizeof(" ++ type ++ ") == " ++ toString value

/-- The message that tells of a demand that is not met. -/
def message (owner type : String) : Demand → String
  | offset field _ => Mismatch.offsetMessage owner field
  | size field _ => Mismatch.sizeMessage owner field
  | totalSize _ => Mismatch.totalSizeMessage type

/-- The mismatch that a demand which is not met amounts to. -/
def mismatch (owner : String) : Demand → Mismatch
  | offset field _ => ⟨owner, field, .offset⟩
  | size field _ => ⟨owner, field, .size⟩
  | totalSize _ => .totalSize owner

/-- The assertion of a demand. -/
def assertion (owner type : String) (demand : Demand) : String :=
  "_Static_assert(" ++ demand.condition type ++ ", \"" ++ demand.message owner type ++ "\");"

end Demand

namespace Descriptor

/-- The demands of one compared field: its offset, and its width unless that is skipped. -/
def fieldDemands (owner : String) (skip : SkipList) (name : String) (field : RawField) :
    List Demand :=
  if skip.skips owner name then [.offset name field.offset]
  else [.offset name field.offset, .size name field.width]

/-- All demands of a descriptor: those of its compared fields in order, then the total size. -/
def demands (d : Descriptor) (skip : SkipList) : List Demand :=
  d.checkedFields.flatMap (fun (name, field) => fieldDemands d.name skip name field) ++
    [.totalSize d.size]

end Descriptor

namespace Source

/-- The line that includes a header. -/
def includeLine (header : String) : String := "#include <" ++ header ++ ">"

/-- The lines that turn extensions on and include the headers in order. -/
def includeLines (headers : HeaderSet) : List String :=
  "#define _GNU_SOURCE" :: headers.toList.map includeLine

/-- The lines between the headers and the assertions. -/
def preambleLines : List String :=
  [includeLine "stddef.h",
   "",
   "#define member_size(type, member) sizeof(((type *)0)->member)",
   "typedef long syscall_arg;",
   "typedef long long_t;",
   ""]

/-- The lines of a unit that asserts every demand of a descriptor. -/
def assertionLines (d : Descriptor) (headers : HeaderSet) (skip : SkipList) : List String :=
  includeLines headers ++ preambleLines ++
    (d.demands skip).map (Demand.assertion d.name d.nativeName)

/-- The source that compiles exactly if every demand of a descriptor is met. -/
def assertions (d : Descriptor) (headers : HeaderSet) (skip : SkipList) : String :=
  Text.ofLines (assertionLines d headers skip)

/-- The source that compiles exactly if the headers can be included in order. -/
def probe (headers : HeaderSet) : String := Text.ofLines (includeLines headers)

end Source

end NativeLayout
