/-
# Layout mismatches

Where a native layout differs from the declared one. Each possible difference has
an assertion message of its own, and the messages are the only thing that comes
back from a compiler; reading them out of its output is the matter of the module
on diagnostics.
-/

namespace NativeLayout

/-- What differs. -/
inductive MismatchKind
  | offset
  | size
  | totalSize
deriving DecidableEq, Repr

/-- The word for a kind in reports. -/
def MismatchKind.word : MismatchKind → String
  | offset => "offset"
  | size => "size"
  | totalSize => "total-size"

/-- A difference between a declared and a native layout. -/
structure Mismatch where
  owner : String
  field : String
  kind : MismatchKind
deriving DecidableEq, Repr

namespace Mismatch

/-- What stands for a field when the total size differs. -/
def totalSizeLabel : String := "(total size)"

/-- The mismatch of a total size. -/
def totalSize (owner : String) : Mismatch := ⟨owner, totalSizeLabel, .totalSize⟩

/-- A mismatch as a reader sees it. -/
def display (m : Mismatch) : String :=
  match m.kind with
  | .totalSize => s!"{m.owner}: total size differs"
  | kind => s!"{m.owner}.{m.field}: {kind.word} differs"

/-- The message of an assertion about the offset of a field. -/
def offsetMessage (owner field : String) : String :=
  owner ++ "." ++ field ++ " is not at expected offset"

/-- The message of an assertion about the size of a field. -/
def sizeMessage (owner field : String) : String :=
  owner ++ "." ++ field ++ " is not of expected size"

/-- The message of an assertion about the total size, given the native name. -/
def totalSizeMessage (native : String) : String := native ++ " does not have expected size"

end Mismatch

end NativeLayout
