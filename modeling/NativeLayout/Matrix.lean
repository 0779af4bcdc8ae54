/-
# The conformance matrix

The checks of a catalog together with the descriptors they need. A check whose
structure gives no descriptor is left out here and reported as a gap there. A
selection keeps the order of the matrix and refuses names that are not in it.
-/

import NativeLayout.Catalog.Basic

namespace NativeLayout

/-- One structure to check. -/
structure MatrixEntry where
  headers : HeaderSet
  descriptor : Descriptor
deriving DecidableEq

/-- The name of the structure. -/
def MatrixEntry.name (entry : MatrixEntry) : String := entry.descriptor.name

/-- The structures to check, in order. -/
structure Matrix where
  entries : List MatrixEntry
deriving DecidableEq

namespace Matrix

/-- The matrix entry of a check, if its structure gives a descriptor. -/
def entryOf? (c : Catalog) (check : Check) : Option MatrixEntry :=
  match c.descriptor check.name with
  | .error _ => none
  | .ok descriptor => some ⟨check.headers, descriptor⟩

/-- The matrix of all checks of a catalog. -/
def ofCatalog (c : Catalog) : Matrix := ⟨c.checks.filterMap (entryOf? c)⟩

/-- The first entry of a name. -/
def entryNamed? (m : Matrix) (name : String) : Option MatrixEntry :=
  m.entries.find? (·.name = name)

/-- The entries whose name is among some names; no names mean all entries. The error
is the first name that no entry has. -/
def select (m : Matrix) (names : List String) : Except String Matrix :=
  if names.isEmpty then .ok m
  else match names.find? fun name => !m.entries.any (·.name = name) with
    | some missing => .error missing
    | none => .ok ⟨m.entries.filter fun entry => names.contains entry.name⟩

end Matrix

/-- The measured size of a structure beside its declared one. -/
structure SizeCheck where
  name : String
  measured : Nat
  declared : Option Nat
deriving DecidableEq, Repr

namespace SizeCheck

/-- Whether there is a declared size and it is the measured one. -/
def passed (check : SizeCheck) : Bool := check.declared == some check.measured

/-- What is wrong, if anything. -/
def message? (check : SizeCheck) : Option String :=
  match check.declared with
  | none => some s!"`{check.name}` has no entry in the declared-size table"
  | some declared =>
    if declared = check.measured then none
    else some
      s!"`{check.name}` is declared as {declared} bytes but measures {check.measured} bytes"

/-- There is a message exactly if the check fails. -/
theorem message?_isSome (check : SizeCheck) : check.message?.isSome = !check.passed := by
  obtain ⟨name, measured, declared⟩ := check
  cases declared with
  | none => rfl
  | some d => by_cases h : d = measured <;> simp [message?, passed, h]

end SizeCheck

/-- The size checks of the entries of a matrix. -/
def Matrix.sizeChecks (m : Matrix) : List SizeCheck :=
  m.entries.map fun entry =>
    ⟨entry.name, entry.descriptor.size, entry.descriptor.declaredSize⟩

end NativeLayout
