/-
# Layouts by the rules of C

The layout that a structure, a union or an alias has by the rules of C: members
lie in order, each at the next multiple of its alignment, and the whole is filled
up to a multiple of the largest alignment. Packing takes the gaps out; an
alignment can be raised. A binding is such a layout under the encoded names of its
members.
-/

import NativeLayout.Catalog.Basic

namespace NativeLayout

/-- What the layout of a member needs of its type. -/
structure NativeType where
  name : String
  size : Nat
  align : Nat
deriving DecidableEq, Repr

namespace NativeType

/-- A number of so many bytes, aligned to its size. -/
def number (name : String) (size : Nat) : NativeType := ⟨name, size, size⟩

/-- The least multiple of an alignment that is not below an offset. -/
def roundUp (offset align : Nat) : Nat := (offset + (align - 1)) / align * align

/-- A multiple of an alignment stays where it is. -/
theorem roundUp_mul {align : Nat} (h : 0 < align) (n : Nat) :
    roundUp (n * align) align = n * align := by
  have : (n * align + (align - 1)) / align = n := by
    rw [Nat.add_comm, Nat.add_mul_div_right _ _ h, Nat.div_eq_of_lt (by omega), Nat.zero_add]
  rw [roundUp, this]

end NativeType

/-- A member of a structure or union. -/
structure NativeMember where
  name : String
  type : NativeType
  count : Nat := 1
  isPublic : Bool := true
deriving DecidableEq, Repr

namespace NativeMember

/-- A public member. -/
def field (name : String) (type : NativeType) : NativeMember := { name, type }

/-- A public array. -/
def arrayField (name : String) (type : NativeType) (count : Nat) : NativeMember :=
  { name, type, count }

/-- A member that is not part of the contract. -/
def hidden (name : String) (type : NativeType) (count : Nat) : NativeMember :=
  { name, type, count, isPublic := false }

/-- The member as a producer lists it. -/
def raw (m : NativeMember) (offset : Nat) : RawField where
  name := FieldName.encode m.name m.isPublic
  offset
  element := ⟨m.type.name, m.type.size⟩
  count := m.count

/-- The width of the member in bytes. -/
def width (m : NativeMember) : Nat := m.type.size * m.count

end NativeMember

/-- A definition together with the alignment that its use as a member needs. -/
structure Binding where
  definition : Definition
  align : Nat
deriving DecidableEq, Repr

namespace Binding

/-- The binding as the type of a member. -/
def type (b : Binding) : NativeType := ⟨b.definition.name, b.definition.size, b.align⟩

/-- The fields of members laid one after the other from an offset on, and where they end. -/
def place : Nat → List NativeMember → List RawField × Nat
  | offset, [] => ([], offset)
  | offset, m :: rest =>
    let start := NativeType.roundUp offset m.type.align
    let (fields, stop) := place (start + m.width) rest
    (m.raw start :: fields, stop)

/-- The largest alignment of some members, at least the given one. -/
def alignment (least : Nat) (members : List NativeMember) : Nat :=
  members.foldl (fun align m => max align m.type.align) least

/-- A structure aligned to at least the given number of bytes. -/
def aligned (least : Nat) (name : String) (members : List NativeMember) : Binding :=
  let align := alignment least members
  let (fields, stop) := place 0 members
  { definition := { name, fields, size := NativeType.roundUp stop align }, align }

/-- A structure. -/
def struct (name : String) (members : List NativeMember) : Binding := aligned 1 name members

/-- A structure without gaps. -/
def packed (name : String) (members : List NativeMember) : Binding :=
  struct name (members.map fun m => { m with type := { m.type with align := 1 } })

/-- A union: every member begins where the union begins. -/
def union (name : String) (members : List NativeMember) : Binding :=
  let align := alignment 1 members
  let widest := members.foldl (fun size m => max size m.width) 0
  { definition :=
      { name, kind := .union, fields := members.map (·.raw 0)
        size := NativeType.roundUp widest align }
    align }

/-- An alias of a number. -/
def scalar (name : String) (type : NativeType) : Binding :=
  { definition :=
      { name, kind := .scalar, fields := [⟨"0", 0, ⟨type.name, type.size⟩, 1⟩]
        size := type.size }
    align := type.align }

end Binding

end NativeLayout
