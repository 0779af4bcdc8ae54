/-
# Skip lists

Fields whose size is not compared although their offset is, because the native
type is known to differ in width. A skip list is a set of structure and field
names, listed by structure and then by field.
-/

import NativeLayout.OrderedSet

namespace NativeLayout

/-- The fields, each with its structure, whose size is not compared. -/
abbrev SkipList := OrderedSet (String × String) comparePairs

namespace SkipList

/-- A skip list with one more field. -/
def add (skip : SkipList) (owner field : String) : SkipList := skip.insert (owner, field)

/-- Whether the size of a field is left out. -/
def skips (skip : SkipList) (owner field : String) : Bool := decide ((owner, field) ∈ skip)

@[simp] theorem skips_add {skip : SkipList} {owner field s f : String} :
    (skip.add owner field).skips s f = (decide (s = owner ∧ f = field) || skip.skips s f) := by
  simp [skips, add]

end SkipList

end NativeLayout
