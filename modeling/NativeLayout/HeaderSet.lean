/-
# Header sets

The headers that a compile includes, in order and without repetition. The order
matters, because a header may rely on an earlier one; a repeated include adds
nothing, so a header keeps the place of its first occurrence.
-/

namespace NativeLayout

/-- A sequence of headers to include, none of them twice. -/
structure HeaderSet where
  toList : List String
  nodup : toList.Nodup
deriving DecidableEq

namespace HeaderSet

/-- The set that includes nothing. -/
def empty : HeaderSet := ⟨[], .nil⟩

instance : EmptyCollection HeaderSet := ⟨empty⟩
instance : Inhabited HeaderSet := ⟨empty⟩

/-- Two sets are equal exactly if they include the same sequence. -/
@[ext] theorem ext {s t : HeaderSet} (h : s.toList = t.toList) : s = t := by
  cases s; cases t; cases h; rfl

/-- A set with one more header at its end, unless it has that header already. -/
def push (s : HeaderSet) (header : String) : HeaderSet :=
  if h : header ∈ s.toList then s
  else ⟨s.toList ++ [header], List.nodup_append.mpr
    ⟨s.nodup, by simp, fun a ha b hb e => h (List.mem_singleton.mp hb ▸ e ▸ ha)⟩⟩

/-- A set with the headers of a list pushed one after the other. -/
def pushMany (s : HeaderSet) (headers : List String) : HeaderSet := headers.foldl push s

/-- The set of the headers of a list, each at its first place. -/
def ofList (headers : List String) : HeaderSet := empty.pushMany headers

/-- The set of one header. -/
def singleton (header : String) : HeaderSet := ofList [header]

/-- How many headers a set includes. -/
def size (s : HeaderSet) : Nat := s.toList.length

/-- Whether a set includes nothing. -/
def isEmpty (s : HeaderSet) : Bool := s.toList.isEmpty

/-- The headers between commas, as a reader sees them. -/
def display (s : HeaderSet) : String := String.intercalate ", " s.toList

end HeaderSet

end NativeLayout
