/-
# Searching a text

Left-to-right search for a pattern at some place of a text, and the substring
test as its simplest use. A pattern is any partial function on the text that
stands at a place; the first place where it is defined gives the answer.
-/

namespace NativeLayout.Text

/-- The answer of a pattern at the leftmost place, the end included, where it has one. -/
def leftmost {α : Type} (pattern : List Char → Option α) : List Char → Option α
  | [] => pattern []
  | c :: cs =>
    match pattern (c :: cs) with
    | some found => some found
    | none => leftmost pattern cs

/-- What follows `word` if the text starts with it. -/
def after? : List Char → List Char → Option (List Char)
  | [], s => some s
  | _ :: _, [] => none
  | w :: ws, c :: cs => if w = c then after? ws cs else none

/-- A text starts with `word` exactly if something, perhaps nothing, follows it. -/
theorem after?_eq_some_iff {word s rest : List Char} :
    after? word s = some rest ↔ s = word ++ rest := by
  induction word generalizing s with
  | nil => simp [after?, eq_comm]
  | cons w ws ih =>
    cases s with
    | nil => simp [after?]
    | cons c cs =>
      by_cases h : w = c
      · simp [after?, h, ih]
      · simp [after?, h, Ne.symm h]

/-- Whether `word` occurs in a text. -/
def occurs (word s : List Char) : Bool := (leftmost (after? word) s).isSome

/-- Whether one text occurs in another. -/
def contains (s word : String) : Bool := occurs word.toList s.toList

/-- The text with its ASCII capitals made small and all else kept. A word of small
ASCII letters without `k` equals a lower-cased text exactly if it equals this one,
because no other capital becomes a single such letter. -/
def lowered (s : String) : String := String.ofList (s.toList.map Char.toLower)

example : contains "x86_64-clang-18" "clang" = true := by decide +kernel
example : contains "" "" = true := by decide +kernel

end NativeLayout.Text
