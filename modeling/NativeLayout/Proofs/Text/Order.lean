/-
# The order of texts

Texts are put in the order of their code points: the first character in which two of them
differ decides, and a text that begins another one stands before it. A text is kept as its
bytes in UTF-8, and comparing the bytes comes to the same, since UTF-8 writes a character as
the places of its number, after a first byte that grows with how many there are.

Nothing is said of other encodings; where characters are written in units of two bytes, the
order of the units is another one.
-/

import Mathlib.Data.String.Basic

namespace NativeLayout.Text

/-- The code points of a text. -/
def codePoints (text : String) : List Nat := text.toList.map Char.toNat

/-- The bytes of a text in UTF-8. -/
def bytes (text : String) : List UInt8 := text.toUTF8.data.toList

/-- If smaller characters are written smaller, whatever follows them, then texts compare as
what is written of them. -/
theorem flatMap_lt_flatMap_iff {β : Type} [LT β] [Std.Asymm fun a b : β => a < b]
    {write : Char → List β} (written : ∀ c, write c ≠ [])
    (inOrder : ∀ c d, c < d → ∀ rest others, write c ++ rest < write d ++ others)
    {first second : List Char} :
    first.flatMap write < second.flatMap write ↔ first < second := by
  have forward {first second : List Char} (before : first < second) :
      first.flatMap write < second.flatMap write := by
    induction first generalizing second with
    | nil =>
        cases second with
        | nil => exact absurd before (List.lt_irrefl [])
        | cons d others =>
            obtain ⟨unit, more, spelt⟩ := List.exists_cons_of_ne_nil (written d)
            rw [List.flatMap_cons, spelt]
            exact List.nil_lt_cons unit _
    | cons c rest ih =>
        cases second with
        | nil => exact absurd before (List.not_lt_nil _)
        | cons d others =>
            rw [List.flatMap_cons, List.flatMap_cons]
            rcases List.cons_lt_cons_iff.mp before with smaller | ⟨rfl, later⟩
            · exact inOrder c d smaller _ _
            · exact List.append_left_lt (ih later)
  -- two texts that are not in order are equal or in the other order
  refine ⟨fun before => ?_, forward⟩
  rcases lt_trichotomy first second with smaller | rfl | larger
  · exact smaller
  · exact absurd before (List.lt_irrefl _)
  · exact absurd (forward larger) (List.lt_asymm before)

/-- Texts compare as their code points. -/
theorem codePoints_lt_iff {first second : String} :
    codePoints first < codePoints second ↔ first < second := by
  rw [codePoints, codePoints, List.map_eq_flatMap, List.map_eq_flatMap, String.lt_iff]
  apply flatMap_lt_flatMap_iff (fun c => List.cons_ne_nil c.toNat [])
  intro c d smaller rest others
  have number : c.toNat < d.toNat := smaller
  exact List.cons_lt_cons_iff.mpr (.inl number)

namespace Utf8

/-- A number in one byte, with a mark that tells how many bytes follow. -/
def lead (mark size n : Nat) : List UInt8 := [UInt8.ofNat (n % size + mark)]

/-- A number with its last six bits in a byte of their own, behind the other ones. -/
def place (write : Nat → List UInt8) (n : Nat) : List UInt8 :=
  write (n / 64) ++ [UInt8.ofNat (n % 64 + 0x80)]

/-- The bytes of the character with a number. -/
def encode (n : Nat) : List UInt8 :=
  if n < 0x80 then lead 0 0x80 n
  else if n < 0x800 then place (lead 0xC0 0x20) n
  else if n < 0x10000 then place (place (lead 0xE0 0x10)) n
  else place (place (place (lead 0xF0 0x08))) n

theorem utf8EncodeChar_eq (c : Char) : String.utf8EncodeChar c = encode c.toNat := by
  show String.utf8EncodeChar c = encode c.val.toNat
  simp only [String.utf8EncodeChar, encode, place, lead, Nat.div_div_eq_div_mul,
    List.cons_append, List.nil_append, Nat.add_zero, ← Nat.lt_succ_iff]
  split
  · rename_i small
    rw [Nat.mod_eq_of_lt small]
  · rfl

/-- The numbers below a bound are written with first bytes in some range, and a smaller one
before a larger one, whatever follows them. -/
structure InOrder (bound low high : Nat) (write : Nat → List UInt8) : Prop where
  range : low ≤ high ∧ high ≤ 0x100
  first : ∀ n, n < bound → ∃ byte more, write n = UInt8.ofNat byte :: more ∧ low ≤ byte ∧ byte < high
  before : ∀ m n, m < n → n < bound → ∀ rest others, write m ++ rest < write n ++ others

theorem cons_lt_cons_of_lt {m n : Nat} {rest others : List UInt8} (smaller : m < n)
    (fits : n < 0x100) : UInt8.ofNat m :: rest < UInt8.ofNat n :: others := by
  have byte : UInt8.ofNat m < UInt8.ofNat n :=
    (UInt8.ofNat_lt_iff_lt (Nat.lt_trans smaller fits) fits).mpr smaller
  exact List.cons_lt_cons_iff.mpr (.inl byte)

theorem inOrder_lead (mark size : Nat) (fits : mark + size ≤ 0x100) :
    InOrder size mark (mark + size) (lead mark size) where
  range := ⟨Nat.le_add_right mark size, fits⟩
  first n bounded := by
    have byte : n % size + mark < mark + size := by
      rw [Nat.mod_eq_of_lt bounded]
      omega
    exact ⟨n % size + mark, [], rfl, Nat.le_add_left _ _, byte⟩
  before m n smaller bounded rest others := by
    rw [lead, lead, Nat.mod_eq_of_lt bounded, Nat.mod_eq_of_lt (Nat.lt_trans smaller bounded)]
    exact cons_lt_cons_of_lt (by omega) (by omega)

namespace InOrder

variable {bound middle low below above high : Nat} {write longer : Nat → List UInt8}

/-- One place more leaves numbers in order: the other places decide, or else the last one. -/
theorem place (inOrder : InOrder bound low high write) :
    InOrder (bound * 64) low high (place write) where
  range := inOrder.range
  first n bounded := by
    obtain ⟨byte, more, eq, range⟩ := inOrder.first (n / 64) (Nat.div_lt_of_lt_mul (by omega))
    refine ⟨byte, more ++ [UInt8.ofNat (n % 64 + 0x80)], ?_, range⟩
    rw [Utf8.place, eq, List.cons_append]
  before m n smaller bounded rest others := by
    have within : n / 64 < bound := Nat.div_lt_of_lt_mul (by omega)
    rw [Utf8.place, Utf8.place, List.append_assoc, List.append_assoc]
    rcases Nat.lt_or_eq_of_le (Nat.div_le_div_right smaller.le) with upper | same
    · exact inOrder.before (m / 64) (n / 64) upper within _ _
    · rw [same]
      exact List.append_left_lt (cons_lt_cons_of_lt (by omega) (by omega))

/-- Larger numbers may be written in a way of their own, with larger first bytes. -/
theorem orElse (short : InOrder middle low below write) (long : InOrder bound above high longer)
    (apart : below ≤ above) :
    InOrder bound low high fun n => if n < middle then write n else longer n where
  range := by
    have lower := short.range
    have upper := long.range
    omega
  first n bounded := by
    have lower := short.range
    have upper := long.range
    split
    · rename_i small
      obtain ⟨byte, more, eq, range⟩ := short.first n small
      exact ⟨byte, more, eq, range.1, by omega⟩
    · obtain ⟨byte, more, eq, range⟩ := long.first n bounded
      exact ⟨byte, more, eq, by omega, range.2⟩
  before m n smaller bounded rest others := by
    by_cases small : n < middle
    · rw [if_pos small, if_pos (smaller.trans small)]
      exact short.before m n smaller small rest others
    · rw [if_neg small]
      split
      · -- written in different ways, so that the first bytes decide
        rename_i less
        obtain ⟨byte, more, eq, _, lower⟩ := short.first m less
        obtain ⟨other, further, same, upper, top⟩ := long.first n bounded
        have fits : high ≤ 0x100 := long.range.2
        rw [eq, same]
        exact cons_lt_cons_of_lt (by omega) (by omega)
      · exact long.before m n smaller bounded rest others

end InOrder

theorem inOrder_encode : InOrder 0x200000 0 0xF8 encode := by
  have one : InOrder 0x80 0 0x80 (lead 0 0x80) := inOrder_lead 0 0x80 (by decide)
  have two : InOrder 0x800 0xC0 0xE0 (place (lead 0xC0 0x20)) :=
    (inOrder_lead 0xC0 0x20 (by decide)).place
  have three : InOrder 0x10000 0xE0 0xF0 (place (place (lead 0xE0 0x10))) :=
    (inOrder_lead 0xE0 0x10 (by decide)).place.place
  have four : InOrder 0x200000 0xF0 0xF8 (place (place (place (lead 0xF0 0x08)))) :=
    (inOrder_lead 0xF0 0x08 (by decide)).place.place.place
  exact one.orElse (two.orElse (three.orElse four (by decide)) (by decide)) (by decide)

theorem utf8EncodeChar_append_lt {c d : Char} (smaller : c < d) (rest others : List UInt8) :
    String.utf8EncodeChar c ++ rest < String.utf8EncodeChar d ++ others := by
  have number : c.toNat < d.toNat := smaller
  have bounded : d.toNat < 0x200000 := by
    have valid : d.toNat < 0xD800 ∨ 0xDFFF < d.toNat ∧ d.toNat < 0x110000 := d.valid
    omega
  rw [utf8EncodeChar_eq, utf8EncodeChar_eq]
  exact inOrder_encode.before c.toNat d.toNat number bounded rest others

end Utf8

/-- Texts compare as their bytes. -/
theorem bytes_lt_iff {first second : String} : bytes first < bytes second ↔ first < second := by
  have each (text : String) : bytes text = text.toList.flatMap String.utf8EncodeChar := by
    rw [bytes, String.toUTF8_eq_toByteArray, ← String.utf8Encode_toList]
    exact List.toList_data_toByteArray
  rw [each, each, String.lt_iff]
  exact flatMap_lt_flatMap_iff (fun _ => String.utf8EncodeChar_ne_nil)
    fun _ _ smaller => Utf8.utf8EncodeChar_append_lt smaller

example : bytes "é" = [0xC3, 0xA9] ∧ bytes "é" < bytes "😀" := by decide

end NativeLayout.Text
