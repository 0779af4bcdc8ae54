/-
# Reading bytes as UTF-8

Two readings of a byte sequence. The strict one has no answer unless every byte
belongs to a well-formed character. The lenient one always answers: each longest
beginning of a character that is not continued, and each byte that can begin
none, becomes one replacement character.
-/

namespace NativeLayout.Text.Utf8

/-- The character that stands for bytes which are not UTF-8. -/
def replacement : Char := '\uFFFD'

/-- A character of which some bytes are still to come: the bits read so far, the
range that the next byte must lie in, and how many bytes are missing. -/
structure Pending where
  bits : Nat
  low : Nat
  high : Nat
  missing : Nat

/-- What a byte at the start of a character gives: finished characters, and perhaps
a character that needs more bytes. The second byte is narrowed after four of the
leading bytes so that overlong forms, surrogates and numbers that are too large
cannot begin. -/
def begin (b : UInt8) : List Char × Option Pending :=
  let n := b.toNat
  if n < 0x80 then ([Char.ofNat n], none)
  else if n < 0xC2 then ([replacement], none)
  else if n < 0xE0 then ([], some ⟨n - 0xC0, 0x80, 0xBF, 1⟩)
  else if n == 0xE0 then ([], some ⟨0, 0xA0, 0xBF, 2⟩)
  else if n == 0xED then ([], some ⟨0xD, 0x80, 0x9F, 2⟩)
  else if n < 0xF0 then ([], some ⟨n - 0xE0, 0x80, 0xBF, 2⟩)
  else if n == 0xF0 then ([], some ⟨0, 0x90, 0xBF, 3⟩)
  else if n < 0xF4 then ([], some ⟨n - 0xF0, 0x80, 0xBF, 3⟩)
  else if n == 0xF4 then ([], some ⟨4, 0x80, 0x8F, 3⟩)
  else ([replacement], none)

/-- The characters of a byte sequence that continues a pending character. A byte
outside the expected range closes the pending one and begins anew. -/
def decodeFrom : Option Pending → List UInt8 → List Char
  | none, [] => []
  | some _, [] => [replacement]
  | none, b :: bs => (begin b).1 ++ decodeFrom (begin b).2 bs
  | some p, b :: bs =>
    if p.low ≤ b.toNat ∧ b.toNat ≤ p.high then
      let bits := p.bits * 64 + (b.toNat - 0x80)
      if p.missing ≤ 1 then Char.ofNat bits :: decodeFrom none bs
      else decodeFrom (some ⟨bits, 0x80, 0xBF, p.missing - 1⟩) bs
    else replacement :: ((begin b).1 ++ decodeFrom (begin b).2 bs)

/-- The text of some bytes, with replacement characters where they are not UTF-8. -/
def decodeLenient (bytes : ByteArray) : String := String.ofList (decodeFrom none bytes.toList)

/-- The text of some bytes, if all of them are UTF-8. -/
def decode? (bytes : ByteArray) : Option String := String.fromUTF8? bytes

example : decodeFrom none [0x61, 0xC3, 0xA9, 0xF0, 0x9F, 0x98, 0x80] = ['a', 'é', '😀'] := by decide
example : decodeFrom none [0xE2, 0x82, 0x41] = ['\uFFFD', 'A'] := by decide
example : decodeFrom none [0xED, 0xA0, 0x80] = ['\uFFFD', '\uFFFD', '\uFFFD'] := by decide

end NativeLayout.Text.Utf8
