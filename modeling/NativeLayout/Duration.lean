/-
# Durations

A length of time in whole nanoseconds, and its text with two decimals of the
largest unit that fits. Rounding is to the nearest hundredth, a tie going to the
even one; it can carry into the whole part but never into a larger unit.
-/

import NativeLayout.Decimal.Rounding

namespace NativeLayout

/-- A length of time. -/
structure Duration where
  nanoseconds : Nat
deriving DecidableEq, Repr

namespace Duration

/-- No time at all. -/
def zero : Duration := ⟨0⟩

/-- A number of seconds and of nanoseconds. -/
def ofParts (seconds nanoseconds : Nat) : Duration := ⟨seconds * 1000000000 + nanoseconds⟩

/-- The largest unit of which there is at least one, with its length and sign. -/
def unit (d : Duration) : Nat × String :=
  if 1000000000 ≤ d.nanoseconds then (1000000000, "s")
  else if 1000000 ≤ d.nanoseconds then (1000000, "ms")
  else if 1000 ≤ d.nanoseconds then (1000, "µs")
  else (1, "ns")

/-- Two decimals. -/
def hundredths (n : Nat) : String :=
  let cents := n % 100
  toString (n / 100) ++ "." ++ (if cents < 10 then "0" else "") ++ toString cents

/-- A duration as a reader sees it. -/
def display (d : Duration) : String :=
  let (length, sign) := d.unit
  hundredths (Decimal.nearest (d.nanoseconds * 100) length) ++ sign

/-- Whole milliseconds, as a 64-bit word. -/
def milliseconds (d : Duration) : Nat := d.nanoseconds / 1000000 % 18446744073709551616

example : (ofParts 1 234567890).display = "1.23s" := by decide +kernel
example : (⟨999999999⟩ : Duration).display = "1000.00ms" := by decide +kernel
example : (⟨1505⟩ : Duration).display = "1.50µs" := by decide +kernel

end Duration

end NativeLayout
