/-
# TOML numbers, truth values, dates and times

Whatever is written without quotes or brackets. An underscore may stand between
two digits; a decimal integer has no leading zero and lies within 64 bits; a day
must exist in its month.
-/

import NativeLayout.Toml.Reader
import NativeLayout.Toml.Text
import NativeLayout.Toml.Value

namespace NativeLayout.Toml

open Reader

/-- The digits that follow a digit, each perhaps after an underscore. -/
def moreDigits (ok : Char → Bool) : List Char → List Char × List Char
  | [] => ([], [])
  | [c] => if ok c then ([c], []) else ([], [c])
  | c :: d :: rest =>
    if ok c then
      let (digits, rest) := moreDigits ok (d :: rest)
      (c :: digits, rest)
    else if c = '_' ∧ ok d then
      let (digits, rest) := moreDigits ok rest
      (d :: digits, rest)
    else ([], c :: d :: rest)

/-- Digits of a class, at least one. -/
def digits (ok : Char → Bool) : Reader (List Char)
  | c :: rest =>
    if ok c then
      let (more, rest) := moreDigits ok rest
      some (c :: more, rest)
    else none
  | [] => none

/-- The number that digits in a base stand for. -/
def numberOf (base : Nat) (written : List Char) : Nat :=
  written.foldl (fun n c => base * n + (hexValue? c).getD 0) 0

/-- A sign; without one, plus. -/
def sign : List Char → Bool × List Char
  | '-' :: rest => (true, rest)
  | '+' :: rest => (false, rest)
  | s => (false, s)

/-- A decimal integer without leading zeros: its sign and its digits. -/
def decimal : Reader (Bool × List Char) := fun s =>
  let (negative, rest) := sign s
  match rest with
  | '0' :: rest => some ((negative, ['0']), rest)
  | rest => (digits Char.isDigit rest).map fun (written, rest) => ((negative, written), rest)

/-- An integer, if it fits into 64 bits. -/
def ranged (n : Int) (rest : List Char) : Option (Int × List Char) :=
  if -9223372036854775808 ≤ n ∧ n ≤ 9223372036854775807 then some (n, rest) else none

/-- An integer in one of the four bases. -/
def integer : Reader Int
  | '0' :: 'x' :: rest =>
    (digits (fun c => (hexValue? c).isSome) rest).bind fun (written, rest) =>
      ranged (numberOf 16 written) rest
  | '0' :: 'o' :: rest =>
    (digits (fun c => '0' ≤ c && c ≤ '7') rest).bind fun (written, rest) =>
      ranged (numberOf 8 written) rest
  | '0' :: 'b' :: rest =>
    (digits (fun c => c == '0' || c == '1') rest).bind fun (written, rest) =>
      ranged (numberOf 2 written) rest
  | s =>
    (decimal s).bind fun ((negative, written), rest) =>
      let n : Int := numberOf 10 written
      ranged (if negative then -n else n) rest

/-- The decimals after a point. -/
def fraction : Reader (List Char)
  | '.' :: rest => digits Char.isDigit rest
  | _ => none

/-- A power of ten. -/
def power : Reader Int
  | c :: rest =>
    if c = 'e' ∨ c = 'E' then
      let (negative, rest) := sign rest
      (digits Char.isDigit rest).map fun (written, rest) =>
        let n : Int := numberOf 10 written
        (if negative then -n else n, rest)
    else none
  | [] => none

/-- A number with a point or a power of ten. One too large for its type is refused if it is
positive. -/
def pointed : Reader Decimal.Binary64 := fun s =>
  (decimal s).bind fun ((negative, whole), rest) =>
    let parts : Option (List Char × Int × List Char) :=
      match fraction rest with
      | some (decimals, rest) =>
        match power rest with
        | some (exponent, rest) => some (decimals, exponent, rest)
        | none => some (decimals, 0, rest)
      | none => (power rest).map fun (exponent, rest) => ([], exponent, rest)
    parts.bind fun (decimals, exponent, rest) =>
      let x := Decimal.Binary64.ofDecimal negative (numberOf 10 (whole ++ decimals))
        (exponent - Int.ofNat decimals.length)
      if x = .infinite false then none else some (x, rest)

/-- A number of any kind, also infinity and what is no number. -/
def float : Reader Decimal.Binary64 := fun s =>
  (pointed s).or <|
    let (negative, rest) := sign s
    ((word ['i', 'n', 'f'] rest).map (.infinite negative, ·)).or
      ((word ['n', 'a', 'n'] rest).map (.notANumber, ·))

/-- A truth value. -/
def boolean : Reader Bool := fun s =>
  ((word ['t', 'r', 'u', 'e'] s).map (true, ·)).or
    ((word ['f', 'a', 'l', 's', 'e'] s).map (false, ·))

/-- A number of exactly so many digits within bounds. -/
def fixed (width low high : Nat) : Reader Nat := fun s =>
  let written := s.take width
  let n := numberOf 10 written
  if written.length = width ∧ written.all Char.isDigit ∧ low ≤ n ∧ n ≤ high then
    some (n, s.drop width)
  else none

/-- How many days a month has. -/
def daysIn (year month : Nat) : Nat :=
  if month = 2 then
    if year % 4 = 0 ∧ (year % 100 ≠ 0 ∨ year % 400 = 0) then 29 else 28
  else if month = 4 ∨ month = 6 ∨ month = 9 ∨ month = 11 then 30
  else 31

/-- A date. -/
def date : Reader Date := fun s => do
  let (year, s) ← fixed 4 0 9999 s
  let s ← char '-' s
  let (month, s) ← fixed 2 1 12 s
  let s ← char '-' s
  let (day, s) ← fixed 2 1 31 s
  if day ≤ daysIn year month then some (⟨year, month, day⟩, s) else none

/-- The nanoseconds after a decimal point; digits beyond the ninth are dropped. -/
def decimals : Reader Nat
  | '.' :: rest =>
    match rest.takeWhile Char.isDigit with
    | [] => none
    | written =>
      let kept := written.take 9
      some (numberOf 10 kept * Nat.pow 10 (9 - kept.length), rest.dropWhile Char.isDigit)
  | _ => none

/-- A time of day. -/
def time : Reader TimeOfDay := fun s => do
  let (hour, s) ← fixed 2 0 23 s
  let s ← char ':' s
  let (minute, s) ← fixed 2 0 59 s
  let s ← char ':' s
  let (second, s) ← fixed 2 0 60 s
  match decimals s with
  | some (nanosecond, s) => some (⟨hour, minute, second, nanosecond⟩, s)
  | none => some (⟨hour, minute, second, 0⟩, s)

/-- An offset from universal time. -/
def offset : Reader (Option Int)
  | [] => none
  | c :: s =>
    if c = 'Z' ∨ c = 'z' then some (none, s)
    else if c = '+' ∨ c = '-' then do
      let (hour, s) ← fixed 2 0 23 s
      let s ← char ':' s
      let (minute, s) ← fixed 2 0 59 s
      let minutes : Int := Int.ofNat (60 * hour + minute)
      some (some (if c = '-' then -minutes else minutes), s)
    else none

/-- The time after a date, if there is one, with its offset. -/
def timeAfterDate : Reader (TimeOfDay × Option (Option Int))
  | [] => none
  | c :: s =>
    if c = 'T' ∨ c = 't' ∨ c = ' ' then
      (time s).map fun (t, s) =>
        match offset s with
        | some (o, s) => ((t, some o), s)
        | none => ((t, none), s)
    else none

/-- A date, a time, or both. -/
def moment : Reader Moment := fun s =>
  match date s with
  | some (d, s) =>
    match timeAfterDate s with
    | some ((t, o), s) => some (⟨some d, some t, o⟩, s)
    | none => some (⟨some d, none, none⟩, s)
  | none => (time s).map fun (t, s) => (⟨none, some t, none⟩, s)

/-- Whatever is written without brackets. -/
def scalar : Reader Value := fun s =>
  ((anyString s).map fun (x, r) => (.string x, r)).or <|
  ((moment s).map fun (x, r) => (.moment x, r)).or <|
  ((float s).map fun (x, r) => (.float x, r)).or <|
  ((integer s).map fun (x, r) => (.integer x, r)).or <|
  (boolean s).map fun (x, r) => (.boolean x, r)

end NativeLayout.Toml
