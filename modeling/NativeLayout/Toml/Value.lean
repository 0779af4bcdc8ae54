/-
# TOML values

The values of a TOML document. Tables keep their members in document order. An
array written as a list and an array written as repeated tables are told apart,
because one message does so.
-/

import NativeLayout.Decimal.Binary64

namespace NativeLayout.Toml

/-- A day of the calendar. -/
structure Date where
  year : Nat
  month : Nat
  day : Nat
deriving DecidableEq, Repr

/-- A time of day. -/
structure TimeOfDay where
  hour : Nat
  minute : Nat
  second : Nat
  nanosecond : Nat
deriving DecidableEq, Repr

/-- A date, a time, or both, and perhaps an offset from universal time in minutes. The
offset is `none` for local times and `some none` for universal time itself. -/
structure Moment where
  date : Option Date
  time : Option TimeOfDay
  offset : Option (Option Int)
deriving DecidableEq, Repr

/-- A TOML value. -/
inductive Value
  | string (s : String)
  | integer (n : Int)
  | float (x : Decimal.Binary64)
  | boolean (b : Bool)
  | moment (m : Moment)
  | array (items : List Value)
  | tables (items : List Value)
  | table (members : List (String × Value))

/-- The members of a document or table. -/
abbrev Table := List (String × Value)

/-- A number with leading zeros up to a width. -/
def zeroPadded (width n : Nat) : String :=
  let digits := Nat.toDigits 10 n
  String.ofList (List.replicate (width - digits.length) '0' ++ digits)

/-- A time with as many decimals as it needs. -/
def TimeOfDay.display (t : TimeOfDay) : String :=
  let decimals := ((zeroPadded 9 t.nanosecond).toList.reverse.dropWhile (· == '0')).reverse
  zeroPadded 2 t.hour ++ ":" ++ zeroPadded 2 t.minute ++ ":" ++ zeroPadded 2 t.second ++
    (if decimals.isEmpty then "" else "." ++ String.ofList decimals)

namespace Moment

/-- An offset from universal time. -/
def offsetText : Option Int → String
  | none => "Z"
  | some minutes =>
    let size := minutes.natAbs
    (if minutes < 0 then "-" else "+") ++ zeroPadded 2 (size / 60) ++ ":" ++
      zeroPadded 2 (size % 60)

/-- A date or time in its standard form. -/
def display (m : Moment) : String :=
  let date := m.date.elim "" fun d =>
    zeroPadded 4 d.year ++ "-" ++ zeroPadded 2 d.month ++ "-" ++ zeroPadded 2 d.day
  let time := m.time.elim "" fun t => (if m.date.isSome then "T" else "") ++ t.display
  date ++ time ++ m.offset.elim "" offsetText

/-- The name of the one member of a date or time when it is read as a record. -/
def memberName : String := "$__toml_private_datetime"

end Moment

namespace Value

/-- The items of an array, however it is written. -/
def items? : Value → Option (List Value)
  | array items | tables items => some items
  | _ => none

/-- The members of a table. A date or time has one member, its standard form. -/
def members? : Value → Option Table
  | table members => some members
  | moment m => some [(Moment.memberName, string m.display)]
  | _ => none

end Value

end NativeLayout.Toml
