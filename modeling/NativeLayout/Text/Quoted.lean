/-
# Texts quoted for a reader

The form in which a message shows a text: between double quotes, with an escape
for the quote, the backslash, the common controls and every character that does
not show by itself.
-/

import NativeLayout.Text.Visible

namespace NativeLayout.Text

/-- The small hexadecimal digits of a number, without leading zeros. -/
def hexDigits (n : Nat) : List Char := Nat.toDigits 16 n

/-- One character as it stands between the quotes. -/
def quoteChar (c : Char) : List Char :=
  if c = '"' then ['\\', '"']
  else if c = '\\' then ['\\', '\\']
  else if c = '\n' then ['\\', 'n']
  else if c = '\r' then ['\\', 'r']
  else if c = '\t' then ['\\', 't']
  else if c = '\x00' then ['\\', '0']
  else if isVisible c then [c]
  else ['\\', 'u', '\x7b'] ++ hexDigits c.toNat ++ ['\x7d']

/-- A text between double quotes. -/
def quoted (s : String) : String :=
  String.ofList ('"' :: (s.toList.flatMap quoteChar ++ ['"']))

example : quoted "a\"\\\n\x01é" = "\"a\\\"\\\\\\n\\u\x7b1\x7dé\"" := by decide +kernel

end NativeLayout.Text
