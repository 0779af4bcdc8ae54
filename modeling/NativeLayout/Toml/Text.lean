/-
# TOML strings

The four ways to write a string: with escapes or literally, on one line or on
several. In a string of several lines a line break directly after the opening is
dropped, a break is always a single line feed, a backslash at the end of a line
joins it to the next word, and one or two quotes may stand anywhere, also directly
before the closing ones.
-/

import NativeLayout.Toml.Reader

namespace NativeLayout.Toml

open Reader

/-- The value of a hexadecimal digit. -/
def hexValue? (c : Char) : Option Nat :=
  if '0' ≤ c ∧ c ≤ '9' then some (c.toNat - 48)
  else if 'a' ≤ c ∧ c ≤ 'f' then some (c.toNat - 87)
  else if 'A' ≤ c ∧ c ≤ 'F' then some (c.toNat - 55)
  else none

/-- The character of a number, which must not be a surrogate or too large. -/
def charOfCode? (n : Nat) : Option Char := if n.isValidChar then some (Char.ofNat n) else none

/-- The character with a code of so many hexadecimal digits. -/
def codeEscape (digits : Nat) : Reader Char := fun s =>
  let code := (s.take digits).foldl
    (fun acc c => acc.bind fun n => (hexValue? c).map (16 * n + ·)) (some 0)
  if (s.take digits).length = digits then
    (code.bind charOfCode?).map (·, s.drop digits)
  else none

/-- The character that an escape after the backslash stands for. -/
def escape : Reader Char
  | 'b' :: rest => some ('\x08', rest)
  | 't' :: rest => some ('\t', rest)
  | 'n' :: rest => some ('\n', rest)
  | 'f' :: rest => some ('\x0c', rest)
  | 'r' :: rest => some ('\r', rest)
  | '"' :: rest => some ('"', rest)
  | '\\' :: rest => some ('\\', rest)
  | 'u' :: rest => codeEscape 4 rest
  | 'U' :: rest => codeEscape 8 rest
  | _ => none

/-- One character of a string with escapes. -/
def basicChar : Reader Char
  | '\\' :: rest => escape rest
  | s => charOf (fun c => isPlain c && c != '"') s

/-- A string with escapes on one line. -/
def basicString : Reader String
  | '"' :: rest =>
    let (chars, rest) := many basicChar rest
    (char '"' rest).map (String.ofList chars, ·)
  | _ => none

/-- A literal string on one line. -/
def literalString : Reader String
  | '\'' :: rest =>
    let (chars, rest) := many (charOf fun c => isPlain c && c != '\'') rest
    (char '\'' rest).map (String.ofList chars, ·)
  | _ => none

/-- One or two quotes that do not close a string of several lines. -/
def looseQuotes (quote : Char) : Reader (List Char) := fun s =>
  let quotes := s.takeWhile (· == quote)
  if quotes.length = 1 ∨ quotes.length = 2 then some (quotes, s.drop quotes.length) else none

/-- A line break in a string. -/
def breakPiece : Reader (List Char) := fun s => (newline? s).map (['\n'], ·)

/-- A backslash at the end of a line, and all breaks and spaces after it. -/
def joinedLines : Reader (List Char)
  | '\\' :: rest =>
    (newline? (skipSpaces rest)).map fun rest =>
      ([], (many (fun s => match s with
        | ' ' :: r | '\t' :: r => some ((), r)
        | _ => (newline? s).map ((), ·)) rest).2)
  | _ => none

/-- A piece of a string of several lines with escapes. -/
def basicPiece : Reader (List Char) := fun s =>
  (joinedLines s).or <| (breakPiece s).or <| (looseQuotes '"' s).or <|
    (basicChar s).map fun (c, rest) => ([c], rest)

/-- A piece of a literal string of several lines. -/
def literalPiece : Reader (List Char) := fun s =>
  (breakPiece s).or <| (looseQuotes '\'' s).or <|
    (charOf (fun c => isPlain c && c != '\'') s).map fun (c, rest) => ([c], rest)

/-- The pieces of a string of several lines after its opening, up to and with its closing.
Of at most five quotes at the end the last three close it. -/
def multiline (quote : Char) (piece : Reader (List Char)) : Reader String := fun s =>
  let (pieces, rest) := many piece ((newline? s).getD s)
  let quotes := rest.takeWhile (· == quote)
  if 3 ≤ quotes.length ∧ quotes.length ≤ 5 then
    some (String.ofList (pieces.flatten ++ quotes.drop 3), rest.drop quotes.length)
  else none

/-- A string in any of its forms. -/
def anyString : Reader String
  | '"' :: '"' :: '"' :: rest => multiline '"' basicPiece rest
  | '\'' :: '\'' :: '\'' :: rest => multiline '\'' literalPiece rest
  | s => (basicString s).or (literalString s)

end NativeLayout.Toml
