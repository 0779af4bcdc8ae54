/-
# JSON texts

The JSON values that reports are made of, and two texts of a value: a compact
one, and one in which each member stands on a line of its own, indented by two
spaces for each level. Control characters, the quote and the backslash are
escaped; every other character stands for itself.
-/

namespace NativeLayout

/-- A JSON value. Numbers are natural, and members keep their order. -/
inductive Json
  | null
  | bool (b : Bool)
  | number (n : Nat)
  | string (s : String)
  | array (items : List Json)
  | object (members : List (String × Json))

namespace Json

/-- One of the sixteen small hexadecimal digits. -/
def hexDigit (n : Nat) : Char := Char.ofNat (if n < 10 then 48 + n else 87 + n)

/-- One character as it stands in a JSON string. -/
def escapeChar (c : Char) : List Char :=
  if c = '"' then ['\\', '"']
  else if c = '\\' then ['\\', '\\']
  else if c = '\n' then ['\\', 'n']
  else if c = '\r' then ['\\', 'r']
  else if c = '\t' then ['\\', 't']
  else if c = '\x08' then ['\\', 'b']
  else if c = '\x0c' then ['\\', 'f']
  else if c.toNat < 0x20 then
    ['\\', 'u', '0', '0', hexDigit (c.toNat / 16), hexDigit (c.toNat % 16)]
  else [c]

/-- A JSON string. -/
def quote (s : String) : String := String.ofList ('"' :: (s.toList.flatMap escapeChar ++ ['"']))

/-- The compact text of a list of strings. -/
def compactStrings (items : List String) : String :=
  "[" ++ String.intercalate "," (items.map quote) ++ "]"

/-- A line break and the indentation of a level. -/
def newline (level : Nat) : String := "\n" ++ String.ofList (List.replicate (2 * level) ' ')

/-- Items between brackets, each on a line of its own; no items give no lines. -/
def block (opening closing : String) (level : Nat) (items : List String) : String :=
  if items.isEmpty then opening ++ closing
  else opening ++ newline (level + 1) ++
    String.intercalate ("," ++ newline (level + 1)) items ++ newline level ++ closing

mutual

/-- The indented text of a value that stands at a level. -/
def pretty (level : Nat) : Json → String
  | null => "null"
  | bool b => if b then "true" else "false"
  | number n => toString n
  | string s => quote s
  | array items => block "[" "]" level (prettyItems (level + 1) items)
  | object members => block "\x7b" "\x7d" level (prettyMembers (level + 1) members)

/-- The texts of the items of an array. -/
def prettyItems (level : Nat) : List Json → List String
  | [] => []
  | item :: rest => pretty level item :: prettyItems level rest

/-- The texts of the members of an object. -/
def prettyMembers (level : Nat) : List (String × Json) → List String
  | [] => []
  | (name, value) :: rest => (quote name ++ ": " ++ pretty level value) :: prettyMembers level rest

end

/-- The indented text of a value. -/
def text (value : Json) : String := pretty 0 value

example : text (object [("a", array []), ("b", array [number 1, string "x\x01"])]) =
    "\x7b\n  \"a\": [],\n  \"b\": [\n    1,\n    \"x\\u0001\"\n  ]\n\x7d" := by
  decide +kernel

end Json

end NativeLayout
