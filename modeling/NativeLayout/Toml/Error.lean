/-
# What can be wrong with a TOML file

A text is either no TOML document at all, or a document that does not fit the
data model of the file.
-/

import NativeLayout.Toml.Decode
import NativeLayout.Toml.Document

namespace NativeLayout.Toml

/-- Why a text gives no data. -/
inductive Error
  | notToml
  | data (error : DataError)
deriving DecidableEq, Repr

/-- The text of the error at the end of a chain of messages. -/
def Error.message : Error → String
  | notToml => "TOML parse error"
  | data error => "TOML parse error: " ++ error.message

/-- The data that a text gives under a decoder of its top-level table. -/
def decodeText {α : Type} (decode : Table → Except DataError α) (text : String) : Except Error α :=
  match parse? text with
  | none => .error .notToml
  | some members => (decode members).mapError .data

end NativeLayout.Toml
