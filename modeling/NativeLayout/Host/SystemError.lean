/-
# Refusals of the system

Why a file could not be read or a program could not be started, and the words in
which the system says so.
-/

namespace NativeLayout

/-- Why the system refused something. -/
inductive SystemError
  /-- There is nothing at the path. -/
  | missing
  /-- There is something at the path that may not be started or read. -/
  | denied
  /-- The path leads through something that is no directory. -/
  | notDirectory
  /-- The path leads to a directory. -/
  | isDirectory
  | nameTooLong
  /-- The path has a null character in it. -/
  | nullInPath
  /-- An argument has a null character in it. -/
  | nullInArgument
  /-- Programs cannot be started here. -/
  | unsupported
deriving DecidableEq, Repr

/-- Whether the search for a program goes on in the next directory after a refusal: there is
nothing to start in this one. -/
def SystemError.leadsOn : SystemError → Bool
  | missing | denied | notDirectory => true
  | _ => false

/-- The words of the system. -/
def SystemError.message : SystemError → String
  | missing => "No such file or directory (os error 2)"
  | denied => "Permission denied (os error 13)"
  | notDirectory => "Not a directory (os error 20)"
  | isDirectory => "Is a directory (os error 21)"
  | nameTooLong => "File name too long (os error 36)"
  | nullInPath => "file name contained an unexpected NUL byte"
  | nullInArgument => "nul byte found in provided data"
  | unsupported => "Operation not supported (os error 95)"

end NativeLayout
