/-
# Paths

A path is a text of components between slashes. Empty components and single dots
mean nothing, except for a dot at the beginning of a relative path.
-/

namespace NativeLayout.Path

/-- The texts between slashes. -/
def pieces : List Char → List (List Char)
  | [] => [[]]
  | c :: cs =>
    match pieces cs with
    | [] => [[c]]
    | piece :: rest => if c = '/' then [] :: piece :: rest else (c :: piece) :: rest

/-- The pieces that mean something, after the first piece of a path. -/
def meaningful (pieces : List (List Char)) : List (List Char) :=
  pieces.filter fun piece => piece != [] && piece != ['.']

/-- The components of a path, the root counting as one. -/
def components (path : String) : List String :=
  (match pieces path.toList with
  | [] => []
  | [] :: rest => if rest.isEmpty then [] else ['/'] :: meaningful rest
  | first :: rest => first :: meaningful rest).map String.ofList

/-- Whether a path begins at the root. -/
def isAbsolute (path : String) : Bool := path.toList.head? == some '/'

/-- The last component of a path, unless that is the root or a dot or two. -/
def fileName? (path : String) : Option String :=
  match (components path).getLast? with
  | some "/" | some "." | some ".." | none => none
  | some name => some name

/-- A path seen from a directory. -/
def join (directory path : String) : String :=
  if isAbsolute path || directory.isEmpty then path
  else if directory.toList.getLast? == some '/' then directory ++ path
  else directory ++ "/" ++ path

/-- A path made absolute: one that is not is seen from a directory, component by component. -/
def absolute (directory path : String) : String :=
  if isAbsolute path then path
  else ((components path).dropWhile (· == ".")).foldl join directory

example : components "./a//b/./c/" = [".", "a", "b", "c"] := by decide +kernel
example : components "/a/." = ["/", "a"] ∧ components "" = [] := by decide +kernel
example : absolute "/w" "./a//./../b/" = "/w/a/../b" := by decide +kernel
example : absolute "/w" "" = "/w" ∧ absolute "/w" "/a/./b" = "/a/./b" := by decide +kernel
example : fileName? "/usr/bin/gcc/" = some "gcc" ∧ fileName? ".." = none := by decide +kernel

end NativeLayout.Path
