/-
# Listing a catalog

The checks of a catalog, one to a line, with their headers in a column of their
own, and the structures that are left unchecked.
-/

import NativeLayout.Catalog.Basic
import NativeLayout.Text.Lines

namespace NativeLayout.CommandLine

/-- A row of a listing: the name of a structure and the headers that declare it. -/
structure ListRow where
  name : String
  headers : HeaderSet
deriving DecidableEq

/-- The rows of the listing of a catalog. -/
def listRows (c : Catalog) : List ListRow := c.checks.map fun check => ⟨check.name, check.headers⟩

/-- The width of the column of names: the most bytes that a name takes. -/
def nameWidth (rows : List ListRow) : Nat :=
  rows.foldl (fun width row => max width row.name.utf8ByteSize) 0

/-- A text with spaces after it up to a number of characters. -/
def padEnd (width : Nat) (s : String) : String :=
  s ++ String.ofList (List.replicate (width - s.length) ' ')

/-- A row as a line. -/
def ListRow.line (width : Nat) (row : ListRow) : String :=
  padEnd width row.name ++ "  " ++ row.headers.display

/-- The line about structures that are left unchecked, if there are any. -/
def uncheckedLines (c : Catalog) : List String :=
  if c.unchecked.isEmpty then []
  else ["", "Unchecked: " ++ String.intercalate ", " c.unchecked.toList]

/-- The listing of a catalog. -/
def listing (c : Catalog) : String :=
  let rows := listRows c
  Text.ofLines (rows.map (ListRow.line (nameWidth rows)) ++ uncheckedLines c)

end NativeLayout.CommandLine
