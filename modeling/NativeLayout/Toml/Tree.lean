/-
# Growing a TOML document

Statements add to a tree of tables, and how a table came to be decides what may
be added to it. A table that only the path of a header or a dotted key implies
can still be completed in the same way; one that has been written out is closed
to headers, and one that was given as a value is closed altogether. No name is
ever given two values.
-/

import NativeLayout.Toml.Value

namespace NativeLayout.Toml

/-- How a table came to be. -/
inductive TableOrigin
  /-- By a header of its own. -/
  | header
  /-- By the path of another header. -/
  | implied
  /-- By the path of a dotted key. -/
  | dotted
deriving DecidableEq, Repr

/-- A node of a document that is still growing. -/
inductive Node
  | value (v : Value)
  | table (origin : TableOrigin) (members : List (String × Node))
  /-- Repeated tables; only the last can grow. -/
  | tables (items : List Node)

/-- The members of a growing table. -/
abbrev Members := List (String × Node)

namespace Members

/-- The members with one of them changed in place, or a new one at the end. -/
def update (key : String) (change : Option Node → Option Node) : Members → Option Members
  | [] => (change none).map fun node => [(key, node)]
  | (k, node) :: rest =>
    if k = key then (change (some node)).map fun changed => (k, changed) :: rest
    else (update key change rest).map ((k, node) :: ·)

/-- The node of a name. -/
def get? (members : Members) (key : String) : Option Node :=
  (members.find? (·.1 = key)).map Prod.snd

/-- The last of some repeated tables changed. -/
def updateLast (change : Node → Option Node) : List Node → Option (List Node)
  | [] => none
  | [last] => (change last).map ([·])
  | node :: rest => (updateLast change rest).map (node :: ·)

/-- The members with a value under a dotted key. Every table on the way that a header
wrote out is closed, and the table that receives the value must come from dotted
keys alone, unless it is the one that the key is written in. -/
def addPair (value : Value) (key : String) : List String → Members → Option Members
  | [], members =>
    if (get? members key).isSome then none else some (members ++ [(key, .value value)])
  | part :: path, members =>
    let inner (origin : TableOrigin) (found : Members) : Option Node :=
      if path.isEmpty && origin != .dotted then none
      else (addPair value key path found).map (.table origin)
    update part (fun found =>
      match found with
      | none => inner .dotted []
      | some (.value _) => none
      | some (.table .header _) => none
      | some (.table origin found) => inner origin found
      | some (.tables items) =>
        (updateLast (fun last =>
          match last with
          | .table origin found => inner origin found
          | _ => none) items).map .tables) members

/-- The members with a change made in the table that the path of a header leads to. -/
def within (change : Members → Option Members) : List String → Members → Option Members
  | [], members => change members
  | part :: path, members =>
    update part (fun found =>
      match found with
      | none => (within change path []).map (.table .implied)
      | some (.value _) => none
      | some (.table origin found) => (within change path found).map (.table origin)
      | some (.tables items) =>
        (updateLast (fun last =>
          match last with
          | .table origin found => (within change path found).map (.table origin)
          | _ => none) items).map .tables) members

/-- The members without one of them. -/
def remove (key : String) (members : Members) : Members := members.filter (·.1 ≠ key)

/-- The members with a table written out by a header. A table that so far was only implied
keeps what it has and moves to the end. -/
def addTable (key : String) (fill : Members → Option Members) (members : Members) :
    Option Members :=
  match get? members key with
  | none => (fill []).map fun filled => members ++ [(key, .table .header filled)]
  | some (.table .implied found) =>
    (fill found).map fun filled => remove key members ++ [(key, .table .header filled)]
  | some _ => none

/-- The members with one more of some repeated tables. -/
def addRepeated (key : String) (fill : Members → Option Members) (members : Members) :
    Option Members :=
  update key (fun found =>
    match found with
    | none => (fill []).map fun filled => .tables [.table .header filled]
    | some (.tables items) =>
      (fill []).map fun filled => .tables (items ++ [.table .header filled])
    | some _ => none) members

end Members

mutual

/-- The value that a node has grown to. -/
def Node.toValue : Node → Value
  | .value v => v
  | .table _ members => .table (Node.toTable members)
  | .tables items => .tables (Node.toValues items)

/-- The table that members have grown to. -/
def Node.toTable : List (String × Node) → List (String × Value)
  | [] => []
  | (key, node) :: rest => (key, node.toValue) :: Node.toTable rest

/-- The values that nodes have grown to. -/
def Node.toValues : List Node → List Value
  | [] => []
  | node :: rest => node.toValue :: Node.toValues rest

end

/-- A value under a dotted key: the last name and those before it. -/
structure Pair where
  path : List String
  key : String
  value : Value

/-- The members with some pairs added in order. -/
def Members.addPairs (members : Members) (pairs : List Pair) : Option Members :=
  pairs.foldlM (fun grown pair => grown.addPair pair.value pair.key pair.path) members

/-- The table that pairs between braces make. -/
def tableOfPairs (pairs : List Pair) : Option Table :=
  (Members.addPairs [] pairs).map Node.toTable

end NativeLayout.Toml
