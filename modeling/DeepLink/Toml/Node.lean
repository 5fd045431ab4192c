/-! # Documents as trees

A TOML document is a table of nodes. Each table remembers how it came to be, because that decides
whether later lines may extend it. -/

namespace DeepLink.Toml

/-- A value without parts. Numbers with a fraction, and moments in time, keep their spelling. -/
inductive Scalar where
  | text (value : String)
  | integer (value : Int)
  | float (spelling : String)
  | boolean (value : Bool)
  | moment (spelling : String)
  deriving DecidableEq, Repr

/-- How a table came to be. -/
inductive Origin where
  /-- Written between braces; it is closed. -/
  | inline
  /-- Made by the dots of a key. -/
  | dotted
  /-- Made by a header that names a table inside it. -/
  | implied
  /-- Named by a header of its own. -/
  | header
  deriving DecidableEq, Repr

/-- A node of a document. -/
inductive Node where
  | scalar (value : Scalar)
  | array (items : List Node)
  /-- Tables that share a header in double brackets. -/
  | tables (items : List Node)
  | table (origin : Origin) (members : List (String × Node))

namespace Node

/-- Replaces the node of a key that is there. -/
def replaceMember (members : List (String × Node)) (key : String) (node : Node) :
    List (String × Node) :=
  members.map fun (k, n) => if k = key then (k, node) else (k, n)

/-- The empty table of an origin. -/
def emptyTable (origin : Origin) : Node := .table origin []

/-- Whether a path may lead through a table. Keys with dots lead only through tables that came from
dots or were implied; headers through every table that is not closed. -/
def leadsThrough (byDots : Bool) : Origin → Bool
  | .inline => false
  | .header => !byDots
  | .dotted | .implied => true

/-- Changes the node at the end of a path. Missing tables are made on the way; among tables that
share a header the path takes the last one. -/
def update? (byDots : Bool) (change : Node → Option Node) : List String → Node → Option Node
  | [], node => change node
  | key :: path, .table origin members =>
      match members.lookup key with
      | none =>
          (update? byDots change path (emptyTable (if byDots then .dotted else .implied))).map
            fun child => .table origin (members ++ [(key, child)])
      | some (.table childOrigin children) =>
          if leadsThrough byDots childOrigin then
            (update? byDots change path (.table childOrigin children)).map
              fun child => .table origin (replaceMember members key child)
          else none
      | some (.tables items) =>
          match items.getLast? with
          | none => none
          | some last =>
              (update? byDots change path last).map fun child =>
                .table origin (replaceMember members key (.tables (items.dropLast ++ [child])))
      | some _ => none
  | _ :: _, _ => none

/-- Adds a member that is not there yet. A key with dots has to end in a table made by dots, and a
plain key may not. -/
def addMember? (viaDots : Bool) (key : String) (value : Node) : Node → Option Node
  | .table origin members =>
      if (origin = .dotted) ≠ viaDots then none
      else match members.lookup key with
        | some _ => none
        | none => some (.table origin (members ++ [(key, value)]))
  | _ => none

/-- Adds a value under a key, which may have dots. -/
def assign? (node : Node) (path : List String) (key : String) (value : Node) : Option Node :=
  update? true (addMember? (!path.isEmpty) key value) path node

/-- Opens the table that a header names. It must be new, or merely implied so far. -/
def openTable? (key : String) : Node → Option Node
  | .table origin members =>
      match members.lookup key with
      | none => some (.table origin (members ++ [(key, emptyTable .header)]))
      | some (.table .implied children) =>
          some (.table origin (replaceMember members key (.table .header children)))
      | some _ => none
  | _ => none

/-- Adds one more table under a header in double brackets. -/
def appendTable? (key : String) : Node → Option Node
  | .table origin members =>
      match members.lookup key with
      | none => some (.table origin (members ++ [(key, .tables [emptyTable .header])]))
      | some (.tables items) =>
          some (.table origin (replaceMember members key (.tables (items ++ [emptyTable .header]))))
      | some _ => none
  | _ => none

end Node

end DeepLink.Toml
