import DeepLink.Toml.Node
import DeepLink.Toml.Plain
import DeepLink.Toml.Quotation

/-! # Reading documents

A document is read line by line: headers choose the table that the following keys belong to. -/

namespace DeepLink.Toml

open Reader

/-- Whether a character may stand in a key without quotes. -/
def isBareKeyChar (c : Char) : Bool := c.isAlphanum || c = '_' || c = '-'

/-- Reads one part of a key. -/
def keyPart : Reader String := fun input =>
  match input with
  | '"' :: _ | '\'' :: _ => Quotation.line input
  | _ =>
      let name := input.takeWhile isBareKeyChar
      if name.isEmpty then none else some (String.ofList name, input.dropWhile isBareKeyChar)

/-- A key has fewer parts than this, and arrays and tables are nested less deeply. -/
def depthLimit : Nat := 80

/-- Reads a key: parts separated by dots, with blanks around each. The last part is returned apart
from those that lead to it. -/
def key : Reader (List String × String) := fun input => do
  let (parts, rest) ← loop (fun (parts : List String) text => do
    let (part, rest) ← keyPart (skipBlanks text)
    match skipBlanks rest with
    | '.' :: rest => some (.again (part :: parts), rest)
    | rest => some (.done (part :: parts), rest)) [] input
  match parts with
  | [] => none
  | last :: path => if path.length + 1 < depthLimit then some ((path.reverse, last), rest) else none

/-- Reads the items of an array up to its closing bracket. -/
def items (value : Reader Node) : Reader Node := fun input => do
  let (items, rest) ← loop (fun (items : List Node) text => do
    match ← skipLines? text with
    | ']' :: rest => some (.done items, rest)
    | text =>
        let (item, rest) ← value text
        match ← skipLines? rest with
        | ',' :: rest => some (.again (item :: items), rest)
        | ']' :: rest => some (.done (item :: items), rest)
        | _ => none) [] input
  some (.array items.reverse, rest)

/-- Reads a key, an equals sign and a value. -/
def pair (value : Reader Node) : Reader ((List String × String) × Node) := fun input => do
  match ← key input with
  | (name, '=' :: rest) =>
      let (node, rest) ← value (skipBlanks rest)
      some ((name, node), rest)
  | _ => none

/-- Reads the members of a table up to its closing brace. The last one has no comma behind it. -/
def members (value : Reader Node) : Reader Node := fun input =>
  match skipBlanks input with
  | '\x7d' :: rest => some (.emptyTable .inline, rest)
  | input =>
      loop (fun (table : Node) text => do
        let (((path, name), node), rest) ← pair value text
        let table ← table.assign? path name node
        match skipBlanks rest with
        | ',' :: rest => some (.again table, rest)
        | '\x7d' :: rest => some (.done table, rest)
        | _ => none) (.emptyTable .inline) input

/-- Reads a value without parts. -/
def scalar : Reader Node := fun input =>
  match input with
  | '"' :: _ | '\'' :: _ => (Quotation.any input).map fun (text, rest) => (.scalar (.text text), rest)
  | _ => (Plain.any input).map fun (value, rest) => (.scalar value, rest)

/-- Reads a value in which arrays and tables are nested at most so deep. -/
def valueUpTo : Nat → Reader Node
  | 0 => scalar
  | depth + 1 => fun input =>
      match input with
      | '[' :: rest => items (valueUpTo depth) rest
      | '\x7b' :: rest => members (valueUpTo depth) rest
      | _ => scalar input

/-- Reads a value. -/
def value : Reader Node := valueUpTo (depthLimit - 1)

/-- A document as far as it has been read, and the path of the table that keys belong to. -/
structure Draft where
  root : Node
  path : List String

/-- Adds a key and a value to the table that keys belong to. -/
def Draft.assign? (draft : Draft) (path : List String) (name : String) (node : Node) :
    Option Draft :=
  (draft.root.update? false (·.assign? path name node) draft.path).map fun root =>
    { draft with root := root }

/-- Opens a table by the change that its header makes. -/
def Draft.open? (draft : Draft) (change : String → Node → Option Node) (path : List String)
    (name : String) : Option Draft :=
  (draft.root.update? false (change name) path).map fun root => ⟨root, path ++ [name]⟩

/-- Reads one line, or finds the end of the document. -/
def line (draft : Draft) : Reader (Turn Draft) := fun input =>
  match skipBlanks input with
  | [] => some (.done draft, [])
  | '[' :: '[' :: rest => do
      match ← key rest with
      | ((path, name), ']' :: ']' :: rest) =>
          let draft ← draft.open? Node.appendTable? path name
          some (.again draft, ← endOfLine? rest)
      | _ => none
  | '[' :: rest => do
      match ← key rest with
      | ((path, name), ']' :: rest) =>
          let draft ← draft.open? Node.openTable? path name
          some (.again draft, ← endOfLine? rest)
      | _ => none
  | c :: rest =>
      if c = '#' ∨ c = '\n' ∨ c = '\r' then
        (endOfLine? (c :: rest)).map fun rest => (.again draft, rest)
      else do
        let (((path, name), node), rest) ← pair value (c :: rest)
        let draft ← draft.assign? path name node
        some (.again draft, ← endOfLine? rest)

/-- Reads a document; `none` when the text is none. A byte order mark in front is passed over. -/
def parse? (text : String) : Option Node :=
  let input := match text.toList with
    | '\uFEFF' :: rest => rest
    | input => input
  (loop line ⟨.emptyTable .header, []⟩ input).map fun (draft, _) => draft.root

end DeepLink.Toml
