import DeepLink.Address
import DeepLink.Segment
import DeepLink.Text.Quoted

/-! # Patterns

A pattern is an address whose segments may be wildcards, written `i:` or `s:` before a name in
braces. A pattern is compiled once, from its template, and printed back segment by segment. -/

namespace DeepLink

open DeepLink.Text

/-- What a wildcard accepts. -/
inductive WildcardType where
  | integer
  | word
  deriving DecidableEq, Repr

/-- The letter that marks a wildcard's type. -/
def WildcardType.tag : WildcardType → Char
  | .integer => 'i'
  | .word => 's'

/-- Whether a segment is in a wildcard's class. -/
def WildcardType.accepts : WildcardType → String → Bool
  | .integer => Segment.isInteger
  | .word => Segment.isWord

/-- One segment of a pattern: a text that has to be met exactly, or a named wildcard. -/
inductive Slot where
  | literal (text : String)
  | wildcard (name : String) (type : WildcardType)
  deriving DecidableEq, Repr

namespace Slot

/-- Why a segment is no slot. -/
inductive Fault where
  | unknownMarker (segment : String)
  | unbalancedBraces (segment : String)
  | invalidName (name : String)
  deriving DecidableEq, Repr

/-- The wording of a fault. -/
def Fault.message : Fault → String
  | .unknownMarker segment => "unrecognized wildcard marker in segment " ++ quoted segment
  | .unbalancedBraces segment => "unbalanced wildcard braces in segment " ++ quoted segment
  | .invalidName name => "invalid wildcard name " ++ quoted name

/-- Whether a character is a brace. -/
def isBrace (c : Char) : Bool := c = '\x7b' || c = '\x7d'

/-- What stands between an opening brace in front and a closing brace at the end. -/
def betweenBraces? : List Char → Option (List Char)
  | '\x7b' :: rest => if rest.getLast? = some '\x7d' then some rest.dropLast else none
  | _ => none

/-- Reads a wildcard of a type from the text behind its marker. -/
def parseWildcard (segment : String) (type : WildcardType) (rest : List Char) :
    Except Fault Slot :=
  match betweenBraces? rest with
  | none => .error (.unbalancedBraces segment)
  | some name =>
      if name.isEmpty || !name.all Segment.isWordChar then
        .error (.invalidName (String.ofList name))
      else .ok (.wildcard (String.ofList name) type)

/-- Reads a segment of a template whose escapes are resolved. Without braces it is a literal. -/
def parse (segment : String) : Except Fault Slot :=
  let text := segment.toList
  if !text.any isBrace then .ok (.literal segment)
  else match text with
    | 'i' :: ':' :: rest => parseWildcard segment .integer rest
    | 's' :: ':' :: rest => parseWildcard segment .word rest
    | _ => .error (.unknownMarker segment)

/-- The name of a wildcard. -/
def name? : Slot → Option String
  | .literal _ => none
  | .wildcard name _ => some name

/-- Whether a segment of a route fits a slot. -/
def accepts : Slot → String → Bool
  | .literal text, segment => text = segment
  | .wildcard _ type, segment => type.accepts segment

/-- A slot as it is written in a template. -/
def render : Slot → String
  | .literal text => text
  | .wildcard name type => String.ofList ([type.tag, ':', '\x7b'] ++ name.toList ++ ['\x7d'])

end Slot

/-- A compiled pattern. -/
structure Pattern where
  scheme : String
  host : String
  slots : List Slot
  deriving DecidableEq, Repr

namespace Pattern

/-- Why a template is no pattern. -/
inductive Fault where
  | address (fault : Address.Fault)
  | hasTail
  | slot (fault : Slot.Fault)
  | repeatedName (name : String)
  deriving DecidableEq, Repr

/-- The wording of a fault. -/
def Fault.message : Fault → String
  | .address fault => fault.message
  | .hasTail => "patterns cannot carry a query string or fragment"
  | .slot fault => fault.message
  | .repeatedName name => "wildcard " ++ quoted name ++ " declared twice"

/-- Reads the segments of a template from the left, given the names declared so far. -/
def slotsOf (names : List String) : List String → Except Fault (List Slot)
  | [] => .ok []
  | segment :: rest =>
      match Slot.parse segment with
      | .error fault => .error (.slot fault)
      | .ok (.literal text) => (slotsOf names rest).map (.literal text :: ·)
      | .ok (.wildcard name type) =>
          if names.contains name then .error (.repeatedName name)
          else (slotsOf (name :: names) rest).map (.wildcard name type :: ·)

/-- Compiles a template. A pattern carries neither a query nor a fragment. -/
def compile (template : String) : Except Fault Pattern :=
  match Address.parse template with
  | .error fault => .error (.address fault)
  | .ok address =>
      if address.hasQuery || address.hasFragment then .error .hasTail
      else (slotsOf [] address.segments).map fun slots => ⟨address.scheme, address.host, slots⟩

/-- The names of the wildcards, in the order of the segments. -/
def names (pattern : Pattern) : List String :=
  pattern.slots.filterMap Slot.name?

/-- A pattern as a template. -/
def render (pattern : Pattern) : String :=
  pattern.slots.foldl (fun text slot => text ++ "/" ++ slot.render)
    (pattern.scheme ++ "://" ++ pattern.host)

end Pattern

end DeepLink
