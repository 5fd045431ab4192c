import DeepLink.Config.Problem
import DeepLink.Config.Reading

/-! # Reloading a table

A tracker remembers the text that a table's file held last, and the routes it accepted last. It
passes a table on only when the text has changed and the table is valid. -/

namespace DeepLink

/-- What reading a file comes to. -/
inductive FileState where
  | missing
  | notText
  | text (content : String)
  deriving DecidableEq, Repr

namespace FileState

/-- The state of a file with the given octets. -/
def ofOctets (octets : List UInt8) : FileState :=
  match Text.Utf8.decode? octets with
  | some content => .text (String.ofList content)
  | none => .notText

/-- The text of a file that can be read. -/
def text? : FileState → Option String
  | .text content => some content
  | _ => none

/-- The configuration in a file. -/
def load (file : FileState) : Except ConfigError Config :=
  match file.text? with
  | none => .error .unreadable
  | some content => Config.parse content

end FileState

/-- How one table differs from another: how many routes are only in the new one, and how many only
in the old one. -/
structure Change where
  added : Nat
  removed : Nat
  deriving DecidableEq, Repr

/-- The change between two tables. -/
def Change.between (old new : List Route) : Change :=
  ⟨(new.filter (!old.contains ·)).length, (old.filter (!new.contains ·)).length⟩

/-- What is remembered of a table's file. -/
structure Tracker where
  content : Option String := none
  routes : List Route := []
  deriving DecidableEq, Repr

namespace Tracker

/-- A tracker that starts from what a file holds now. -/
def seed (file : FileState) : Tracker :=
  { content := file.text?
    routes := match file.load with
      | .ok config => config.routes
      | .error _ => [] }

/-- What a reading of the file comes to. -/
structure Reading where
  next : Tracker
  passed : Option (Config × Change)
  signals : List Signal

/-- Reads the file again. Rejected texts are remembered too, so that each is reported once. -/
def reload (tracker : Tracker) (file : FileState) : Reading :=
  match file.text? with
  | none => ⟨tracker, none, [.event .tableUnreadable]⟩
  | some content =>
      if tracker.content = some content then ⟨tracker, none, [.event .tableUnchanged]⟩
      else
        match Config.parse content with
        | .error _ => ⟨{ tracker with content := some content }, none, [.event .tableRejected]⟩
        | .ok config =>
            ⟨{ content := some content, routes := config.routes },
              some (config, Change.between tracker.routes config.routes),
              [.event .tableReloaded]⟩

end Tracker

end DeepLink
