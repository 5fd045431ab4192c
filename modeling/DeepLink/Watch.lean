import DeepLink.Reload
import DeepLink.Session

/-! # Watching a table

While links come in, the file of the table is read again from time to time, and a table that is
passed on replaces the one in use. The file may change between any two readings. -/

namespace DeepLink

/-- A dispatcher in use, and what is remembered of its table's file. -/
structure Watch where
  dispatcher : Dispatcher
  tracker : Tracker

namespace Watch

/-- Starts with a configuration read earlier; the tracker is seeded by a reading of its own. -/
def start (config : Config) (seed : FileState) : Report (Except RouteError Watch) :=
  let report := Dispatcher.build config
  ⟨report.result.map fun dispatcher => ⟨dispatcher, .seed seed⟩, report.signals⟩

/-- Reads the file again and takes over what is passed on. -/
def poll (watch : Watch) (file : FileState) : Report Watch :=
  let reading := watch.tracker.reload file
  match reading.passed with
  | none => ⟨{ watch with tracker := reading.next }, reading.signals⟩
  | some (config, _) =>
      let (dispatcher, signals) := watch.dispatcher.applyEach [config]
      ⟨⟨dispatcher, reading.next⟩, reading.signals ++ signals⟩

end Watch

end DeepLink
