import DeepLink.CommandLine

/-! # The program

Reads arguments, the table's file and the input, and writes what the command line answers. While
watching, the file is read again before each line of input. -/

namespace DeepLink.CommandLine

/-- The state of a file. -/
def readState (path : String) : IO FileState := do
  try
    return FileState.ofOctets (← IO.FS.readBinFile path).toList
  catch _ => return .missing

/-- Writes an output. -/
def write (output : Output) : IO Unit := do
  IO.print output.stdout
  for line in output.stderr do
    IO.eprintln line
  (← IO.getStdout).flush

/-- Dispatches the lines of the input until it ends, and returns the signals. -/
partial def watchInput (path : String) (input : IO.FS.Stream) (watch : Watch)
    (signals : List Signal) : IO (List Signal) := do
  let line ← input.getLine
  if line.isEmpty then return signals
  let polled := watch.poll (← readState path)
  let (watch, output, more) := dispatchLine polled.result line
  write output
  watchInput path input watch (signals ++ polled.signals ++ more)

/-- Carries out `watch`. -/
def runWatch (options : Options) : IO UInt32 := do
  match (← readState options.config).load with
  | .error error => write (.fatal (Diagnosis.configError error)); return 1
  | .ok config =>
      let started := Watch.start config (← readState options.config)
      match started.result with
      | .error error => write (.fatal (Diagnosis.routeError error)); return 1
      | .ok watch =>
          let watch :=
            { watch with dispatcher := { watch.dispatcher with presenter := some .logger } }
          let signals ← watchInput options.config (← IO.getStdin) watch started.signals
          write (Output.withMetrics {} (options.metrics || config.observability.metricsEnabled) signals)
          return 0

/-- Runs the program. -/
def start (arguments : List String) : IO UInt32 := do
  match read arguments with
  | .error refusal => write refusal.output; return refusal.output.exit.toUInt32
  | .ok options =>
      match options.command with
      | .watch => runWatch options
      | _ =>
          let output := execute options (← readState options.config) ""
          write output
          return output.exit.toUInt32

end DeepLink.CommandLine

/-- The program. -/
def main (arguments : List String) : IO UInt32 :=
  DeepLink.CommandLine.start arguments
