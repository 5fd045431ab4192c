import DeepLink.Diagnosis
import DeepLink.Metrics
import DeepLink.Watch

/-! # The command line

Arguments are read into options and a command. A command is carried out on the state of the table's
file, and writes lines to the two outputs. -/

namespace DeepLink.CommandLine

open DeepLink.Text

/-- What is to be done. -/
inductive Command where
  | resolve (route : String)
  | check (route : String)
  | routes
  | dispatch (route : String) (arguments : List (String × String)) (flags : List Flag)
  | watch

/-- A command with its options. -/
structure Options where
  config : String
  metrics : Bool
  command : Command

/-- Why no command is carried out. -/
inductive Refusal where
  | usage
  | help
  deriving DecidableEq

/-- Whether an argument is an option rather than a value. A hyphen alone is a value. -/
def isOption (argument : String) : Bool :=
  match argument.toList with
  | '-' :: _ :: _ => true
  | _ => false

/-- What follows a text at the front of another. -/
def after? (front text : String) : Option String :=
  if front.toList.isPrefixOf text.toList then
    some (String.ofList (text.toList.drop front.length))
  else none

/-- Reads `key=value`. -/
def keyValue? (text : String) : Option (String × String) :=
  let (key, value) := cutAt '=' text.toList
  value.map fun value => (String.ofList key, String.ofList value)

/-- Whether an argument asks for help. -/
def asksForHelp (argument : String) : Bool :=
  argument = "--help" || (after? "-h" argument).isSome

/-- Reads the arguments of a command that takes only values, at most so many. -/
def readValues : Nat → List String → Except Refusal (List String)
  | _, [] => .ok []
  | most, "--" :: rest => if rest.length ≤ most then .ok rest else .error .usage
  | most, argument :: rest =>
      if asksForHelp argument then .error .help
      else if isOption argument then .error .usage
      else match most with
        | 0 => .error .usage
        | most + 1 => (readValues most rest).map (argument :: ·)

/-- The arguments of `dispatch`, as far as they have been read. -/
structure DispatchArguments where
  route : Option String := none
  arguments : List (String × String) := []
  flags : List Flag := []

/-- Adds the link, which is given once. -/
def DispatchArguments.withRoute (d : DispatchArguments) (route : String) :
    Except Refusal DispatchArguments :=
  if d.route.isSome then .error .usage else .ok { d with route := some route }

/-- Adds the value of `--arg`. -/
def DispatchArguments.withArgument (d : DispatchArguments) (text : String) :
    Except Refusal DispatchArguments :=
  match keyValue? text with
  | none => .error .usage
  | some pair => .ok { d with arguments := d.arguments ++ [pair] }

/-- Adds the value of `--flag`. -/
def DispatchArguments.withFlag (d : DispatchArguments) (name : String) :
    Except Refusal DispatchArguments :=
  match Flag.ofName? name with
  | none => .error .usage
  | some flag => .ok { d with flags := d.flags ++ [flag] }

/-- Reads the arguments of `dispatch`. The value of an option follows it, or stands behind an equals
sign; only there may it look like an option. -/
def readDispatch (d : DispatchArguments) : List String → Except Refusal DispatchArguments
  | [] => .ok d
  | "--" :: rest => rest.foldlM DispatchArguments.withRoute d
  | "--arg" :: value :: rest =>
      if isOption value then .error .usage
      else (d.withArgument value).bind fun d => readDispatch d rest
  | "--flag" :: value :: rest =>
      if isOption value then .error .usage
      else (d.withFlag value).bind fun d => readDispatch d rest
  | argument :: rest =>
      match after? "--arg=" argument, after? "--flag=" argument with
      | some value, _ => (d.withArgument value).bind fun d => readDispatch d rest
      | none, some value => (d.withFlag value).bind fun d => readDispatch d rest
      | none, none =>
          if asksForHelp argument then .error .help
          else if isOption argument then .error .usage
          else (d.withRoute argument).bind fun d => readDispatch d rest

/-- Reads a command and its arguments. -/
def readCommand : List String → Except Refusal Command
  | "resolve" :: rest => do
      match ← readValues 1 rest with
      | [route] => pure (.resolve route)
      | _ => throw .usage
  | "check" :: rest => do
      match ← readValues 1 rest with
      | [route] => pure (.check route)
      | _ => throw .usage
  | "routes" :: rest => do
      match ← readValues 0 rest with
      | [] => pure .routes
      | _ => throw .usage
  | "watch" :: rest => do
      match ← readValues 0 rest with
      | [] => pure .watch
      | _ => throw .usage
  | "dispatch" :: rest => do
      let d ← readDispatch {} rest
      match d.route with
      | some route => pure (.dispatch route d.arguments d.flags)
      | none => throw .usage
  | "help" :: _ => .error .help
  | _ => .error .usage

/-- The options in front of the command, as far as they have been read. -/
structure Leading where
  config : Option String := none
  metrics : Bool := false

/-- Adds the path of the table's file, which is not empty and is given once. -/
def Leading.withConfig (l : Leading) (path : String) : Except Refusal Leading :=
  if path.isEmpty || l.config.isSome then .error .usage else .ok { l with config := some path }

/-- Adds the wish for metrics, which is given once. -/
def Leading.withMetrics (l : Leading) : Except Refusal Leading :=
  if l.metrics then .error .usage else .ok { l with metrics := true }

/-- The path in an option that holds its value itself. -/
def attachedPath? (argument : String) : Option String :=
  (after? "--config=" argument).orElse fun _ =>
    ((after? "-c=" argument).orElse fun _ => after? "-c" argument).filter (!·.isEmpty)

/-- Reads the options in front of the command, and the command. -/
def readOptions (l : Leading) : List String → Except Refusal Options
  | [] => .error .usage
  | "--metrics" :: rest => l.withMetrics.bind fun l => readOptions l rest
  | "--config" :: path :: rest =>
      if isOption path then .error .usage else (l.withConfig path).bind fun l => readOptions l rest
  | "-c" :: path :: rest =>
      if isOption path then .error .usage else (l.withConfig path).bind fun l => readOptions l rest
  | argument :: rest =>
      match attachedPath? argument with
      | some path => (l.withConfig path).bind fun l => readOptions l rest
      | none =>
          if asksForHelp argument then .error .help
          else (readCommand (argument :: rest)).map fun command =>
            ⟨l.config.getD "routes.toml", l.metrics, command⟩

/-- Reads the arguments of the program. -/
def read (arguments : List String) : Except Refusal Options :=
  readOptions {} arguments

/-- What a run of the program leaves: its exit code, and the texts of the two outputs. -/
structure Output where
  exit : Nat := 0
  stdout : String := ""
  stderr : List String := []

/-- The output of a run that a fatal error ends. -/
def Output.fatal (error : String) : Output :=
  { exit := 1, stderr := ["Error: " ++ error] }

/-- A resolved link in JSON. -/
def resolutionJson (found : Resolution String) : Json :=
  .object [
    ("raw_route", .text found.route),
    ("clean_route", .text found.clean),
    ("matched_pattern_key", .text found.key),
    ("kind", .text found.kind.label),
    ("binding", .text found.binding),
    ("wildcards", .object (found.wildcards.pairs.map fun (name, value) => (name, value.toJson))),
    ("query_params", .object (found.params.pairs.map fun (name, value) => (name, .text value)))]

/-- A presentation in JSON. -/
def presentationJson (p : Presentation String) : Json :=
  .object [
    ("arguments", .object (p.arguments.pairs.map fun (name, value) => (name, value.toJson))),
    ("flags", .array (p.flags.toList.map fun flag => .text flag.label)),
    ("kind", .text p.kind.label),
    ("query_params", .object (p.params.pairs.map fun (name, value) => (name, .text value))),
    ("route", .text p.route),
    ("target", .text p.binding)]

/-- The list of the registered routes: the kinds in their order, each sorted by template. -/
def listing (registry : Registry String) : String :=
  let lines := Kind.precedence.flatMap fun kind =>
    (registry.listing kind).map fun entry =>
      kind.label ++ " " ++ entry.key ++ " -> " ++ entry.binding ++ "\n"
  String.join lines

/-- The lines of an input. -/
def linesOf (input : String) : List String :=
  (input.toList.splitOn '\n').map String.ofList

/-- Dispatches the link on a line of input; a blank line is passed over. -/
def dispatchLine (watch : Watch) (line : String) : Watch × Output × List Signal :=
  let route := trim line
  if route.isEmpty then (watch, {}, [])
  else
    let dispatch := watch.dispatcher.dispatch route [] .empty
    let output : Output := match dispatch.result with
      | .ok outcome => { stdout := route ++ " " ++ Diagnosis.outcome outcome ++ "\n" }
      | .error error => { stderr := [route ++ ": " ++ error.message] }
    ({ watch with dispatcher := dispatch.next }, output, dispatch.signals)

/-- Dispatches lines of input one after the other, the file staying as it is. -/
def dispatchLines (watch : Watch) : List String → Output × List Signal
  | [] => ({}, [])
  | line :: rest =>
      let (watch, output, signals) := dispatchLine watch line
      let (others, more) := dispatchLines watch rest
      ({ stdout := output.stdout ++ others.stdout, stderr := output.stderr ++ others.stderr },
        signals ++ more)

/-- Carries out a command with a dispatcher. The signals are those given off from here on; an
output without any, marked by `none`, is that of a fatal error. -/
def perform (command : Command) (dispatcher : Dispatcher) (file : FileState) (input : String) :
    Output × Option (List Signal) :=
  match command with
  | .resolve route =>
      let report := dispatcher.registry.resolve route
      match report.result with
      | .error error => (.fatal (Diagnosis.routeError error), none)
      | .ok (some found) => ({ stdout := (resolutionJson found).pretty ++ "\n" }, some report.signals)
      | .ok none => ({ exit := 1, stderr := ["No route matches " ++ route] }, some report.signals)
  | .check route =>
      let report := dispatcher.registry.isValid route
      ({ exit := if report.result then 0 else 1 }, some report.signals)
  | .routes => ({ stdout := listing dispatcher.registry }, some [])
  | .dispatch route arguments flags =>
      let dispatcher := { dispatcher with presenter := some .collector }
      let dispatch := dispatcher.dispatch route arguments (.ofList flags)
      match dispatch.result with
      | .error error => (.fatal (Diagnosis.dispatchError error), none)
      | .ok _ =>
          let lines := dispatch.presented.toList.map fun p => (presentationJson p).compact ++ "\n"
          ({ stdout := String.join lines }, some dispatch.signals)
  | .watch =>
      let dispatcher := { dispatcher with presenter := some .logger }
      let (output, signals) := dispatchLines ⟨dispatcher, .seed file⟩ (linesOf input)
      (output, some signals)

/-- Adds the counters to an output, when they are asked for. -/
def Output.withMetrics (output : Output) (asked : Bool) (signals : List Signal) : Output :=
  if asked then { output with stderr := output.stderr ++ Metrics.exposition (counts signals) }
  else output

/-- Carries out a command on the state of the table's file. -/
def execute (options : Options) (file : FileState) (input : String) : Output :=
  match file.load with
  | .error error => .fatal (Diagnosis.configError error)
  | .ok config =>
      let built := Dispatcher.build config
      match built.result with
      | .error error => .fatal (Diagnosis.routeError error)
      | .ok dispatcher =>
          match perform options.command dispatcher file input with
          | (output, none) => output
          | (output, some signals) =>
              output.withMetrics (options.metrics || config.observability.metricsEnabled)
                (built.signals ++ signals)

/-- The output of a run without a command. -/
def Refusal.output : Refusal → Output
  | .usage => { exit := 2, stderr := ["usage: [--config FILE] [--metrics] COMMAND"] }
  | .help => { stdout := "usage: [--config FILE] [--metrics] COMMAND\n" }

/-- Runs the program on its arguments, the state of each file, and its input. -/
def run (arguments : List String) (files : String → FileState) (input : String) : Output :=
  match read arguments with
  | .error refusal => refusal.output
  | .ok options => execute options (files options.config) input

end DeepLink.CommandLine
