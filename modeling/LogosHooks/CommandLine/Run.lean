import LogosHooks.CommandLine.Arguments
import LogosHooks.Config.Basic
import LogosHooks.Files.HeaderSearch
import LogosHooks.Hooks.Preamble
import LogosHooks.Json

/-!
One run of the program on a tree of files. The output file is opened, and what it held before is
gone unless text is appended, before the headers are read; so a header that is the output file at
the same time is read as it is then. Of what a run logs, the notes hold the warnings on the
configuration and on headers at fault.
-/
namespace LogosHooks.CommandLine

/-- What a run tells the user. -/
inductive Note where
  | usage
  | configWarning (w : ConfigWarning)
  | noTargets
  | badPattern (pattern : Text)
  | found (count : Nat)
  | noValidTargets
  /-- A header that gave no hook text. -/
  | failure (f : Failure)
  | parsed (good units : Nat)
  | generated (hooks : Nat)
  | written (output : Text) (bytes : Nat)
  | invalidHeader (e : Fault)
deriving DecidableEq, Repr

def Note.message : Note → Text
  | .usage => Command.usage .generate
  | .configWarning w => "warning: ".toList ++ w.message
  | .noTargets => "No targets given (use --target <PATH>...)".toList
  | .badPattern pattern => "Invalid regular expression: ".toList ++ pattern
  | .found count =>
    "Found ".toList ++ Nat.toDigits 10 count ++ " target file(s) in target directory".toList
  | .noValidTargets => "No valid targets found".toList
  | .failure f => "warning: ".toList ++ f.label ++ ": ".toList ++ f.error
  | .parsed good units =>
    "Successfully parsed ".toList ++ Nat.toDigits 10 good ++ " of ".toList ++
      Nat.toDigits 10 units ++ " file(s)".toList
  | .generated hooks =>
    "Generated ".toList ++ Nat.toDigits 10 hooks ++ " function hook(s)".toList
  | .written output bytes =>
    "Hooks written to: ".toList ++ output ++ " (".toList ++ Nat.toDigits 10 bytes ++
      " bytes)".toList
  | .invalidHeader e => "Invalid Objective-C header file: ".toList ++ e.message

/-- The account of a run that wrote hooks. -/
structure Summary where
  output : Text
  bytes : Nat
  report : Report
  options : HookOptions
  preamble : Preamble
  methodRegex : Option Text
  addedTypes : Nat
deriving DecidableEq, Repr

/-- What a run prints. -/
inductive Printed where
  | nothing
  | model (m : ClassInterface)
  | summary (s : Summary)
  | help
  | version
  | completions
deriving Repr

structure Outcome where
  exitCode : Nat
  notes : List Note
  printed : Printed
  tree : FileTree
deriving Repr

/-- What a run that generates hooks is asked to do, once the arguments and the configuration are put
together. -/
structure Job where
  targets : List Text
  request : Request
  preamble : Preamble
  search : HeaderSearch
  output : Text
  append : Bool
  json : Bool
  verbose : Bool
deriving Repr

def defaultOutput : Text := "Tweak.xm".toList

def compilePattern (source : Option Text) : Except Note (Option NamePattern) :=
  match source with
  | none => .ok none
  | some source =>
    match NamePattern.compile source with
    | .ok pattern => .ok (some pattern)
    | .error _ => .error (.badPattern source)

def dropPolicy (a : Arguments) (config : Config) : DropPolicy :=
  ⟨config.registry, config.dropUnknownTypes && !a.has .unknownTypes⟩

def Job.make (a : Arguments) (config : Config) : Except Note Job := do
  if a.targets.isEmpty then throw .noTargets
  let methodFilter ← compilePattern (a.value? .methodRegex <|> config.methodRegex)
  let nameFilter ← compilePattern (a.value? .fileRegex)
  return {
    targets := a.targets
    request := {
      policy := dropPolicy a config
      filter := methodFilter
      options := {
        properties := true
        getters := a.has .getters || config.getters
        setters := a.has .setters || config.setters
        logArguments := a.has .params || config.params
        logEntry := a.has .debug || config.debug } }
    preamble := ⟨a.has .includes || config.includes, a.has .loadHook || config.loadHook⟩
    search := ⟨a.has .nextStep, a.has .recursive, nameFilter⟩
    output := (a.value? .output <|> config.output).getD defaultOutput
    append := a.has .append
    json := a.has .json
    verbose := a.has .verbose }

def openOutput? (tree : FileTree) (output : Text) (append : Bool) : Option (Path × FileTree) :=
  match tree.resolve? output with
  | some p =>
    if tree.isDir p then none
    else some (p, tree.write p (if append then (tree.read? p).getD [] else []))
  | none => none

def appendText (tree : FileTree) (p : Path) (t : Text) : FileTree :=
  tree.write p ((tree.read? p).getD [] ++ Utf8.encode t)

def countUnreadable (r : Report) (unreadable : Nat) : Report :=
  { r with units := r.units + unreadable, failed := r.failed + unreadable }

def Job.searchesDir (job : Job) (tree : FileTree) : Bool :=
  match job.targets with
  | [target] => tree.isDirAt target
  | _ => false

def Job.runOpened (job : Job) (headers : List Path) (notes : List Note) (output : Path)
    (opened : FileTree) : Outcome :=
  let tree := appendText opened output job.preamble.text
  if headers.isEmpty then
    ⟨1, notes ++ (if job.json then [] else [.noValidTargets]), .nothing, tree⟩
  else
    let (units, unreadable) := readUnits tree headers
    let report := countUnreadable (batchReport job.request units) unreadable.length
    let tree := appendText tree output report.text
    let bytes := ((tree.read? output).getD []).length
    if job.json then
      ⟨0, notes, .summary ⟨job.output, bytes, report, job.request.options, job.preamble,
        job.request.filter.map (·.source), job.request.policy.registry.addedCount⟩, tree⟩
    else
      ⟨0, notes ++ (if job.verbose then report.failures.map .failure else []) ++
        [.parsed report.parsed report.units, .generated report.hookCount,
          .written job.output bytes], .nothing, tree⟩

def Job.run (job : Job) (tree : FileTree) : Outcome :=
  let headers := findHeaders tree job.search job.targets
  let notes := if job.searchesDir tree && !job.json then [Note.found headers.length] else []
  match openOutput? tree job.output job.append with
  | none => ⟨1, notes, .nothing, tree⟩
  | some (output, opened) => job.runOpened headers notes output opened

def runGenerate (tree : FileTree) (a : Arguments) (config : Config) : Outcome :=
  match Job.make a config with
  | .error note => ⟨1, [note], .nothing, tree⟩
  | .ok job => job.run tree

def runInspect (tree : FileTree) (a : Arguments) (config : Config) : Outcome :=
  match ((a.words.head?).bind tree.resolve?).bind tree.read? with
  | none => ⟨1, [], .nothing, tree⟩
  | some content =>
    match collect (dropPolicy a config) (Utf8.decodeLossy content) with
    | .ok model => ⟨0, [], .model model, tree⟩
    | .error e => ⟨1, [.invalidHeader e], .nothing, tree⟩

def runCommand (tree : FileTree) (a : Arguments) (config : Config) : Outcome :=
  match a.command with
  | .generate => runGenerate tree a config
  | .inspect => runInspect tree a config
  | .completions => ⟨0, [], .completions, tree⟩

def run (tree : FileTree) (args : List Text) : Outcome :=
  match Arguments.parse args with
  | .error .usageError => ⟨2, [.usage], .nothing, tree⟩
  | .error .help => ⟨0, [], .help, tree⟩
  | .error .version => ⟨0, [], .version, tree⟩
  | .ok a =>
    let (config, warnings) := Config.ofFile tree ((a.value? .config).getD Config.fileName)
    let outcome := runCommand tree a config
    { outcome with notes := warnings.map .configWarning ++ outcome.notes }

end LogosHooks.CommandLine
