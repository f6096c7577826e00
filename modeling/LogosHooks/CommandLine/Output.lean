import LogosHooks.CommandLine.Run

/-!
What a run writes to standard output. Fields of the account of a run stand in alphabetical order,
those of a class interface in the order of its parts.
-/
namespace LogosHooks

open JsonValue

def HookOptions.toJson (o : HookOptions) : JsonValue :=
  object [("debug_logging", boolean o.logEntry), ("include_getters", boolean o.getters),
    ("include_properties", boolean o.properties),
    ("include_setters", boolean o.setters), ("log_params", boolean o.logArguments)]

def Preamble.toJson (o : Preamble) : JsonValue :=
  object [("includes", boolean o.includes), ("load_hook", boolean o.loadHook)]

def Failure.toJson (f : Failure) : JsonValue :=
  object [("error", string f.error), ("label", string f.label)]

/-- The report without its text. The time that the run took stands in it if it is known. -/
def Report.toJson (elapsedMs : Option Nat) (r : Report) : JsonValue :=
  object (elapsedMs.toList.map (fun ms => ("elapsed_ms", number ms)) ++
    [("failed", number r.failed), ("failures", array (r.failures.map Failure.toJson)),
      ("hook_count", number r.hookCount), ("no_class", number r.noClass),
      ("parsed", number r.parsed), ("units", number r.units)])

namespace CommandLine

def Summary.toJson (elapsedMs : Option Nat) (s : Summary) : JsonValue :=
  object [("bytes", number s.bytes), ("extra_known_types", number s.addedTypes),
    ("method_regex", ofOption string s.methodRegex), ("output", string s.output),
    ("preamble", s.preamble.toJson), ("render", s.options.toJson),
    ("report", s.report.toJson elapsedMs)]

def Printed.text (elapsedMs : Option Nat) : Printed → Text
  | .nothing => []
  | .model m => m.toJson.pretty 0 ++ ['\n']
  | .summary s => (s.toJson elapsedMs).pretty 0 ++ ['\n']
  | .help => Text.ofLines [Command.usage .generate, Command.usage .inspect]
  | .version => "logos-hooks 1\n".toList
  | .completions =>
    Command.generate.flags.flatMap fun (_, long, _) => "--".toList ++ long.toList ++ ['\n']

def Outcome.changes (before : FileTree) (o : Outcome) : List (Path × Bytes) :=
  o.tree.files.filter fun (p, content) => before.read? p != some content

end CommandLine
end LogosHooks
