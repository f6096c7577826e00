import LogosHooks.Text.Line

/-!
The arguments of the program. An argument is a flag, a value of the flag before it, or the name of a
command; short flags may be written together, and a value may be attached to its flag. Reading
stops at the first argument that has no place, and where help is asked for.
-/
namespace LogosHooks.CommandLine

/-- Flags without a value. -/
inductive Switch where
  | append
  | nextStep
  | includes
  | loadHook
  | unknownTypes
  | getters
  | setters
  | params
  | debug
  | recursive
  | jobs
  | verbose
  | json
deriving DecidableEq, Repr

/-- Flags with one value. -/
inductive Setting where
  | output
  | fileRegex
  | methodRegex
  | config
deriving DecidableEq, Repr

inductive Flag where
  | switch (s : Switch)
  | setting (s : Setting)
  /-- Takes all arguments up to the next flag. -/
  | targets
  | help
  | version
deriving DecidableEq, Repr

/-- What the arguments belong to. -/
inductive Command where
  | generate
  | inspect
  | completions
deriving DecidableEq, Repr

def commonFlags : List (Flag × String × Option Char) :=
  [(.switch .json, "json", none), (.switch .verbose, "verbose", some 'v'),
    (.setting .config, "config", none), (.help, "help", some 'h')]

def Command.flags : Command → List (Flag × String × Option Char)
  | generate =>
    commonFlags ++
      [(.targets, "target", some 't'), (.setting .output, "output", some 'o'),
        (.switch .append, "append", some 'a'), (.switch .nextStep, "next-step", some 'n'),
        (.switch .includes, "includes", some 'i'), (.switch .loadHook, "load-hook", some 'l'),
        (.switch .unknownTypes, "unknown-types", some 'u'),
        (.setting .fileRegex, "file-regex", some 'f'),
        (.setting .methodRegex, "method-regex", some 'm'), (.switch .getters, "getters", some 'g'),
        (.switch .setters, "setters", some 's'), (.switch .params, "params", some 'p'),
        (.switch .debug, "debug", none), (.switch .recursive, "recursive", some 'r'),
        (.switch .jobs, "jobs", some 'j'), (.version, "version", some 'V')]
  | inspect => commonFlags ++ [(.switch .unknownTypes, "unknown-types", some 'u')]
  | completions => commonFlags

def Command.longFlag? (c : Command) (name : Text) : Option Flag :=
  (c.flags.find? fun (_, long, _) => long.toList == name).map (·.1)

def Command.shortFlag? (c : Command) (name : Char) : Option Flag :=
  (c.flags.find? fun (_, _, short) => short == some name).map (·.1)

def Command.ofName? (name : Text) : Option Command :=
  if name == "inspect".toList then some .inspect
  else if name == "completions".toList then some .completions
  else none

def Command.usage (c : Command) : Text :=
  "usage: logos-hooks".toList ++
    (match c with
      | .generate => []
      | .inspect => " inspect FILE".toList
      | .completions => " completions SHELL".toList) ++
    c.flags.flatMap fun (_, long, _) => " [--".toList ++ long.toList ++ [']']

/-- Why reading stops before all arguments are read. -/
inductive Stop where
  | usageError
  | help
  | version
deriving DecidableEq, Repr

/-- The flag that takes the next argument that is no flag. -/
inductive Pending where
  | nothing
  | setting (s : Setting)
  | targets (hasValue : Bool)
deriving DecidableEq, Repr

/-- What was read so far. -/
structure Arguments where
  command : Command := .generate
  switches : List Switch := []
  settings : List (Setting × Text) := []
  targets : List Text := []
  /-- The words that are no values of flags. -/
  words : List Text := []
  pending : Pending := .nothing
  /-- Nothing behind `--` is a flag. -/
  onlyWords : Bool := false
deriving Repr

namespace Arguments

def has (a : Arguments) (s : Switch) : Bool := a.switches.contains s

def value? (a : Arguments) (s : Setting) : Option Text := a.settings.lookup s

def isSettled (a : Arguments) : Bool :=
  match a.pending with
  | .nothing | .targets true => true
  | .setting _ | .targets false => false

def allowsEmpty : Setting → Bool
  | .fileRegex | .methodRegex => true
  | .output | .config => false

def giveValue (a : Arguments) (s : Setting) (v : Text) : Except Stop Arguments :=
  if (a.value? s).isSome || (v.isEmpty && !allowsEmpty s) then .error .usageError
  else .ok { a with settings := (s, v) :: a.settings, pending := .nothing }

def giveTarget (a : Arguments) (v : Text) (pending : Pending) : Except Stop Arguments :=
  if v.isEmpty then .error .usageError
  else .ok { a with targets := a.targets ++ [v], pending := pending }

/-- Takes a flag with the value that is attached to it, if any. A switch has none and is given at
most once. -/
def giveFlag (a : Arguments) (flag : Flag) (attached : Option Text) : Except Stop Arguments :=
  if !a.isSettled then .error .usageError
  else
    match flag, attached with
    | .switch s, none =>
      if a.has s then .error .usageError
      else .ok { a with switches := s :: a.switches, pending := .nothing }
    | .setting s, some v => a.giveValue s v
    | .setting s, none => .ok { a with pending := .setting s }
    | .targets, some v => a.giveTarget v .nothing
    | .targets, none => .ok { a with pending := .targets false }
    | .help, none => .error .help
    | .version, none => .error .version
    | .switch _, some _ | .help, some _ | .version, some _ => .error .usageError

def giveLong (a : Arguments) (t : Text) : Except Stop Arguments :=
  let (name, attached) :=
    match Text.cutOnce? '=' t with
    | some (name, v) => (name, some v)
    | none => (t, none)
  match a.command.longFlag? name with
  | some flag => a.giveFlag flag attached
  | none => .error .usageError

/-- Takes short flags written together. The first of them that takes a value takes the rest, without
an equals sign in front. -/
def giveShort (a : Arguments) : Text → Except Stop Arguments
  | [] => .ok a
  | c :: rest =>
    match a.command.shortFlag? c with
    | none => .error .usageError
    | some (.setting s) => a.giveFlag (.setting s) (attachedValue rest)
    | some .targets => a.giveFlag .targets (attachedValue rest)
    | some flag => do (← a.giveFlag flag none).giveShort rest
where
  attachedValue : Text → Option Text
    | [] => none
    | '=' :: v => some v
    | v => some v

def shells : List String := ["bash", "elvish", "fish", "powershell", "zsh"]

/-- Takes an argument that is no flag and no flag's value. Only named commands have a place for one,
and for no more than one. -/
def giveWord (a : Arguments) (w : Text) : Except Stop Arguments :=
  let accepted :=
    match a.command with
    | .generate => false
    | .inspect => !w.isEmpty
    | .completions => shells.any (·.toList == w)
  if accepted && a.words.isEmpty then .ok { a with words := [w] } else .error .usageError

def give (a : Arguments) (w : Text) : Except Stop Arguments :=
  if a.onlyWords then a.giveWord w
  else
    match w with
    | ['-', '-'] => .ok { a with onlyWords := true }
    | '-' :: '-' :: t => a.giveLong t
    | '-' :: c :: t => a.giveShort (c :: t)
    | _ =>
      match a.pending with
      | .setting s => a.giveValue s w
      | .targets _ => a.giveTarget w (.targets true)
      | .nothing => a.giveWord w

def finish (a : Arguments) : Except Stop Arguments :=
  if a.isSettled && (a.command == .generate || !a.words.isEmpty) then .ok a
  else .error .usageError

def parse (args : List Text) : Except Stop Arguments :=
  match args with
  | [] => .ok {}
  | first :: rest =>
    if first == "help".toList then
      match rest with
      | [] => .error .help
      | [name] =>
        if (Command.ofName? name).isSome || name == "help".toList then .error .help
        else .error .usageError
      | _ => .error .usageError
    else
      match Command.ofName? first with
      | some command => do (← rest.foldlM give { command := command }).finish
      | none => do (← args.foldlM give {}).finish

end Arguments
end LogosHooks.CommandLine
