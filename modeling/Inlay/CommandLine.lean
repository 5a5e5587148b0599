import Inlay.Command
import Inlay.Options.Load

/-! # The command line

    Words are read from left to right, and the first fault, or the first request for help or the
    version, ends the reading. -/

namespace Inlay

/-- What a word that starts with a dash can ask for. -/
inductive Switch where
  | output | outDir | value | noSpecifiers | inputName | verbose | quiet | log | logFormat | config
  | directory | help | version
  deriving DecidableEq

namespace Switch

def all : List Switch :=
  [output, outDir, value, noSpecifiers, inputName, verbose, quiet, log, logFormat,
    config, directory, help, version]

def long : Switch → String
  | output => "output"
  | outDir => "out-dir"
  | value => "value"
  | noSpecifiers => "no-specifiers"
  | inputName => "stdin-filename"
  | verbose => "verbose"
  | quiet => "quiet"
  | log => "log"
  | logFormat => "log-format"
  | config => "config"
  | directory => "directory"
  | help => "help"
  | version => "version"

def short? : Switch → Option Char
  | output => some 'o'
  | verbose => some 'v'
  | quiet => some 'q'
  | config => some 'c'
  | directory => some 'C'
  | help => some 'h'
  | version => some 'V'
  | _ => none

def valueWord? : Switch → Option String
  | output => some "OUTPUT"
  | outDir => some "OUT_DIR"
  | value => some "KEYWORD"
  | inputName => some "NAME"
  | log => some "LOG"
  | logFormat => some "LOG_FORMAT"
  | config => some "CONFIG"
  | directory => some "DIRECTORY"
  | _ => none

def takesValue (s : Switch) : Bool := s.valueWord?.isSome

def choices : Switch → List String
  | log => Level.all.map (·.text)
  | logFormat => ["pretty", "json"]
  | _ => []

def about : Switch → String
  | output => "Write the expanded source here instead of stdout"
  | outDir => "Write each expanded file into this directory, keeping its file name"
  | value => "Keyword to expand (repeatable, overrides the configuration file)"
  | noSpecifiers => "Leave import/require specifiers untouched"
  | inputName => "Name of the source read from stdin; also selects its syntax"
  | verbose => "Enable verbose logging (use multiple times for increased verbosity)"
  | quiet => "Suppress non-error output"
  | log => "Set log level (overrides --verbose/--quiet)"
  | logFormat => "Set log output format [default: pretty]"
  | config => "Configuration file path (defaults to ./precall.toml when present)"
  | directory => "Working directory"
  | help => "Print help"
  | version => "Print version"

def ofLong? (name : String) : Option Switch := all.find? (·.long == name)

def ofShort? (c : Char) : Option Switch := all.find? (·.short? == some c)

def usage (s : Switch) : String :=
  let front := match s.short? with
    | some c => "-" ++ c.toString ++ ", "
    | none => "    "
  let back := match s.valueWord? with
    | some w => " <" ++ w ++ ">"
    | none => if s = verbose then "..." else ""
  front ++ "--" ++ s.long ++ back

def explanation (s : Switch) : String :=
  if s.choices.isEmpty then s.about
  else s.about ++ " [possible values: " ++ ", ".intercalate s.choices ++ "]"

end Switch

/-- Why the words of a command line make no command. -/
inductive UsageFault where
  | unknown (word : String)
  | missingValue (s : Switch)
  | needlessValue (s : Switch)
  | repeated (s : Switch)
  | badValue (name value : String)
  | conflict (s t : Switch)
  deriving DecidableEq

def UsageFault.message : UsageFault → String
  | unknown w => s!"unexpected argument '{w}' found"
  | missingValue s => s!"a value is required for '--{s.long}' but none was supplied"
  | needlessValue s => s!"unexpected value for '--{s.long}' found; no more were expected"
  | repeated s => s!"the argument '--{s.long}' cannot be used multiple times"
  | badValue n v => s!"invalid value '{v}' for '{n}'"
  | conflict s t => s!"the argument '--{s.long}' cannot be used with '--{t.long}'"

/-- What is answered without running the command. -/
inductive Answer where
  | help
  | version
  | usage (fault : UsageFault)
  deriving DecidableEq

/-- A command with all that its words say. -/
structure CommandLine where
  expand : ExpandCommand := {}
  verbose : Nat := 0
  quiet : Bool := false
  log : Option Level := none
  logFormat : Option String := none
  config : Option String := none
  directory : Option String := none

namespace CommandLine

def firstPath (s : Switch) (before : Option String) (v : String) :
    Except Answer (Option String) := do
  if before.isSome then throw (.usage (.repeated s))
  if v.isEmpty then throw (.usage (.badValue s.long v))
  return some v

def set (c : CommandLine) (s : Switch) (v : String) : Except Answer CommandLine := do
  match s with
  | .output => return { c with expand.output := ← firstPath s c.expand.output v }
  | .outDir => return { c with expand.outDir := ← firstPath s c.expand.outDir v }
  | .value => return { c with expand.values := c.expand.values ++ [v] }
  | .inputName =>
      if c.expand.inputName.isSome then throw (.usage (.repeated s))
      return { c with expand.inputName := some v }
  | .log =>
      if c.log.isSome then throw (.usage (.repeated s))
      match Level.ofText? v with
      | some l => return { c with log := some l }
      | none => throw (.usage (.badValue s.long v))
  | .logFormat =>
      if c.logFormat.isSome then throw (.usage (.repeated s))
      if !s.choices.contains v then throw (.usage (.badValue s.long v))
      return { c with logFormat := some v }
  | .config => return { c with config := ← firstPath s c.config v }
  | .directory => return { c with directory := ← firstPath s c.directory v }
  | .noSpecifiers | .verbose | .quiet | .help | .version => throw (.usage (.needlessValue s))

def turnOn (c : CommandLine) (s : Switch) : Except Answer CommandLine := do
  match s with
  | .noSpecifiers =>
      if c.expand.noSpecifiers then throw (.usage (.repeated s))
      return { c with expand.noSpecifiers := true }
  | .verbose => return { c with verbose := c.verbose + 1 }
  | .quiet =>
      if c.quiet then throw (.usage (.repeated s))
      return { c with quiet := true }
  | .help => throw .help
  | .version => throw .version
  | .output | .outDir | .value | .inputName | .log | .logFormat | .config | .directory =>
      throw (.usage (.missingValue s))

def addInput (c : CommandLine) (path : String) : Except Answer CommandLine := do
  if path.isEmpty then throw (.usage (.badValue "INPUTS" path))
  return { c with expand.inputs := c.expand.inputs ++ [path] }

/-- Reads letters after one dash.  A switch that takes a value takes the rest, or the next word. -/
def letters (c : CommandLine) : List Char → Except Answer (CommandLine × Option Switch)
  | [] => return (c, none)
  | l :: ls => do
      match Switch.ofShort? l with
      | none => throw (.usage (.unknown ("-" ++ l.toString)))
      | some s =>
          if s.takesValue then
            match ls with
            | [] => return (c, some s)
            | '=' :: v => return (← c.set s (String.ofList v), none)
            | v => return (← c.set s (String.ofList v), none)
          else
            let c ← c.turnOn s
            letters c ls

/-- Reads what stands after two dashes: a name, and perhaps a value after `=`. -/
def longSwitch (c : CommandLine) (body : List Char) :
    Except Answer (CommandLine × Option Switch) := do
  let name := String.ofList (body.takeWhile (· != '='))
  match Switch.ofLong? name, body.dropWhile (· != '=') with
  | none, _ => throw (.usage (.unknown ("--" ++ name)))
  | some s, [] => if s.takesValue then return (c, some s) else return (← c.turnOn s, none)
  | some s, _ :: v =>
      if s.takesValue then return (← c.set s (String.ofList v), none)
      else throw (.usage (.needlessValue s))

/-- Reads one word; returns the switch that waits for its value. -/
def word (c : CommandLine) (w : String) : Except Answer (CommandLine × Option Switch) := do
  match w.toList with
  | '-' :: '-' :: body => c.longSwitch body
  | '-' :: l :: ls => c.letters (l :: ls)
  | _ => return (← c.addInput w, none)

/-- Whether a word cannot be the value of a switch before it. -/
def isSwitch (w : String) : Bool := w.startsWith "-" && w != "-"

/-- Reads words; a switch may wait for its value.  After `--` every word is an input. -/
def readFrom (c : CommandLine) : Option Switch → List String → Except Answer CommandLine
  | none, [] => return c
  | some s, [] => throw (.usage (.missingValue s))
  | some s, v :: rest => do
      if isSwitch v then throw (.usage (.missingValue s))
      let c ← c.set s v
      readFrom c none rest
  | none, w :: rest => do
      if w == "--" then rest.foldlM addInput c
      else
        let (c, waiting) ← c.word w
        readFrom c waiting rest

def read (words : List String) : Except Answer CommandLine := do
  let c ← readFrom {} none words
  if c.expand.output.isSome && c.expand.outDir.isSome then
    throw (.usage (.conflict .output .outDir))
  return c

/-! ## Help -/

def name : String := "precall"

def version : String := "0.1.0"

def versionText : String := name ++ " " ++ version ++ "\n"

/-- The column in which explanations of switches begin, after two blanks on both sides. -/
def usageWidth : Nat := (Switch.all.map (·.usage.length)).foldl max 0

def switchLine (s : Switch) : String :=
  "  " ++ s.usage.pushn ' ' (usageWidth - s.usage.length) ++ "  " ++ s.explanation ++ "\n"

def helpText : String :=
  "Expand compile-time precall invocations into literals\n\n"
    ++ "Usage: " ++ name ++ " [OPTIONS] [INPUTS]...\n\n"
    ++ "Arguments:\n  [INPUTS]...  Files to expand; stdin is read when none are given\n\n"
    ++ "Options:\n" ++ "".intercalate (Switch.all.map switchLine)

/-! ## Running -/

def level (c : CommandLine) : Level :=
  match c.log with
  | some l => l
  | none =>
      if c.quiet then .error
      else match c.verbose with
        | 0 => .warn
        | 1 => .info
        | 2 => .debug
        | _ => .trace

/-- How a run ends. -/
inductive Exit where
  | success | failure | misuse
  deriving DecidableEq

def Exit.code : Exit → Nat
  | success => 0
  | failure => 1
  | misuse => 2

variable {m : Type → Type} [Monad m]

/-- Enters the directory, loads the options and expands the inputs. -/
def perform (c : CommandLine) (s : System m) : ExceptT CommandFailure m Unit := do
  match c.directory with
  | some dir => ExpandCommand.ofFile (← s.enter dir)
  | none => pure ()
  match ← ExceptT.lift (Options.load s c.config) with
  | .error f => throw (.options f)
  | .ok o =>
      let count ← c.expand.run o s
      if c.verbose > 0 then s.log .info s!"expansion completed, {count} written"

def run (words : List String) (s : System m) : m Exit := do
  match read words with
  | .error .help =>
      s.writeOutput helpText
      return .success
  | .error .version =>
      s.writeOutput versionText
      return .success
  | .error (.usage fault) =>
      s.report ("error: " ++ fault.message)
      return .misuse
  | .ok c =>
      match ← (c.perform (s.upTo c.level)).run with
      | .ok _ => return .success
      | .error e =>
          s.report ("error: " ++ e.message)
          return .failure

end CommandLine

end Inlay
