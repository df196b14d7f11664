import ForeignBindings.Batch.Run

/-!
# The command line

What the arguments of the program ask for, and what the program then writes. The
arguments are taken in order: one that asks for help or for information, or that
makes no sense, decides at once. The exit status of a run is the number of
errors, as far as a status can hold it.
-/

namespace ForeignBindings

/-- How configuration files are run. -/
structure RunSettings where
  dumps : DumpOptions := {}
  color : ColorMode := .auto
  /-- The configuration files in the order of the arguments. -/
  paths : List String := []
deriving DecidableEq, Repr, Inhabited

/-- What the arguments ask for. -/
inductive Request where
  | showDefault
  | showUsage
  | explain (code : String)
  | rejectColor (mode : String)
  | rejectOption (argument : String)
  | run (settings : RunSettings)
deriving DecidableEq, Repr, Inhabited

/-- What the program writes, and its exit status. -/
structure Outcome where
  status : Nat := 0
  output : String := ""
  errors : String := ""
deriving DecidableEq, Repr, Inhabited

namespace Request

/-- What follows an option in an argument, if the argument starts with the option. -/
def setting? (option argument : String) : Option String :=
  (option.toList.isPrefixOf? argument.toList).map String.ofList

/-- Reads arguments after the ones that the settings come from. -/
def ofArguments (settings : RunSettings) : List String → Request
  | [] => run settings
  | argument :: rest =>
    if argument = "--dump-config" then showDefault
    else if argument = "--yaml" then
      ofArguments { settings with dumps := { settings.dumps with yaml := true } } rest
    else if argument = "--json" then
      ofArguments { settings with dumps := { settings.dumps with json := true } } rest
    else if argument = "-h" || argument = "--help" then showUsage
    else match setting? "--explain=" argument, setting? "--verbose=" argument,
        setting? "--color=" argument with
      | some code, _, _ => explain code
      | none, some _, _ => ofArguments settings rest
      | none, none, some mode =>
        match ColorMode.all.find? fun color => color.word == mode with
        | some color => ofArguments { settings with color } rest
        | none => rejectColor mode
      | none, none, none =>
        if argument.toList.head? = some '-' then rejectOption argument
        else ofArguments { settings with paths := settings.paths ++ [argument] } rest

/-- How the program is used. -/
def usage : String :=
  String.join ([
    "Usage: ffic [options] <config.yaml>...",
    "",
    "Generates one Haskell FFI module per source file named in each",
    "configuration file. The exit status is the number of errors.",
    "",
    "Options:",
    "  --dump-config          Print the default configuration as YAML",
    "  --yaml                 Print each module's contents as YAML",
    "  --json                 Print each module's contents as JSON",
    "  --verbose=<level>      Debug logging filter (e.g. debug, ffi_names=trace)",
    "  --color=<mode>         Diagnostic colors: auto, always, never",
    "  --explain=<code>       Describe an error code (e.g. E3001)"].map (· ++ "\n"))

/-- The description of an error code. -/
def explanation (code : String) : Outcome :=
  match Code.ofText? code with
  | some known => { output := known.text ++ ": " ++ known.description ++ "\n" }
  | none => { status := 1, errors := "error: " ++ Code.unknownMessage code ++ "\n" }

/-- The greatest exit status. -/
def greatestStatus : Nat := 255

/-- What is written by a session in which so many errors were counted. -/
def sessionOutcome (color : ColorMode) (toTerminal : Bool) (session : Session) (errors : Nat) :
    Outcome where
  status := min errors greatestStatus
  output := session.dump
  errors := session.finish.terminal.text (color.isColored toTerminal)

/-- Does what was asked for. Errors go to a terminal or not. -/
def execute {m : Type → Type} [Monad m] (files : FileAccess m) (toTerminal : Bool) :
    Request → m Outcome
  | showDefault => pure { output := ({} : Configuration).toText }
  | showUsage => pure { errors := usage }
  | explain code => pure (explanation code)
  | rejectColor mode => pure {
      status := 1
      errors := "error: unknown color mode '" ++ mode ++ "' (expected auto, always or never)\n" }
  | rejectOption argument => pure {
      status := 1
      errors := "error: unknown option '" ++ argument ++ "'\n" ++ usage }
  | run settings =>
    if settings.paths.isEmpty then pure { status := 1, errors := usage }
    else do
      let tools : Batch.Tools m := { files, frontEnd := .ofDumps files, dumps := settings.dumps }
      let (session, errors) ← Batch.runPaths tools settings.paths {}
      pure (sessionOutcome settings.color toTerminal session errors)

end Request

end ForeignBindings
