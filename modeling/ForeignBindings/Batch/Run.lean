import ForeignBindings.Batch.FrontEnd
import ForeignBindings.Batch.Product
import ForeignBindings.Batch.Session
import ForeignBindings.Format.Configuration

/-!
# Runs

A run takes the dumps of a configuration one by one. What fails is reported and
counted, and never stops the run: a dump that cannot be read counts, so does a
module that cannot be written, and all errors about names count as one.

Only a search for layouts that does not end stops a run, for good. `runToEnd` makes
the searches and has no outcome then; `run` takes them for over, and says what the
outcome is where they are.
-/

namespace ForeignBindings.Batch

/-- What runs depend on. -/
structure Tools (m : Type → Type) where
  files : FileAccess m
  frontEnd : FrontEnd m
  dumps : DumpOptions := {}

/-- What a run has found out so far. -/
structure Progress where
  modules : ModuleNameTable
  /-- The number of dumps without a module. -/
  failures : Nat := 0
  /-- Whether an error about a name was reported. -/
  hasNameErrors : Bool := false

namespace Progress

/-- The number of errors of a run. -/
def errors (progress : Progress) : Nat :=
  progress.failures + if progress.hasNameErrors then 1 else 0

/-- Counts what became of a dump. -/
def record (progress : Progress) (modules : ModuleNameTable) (diagnostics : List Diagnostic)
    (isWritten : Bool) : Progress where
  modules
  failures := if isWritten then progress.failures else progress.failures + 1
  hasNameErrors := progress.hasNameErrors ||
    diagnostics.any fun diagnostic => diagnostic.isError && diagnostic.code.stage = .naming

end Progress

/-- The report of a module that cannot be written. -/
def unwritable (path : String) (fault : FileFault) : Diagnostic :=
  .error .moduleUnwritable ("cannot write `" ++ path ++ "`: " ++ fault.message)

variable {m : Type → Type} [Monad m]

/-- The tools for runs that may not end. -/
def Tools.lift (tools : Tools m) : Tools (OptionT m) where
  files.read path := liftM (tools.files.read path)
  files.write path text := liftM (tools.files.write path text)
  frontEnd.parse path options := liftM (tools.frontEnd.parse path options)
  dumps := tools.dumps

/-- What is done with the unit of a dump before its module is made. -/
abbrev Preparation (m : Type → Type) :=
  (configuration : Configuration) → (dump : String) → SourceUnit → m Unit

namespace Preparation

/-- Nothing is done. -/
def none : Preparation m := fun _ _ _ => pure ()

/-- The searches for layouts are made. Unless they end, nothing comes after them. -/
def searches : Preparation (OptionT m) := fun configuration dump unit =>
  .mk (pure (configuration.searchLayouts dump unit))

end Preparation

/-- Makes the module of a dump, below an output directory. -/
def runFile (tools : Tools m) (prepare : Preparation m) (configuration : Configuration)
    (base output : String) (session : Session) (progress : Progress) (dump : String) :
    m (Session × Progress) := do
  match ← tools.frontEnd.parse (Path.join base dump) configuration.compilerOptions with
  | .error error =>
    let diagnostics := [error.diagnostic]
    return (session.report diagnostics, progress.record progress.modules diagnostics false)
  | .ok unit =>
    prepare configuration dump unit
    let (product, modules) := configuration.produce progress.modules dump unit
    let session := session.dumpContents tools.dumps product.key product.contents
    let path := Path.join output product.generated.path
    match ← tools.files.write path product.generated.text with
    | .ok () =>
      let diagnostics := product.queue.toList
      return (session.report diagnostics, progress.record modules diagnostics true)
    | .error fault =>
      let diagnostics := (product.queue.push (unwritable path fault)).toList
      return (session.report diagnostics, progress.record modules diagnostics false)

/-- Makes the modules of dumps in order. -/
def runFiles (tools : Tools m) (prepare : Preparation m) (configuration : Configuration)
    (base output : String) : Session → Progress → List String → m (Session × Progress)
  | session, progress, [] => pure (session, progress)
  | session, progress, dump :: rest => do
    let (session, progress) ←
      runFile tools prepare configuration base output session progress dump
    runFiles tools prepare configuration base output session progress rest

/-- Runs a configuration whose relative paths start at a base directory, with a preparation
for each module. With the session comes the number of errors. One that may not be run counts
as one error. -/
def runWith (tools : Tools m) (prepare : Preparation m) (configuration : Configuration)
    (base : String) (session : Session) : m (Session × Nat) := do
  let session := session.report configuration.problems
  if configuration.isRunnable then
    let session := session.warnPacked configuration.storableInstances
    let output := Path.join base configuration.outputDirectory
    let (session, progress) ← runFiles tools prepare configuration base output session
      { modules := .new configuration.moduleNames } configuration.fileNames
    let clashes := (progress.modules.clashes .haskell).map Clash.diagnostic
    let hasNameErrors := progress.hasNameErrors || !clashes.isEmpty
    return (session.report clashes, { progress with hasNameErrors }.errors)
  else return (session, 1)

/-- Runs a configuration to its end, if it comes to one. -/
def runToEnd (tools : Tools m) (configuration : Configuration) (base : String)
    (session : Session) : OptionT m (Session × Nat) :=
  runWith tools.lift .searches configuration base session

/-- Runs a configuration for which all searches for layouts end. -/
def run (tools : Tools m) (configuration : Configuration) (base : String) (session : Session) :
    m (Session × Nat) :=
  runWith tools .none configuration base session

/-- Why a configuration file cannot be used. -/
inductive ConfigurationError where
  | unreadable (path : String) (fault : FileFault)
  | invalid (path : String)
deriving DecidableEq, Repr, Inhabited

namespace ConfigurationError

/-- The error in words. -/
def message : ConfigurationError → String
  | unreadable path fault =>
    "cannot read configuration file `" ++ path ++ "`: " ++ fault.message
  | invalid path => "invalid configuration file `" ++ path ++ "`: " ++ unspecifiedReason

/-- The error as a diagnostic. -/
def diagnostic (error : ConfigurationError) : Diagnostic :=
  .error .configurationUnreadable error.message

end ConfigurationError

/-- Loads a configuration file. -/
def load (files : FileAccess m) (path : String) :
    m (Except ConfigurationError Configuration) := do
  match ← files.read path with
  | .error fault => return .error (.unreadable path fault)
  | .ok text =>
    match Configuration.ofText? text with
    | some configuration => return .ok configuration
    | none => return .error (.invalid path)

/-- Runs a configuration file. Its relative paths start at the directory that it lies in. -/
def runPath (tools : Tools m) (path : String) (session : Session) : m (Session × Nat) := do
  match ← load tools.files path with
  | .error error => return (session.report [error.diagnostic], 1)
  | .ok configuration => run tools configuration ((Path.parent? path).getD ".") session

/-- Runs configuration files in order, and adds up their errors. -/
def runPaths (tools : Tools m) : (paths : List String) → Session → m (Session × Nat)
  | [], session => pure (session, 0)
  | path :: rest, session => do
    let (session, errors) ← runPath tools path session
    let (session, others) ← runPaths tools rest session
    return (session, errors + others)

end ForeignBindings.Batch
