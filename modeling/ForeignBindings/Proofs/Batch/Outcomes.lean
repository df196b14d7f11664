import ForeignBindings.Batch.Run

/-!
# Runs, dump by dump

Where the front end is a function of the path, what the dumps of a run yield can be said
without running anything: `Configuration.outcomes`. A run delivers these outcomes one after the
other and then comes to its conclusion: `Batch.run_eq`. How the files answer matters for the
delivery alone. All searches for layouts are taken for over here.
-/

namespace ForeignBindings

/-- The front end that yields what a function of the path and the options says. -/
def FrontEnd.ofFunction {m : Type → Type} [Monad m]
    (parse : (path : String) → (options : List String) → Except UnitError SourceUnit) :
    FrontEnd m where
  parse path options := pure (parse path options)

namespace Configuration

section Outcomes

variable (configuration : Configuration)
  (parse : (path : String) → (options : List String) → Except UnitError SourceUnit)
  (base : String)

/-- What a dump yields, and the table of module names behind it. -/
def outcome (modules : ModuleNameTable) (dump : String) :
    Except UnitError Product × ModuleNameTable :=
  match parse (Path.join base dump) configuration.compilerOptions with
  | .error error => (.error error, modules)
  | .ok unit =>
    let (product, modules) := configuration.produce modules dump unit
    (.ok product, modules)

/-- What dumps yield in order, and the table of module names behind them. -/
def outcomesFrom : ModuleNameTable → List String →
    List (Except UnitError Product) × ModuleNameTable
  | modules, [] => ([], modules)
  | modules, dump :: rest =>
    let (first, modules) := configuration.outcome parse base modules dump
    let (others, modules) := outcomesFrom modules rest
    (first :: others, modules)

/-- What the dumps of a configuration yield, in order. -/
def outcomes : List (Except UnitError Product) :=
  (configuration.outcomesFrom parse base (.new configuration.moduleNames)
    configuration.fileNames).1

/-- The names of the modules of all dumps of a configuration. -/
def modulesOfRun : ModuleNameTable :=
  (configuration.outcomesFrom parse base (.new configuration.moduleNames)
    configuration.fileNames).2

end Outcomes

end Configuration

namespace Batch

/-- What became of a dump. -/
structure Delivery where
  diagnostics : List Diagnostic
  isWritten : Bool

/-- Whether an error about a name is among the diagnostics. -/
def Delivery.hasNameErrors (delivery : Delivery) : Bool :=
  delivery.diagnostics.any fun diagnostic =>
    diagnostic.isError && diagnostic.code.stage = .naming

/-- The progress of a run after deliveries. -/
def Progress.recordAll (progress : Progress) (modules : ModuleNameTable)
    (deliveries : List Delivery) : Progress where
  modules
  failures := progress.failures + deliveries.countP fun delivery => !delivery.isWritten
  hasNameErrors := progress.hasNameErrors || deliveries.any Delivery.hasNameErrors

section Deliveries

variable {m : Type → Type} [Monad m] (files : FileAccess m) (dumps : DumpOptions)
  (output : String)

/-- Delivers what a dump yields: its contents are dumped, its module is written, and what was
reported on the way is reported. -/
def deliver (session : Session) : Except UnitError Product → m (Session × Delivery)
  | .error error =>
    let diagnostics := [error.diagnostic]
    pure (session.report diagnostics, ⟨diagnostics, false⟩)
  | .ok product => do
    let session := session.dumpContents dumps product.key product.contents
    let path := Path.join output product.generated.path
    match ← files.write path product.generated.text with
    | .ok () =>
      let diagnostics := product.queue.toList
      pure (session.report diagnostics, ⟨diagnostics, true⟩)
    | .error fault =>
      let diagnostics := (product.queue.push (unwritable path fault)).toList
      pure (session.report diagnostics, ⟨diagnostics, false⟩)

/-- Delivers what dumps yield, in order. -/
def deliverAll : Session → List (Except UnitError Product) → m (Session × List Delivery)
  | session, [] => pure (session, [])
  | session, outcome :: rest => do
    let (session, first) ← deliver files dumps output session outcome
    let (session, others) ← deliverAll session rest
    pure (session, first :: others)

end Deliveries

/-- What a run comes to after its deliveries: the clashes of module names are reported, and the
errors are counted. -/
def conclude (modules : ModuleNameTable) (delivered : Session × List Delivery) : Session × Nat :=
  let clashes := (modules.clashes .haskell).map Clash.diagnostic
  let hasNameErrors := delivered.2.any Delivery.hasNameErrors || !clashes.isEmpty
  (delivered.1.report clashes,
    delivered.2.countP (fun delivery => !delivery.isWritten) + if hasNameErrors then 1 else 0)

section Runs

variable {m : Type → Type} [Monad m] [LawfulMonad m] (files : FileAccess m)
  (parse : (path : String) → (options : List String) → Except UnitError SourceUnit)
  (dumps : DumpOptions) (configuration : Configuration) (base : String)

/-- Making the module of a dump delivers what the dump yields. -/
theorem runFile_eq (output : String) (session : Session) (progress : Progress) (dump : String) :
    runFile ⟨files, .ofFunction parse, dumps⟩ .none configuration base output session progress
        dump =
      (fun delivered => (delivered.1, progress.record
          (configuration.outcome parse base progress.modules dump).2 delivered.2.diagnostics
          delivered.2.isWritten)) <$>
        deliver files dumps output session
          (configuration.outcome parse base progress.modules dump).1 := by
  unfold runFile Configuration.outcome
  simp only [FrontEnd.ofFunction, pure_bind]
  cases parse (Path.join base dump) configuration.compilerOptions with
  | error error =>
    unfold deliver
    rw [map_pure]
  | ok unit =>
    unfold deliver
    simp only [Preparation.none, pure_bind, map_bind]
    refine bind_congr fun answer => ?_
    cases answer <;> rw [map_pure]

/-- The progress after a delivery and others behind it. -/
theorem Progress.recordAll_record (progress : Progress) (modules last : ModuleNameTable)
    (first : Delivery) (others : List Delivery) :
    (progress.record modules first.diagnostics first.isWritten).recordAll last others =
      progress.recordAll last (first :: others) := by
  unfold recordAll record
  rw [List.countP_cons, List.any_cons, Bool.or_assoc]
  cases first.isWritten
  · simp [Delivery.hasNameErrors, Nat.add_assoc, Nat.add_comm 1]
  · simp [Delivery.hasNameErrors]

/-- Making the modules of dumps delivers what the dumps yield. -/
theorem runFiles_eq (output : String) (session : Session) (progress : Progress)
    (names : List String) :
    runFiles ⟨files, .ofFunction parse, dumps⟩ .none configuration base output session progress
        names =
      (fun delivered => (delivered.1, progress.recordAll
          (configuration.outcomesFrom parse base progress.modules names).2 delivered.2)) <$>
        deliverAll files dumps output session
          (configuration.outcomesFrom parse base progress.modules names).1 := by
  induction names generalizing session progress with
  | nil =>
    unfold runFiles Configuration.outcomesFrom deliverAll
    rw [map_pure]
    simp [Progress.recordAll]
  | cons dump rest inductionHypothesis =>
    unfold runFiles Configuration.outcomesFrom deliverAll
    rw [runFile_eq]
    simp only [map_bind, bind_map_left, map_pure, inductionHypothesis]
    refine bind_congr fun first => ?_
    rw [map_eq_pure_bind]
    refine bind_congr fun others => congrArg pure (Prod.ext rfl ?_)
    exact progress.recordAll_record _ _ first.2 others.2

/-- A run delivers what its dumps yield, and comes to its conclusion. -/
theorem run_eq (runnable : configuration.isRunnable = true) (session : Session) :
    run ⟨files, .ofFunction parse, dumps⟩ configuration base session =
      conclude (configuration.modulesOfRun parse base) <$>
        deliverAll files dumps (Path.join base configuration.outputDirectory)
          ((session.report configuration.problems).warnPacked configuration.storableInstances)
          (configuration.outcomes parse base) := by
  unfold run runWith
  simp only [runnable, if_true]
  rw [runFiles_eq, bind_map_left, map_eq_pure_bind]
  refine bind_congr fun delivered => congrArg pure (Prod.ext rfl ?_)
  simp [conclude, Progress.recordAll, Progress.errors, Configuration.modulesOfRun]

end Runs

end Batch

end ForeignBindings
