import ForeignBindings.Proofs.Batch.Ending
import ForeignBindings.Proofs.Batch.Outcomes
import ForeignBindings.Proofs.Name.Recall

/-!
# Files of one run

From one dump of a run to the next passes only the table of module names. The table is asked
for a source file with what follows from the key of the file, so that what it remembers is what
would be answered anyway: `Configuration.RecallsModules`. Hence a dump yields the same in a run
of its own: `files_do_not_influence_each_other`. Only a search for layouts that does not end
keeps a run from the dumps that come later: `looped_dump_hides_later_one`.
-/

namespace ForeignBindings

namespace Configuration

variable {configuration : Configuration}

/-- The name that the module of a source file gets, if its raw name can be converted. -/
def moduleValue (configuration : Configuration) (key : String) : Except ConverterError String :=
  convertName (configuration.moduleNames.find? key)
    (configuration.converters.chain .moduleName (configuration.fileConverters.find? key))
    (SourceFile.rawModuleName key)

/-- A table of module names that remembers nothing but the names that source files get under a
configuration. -/
structure RecallsModules (configuration : Configuration) (modules : ModuleNameTable) : Prop where
  explicit : modules.explicit = configuration.moduleNames
  value : ∀ key output, modules.table.find? (.unscoped key) = some output →
    configuration.moduleValue key = .ok output

/-- A new table remembers nothing. -/
theorem recallsModules_new : configuration.RecallsModules (.new configuration.moduleNames) where
  explicit := rfl
  value _ _ found := by cases found

/-- A call for a source file is answered with the name that the file gets, and the table still
remembers nothing else. -/
theorem RecallsModules.resolve {modules : ModuleNameTable}
    (recalls : configuration.RecallsModules modules) (key : String) :
    ∃ later, configuration.RecallsModules later ∧
      modules.resolve key (SourceFile.rawModuleName key)
          (configuration.converters.chain .moduleName (configuration.fileConverters.find? key)) =
        (configuration.moduleValue key, later) := by
  have asked : convertName (modules.explicit.find? key)
      (configuration.converters.chain .moduleName (configuration.fileConverters.find? key))
      (SourceFile.rawModuleName key) = configuration.moduleValue key := by
    rw [recalls.explicit, moduleValue]
  unfold ModuleNameTable.resolve
  rw [asked]
  rcases modules.table.resolve_cases (.unscoped key) (configuration.moduleValue key) with
    ⟨output, found, step⟩ | ⟨output, _, converted, step⟩ | ⟨error, _, failed, step⟩
  · rw [step, recalls.value key output found]
    exact ⟨modules, recalls, rfl⟩
  · rw [step, converted]
    refine ⟨{ modules with table := modules.table.record (.unscoped key) output },
      ⟨recalls.explicit, fun other recorded found => ?_⟩, rfl⟩
    rw [NameTable.find?_record] at found
    split at found
    case isTrue same =>
      have sameKey : other = key := congrArg ScopedName.name same
      rw [sameKey, ← Option.some.inj found]
      exact converted
    case isFalse => exact recalls.value other recorded found
  · rw [step, failed]
    exact ⟨modules, recalls, rfl⟩

/-- What is made with a table of module names and handed on with it is the same for every table
that recalls only what files get, and such a table is handed on. -/
def IsSettled {α : Type} (configuration : Configuration) (value : α)
    (step : ModuleNameTable → α × ModuleNameTable) : Prop :=
  ∀ modules, configuration.RecallsModules modules →
    ∃ later, configuration.RecallsModules later ∧ step modules = (value, later)

/-- The module of a source file is named as if it were the only one. -/
theorem exists_moduleName (configuration : Configuration) (key : String) :
    ∃ name reports, ∀ modules, configuration.RecallsModules modules →
      ∃ later, configuration.RecallsModules later ∧
        configuration.moduleName modules key = (name, reports, later) := by
  unfold moduleName
  cases converted : configuration.moduleValue key with
  | ok name =>
    refine ⟨name, [], fun modules recalls => ?_⟩
    obtain ⟨later, recallsLater, step⟩ := recalls.resolve key
    exact ⟨later, recallsLater, by simp only [step, converted]⟩
  | error error =>
    refine ⟨SourceFile.rawModuleName key, [moduleUnconvertible key error],
      fun modules recalls => ?_⟩
    obtain ⟨later, recallsLater, step⟩ := recalls.resolve key
    exact ⟨later, recallsLater, by simp only [step, converted]⟩

/-- A unit is turned into a module as if it were the only one. -/
theorem exists_produce_settled (configuration : Configuration) (dump : String)
    (unit : SourceUnit) :
    ∃ product, configuration.IsSettled product fun modules =>
      configuration.produce modules dump unit := by
  obtain ⟨name, reports, named⟩ :=
    configuration.exists_moduleName (configuration.keyOf dump unit)
  obtain ⟨_, -, alone⟩ := named _ recallsModules_new
  refine ⟨(configuration.produce (.new configuration.moduleNames) dump unit).1,
    fun modules recalls => ?_⟩
  obtain ⟨later, recallsLater, step⟩ := named modules recalls
  refine ⟨later, recallsLater, ?_⟩
  unfold produce
  simp only [step, alone]

section Outcomes

variable (parse : (path : String) → (options : List String) → Except UnitError SourceUnit)
  (base : String)

/-- A dump yields what it would yield if it were the only one. -/
theorem exists_outcome_settled (configuration : Configuration) (dump : String) :
    ∃ yielded, configuration.IsSettled yielded fun modules =>
      configuration.outcome parse base modules dump := by
  unfold outcome
  cases parse (Path.join base dump) configuration.compilerOptions with
  | error error => exact ⟨.error error, fun modules recalls => ⟨modules, recalls, rfl⟩⟩
  | ok unit =>
    obtain ⟨product, settled⟩ := configuration.exists_produce_settled dump unit
    refine ⟨.ok product, fun modules recalls => ?_⟩
    obtain ⟨later, recallsLater, step⟩ := settled modules recalls
    exact ⟨later, recallsLater, by simp only [step]⟩

/-- Dumps yield what each of them yields with a new table of module names. -/
theorem RecallsModules.outcomesFrom {modules : ModuleNameTable}
    (recalls : configuration.RecallsModules modules) (names : List String) :
    (configuration.outcomesFrom parse base modules names).1 =
      names.flatMap fun dump =>
        (configuration.outcomesFrom parse base (.new configuration.moduleNames) [dump]).1 := by
  induction names generalizing modules with
  | nil => rfl
  | cons dump rest inductionHypothesis =>
    -- The table behind the first dump recalls only what files get, and so does a new one.
    obtain ⟨yielded, settled⟩ := configuration.exists_outcome_settled parse base dump
    obtain ⟨later, recallsLater, step⟩ := settled modules recalls
    obtain ⟨_, -, alone⟩ := settled _ recallsModules_new
    rw [List.flatMap_cons, ← inductionHypothesis recallsLater]
    simp only [Configuration.outcomesFrom, step, alone, List.singleton_append]

end Outcomes

/-- The same configuration for other dumps. -/
def onFiles (configuration : Configuration) (fileNames : List String) : Configuration :=
  { configuration with fileNames }

/-- What dumps yield does not depend on the dumps that are listed. -/
theorem outcomesFrom_onFiles (configuration : Configuration) (listed : List String)
    (parse : (path : String) → (options : List String) → Except UnitError SourceUnit)
    (base : String) (modules : ModuleNameTable) (names : List String) :
    (configuration.onFiles listed).outcomesFrom parse base modules names =
      configuration.outcomesFrom parse base modules names := by
  induction names generalizing modules with
  | nil => rfl
  | cons dump rest inductionHypothesis =>
    have same : (configuration.onFiles listed).outcome parse base modules dump =
        configuration.outcome parse base modules dump := rfl
    unfold outcomesFrom
    simp only [same, inductionHypothesis]

end Configuration

namespace Batch

section Delivered

variable {m : Type → Type} [Monad m] [LawfulMonad m] (files : FileAccess m)
  (parse : (path : String) → (options : List String) → Except UnitError SourceUnit)
  (dumps : DumpOptions) (configuration : Configuration) (base : String)

/-- All units of dumps have searches that end. -/
def AllSearchesEnd (names : List String) : Prop :=
  ∀ dump ∈ names, ∀ unit,
    parse (Path.join base dump) configuration.compilerOptions = .ok unit →
      configuration.SearchesEnd dump unit

variable {parse configuration base}

/-- A front end that is a function yields only such units for the dumps. -/
theorem AllSearchesEnd.fileSearchesEnd {names : List String}
    (ends : AllSearchesEnd parse configuration base names) :
    ∀ dump ∈ names, FileSearchesEnd ⟨files, .ofFunction parse, dumps⟩ configuration base dump :=
  fun dump member => yields_pure (ends dump member)

/-- A run begins by delivering what its first dumps yield, if their searches end. -/
theorem exists_runToEnd_eq_deliverAll (runnable : configuration.isRunnable = true)
    {names later : List String} (listed : configuration.fileNames = names ++ later)
    (ends : AllSearchesEnd parse configuration base names) (session : Session) :
    ∃ rest : Session × List Delivery → OptionT m (Session × Nat),
      runToEnd ⟨files, .ofFunction parse, dumps⟩ configuration base session =
        liftM (deliverAll files dumps (Path.join base configuration.outputDirectory)
          ((session.report configuration.problems).warnPacked configuration.storableInstances)
          (configuration.outcomesFrom parse base (.new configuration.moduleNames) names).1) >>=
          rest := by
  unfold runToEnd runWith
  simp only [runnable, if_true]
  rw [listed, runFiles_append,
    runFiles_eq_of_searchesEnd _ _ _ (ends.fileSearchesEnd files dumps), runFiles_eq, liftM_map,
    bind_assoc, bind_map_left]
  exact ⟨_, rfl⟩

end Delivered

/-- Files of one run do not influence each other. For any list of dumps, with repetitions or
not, the dumps yield in order what each of them yields in a run of the same configuration for
that dump alone, whatever became of the others and however their modules could be written:
the contents, the name, the path and the text of the module, and what is reported on the way.
A run delivers this and comes to its end if all searches for layouts end. Those of a dump end
if it has no instances or no enums that go round in a circle. Where dumps follow whose
searches may not end, the run still begins by delivering what the dumps before them yield. -/
theorem files_do_not_influence_each_other (configuration : Configuration)
    (runnable : configuration.isRunnable = true)
    (parse : (path : String) → (options : List String) → Except UnitError SourceUnit)
    (base : String) :
    (∀ names, (configuration.onFiles names).outcomes parse base =
      names.flatMap fun dump => (configuration.onFiles [dump]).outcomes parse base) ∧
    (∀ dump unit, (configuration.storableInstances = true →
        NoEnumerationCycle (configuration.contentsOf dump unit).tags) →
      configuration.SearchesEnd dump unit) ∧
    ∀ names, AllSearchesEnd parse configuration base names →
      ∀ (m : Type → Type) [Monad m] [LawfulMonad m] (files : FileAccess m) (dumps : DumpOptions)
        (session : Session),
        let delivered := deliverAll files dumps (Path.join base configuration.outputDirectory)
          ((session.report configuration.problems).warnPacked configuration.storableInstances)
          ((configuration.onFiles names).outcomes parse base)
        runToEnd ⟨files, .ofFunction parse, dumps⟩ (configuration.onFiles names) base session =
          liftM (conclude ((configuration.onFiles names).modulesOfRun parse base) <$> delivered) ∧
        ∀ later, ∃ rest : Session × List Delivery → OptionT m (Session × Nat),
          runToEnd ⟨files, .ofFunction parse, dumps⟩ (configuration.onFiles (names ++ later)) base
            session = liftM delivered >>= rest := by
  refine ⟨?independent, ?acyclic, ?delivered⟩
  case independent =>
    intro names
    exact Configuration.recallsModules_new.outcomesFrom parse base names
  case acyclic => exact fun _ _ => Configuration.searchesEnd_of_acyclic
  case delivered =>
    intro names ends m _ _ files dumps session delivered
    constructor
    · let job : Job := ⟨configuration.onFiles names, base⟩
      have jobEnds : job.SearchesEnd ⟨files, .ofFunction parse, dumps⟩ := by
        unfold Job.SearchesEnd
        rw [show job.dumps = names from if_pos runnable]
        exact ends.fileSearchesEnd files dumps
      exact (jobEnds.runToEnd_eq session).trans
        (congrArg _ (run_eq files parse dumps job.configuration base runnable session))
    · intro later
      have isRunnable : (configuration.onFiles (names ++ later)).isRunnable = true := runnable
      have begins := exists_runToEnd_eq_deliverAll files dumps isRunnable rfl ends session
      rw [Configuration.outcomesFrom_onFiles] at begins
      unfold delivered Configuration.outcomes
      rw [Configuration.outcomesFrom_onFiles]
      exact begins

/-- The searches for dumps with shapes end, around one that cannot be read. -/
theorem allSearchesEnd_shapes :
    AllSearchesEnd parseShapes withInstances "." ["shapes.yaml", "hidden.yaml", "shapes.yaml"] := by
  have shapes : withInstances.SearchesEnd "shapes.yaml" (shapesUnit (.builtin .int)) :=
    searchesEnd_shapes (by decide +kernel)
  intro dump member unit parsed
  simp only [List.mem_cons, List.not_mem_nil, or_false] at member
  rcases member with rfl | rfl | rfl
  · cases parsed
    exact shapes
  · cases parsed
  · cases parsed
    exact shapes

/-- A dump that is listed twice yields the same twice, around one that cannot be read, and the
run delivers it. -/
theorem shapes_around_hidden :
    let names := ["shapes.yaml", "hidden.yaml", "shapes.yaml"]
    let configuration := withInstances.onFiles names
    withInstances.isRunnable = true ∧ AllSearchesEnd parseShapes withInstances "." names ∧
    configuration.outcomes parseShapes "." =
      (withInstances.onFiles ["shapes.yaml"]).outcomes parseShapes "." ++
        (withInstances.onFiles ["hidden.yaml"]).outcomes parseShapes "." ++
        (withInstances.onFiles ["shapes.yaml"]).outcomes parseShapes "." ∧
    runToEnd ⟨FileTree.access, .ofFunction parseShapes, {}⟩ configuration "." {} =
      liftM (conclude (configuration.modulesOfRun parseShapes ".") <$>
        deliverAll FileTree.access {} (Path.join "." "out")
          ((Session.report {} withInstances.problems).warnPacked true)
          (configuration.outcomes parseShapes ".")) := by
  intro names configuration
  have runnable : withInstances.isRunnable = true := by decide +kernel
  have shared := files_do_not_influence_each_other withInstances runnable parseShapes "."
  refine ⟨runnable, allSearchesEnd_shapes, ?_, ?_⟩
  · rw [shared.1]
    simp only [names, List.flatMap_cons, List.flatMap_nil, List.append_nil, List.append_assoc]
  · exact (shared.2.2 names allSearchesEnd_shapes (StateM FileTree) FileTree.access {} {}).1

/-- A dump for which a search does not end keeps the run from the dump behind it: no module is
made of that one, while it has a module if it is the only one. -/
theorem looped_dump_hides_later_one :
    let tools : Tools (StateM FileTree) := ⟨FileTree.access, .ofFunction parseShapes, {}⟩
    let ran := fun names => (runToEnd tools (withInstances.onFiles names) "." {}).run.run {}
    let path := "./out/Library/LowLevel/Empty.hs"
    withInstances.isRunnable = true ∧
    ((ran ["empty.yaml"]).2.read path).isOk = true ∧
    ran ["looped.yaml", "empty.yaml"] = (none, {}) ∧
    ((ran ["looped.yaml", "empty.yaml"]).2.read path).isOk = false := by
  intro tools ran path
  have runnable : withInstances.isRunnable = true := by decide +kernel
  let both := withInstances.onFiles ["looped.yaml", "empty.yaml"]
  have isRunnable : both.isRunnable = true := runnable
  have stops : runToEnd tools both "." {} = failure :=
    runToEnd_eq_failure isRunnable rfl rfl searchLayouts_looped {}
  have stopped : ran ["looped.yaml", "empty.yaml"] = (none, {}) := by
    unfold ran
    rw [stops]
    rfl
  refine ⟨runnable, ?_, stopped, ?_⟩
  · decide +kernel
  · rw [stopped]
    decide +kernel

end Batch

end ForeignBindings
