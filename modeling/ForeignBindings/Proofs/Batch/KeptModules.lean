import ForeignBindings.Proofs.Batch.Accounting
import ForeignBindings.Proofs.Batch.SeparateFiles
import ForeignBindings.Proofs.FileTree.Destination
import ForeignBindings.Proofs.Name.ClashReport

/-!
# What a clean run leaves behind

A run without errors has written the module of each of its dumps, and different source files
have got different module names: `Attempt.exists_units_of_errors_eq_zero` and
`Attempt.moduleValue_injective`. So a module is lost only to a later dump of the same source
file, or to one whose module name differs and yet leads to the same file, for which it takes a
`/` in a name: `clean_run_keeps_modules`.
-/

namespace ForeignBindings

namespace Configuration

variable (configuration : Configuration)

/-- What a unit yields that is the only one of a run. -/
def productOf (dump : String) (unit : SourceUnit) : Product :=
  (configuration.produce (.new configuration.moduleNames) dump unit).1

/-- The call for the module name of a source file. -/
def moduleRequest (key : String) : ModuleNameTable.Request where
  file := key
  raw := SourceFile.rawModuleName key
  chain := configuration.converters.chain .moduleName (configuration.fileConverters.find? key)

/-- The table behind a unit is that behind the call for the module name. -/
theorem produce_modules (modules : ModuleNameTable) (dump : String) (unit : SourceUnit) :
    (configuration.produce modules dump unit).2 =
      (modules.resolveAll [configuration.moduleRequest (configuration.keyOf dump unit)]).2 := by
  change (configuration.moduleName modules (configuration.keyOf dump unit)).2.2 =
    (modules.resolve _ _ _).2
  unfold moduleName
  simp only [moduleRequest]
  split <;> simp_all

variable {configuration}

/-- A unit yields what it would if it were the only one. -/
theorem RecallsModules.produce {modules : ModuleNameTable}
    (recalls : configuration.RecallsModules modules) (dump : String) (unit : SourceUnit) :
    (configuration.produce modules dump unit).1 = configuration.productOf dump unit ∧
      configuration.RecallsModules (configuration.produce modules dump unit).2 := by
  obtain ⟨product, settled⟩ := configuration.exists_produce_settled dump unit
  obtain ⟨later, recallsLater, step⟩ := settled modules recalls
  obtain ⟨_, -, alone⟩ := settled _ recallsModules_new
  dsimp only at step alone
  unfold productOf
  rw [step, alone]
  exact ⟨rfl, recallsLater⟩

/-- Calls for source files are answered with the names that the files get. -/
theorem RecallsModules.answers {modules : ModuleNameTable}
    (recalls : configuration.RecallsModules modules) (keys : List String) :
    (modules.resolveAll (keys.map configuration.moduleRequest)).1 =
      keys.map fun key => (.unscoped key, configuration.moduleValue key) := by
  induction keys generalizing modules with
  | nil => rfl
  | cons key rest inductionHypothesis =>
    obtain ⟨later, recallsLater, step⟩ := recalls.resolve key
    have first : modules.resolve (configuration.moduleRequest key).file
        (configuration.moduleRequest key).raw (configuration.moduleRequest key).chain =
        (configuration.moduleValue key, later) := step
    simp only [List.map_cons, ModuleNameTable.resolveAll, first, inductionHypothesis recallsLater]
    rfl

/-- Where there is no clash, source files with the same module name are the same. -/
theorem key_eq_of_moduleValue_eq {keys : List String} {key other name : String}
    (quiet : ((ModuleNameTable.new configuration.moduleNames).resolveAll
      (keys.map configuration.moduleRequest)).2.clashes .haskell = [])
    (isKey : key ∈ keys) (isOther : other ∈ keys)
    (named : configuration.moduleValue key = .ok name)
    (otherNamed : configuration.moduleValue other = .ok name) : key = other := by
  rw [ModuleNameTable.clashes_resolveAll, recallsModules_new.answers,
    clashReport_eq_nil_iff] at quiet
  have resolved : ∀ {file}, file ∈ keys → configuration.moduleValue file = .ok name →
      (ScopedName.unscoped file, name) ∈ resolvedNames
        (keys.map fun key => (ScopedName.unscoped key, configuration.moduleValue key)) := by
    intro file isFile value
    rw [mem_resolvedNames]
    exact List.mem_map.mpr ⟨file, isFile, by rw [value]⟩
  have same := quiet.1 _ (resolved isKey named) _ (resolved isOther otherNamed) rfl
  exact congrArg ScopedName.name same

/-- The name that a module gets is the one that its source file gets, if there is one. -/
theorem RecallsModules.moduleName_of_ok {modules : ModuleNameTable}
    (recalls : configuration.RecallsModules modules) {key name : String}
    (named : configuration.moduleValue key = .ok name) :
    (configuration.moduleName modules key).1 = name := by
  obtain ⟨later, -, step⟩ := recalls.resolve key
  unfold moduleName
  simp only [step, named]

/-- A module name that cannot be converted is reported. -/
theorem RecallsModules.moduleName_of_error {modules : ModuleNameTable}
    (recalls : configuration.RecallsModules modules) {key : String} {error : ConverterError}
    (failed : configuration.moduleValue key = .error error) :
    (configuration.moduleName modules key).2.1 = [moduleUnconvertible key error] := by
  obtain ⟨later, -, step⟩ := recalls.resolve key
  unfold moduleName
  simp only [step, failed]

/-- The module of a unit goes to the path that its name says. -/
theorem path_productOf {dump name : String} {unit : SourceUnit}
    (named : configuration.moduleValue (configuration.keyOf dump unit) = .ok name) :
    (configuration.productOf dump unit).generated.path =
      Render.modulePath configuration.renderOptions name := by
  let key := configuration.keyOf dump unit
  let got := configuration.moduleName (.new configuration.moduleNames) key
  have recalls : (configuration.resolver key got.1).Recalls := Resolver.recalls_new _ _ _ _ _
  have gotName : got.1 = name := recallsModules_new.moduleName_of_ok named
  let contents := (unit.lower (configuration.policy key) {}).1
  change (contents.generate configuration.renderOptions got.1 (configuration.resolver key got.1)
    _).1.path = _
  rw [contents.generate_eq_declarations _ _ recalls.answersLike, gotName]

/-- Source files with different module names, in one of which `/` occurs. -/
def HasWanderingNames (configuration : Configuration) (key other : String) : Prop :=
  ∃ name otherName, configuration.moduleValue key = .ok name ∧
    configuration.moduleValue other = .ok otherName ∧ name ≠ otherName ∧
    ('/' ∈ name.toList ∨ '/' ∈ otherName.toList)

end Configuration

/-- Access to the files of a tree that stands beside another state. -/
def FileTree.accessBeside (σ : Type) : FileAccess (StateM (σ × FileTree)) where
  read path := do return (← get).2.read path
  write path text := modifyGet fun state =>
    let written := state.2.write path text
    (written.1, state.1, written.2)

/-- To write a file is to write it to the tree, with what stands beside it left alone. -/
theorem FileTree.run_write_accessBeside {σ : Type} {state : σ × FileTree} {path text : String}
    {written : Except FileFault Unit} {tree : FileTree}
    (wrote : state.2.write path text = (written, tree)) :
    ((accessBeside σ).write path text).run state = (written, state.1, tree) := by
  simp only [accessBeside, modifyGet, MonadStateOf.modifyGet, StateT.modifyGet, StateT.run, wrote]
  rfl

/-- A front end that changes no file. It may read any and remember what it likes. -/
def FrontEnd.KeepsFiles {σ : Type} (frontEnd : FrontEnd (StateM (σ × FileTree))) : Prop :=
  ∀ path options state, ((frontEnd.parse path options).run state).2.2 = state.2

/-- The front end that reads dumps changes no file. -/
theorem FrontEnd.keepsFiles_ofDumps (σ : Type) :
    (FrontEnd.ofDumps (FileTree.accessBeside σ)).KeepsFiles := by
  intro path options state
  unfold FrontEnd.ofDumps FileTree.accessBeside
  cases found : state.2.read path <;> simp [found] <;> rfl

namespace Batch

/-- The unit of a dump, if there is one. -/
def Answer.unit? : Answer → Option SourceUnit
  | unparsed _ => none
  | parsed unit _ => some unit

section Handling

variable (configuration : Configuration) (output : String)

/-- The keys of the source files that dumps stand for. -/
def keysOf (entries : List (String × Answer)) : List String :=
  entries.filterMap fun entry => entry.2.unit?.map (configuration.keyOf entry.1)

/-- Whether a module could be written makes no difference to the table. -/
theorem handle_parsed_modules (modules : ModuleNameTable) (dump : String) (unit : SourceUnit)
    (written : Except FileFault Unit) :
    (handle configuration output modules dump (.parsed unit written)).2 =
      (configuration.produce modules dump unit).2 := by
  cases written <;> rfl

/-- The table behind dumps is that behind the calls for their source files. -/
theorem handleAll_modules (modules : ModuleNameTable) (entries : List (String × Answer)) :
    (handleAll configuration output modules entries).2 =
      (modules.resolveAll ((keysOf configuration entries).map configuration.moduleRequest)).2 := by
  induction entries generalizing modules with
  | nil => rfl
  | cons entry rest inductionHypothesis =>
    obtain ⟨dump, answer⟩ := entry
    cases answer with
    | unparsed error => exact inductionHypothesis modules
    | parsed unit written =>
      change (handleAll configuration output
        (handle configuration output modules dump (.parsed unit written)).2 rest).2 = _
      rw [inductionHypothesis, handle_parsed_modules, configuration.produce_modules]
      rfl

variable {configuration}

/-- A dump is handled under a table that recalls only what files get, and leaves such a table. -/
theorem recallsModules_handle {modules : ModuleNameTable}
    (recalls : configuration.RecallsModules modules) (dump : String) (answer : Answer) :
    configuration.RecallsModules (handle configuration output modules dump answer).2 := by
  cases answer with
  | unparsed error => exact recalls
  | parsed unit written =>
    rw [handle_parsed_modules]
    exact (recalls.produce dump unit).2

/-- Each dump is handled under a table that recalls only what files get. -/
theorem exists_handle_mem_handleAll {modules : ModuleNameTable}
    (recalls : configuration.RecallsModules modules) {entries : List (String × Answer)}
    {dump : String} {answer : Answer} (member : (dump, answer) ∈ entries) :
    ∃ before, configuration.RecallsModules before ∧
      (handle configuration output before dump answer).1 ∈
        (handleAll configuration output modules entries).1 := by
  induction entries generalizing modules with
  | nil => exact absurd member List.not_mem_nil
  | cons entry rest inductionHypothesis =>
    rcases List.mem_cons.mp member with rfl | later
    · exact ⟨modules, recalls, List.mem_cons_self⟩
    · obtain ⟨before, recallsBefore, handled⟩ := inductionHypothesis
        (recallsModules_handle output recalls entry.1 entry.2) later
      exact ⟨before, recallsBefore, List.mem_cons_of_mem _ handled⟩

variable (configuration)

/-- What is reported when a module gets its name is reported about the dump. -/
theorem moduleName_subset_diagnostics (modules : ModuleNameTable) (dump : String)
    (unit : SourceUnit) :
    (configuration.moduleName modules (configuration.keyOf dump unit)).2.1 ⊆
      (handle configuration output modules dump (.parsed unit (.ok ()))).1.diagnostics := by
  obtain ⟨reports, held, -, among⟩ := configuration.exists_reports_produce modules dump unit
  simp only [handle, held]
  have listed : (Queue.extend {} reports).toList = reports := Queue.isOpen_new.toList_extend reports
  rw [listed]
  exact among

end Handling

namespace Attempt

variable {attempt : Attempt}

/-- Where nothing fails, there is a unit of each dump, whose module was written. -/
theorem exists_units_of_noFailures (entries : List (String × Answer))
    (noFailures : ∀ entry ∈ entries, entry.2.isFailure = false) :
    ∃ units : List (String × SourceUnit),
      entries = units.map fun entry => (entry.1, .parsed entry.2 (.ok ())) := by
  induction entries with
  | nil => exact ⟨[], rfl⟩
  | cons entry rest inductionHypothesis =>
    obtain ⟨succeeds, others⟩ := List.forall_mem_cons.mp noFailures
    obtain ⟨units, rfl⟩ := inductionHypothesis others
    match entry, succeeds with
    | (dump, .parsed unit (.ok ())), _ => exact ⟨(dump, unit) :: units, rfl⟩

/-- A run without errors takes place. -/
theorem isRunnable_of_errors_eq_zero (clean : attempt.errors = 0) :
    attempt.job.configuration.isRunnable = true := by
  by_contra notRunnable
  have counted : attempt.errors = 1 := if_neg notRunnable
  simp [counted] at clean

/-- After a run without errors there is a unit of each dump, whose module was written. -/
theorem exists_units_of_errors_eq_zero (clean : attempt.errors = 0) :
    ∃ units : List (String × SourceUnit),
      units.map Prod.fst = attempt.job.configuration.fileNames ∧
      attempt.entries = units.map fun entry => (entry.1, .parsed entry.2 (.ok ())) := by
  have runnable := isRunnable_of_errors_eq_zero clean
  have failures : attempt.failures = 0 := by
    unfold errors at clean
    rw [if_pos runnable] at clean
    omega
  obtain ⟨units, answered⟩ := exists_units_of_noFailures attempt.entries
    (by simpa [Attempt.failures] using failures)
  refine ⟨units, ?_, answered⟩
  have names := attempt.dumps
  rw [answered, Job.dumps, if_pos runnable, List.map_map] at names
  exact names

/-- After a run without errors, the source files of its dumps have got module names. -/
theorem exists_moduleValue_of_mem (attempt : Attempt) (clean : attempt.errors = 0) {dump : String}
    {unit : SourceUnit} (asked : (dump, .parsed unit (.ok ())) ∈ attempt.entries) :
    ∃ name, attempt.job.configuration.moduleValue
      (attempt.job.configuration.keyOf dump unit) = .ok name := by
  have silent := (attempt.errors_eq_zero_iff false).mp clean
  let key := attempt.job.configuration.keyOf dump unit
  cases value : attempt.job.configuration.moduleValue key with
  | ok name => exact ⟨name, rfl⟩
  | error error =>
    -- The report that there is no name would be an error.
    obtain ⟨before, recalls, handled⟩ := exists_handle_mem_handleAll attempt.job.output
      Configuration.recallsModules_new asked
    have reported : Configuration.moduleUnconvertible key error ∈ attempt.reports false := by
      have named := moduleName_subset_diagnostics attempt.job.configuration attempt.job.output
        before dump unit
      rw [recalls.moduleName_of_error value] at named
      refine List.mem_append_left _ (List.mem_append_right _ (List.mem_flatMap.mpr ⟨_, handled, ?_⟩))
      exact named (List.mem_singleton_self _)
    exact absurd (silent _ reported) Bool.noConfusion

/-- After a run without errors, dumps whose modules have the same name stand for the same source
file. -/
theorem key_eq_of_errors_eq_zero (clean : attempt.errors = 0) {key other name : String}
    (isKey : key ∈ keysOf attempt.job.configuration attempt.entries)
    (isOther : other ∈ keysOf attempt.job.configuration attempt.entries)
    (named : attempt.job.configuration.moduleValue key = .ok name)
    (otherNamed : attempt.job.configuration.moduleValue other = .ok name) : key = other := by
  have silent := (attempt.errors_eq_zero_iff false).mp clean
  have quiet : attempt.handling.2.clashes .haskell = [] := by
    by_contra loud
    obtain ⟨clash, isClash⟩ := List.exists_mem_of_ne_nil _ loud
    have isError := clash.diagnostic_isError.1
    have reported : clash.diagnostic ∈ attempt.reports false :=
      List.mem_append_right _ (List.mem_map_of_mem isClash)
    rw [silent _ reported] at isError
    cases isError
  rw [handling, handleAll_modules] at quiet
  exact Configuration.key_eq_of_moduleValue_eq quiet isKey isOther named otherNamed

end Attempt

section Writing

variable {σ : Type} (frontEnd : FrontEnd (StateM (σ × FileTree))) (dumps : DumpOptions)
  (configuration : Configuration) (base output : String)

/-- The path and the text of the module of a unit. -/
def moduleFile (entry : String × SourceUnit) : String × String :=
  let generated := (configuration.productOf entry.1 entry.2).generated
  (Path.join output generated.path, generated.text)

/-- If the module of a dump is written, it is written to the tree that was there before. -/
theorem write_askFile (keeps : frontEnd.KeepsFiles) {modules : ModuleNameTable}
    (recalls : configuration.RecallsModules modules) {dump : String} {unit : SourceUnit}
    {state after : σ × FileTree}
    (asked : (askFile ⟨FileTree.accessBeside σ, frontEnd, dumps⟩ .none configuration base output
      modules dump).run state = (.parsed unit (.ok ()), after)) :
    state.2.write (moduleFile configuration output (dump, unit)).1
      (moduleFile configuration output (dump, unit)).2 = (.ok (), after.2) := by
  have kept := keeps (Path.join base dump) configuration.compilerOptions state
  unfold askFile at asked
  rw [StateT.run_bind] at asked
  cases parsed : (frontEnd.parse (Path.join base dump) configuration.compilerOptions).run state with
  | mk result between =>
    rw [parsed] at kept asked
    cases result with
    | error error => cases asked
    | ok found =>
      change StateT.run (askWrite ⟨FileTree.accessBeside σ, frontEnd, dumps⟩ output found
        (configuration.produce modules dump found).1.generated) between = _ at asked
      dsimp only at kept
      rw [(recalls.produce dump found).1] at asked
      cases wrote : between.2.write (moduleFile configuration output (dump, found)).1
          (moduleFile configuration output (dump, found)).2 with
      | mk written tree =>
        have ran := FileTree.run_write_accessBeside wrote
        rw [kept] at wrote
        rw [askWrite, StateT.run_map] at asked
        simp only [moduleFile] at ran
        rw [ran] at asked
        cases asked
        exact wrote

/-- If all modules are written, they are written in the order of the dumps. -/
theorem writes_askFiles (keeps : frontEnd.KeepsFiles) {modules : ModuleNameTable}
    (recalls : configuration.RecallsModules modules) (names : List String)
    (state : σ × FileTree) (units : List (String × SourceUnit)) :
    let asked := (askFiles ⟨FileTree.accessBeside σ, frontEnd, dumps⟩ .none configuration base
      output modules names).run state
    asked.1.entries = units.map (fun entry => (entry.1, .parsed entry.2 (.ok ()))) →
      FileTree.Writes state.2 (units.map (moduleFile configuration output)) asked.2.2 := by
  induction names generalizing modules state units with
  | nil =>
    intro asked answered
    have nothing : units = [] := List.map_eq_nil_iff.mp answered.symm
    rw [nothing]
    exact .nil
  | cons dump rest inductionHypothesis =>
    intro asked answered
    cases first : (askFile ⟨FileTree.accessBeside σ, frontEnd, dumps⟩ .none configuration base
      output modules dump).run state with
    | mk answer after =>
      let later := (askFiles ⟨FileTree.accessBeside σ, frontEnd, dumps⟩ .none configuration base
        output (handle configuration output modules dump answer).2 rest).run after
      have whole : asked = (.cons dump answer later.1, later.2) := by
        unfold asked askFiles
        rw [StateT.run_bind, first]
        rfl
      rw [whole] at answered ⊢
      cases units with
      | nil => cases answered
      | cons entry others =>
        obtain ⟨found, unit⟩ := entry
        obtain ⟨sameFirst, sameLater⟩ := List.cons.inj answered
        obtain ⟨rfl, rfl⟩ := Prod.mk.inj sameFirst
        exact .cons
          (write_askFile frontEnd dumps configuration base output keeps recalls first)
          (inductionHypothesis (recallsModules_handle output recalls dump _) after others sameLater)

end Writing

/-- A dump takes the place of another one: its module goes to the same file with another text. Both
dumps stand for one source file, or their module names differ, and `/` occurs in one of them. -/
structure Job.Replaces (job : Job) (entry other : String × SourceUnit) : Prop where
  destination : Path.destination (moduleFile job.configuration job.output entry).1 =
    Path.destination (moduleFile job.configuration job.output other).1
  text : (moduleFile job.configuration job.output entry).2 ≠
    (moduleFile job.configuration job.output other).2
  origin :
    job.configuration.keyOf other.1 other.2 = job.configuration.keyOf entry.1 entry.2 ∨
      job.configuration.HasWanderingNames (job.configuration.keyOf entry.1 entry.2)
        (job.configuration.keyOf other.1 other.2)

/-- Dumps with units that go to the same file after a run without errors stand for the same source
file, or else have different module names, in one of which `/` occurs. -/
theorem Attempt.key_eq_or_of_destination_eq (attempt : Attempt) (clean : attempt.errors = 0)
    {entry other : String × SourceUnit}
    (asked : (entry.1, .parsed entry.2 (.ok ())) ∈ attempt.entries)
    (askedOther : (other.1, .parsed other.2 (.ok ())) ∈ attempt.entries)
    (same : Path.destination (moduleFile attempt.job.configuration attempt.job.output entry).1 =
      Path.destination (moduleFile attempt.job.configuration attempt.job.output other).1) :
    attempt.job.configuration.keyOf other.1 other.2 =
        attempt.job.configuration.keyOf entry.1 entry.2 ∨
      attempt.job.configuration.HasWanderingNames
        (attempt.job.configuration.keyOf entry.1 entry.2)
        (attempt.job.configuration.keyOf other.1 other.2) := by
  refine or_iff_not_imp_left.mpr fun apart => ?_
  obtain ⟨name, named⟩ := attempt.exists_moduleValue_of_mem clean asked
  obtain ⟨otherName, otherNamed⟩ := attempt.exists_moduleValue_of_mem clean askedOther
  have differ : name ≠ otherName := by
    rintro rfl
    have isKey : ∀ {entry : String × SourceUnit},
        (entry.1, .parsed entry.2 (.ok ())) ∈ attempt.entries →
          attempt.job.configuration.keyOf entry.1 entry.2 ∈
            keysOf attempt.job.configuration attempt.entries :=
      fun member => List.mem_filterMap.mpr ⟨_, member, rfl⟩
    exact apart (key_eq_of_errors_eq_zero clean (isKey askedOther) (isKey asked) otherNamed named)
  refine ⟨name, otherName, named, otherNamed, differ, ?_⟩
  by_contra inner
  obtain ⟨innerName, innerOther⟩ := not_or.mp inner
  simp only [moduleFile] at same
  rw [Configuration.path_productOf named, Configuration.path_productOf otherNamed] at same
  exact differ (Render.name_eq_of_destination_eq innerName innerOther same)

/-- A file that was written in a run without errors is kept, unless a later dump with another text
goes to the same file. -/
theorem Attempt.read_or_exists_of_writes (attempt : Attempt) (clean : attempt.errors = 0)
    {earlier later : List (String × SourceUnit)} {entry : String × SourceUnit}
    (entries : attempt.entries = (earlier ++ entry :: later).map
      fun one => (one.1, .parsed one.2 (.ok ())))
    {tree last : FileTree}
    (written : tree.Writes ((earlier ++ entry :: later).map
      (moduleFile attempt.job.configuration attempt.job.output)) last) :
    let file := moduleFile attempt.job.configuration attempt.job.output entry
    last.read file.1 = .ok file.2 ∨ ∃ other ∈ later,
      attempt.job.Replaces entry other := by
  intro file
  refine or_iff_not_imp_right.mpr fun kept => ?_
  rw [List.map_append, List.map_cons] at written
  refine written.read_of_writes fun otherFile member same => ?_
  obtain ⟨other, isLater, rfl⟩ := List.mem_map.mp member
  by_contra differ
  have asked : ∀ one ∈ earlier ++ entry :: later,
      (one.1, Answer.parsed one.2 (.ok ())) ∈ attempt.entries := by
    intro one isOne
    rw [entries]
    exact List.mem_map_of_mem isOne
  have rival := attempt.key_eq_or_of_destination_eq clean (asked entry (by simp))
    (asked other (by simp [isLater])) same
  exact kept ⟨other, isLater, ⟨same, differ, rival⟩⟩

/-- Runs a job on a tree of files that stands beside a state of the front end. -/
def runBeside {σ : Type} (frontEnd : FrontEnd (StateM (σ × FileTree))) (dumps : DumpOptions)
    (job : Job) (session : Session) (state : σ × FileTree) :
    (Session × Nat) × σ × FileTree :=
  (run ⟨FileTree.accessBeside σ, frontEnd, dumps⟩ job.configuration job.base session).run state

/-- A clean run loses a module only to a later dump of the run with another text that goes to the
same file. Such a dump stands for the same source file, or it has a different module name, and
then `/` occurs in one of the names. The front end may do what it likes except for changing
files. -/
theorem clean_run_keeps_modules {σ : Type} (frontEnd : FrontEnd (StateM (σ × FileTree)))
    (keeps : frontEnd.KeepsFiles) (dumps : DumpOptions) (job : Job) (session : Session)
    (state : σ × FileTree) (clean : (runBeside frontEnd dumps job session state).1.2 = 0) :
    ∃ units : List (String × SourceUnit),
      units.map Prod.fst = job.configuration.fileNames ∧
      ((job.ask ⟨FileTree.accessBeside σ, frontEnd, dumps⟩).run state).1.entries =
        units.map (fun entry => (entry.1, .parsed entry.2 (.ok ()))) ∧
      ∀ earlier entry later, units = earlier ++ entry :: later →
        let file := moduleFile job.configuration job.output entry
        (runBeside frontEnd dumps job session state).2.2.read file.1 = .ok file.2 ∨
          ∃ other ∈ later, job.Replaces entry other := by
  have ran : runBeside frontEnd dumps job session state = (fun asked =>
      ((asked.1.attempt.leave dumps session, asked.1.attempt.errors), asked.2))
        ((job.ask ⟨FileTree.accessBeside σ, frontEnd, dumps⟩).run state) := by
    unfold runBeside
    rw [run_eq_map_ask, StateT.run_map]
    rfl
  rw [ran] at clean ⊢
  generalize asked : (job.ask ⟨FileTree.accessBeside σ, frontEnd, dumps⟩).run state = outcome
    at clean ⊢
  obtain ⟨answered, after⟩ := outcome
  have noErrors : answered.attempt.errors = 0 := clean
  obtain ⟨units, names, entries⟩ := Attempt.exists_units_of_errors_eq_zero noErrors
  have written : state.2.Writes (units.map (moduleFile job.configuration job.output)) after.2 := by
    have writes := writes_askFiles frontEnd dumps job.configuration job.base job.output keeps
      Configuration.recallsModules_new job.dumps state units
    unfold Job.ask Job.askWith at asked
    rw [asked] at writes
    exact writes entries
  refine ⟨units, names, entries, ?_⟩
  rintro earlier entry later rfl
  have kept := answered.attempt.read_or_exists_of_writes noErrors entries written
  simpa only [Answered.job_attempt] using kept

/-- A unit with one variable. -/
def unitOf (file name : String) : SourceUnit :=
  { file, declarations := [{ name, kind := .variable (.builtin .int) }] }

/-- A front end for two dumps, each with a variable of its own. -/
def twoVariables (file path : String) (_ : List String) : Except UnitError SourceUnit :=
  .ok (unitOf file (if path = "./a.json" then "a" else "b"))

/-- A job in which one dump is listed twice. -/
def repeatedDump : Job := ⟨{ fileNames := ["a.json", "b.json", "a.json"] }, "."⟩

/-- A clean run in which one dump is listed twice has left the modules of both. -/
theorem clean_run_of_repeated_dump :
    let frontEnd : FrontEnd (StateM (Unit × FileTree)) := .ofFunction (twoVariables "")
    frontEnd.KeepsFiles ∧
    (runBeside frontEnd {} repeatedDump {} ((), {})).1.2 = 0 ∧
    ∃ units : List (String × SourceUnit),
      units.map Prod.fst = ["a.json", "b.json", "a.json"] ∧
      ∀ earlier entry later, units = earlier ++ entry :: later →
        let file := moduleFile repeatedDump.configuration repeatedDump.output entry
        (runBeside frontEnd {} repeatedDump {} ((), {})).2.2.read file.1 = .ok file.2 ∨
          ∃ other ∈ later, repeatedDump.Replaces entry other := by
  intro frontEnd
  have keeps : frontEnd.KeepsFiles := fun _ _ _ => rfl
  have clean : (runBeside frontEnd {} repeatedDump {} ((), {})).1.2 = 0 := by decide +kernel
  obtain ⟨units, names, -, kept⟩ :=
    clean_run_keeps_modules frontEnd keeps {} repeatedDump {} ((), {}) clean
  exact ⟨keeps, clean, units, names, kept⟩

/-- A run that loses a module: it makes the modules of two dumps without an error, and afterwards
the path of the first module does not hold its text. -/
def LosesFirst (moduleNames : NameMap String) (file : String) : Prop :=
  let job : Job := ⟨{ fileNames := ["a.json", "b.json"], moduleNames }, "."⟩
  let ran := runBeside (.ofFunction (twoVariables file)) {} job {} ((), {})
  let lost := moduleFile job.configuration job.output ("a.json", unitOf file "a")
  ran.1.2 = 0 ∧ ran.2.2.read lost.1 ≠ .ok lost.2

instance (moduleNames : NameMap String) (file : String) :
    Decidable (LosesFirst moduleNames file) :=
  inferInstanceAs (Decidable (_ ∧ _))

/-- Not every clean run keeps all modules. Of two dumps of one source file only the second leaves
its module, and so does the second of two files whose modules are given different names that
lead to one path. -/
theorem clean_run_loses_modules :
    LosesFirst .empty "x.h" ∧ LosesFirst (.ofList [("a", "X"), ("b", "./X")]) "" := by
  decide +kernel

end Batch

end ForeignBindings
