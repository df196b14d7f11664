import ForeignBindings.Proofs.Batch.Answers
import ForeignBindings.Proofs.Render.InstanceSearch

/-!
# Runs that come to an end

Nothing but a search for layouts keeps a run from coming to an end. If the front end yields for
the dumps of a job only units whose searches end, then the run to the end is the run:
`Job.SearchesEnd.runToEnd_eq`. Searches end where no instances are wanted, or where no enums go
round in a circle: `Configuration.searchesEnd_of_acyclic`. A run that meets a struct whose
first field is an enum on a circle has no outcome at all.
-/

namespace ForeignBindings

namespace Configuration

variable {configuration : Configuration} {dump : String} {unit : SourceUnit}

/-- The searches for layouts that the module of a dump takes end. -/
def SearchesEnd (configuration : Configuration) (dump : String) (unit : SourceUnit) : Prop :=
  configuration.searchLayouts dump unit = some ()

/-- The searches for layouts end where no enums of the module go round in a circle. If no
instances are wanted, there are none. -/
theorem searchesEnd_of_acyclic (acyclic : configuration.storableInstances = true →
    NoEnumerationCycle (configuration.contentsOf dump unit).tags) :
    configuration.SearchesEnd dump unit := by
  refine Contents.searchLayouts_eq_some_iff.mpr fun wanted name fields _ => ?_
  obtain ⟨found, ends, -⟩ := Render.exists_searchInstance _ (acyclic wanted) name fields
  exact ⟨found, ends⟩

end Configuration

section Yielding

variable {m : Type → Type} [Monad m] [LawfulMonad m] {α β : Type} {property : α → Prop}

/-- All that an action yields has a property: the same action can yield it with proofs. -/
def Yields {m : Type → Type} [Monad m] {α : Type} (action : m α) (property : α → Prop) : Prop :=
  ∃ proved : m { value // property value }, Subtype.val <$> proved = action

/-- What is yielded at once is all that is yielded. -/
theorem yields_pure {value : α} (holds : property value) : Yields (pure value : m α) property :=
  ⟨pure ⟨value, holds⟩, map_pure _ _⟩

/-- An action yields the same if it stands among actions that may come to nothing. -/
theorem Yields.lift {action : m α} (yields : Yields action property) :
    Yields (liftM action : OptionT m α) property := by
  obtain ⟨proved, rfl⟩ := yields
  exact ⟨liftM proved, (liftM_map _ _).symm⟩

/-- What comes after an action matters only for what the action yields. -/
theorem Yields.bind_eq_bind {action : m α} (yields : Yields action property)
    {first second : α → m β} (same : ∀ value, property value → first value = second value) :
    action >>= first = action >>= second := by
  obtain ⟨proved, rfl⟩ := yields
  rw [bind_map_left, bind_map_left]
  exact bind_congr fun value => same value.val value.property

end Yielding

namespace Batch

variable {m : Type → Type} [Monad m] (tools : Tools m)

/-- All units that the front end yields for a dump have searches that end. -/
def FileSearchesEnd (configuration : Configuration) (base dump : String) : Prop :=
  Yields (tools.frontEnd.parse (Path.join base dump) configuration.compilerOptions)
    fun parsed => ∀ unit, parsed = .ok unit → configuration.SearchesEnd dump unit

/-- All units that the front end yields for the dumps of a job have searches that end. -/
def Job.SearchesEnd (job : Job) : Prop :=
  ∀ dump ∈ job.dumps, FileSearchesEnd tools job.configuration job.base dump

variable [LawfulMonad m] {tools} {configuration : Configuration} {base : String}

/-- All is asked about a dump whose searches end. -/
theorem FileSearchesEnd.askFile_eq {dump : String}
    (ends : FileSearchesEnd tools configuration base dump) (output : String)
    (modules : ModuleNameTable) :
    askFile tools.lift .searches configuration base output modules dump =
      liftM (askFile tools .none configuration base output modules dump) := by
  unfold askFile
  rw [liftM_bind]
  refine ends.lift.bind_eq_bind fun parsed searchesEnd => ?_
  cases parsed with
  | error error => exact (liftM_pure _).symm
  | ok unit =>
    have ended : Preparation.searches configuration dump unit = (pure () : OptionT m Unit) := by
      unfold Preparation.searches
      rw [searchesEnd unit rfl]
      rfl
    simp only [ended, Preparation.none, pure_bind, askWrite, liftM_map]
    rfl

/-- All is asked about dumps whose searches end. -/
theorem askFiles_eq_of_searchesEnd (output : String) (modules : ModuleNameTable)
    {names : List String} (ends : ∀ dump ∈ names, FileSearchesEnd tools configuration base dump) :
    askFiles tools.lift .searches configuration base output modules names =
      liftM (askFiles tools .none configuration base output modules names) := by
  induction names generalizing modules with
  | nil => exact (liftM_pure _).symm
  | cons dump rest inductionHypothesis =>
    obtain ⟨first, others⟩ := List.forall_mem_cons.mp ends
    unfold askFiles
    rw [first.askFile_eq, liftM_bind]
    refine bind_congr fun answer => ?_
    dsimp only
    rw [inductionHypothesis _ others, liftM_bind]
    exact bind_congr fun answered => (liftM_pure _).symm

/-- The modules of dumps whose searches end are all made. -/
theorem runFiles_eq_of_searchesEnd (output : String) (session : Session) (progress : Progress)
    {names : List String} (ends : ∀ dump ∈ names, FileSearchesEnd tools configuration base dump) :
    runFiles tools.lift .searches configuration base output session progress names =
      liftM (runFiles tools .none configuration base output session progress names) := by
  rw [runFiles_eq_map_askFiles, runFiles_eq_map_askFiles,
    askFiles_eq_of_searchesEnd output progress.modules ends, liftM_map]
  rfl

/-- Making the modules of dumps is making those of the first ones and then those of the others. -/
theorem runFiles_append (tools : Tools m) (prepare : Preparation m) (output : String)
    (session : Session) (progress : Progress) (names later : List String) :
    runFiles tools prepare configuration base output session progress (names ++ later) =
      runFiles tools prepare configuration base output session progress names >>= fun reached =>
        runFiles tools prepare configuration base output reached.1 reached.2 later := by
  induction names generalizing session progress with
  | nil => rw [List.nil_append, runFiles, pure_bind]
  | cons dump rest inductionHypothesis =>
    rw [List.cons_append, runFiles, runFiles, bind_assoc]
    exact bind_congr fun _ => inductionHypothesis _ _

/-- All is asked about the dumps of a job whose searches end. -/
theorem Job.SearchesEnd.askToEnd_eq {job : Job} (ends : job.SearchesEnd tools) :
    job.askToEnd tools = liftM (job.ask tools) :=
  askFiles_eq_of_searchesEnd _ _ ends

/-- The run of a job whose searches end is a run to the end. -/
theorem Job.SearchesEnd.runToEnd_eq {job : Job} (ends : job.SearchesEnd tools)
    (session : Session) :
    runToEnd tools job.configuration job.base session =
      liftM (run tools job.configuration job.base session) := by
  have asked : runToEnd tools job.configuration job.base session = _ <$> job.askToEnd tools :=
    runWith_eq_map_askWith tools.lift .searches job session
  rw [asked, ends.askToEnd_eq, run_eq_map_ask, liftM_map]
  rfl

/-- All is asked about jobs whose searches end. -/
theorem attemptAllToEnd_eq {jobs : List Job} (ends : ∀ job ∈ jobs, job.SearchesEnd tools) :
    attemptAllToEnd tools jobs = liftM (attemptAll tools jobs) := by
  induction jobs with
  | nil => exact (liftM_pure _).symm
  | cons job rest inductionHypothesis =>
    obtain ⟨first, others⟩ := List.forall_mem_cons.mp ends
    unfold attemptAllToEnd attemptAll at inductionHypothesis ⊢
    unfold attemptAllWith
    rw [liftM_bind, ← Job.ask, ← Job.askToEnd, first.askToEnd_eq]
    refine bind_congr fun answered => ?_
    rw [inductionHypothesis others, liftM_bind]
    exact bind_congr fun attempts => (liftM_pure _).symm

section Endless

variable {files : FileAccess m}
  {parse : (path : String) → (options : List String) → Except UnitError SourceUnit}
  {dumps : DumpOptions}

/-- A run has no outcome if the searches for its first dump do not end. -/
theorem runToEnd_eq_failure (runnable : configuration.isRunnable = true) {dump : String}
    {rest : List String} (first : configuration.fileNames = dump :: rest) {unit : SourceUnit}
    (parsed : parse (Path.join base dump) configuration.compilerOptions = .ok unit)
    (endless : configuration.searchLayouts dump unit = none) (session : Session) :
    runToEnd ⟨files, .ofFunction parse, dumps⟩ configuration base session = failure := by
  have stops : Preparation.searches configuration dump unit = (failure : OptionT m Unit) := by
    unfold Preparation.searches
    rw [endless]
    rfl
  unfold runToEnd runWith
  simp only [runnable, if_true, first, runFiles, runFile, Tools.lift, FrontEnd.ofFunction,
    liftM_pure, pure_bind, parsed, stops, failure_bind]

end Endless

/-- A unit with an enum and a struct with a field of it. -/
def shapesUnit (integerType : SourceType) : SourceUnit where
  declarations :=
    [{ name := "fill", kind := .enumeration integerType [] },
      { name := "shape", kind := .structure [{ name := "inside", type := .tag "fill" }] }]

/-- A front end that finds shapes in most files. In one the enum is its own integer type, one is
empty, and one cannot be read. -/
def parseShapes (path : String) (_ : List String) : Except UnitError SourceUnit :=
  if path = "./hidden.yaml" then .error (.unreadable path .missing)
  else if path = "./empty.yaml" then .ok {}
  else if path = "./looped.yaml" then .ok (shapesUnit (.tag "fill"))
  else .ok (shapesUnit (.builtin .int))

/-- A configuration with instances. -/
def withInstances : Configuration := { storableInstances := true }

/-- The searches for the layouts of an enum that is its own integer type do not end. -/
theorem searchLayouts_looped :
    withInstances.searchLayouts "looped.yaml" (shapesUnit (.tag "fill")) = none := by
  let tags := (withInstances.contentsOf "looped.yaml" (shapesUnit (.tag "fill"))).tags
  let fields : List (Entity CType) := [⟨"inside", .named "fill"⟩]
  have definesEnum : tags.find? "fill" = some (.enumeration (.named "fill") []) := by
    decide +kernel
  have definesStruct : tags.find? "shape" = some (.structure fields) := by decide +kernel
  have circle : ContainsAsInteger tags (.named "fill") (.named "fill") := .enumeration definesEnum
  refine Option.eq_none_iff_forall_ne_some.mpr fun _ ends => ?_
  obtain ⟨found, isFound⟩ :=
    Contents.searchLayouts_eq_some_iff.mp ends rfl "shape" fields definesStruct
  rw [Render.searchInstance_eq_none _ definesStruct (.single circle)] at isFound
  cases isFound

/-- The searches for the layouts of a unit end if its integer types are scalars. -/
theorem searchesEnd_shapes {dump : String} {unit : SourceUnit}
    (scalars : (withInstances.contentsOf dump unit).tags.entries.all
      (fun entry => entry.2.integerIsScalar) = true) :
    withInstances.SearchesEnd dump unit :=
  Configuration.searchesEnd_of_acyclic fun _ => noEnumerationCycle_of_entries scalars

end Batch

end ForeignBindings
