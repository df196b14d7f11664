import ForeignBindings.Proofs.Batch.Outcomes

/-!
# What runs ask and what they make of the answers

A run asks the front end for the unit of each dump, and the files to write its module. This is
all that it asks, and the session has no part in it: `Job.askWith`. What the run leaves behind
and the number of its errors are a function of the answers: `runWith_eq_map_askWith`. The front
end and the files may do what they like, and each may depend on what the other did. So may
the preparation of a module, which may also keep all that comes after it from being asked.
-/

namespace ForeignBindings

namespace Session

/-- A report appends to what was reported, counts the errors and the warnings, and shows all of
it. -/
theorem report_eq (session : Session) (diagnostics : List Diagnostic) :
    session.report diagnostics =
      { session with
        reported := session.reported ++ diagnostics
        terminal := session.terminal.emitAll diagnostics
        errors := session.errors + diagnostics.countP Diagnostic.isError
        warnings := session.warnings + diagnostics.countP Diagnostic.isWarning } := by
  have counted : diagnostics.foldl count session =
      { session with
        errors := session.errors + diagnostics.countP Diagnostic.isError
        warnings := session.warnings + diagnostics.countP Diagnostic.isWarning } := by
    induction diagnostics generalizing session with
    | nil => rfl
    | cons diagnostic rest inductionHypothesis =>
      rw [List.foldl_cons, inductionHypothesis, List.countP_cons, List.countP_cons]
      unfold count Diagnostic.isError Diagnostic.isWarning
      cases diagnostic.severity <;> simp [Nat.add_assoc, Nat.add_comm 1]
  unfold report
  rw [counted]

/-- Reporting in two parts is reporting at once. -/
theorem report_append (session : Session) (first second : List Diagnostic) :
    session.report (first ++ second) = (session.report first).report second := by
  simp only [report_eq, Terminal.emitAll, List.append_assoc, List.foldl_append,
    List.countP_append, Nat.add_assoc]

/-- The warning about packed structs is reported where it is due, and then remembered. -/
theorem warnPacked_eq (session : Session) (isWanted : Bool) :
    session.warnPacked isWanted =
      { session with warnedPacked := session.warnedPacked || isWanted }.report
        (if isWanted && !session.warnedPacked then [packedWarning] else []) := by
  obtain ⟨_, _, _, _, _, warned⟩ := session
  cases warned <;> cases isWanted <;> simp [warnPacked, report_eq, Terminal.emitAll]

end Session

namespace Batch

/-- What the front end and the files answer about a dump. -/
inductive Answer where
  /-- There is no unit. -/
  | unparsed (error : UnitError)
  /-- There is a unit, whose module could be written or not. -/
  | parsed (unit : SourceUnit) (written : Except FileFault Unit)

/-- Whether a dump could not be parsed or its module not be written. -/
def Answer.isFailure : Answer → Bool
  | unparsed _ => true
  | parsed _ (.error _) => true
  | parsed _ (.ok ()) => false

/-- The answers about dumps, each with its dump. -/
structure Answered (names : List String) where
  entries : List (String × Answer)
  dumps : entries.map Prod.fst = names

namespace Answered

/-- There is nothing to answer about no dumps. -/
def none : Answered [] := ⟨[], rfl⟩

/-- The answers about a dump and others behind it. -/
def cons {rest : List String} (dump : String) (answer : Answer) (others : Answered rest) :
    Answered (dump :: rest) :=
  ⟨(dump, answer) :: others.entries, congrArg _ others.dumps⟩

end Answered

/-- What became of a dump, with what it yielded. -/
structure Handled extends Delivery where
  product? : Option Product

section Handling

variable (configuration : Configuration) (output : String)

/-- What becomes of a dump with an answer about it, and the table of module names behind it. -/
def handle (modules : ModuleNameTable) (dump : String) : Answer → Handled × ModuleNameTable
  | .unparsed error => (⟨⟨[error.diagnostic], false⟩, none⟩, modules)
  | .parsed unit written =>
    let (product, modules) := configuration.produce modules dump unit
    match written with
    | .ok () => (⟨⟨product.queue.toList, true⟩, some product⟩, modules)
    | .error fault =>
      let path := Path.join output product.generated.path
      (⟨⟨(product.queue.push (unwritable path fault)).toList, false⟩, some product⟩, modules)

/-- What becomes of dumps in order, and the table of module names behind them. -/
def handleAll : ModuleNameTable → List (String × Answer) → List Handled × ModuleNameTable
  | modules, [] => ([], modules)
  | modules, (dump, answer) :: rest =>
    let (first, modules) := handle configuration output modules dump answer
    let (others, modules) := handleAll modules rest
    (first :: others, modules)

end Handling

/-- The dump of the contents that a dump yielded. -/
def Handled.dumpText (options : DumpOptions) (handled : Handled) : String :=
  match handled.product? with
  | some product => Session.dumpText options product.key product.contents
  | none => ""

/-- What a session is after a dump was handled. -/
def Handled.leave (options : DumpOptions) (session : Session) (handled : Handled) : Session :=
  { session with dump := session.dump ++ handled.dumpText options }.report
    handled.diagnostics

/-- What a session is after dumps were handled. -/
theorem foldl_leave (options : DumpOptions) (session : Session) (handled : List Handled) :
    handled.foldl (Handled.leave options) session =
      { session with
        dump := session.dump ++ String.join (handled.map (Handled.dumpText options)) }.report
        (handled.flatMap fun one : Handled => one.diagnostics) := by
  induction handled generalizing session with
  | nil => simp [Session.report_eq, Terminal.emitAll]
  | cons first rest inductionHypothesis =>
    rw [List.foldl_cons, inductionHypothesis, List.flatMap_cons, Session.report_append]
    simp [Handled.leave, Session.report_eq, String.append_assoc]

/-- A dump is not written if it could not be parsed or its module not be written. -/
theorem isWritten_handle (configuration : Configuration) (output : String)
    (modules : ModuleNameTable) (dump : String) (answer : Answer) :
    (handle configuration output modules dump answer).1.isWritten = !answer.isFailure := by
  cases answer with
  | unparsed error => rfl
  | parsed unit written => cases written <;> rfl

/-- The dumps that are not written are those that could not be parsed or whose module could not
be written. -/
theorem countP_handleAll (configuration : Configuration) (output : String)
    (modules : ModuleNameTable) (entries : List (String × Answer)) :
    (handleAll configuration output modules entries).1.countP (fun one => !one.isWritten) =
      entries.countP fun entry => entry.2.isFailure := by
  induction entries generalizing modules with
  | nil => rfl
  | cons entry rest inductionHypothesis =>
    unfold handleAll
    rw [List.countP_cons, List.countP_cons, inductionHypothesis, isWritten_handle, Bool.not_not]

/-- A configuration to run, with the directory at which its relative paths start. -/
structure Job where
  configuration : Configuration
  base : String

/-- The dumps that a job takes: none, if its configuration may not be run. -/
def Job.dumps (job : Job) : List String :=
  if job.configuration.isRunnable then job.configuration.fileNames else []

/-- The directory below which the modules of a job go. -/
def Job.output (job : Job) : String := Path.join job.base job.configuration.outputDirectory

/-- A job with the answers about its dumps. -/
structure Attempt where
  job : Job
  entries : List (String × Answer)
  dumps : entries.map Prod.fst = job.dumps

/-- The attempt at a job with the answers about its dumps. -/
def Answered.attempt {job : Job} (answered : Answered job.dumps) : Attempt :=
  ⟨job, answered.entries, answered.dumps⟩

@[simp] theorem Answered.job_attempt {job : Job} (answered : Answered job.dumps) :
    answered.attempt.job = job := rfl

namespace Attempt

variable (attempt : Attempt)

/-- What becomes of the dumps of a job, and the table of module names behind them. -/
def handling : List Handled × ModuleNameTable :=
  handleAll attempt.job.configuration attempt.job.output
    (.new attempt.job.configuration.moduleNames) attempt.entries

/-- What becomes of the dumps of a job. -/
def handled : List Handled := attempt.handling.1

/-- The reports of clashes between module names. -/
def clashes : List Diagnostic := (attempt.handling.2.clashes .haskell).map Clash.diagnostic

/-- The number of dumps that could not be parsed or whose module could not be written. -/
def failures : Nat := attempt.entries.countP fun entry => entry.2.isFailure

/-- Whether an error about a name is among the reports of a dump, or module names clash. -/
def hasNameErrors : Bool :=
  attempt.handled.any (fun one => one.hasNameErrors) || !attempt.clashes.isEmpty

/-- The number of errors of a run: one if the configuration may not be run, and otherwise one
for each failure and one for all errors about names. -/
def errors : Nat :=
  if attempt.job.configuration.isRunnable then
    attempt.failures + if attempt.hasNameErrors then 1 else 0
  else 1

/-- Whether a run wants the warning about packed structs. -/
def wantsPackedWarning : Bool :=
  attempt.job.configuration.isRunnable && attempt.job.configuration.storableInstances

/-- All that a run reports, in order. The warning about packed structs is left out if it was
given before. -/
def reports (warned : Bool) : List Diagnostic :=
  attempt.job.configuration.problems ++
    (if attempt.wantsPackedWarning && !warned then [Session.packedWarning] else []) ++
    (attempt.handled.flatMap fun one => one.diagnostics) ++ attempt.clashes

/-- What a session is after a run. -/
def leave (options : DumpOptions) (session : Session) : Session :=
  { session with
    dump := session.dump ++ String.join (attempt.handled.map (Handled.dumpText options))
    warnedPacked := session.warnedPacked || attempt.wantsPackedWarning }.report
    (attempt.reports session.warnedPacked)

/-- A run that takes place leaves a session step by step: the problems of the configuration are
reported, the warning is given, the dumps are handled, and the clashes are reported. -/
theorem leave_of_isRunnable (runnable : attempt.job.configuration.isRunnable = true)
    (options : DumpOptions) (session : Session) :
    attempt.leave options session =
      (attempt.handled.foldl (Handled.leave options)
        ((session.report attempt.job.configuration.problems).warnPacked
          attempt.job.configuration.storableInstances)).report attempt.clashes := by
  unfold leave reports wantsPackedWarning
  rw [foldl_leave, Session.warnPacked_eq, runnable]
  simp only [Session.report_append]
  simp [Session.report_eq]

/-- A run that does not take place reports the problems of the configuration. -/
theorem leave_of_not_isRunnable (notRunnable : attempt.job.configuration.isRunnable = false)
    (options : DumpOptions) (session : Session) :
    attempt.leave options session = session.report attempt.job.configuration.problems := by
  have nothing : attempt.entries = [] := by
    have names := attempt.dumps
    rw [Job.dumps, notRunnable] at names
    exact List.map_eq_nil_iff.mp names
  have handled : attempt.handling = ([], .new attempt.job.configuration.moduleNames) := by
    rw [handling, nothing, handleAll]
  have quiet : attempt.clashes = [] := by
    rw [clashes, handled]
    rfl
  unfold leave reports wantsPackedWarning
  rw [quiet, notRunnable, Attempt.handled, handled]
  simp

/-- The errors of a run that takes place are those of its progress. -/
theorem errors_of_isRunnable (runnable : attempt.job.configuration.isRunnable = true)
    (modules last : ModuleNameTable) :
    attempt.errors =
      let progress := Progress.recordAll { modules } last (attempt.handled.map Handled.toDelivery)
      { progress with
        hasNameErrors := progress.hasNameErrors || !attempt.clashes.isEmpty }.errors := by
  have failures : attempt.failures = attempt.handled.countP fun one => !one.isWritten :=
    (countP_handleAll ..).symm
  unfold errors hasNameErrors
  rw [if_pos runnable, failures]
  simp [Progress.recordAll, Progress.errors, List.countP_map, Function.comp_def, List.any_map]

/-- What a session is after runs. -/
def leaveAll (options : DumpOptions) (session : Session) (attempts : List Attempt) : Session :=
  attempts.foldl (fun session attempt => attempt.leave options session) session

end Attempt

section Asking

variable {m : Type → Type} [Monad m] (tools : Tools m) (prepare : Preparation m)

/-- Asks for the module of a unit to be written. -/
def askWrite (output : String) (unit : SourceUnit) (generated : GeneratedModule) : m Answer :=
  Answer.parsed unit <$> tools.files.write (Path.join output generated.path) generated.text

/-- Asks for the unit of a dump, and then for its module to be written. -/
def askFile (configuration : Configuration) (base output : String) (modules : ModuleNameTable)
    (dump : String) : m Answer := do
  match ← tools.frontEnd.parse (Path.join base dump) configuration.compilerOptions with
  | .error error => pure (.unparsed error)
  | .ok unit =>
    prepare configuration dump unit
    askWrite tools output unit (configuration.produce modules dump unit).1.generated

/-- Asks about dumps in order. -/
def askFiles (configuration : Configuration) (base output : String) :
    ModuleNameTable → (names : List String) → m (Answered names)
  | _, [] => pure .none
  | modules, dump :: rest => do
    let answer ← askFile tools prepare configuration base output modules dump
    let modules := (handle configuration output modules dump answer).2
    let others ← askFiles configuration base output modules rest
    pure (.cons dump answer others)

/-- Asks all that a run of a job asks, with a preparation for each module. -/
def Job.askWith (job : Job) : m (Answered job.dumps) :=
  askFiles tools prepare job.configuration job.base job.output
    (.new job.configuration.moduleNames) job.dumps

/-- Asks all that runs of jobs ask, in order. -/
def attemptAllWith : (jobs : List Job) →
    m { attempts : List Attempt // attempts.map Attempt.job = jobs }
  | [] => pure ⟨[], rfl⟩
  | job :: rest => do
    let answered ← job.askWith tools prepare
    let others ← attemptAllWith rest
    pure ⟨answered.attempt :: others.val, congrArg _ others.property⟩

/-- Runs jobs in order. With the session comes the number of errors of each. -/
def runAllWith : List Job → Session → m (Session × List Nat)
  | [], session => pure (session, [])
  | job :: rest, session => do
    let (session, errors) ← runWith tools prepare job.configuration job.base session
    let (session, others) ← runAllWith rest session
    pure (session, errors :: others)

variable [LawfulMonad m] (configuration : Configuration) (base : String)

/-- Making the module of a dump is asking about it and handling the answer. -/
theorem runFile_eq_map_askFile (output : String) (session : Session) (progress : Progress)
    (dump : String) :
    runFile tools prepare configuration base output session progress dump =
      (fun answer =>
        let (handled, modules) := handle configuration output progress.modules dump answer
        (handled.leave tools.dumps session,
          progress.record modules handled.diagnostics handled.isWritten)) <$>
        askFile tools prepare configuration base output progress.modules dump := by
  unfold runFile askFile
  rw [map_bind]
  refine bind_congr fun parsed => ?_
  cases parsed with
  | error error =>
    rw [map_pure]
    simp [handle, Handled.leave, Handled.dumpText]
  | ok unit =>
    dsimp only [askWrite]
    rw [map_bind]
    refine bind_congr fun _ => ?_
    rw [Functor.map_map, map_eq_pure_bind]
    refine bind_congr fun written => ?_
    cases written with
    | ok _ => rfl
    | error fault => rfl

/-- Making the modules of dumps is asking about them and handling the answers. -/
theorem runFiles_eq_map_askFiles (output : String) (session : Session) (progress : Progress)
    (names : List String) :
    runFiles tools prepare configuration base output session progress names =
      (fun answered =>
        let (handled, modules) := handleAll configuration output progress.modules answered.entries
        (handled.foldl (Handled.leave tools.dumps) session,
          progress.recordAll modules (handled.map Handled.toDelivery))) <$>
        askFiles tools prepare configuration base output progress.modules names := by
  induction names generalizing session progress with
  | nil =>
    unfold runFiles askFiles
    rw [map_pure]
    simp [Answered.none, handleAll, Progress.recordAll]
  | cons dump rest inductionHypothesis =>
    unfold runFiles askFiles
    rw [runFile_eq_map_askFile]
    simp only [map_bind, bind_map_left, map_pure, inductionHypothesis]
    refine bind_congr fun answer => ?_
    rw [map_eq_pure_bind]
    refine bind_congr fun others => congrArg pure (Prod.ext rfl ?_)
    exact progress.recordAll_record _ _ _ _

/-- A run asks all that it asks, and makes an attempt of the answers. -/
theorem runWith_eq_map_askWith (job : Job) (session : Session) :
    runWith tools prepare job.configuration job.base session =
      (fun answered => (answered.attempt.leave tools.dumps session, answered.attempt.errors)) <$>
        job.askWith tools prepare := by
  -- The dumps of the job are named, so that they can be looked at.
  suffices general : ∀ names (same : names = job.dumps),
      runWith tools prepare job.configuration job.base session =
        (fun answered : Answered names =>
          let attempt := Attempt.mk job answered.entries (answered.dumps.trans same)
          (attempt.leave tools.dumps session, attempt.errors)) <$>
          askFiles tools prepare job.configuration job.base job.output
            (.new job.configuration.moduleNames) names from general job.dumps rfl
  intro names same
  unfold runWith
  by_cases runnable : job.configuration.isRunnable = true
  · obtain rfl : names = job.configuration.fileNames := same.trans (if_pos runnable)
    simp only [runnable, if_true]
    rw [runFiles_eq_map_askFiles, bind_map_left, map_eq_pure_bind]
    refine bind_congr fun answered => congrArg pure ?_
    let attempt : Attempt := ⟨job, answered.entries, answered.dumps.trans same⟩
    refine Prod.ext ?_ ?_
    · exact (attempt.leave_of_isRunnable runnable tools.dumps session).symm
    · exact (attempt.errors_of_isRunnable runnable _ _).symm
  · obtain rfl : names = [] := same.trans (if_neg runnable)
    rw [if_neg runnable]
    unfold askFiles
    rw [map_pure]
    let attempt : Attempt := ⟨job, [], same⟩
    have notRunnable : job.configuration.isRunnable = false := by simpa using runnable
    refine congrArg pure (Prod.ext ?_ ?_)
    · exact (attempt.leave_of_not_isRunnable notRunnable tools.dumps session).symm
    · exact (if_neg runnable).symm

/-- Runs of jobs ask all that they ask, and make attempts of the answers. -/
theorem runAllWith_eq_map_attemptAllWith (jobs : List Job) (session : Session) :
    runAllWith tools prepare jobs session =
      (fun attempts =>
        (Attempt.leaveAll tools.dumps session attempts.val, attempts.val.map Attempt.errors)) <$>
        attemptAllWith tools prepare jobs := by
  induction jobs generalizing session with
  | nil =>
    unfold runAllWith attemptAllWith
    rw [map_pure]
    rfl
  | cons job rest inductionHypothesis =>
    unfold runAllWith attemptAllWith
    rw [runWith_eq_map_askWith]
    simp only [map_bind, bind_map_left, map_pure, inductionHypothesis]
    exact bind_congr fun answered => bind_congr fun others => rfl

end Asking

section Runs

variable {m : Type → Type} [Monad m] (tools : Tools m)

/-- Asks all that a run of a job asks. -/
def Job.ask (job : Job) : m (Answered job.dumps) := job.askWith tools .none

/-- Asks all that a run of a job asks, up to a search that does not end. -/
def Job.askToEnd (job : Job) : OptionT m (Answered job.dumps) :=
  job.askWith tools.lift .searches

/-- Asks all that runs of jobs ask, in order. -/
def attemptAll : (jobs : List Job) →
    m { attempts : List Attempt // attempts.map Attempt.job = jobs } :=
  attemptAllWith tools .none

/-- Asks all that runs of jobs ask, in order and up to a search that does not end. -/
def attemptAllToEnd : (jobs : List Job) →
    OptionT m { attempts : List Attempt // attempts.map Attempt.job = jobs } :=
  attemptAllWith tools.lift .searches

/-- Runs jobs in order to the end, if they come to one. -/
def runAllToEnd : List Job → Session → OptionT m (Session × List Nat) :=
  runAllWith tools.lift .searches

/-- A run asks all that it asks, and makes an attempt of the answers. -/
theorem run_eq_map_ask [LawfulMonad m] (job : Job) (session : Session) :
    run tools job.configuration job.base session =
      (fun answered => (answered.attempt.leave tools.dumps session, answered.attempt.errors)) <$>
        job.ask tools :=
  runWith_eq_map_askWith tools .none job session

end Runs

end Batch

end ForeignBindings
