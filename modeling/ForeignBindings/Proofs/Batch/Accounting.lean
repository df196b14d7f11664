import ForeignBindings.Proofs.Batch.Ending
import ForeignBindings.Proofs.Lowering.Composition
import ForeignBindings.Proofs.Lowering.Report
import ForeignBindings.Proofs.Render.Instances

/-!
# How errors are counted

The number that a run comes to is zero exactly if the run reported no error, whatever the
front end and the files answer: `Attempt.errors_eq_zero_iff`. An error about a file is about
one of its names or comes with a missing module (`handle_isError_iff`), and these are the two
things that are counted. Over a session, the warning about packed structs is given at most
once, and the summary has the numbers of what was reported: `Accounted`. A run comes to a
number only if it comes to an end, for which `Job.SearchesEnd` is enough.
-/

namespace ForeignBindings

/-- A report about a file whose module is written: an error among them is about a name, and the
warning about packed structs is not among them. -/
structure Diagnostic.IsFileReport (diagnostic : Diagnostic) : Prop where
  naming_of_isError : diagnostic.isError = true → diagnostic.code.stage = .naming
  code_ne_packedStructs : diagnostic.code ≠ .packedStructs

namespace Diagnostic

/-- A report that is no error and of another code than that of packed structs. -/
theorem isFileReport_of_not_isError {diagnostic : Diagnostic}
    (notError : diagnostic.severity ≠ .error) (code : diagnostic.code ≠ .packedStructs) :
    diagnostic.IsFileReport :=
  ⟨fun isError => absurd (eq_of_beq isError) notError, code⟩

/-- A report about a name. -/
theorem isFileReport_of_naming {diagnostic : Diagnostic}
    (naming : diagnostic.code.stage = .naming) : diagnostic.IsFileReport :=
  ⟨fun _ => naming, fun packed => by simp [packed, Code.stage] at naming⟩

end Diagnostic

/-- A clash is an error about a name. -/
theorem Clash.diagnostic_isError (clash : Clash) :
    clash.diagnostic.isError = true ∧ clash.diagnostic.code.stage = .naming := by
  unfold Clash.diagnostic
  cases clash.reason <;> exact ⟨rfl, rfl⟩

/-- What is wrong with a type is not that structs are packed. -/
theorem LoweringError.code_ne_packedStructs (error : LoweringError) :
    error.code ≠ .packedStructs := by
  cases error <;> exact nofun

/-- What a declaration reports is no error. -/
theorem Declaration.ReportBlock.isFileReport {policy : LoweringPolicy} {declaration : Declaration}
    {diagnostics : List Diagnostic} (block : declaration.ReportBlock policy diagnostics) :
    ∀ diagnostic ∈ diagnostics, diagnostic.IsFileReport := by
  cases block with
  | silent => exact List.forall_mem_nil _
  | externalLinkage =>
    refine List.forall_mem_singleton.mpr (Diagnostic.isFileReport_of_not_isError ?_ ?_) <;>
      simp [externalLinkageWarning, Diagnostic.warning]
  | cLinkage =>
    refine List.forall_mem_singleton.mpr (Diagnostic.isFileReport_of_not_isError ?_ ?_) <;>
      simp [cLinkageWarning, Diagnostic.warning, Diagnostic.withSuggestion]
  | @rejected rejection =>
    refine List.forall_mem_cons.mpr ⟨?warning, fun note member => ?note⟩
    case warning =>
      refine Diagnostic.isFileReport_of_not_isError ?_ ?_
      · simp [Rejection.severity_warning]
      · simpa [Rejection.warning, Diagnostic.warning] using rejection.error.code_ne_packedStructs
    case note =>
      obtain ⟨place, -, rfl⟩ := List.mem_map.mp member
      refine Diagnostic.isFileReport_of_not_isError ?_ ?_
      · simp [Rejection.severity_contextNote]
      · simp [Rejection.contextNote, Diagnostic.note]

/-- What is reported when a module is rendered is about names, or no error. -/
theorem Render.isFileReport_of_mem_reportsOf (resolver : Resolver) (options : RenderOptions)
    (contents : Contents) :
    ∀ diagnostic ∈ Render.reportsOf resolver (contents.events options),
      diagnostic.IsFileReport := by
  intro diagnostic member
  obtain ⟨event, isEvent, reported⟩ := List.mem_flatMap.mp member
  cases event with
  | ask request =>
    dsimp only at reported
    cases answer : resolver.value request.kind request.source.name with
    | ok output =>
      rw [answer] at reported
      exact absurd reported List.not_mem_nil
    | error error =>
      rw [answer] at reported
      rw [List.mem_singleton.mp reported]
      exact Diagnostic.isFileReport_of_naming rfl
  | report layout =>
    have isReport : layout ∈ (contents.events options).filterMap Render.Event.report? :=
      List.mem_filterMap.mpr ⟨_, isEvent, rfl⟩
    rw [Render.reports_events] at isReport
    obtain ⟨⟨name, definition⟩, -, ofTag⟩ := List.mem_flatMap.mp isReport
    cases definition with
    | enumeration underlying values => exact absurd ofTag List.not_mem_nil
    | «structure» fields =>
      dsimp only at reported
      simp only [Tag.reports] at ofTag
      split at ofTag
      · rw [List.mem_singleton.mp reported, List.mem_singleton.mp ofTag]
        refine Diagnostic.isFileReport_of_not_isError ?_ ?_
        · have notError : Severity.warning ≠ .error := by decide
          cases Render.unsizedField? options.model contents.tags fields <;> exact notError
        · simp [Render.code_layoutUnknown]
      · exact absurd ofTag List.not_mem_nil

namespace Queue

/-- An open queue stays open. -/
theorem IsOpen.extend {queue : Queue} (isOpen : queue.IsOpen) (diagnostics : List Diagnostic) :
    (queue.extend diagnostics).IsOpen := by
  induction diagnostics generalizing queue with
  | nil => exact isOpen
  | cons diagnostic rest inductionHypothesis => exact inductionHypothesis (isOpen.push diagnostic)

end Queue

namespace Configuration

variable (configuration : Configuration)

/-- What is reported when a module gets its name is about the name. -/
theorem isFileReport_of_mem_moduleName (modules : ModuleNameTable) (key : String) :
    ∀ diagnostic ∈ (configuration.moduleName modules key).2.1, diagnostic.IsFileReport := by
  simp only [moduleName]
  split
  · exact List.forall_mem_nil _
  · exact List.forall_mem_singleton.mpr (Diagnostic.isFileReport_of_naming rfl)

/-- What is reported when a unit is turned into a module: nothing is left out, what is reported
when the module gets its name is a part of it, and an error among the reports is about a name. -/
theorem exists_reports_produce (modules : ModuleNameTable) (dump : String) (unit : SourceUnit) :
    ∃ reports, (configuration.produce modules dump unit).1.queue = Queue.extend {} reports ∧
      (∀ diagnostic ∈ reports, diagnostic.IsFileReport) ∧
      (configuration.moduleName modules (configuration.keyOf dump unit)).2.1 ⊆ reports := by
  let key := configuration.keyOf dump unit
  let policy := configuration.policy key
  let named := configuration.moduleName modules key
  let resolver := configuration.resolver key named.1
  let events := (unit.lower policy {}).1.events configuration.renderOptions
  let generated := (unit.lower policy {}).1.generate configuration.renderOptions named.1 resolver
    ((unit.lower policy {}).2.extend named.2.1)
  have recalls : resolver.Recalls := Resolver.recalls_new _ _ _ _ _
  have left : generated.2 = ((resolver.resolveAll (Render.requestsOf events)).2,
      ((unit.lower policy {}).2.extend named.2.1).extend (Render.reportsOf resolver events)) := by
    unfold generated
    rw [Contents.generate_eq_declarations _ _ _ recalls.answersLike]
  refine ⟨(unit.contributions policy).flatMap Contribution.diagnostics ++ named.2.1 ++
    Render.reportsOf resolver events ++
    ((resolver.resolveAll (Render.requestsOf events)).2.clashes .haskell).map Clash.diagnostic,
    ?held, ?file, fun _ member => by simp [named, key, member]⟩
  case held =>
    have behind := congrArg (fun left : Resolver × Queue =>
      left.2.extend ((left.1.clashes .haskell).map Clash.diagnostic)) left
    dsimp only at behind
    simp only [produce, Queue.extend_append]
    exact behind
  case file =>
    simp only [List.forall_mem_append]
    refine ⟨⟨⟨fun diagnostic member => ?_,
      configuration.isFileReport_of_mem_moduleName modules key⟩,
      Render.isFileReport_of_mem_reportsOf resolver _ _⟩, fun diagnostic member => ?_⟩
    · obtain ⟨contribution, isContribution, reported⟩ := List.mem_flatMap.mp member
      obtain ⟨declaration, -, rfl⟩ := List.mem_map.mp isContribution
      exact (declaration.reportBlock_contribution policy).isFileReport diagnostic reported
    · obtain ⟨clash, -, rfl⟩ := List.mem_map.mp member
      exact Diagnostic.isFileReport_of_naming clash.diagnostic_isError.2

/-- What is wrong with a configuration is found by looking at the configuration alone. -/
theorem stage_of_mem_problems :
    ∀ diagnostic ∈ configuration.problems, diagnostic.code.stage = .configuration := by
  unfold problems
  simp only [List.forall_mem_append]
  refine ⟨⟨⟨⟨?shared, ?files⟩, ?modules⟩, ?overrides⟩, ?options⟩
  case shared => exact List.forall_mem_map.mpr fun _ _ => rfl
  case files =>
    intro diagnostic member
    obtain ⟨entry, -, found⟩ := List.mem_filterMap.mp member
    obtain ⟨error, -, rfl⟩ := Option.map_eq_some_iff.mp found
    rfl
  case modules =>
    unfold moduleNameProblems
    refine List.forall_mem_append.mpr ⟨?_, List.forall_mem_map.mpr fun _ _ => rfl⟩
    split
    · exact List.forall_mem_singleton.mpr rfl
    · exact List.forall_mem_nil _
  case overrides =>
    intro diagnostic member
    obtain ⟨entry, -, found⟩ := List.mem_flatMap.mp member
    obtain ⟨raw, -, rfl⟩ := List.mem_map.mp found
    rfl
  case options =>
    unfold optionProblems
    split
    · exact List.forall_mem_singleton.mpr rfl
    · exact List.forall_mem_nil _

end Configuration

namespace Batch

section Handling

variable (configuration : Configuration) (output : String) (modules : ModuleNameTable)

/-- The reports about a dump are those about its file. If its module is not written, an error
behind them says why. -/
theorem exists_reports_handle (dump : String) (answer : Answer) :
    let handled := (handle configuration output modules dump answer).1
    ∃ reports : List Diagnostic, (∀ diagnostic ∈ reports, diagnostic.IsFileReport) ∧
      (handled.isWritten = true ∧ handled.diagnostics = reports ∨
        handled.isWritten = false ∧ ∃ failure : Diagnostic, failure.isError = true ∧
          failure.code ≠ .packedStructs ∧ handled.diagnostics = reports ++ [failure]) := by
  intro handled
  cases answer with
  | unparsed error =>
    have other : Code.unitUnavailable ≠ .packedStructs := by decide
    exact ⟨[], List.forall_mem_nil _, Or.inr ⟨rfl, error.diagnostic, rfl, other, rfl⟩⟩
  | parsed unit written =>
    obtain ⟨reports, held, areFileReports, -⟩ :=
      configuration.exists_reports_produce modules dump unit
    have isOpen : (configuration.produce modules dump unit).1.queue.IsOpen :=
      held ▸ Queue.isOpen_new.extend reports
    have listed : (configuration.produce modules dump unit).1.queue.toList = reports := by
      rw [held]
      exact Queue.isOpen_new.toList_extend reports
    refine ⟨reports, areFileReports, ?_⟩
    cases written with
    | ok _ =>
      refine Or.inl ⟨rfl, ?_⟩
      simp only [handled, handle]
      exact listed
    | error fault =>
      let path := Path.join output (configuration.produce modules dump unit).1.generated.path
      have other : Code.moduleUnwritable ≠ .packedStructs := by decide
      refine Or.inr ⟨rfl, unwritable path fault, rfl, other, ?_⟩
      simp only [handled, handle]
      rw [isOpen.toList_push, listed]

/-- The reports about a dump have an error among them exactly if its module is not written or
there is an error about a name. -/
theorem handle_isError_iff (dump : String) (answer : Answer) :
    let handled := (handle configuration output modules dump answer).1
    (∃ diagnostic ∈ handled.diagnostics, diagnostic.isError = true) ↔
      handled.isWritten = false ∨ handled.hasNameErrors = true := by
  intro handled
  obtain ⟨reports, areFileReports, ⟨isWritten, same⟩ | ⟨notWritten, failure, isError, -, same⟩⟩ :=
    exists_reports_handle configuration output modules dump answer
  · have named : handled.hasNameErrors = true ↔
        ∃ diagnostic ∈ reports, diagnostic.isError = true := by
      unfold Delivery.hasNameErrors
      rw [same, List.any_eq_true]
      refine exists_congr fun diagnostic => and_congr_right fun member => ?_
      have naming := (areFileReports diagnostic member).naming_of_isError
      simpa using naming
    rw [same, named, isWritten]
    simp
  · have member : failure ∈ handled.diagnostics := by
      rw [same]
      exact List.mem_append_right _ (List.mem_singleton_self _)
    exact iff_of_true ⟨failure, member, isError⟩ (Or.inl notWritten)

/-- The warning about packed structs is not among the reports about a dump. -/
theorem code_ne_packedStructs_of_mem_handle (dump : String) (answer : Answer) :
    ∀ diagnostic ∈ (handle configuration output modules dump answer).1.diagnostics,
      diagnostic.code ≠ .packedStructs := by
  obtain ⟨reports, areFileReports, ⟨-, same⟩ | ⟨-, failure, -, code, same⟩⟩ :=
    exists_reports_handle configuration output modules dump answer
  · rw [same]
    exact fun diagnostic member => (areFileReports diagnostic member).code_ne_packedStructs
  · rw [same, List.forall_mem_append]
    exact ⟨fun diagnostic member => (areFileReports diagnostic member).code_ne_packedStructs,
      List.forall_mem_singleton.mpr code⟩

/-- What becomes of dumps is what becomes of each of them. -/
theorem exists_handle_of_mem_handleAll {entries : List (String × Answer)} {one : Handled}
    (member : one ∈ (handleAll configuration output modules entries).1) :
    ∃ modules dump answer, one = (handle configuration output modules dump answer).1 := by
  induction entries generalizing modules with
  | nil => exact absurd member List.not_mem_nil
  | cons entry rest inductionHypothesis =>
    rcases List.mem_cons.mp member with rfl | later
    · exact ⟨_, _, _, rfl⟩
    · exact inductionHypothesis _ later

end Handling

namespace Attempt

variable (attempt : Attempt)

/-- What becomes of a dump of a job is what an answer makes of it. -/
theorem exists_handle_of_mem_handled {one : Handled} (member : one ∈ attempt.handled) :
    ∃ modules dump answer, one =
      (handle attempt.job.configuration attempt.job.output modules dump answer).1 :=
  exists_handle_of_mem_handleAll _ _ _ member

/-- The reports about a dump have no error among them exactly if its module is written and there is
no error about a name. -/
theorem forall_not_isError_iff {one : Handled} (member : one ∈ attempt.handled) :
    (∀ diagnostic ∈ one.diagnostics, diagnostic.isError = false) ↔
      one.isWritten = true ∧ one.hasNameErrors = false := by
  obtain ⟨modules, dump, answer, rfl⟩ := attempt.exists_handle_of_mem_handled member
  have loud := handle_isError_iff attempt.job.configuration attempt.job.output modules dump answer
  simpa using not_congr loud

/-- All clashes are errors. -/
theorem isError_of_mem_clashes : ∀ diagnostic ∈ attempt.clashes, diagnostic.isError = true :=
  List.forall_mem_map.mpr fun clash _ => clash.diagnostic_isError.1

/-- There is no failure exactly if all modules are written. -/
theorem failures_eq_zero_iff :
    attempt.failures = 0 ↔ ∀ one ∈ attempt.handled, one.isWritten = true := by
  have same : attempt.failures = attempt.handled.countP fun one => !one.isWritten :=
    (countP_handleAll ..).symm
  rw [same, List.countP_eq_zero]
  simp

/-- A configuration that may not be run has an error, and that is reported. -/
theorem exists_isError_of_not_isRunnable
    (notRunnable : ¬ attempt.job.configuration.isRunnable = true) (warned : Bool) :
    ∃ problem ∈ attempt.reports warned, problem.isError = true := by
  have invalid : ∃ problem ∈ attempt.job.configuration.problems, problem.isError = true := by
    simpa [Configuration.isRunnable] using notRunnable
  obtain ⟨problem, isProblem, isError⟩ := invalid
  exact ⟨problem, by simp [reports, isProblem], isError⟩

/-- No clash is reported exactly if no error is reported as a clash. -/
theorem clashes_eq_nil_iff :
    attempt.clashes = [] ↔ ∀ diagnostic ∈ attempt.clashes, diagnostic.isError = false := by
  rw [List.eq_nil_iff_forall_not_mem]
  refine forall_congr' fun diagnostic => imp_congr_right fun member => ?_
  simp [attempt.isError_of_mem_clashes diagnostic member]

/-- Of a configuration that is run only files and clashes can lead to errors. -/
theorem reports_not_isError_iff (runnable : attempt.job.configuration.isRunnable = true)
    (warned : Bool) :
    (∀ diagnostic ∈ attempt.reports warned, diagnostic.isError = false) ↔
      (∀ one ∈ attempt.handled, ∀ diagnostic ∈ one.diagnostics, diagnostic.isError = false) ∧
        ∀ diagnostic ∈ attempt.clashes, diagnostic.isError = false := by
  have problems : ∀ problem ∈ attempt.job.configuration.problems, problem.isError = false := by
    simpa [Configuration.isRunnable] using runnable
  have packed : ∀ warning ∈ if attempt.wantsPackedWarning && !warned then
      [Session.packedWarning] else [], warning.isError = false := by
    split
    · exact List.forall_mem_singleton.mpr rfl
    · exact List.forall_mem_nil _
  unfold reports
  simp only [List.forall_mem_append, List.forall_mem_flatMap]
  rw [iff_true_intro problems, iff_true_intro packed, true_and, true_and]

/-- The number of errors of a run is zero exactly if it reported no error. -/
theorem errors_eq_zero_iff (warned : Bool) :
    attempt.errors = 0 ↔ ∀ diagnostic ∈ attempt.reports warned, diagnostic.isError = false := by
  by_cases runnable : attempt.job.configuration.isRunnable = true
  case neg =>
    obtain ⟨problem, reported, isError⟩ := exists_isError_of_not_isRunnable attempt runnable warned
    have counted : attempt.errors = 1 := if_neg runnable
    refine iff_of_false (by simp [counted]) fun noErrors => ?_
    simp [noErrors problem reported] at isError
  case pos =>
    calc attempt.errors = 0
      _ ↔ attempt.failures = 0 ∧ attempt.hasNameErrors = false := by
        unfold errors
        rw [if_pos runnable]
        cases attempt.hasNameErrors <;> simp
      _ ↔ (∀ one ∈ attempt.handled, one.isWritten = true ∧ one.hasNameErrors = false) ∧
          attempt.clashes = [] := by
        rw [failures_eq_zero_iff, hasNameErrors, forall₂_and]
        simp [and_assoc]
      _ ↔ (∀ one ∈ attempt.handled, ∀ diagnostic ∈ one.diagnostics, diagnostic.isError = false) ∧
          ∀ diagnostic ∈ attempt.clashes, diagnostic.isError = false := by
        rw [← clashes_eq_nil_iff]
        refine and_congr_left' (forall₂_congr fun one member => ?_)
        exact (attempt.forall_not_isError_iff member).symm
      _ ↔ ∀ diagnostic ∈ attempt.reports warned, diagnostic.isError = false :=
        (reports_not_isError_iff attempt runnable warned).symm

/-- The warning about packed structs is reported once where it is due, and not otherwise. -/
theorem countP_reports_packedStructs (warned : Bool) :
    (attempt.reports warned).countP (fun diagnostic => diagnostic.code = .packedStructs) =
      if attempt.wantsPackedWarning && !warned then 1 else 0 := by
  have none {diagnostics : List Diagnostic}
      (other : ∀ diagnostic ∈ diagnostics, diagnostic.code ≠ .packedStructs) :
      diagnostics.countP (fun diagnostic => diagnostic.code = .packedStructs) = 0 := by
    rw [List.countP_eq_zero]
    simpa using other
  have problems : ∀ problem ∈ attempt.job.configuration.problems,
      problem.code ≠ .packedStructs := by
    intro problem member packed
    have stage := attempt.job.configuration.stage_of_mem_problems problem member
    simp [packed, Code.stage] at stage
  have handled : ∀ diagnostic ∈ attempt.handled.flatMap fun one => one.diagnostics,
      diagnostic.code ≠ .packedStructs := by
    refine List.forall_mem_flatMap.mpr fun one member => ?_
    obtain ⟨modules, dump, answer, rfl⟩ := attempt.exists_handle_of_mem_handled member
    exact code_ne_packedStructs_of_mem_handle _ _ modules dump answer
  have clashes : ∀ diagnostic ∈ attempt.clashes, diagnostic.code ≠ .packedStructs := by
    refine List.forall_mem_map.mpr fun clash _ packed => ?_
    have stage := clash.diagnostic_isError.2
    simp [packed, Code.stage] at stage
  unfold reports
  rw [List.countP_append, List.countP_append, List.countP_append, none problems, none handled,
    none clashes, Nat.zero_add, Nat.add_zero]
  split <;> rfl

end Attempt

/-- What a session that started with a terminal has to show for its reports: the terminal shows
all of them, errors and warnings are counted, and the warning about packed structs was given
once if it was given. -/
structure Accounted (terminal : Terminal) (session : Session) : Prop where
  terminal : session.terminal = terminal.emitAll session.reported
  errors : session.errors = session.reported.countP Diagnostic.isError
  warnings : session.warnings = session.reported.countP Diagnostic.isWarning
  packedWarnings :
    session.reported.countP (fun diagnostic => diagnostic.code = .packedStructs) =
      if session.warnedPacked then 1 else 0

namespace Accounted

variable {terminal : Terminal} {session : Session} (options : DumpOptions)

/-- A session starts without reports. -/
theorem start (terminal : Terminal) : Accounted terminal { terminal } where
  terminal := rfl
  errors := rfl
  warnings := rfl
  packedWarnings := rfl

/-- A run has all that it reports accounted for. -/
theorem leave (accounted : Accounted terminal session) (attempt : Attempt) :
    Accounted terminal (attempt.leave options session) := by
  unfold Attempt.leave
  rw [Session.report_eq]
  constructor
  case terminal => simp [Terminal.emitAll, accounted.terminal]
  case errors => simp [accounted.errors]
  case warnings => simp [accounted.warnings]
  case packedWarnings =>
    rw [List.countP_append, accounted.packedWarnings, attempt.countP_reports_packedStructs]
    cases session.warnedPacked <;> simp

/-- So do runs in order. -/
theorem leaveAll (accounted : Accounted terminal session) (attempts : List Attempt) :
    Accounted terminal (Attempt.leaveAll options session attempts) := by
  induction attempts generalizing session with
  | nil => exact accounted
  | cons attempt rest inductionHypothesis =>
    exact inductionHypothesis (accounted.leave options attempt)

end Accounted

/-- After runs the warning about packed structs was given if it was given before or a run wanted
it. -/
theorem warnedPacked_leaveAll (options : DumpOptions) (session : Session)
    (attempts : List Attempt) :
    (Attempt.leaveAll options session attempts).warnedPacked =
      (session.warnedPacked || attempts.any Attempt.wantsPackedWarning) := by
  induction attempts generalizing session with
  | nil => simp [Attempt.leaveAll]
  | cons attempt rest inductionHypothesis =>
    have step : (attempt.leave options session).warnedPacked =
        (session.warnedPacked || attempt.wantsPackedWarning) := by
      unfold Attempt.leave
      rw [Session.report_eq]
    have later := inductionHypothesis (attempt.leave options session)
    rw [step, Bool.or_assoc] at later
    rw [List.any_cons, ← later]
    rfl

/-- Errors are accounted for exactly. A run does nothing but ask about its dumps, and the
answers determine what it reports and the number of errors that it comes to. If the
configuration may not be run, nothing is asked, the number is one, and whether the warning about
packed structs was given stays as it was. Otherwise the number is that of the dumps that could
not be parsed or whose module could not be written, and one more if an error about a name is
reported for some file or module names clash. It is zero exactly if no error was reported. Over
runs in order, the warning about packed structs is reported once if some run wants it and
otherwise never, and the summary is made of the numbers of errors and of warnings among all that
was shown on the terminal.

All of this is about runs that come to their end. Runs do if all units that the front end
yields have searches for layouts that end, and those of a unit end if no instances are wanted
or no enums go round in a circle. -/
theorem runs_account_for_errors {m : Type → Type} [Monad m] [LawfulMonad m] (tools : Tools m) :
    (∀ (configuration : Configuration) (dump : String) (unit : SourceUnit),
      (configuration.storableInstances = true →
        NoEnumerationCycle (configuration.contentsOf dump unit).tags) →
      configuration.SearchesEnd dump unit) ∧
    (∀ (job : Job) (session : Session),
      runToEnd tools job.configuration job.base session =
        (fun answered =>
          (answered.attempt.leave tools.dumps session, answered.attempt.errors)) <$>
          job.askToEnd tools ∧
      (job.SearchesEnd tools → job.askToEnd tools = liftM (job.ask tools))) ∧
    (∀ (job : Job) (session : Session), job.configuration.isRunnable = false →
      runToEnd tools job.configuration job.base session =
        pure (session.report job.configuration.problems, 1) ∧
      (session.report job.configuration.problems).warnedPacked = session.warnedPacked) ∧
    (∀ attempt : Attempt, attempt.job.configuration.isRunnable = true →
      attempt.entries.map Prod.fst = attempt.job.configuration.fileNames ∧
      attempt.errors = attempt.entries.countP (fun entry => entry.2.isFailure) +
        if (∃ one ∈ attempt.handled, ∃ diagnostic ∈ one.diagnostics,
              diagnostic.isError = true ∧ diagnostic.code.stage = .naming) ∨
            attempt.clashes ≠ [] then 1 else 0) ∧
    (∀ (attempt : Attempt) (session : Session),
      (attempt.leave tools.dumps session).reported =
        session.reported ++ attempt.reports session.warnedPacked ∧
      (attempt.errors = 0 ↔ ∀ diagnostic ∈ attempt.reports session.warnedPacked,
        diagnostic.isError = false)) ∧
    ∀ (jobs : List Job) (terminal : Terminal),
      (runAllToEnd tools jobs { terminal } =
        (fun attempts =>
          (Attempt.leaveAll tools.dumps { terminal } attempts.val,
            attempts.val.map Attempt.errors)) <$>
          attemptAllToEnd tools jobs ∧
      ((∀ job ∈ jobs, job.SearchesEnd tools) →
        attemptAllToEnd tools jobs = liftM (attemptAll tools jobs))) ∧
      ∀ attempts : List Attempt, attempts.map Attempt.job = jobs →
        let session := Attempt.leaveAll tools.dumps { terminal } attempts
        (session.reported.countP (fun diagnostic => diagnostic.code = .packedStructs) =
          if ∃ job ∈ jobs, job.configuration.isRunnable = true ∧
            job.configuration.storableInstances = true then 1 else 0) ∧
        session.finish.terminal = (terminal.emitAll session.reported).summarize
          (session.reported.countP Diagnostic.isError)
          (session.reported.countP Diagnostic.isWarning) := by
  refine ⟨fun _ _ _ => Configuration.searchesEnd_of_acyclic, ?asked, ?notRunnable, ?counted, ?zero,
    ?session⟩
  case asked =>
    intro job session
    exact ⟨runWith_eq_map_askWith tools.lift .searches job session,
      fun ends => ends.askToEnd_eq⟩
  case notRunnable =>
    intro job session notRunnable
    refine ⟨?_, by rw [Session.report_eq]⟩
    unfold runToEnd runWith
    rw [notRunnable]
    rfl
  case counted =>
    intro attempt runnable
    refine ⟨attempt.dumps.trans (if_pos runnable), ?_⟩
    have named : attempt.hasNameErrors = true ↔
        (∃ one ∈ attempt.handled, ∃ diagnostic ∈ one.diagnostics,
          diagnostic.isError = true ∧ diagnostic.code.stage = .naming) ∨
          attempt.clashes ≠ [] := by
      simp [Attempt.hasNameErrors, Delivery.hasNameErrors]
    unfold Attempt.errors Attempt.failures
    rw [if_pos runnable]
    simp only [named]
  case zero =>
    intro attempt session
    refine ⟨?_, attempt.errors_eq_zero_iff session.warnedPacked⟩
    unfold Attempt.leave
    rw [Session.report_eq]
  case session =>
    intro jobs terminal
    refine ⟨⟨runAllWith_eq_map_attemptAllWith tools.lift .searches jobs { terminal },
      attemptAllToEnd_eq⟩, ?_⟩
    rintro attempts rfl session
    have accounted := (Accounted.start terminal).leaveAll tools.dumps attempts
    have warned := warnedPacked_leaveAll tools.dumps { terminal } attempts
    constructor
    · rw [accounted.packedWarnings, warned]
      simp [Attempt.wantsPackedWarning]
    · unfold Session.finish
      rw [accounted.terminal, accounted.errors, accounted.warnings]

/-- A configuration that may not be run: its modules would have no first name. -/
def nameless : Configuration := { libraryName := "", storableInstances := true }

/-- A configuration with instances, for a dump that is not there and one that is. -/
def halfHidden : Configuration :=
  { storableInstances := true, fileNames := ["hidden.yaml", "empty.yaml"] }

/-- What is answered about the dumps. -/
def halfHiddenAttempt : Attempt where
  job := ⟨halfHidden, "."⟩
  entries :=
    [("hidden.yaml", .unparsed (.unreadable "./hidden.yaml" .missing)),
      ("empty.yaml", .parsed {} (.ok ()))]
  dumps := by decide +kernel

/-- The searches end for the dump that is there. -/
theorem searchesEnd_halfHidden :
    Job.SearchesEnd ⟨FileTree.access, .ofFunction parseShapes, {}⟩ halfHiddenAttempt.job := by
  have empty : withInstances.SearchesEnd "empty.yaml" {} := searchesEnd_shapes (by decide +kernel)
  have dumps : halfHiddenAttempt.job.dumps = ["hidden.yaml", "empty.yaml"] :=
    halfHiddenAttempt.dumps.symm
  intro dump member
  rw [dumps] at member
  refine yields_pure fun unit parsed => ?_
  simp only [List.mem_cons, List.not_mem_nil, or_false] at member
  rcases member with rfl | rfl
  · cases parsed
  · cases parsed
    exact empty

/-- A configuration that may not be run and one that is run twice: the first counts one, each run
of the other comes to its end and counts the dump that is not there, and the warning is given
once. -/
theorem half_hidden_runs_account_for_errors :
    let tools : Tools (StateM FileTree) := ⟨FileTree.access, .ofFunction parseShapes, {}⟩
    let attempts : List Attempt := [halfHiddenAttempt, halfHiddenAttempt]
    let jobs := attempts.map Attempt.job
    (nameless.isRunnable = false ∧
      runToEnd tools nameless "." {} = pure (Session.report {} nameless.problems, 1)) ∧
    (halfHidden.isRunnable = true ∧ halfHiddenAttempt.errors = 1) ∧
    runAllToEnd tools jobs {} =
      (fun attempts => (Attempt.leaveAll {} {} attempts.val, attempts.val.map Attempt.errors)) <$>
        liftM (attemptAll tools jobs) ∧
    (Attempt.leaveAll {} {} attempts).reported.countP
      (fun diagnostic => diagnostic.code = .packedStructs) = 1 := by
  intro tools attempts jobs
  have notRunnable : nameless.isRunnable = false := by decide +kernel
  have runnable : halfHidden.isRunnable = true := by decide +kernel
  have ends : ∀ job ∈ jobs, job.SearchesEnd tools := by
    simp [jobs, attempts, tools, searchesEnd_halfHidden]
  obtain ⟨-, -, stopped, counted, -, session⟩ := runs_account_for_errors tools
  refine ⟨⟨notRunnable, (stopped ⟨nameless, "."⟩ {} notRunnable).1⟩, ⟨runnable, ?_⟩, ?_, ?_⟩
  · rw [(counted halfHiddenAttempt runnable).2]
    decide +kernel
  · obtain ⟨asked, all⟩ := (session jobs {}).1
    rw [asked, all ends]
  · have once := ((session jobs {}).2 attempts rfl).1
    rw [if_pos ⟨_, List.mem_cons_self, runnable, rfl⟩] at once
    exact once

/-- A run does not come to a number of errors if a search for the layouts of a dump does not
end. -/
theorem looped_run_has_no_count :
    let tools : Tools (StateM FileTree) := ⟨FileTree.access, .ofFunction parseShapes, {}⟩
    let looped : Configuration := { withInstances with fileNames := ["looped.yaml"] }
    looped.isRunnable = true ∧ (runToEnd tools looped "." {}).run.run {} = (none, {}) := by
  intro tools looped
  have runnable : looped.isRunnable = true := by decide +kernel
  have stops : runToEnd tools looped "." {} = failure :=
    runToEnd_eq_failure runnable rfl rfl searchLayouts_looped {}
  refine ⟨runnable, ?_⟩
  rw [stops]
  rfl

end Batch

end ForeignBindings
