import ForeignBindings.Diagnostic.Queue

/-!
# What a report does to a queue

One law for each part of a queue says what it is after a report. A queue without a limit that
does not look for repetitions keeps every report: once open, it stays open, and reporting to
it appends.
-/

namespace ForeignBindings.Queue

section Push

variable {queue : Queue} {diagnostic : Diagnostic}

/-- No report changes the policy. -/
@[simp] theorem policy_push : (queue.push diagnostic).policy = queue.policy := by
  unfold push
  split <;> rfl

/-- A report is held exactly if it is accepted. -/
theorem toList_push : (queue.push diagnostic).toList =
    if queue.accepts diagnostic then queue.toList ++ [diagnostic] else queue.toList := by
  unfold push toList
  cases queue.accepts diagnostic <;> cases diagnostic.severity <;> simp

/-- Notes do not change whether notes are refused. An error or warning has its notes refused
if it is refused itself. -/
theorem refusing_push : (queue.push diagnostic).refusing =
    if diagnostic.isNote then queue.refusing else !queue.accepts diagnostic := by
  unfold push Diagnostic.isNote
  cases diagnostic.severity <;> rfl

/-- An accepted error is counted. -/
theorem errors_push : (queue.push diagnostic).errors =
    queue.errors + if queue.accepts diagnostic && diagnostic.isError then 1 else 0 := by
  unfold push Diagnostic.isError
  cases queue.accepts diagnostic <;> cases diagnostic.severity <;> rfl

/-- An accepted warning is counted. -/
theorem warnings_push : (queue.push diagnostic).warnings =
    queue.warnings + if queue.accepts diagnostic && diagnostic.isWarning then 1 else 0 := by
  unfold push Diagnostic.isWarning
  cases queue.accepts diagnostic <;> cases diagnostic.severity <;> rfl

/-- An accepted error or warning is remembered where repetitions are refused. -/
theorem mem_seen_push {other : Diagnostic} (deduplicates : queue.policy.deduplicate = true) :
    other ∈ (queue.push diagnostic).seen ↔
      other ∈ queue.seen ∨
        queue.accepts diagnostic = true ∧ diagnostic.isNote = false ∧ other = diagnostic := by
  unfold push Diagnostic.isNote
  cases queue.accepts diagnostic <;> cases diagnostic.severity <;>
    simp [deduplicates, or_comm]

end Push

/-- No reports change the policy. -/
@[simp] theorem policy_extend (queue : Queue) (diagnostics : List Diagnostic) :
    (queue.extend diagnostics).policy = queue.policy := by
  induction diagnostics generalizing queue with
  | nil => rfl
  | cons diagnostic rest inductionHypothesis =>
    exact (inductionHypothesis (queue.push diagnostic)).trans policy_push

/-- A queue that keeps whatever is reported next. -/
structure IsOpen (queue : Queue) : Prop where
  unlimited : queue.policy.limit = 0
  admitsRepeats : queue.policy.deduplicate = false
  keepsNotes : queue.refusing = false

/-- A new queue of the policy without a limit and without a search for repetitions is open. -/
theorem isOpen_new : (ofPolicy {}).IsOpen := ⟨rfl, rfl, rfl⟩

/-- An open queue accepts every diagnostic. -/
theorem IsOpen.accepts {queue : Queue} (isOpen : queue.IsOpen) (diagnostic : Diagnostic) :
    queue.accepts diagnostic = true := by
  unfold Queue.accepts hasRoom isRepeated
  simp [isOpen.unlimited, isOpen.admitsRepeats, isOpen.keepsNotes]

/-- An open queue stays open. -/
theorem IsOpen.push {queue : Queue} (isOpen : queue.IsOpen) (diagnostic : Diagnostic) :
    (queue.push diagnostic).IsOpen where
  unlimited := by rw [policy_push, isOpen.unlimited]
  admitsRepeats := by rw [policy_push, isOpen.admitsRepeats]
  keepsNotes := by simp [refusing_push, isOpen.accepts, isOpen.keepsNotes]

/-- An open queue appends what is reported. -/
theorem IsOpen.toList_push {queue : Queue} (isOpen : queue.IsOpen) (diagnostic : Diagnostic) :
    (queue.push diagnostic).toList = queue.toList ++ [diagnostic] := by
  rw [Queue.toList_push, isOpen.accepts, if_pos rfl]

/-- An open queue appends diagnostics in the order of their reports. -/
theorem IsOpen.toList_extend {queue : Queue} (isOpen : queue.IsOpen)
    (diagnostics : List Diagnostic) :
    (queue.extend diagnostics).toList = queue.toList ++ diagnostics := by
  induction diagnostics generalizing queue with
  | nil => simp [extend]
  | cons diagnostic rest inductionHypothesis =>
    have later := inductionHypothesis (isOpen.push diagnostic)
    rw [isOpen.toList_push, List.append_assoc] at later
    exact later

end ForeignBindings.Queue
