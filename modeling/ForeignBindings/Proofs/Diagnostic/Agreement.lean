import ForeignBindings.Proofs.Diagnostic.Refinement

/-!
# Queues that agree but for some diagnostics

Two runs report to one queue, and some errors and warnings without notes are reported in one of the
runs only. If the queue has no limit, then it holds the same in both runs but for these: they take no
room from others, and nothing else is equal to one of them. The notes of a block follow its error or
warning, so that a queue that refuses notes does so until the next block only.
-/

namespace ForeignBindings.Queue

/-- Notes are not remembered. -/
theorem mem_seen_extend_notes {queue : Queue} (deduplicates : queue.policy.deduplicate = true)
    {notes : List Diagnostic} (areNotes : ∀ note ∈ notes, note.isNote = true)
    {diagnostic : Diagnostic} :
    diagnostic ∈ (queue.extend notes).seen ↔ diagnostic ∈ queue.seen := by
  induction notes generalizing queue with
  | nil => exact Iff.rfl
  | cons note rest inductionHypothesis =>
    obtain ⟨isNote, restAreNotes⟩ := List.forall_mem_cons.mp areNotes
    change diagnostic ∈ ((queue.push note).extend rest).seen ↔ _
    rw [inductionHypothesis (by rw [policy_push, deduplicates]) restAreNotes,
      mem_seen_push deduplicates, isNote]
    simp

/-- Of a block that is kept the error or warning is remembered. -/
theorem mem_seen_extend_block {queue : Queue} (deduplicates : queue.policy.deduplicate = true)
    (block : Block) {diagnostic : Diagnostic} :
    diagnostic ∈ (queue.extend block.toList).seen ↔
      diagnostic ∈ queue.seen ∨ queue.accepts block.head = true ∧ diagnostic = block.head := by
  change diagnostic ∈ ((queue.push block.head).extend block.notes).seen ↔ _
  rw [mem_seen_extend_notes (by rw [policy_push, deduplicates]) block.isNote_notes,
    mem_seen_push deduplicates, block.isNote_head]
  simp

/-- Two queues without a limit hold and remember the same but for what is ignored. -/
structure AgreesBut (ignored : Diagnostic → Bool) (queue other : Queue) : Prop where
  policy : queue.policy = other.policy
  unlimited : queue.policy.limit = 0
  held : queue.toList.filter (!ignored ·) = other.toList.filter (!ignored ·)
  seen : queue.policy.deduplicate = true → ∀ diagnostic, ignored diagnostic = false →
    (diagnostic ∈ queue.seen ↔ diagnostic ∈ other.seen)

namespace AgreesBut

variable {ignored : Diagnostic → Bool} {queue other : Queue}

/-- A queue agrees with itself. -/
theorem refl (ignored : Diagnostic → Bool) (unlimited : queue.policy.limit = 0) :
    queue.AgreesBut ignored queue :=
  ⟨rfl, unlimited, rfl, fun _ _ _ => Iff.rfl⟩

theorem symm (agrees : queue.AgreesBut ignored other) : other.AgreesBut ignored queue where
  policy := agrees.policy.symm
  unlimited := agrees.policy ▸ agrees.unlimited
  held := agrees.held.symm
  seen := fun deduplicates diagnostic counts =>
    (agrees.seen (agrees.policy ▸ deduplicates) diagnostic counts).symm

/-- A diagnostic that is ignored can be reported to one of the queues only. -/
theorem push_left (agrees : queue.AgreesBut ignored other) {diagnostic : Diagnostic}
    (isIgnored : ignored diagnostic = true) : (queue.push diagnostic).AgreesBut ignored other := by
  refine ⟨policy_push.trans agrees.policy, ?unlimited, ?held, ?seen⟩
  case unlimited => rw [policy_push, agrees.unlimited]
  case held =>
    rw [toList_push, ← agrees.held]
    split <;> simp [isIgnored]
  case seen =>
    intro deduplicates held counts
    rw [policy_push] at deduplicates
    rw [mem_seen_push deduplicates, ← agrees.seen deduplicates held counts]
    refine or_iff_left ?_
    rintro ⟨-, -, rfl⟩
    exact Bool.false_ne_true (counts.symm.trans isIgnored)

/-- Diagnostics that are ignored can be reported to one of the queues only. -/
theorem extend_left (agrees : queue.AgreesBut ignored other) {diagnostics : List Diagnostic}
    (areIgnored : ∀ diagnostic ∈ diagnostics, ignored diagnostic = true) :
    (queue.extend diagnostics).AgreesBut ignored other := by
  induction diagnostics generalizing queue with
  | nil => exact agrees
  | cons diagnostic rest inductionHypothesis =>
    obtain ⟨isIgnored, restIgnored⟩ := List.forall_mem_cons.mp areIgnored
    exact inductionHypothesis (agrees.push_left isIgnored) restIgnored

/-- Without a limit, an error or warning that is not ignored is accepted by both queues or by
none. -/
theorem accepts_eq (agrees : queue.AgreesBut ignored other) {diagnostic : Diagnostic}
    (isHead : diagnostic.isNote = false) (counts : ignored diagnostic = false) :
    queue.accepts diagnostic = other.accepts diagnostic := by
  have repeated : queue.isRepeated diagnostic = other.isRepeated diagnostic := by
    unfold isRepeated
    rw [← agrees.policy]
    cases deduplicates : queue.policy.deduplicate with
    | false => rfl
    | true =>
      rw [Bool.eq_iff_iff]
      simpa using agrees.seen deduplicates diagnostic counts
  unfold accepts hasRoom
  rw [isHead, repeated, agrees.unlimited, agrees.symm.unlimited]
  rfl

/-- A block that is not ignored is kept by both queues or by none. -/
theorem extend_block (agrees : queue.AgreesBut ignored other) (block : Block)
    (counts : ignored block.head = false) :
    (queue.extend block.toList).AgreesBut ignored (other.extend block.toList) := by
  have accepted := agrees.accepts_eq block.isNote_head counts
  refine ⟨?policy, ?unlimited, ?held, ?seen⟩
  case policy => rw [policy_extend, policy_extend, agrees.policy]
  case unlimited => rw [policy_extend, agrees.unlimited]
  case held =>
    rw [(queue.extend_block block).1, (other.extend_block block).1, accepted, List.filter_append,
      List.filter_append, agrees.held]
  case seen =>
    intro deduplicates diagnostic counts
    rw [policy_extend] at deduplicates
    rw [mem_seen_extend_block deduplicates, mem_seen_extend_block (agrees.policy ▸ deduplicates),
      accepted, agrees.seen deduplicates diagnostic counts]

end AgreesBut

end ForeignBindings.Queue
