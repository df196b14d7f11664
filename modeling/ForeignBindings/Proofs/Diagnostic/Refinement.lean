import ForeignBindings.Proofs.Diagnostic.Blocks
import ForeignBindings.Proofs.Diagnostic.Queue

/-!
# Queues as lists of blocks

A queue does to single reports what its policy says about blocks. What it counts and
remembers agrees with what it holds (`Queue.Tallies`), so that it accepts an error or
warning exactly if the policy keeps a block with it after the blocks that are held; the notes
of the block follow. After any operations it holds what the policy keeps of the reports since
it was last flushed: `Queue.refines_blocks`.
-/

namespace ForeignBindings

namespace Queue

/-- The marks that a queue gives to diagnostics that are reported in order. -/
def verdicts (queue : Queue) : List Diagnostic → List (Diagnostic × Bool)
  | [] => []
  | diagnostic :: rest =>
    (diagnostic, queue.accepts diagnostic) :: (queue.push diagnostic).verdicts rest

/-- Diagnostics are marked one after the other. -/
theorem verdicts_append (queue : Queue) (first rest : List Diagnostic) :
    queue.verdicts (first ++ rest) =
      queue.verdicts first ++ (queue.extend first).verdicts rest := by
  induction first generalizing queue with
  | nil => rfl
  | cons diagnostic later inductionHypothesis =>
    simp [verdicts, inductionHypothesis, extend]

/-- What a queue keeps beside the held diagnostics agrees with them. -/
structure Tallies (queue : Queue) : Prop where
  errors : queue.errors = queue.toList.countP Diagnostic.isError
  warnings : queue.warnings = queue.toList.countP Diagnostic.isWarning
  seen : queue.policy.deduplicate = true → ∀ diagnostic, diagnostic.isNote = false →
    (diagnostic ∈ queue.seen ↔ diagnostic ∈ queue.toList)

/-- A new queue has nothing to disagree. -/
theorem tallies_ofPolicy (policy : QueuePolicy) : (ofPolicy policy).Tallies :=
  ⟨rfl, rfl, fun _ _ _ => Iff.rfl⟩

/-- A report keeps the agreement. -/
theorem Tallies.push {queue : Queue} (tallies : queue.Tallies) (diagnostic : Diagnostic) :
    (queue.push diagnostic).Tallies := by
  refine ⟨?errors, ?warnings, ?seen⟩
  case errors =>
    rw [errors_push, toList_push, tallies.errors]
    cases queue.accepts diagnostic <;> simp [List.countP_append, List.countP_singleton]
  case warnings =>
    rw [warnings_push, toList_push, tallies.warnings]
    cases queue.accepts diagnostic <;> simp [List.countP_append, List.countP_singleton]
  case seen =>
    intro deduplicates other notNote
    rw [policy_push] at deduplicates
    rw [mem_seen_push deduplicates, toList_push, tallies.seen deduplicates other notNote]
    cases queue.accepts diagnostic with
    | false => simp
    | true =>
      simp only [true_and, if_true, List.mem_append, List.mem_singleton]
      refine or_congr_right (and_iff_right_of_imp ?_)
      rintro rfl
      exact notNote

/-- Reports keep the agreement. -/
theorem Tallies.extend {queue : Queue} (tallies : queue.Tallies)
    (diagnostics : List Diagnostic) : (queue.extend diagnostics).Tallies := by
  induction diagnostics generalizing queue with
  | nil => exact tallies
  | cons diagnostic rest inductionHypothesis => exact inductionHypothesis (tallies.push diagnostic)

/-- Notes are kept or refused together. -/
theorem extend_notes (queue : Queue) {notes : List Diagnostic}
    (isNote : ∀ note ∈ notes, note.isNote = true) :
    (queue.extend notes).toList = queue.toList ++ (if queue.refusing then [] else notes) ∧
      queue.verdicts notes = notes.map (·, !queue.refusing) := by
  induction notes generalizing queue with
  | nil => simp [extend, verdicts]
  | cons note rest inductionHypothesis =>
    obtain ⟨isNoteFirst, areNotes⟩ := List.forall_mem_cons.mp isNote
    have accepted : queue.accepts note = !queue.refusing := by simp [accepts, isNoteFirst]
    have refusing : (queue.push note).refusing = queue.refusing := by
      rw [refusing_push, if_pos isNoteFirst]
    obtain ⟨held, marks⟩ := inductionHypothesis (queue.push note) areNotes
    rw [refusing] at held marks
    change ((queue.push note).extend rest).toList = _ ∧
      (note, _) :: (queue.push note).verdicts rest = _
    rw [held, marks, toList_push, accepted]
    cases queue.refusing <;> simp

/-- A block is kept or refused together with its error or warning. -/
theorem extend_block (queue : Queue) (block : Block) :
    (queue.extend block.toList).toList =
        queue.toList ++ (if queue.accepts block.head then block.toList else []) ∧
      queue.verdicts block.toList = block.toList.map (·, queue.accepts block.head) := by
  have refusing : (queue.push block.head).refusing = !queue.accepts block.head := by
    rw [refusing_push, block.isNote_head]
    rfl
  obtain ⟨held, marks⟩ := (queue.push block.head).extend_notes block.isNote_notes
  rw [refusing] at held marks
  change ((queue.push block.head).extend block.notes).toList = _ ∧
    (block.head, _) :: (queue.push block.head).verdicts block.notes = _
  rw [held, marks, toList_push, Block.toList]
  cases queue.accepts block.head <;> simp

/-- A queue that holds some blocks accepts those that the policy keeps after them. -/
theorem accepts_head_iff {queue : Queue} {reports : Reports} (tallies : queue.Tallies)
    (holds : queue.toList = reports.toList) (block : Block) :
    queue.accepts block.head = true ↔ queue.policy.Keeps reports.blocks block := by
  have counted : queue.errors + queue.warnings = reports.blocks.length := by
    rw [tallies.errors, tallies.warnings, holds, Reports.countP_isError_add_countP_isWarning,
      reports.countP_toList]
  have room : queue.hasRoom = true ↔
      queue.policy.limit = 0 ∨ reports.blocks.length < queue.policy.limit := by
    simp [hasRoom, counted]
  have new : queue.isRepeated block.head = false ↔
      queue.policy.deduplicate = false ∨
        ∀ earlier ∈ reports.blocks, earlier.head ≠ block.head := by
    unfold isRepeated
    cases deduplicates : queue.policy.deduplicate with
    | false => simp
    | true =>
      have seen := tallies.seen deduplicates block.head block.isNote_head
      rw [holds, Reports.mem_toList_iff block.isNote_head] at seen
      simp [seen]
  unfold accepts QueuePolicy.Keeps
  rw [block.isNote_head, if_neg Bool.false_ne_true, Bool.and_eq_true, Bool.not_eq_true', room, new]

/-- A queue keeps and refuses blocks as its policy judges them after the blocks that it
holds. -/
theorem extend_blocks {queue : Queue} {reports : Reports} (tallies : queue.Tallies)
    (holds : queue.toList = reports.toList) (blocks : List Block) :
    (queue.extend (blocks.flatMap Block.toList)).toList = reports.toList ++
        (keptBlocks (queue.policy.judge reports.blocks blocks)).flatMap Block.toList ∧
      queue.verdicts (blocks.flatMap Block.toList) =
        (queue.policy.judge reports.blocks blocks).flatMap fun judged =>
          judged.1.toList.map (·, judged.2) := by
  induction blocks generalizing queue reports with
  | nil => simp [extend, verdicts, QueuePolicy.judge, keptBlocks, holds]
  | cons block rest inductionHypothesis =>
    have accepted := accepts_head_iff tallies holds block
    obtain ⟨heldBlock, blockMarks⟩ := queue.extend_block block
    have later := tallies.extend block.toList
    rw [List.flatMap_cons, extend, List.foldl_append, verdicts_append, blockMarks]
    unfold QueuePolicy.judge
    split
    case isTrue keeps =>
      rw [accepted.mpr keeps, if_pos rfl, holds] at heldBlock
      let grown : Reports :=
        ⟨reports.leading, reports.blocks ++ [block], reports.isNote_leading⟩
      have holdsGrown : (queue.extend block.toList).toList = grown.toList := by
        rw [heldBlock]
        simp [grown, Reports.toList]
      obtain ⟨held, marks⟩ := inductionHypothesis later holdsGrown
      rw [policy_extend] at held marks
      refine ⟨held.trans ?_, ?_⟩
      · simp [grown, Reports.toList]
      · rw [marks, accepted.mpr keeps]
        rfl
    case isFalse refuses =>
      have refused : queue.accepts block.head = false :=
        Bool.eq_false_iff.mpr fun isAccepted => refuses (accepted.mp isAccepted)
      rw [refused, if_neg Bool.false_ne_true, List.append_nil, holds] at heldBlock
      obtain ⟨held, marks⟩ := inductionHypothesis later heldBlock
      rw [policy_extend] at held marks
      refine ⟨held.trans ?_, ?_⟩
      · simp
      · rw [marks, refused]
        rfl

/-- A new queue holds the leading notes of what is reported and the blocks that its policy
keeps, and marks the reports accordingly. -/
theorem extend_ofPolicy (policy : QueuePolicy) (reports : Reports) :
    ((ofPolicy policy).extend reports.toList).toList =
        reports.leading ++ (keptBlocks (policy.judge [] reports.blocks)).flatMap Block.toList ∧
      (ofPolicy policy).verdicts reports.toList = reports.verdicts policy := by
  obtain ⟨heldLeading, leadingMarks⟩ := (ofPolicy policy).extend_notes reports.isNote_leading
  let leading : Reports := ⟨reports.leading, [], reports.isNote_leading⟩
  have holds : ((ofPolicy policy).extend reports.leading).toList = leading.toList :=
    heldLeading.trans (by simp [leading, Reports.toList, ofPolicy, Queue.toList])
  obtain ⟨held, marks⟩ := extend_blocks
    ((tallies_ofPolicy policy).extend reports.leading) holds reports.blocks
  rw [policy_extend] at held marks
  rw [Reports.toList, extend, List.foldl_append, verdicts_append, leadingMarks]
  refine ⟨held.trans (by simp [leading, Reports.toList, ofPolicy]), ?_⟩
  rw [marks]
  rfl

/-- An operation on a queue. -/
inductive Operation where
  | push (diagnostic : Diagnostic)
  | extend (diagnostics : List Diagnostic)
  | flush
deriving DecidableEq, Repr

/-- What an operation answers: whether the diagnostic is kept, nothing, or what was held. -/
inductive Response where
  | pushed (isKept : Bool)
  | extended
  | flushed (held : List Diagnostic)
deriving DecidableEq, Repr

/-- Performs an operation. -/
def perform (queue : Queue) : Operation → Response × Queue
  | .push diagnostic => (.pushed (queue.accepts diagnostic), queue.push diagnostic)
  | .extend diagnostics => (.extended, queue.extend diagnostics)
  | .flush => (.flushed queue.flush.1, queue.flush.2)

/-- Performs operations in order. -/
def performAll (queue : Queue) : List Operation → List Response × Queue
  | [] => ([], queue)
  | operation :: rest =>
    let (response, next) := queue.perform operation
    let (responses, last) := next.performAll rest
    (response :: responses, last)

/-- The reports since the last flush, after an operation. -/
def Operation.reported (earlier : List Diagnostic) : Operation → List Diagnostic
  | .push diagnostic => earlier ++ [diagnostic]
  | .extend diagnostics => earlier ++ diagnostics
  | .flush => []

/-- The reports since the last flush, after operations on a new queue. -/
def sinceFlush (operations : List Operation) : List Diagnostic :=
  operations.foldl Operation.reported []

/-- An operation leaves what a new queue becomes by the reports since the last flush. -/
theorem perform_extend_ofPolicy (policy : QueuePolicy) (earlier : List Diagnostic)
    (operation : Operation) :
    (((ofPolicy policy).extend earlier).perform operation).2 =
      (ofPolicy policy).extend (operation.reported earlier) := by
  cases operation with
  | push diagnostic => simp [perform, Operation.reported, extend]
  | extend diagnostics => simp [perform, Operation.reported, extend]
  | flush =>
    have same := policy_extend (ofPolicy policy) earlier
    change ofPolicy ((ofPolicy policy).extend earlier).policy = ofPolicy policy
    rw [same]
    rfl

/-- Operations leave what a new queue becomes by the reports since the last flush. -/
theorem performAll_ofPolicy (policy : QueuePolicy) (operations : List Operation) :
    ((ofPolicy policy).performAll operations).2 =
      (ofPolicy policy).extend (sinceFlush operations) := by
  have fromEarlier (earlier : List Diagnostic) :
      (((ofPolicy policy).extend earlier).performAll operations).2 =
        (ofPolicy policy).extend (operations.foldl Operation.reported earlier) := by
    induction operations generalizing earlier with
    | nil => rfl
    | cons operation rest inductionHypothesis =>
      change ((((ofPolicy policy).extend earlier).perform operation).2.performAll rest).2 = _
      rw [perform_extend_ofPolicy]
      exact inductionHypothesis (operation.reported earlier)
  exact fromEarlier []

/-- A queue refines the list of blocks that were reported since it was last flushed. There is
one reading of the reports as leading notes and blocks. Each block is marked as kept exactly if
the limit has room after the blocks kept before it and, where repetitions are refused, none of
those has its error or warning. The queue holds the leading notes and the kept blocks in full,
in order. A report is answered with the mark that it gets. Errors and warnings are counted as
they are held, and no more of them than the limit allows. A flushed queue goes on like a new
one. -/
theorem refines_blocks (policy : QueuePolicy) (operations : List Operation) :
    let queue := ((ofPolicy policy).performAll operations).2
    let reported := sinceFlush operations
    let reports := Reports.ofList reported
    let judged := policy.judge [] reports.blocks
    (∀ reading : Reports, reading.toList = reported ↔ reading = reports) ∧
    judged.map Prod.fst = reports.blocks ∧
    (∀ earlier block isKept later, judged = earlier ++ (block, isKept) :: later →
      (isKept = true ↔
        (policy.limit = 0 ∨ (keptBlocks earlier).length < policy.limit) ∧
          (policy.deduplicate = false ∨
            ∀ other ∈ keptBlocks earlier, other.head ≠ block.head))) ∧
    queue.toList = reports.leading ++ (keptBlocks judged).flatMap Block.toList ∧
    (∀ diagnostic isKept, (queue.perform (.push diagnostic)).1 = .pushed isKept ↔
      (Reports.ofList (reported ++ [diagnostic])).verdicts policy =
        reports.verdicts policy ++ [(diagnostic, isKept)]) ∧
    queue.toList = ((reports.verdicts policy).filter Prod.snd).map Prod.fst ∧
    (queue.perform .flush).1 = .flushed queue.toList ∧
    queue.errors = queue.toList.countP Diagnostic.isError ∧
    queue.warnings = queue.toList.countP Diagnostic.isWarning ∧
    (policy.limit = 0 ∨ queue.errors + queue.warnings ≤ policy.limit) ∧
    ∀ continuation, (queue.perform .flush).2.performAll continuation =
      (ofPolicy policy).performAll continuation := by
  intro queue reported reports judged
  have state : queue = (ofPolicy policy).extend reported := performAll_ofPolicy policy operations
  have read : reports.toList = reported := Reports.toList_ofList reported
  have marked (diagnostics : List Diagnostic) :
      (Reports.ofList diagnostics).verdicts policy = (ofPolicy policy).verdicts diagnostics := by
    have marks := (extend_ofPolicy policy (Reports.ofList diagnostics)).2
    rw [Reports.toList_ofList] at marks
    exact marks.symm
  have tallies : queue.Tallies := state ▸ (tallies_ofPolicy policy).extend reported
  have held : queue.toList =
      reports.leading ++ (keptBlocks judged).flatMap Block.toList := by
    rw [state, ← read]
    exact (extend_ofPolicy policy reports).1
  have counted : queue.errors + queue.warnings = (keptBlocks judged).length := by
    let kept : Reports := ⟨reports.leading, keptBlocks judged, reports.isNote_leading⟩
    rw [tallies.errors, tallies.warnings, held, Reports.countP_isError_add_countP_isWarning]
    exact kept.countP_toList
  refine ⟨fun reading => Reports.toList_eq_iff, policy.map_fst_judge [] reports.blocks, ?marks,
    held, ?answers, held.trans (reports.filter_verdicts policy).symm, rfl, tallies.errors,
    tallies.warnings, ?limit, ?flushed⟩
  case marks =>
    intro earlier block isKept later same
    exact policy.judge_spec same
  case answers =>
    intro diagnostic isKept
    rw [marked, marked, verdicts_append, ← state, List.append_right_inj]
    simp [perform, verdicts]
  case limit =>
    rcases Nat.eq_zero_or_pos policy.limit with unlimited | limited
    · exact .inl unlimited
    · right
      rw [counted]
      have none : ([] : List Block).length ≤ policy.limit := Nat.zero_le policy.limit
      exact policy.length_keptBlocks_le (Nat.ne_of_gt limited) none
  case flushed =>
    intro continuation
    have new : (queue.perform .flush).2 = ofPolicy policy := by
      rw [state]
      exact perform_extend_ofPolicy policy reported .flush
    rw [new]

end Queue

end ForeignBindings
