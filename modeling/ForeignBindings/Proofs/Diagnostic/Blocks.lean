import ForeignBindings.Diagnostic.Queue

/-!
# Blocks of reports

Reports are read as notes that come first and blocks behind them, where a block is an error
or warning with the notes up to the next one; there is one such reading. A policy keeps a
block as a whole or refuses it as a whole. Which of them it does depends on the blocks that
it kept before: `QueuePolicy.judge_spec`.
-/

namespace ForeignBindings

/-- An error or warning with the notes that belong to it. -/
@[ext] structure Block where
  head : Diagnostic
  notes : List Diagnostic
  isNote_head : head.isNote = false
  isNote_notes : ∀ note ∈ notes, note.isNote = true

/-- The diagnostics of a block in order. -/
def Block.toList (block : Block) : List Diagnostic := block.head :: block.notes

/-- Reports, read as notes that belong to nothing and blocks behind them. -/
@[ext] structure Reports where
  leading : List Diagnostic
  blocks : List Block
  isNote_leading : ∀ note ∈ leading, note.isNote = true

namespace Reports

/-- The diagnostics of reports in order. -/
def toList (reports : Reports) : List Diagnostic :=
  reports.leading ++ reports.blocks.flatMap Block.toList

/-- Reports with one more in front. An error or warning takes the leading notes. -/
def cons (diagnostic : Diagnostic) (reports : Reports) : Reports :=
  if isNote : diagnostic.isNote then
    ⟨diagnostic :: reports.leading, reports.blocks,
      List.forall_mem_cons.mpr ⟨isNote, reports.isNote_leading⟩⟩
  else
    ⟨[], ⟨diagnostic, reports.leading, by simpa using isNote, reports.isNote_leading⟩ ::
      reports.blocks, nofun⟩

/-- The reading of diagnostics as reports. -/
def ofList (diagnostics : List Diagnostic) : Reports :=
  diagnostics.foldr cons ⟨[], [], nofun⟩

@[simp] theorem toList_cons (diagnostic : Diagnostic) (reports : Reports) :
    (cons diagnostic reports).toList = diagnostic :: reports.toList := by
  unfold cons toList
  split
  · rfl
  · rfl

/-- The reading of diagnostics reads all of them. -/
theorem toList_ofList (diagnostics : List Diagnostic) :
    (ofList diagnostics).toList = diagnostics := by
  induction diagnostics with
  | nil => rfl
  | cons diagnostic rest inductionHypothesis =>
    exact (toList_cons diagnostic (ofList rest)).trans (congrArg _ inductionHypothesis)

/-- Notes in front of other diagnostics lead the reports. -/
theorem ofList_append_of_notes {notes : List Diagnostic} (rest : List Diagnostic)
    (isNote : ∀ note ∈ notes, note.isNote = true) :
    (ofList (notes ++ rest)).leading = notes ++ (ofList rest).leading ∧
      (ofList (notes ++ rest)).blocks = (ofList rest).blocks := by
  induction notes with
  | nil => exact ⟨rfl, rfl⟩
  | cons note others inductionHypothesis =>
    obtain ⟨isNoteFirst, areNotes⟩ := List.forall_mem_cons.mp isNote
    obtain ⟨leading, blocks⟩ := inductionHypothesis areNotes
    change (cons note (ofList (others ++ rest))).leading = _ ∧
      (cons note (ofList (others ++ rest))).blocks = _
    simp [cons, isNoteFirst, leading, blocks]

/-- Blocks are read as themselves. -/
theorem ofList_flatMap (blocks : List Block) :
    ofList (blocks.flatMap Block.toList) = ⟨[], blocks, nofun⟩ := by
  induction blocks with
  | nil => rfl
  | cons block rest inductionHypothesis =>
    obtain ⟨leading, others⟩ :=
      ofList_append_of_notes (rest.flatMap Block.toList) block.isNote_notes
    rw [inductionHypothesis, List.append_nil] at leading
    rw [inductionHypothesis] at others
    change cons block.head (ofList (block.notes ++ rest.flatMap Block.toList)) = _
    simp [cons, block.isNote_head, leading, others]

/-- There is one reading of diagnostics as reports. -/
theorem toList_eq_iff {reports : Reports} {diagnostics : List Diagnostic} :
    reports.toList = diagnostics ↔ reports = ofList diagnostics := by
  constructor
  · rintro rfl
    obtain ⟨leading, blocks⟩ :=
      ofList_append_of_notes (reports.blocks.flatMap Block.toList) reports.isNote_leading
    rw [ofList_flatMap] at leading blocks
    exact Reports.ext (leading.trans (List.append_nil _)).symm blocks.symm
  · rintro rfl
    exact toList_ofList diagnostics

/-- What is not a note is an error or a warning. -/
theorem countP_isError_add_countP_isWarning (diagnostics : List Diagnostic) :
    diagnostics.countP Diagnostic.isError + diagnostics.countP Diagnostic.isWarning =
      diagnostics.countP fun diagnostic => !diagnostic.isNote := by
  induction diagnostics with
  | nil => rfl
  | cons diagnostic rest inductionHypothesis =>
    have one : ((if diagnostic.isError then 1 else 0) + if diagnostic.isWarning then 1 else 0) =
        if !diagnostic.isNote then 1 else 0 := by
      unfold Diagnostic.isError Diagnostic.isWarning Diagnostic.isNote
      cases diagnostic.severity <;> rfl
    rw [List.countP_cons, List.countP_cons, List.countP_cons]
    omega

/-- Among reports every block has one diagnostic that is not a note. -/
theorem countP_toList (reports : Reports) :
    reports.toList.countP (fun diagnostic => !diagnostic.isNote) = reports.blocks.length := by
  have notes {diagnostics : List Diagnostic}
      (areNotes : ∀ note ∈ diagnostics, note.isNote = true) :
      diagnostics.countP (fun diagnostic => !diagnostic.isNote) = 0 := by
    rw [List.countP_eq_zero]
    simpa using areNotes
  rw [toList, List.countP_append, notes reports.isNote_leading, Nat.zero_add]
  induction reports.blocks with
  | nil => rfl
  | cons block rest inductionHypothesis =>
    rw [List.flatMap_cons, List.countP_append, inductionHypothesis, Block.toList,
      List.countP_cons, notes block.isNote_notes]
    simp [block.isNote_head, Nat.add_comm]

/-- An error or warning among reports is that of a block. -/
theorem mem_toList_iff {reports : Reports} {diagnostic : Diagnostic}
    (notNote : diagnostic.isNote = false) :
    diagnostic ∈ reports.toList ↔ ∃ block ∈ reports.blocks, block.head = diagnostic := by
  have noNotes {diagnostics : List Diagnostic}
      (areNotes : ∀ note ∈ diagnostics, note.isNote = true) :
      diagnostic ∉ diagnostics := fun member => by simp [areNotes _ member] at notNote
  have ofBlock (block : Block) : diagnostic ∈ block.toList ↔ block.head = diagnostic := by
    simp [Block.toList, noNotes block.isNote_notes, eq_comm]
  simp [toList, noNotes reports.isNote_leading, ofBlock]

end Reports

/-- The blocks that are marked as kept. -/
def keptBlocks (judged : List (Block × Bool)) : List Block :=
  (judged.filter Prod.snd).map Prod.fst

@[simp] theorem keptBlocks_cons_true (block : Block) (judged : List (Block × Bool)) :
    keptBlocks ((block, true) :: judged) = block :: keptBlocks judged := by
  simp [keptBlocks]

@[simp] theorem keptBlocks_cons_false (block : Block) (judged : List (Block × Bool)) :
    keptBlocks ((block, false) :: judged) = keptBlocks judged := by
  simp [keptBlocks]

namespace QueuePolicy

variable (policy : QueuePolicy)

/-- A policy keeps a block, after the blocks that were kept before, within the limit and, where
it refuses repetitions, unless one of them has the same error or warning. -/
def Keeps (kept : List Block) (block : Block) : Prop :=
  (policy.limit = 0 ∨ kept.length < policy.limit) ∧
    (policy.deduplicate = false ∨ ∀ earlier ∈ kept, earlier.head ≠ block.head)

instance (kept : List Block) (block : Block) : Decidable (policy.Keeps kept block) :=
  inferInstanceAs (Decidable (_ ∧ _))

/-- Marks the blocks that a policy keeps, after the blocks that were kept before. -/
def judge (kept : List Block) : List Block → List (Block × Bool)
  | [] => []
  | block :: rest =>
    if policy.Keeps kept block then (block, true) :: judge (kept ++ [block]) rest
    else (block, false) :: judge kept rest

/-- All blocks are marked. -/
theorem map_fst_judge (kept blocks : List Block) :
    (policy.judge kept blocks).map Prod.fst = blocks := by
  induction blocks generalizing kept with
  | nil => rfl
  | cons block rest inductionHypothesis =>
    unfold judge
    split <;> simp [inductionHypothesis]

/-- A block is marked as kept when the policy keeps it after those that were kept before. -/
theorem judge_spec {kept blocks : List Block} {earlier later : List (Block × Bool)}
    {block : Block} {isKept : Bool}
    (judged : policy.judge kept blocks = earlier ++ (block, isKept) :: later) :
    isKept = true ↔ policy.Keeps (kept ++ keptBlocks earlier) block := by
  induction blocks generalizing kept earlier with
  | nil => simp [judge] at judged
  | cons first rest inductionHypothesis =>
    unfold judge at judged
    split at judged
    case isTrue keeps =>
      rcases List.cons_eq_append_iff.mp judged with ⟨rfl, same⟩ | ⟨before, rfl, same⟩
      · cases same
        simpa [keptBlocks] using keeps
      · simpa using inductionHypothesis same
    case isFalse refuses =>
      rcases List.cons_eq_append_iff.mp judged with ⟨rfl, same⟩ | ⟨before, rfl, same⟩
      · cases same
        simpa [keptBlocks] using refuses
      · simpa using inductionHypothesis same

/-- No more blocks are kept than the limit says. -/
theorem length_keptBlocks_le {kept blocks : List Block} (limited : policy.limit ≠ 0)
    (within : kept.length ≤ policy.limit) :
    (kept ++ keptBlocks (policy.judge kept blocks)).length ≤ policy.limit := by
  induction blocks generalizing kept with
  | nil => simpa [judge, keptBlocks] using within
  | cons block rest inductionHypothesis =>
    unfold judge
    split
    case isTrue keeps =>
      have room : kept.length < policy.limit := keeps.1.resolve_left limited
      have oneMore : (kept ++ [block]).length ≤ policy.limit := by
        rw [List.length_append]
        exact room
      simpa using inductionHypothesis oneMore
    case isFalse => simpa using inductionHypothesis within

end QueuePolicy

/-- Marks the diagnostics that a policy keeps: the leading notes, and those of the blocks that
it keeps. -/
def Reports.verdicts (policy : QueuePolicy) (reports : Reports) : List (Diagnostic × Bool) :=
  reports.leading.map (·, true) ++
    (policy.judge [] reports.blocks).flatMap fun judged =>
      judged.1.toList.map (·, judged.2)

/-- The marked diagnostics are the leading notes and those of the kept blocks. -/
theorem Reports.filter_verdicts (policy : QueuePolicy) (reports : Reports) :
    ((reports.verdicts policy).filter Prod.snd).map Prod.fst =
      reports.leading ++
        (keptBlocks (policy.judge [] reports.blocks)).flatMap Block.toList := by
  have ofBlocks (judged : List (Block × Bool)) :
      ((judged.flatMap fun judged => judged.1.toList.map (·, judged.2)).filter Prod.snd).map
        Prod.fst = (keptBlocks judged).flatMap Block.toList := by
    induction judged with
    | nil => rfl
    | cons first rest inductionHypothesis =>
      obtain ⟨block, isKept⟩ := first
      rw [List.flatMap_cons, List.filter_append, List.map_append, inductionHypothesis]
      cases isKept <;> simp [List.filter_map, Function.comp_def]
  rw [verdicts, List.filter_append, List.map_append, ofBlocks]
  simp [List.filter_map, Function.comp_def]

end ForeignBindings
