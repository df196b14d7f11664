import ForeignBindings.Proofs.Name.Calls
import ForeignBindings.Proofs.Text.Lines
import ForeignBindings.Render.State

/-!
# What a step of rendering does

Rendering asks the resolver for names, reports to the queue, writes lines and hands out
type variables. `Render.Yields` says all of this about a step at once: it has the same
outcome in every state, but for the level of indentation and the number of type variables
handed out. So what was rendered before is never read again, and the outcomes of steps that
follow each other are appended.
-/

namespace ForeignBindings

/-- Reporting in two parts is reporting at once. -/
theorem Queue.extend_append (queue : Queue) (first second : List Diagnostic) :
    queue.extend (first ++ second) = (queue.extend first).extend second := by
  simp [Queue.extend]

namespace Resolver

/-- A resolver that remembers nothing but values gives the same answers as another. -/
structure AnswersLike (resolver reference : Resolver) : Prop where
  recalls : resolver.Recalls
  value : resolver.value = reference.value
  moduleName : resolver.moduleName = reference.moduleName

/-- A resolver that remembers nothing but values gives the answers that it gives. -/
theorem Recalls.answersLike {resolver : Resolver} (recalls : resolver.Recalls) :
    resolver.AnswersLike resolver :=
  ⟨recalls, rfl, rfl⟩

/-- A resolver gives the same answers after any calls. -/
theorem AnswersLike.resolveAll {resolver reference : Resolver}
    (like : resolver.AnswersLike reference) (requests : List Request) :
    (resolver.resolveAll requests).2.AnswersLike reference where
  recalls := like.recalls.resolveAll requests
  value := by rw [value_resolveAll, like.value]
  moduleName := by rw [moduleName_resolveAll, like.moduleName]

/-- The host name that is rendered for a raw name: its value, or else the raw name itself. -/
def hostName (resolver : Resolver) (kind : ItemKind) (raw : String) : String :=
  match resolver.value kind raw with
  | .ok output => output
  | .error _ => raw

end Resolver

namespace Render

/-- What rendering does besides writing text. -/
inductive Event where
  /-- The resolver is asked for a name. -/
  | ask (request : Resolver.Request)
  /-- A diagnostic is reported. -/
  | report (diagnostic : Diagnostic)

/-- What the resolver is asked for, in order. -/
def requestsOf (events : List Event) : List Resolver.Request :=
  events.filterMap fun
    | .ask request => some request
    | .report _ => none

/-- What is reported, in order: a name that cannot be converted when it is asked for. -/
def reportsOf (resolver : Resolver) (events : List Event) : List Diagnostic :=
  events.flatMap fun
    | .ask request =>
      match resolver.value request.kind request.source.name with
      | .ok _ => []
      | .error error => [unconvertible resolver.moduleName request.kind request.source error]
    | .report diagnostic => [diagnostic]

theorem requestsOf_append (first second : List Event) :
    requestsOf (first ++ second) = requestsOf first ++ requestsOf second :=
  List.filterMap_append

theorem reportsOf_append (resolver : Resolver) (first second : List Event) :
    reportsOf resolver (first ++ second) = reportsOf resolver first ++ reportsOf resolver second :=
  List.flatMap_append

/-- The state that is left by the lines and the events of a step. -/
def leave (reference : Resolver) (state : RenderState) (lines : List String)
    (events : List Event) (fresh : Nat) : RenderState where
  resolver := (state.resolver.resolveAll (requestsOf events)).2
  queue := state.queue.extend (reportsOf reference events)
  buffer := { state.buffer with text := state.buffer.text ++ unlines lines }
  fresh

/-- What is left by two steps is left by their lines and events in order. -/
theorem leave_leave (reference : Resolver) (state : RenderState) (first second : List String)
    (earlier later : List Event) (fresh last : Nat) :
    leave reference (leave reference state first earlier fresh) second later last =
      leave reference state (first ++ second) (earlier ++ later) last := by
  simp only [leave, requestsOf_append, reportsOf_append, unlines_append,
    Resolver.resolveAll_append, Queue.extend_append, String.append_assoc]

/-- A step of rendering that starts at a level of indentation with a number of type variables
handed out. It has a value, writes lines, causes events and leaves a number of type
variables. -/
def Yields {α : Type} (reference : Resolver) (depth : Nat) (step : Render α) (fresh : Nat)
    (value : α) (lines : List String) (events : List Event) (later : Nat) : Prop :=
  ∀ state : RenderState, state.resolver.AnswersLike reference → state.buffer.depth = depth →
    state.fresh = fresh →
      step.run state = (value, leave reference state lines events later)

variable {reference : Resolver} {depth fresh : Nat}

/-- Without events, what is left has only more text. -/
theorem leave_nil (state : RenderState) (lines : List String) :
    leave reference state lines [] fresh =
      { state with
        buffer := { state.buffer with text := state.buffer.text ++ unlines lines }
        fresh } := rfl

/-- Without lines and events, what is left has only another number of type variables. -/
theorem leave_nil_nil (state : RenderState) :
    leave reference state [] [] fresh = { state with fresh } := by
  rw [leave_nil]
  simp [unlines]

/-- A step that does nothing. -/
theorem yields_pure {α : Type} (value : α) :
    Yields reference depth (pure value) fresh value [] [] fresh := by
  intro state _ _ count
  rw [leave_nil_nil, ← count]
  rfl

/-- Steps follow each other. -/
theorem Yields.bind {α β : Type} {step : Render α} {rest : α → Render β} {value : α} {last : β}
    {lines moreLines : List String} {events moreEvents : List Event} {middle later : Nat}
    (first : Yields reference depth step fresh value lines events middle)
    (second : Yields reference depth (rest value) middle last moreLines moreEvents later) :
    Yields reference depth (step >>= rest) fresh last (lines ++ moreLines)
      (events ++ moreEvents) later := by
  intro state like level count
  rw [StateT.run_bind, first state like level count]
  have after := second (leave reference state lines events middle)
    (like.resolveAll (requestsOf events)) level rfl
  rw [leave_leave] at after
  exact after

/-- What is made of the value of a step changes nothing else. -/
theorem Yields.map {α β : Type} {step : Render α} {value : α} {lines : List String}
    {events : List Event} {later : Nat}
    (yields : Yields reference depth step fresh value lines events later) (make : α → β) :
    Yields reference depth (step >>= fun value => pure (make value)) fresh (make value) lines
      events later := by
  rw [← List.append_nil lines, ← List.append_nil events]
  exact yields.bind (yields_pure (make value))

/-- The lines and events of a step may be put in another form. -/
theorem Yields.cast {α : Type} {step : Render α} {value : α} {lines otherLines : List String}
    {events otherEvents : List Event} {later : Nat}
    (yields : Yields reference depth step fresh value lines events later)
    (sameLines : lines = otherLines) (sameEvents : events = otherEvents) :
    Yields reference depth step fresh value otherLines otherEvents later := by
  rw [← sameLines, ← sameEvents]
  exact yields

/-- A step that only writes. -/
theorem yields_edit {change : Buffer → Buffer} {lines : List String}
    (writes : ∀ buffer : Buffer, buffer.depth = depth →
      change buffer = { buffer with text := buffer.text ++ unlines lines }) :
    Yields reference depth (edit change) fresh () lines [] fresh := by
  intro state _ level count
  rw [leave_nil, ← writes state.buffer level, ← count]
  rfl

/-- A line is indented as deep as the level says. -/
theorem yields_line (text : String) :
    Yields reference depth (line text) fresh () [Buffer.indentation depth ++ text] [] fresh := by
  refine yields_edit fun buffer level => ?_
  simp [unlines, Buffer.writeLine, Buffer.writeIndentation, Buffer.write, Buffer.newline,
    String.append_assoc, level]

/-- A line at the outermost level is not indented. -/
theorem yields_topLine (text : String) :
    Yields reference 0 (line text) fresh () [text] [] fresh := by
  have outermost : Buffer.indentation 0 = "" := by simp [Buffer.indentation]
  refine Yields.cast (yields_line text) ?_ rfl
  rw [outermost, String.empty_append]

/-- Items that are rendered in order, each by a line. -/
theorem yields_forM {α : Type} {step : α → Render Unit} {lineOf : α → String}
    {eventsOf : α → List Event}
    (yields : ∀ item, Yields reference depth (step item) fresh () [lineOf item] (eventsOf item)
      fresh) (items : List α) :
    Yields reference depth (items.forM step) fresh () (items.map lineOf) (items.flatMap eventsOf)
      fresh := by
  induction items with
  | nil => exact yields_pure ()
  | cons item rest inductionHypothesis => exact (yields item).bind inductionHypothesis

/-- Lines are indented alike. -/
theorem yields_lines (texts : List String) :
    Yields reference depth (Render.lines texts) fresh ()
      (texts.map fun text => Buffer.indentation depth ++ text) [] fresh :=
  Yields.cast (yields_forM yields_line texts) rfl (List.flatMap_eq_nil_iff.mpr fun _ _ => rfl)

/-- An empty line is not indented. -/
theorem yields_blank : Yields reference depth blank fresh () [""] [] fresh := by
  refine yields_edit fun buffer _ => ?_
  simp [unlines, Buffer.newline, Buffer.write]

/-- What is rendered further in is written further in. -/
theorem Yields.indented {body : Render Unit} {lines : List String} {events : List Event}
    {later : Nat} (yields : Yields reference (depth + 1) body fresh () lines events later) :
    Yields reference depth (indented body) fresh () lines events later := by
  intro state like level count
  have inside := yields { state with buffer := state.buffer.indent } like
    (congrArg (· + 1) level) count
  change ((), { (body.run { state with buffer := state.buffer.indent }).2 with
    buffer := (body.run { state with buffer := state.buffer.indent }).2.buffer.dedent }) = _
  rw [inside]
  rfl

/-- The next type variable is handed out. -/
theorem yields_freshVariable :
    Yields reference depth freshVariable fresh (typeVariable fresh) [] [] (fresh + 1) := by
  intro state _ _ count
  rw [leave_nil_nil, ← count]
  rfl

/-- The type variables are forgotten. -/
theorem yields_resetFresh : Yields reference depth resetFresh fresh fresh [] [] 0 := by
  intro state _ _ count
  rw [leave_nil_nil, ← count]
  rfl

/-- A diagnostic is reported. -/
theorem yields_report (diagnostic : Diagnostic) :
    Yields reference depth (report diagnostic) fresh () [] [.report diagnostic] fresh := by
  intro state _ _ count
  unfold leave
  rw [← count]
  simp [unlines]
  rfl

/-- A name is what the resolver answers. -/
theorem run_nameOf_of_ok {state : RenderState} {kind : ItemKind} {source : ScopedName}
    {output : String} {resolver : Resolver}
    (step : state.resolver.resolve kind source = (.ok output, resolver)) :
    (nameOf kind source).run state = (output, { state with resolver }) := by
  unfold nameOf
  rw [StateT.run_bind, StateT.run_get, pure_bind]
  simp only [step]
  rfl

/-- A name that the resolver has no answer for is the raw name, and is reported. -/
theorem run_nameOf_of_error {state : RenderState} {kind : ItemKind} {source : ScopedName}
    {error : ConverterError} {resolver : Resolver}
    (step : state.resolver.resolve kind source = (.error error, resolver)) :
    (nameOf kind source).run state = (source.name, { state with
      resolver
      queue := state.queue.push (unconvertible resolver.moduleName kind source error) }) := by
  unfold nameOf
  rw [StateT.run_bind, StateT.run_get, pure_bind]
  simp only [step]
  rfl

/-- The host name of a source name is asked for. -/
theorem yields_nameOf (kind : ItemKind) (source : ScopedName) :
    Yields reference depth (nameOf kind source) fresh (reference.hostName kind source.name) []
      [.ask ⟨kind, source⟩] fresh := by
  intro state like _ count
  have answer := like.recalls.answer kind source
  have name := Resolver.moduleName_resolve state.resolver kind source
  have requests : requestsOf [.ask ⟨kind, source⟩] = [⟨kind, source⟩] := rfl
  rw [like.value] at answer
  rw [like.moduleName] at name
  unfold leave Resolver.hostName
  rw [requests, Resolver.resolveAll_singleton, ← count]
  -- The answer is named before it is looked at, so that no call of the resolver is unfolded.
  cases step : state.resolver.resolve kind source with
  | mk result resolver =>
    rw [step] at answer name
    cases converted : reference.value kind source.name with
    | ok output =>
      obtain rfl : result = .ok output := answer.trans converted
      rw [run_nameOf_of_ok step]
      simp [unlines, reportsOf, converted, Queue.extend]
    | error error =>
      obtain rfl : result = .error error := answer.trans converted
      have sameName : resolver.moduleName = reference.moduleName := name
      rw [run_nameOf_of_error step, sameName]
      simp [unlines, reportsOf, converted, Queue.extend]

end Render

end ForeignBindings
