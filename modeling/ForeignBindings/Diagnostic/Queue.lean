import ForeignBindings.Diagnostic

/-!
# The diagnostic queue

Diagnostics are kept in the order of their reports, because notes belong to the
error or warning before them. A queue may limit how many errors and warnings it
keeps and may refuse one that it holds already; the notes of a refused
diagnostic are refused with it.
-/

namespace ForeignBindings

/-- What a queue keeps. -/
structure QueuePolicy where
  /-- The most errors and warnings that are kept; zero sets no limit. -/
  limit : Nat := 0
  /-- Whether an error or warning equal to a held one is refused. -/
  deduplicate : Bool := false
deriving DecidableEq, Repr, Inhabited

/-- The diagnostics of one file, in the order of their reports. -/
structure Queue where
  policy : QueuePolicy := {}
  held : Array Diagnostic := #[]
  /-- The held errors and warnings, where the policy refuses repetitions. -/
  seen : List Diagnostic := []
  errors : Nat := 0
  warnings : Nat := 0
  /-- Whether the last error or warning was refused, so that its notes are too. -/
  refusing : Bool := false
deriving DecidableEq, Repr, Inhabited

namespace Queue

/-- An empty queue under a policy. -/
def ofPolicy (policy : QueuePolicy) : Queue := { policy }

/-- Whether the queue has room for one more error or warning. -/
def hasRoom (queue : Queue) : Bool :=
  queue.policy.limit == 0 || queue.errors + queue.warnings < queue.policy.limit

/-- Whether the policy refuses a diagnostic for being held already. -/
def isRepeated (queue : Queue) (diagnostic : Diagnostic) : Bool :=
  queue.policy.deduplicate && queue.seen.contains diagnostic

/-- Whether the queue keeps a diagnostic that is reported next. -/
def accepts (queue : Queue) (diagnostic : Diagnostic) : Bool :=
  if diagnostic.isNote then !queue.refusing
  else queue.hasRoom && !queue.isRepeated diagnostic

/-- Reports a diagnostic. -/
def push (queue : Queue) (diagnostic : Diagnostic) : Queue :=
  let kept := queue.accepts diagnostic
  let held := if kept then queue.held.push diagnostic else queue.held
  let seen := if kept && queue.policy.deduplicate then diagnostic :: queue.seen else queue.seen
  match diagnostic.severity with
  | .note => { queue with held }
  | .error =>
    { queue with
      held
      seen
      errors := if kept then queue.errors + 1 else queue.errors
      refusing := !kept }
  | .warning =>
    { queue with
      held
      seen
      warnings := if kept then queue.warnings + 1 else queue.warnings
      refusing := !kept }

/-- Reports diagnostics in order. -/
def extend (queue : Queue) (diagnostics : List Diagnostic) : Queue :=
  diagnostics.foldl push queue

/-- The held diagnostics in the order of their reports. -/
def toList (queue : Queue) : List Diagnostic := queue.held.toList

/-- Whether an error is held. -/
def hasErrors (queue : Queue) : Bool := queue.errors != 0

/-- Whether nothing is held. -/
def isEmpty (queue : Queue) : Bool := queue.held.isEmpty

/-- Takes all held diagnostics. What is left holds nothing and remembers nothing. -/
def flush (queue : Queue) : List Diagnostic × Queue :=
  (queue.toList,
    { queue with held := #[], seen := [], errors := 0, warnings := 0, refusing := false })

end Queue

end ForeignBindings
