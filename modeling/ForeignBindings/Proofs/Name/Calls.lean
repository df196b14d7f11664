import ForeignBindings.Name.Resolver

/-!
# Sequences of calls

`NameTable.Calls` relates a table to the one that a sequence of calls leaves, with
the answer of each call. What a single call can do is said once, by
`NameTable.resolve_cases`. The tables of a resolver and the table of module names
run through such sequences, one for each kind of name.

A resolver recalls nothing but values: `Resolver.Recalls` is kept by every call, so
that an answer never depends on the calls before it.
-/

namespace ForeignBindings

namespace NameTable

/-- Recording changes what is found under the recorded name alone. -/
@[simp] theorem find?_record (table : NameTable) (source wanted : ScopedName) (output : String) :
    (table.record source output).find? wanted =
      if wanted = source then some output else table.find? wanted :=
  OrderedMap.find?_insert table.outputs source wanted output

@[simp] theorem space_record (table : NameTable) (source : ScopedName) (output : String) :
    (table.record source output).space = table.space := rfl

@[simp] theorem find?_empty (space : Namespace) (source : ScopedName) :
    (empty space).find? source = none := rfl

/-- A call answers with what the table has, or records what the conversion yields, or fails
with the conversion and changes nothing. -/
theorem resolve_cases {ε : Type} (table : NameTable) (source : ScopedName)
    (convert : Except ε String) :
    (∃ output, table.find? source = some output ∧
      table.resolve source convert = (.ok output, table)) ∨
    (∃ output, table.find? source = none ∧ convert = .ok output ∧
      table.resolve source convert = (.ok output, table.record source output)) ∨
    (∃ error, table.find? source = none ∧ convert = .error error ∧
      table.resolve source convert = (.error error, table)) := by
  unfold resolve
  cases found : table.find? source with
  | some output => exact Or.inl ⟨output, rfl, rfl⟩
  | none =>
    cases convert with
    | ok output => exact Or.inr (Or.inl ⟨output, rfl, rfl, rfl⟩)
    | error error => exact Or.inr (Or.inr ⟨error, rfl, rfl, rfl⟩)

/-- No call changes the namespace of a table. -/
@[simp] theorem space_resolve {ε : Type} (table : NameTable) (source : ScopedName)
    (convert : Except ε String) : (table.resolve source convert).2.space = table.space := by
  rcases table.resolve_cases source convert with
    ⟨_, _, step⟩ | ⟨_, _, _, step⟩ | ⟨_, _, _, step⟩ <;> simp [step]

/-- A sequence of calls of a table: the source names with their answers, in order, and the
table that is left. -/
inductive Calls {ε : Type} : NameTable → List (ScopedName × Except ε String) → NameTable → Prop
  | refl {table} : Calls table [] table
  | call {table source convert answers last}
      (rest : Calls (table.resolve source convert).2 answers last) :
      Calls table ((source, (table.resolve source convert).1) :: answers) last

end NameTable

namespace Resolver

/-- A call of a resolver. -/
structure Request where
  kind : ItemKind
  source : ScopedName
deriving DecidableEq, Repr

/-- A call with its answer. -/
abbrev Answered := Request × Except ConverterError String

/-- Makes calls in order. The outcome is each call with its answer, and the resolver that is
left. -/
def resolveAll (resolver : Resolver) : List Request → List Answered × Resolver
  | [] => ([], resolver)
  | request :: rest =>
    let (answer, next) := resolver.resolve request.kind request.source
    let (answers, last) := next.resolveAll rest
    ((request, answer) :: answers, last)

/-- The answers about one kind of name. -/
def answersOf (kind : ItemKind) (answers : List Answered) :
    List (ScopedName × Except ConverterError String) :=
  (answers.filter fun answered => answered.1.kind = kind).map fun answered =>
    (answered.1.source, answered.2)

/-- A call changes the table of its kind alone. -/
theorem get_tables_resolve (resolver : Resolver) (kind wanted : ItemKind) (source : ScopedName) :
    (resolver.resolve kind source).2.tables.get wanted =
      if wanted = kind then
        ((resolver.tables.get kind).resolve source (resolver.value kind source.name)).2
      else resolver.tables.get wanted :=
  PerKind.get_set resolver.tables kind wanted _

/-- No call changes the name of the module. -/
@[simp] theorem moduleName_resolve (resolver : Resolver) (kind : ItemKind) (source : ScopedName) :
    (resolver.resolve kind source).2.moduleName = resolver.moduleName := rfl

/-- No call changes what source names become. -/
@[simp] theorem value_resolve (resolver : Resolver) (kind : ItemKind) (source : ScopedName) :
    (resolver.resolve kind source).2.value = resolver.value := rfl

/-- The table of each kind goes through the calls of its kind. -/
theorem calls_resolveAll (resolver : Resolver) (requests : List Request) (kind : ItemKind) :
    NameTable.Calls (resolver.tables.get kind)
      (answersOf kind (resolver.resolveAll requests).1)
      ((resolver.resolveAll requests).2.tables.get kind) := by
  induction requests generalizing resolver with
  | nil => exact .refl
  | cons request rest inductionHypothesis =>
    have later := inductionHypothesis (resolver.resolve request.kind request.source).2
    rw [get_tables_resolve] at later
    by_cases same : kind = request.kind
    · subst same
      rw [if_pos rfl] at later
      have answered : answersOf request.kind (resolver.resolveAll (request :: rest)).1 =
          (request.source, (resolver.resolve request.kind request.source).1) ::
            answersOf request.kind
              ((resolver.resolve request.kind request.source).2.resolveAll rest).1 := by
        simp [resolveAll, answersOf]
      rw [answered]
      exact .call later
    · rw [if_neg same] at later
      have unanswered : answersOf kind (resolver.resolveAll (request :: rest)).1 =
          answersOf kind ((resolver.resolve request.kind request.source).2.resolveAll rest).1 := by
        simp [resolveAll, answersOf, Ne.symm same]
      rw [unanswered]
      exact later

/-- A sequence of one call is the call. -/
theorem resolveAll_singleton (resolver : Resolver) (request : Request) :
    (resolver.resolveAll [request]).2 = (resolver.resolve request.kind request.source).2 := by
  simp only [resolveAll]

/-- Sequences of calls follow each other. -/
theorem resolveAll_append (resolver : Resolver) (first rest : List Request) :
    (resolver.resolveAll (first ++ rest)).2 =
      ((resolver.resolveAll first).2.resolveAll rest).2 := by
  induction first generalizing resolver with
  | nil => rfl
  | cons request later inductionHypothesis => exact inductionHypothesis _

@[simp] theorem moduleName_resolveAll (resolver : Resolver) (requests : List Request) :
    (resolver.resolveAll requests).2.moduleName = resolver.moduleName := by
  induction requests generalizing resolver with
  | nil => rfl
  | cons request rest inductionHypothesis => exact inductionHypothesis _

@[simp] theorem value_resolveAll (resolver : Resolver) (requests : List Request) :
    (resolver.resolveAll requests).2.value = resolver.value := by
  induction requests generalizing resolver with
  | nil => rfl
  | cons request rest inductionHypothesis => exact inductionHypothesis _

/-- Every identifier that a resolver remembers is the value of its source name. -/
def Recalls (resolver : Resolver) : Prop :=
  ∀ kind source output, (resolver.tables.get kind).find? source = some output →
    resolver.value kind source.name = .ok output

/-- A resolver that has resolved nothing remembers nothing. -/
theorem recalls_new (moduleName : String) (converters : ConverterSet)
    (file : Option NameConverter) (overrides : NameOverrides) (namespaces : NamespacePolicy) :
    (new moduleName converters file overrides namespaces).Recalls := by
  intro kind source output found
  simp [new] at found

/-- The answer of a call is the value of its name. -/
theorem Recalls.answer {resolver : Resolver} (recalls : resolver.Recalls) (kind : ItemKind)
    (source : ScopedName) :
    (resolver.resolve kind source).1 = resolver.value kind source.name := by
  change ((resolver.tables.get kind).resolve source (resolver.value kind source.name)).1 =
    resolver.value kind source.name
  rcases (resolver.tables.get kind).resolve_cases source (resolver.value kind source.name) with
    ⟨output, found, step⟩ | ⟨output, _, converted, step⟩ | ⟨error, _, failed, step⟩
  · rw [step, recalls kind source output found]
  · rw [step, converted]
  · rw [step, failed]

/-- A call keeps the resolver from remembering anything but values. -/
theorem Recalls.resolve {resolver : Resolver} (recalls : resolver.Recalls) (kind : ItemKind)
    (source : ScopedName) : (resolver.resolve kind source).2.Recalls := by
  intro wanted name output found
  rw [value_resolve]
  rw [get_tables_resolve] at found
  by_cases same : wanted = kind
  · subst same
    rw [if_pos rfl] at found
    rcases (resolver.tables.get wanted).resolve_cases source
        (resolver.value wanted source.name) with
      ⟨_, _, step⟩ | ⟨recorded, _, converted, step⟩ | ⟨_, _, _, step⟩
    · exact recalls wanted name output (by simpa [step] using found)
    · rw [step, NameTable.find?_record] at found
      split at found
      case isTrue equal => rw [equal, converted, Option.some.inj found]
      case isFalse => exact recalls wanted name output found
    · exact recalls wanted name output (by simpa [step] using found)
  · rw [if_neg same] at found
    exact recalls wanted name output found

/-- Nor does a sequence of calls make it remember anything but values. -/
theorem Recalls.resolveAll {resolver : Resolver} (recalls : resolver.Recalls)
    (requests : List Request) : (resolver.resolveAll requests).2.Recalls := by
  induction requests generalizing resolver with
  | nil => exact recalls
  | cons request rest inductionHypothesis =>
    exact inductionHypothesis (recalls.resolve request.kind request.source)

/-- The answers to a sequence of calls are the values of the names. -/
theorem Recalls.answers {resolver : Resolver} (recalls : resolver.Recalls)
    (requests : List Request) :
    (resolver.resolveAll requests).1 =
      requests.map fun request => (request, resolver.value request.kind request.source.name) := by
  induction requests generalizing resolver with
  | nil => rfl
  | cons request rest inductionHypothesis =>
    have later := inductionHypothesis (recalls.resolve request.kind request.source)
    rw [value_resolve] at later
    simp [Resolver.resolveAll, recalls.answer, later]

end Resolver

namespace ModuleNameTable

/-- A call for the module name of a file. -/
structure Request where
  file : String
  raw : String
  chain : Chain
deriving DecidableEq, Repr

/-- Makes calls in order. The outcome is each file with its answer, and the table that is
left. -/
def resolveAll (modules : ModuleNameTable) :
    List Request → List (ScopedName × Except ConverterError String) × ModuleNameTable
  | [] => ([], modules)
  | request :: rest =>
    let (answer, next) := modules.resolve request.file request.raw request.chain
    let (answers, last) := next.resolveAll rest
    ((.unscoped request.file, answer) :: answers, last)

/-- The table goes through all calls. -/
theorem calls_resolveAll (modules : ModuleNameTable) (requests : List Request) :
    NameTable.Calls modules.table (modules.resolveAll requests).1
      (modules.resolveAll requests).2.table := by
  induction requests generalizing modules with
  | nil => exact .refl
  | cons request rest inductionHypothesis =>
    exact .call
      (inductionHypothesis (modules.resolve request.file request.raw request.chain).2)

end ModuleNameTable

end ForeignBindings
