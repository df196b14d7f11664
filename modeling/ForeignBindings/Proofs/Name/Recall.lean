import ForeignBindings.Proofs.Name.Calls

/-!
# What is remembered does not show

A resolver remembers names only to know which of them clash: the answer to every call is the
value of the name under the configuration, and a call that fails changes nothing. A table of
module names, on the other hand, is asked with whatever name a path yields, so that there it
does show: a file keeps the name that it first got, unless it is given one outright.
-/

namespace ForeignBindings

/-- Putting back the value of a kind changes nothing. -/
@[simp] theorem PerKind.set_get {α : Type} (values : PerKind α) (kind : ItemKind) :
    values.set kind (values.get kind) = values := by
  cases kind <;> rfl

namespace NameTable

/-- What a call answers is remembered. -/
theorem find?_resolve_of_answer {ε : Type} {table : NameTable} {source : ScopedName}
    {convert : Except ε String} {output : String}
    (answered : (table.resolve source convert).1 = .ok output) :
    (table.resolve source convert).2.find? source = some output := by
  rcases table.resolve_cases source convert with
    ⟨held, found, step⟩ | ⟨converted, _, _, step⟩ | ⟨error, _, _, step⟩
  · rw [step] at answered ⊢
    rw [found, Except.ok.inj answered]
  · rw [step] at answered ⊢
    rw [find?_record, if_pos rfl, Except.ok.inj answered]
  · rw [step] at answered
    cases answered

/-- What is remembered is answered, whatever the conversion would yield. -/
theorem answer_of_find? {ε : Type} {table : NameTable} {source : ScopedName} {output : String}
    (found : table.find? source = some output) (convert : Except ε String) :
    (table.resolve source convert).1 = .ok output := by
  unfold resolve
  rw [found]

/-- A call forgets nothing. -/
theorem find?_resolve_of_find? {ε : Type} {table : NameTable} {source : ScopedName}
    {output : String} (found : table.find? source = some output) (other : ScopedName)
    (convert : Except ε String) :
    (table.resolve other convert).2.find? source = some output := by
  rcases table.resolve_cases other convert with
    ⟨_, _, step⟩ | ⟨recorded, absent, _, step⟩ | ⟨_, _, _, step⟩
  · rw [step]
    exact found
  · rw [step, find?_record]
    split
    case isTrue same =>
      rw [same, absent] at found
      cases found
    case isFalse => exact found
  · rw [step]
    exact found

/-- A call that fails leaves the table as it was. -/
theorem eq_of_resolve_error {ε : Type} {table next : NameTable} {source : ScopedName}
    {convert : Except ε String} {error : ε}
    (failed : table.resolve source convert = (.error error, next)) : next = table := by
  rcases table.resolve_cases source convert with
    ⟨_, _, step⟩ | ⟨_, _, _, step⟩ | ⟨_, _, _, step⟩
  · cases step.symm.trans failed
  · cases step.symm.trans failed
  · exact (Prod.mk.inj (step.symm.trans failed)).2.symm

end NameTable

namespace Resolver

/-- What a name becomes under a configuration: the name that is given for it, which must not
be empty, or else what the chain of its kind makes of it. -/
theorem value_new (moduleName : String) (converters : ConverterSet)
    (file : Option NameConverter) (overrides : NameOverrides) (namespaces : NamespacePolicy)
    (kind : ItemKind) (raw : String) :
    (new moduleName converters file overrides namespaces).value kind raw =
      match (overrides.get kind).find? raw with
      | some output => if output = "" then .error (.emptyName raw) else .ok output
      | none => (converters.chain kind.variant file).convert raw := by
  unfold value convertName new
  rw [PerKind.get_ofFunction]
  rfl

/-- A call that fails leaves the resolver as it was. -/
theorem eq_of_resolve_error {resolver next : Resolver} {kind : ItemKind} {source : ScopedName}
    {error : ConverterError} (failed : resolver.resolve kind source = (.error error, next)) :
    next = resolver := by
  let call := (resolver.tables.get kind).resolve source (resolver.value kind source.name)
  have answer : call.1 = .error error := congrArg Prod.fst failed
  have unchanged : call.2 = resolver.tables.get kind :=
    NameTable.eq_of_resolve_error (Prod.ext answer rfl)
  calc
    next = { resolver with tables := resolver.tables.set kind call.2 } :=
      (congrArg Prod.snd failed).symm
    _ = resolver := by rw [unchanged, PerKind.set_get]

end Resolver

namespace ModuleNameTable

/-- A call that fails leaves the table as it was. -/
theorem eq_of_resolve_error {modules next : ModuleNameTable} {file raw : String} {chain : Chain}
    {error : ConverterError} (failed : modules.resolve file raw chain = (.error error, next)) :
    next = modules := by
  let call := modules.table.resolve (.unscoped file)
    (convertName (modules.explicit.find? file) chain raw)
  have answer : call.1 = .error error := congrArg Prod.fst failed
  have unchanged : call.2 = modules.table :=
    NameTable.eq_of_resolve_error (Prod.ext answer rfl)
  calc
    next = { modules with table := call.2 } := (congrArg Prod.snd failed).symm
    _ = modules := by rw [unchanged]

/-- A sequence of calls forgets nothing. -/
theorem find?_resolveAll {modules : ModuleNameTable} {source : ScopedName} {output : String}
    (found : modules.table.find? source = some output) (requests : List Request) :
    (modules.resolveAll requests).2.table.find? source = some output := by
  induction requests generalizing modules with
  | nil => exact found
  | cons request rest inductionHypothesis =>
    exact inductionHypothesis (NameTable.find?_resolve_of_find? found _ _)

/-- A file for which a name is given outright has no other name. -/
def RecallsGiven (modules : ModuleNameTable) : Prop :=
  ∀ file given output, modules.explicit.find? file = some given →
    modules.table.find? (.unscoped file) = some output → output = given

/-- A call gives no other name to a file for which one is given outright. -/
theorem RecallsGiven.resolve {modules : ModuleNameTable} (recalls : modules.RecallsGiven)
    (file raw : String) (chain : Chain) : (modules.resolve file raw chain).2.RecallsGiven := by
  intro other given output isGiven found
  change modules.explicit.find? other = some given at isGiven
  change (modules.table.resolve _ _).2.find? _ = some output at found
  rcases modules.table.resolve_cases (.unscoped file)
      (convertName (modules.explicit.find? file) chain raw) with
    ⟨_, _, step⟩ | ⟨recorded, _, converted, step⟩ | ⟨_, _, _, step⟩
  · rw [step] at found
    exact recalls other given output isGiven found
  · rw [step, NameTable.find?_record] at found
    split at found
    case isTrue same =>
      have sameFile : other = file := congrArg ScopedName.name same
      rw [← sameFile, isGiven] at converted
      unfold convertName at converted
      dsimp only at converted
      split at converted
      · cases converted
      · rw [← Option.some.inj found, ← Except.ok.inj converted]
    case isFalse => exact recalls other given output isGiven found
  · rw [step] at found
    exact recalls other given output isGiven found

/-- Nor does a sequence of calls. -/
theorem RecallsGiven.resolveAll {modules : ModuleNameTable} (recalls : modules.RecallsGiven)
    (requests : List Request) : (modules.resolveAll requests).2.RecallsGiven := by
  induction requests generalizing modules with
  | nil => exact recalls
  | cons request rest inductionHypothesis =>
    exact inductionHypothesis (recalls.resolve request.file request.raw request.chain)

/-- No call changes which files are given a name outright. -/
@[simp] theorem explicit_resolveAll (modules : ModuleNameTable) (requests : List Request) :
    (modules.resolveAll requests).2.explicit = modules.explicit := by
  induction requests generalizing modules with
  | nil => rfl
  | cons request rest inductionHypothesis => exact inductionHypothesis _

/-- A file for which a name is given outright gets that name. -/
theorem RecallsGiven.answer {modules : ModuleNameTable} (recalls : modules.RecallsGiven)
    {file given : String} (isGiven : modules.explicit.find? file = some given)
    (notEmpty : given ≠ "") (raw : String) (chain : Chain) :
    (modules.resolve file raw chain).1 = .ok given := by
  change (modules.table.resolve _ _).1 = .ok given
  cases found : modules.table.find? (.unscoped file) with
  | some output =>
    rw [NameTable.answer_of_find? found, recalls file given output isGiven found]
  | none =>
    unfold NameTable.resolve
    rw [found, isGiven]
    simp [convertName, notEmpty]

end ModuleNameTable

/-- What is remembered does not show in the answers of a resolver. After any calls, each call
is answered with the value of the raw name under the configuration, so that neither the scope
nor the calls before it matter, and two resolvers of one configuration agree. A call that
fails leaves the resolver as it was. In a table of module names a file keeps the name that it
once got, whatever it is asked with later, and a name that is given outright and not empty
always counts. -/
theorem answers_do_not_depend_on_calls :
    (∀ moduleName converters file overrides namespaces requests,
      ((Resolver.new moduleName converters file overrides namespaces).resolveAll requests).1 =
        requests.map fun request => (request,
          match (overrides.get request.kind).find? request.source.name with
          | some output =>
            if output = "" then .error (.emptyName request.source.name) else .ok output
          | none =>
            (converters.chain request.kind.variant file).convert request.source.name)) ∧
    (∀ converters file overrides moduleName namespaces otherModule otherNamespaces earlier
        otherEarlier kind source other, source.name = other.name →
      (((Resolver.new moduleName converters file overrides namespaces).resolveAll
          earlier).2.resolve kind source).1 =
        (((Resolver.new otherModule converters file overrides otherNamespaces).resolveAll
          otherEarlier).2.resolve kind other).1) ∧
    (∀ (resolver : Resolver) kind source error next,
      resolver.resolve kind source = (.error error, next) → next = resolver) ∧
    (∀ (modules : ModuleNameTable) file raw chain error next,
      modules.resolve file raw chain = (.error error, next) → next = modules) ∧
    (∀ (modules : ModuleNameTable) file raw chain output later laterRaw laterChain,
      (modules.resolve file raw chain).1 = .ok output →
        (((modules.resolve file raw chain).2.resolveAll later).2.resolve file laterRaw
          laterChain).1 = .ok output) ∧
    (∀ explicit earlier file given raw chain, explicit.find? file = some given → given ≠ "" →
      ((((ModuleNameTable.new explicit).resolveAll earlier).2).resolve file raw chain).1 =
        .ok given) := by
  refine ⟨?answers, ?agree, ?resolverFails, ?modulesFail, ?keeps, ?given⟩
  case answers =>
    intro moduleName converters file overrides namespaces requests
    rw [(Resolver.recalls_new moduleName converters file overrides namespaces).answers]
    simp only [Resolver.value_new]
  case agree =>
    intro converters file overrides moduleName namespaces otherModule otherNamespaces earlier
      otherEarlier kind source other sameName
    have first := (Resolver.recalls_new moduleName converters file overrides
      namespaces).resolveAll earlier
    have second := (Resolver.recalls_new otherModule converters file overrides
      otherNamespaces).resolveAll otherEarlier
    rw [first.answer, second.answer, Resolver.value_resolveAll, Resolver.value_resolveAll,
      Resolver.value_new, Resolver.value_new, sameName]
  case resolverFails =>
    intro resolver kind source error next failed
    exact Resolver.eq_of_resolve_error failed
  case modulesFail =>
    intro modules file raw chain error next failed
    exact ModuleNameTable.eq_of_resolve_error failed
  case keeps =>
    intro modules file raw chain output later laterRaw laterChain answered
    have remembered := NameTable.find?_resolve_of_answer answered
    exact NameTable.answer_of_find? (ModuleNameTable.find?_resolveAll remembered later) _
  case given =>
    intro explicit earlier file given raw chain isGiven notEmpty
    have recalls : (ModuleNameTable.new explicit).RecallsGiven := by
      intro other name output _ found
      cases found
    refine (recalls.resolveAll earlier).answer ?_ notEmpty raw chain
    rw [ModuleNameTable.explicit_resolveAll]
    exact isGiven

end ForeignBindings
