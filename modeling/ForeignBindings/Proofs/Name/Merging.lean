import ForeignBindings.Proofs.Name.ClashReport
import ForeignBindings.Proofs.Name.Layering
import ForeignBindings.Proofs.Name.Recall
import ForeignBindings.Proofs.Name.Spelling

/-!
# Identifiers with one spelling

In snake case two identifiers have one spelling exactly if they have the same words, but for the
case of letters: the words can be read off between the underscores. In a flat namespace a clash is
therefore reported for two such identifiers and for no others: `NameCase.snake_merges_same_words`.
-/

namespace ForeignBindings

namespace NameCase

/-- The words of an identifier can be read off its spelling in snake case. -/
theorem lowercase_eq_of_convert? {nameCase : NameCase} {variant : NameVariant}
    (snake : nameCase.isSnake = true) {name converted : String}
    (conversion : nameCase.convert? variant name = some converted) :
    Word.lowercase name.toList =
      (converted.toList.splitOn '_').map fun part => part.map Char.toLower := by
  rw [splitOn_convert? snake conversion, map_toLower_spelledWords]
  rfl

/-- Identifiers have one spelling in snake case exactly if they have the same words. -/
theorem convert?_eq_convert?_iff {nameCase : NameCase} (snake : nameCase.isSnake = true)
    (variant : NameVariant) (first second : String) :
    nameCase.convert? variant first = nameCase.convert? variant second ↔
      Word.lowercase first.toList = Word.lowercase second.toList := by
  have recases := ne_preserving_of_isSnake snake
  refine ⟨fun sameSpelling => ?_, convert?_congr recases variant⟩
  cases conversion : nameCase.convert? variant first with
  | none =>
    have noWords := (convert?_eq_none_iff recases).mp conversion
    rw [conversion] at sameSpelling
    have alsoNoWords := (convert?_eq_none_iff recases).mp sameSpelling.symm
    rw [Word.lowercase, Word.lowercase, noWords, alsoNoWords]
  | some converted =>
    have alsoConversion := sameSpelling.symm.trans conversion
    rw [lowercase_eq_of_convert? snake conversion, lowercase_eq_of_convert? snake alsoConversion]

/-- What two identifiers are converted to is the same exactly if they have the same words. -/
theorem output_eq_iff {nameCase : NameCase} (snake : nameCase.isSnake = true)
    {variant : NameVariant} {first second firstOutput secondOutput : String}
    (firstConversion : nameCase.convert? variant first = some firstOutput)
    (secondConversion : nameCase.convert? variant second = some secondOutput) :
    firstOutput = secondOutput ↔ Word.lowercase first.toList = Word.lowercase second.toList := by
  rw [← convert?_eq_convert?_iff snake variant, firstConversion, secondConversion,
    Option.some.injEq]

/-- What an identifier is converted to is not empty. -/
theorem ne_empty_of_convert? {nameCase : NameCase} (recases : nameCase ≠ .preserving)
    {variant : NameVariant} {name converted : String}
    (conversion : nameCase.convert? variant name = some converted) : converted ≠ "" := by
  rintro rfl
  have noLetters := (spells_of_convert? recases conversion).sameLetters
  have noAlphanum : name.toList.filter Char.isAlphanum = [] := List.map_eq_nil_iff.mp noLetters.symm
  have someWords := ((convert?_eq_some_iff recases).mp conversion).1
  rw [List.filter_eq_nil_iff] at noAlphanum
  refine someWords ((Word.segment_eq_nil_iff _).mpr fun character member => ?_)
  exact Bool.eq_false_of_not_eq_true (noAlphanum character member)

end NameCase

/-- A chain that only converts the case. -/
def Chain.recase (nameCase : NameCase) (variant : NameVariant) : Chain :=
  ⟨[.recase nameCase variant]⟩

theorem Chain.convert_recase {nameCase : NameCase} (recases : nameCase ≠ .preserving)
    {variant : NameVariant} {raw converted : String}
    (conversion : nameCase.convert? variant raw = some converted) :
    (recase nameCase variant).convert raw = .ok converted :=
  convert_eq_ok_iff.mpr ⟨(run?_recase nameCase variant raw).trans conversion,
    NameCase.ne_empty_of_convert? recases conversion⟩

/-! ## Clashes of two names -/

/-- A clash reports that two names of a kind became one identifier. -/
structure Clash.Joins (clash : Clash) (kind : NameKind) (first second : ScopedName) : Prop where
  kind_eq : clash.kind = kind
  reason_eq : clash.reason = .duplicate
  first_mem : first ∈ clash.sources
  second_mem : second ∈ clash.sources

/-- A clash of a report names the group of an identifier, and a duplicate at least two of it. -/
theorem exists_group_of_mem_clashReport {kind : NameKind} {module : Option String}
    {space : Namespace} {keywords : Keywords} {resolved : Finset (ScopedName × String)}
    {clash : Clash} (member : clash ∈ clashReport kind module space keywords resolved) :
    ∃ key, clash.kind = kind ∧
      clash.sources = (clashGroup space resolved key).sort (· ≤ ·) := by
  unfold clashReport at member
  obtain ⟨key, -, member⟩ := List.mem_flatMap.mp member
  refine ⟨key, ?_⟩
  rcases List.mem_append.mp member with member | member <;> split at member <;> simp_all

/-- Two names of a group are reported together. -/
theorem exists_joins_of_mem_clashGroup {space : Namespace}
    {resolved : Finset (ScopedName × String)} {key first second : ScopedName}
    (isFirst : first ∈ clashGroup space resolved key)
    (isSecond : second ∈ clashGroup space resolved key) (distinct : first ≠ second)
    (kind : NameKind) (module : Option String) (keywords : Keywords) :
    ∃ clash ∈ clashReport kind module space keywords resolved, clash.Joins kind first second := by
  have atLeastTwo : 2 ≤ (clashGroup space resolved key).card :=
    Finset.one_lt_card.mpr ⟨first, isFirst, second, isSecond, distinct⟩
  have isKey : key ∈ (resolved.image fun entry => space.key entry.1 entry.2).sort (· ≤ ·) := by
    obtain ⟨output, gets, sameKey⟩ := mem_clashGroup.mp isFirst
    rw [Finset.mem_sort]
    exact Finset.mem_image.mpr ⟨_, gets, sameKey⟩
  let clash : Clash :=
    { kind, module, output := key.name, reason := .duplicate
      sources := (clashGroup space resolved key).sort (· ≤ ·) }
  have reported : clash ∈ clashReport kind module space keywords resolved := by
    refine List.mem_flatMap.mpr ⟨key, isKey, List.mem_append_left _ ?_⟩
    rw [if_pos atLeastTwo]
    exact List.mem_singleton_self _
  exact ⟨clash, reported, rfl, rfl, (Finset.mem_sort _).mpr isFirst,
    (Finset.mem_sort _).mpr isSecond⟩

/-- Two names are reported together exactly if they became one identifier. -/
theorem exists_joins_clashReport_iff {resolved : Finset (ScopedName × String)}
    {first second : ScopedName} {firstOutput secondOutput : String}
    (firstGets : ∀ output, (first, output) ∈ resolved ↔ output = firstOutput)
    (secondGets : ∀ output, (second, output) ∈ resolved ↔ output = secondOutput)
    (distinct : first ≠ second) (kind : NameKind) (module : Option String) (keywords : Keywords) :
    (∃ clash ∈ clashReport kind module .flat keywords resolved, clash.Joins kind first second) ↔
      firstOutput = secondOutput := by
  constructor
  · rintro ⟨clash, member, joins⟩
    obtain ⟨key, -, sources⟩ := exists_group_of_mem_clashReport member
    have isFirst := joins.first_mem
    have isSecond := joins.second_mem
    rw [sources, Finset.mem_sort, mem_clashGroup] at isFirst isSecond
    obtain ⟨output, gets, sameKey⟩ := isFirst
    obtain ⟨other, otherGets, otherKey⟩ := isSecond
    rw [(firstGets output).mp gets] at sameKey
    rw [(secondGets other).mp otherGets] at otherKey
    exact congrArg ScopedName.name (sameKey.trans otherKey.symm)
  · rintro rfl
    have inGroup : ∀ name, (∀ output, (name, output) ∈ resolved ↔ output = firstOutput) →
        name ∈ clashGroup .flat resolved (.unscoped firstOutput) := fun name gets =>
      mem_clashGroup.mpr ⟨firstOutput, (gets firstOutput).mpr rfl, rfl⟩
    exact exists_joins_of_mem_clashGroup (inGroup first firstGets) (inGroup second secondGets)
      distinct kind module keywords

namespace Resolver

/-- Of two names that are resolved in a flat namespace, a clash is reported exactly if they have
one value. -/
theorem exists_joins_iff {moduleName : String} {converters : ConverterSet}
    {file : Option NameConverter} {overrides : NameOverrides} {namespaces : NamespacePolicy}
    {requests : List Request} {kind : ItemKind} {first second : ScopedName}
    {firstOutput secondOutput : String} (flat : namespaces.get kind = .flat)
    (firstAsked : ⟨kind, first⟩ ∈ requests) (secondAsked : ⟨kind, second⟩ ∈ requests)
    (firstValue : (new moduleName converters file overrides namespaces).value kind first.name =
      .ok firstOutput)
    (secondValue : (new moduleName converters file overrides namespaces).value kind second.name =
      .ok secondOutput)
    (distinct : first ≠ second) (keywords : Keywords) :
    (∃ clash ∈ ((new moduleName converters file overrides namespaces).resolveAll
        requests).2.clashes keywords, clash.Joins (.item kind) first second) ↔
      firstOutput = secondOutput := by
  have recalls := recalls_new moduleName converters file overrides namespaces
  have gets : ∀ {name : ScopedName} {value : String}, ⟨kind, name⟩ ∈ requests →
      (new moduleName converters file overrides namespaces).value kind name.name = .ok value →
      ∀ output, (name, output) ∈ (new moduleName converters file overrides namespaces).resolved
        requests kind ↔ output = value := by
    intro name value asked isValue output
    rw [recalls.mem_resolved, and_iff_right asked, isValue, Except.ok.injEq, eq_comm]
  rw [← exists_joins_clashReport_iff (gets firstAsked firstValue) (gets secondAsked secondValue)
    distinct (.item kind) (some moduleName) keywords, clashes_resolveAll]
  constructor
  · rintro ⟨clash, member, joins⟩
    obtain ⟨other, -, reported⟩ := List.mem_flatMap.mp member
    obtain ⟨-, ofKind, -⟩ := exists_group_of_mem_clashReport reported
    obtain rfl : kind = other := NameKind.item.inj (joins.kind_eq.symm.trans ofKind)
    rw [flat] at reported
    exact ⟨clash, reported, joins⟩
  · rintro ⟨clash, reported, joins⟩
    refine ⟨clash, List.mem_flatMap.mpr ⟨kind, by cases kind <;> simp, ?_⟩, joins⟩
    rw [flat]
    exact reported

end Resolver

/-- A name of which at most one identifier is remembered gets no other one by a call that would
convert it to the same. -/
theorem NameTable.resolve_of_settled {ε : Type} {table : NameTable} {source other : ScopedName}
    {output : String} {convert : Except ε String}
    (recalled : ∀ found, table.find? source = some found → found = output)
    (converts : other = source → convert = .ok output) :
    (other = source → (table.resolve other convert).1 = .ok output) ∧
      ∀ found, (table.resolve other convert).2.find? source = some found → found = output := by
  rcases table.resolve_cases other convert with
    ⟨held, isHeld, step⟩ | ⟨recorded, absent, isOk, step⟩ | ⟨error, absent, isError, step⟩
  · rw [step]
    refine ⟨?_, recalled⟩
    rintro rfl
    rw [recalled held isHeld]
  · rw [step]
    have same : other = source → recorded = output := fun same =>
      Except.ok.inj (isOk.symm.trans (converts same))
    refine ⟨fun isSource => by rw [same isSource], fun found isFound => ?_⟩
    rw [find?_record] at isFound
    split at isFound
    case isTrue isSource => exact (Option.some.inj isFound).symm.trans (same isSource.symm)
    case isFalse => exact recalled found isFound
  · rw [step]
    refine ⟨fun isSource => ?_, recalled⟩
    cases isError.symm.trans (converts isSource)

namespace ModuleNameTable

/-- Every call is answered. -/
theorem exists_answer {requests : List Request} {request : Request} (asked : request ∈ requests)
    (modules : ModuleNameTable) :
    ∃ answer, (.unscoped request.file, answer) ∈ (modules.resolveAll requests).1 := by
  induction requests generalizing modules with
  | nil => cases asked
  | cons first rest inductionHypothesis =>
    rcases List.mem_cons.mp asked with rfl | asked
    · exact ⟨_, List.mem_cons_self⟩
    · obtain ⟨answer, member⟩ := inductionHypothesis asked
        (modules.resolve first.file first.raw first.chain).2
      exact ⟨answer, List.mem_cons_of_mem _ member⟩

/-- A file that is asked for with names of one value, and of which nothing else is remembered, is
answered with this value. -/
theorem answer_eq {modules : ModuleNameTable} {requests : List Request} {file output : String}
    (recalled : ∀ found, modules.table.find? (.unscoped file) = some found → found = output)
    (asked : ∀ request ∈ requests, request.file = file →
      convertName (modules.explicit.find? file) request.chain request.raw = .ok output)
    {answer : Except ConverterError String}
    (member : (.unscoped file, answer) ∈ (modules.resolveAll requests).1) :
    answer = .ok output := by
  -- Each call leaves a table that remembers nothing else of the file either.
  induction requests generalizing modules with
  | nil => cases member
  | cons request rest inductionHypothesis =>
    obtain ⟨askedFirst, askedRest⟩ := List.forall_mem_cons.mp asked
    have converts : ScopedName.unscoped request.file = .unscoped file →
        convertName (modules.explicit.find? request.file) request.chain request.raw =
          .ok output := by
      intro same
      have sameFile : request.file = file := congrArg ScopedName.name same
      rw [← askedFirst sameFile, sameFile]
    obtain ⟨answersFirst, recalledNext⟩ := NameTable.resolve_of_settled recalled converts
    rcases List.mem_cons.mp member with isFirst | isLater
    · obtain ⟨sameName, rfl⟩ := Prod.mk.inj isFirst
      exact answersFirst sameName.symm
    · exact @inductionHypothesis (modules.resolve request.file request.raw request.chain).2
        recalledNext askedRest isLater

/-- What a file is resolved to that is asked for with names of one value. -/
theorem mem_resolvedNames_iff {explicit : NameMap String} {requests : List Request}
    {file output : String} (isAsked : ∃ request ∈ requests, request.file = file)
    (asked : ∀ request ∈ requests, request.file = file →
      convertName (explicit.find? file) request.chain request.raw = .ok output) (found : String) :
    (.unscoped file, found) ∈ resolvedNames ((new explicit).resolveAll requests).1 ↔
      found = output := by
  have nothingRecalled : ∀ held,
      (new explicit).table.find? (.unscoped file) = some held → held = output := by
    intro held isHeld
    cases isHeld
  rw [mem_resolvedNames]
  constructor
  · intro member
    exact Except.ok.inj (answer_eq nothingRecalled asked member)
  · rintro rfl
    obtain ⟨request, member, rfl⟩ := isAsked
    obtain ⟨answer, answered⟩ := exists_answer member (new explicit)
    rwa [answer_eq nothingRecalled asked answered] at answered

/-- Of two files, a clash is reported exactly if they have one value. -/
theorem exists_joins_iff {explicit : NameMap String} {requests : List Request}
    {first second : Request} {firstOutput secondOutput : String}
    (firstAsked : first ∈ requests) (secondAsked : second ∈ requests)
    (firstOnce : ∀ request ∈ requests, request.file = first.file → request = first)
    (secondOnce : ∀ request ∈ requests, request.file = second.file → request = second)
    (firstValue : convertName (explicit.find? first.file) first.chain first.raw = .ok firstOutput)
    (secondValue :
      convertName (explicit.find? second.file) second.chain second.raw = .ok secondOutput)
    (distinct : first.file ≠ second.file) (keywords : Keywords) :
    (∃ clash ∈ ((new explicit).resolveAll requests).2.clashes keywords,
        clash.Joins .module (.unscoped first.file) (.unscoped second.file)) ↔
      firstOutput = secondOutput := by
  rw [clashes_resolveAll]
  refine exists_joins_clashReport_iff
    (mem_resolvedNames_iff ⟨first, firstAsked, rfl⟩ fun request member sameFile => ?_)
    (mem_resolvedNames_iff ⟨second, secondAsked, rfl⟩ fun request member sameFile => ?_)
    (fun sameName => distinct (congrArg ScopedName.name sameName)) .module none keywords
  · rw [firstOnce request member sameFile]
    exact firstValue
  · rw [secondOnce request member sameFile]
    exact secondValue

end ModuleNameTable

/-- In snake case two identifiers have one spelling exactly if they have the same words but for
the case of letters. A kind of item whose names are only converted so, in a flat namespace, has
a clash reported that joins two names of it exactly in this case, and so have module names. -/
theorem NameCase.snake_merges_same_words {nameCase : NameCase} (snake : nameCase.isSnake = true)
    (variant : NameVariant) :
    (∀ first second : String,
      nameCase.convert? variant first = nameCase.convert? variant second ↔
        Word.lowercase first.toList = Word.lowercase second.toList) ∧
    (∀ (moduleName : String) (converters : ConverterSet) (file : Option NameConverter)
      (overrides : NameOverrides) (namespaces : NamespacePolicy) (kind : ItemKind),
      converters.chain kind.variant file = .recase nameCase variant →
      namespaces.get kind = .flat →
      ∀ (requests : List Resolver.Request) (keywords : Keywords) (first second : ScopedName),
        ⟨kind, first⟩ ∈ requests → ⟨kind, second⟩ ∈ requests → first ≠ second →
        (overrides.get kind).find? first.name = none →
        (overrides.get kind).find? second.name = none →
        (nameCase.convert? variant first.name).isSome →
        (nameCase.convert? variant second.name).isSome →
        ((∃ clash ∈ ((Resolver.new moduleName converters file overrides namespaces).resolveAll
            requests).2.clashes keywords, clash.Joins (.item kind) first second) ↔
          Word.lowercase first.name.toList = Word.lowercase second.name.toList)) ∧
    ∀ (explicit : NameMap String) (requests : List ModuleNameTable.Request)
      (keywords : Keywords) (first second : ModuleNameTable.Request),
      first ∈ requests → second ∈ requests → first.file ≠ second.file →
      (∀ request ∈ requests, request.file = first.file → request = first) →
      (∀ request ∈ requests, request.file = second.file → request = second) →
      first.chain = .recase nameCase variant → second.chain = .recase nameCase variant →
      explicit.find? first.file = none → explicit.find? second.file = none →
      (nameCase.convert? variant first.raw).isSome →
      (nameCase.convert? variant second.raw).isSome →
      ((∃ clash ∈ ((ModuleNameTable.new explicit).resolveAll requests).2.clashes keywords,
          clash.Joins .module (.unscoped first.file) (.unscoped second.file)) ↔
        Word.lowercase first.raw.toList = Word.lowercase second.raw.toList) := by
  have recases := ne_preserving_of_isSnake snake
  refine ⟨convert?_eq_convert?_iff snake variant, ?_, ?_⟩
  · intro moduleName converters file overrides namespaces kind onlyRecases flat requests keywords
      first second firstAsked secondAsked distinct firstFree secondFree firstConverts
      secondConverts
    obtain ⟨firstOutput, firstConversion⟩ := Option.isSome_iff_exists.mp firstConverts
    obtain ⟨secondOutput, secondConversion⟩ := Option.isSome_iff_exists.mp secondConverts
    have value : ∀ {raw output : String}, (overrides.get kind).find? raw = none →
        nameCase.convert? variant raw = some output →
        (Resolver.new moduleName converters file overrides namespaces).value kind raw =
          .ok output := by
      intro raw output free conversion
      rw [Resolver.value_new, free, onlyRecases]
      exact Chain.convert_recase recases conversion
    exact (Resolver.exists_joins_iff flat firstAsked secondAsked (value firstFree firstConversion)
      (value secondFree secondConversion) distinct keywords).trans
        (output_eq_iff snake firstConversion secondConversion)
  · intro explicit requests keywords first second firstAsked secondAsked distinct firstOnce
      secondOnce firstChain secondChain firstFree secondFree firstConverts secondConverts
    obtain ⟨firstOutput, firstConversion⟩ := Option.isSome_iff_exists.mp firstConverts
    obtain ⟨secondOutput, secondConversion⟩ := Option.isSome_iff_exists.mp secondConverts
    have value : ∀ {request : ModuleNameTable.Request} {output : String},
        explicit.find? request.file = none → request.chain = .recase nameCase variant →
        nameCase.convert? variant request.raw = some output →
        convertName (explicit.find? request.file) request.chain request.raw = .ok output := by
      intro request output free onlyRecases conversion
      rw [free, onlyRecases]
      exact Chain.convert_recase recases conversion
    exact (ModuleNameTable.exists_joins_iff firstAsked secondAsked firstOnce secondOnce
      (value firstFree firstChain firstConversion)
      (value secondFree secondChain secondConversion) distinct keywords).trans
        (output_eq_iff snake firstConversion secondConversion)

/-- Of three types in initial-upper snake case, the two are joined that have the words `http` and
`server`, and so are two files. -/
theorem NameCase.server_names_merge :
    let converters : ConverterSet := { typeName := { nameCase := .snakeInitialUpper } }
    let types : List Resolver.Request :=
      [⟨.type, .unscoped "HTTPServer"⟩, ⟨.type, .unscoped "httpserver"⟩,
        ⟨.type, .unscoped "http_server"⟩]
    let clashes := ((Resolver.new "Lib" converters none .none .flat).resolveAll
      types).2.clashes .haskell
    let files : List ModuleNameTable.Request :=
      [⟨"HTTPServer.h", "HTTPServer", .recase .snakeInitialUpper .moduleName⟩,
        ⟨"http_server.h", "http_server", .recase .snakeInitialUpper .moduleName⟩]
    snakeInitialUpper.isSnake = true ∧
      (∃ clash ∈ clashes, clash.Joins (.item .type) (.unscoped "HTTPServer")
        (.unscoped "http_server")) ∧
      (¬ ∃ clash ∈ clashes, clash.Joins (.item .type) (.unscoped "HTTPServer")
        (.unscoped "httpserver")) ∧
      ∃ clash ∈ ((ModuleNameTable.new .empty).resolveAll files).2.clashes .haskell,
        clash.Joins .module (.unscoped "HTTPServer.h") (.unscoped "http_server.h") := by
  intro converters types clashes files
  have isSnake : snakeInitialUpper.isSnake = true := by decide
  have typesMerge := (snake_merges_same_words isSnake .typeConstructor).2.1
    "Lib" converters none .none .flat .type (by decide) rfl types .haskell (.unscoped "HTTPServer")
  have filesMerge := (snake_merges_same_words isSnake .moduleName).2.2 .empty files .haskell
    ⟨"HTTPServer.h", "HTTPServer", .recase .snakeInitialUpper .moduleName⟩
    ⟨"http_server.h", "http_server", .recase .snakeInitialUpper .moduleName⟩
  refine ⟨isSnake, ?_, ?_, ?_⟩
  · refine (typesMerge (.unscoped "http_server") (by decide) (by decide) (by decide) rfl rfl
      (by decide) (by decide)).mpr ?_
    decide
  · refine fun reported => absurd ((typesMerge (.unscoped "httpserver") (by decide) (by decide)
      (by decide) rfl rfl (by decide) (by decide)).mp reported) ?_
    decide
  · refine (filesMerge (by decide) (by decide) (by decide) (by decide) (by decide) rfl rfl rfl rfl
      (by decide) (by decide)).mpr ?_
    decide

end ForeignBindings
