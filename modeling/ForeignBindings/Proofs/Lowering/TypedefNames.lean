import ForeignBindings.Proofs.Lowering.Composition
import ForeignBindings.Proofs.Lowering.Parts
import ForeignBindings.Proofs.Render.References

/-!
# Names from typedefs

A struct or an enum without a tag has two ways to a name. Its definition is entered under the
name of the typedef declaration that it stands in, and a use of it gets the name that the
innermost typedef around it shows: the qualified name, or the plain one where there is none.
The two agree where the shown name is the name of the declaration:
`SourceUnit.typedef_definition_serves_uses`. Other qualified names lead elsewhere:
`SourceUnit.qualified_use_has_no_definition`.
-/

namespace ForeignBindings

namespace SourceType

/-- A use of a struct, a union or an enum without a tag, behind any typedefs, of which the
innermost one has the given names. -/
inductive UsesUntagged (name qualifiedName : String) : SourceType → Prop
  | innermost {inSystemHeader} :
      UsesUntagged name qualifiedName (.typedef name qualifiedName inSystemHeader (.tag ""))
  | behind {outerName outerQualifiedName inSystemHeader underlying}
      (inside : UsesUntagged name qualifiedName underlying) :
      UsesUntagged name qualifiedName
        (.typedef outerName outerQualifiedName inSystemHeader underlying)

variable {policy : LoweringPolicy} {location : Location}

/-- A typedef does not rename what has a name. -/
theorem mentions_refineAlias {type : CType} {mentioned : String}
    (mentions : type.Mentions mentioned) (hasName : mentioned ≠ "") (name qualifiedName : String)
    (inSystemHeader : Bool) :
    (refineAlias policy name qualifiedName inSystemHeader type).Mentions mentioned := by
  cases mentions with
  | named =>
    unfold refineAlias
    simp only [if_pos hasName]
    exact .named mentioned
  | pointer inside => exact .pointer inside
  | result inside => exact .result inside
  | parameter member inside => exact .parameter member inside

/-- A name that a part of a type gets occurs in what the whole is lowered to. -/
theorem Occurs.mentions {part whole : SourceType} (occurs : part.Occurs whole) {name : String}
    (lowersPart : part.lower policy location = .ok (.named name)) (hasName : name ≠ "")
    {type : CType} (lowers : whole.lower policy location = .ok type) : type.Mentions name := by
  induction occurs generalizing type with
  | here =>
    rw [lowersPart] at lowers
    cases lowers
    exact .named name
  | pointer inside inductionHypothesis =>
    obtain ⟨_, lowersPointee, rfl⟩ := lower_pointer_eq_ok_iff.mp lowers
    exact .pointer (inductionHypothesis lowersPointee)
  | «typedef» inside inductionHypothesis =>
    obtain ⟨named, lowersNamed, rfl⟩ := lower_typedef_eq_ok_iff.mp lowers
    exact mentions_refineAlias (inductionHypothesis lowersNamed) hasName ..
  | result inside inductionHypothesis =>
    obtain ⟨_, _, rfl, lowersResult, _⟩ := lower_prototype_eq_ok lowers
    exact .result (inductionHypothesis lowersResult)
  | parameter member inside inductionHypothesis =>
    obtain ⟨_, _, rfl, _, lowersParameters⟩ := lower_prototype_eq_ok lowers
    obtain ⟨lowered, isLowered, _, lowersParameter⟩ :=
      exists_of_forall₂_of_mem lowersParameters member
    exact .parameter isLowered (inductionHypothesis lowersParameter)

/-- A use of a type without a tag is lowered to the name that the innermost typedef shows. The
typedefs around it change nothing. -/
theorem UsesUntagged.lower_eq {name qualifiedName : String} {use : SourceType}
    (uses : use.UsesUntagged name qualifiedName) (shown : shownName name qualifiedName ≠ "") :
    use.lower policy location = .ok (.named (shownName name qualifiedName)) := by
  induction uses with
  | innermost => exact lower_typedef_eq_ok_iff.mpr ⟨.named "", rfl, refineAlias_untagged ..⟩
  | behind inside inductionHypothesis =>
    exact lower_typedef_eq_ok_iff.mpr ⟨_, inductionHypothesis,
      refineAlias_eq_self rfl (fun equal => shown (CType.named.inj equal)) ..⟩

end SourceType

/-- The tag that a struct or an enum in a typedef has of its own; it is empty if there is none. -/
def TypedefTarget.ownTag? : TypedefTarget → Option String
  | .enumeration name _ _ | .structure name _ => some name
  | .type _ => none

namespace Declaration

variable {policy : LoweringPolicy} {declaration : Declaration} {tag : String} {definition : Tag}

/-- A typedef declaration defines a struct or an enum that has no tag of its own, and the
definition is accepted under a tag. -/
structure DefinesUntagged (policy : LoweringPolicy) (declaration : Declaration) (tag : String)
    (definition : Tag) : Prop where
  untagged : ∃ target, declaration.kind = .typedef target ∧ target.ownTag? = some ""
  passes : declaration.Passes policy
  binds : declaration.BindsTag policy tag definition

/-- The definition is accepted under the name of the declaration, which is not empty. -/
theorem DefinesUntagged.tag_eq (defines : declaration.DefinesUntagged policy tag definition) :
    tag = declaration.name ∧ declaration.name ≠ "" := by
  obtain ⟨target, isTypedef, noTag⟩ := defines.untagged
  have nameCounts : ∀ {own}, declaration.DeclaresTag own → own.ownTag? = some "" := by
    intro own declares
    cases declares with
    | enumeration kind => exact absurd (isTypedef.symm.trans kind) nofun
    | «structure» kind => exact absurd (isTypedef.symm.trans kind) nofun
    | typedef kind =>
      obtain rfl := DeclarationKind.typedef.inj (isTypedef.symm.trans kind)
      exact noTag
  cases defines.binds with
  | enumeration declares named =>
    obtain rfl := Option.some.inj (nameCounts declares)
    exact ⟨rfl, named⟩
  | «structure» declares named =>
    obtain rfl := Option.some.inj (nameCounts declares)
    exact ⟨rfl, named⟩

end Declaration

namespace Contents

/-- A tag of a module is defined among the lines of the module, under the host name of the
tag. -/
theorem exists_definition_in_text {contents : Contents} {tag : String} {definition : Tag}
    (bound : contents.tags.find? tag = some definition) (options : RenderOptions) (name : String)
    {resolver : Resolver} (recalls : resolver.Recalls) (queue : Queue) :
    ∃ (before : List String) (declaration : HostDeclaration) (behind : List String),
      declaration.Defines (resolver.hostName .type tag) definition ∧
      (contents.generate options name resolver queue).1.text =
        unlines (before ++ declaration.lines ++ behind) := by
  obtain ⟨taken, isDeclaration⟩ := Render.exists_mem_tagDeclarations resolver options
    contents.tags 0 (OrderedMap.mem_entries_iff.mpr bound)
  obtain ⟨earlier, later, split⟩ := List.append_of_mem isDeclaration
  refine ⟨Render.frontLines options (Render.fullModuleName options name) contents.imports ++
      (HostDeclaration.emptyDatas
        ((Render.undefinedNames contents).map (resolver.hostName .type))).lines ++
      (earlier.flatMap fun written => written.2.lines),
    definition.declaration resolver options contents.tags tag taken,
    (later.flatMap fun written => written.2.lines) ++
      contents.entities.entries.flatMap fun entry =>
        (Render.entityDeclaration resolver options entry.1 entry.2).lines,
    Tag.defines_declaration .., ?_⟩
  rw [contents.text_generate options name recalls.answersLike queue, split]
  simp only [List.flatMap_append, List.flatMap_cons, List.append_assoc]

end Contents

namespace SourceUnit

/-- Definition and use agree. Where a typedef declaration defines a struct or an enum without a
tag, a use behind a typedef of the same name, unqualified or qualified by nothing else, gets the
name of the declaration, whatever typedefs stand around it, and so does every type that the use
occurs in. The name is a tag of the module. So the use is rendered as the type that the tag is
defined as, and the module declares no empty type beside it. -/
theorem typedef_definition_serves_uses {policy : LoweringPolicy} {unit : SourceUnit}
    {declaration : Declaration} (member : declaration ∈ unit.declarations) {tag : String}
    {definition : Tag} (defines : declaration.DefinesUntagged policy tag definition)
    {qualifiedName : String} (same : qualifiedName = "" ∨ qualifiedName = declaration.name)
    (queue : Queue) :
    let contents := (unit.lower policy queue).1
    (∀ use : SourceType, use.UsesUntagged declaration.name qualifiedName → ∀ location,
      use.lower policy location = .ok (.named declaration.name) ∧
      ∀ whole type, use.Occurs whole → whole.lower policy location = .ok type →
        type.Mentions declaration.name) ∧
    declaration.name ∈ contents.tags.keys ∧
    declaration.name ∉ Render.undefinedNames contents ∧
    ∀ (options : RenderOptions) (name : String) (resolver : Resolver), resolver.Recalls →
      (∀ depth anyPointer isArgument fresh, Render.Yields resolver depth
        (Render.typeText anyPointer (.named declaration.name) isArgument) fresh
        (resolver.hostName .type declaration.name) []
        [.ask ⟨.type, .unscoped declaration.name⟩] fresh) ∧
      ∀ queue, ∃ bound, contents.tags.find? declaration.name = some bound ∧
        ∃ (before : List String) (written : HostDeclaration) (behind : List String),
          written.Defines (resolver.hostName .type declaration.name) bound ∧
          (contents.generate options name resolver queue).1.text =
            unlines (before ++ written.lines ++ behind) := by
  intro contents
  obtain ⟨rfl, hasName⟩ := defines.tag_eq
  have shown : SourceType.shownName declaration.name qualifiedName = declaration.name := by
    unfold SourceType.shownName
    rcases same with rfl | rfl
    · rfl
    · split <;> rfl
  have isTag : declaration.name ∈ contents.tags.keys := by
    have given := Declaration.tag?_contribution_iff.mpr ⟨defines.passes, defines.binds⟩
    rw [OrderedMap.mem_keys_iff]
    cases found : contents.tags.find? declaration.name with
    | some bound => exact ⟨bound, rfl⟩
    | none =>
      rw [find?_tags_lower, List.findSome?_eq_none_iff] at found
      exact absurd (given.symm.trans (found declaration member)) nofun
  refine ⟨?uses, isTag, fun undefined => (Contents.mem_undefinedNames_iff.mp undefined).2.2 isTag,
    ?rendered⟩
  case uses =>
    intro use uses location
    have lowersUse : use.lower policy location = .ok (.named declaration.name) := by
      rw [uses.lower_eq (by rwa [shown]), shown]
    exact ⟨lowersUse, fun whole type occurs lowers => occurs.mentions lowersUse hasName lowers⟩
  case rendered =>
    intro options name resolver recalls
    obtain ⟨bound, found⟩ := OrderedMap.mem_keys_iff.mp isTag
    refine ⟨fun depth anyPointer isArgument fresh => ?_, fun queue =>
      ⟨bound, found, contents.exists_definition_in_text found options name recalls queue⟩⟩
    exact Render.yields_nameOf .type (.unscoped declaration.name)

/-- The definition of a struct without a tag as `handle`. -/
def handleDeclaration : Declaration where
  name := "handle"
  kind := .typedef (.structure "" [{ name := "descriptor", type := .builtin .int }])

/-- A use of a type without a tag behind one typedef. -/
def untaggedUse (name qualifiedName : String) : SourceType :=
  .typedef name qualifiedName false (.tag "")

/-- A unit with the definition of `handle` and a variable that points to one. -/
def handleUnit : SourceUnit where
  declarations := [
    handleDeclaration,
    { name := "first", kind := .variable (.pointer (untaggedUse "handle" "handle")) }]

theorem handleDeclaration_definesUntagged :
    handleDeclaration.DefinesUntagged {} "handle"
      (.structure [⟨"descriptor", .scalar ⟨.signed, .int, .unsized⟩⟩]) where
  untagged := ⟨_, rfl, rfl⟩
  passes := ⟨rfl, rfl, nofun⟩
  binds := Declaration.tag?_lowered_iff.mp (by decide)

/-- A pointer to an alias of `handle` that is not qualified mentions the struct that is
defined. -/
theorem handle_alias_has_definition :
    handleDeclaration ∈ handleUnit.declarations ∧
    (untaggedUse "handle" "").lower {} .unknown = .ok (.named "handle") ∧
    (CType.pointer (.named "handle")).Mentions "handle" ∧
    "handle" ∈ (handleUnit.lower {} {}).1.tags.keys ∧
    "handle" ∉ Render.undefinedNames (handleUnit.lower {} {}).1 := by
  have isDeclared : handleDeclaration ∈ handleUnit.declarations := List.mem_cons_self
  have noQualification : "" = "" ∨ "" = handleDeclaration.name := .inl rfl
  obtain ⟨uses, isTag, defined, -⟩ := typedef_definition_serves_uses isDeclared
    handleDeclaration_definesUntagged noQualification {}
  obtain ⟨lowers, occurs⟩ := uses (untaggedUse "handle" "") .innermost .unknown
  exact ⟨isDeclared, lowers, occurs (.pointer (untaggedUse "handle" "")) _ (.pointer .here) rfl,
    isTag, defined⟩

/-- A use behind a typedef that is qualified by a namespace gets the qualified name, under which
nothing is defined. -/
theorem qualified_use_has_no_definition :
    ¬ ∀ (policy : LoweringPolicy) (unit : SourceUnit) (declaration : Declaration) (tag : String)
        (definition : Tag) (queue : Queue), declaration ∈ unit.declarations →
      declaration.DefinesUntagged policy tag definition →
      ∀ (use : SourceType) (qualifiedName : String),
        use.UsesUntagged declaration.name qualifiedName → ∀ location,
        ∃ name, use.lower policy location = .ok (.named name) ∧
          name ∈ (unit.lower policy queue).1.tags.keys := by
  intro always
  obtain ⟨name, lowers, isTag⟩ := always {} handleUnit handleDeclaration "handle" _ {} (.head _)
    handleDeclaration_definesUntagged (untaggedUse "handle" "ns::handle") "ns::handle" .innermost
    .unknown
  have shown : (untaggedUse "handle" "ns::handle").lower {} .unknown = .ok (.named "ns::handle") :=
    SourceType.UsesUntagged.innermost.lower_eq (by decide)
  obtain rfl : "ns::handle" = name := CType.named.inj (Except.ok.inj (shown.symm.trans lowers))
  exact absurd isTag (by decide)

end SourceUnit

end ForeignBindings
