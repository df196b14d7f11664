import ForeignBindings.Proofs.Render.Module

/-!
# Items do not influence each other

The state of rendering passes from item to item: the resolver with what it remembers, the level
of indentation, the type variables that are taken. None of it changes the text of a later item,
but for an enum whose integer type contains a pointer to void, which shows a type variable that
is not taken: `items_rendered_independently`.
-/

namespace ForeignBindings

/-- The text that a step of rendering writes on its own, behind `fresh` type variables. -/
def Render.textOf (resolver : Resolver) (fresh : Nat) (step : Render Unit) : String :=
  (step.run { resolver, fresh }).2.buffer.text

/-- What a step writes on its own are the lines that it yields. -/
theorem Render.Yields.textOf_eq {resolver reference : Resolver} {step : Render Unit}
    {lines : List String} {events : List Event} {fresh later : Nat}
    (yields : Yields reference 0 step fresh () lines events later)
    (like : resolver.AnswersLike reference) : textOf resolver fresh step = unlines lines := by
  unfold textOf
  rw [yields { resolver, fresh } like rfl rfl]
  exact String.empty_append

namespace Tag

/-- The text of a tag shows no type variables that are taken from outside. Those in the fields
of a struct are quantified in place; in the integer type of an enum there must be none. -/
def IsSelfContained : Tag → Prop
  | .structure _ => True
  | .enumeration underlying _ => underlying.voidPointers = 0

/-- Another map of tags is as good for rendering a tag: only the instance of a struct needs the
other tags, for its layout. -/
def AgreesOn (definition : Tag) (options : RenderOptions) (tags others : NameMap Tag) : Prop :=
  match definition with
  | .structure _ => options.storableInstances = true → others = tags
  | .enumeration _ _ => True

variable {options : RenderOptions} {tags others : NameMap Tag} {definition : Tag}

/-- The instance of a tag is the same among tags that agree. -/
theorem AgreesOn.instanceMembers_eq (agrees : definition.AgreesOn options tags others)
    (name constructor : String) :
    definition.instanceMembers options others name constructor =
      definition.instanceMembers options tags name constructor := by
  cases wanted : options.storableInstances with
  | false => simp [instanceMembers, wanted]
  | true =>
    cases definition with
    | «structure» fields => rw [agrees wanted]
    | enumeration underlying values => rfl

/-- The declaration of a self-contained tag does not depend on what is rendered around it. -/
theorem IsSelfContained.declaration_eq (selfContained : definition.IsSelfContained)
    (agrees : definition.AgreesOn options tags others) (reference : Resolver) (name : String)
    (fresh other : Nat) :
    definition.declaration reference options others name other =
      definition.declaration reference options tags name fresh := by
  unfold declaration
  simp only [agrees.instanceMembers_eq]
  cases definition with
  | «structure» fields => rfl
  | enumeration underlying values =>
    have sameText := CType.hostText_of_voidPointers_eq_zero (reference.hostName .type)
      options.voidPointerAsAny underlying selfContained false other fresh
    simp only [sameText]

end Tag

/-- The declaration of an entity is a line: an import of the entity. -/
theorem Render.lines_entityDeclaration (reference : Resolver) (options : RenderOptions)
    (name : String) (type : CType) :
    ∃ line, (entityDeclaration reference options name type).lines = [line] := by
  unfold entityDeclaration
  cases type.isFunction <;> exact ⟨_, rfl⟩

/-- Items are rendered independently of each other. The text of a module is its front, its empty
declarations, a text for each tag and a line for each entity, all in order. Each tag is as it
is rendered on its own behind some type variables; a self-contained one, as it is rendered on
its own behind none, among any tags that agree. The line of an entity is an import, and as it is
rendered on its own. A resolver that was asked before makes no difference. -/
theorem items_rendered_independently (contents : Contents) (options : RenderOptions)
    (name moduleName : String) (converters : ConverterSet) (file : Option NameConverter)
    (overrides : NameOverrides) (namespaces : NamespacePolicy) (earlier : List Resolver.Request) :
    let fresh := Resolver.new moduleName converters file overrides namespaces
    ∃ tagTexts entityLines : List String,
      (∀ queue, (contents.generate options name (fresh.resolveAll earlier).2 queue).1.text =
        Render.textOf fresh 0
            (Render.header options (Render.fullModuleName options name) contents.imports) ++
          Render.textOf fresh 0 (Render.emptyDatas (Render.undefinedNames contents)) ++
          String.join tagTexts ++ unlines entityLines) ∧
      List.Forall₂ (fun entry text =>
          (∃ taken, text =
            Render.textOf fresh taken (Render.tag options contents.tags entry.1 entry.2)) ∧
          (entry.2.IsSelfContained → ∀ tags, entry.2.AgreesOn options contents.tags tags →
            text = Render.textOf fresh 0 (Render.tag options tags entry.1 entry.2)))
        contents.tags.entries tagTexts ∧
      List.Forall₂ (fun entry line =>
          (∃ isFunction output type,
            (HostDeclaration.foreignImport isFunction entry.1 output type).lines = [line]) ∧
          Render.textOf fresh 0 (Render.entity options entry.1 entry.2) = line ++ "\n")
        contents.entities.entries entityLines := by
  intro fresh
  have like : fresh.AnswersLike fresh :=
    (Resolver.recalls_new moduleName converters file overrides namespaces).answersLike
  refine ⟨(Render.tagDeclarations fresh options contents.tags 0 contents.tags.entries).map
      fun written => unlines written.2.lines,
    contents.entities.entries.flatMap fun entry =>
      (Render.entityDeclaration fresh options entry.1 entry.2).lines, ?text, ?tags, ?entities⟩
  case text =>
    intro queue
    rw [contents.text_generate options name (like.resolveAll earlier) queue,
      (Render.yields_header options _ contents.imports 0).textOf_eq like,
      (Render.yields_emptyDatas _).textOf_eq like]
    simp only [unlines_append, unlines_flatMap]
  case tags =>
    refine List.forall₂_map_right_iff.mpr ((Render.tagDeclarations_forall₂ fresh options
      contents.tags 0 contents.tags.entries).imp ?_)
    rintro ⟨tag, definition⟩ ⟨_, declaration⟩ ⟨-, taken, rfl⟩
    refine ⟨⟨taken, ((Render.yields_tag options contents.tags tag definition).textOf_eq like).symm⟩,
      fun selfContained tags agrees => ?_⟩
    rw [(Render.yields_tag options tags tag definition).textOf_eq like,
      selfContained.declaration_eq agrees]
  case entities =>
    induction contents.entities.entries with
    | nil => exact .nil
    | cons entry rest inductionHypothesis =>
      obtain ⟨line, isLine⟩ := Render.lines_entityDeclaration fresh options entry.1 entry.2
      rw [List.flatMap_cons, isLine]
      refine .cons ⟨⟨_, _, _, isLine⟩, ?_⟩ inductionHypothesis
      rw [(Render.yields_entity options entry.1 entry.2).textOf_eq like, isLine]
      simp [unlines]

end ForeignBindings
