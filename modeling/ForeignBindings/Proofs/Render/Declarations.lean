import ForeignBindings.Proofs.Render.HostDeclaration
import ForeignBindings.Proofs.Render.TypeText
import Mathlib.Data.List.Forall2

/-!
# Rendering declarations

`Tag.declaration` is the declaration that a struct or an enum of a module is rendered as, and
`Tag.events` is what is asked for and reported on the way: `Render.yields_tag`. Only the
integer type of an enum depends on the type variables that earlier items have taken. An entity
is rendered as an import, which depends on nothing but the entity: `Render.yields_entity`.
Every item declares the names that it has to, and asks for each of them.
-/

namespace ForeignBindings

namespace Render

/-- The members of an instance that say how much memory a value takes. -/
def layoutLines (layout : Layout) : List String :=
  ["sizeOf _ = " ++ toString layout.size, "alignment _ = " ++ toString layout.align]

/-- The members of an instance that read and write a struct, field by field. -/
def structMemberLines (constructor : String) (offsets : List Nat) : List String :=
  if offsets.isEmpty then ["peek _ = pure " ++ constructor, "poke _ _ = pure ()"]
  else
    let indexed := offsets.zipIdx
    let binders := indexed.map fun (_, index) => "f" ++ toString index
    ("peek p = " ++ constructor) ::
      (indexed.map fun (offset, index) =>
        "  " ++ (applicationOperator index ++ " peekByteOff p " ++ toString offset)) ++
      ("poke p (" ++ constructor ++ " " ++ " ".intercalate binders ++ ") = do") ::
      indexed.map fun (offset, index) =>
        "  " ++ ("pokeByteOff p " ++ toString offset ++ " f" ++ toString index)

/-- The members of an instance that read and write an enum as its integer. -/
def enumMemberLines (constructor : String) : List String :=
  ["peek p = " ++ constructor ++ " <$> peek (castPtr p)",
    "poke p (" ++ constructor ++ " v) = poke (castPtr p) v"]

end Render

namespace Tag

/-- The members of the instance of a tag, if it gets one: an enum does where instances are
wanted, a struct if it also has a layout. -/
def instanceMembers (options : RenderOptions) (tags : NameMap Tag) (name constructor : String)
    (definition : Tag) : Option (List String) :=
  if options.storableInstances then
    match definition with
    | .structure _ => (options.model.placement? tags name).map fun placement =>
      Render.layoutLines placement.layout ++ Render.structMemberLines constructor placement.offsets
    | .enumeration underlying _ =>
      some (Render.layoutLines (Render.enumLayout options.model underlying) ++
        Render.enumMemberLines constructor)
  else none

/-- The declaration that a tag is rendered as. Only the integer type of an enum shows the type
variables that are taken already. -/
def declaration (reference : Resolver) (options : RenderOptions) (tags : NameMap Tag)
    (name : String) (fresh : Nat) (definition : Tag) : HostDeclaration :=
  let constructor := reference.hostName .constructor name
  let members := definition.instanceMembers options tags name constructor
  match definition with
  | .structure fields =>
    .record (reference.hostName .type name) constructor
      (fields.map fun field => (reference.hostName .variable field.name,
        field.type.hostFieldText (reference.hostName .type) options))
      members
  | .enumeration underlying values =>
    .newtype (reference.hostName .type name) constructor
      (reference.hostName .variable ("unwrap_" ++ name))
      (underlying.hostText (reference.hostName .type) options.voidPointerAsAny false fresh)
      (values.map fun value => (reference.hostName .constructor value.name, value.value.toInt))
      members

/-- What is asked for and reported when a tag is rendered. A struct is reported that has no
layout where instances are wanted. -/
def events (options : RenderOptions) (tags : NameMap Tag) (name : String) :
    Tag → List Render.Event
  | .structure fields =>
    .ask ⟨.type, .unscoped name⟩ :: .ask ⟨.constructor, .unscoped name⟩ ::
      (fields.flatMap fun field =>
        .ask ⟨.variable, ⟨name, field.name⟩⟩ :: Render.typeRequests field.type.shownNames) ++
      if options.storableInstances && (options.model.placement? tags name).isNone then
        [.report (Render.layoutUnknown name (Render.unsizedField? options.model tags fields))]
      else []
  | .enumeration underlying values =>
    .ask ⟨.type, .unscoped name⟩ :: .ask ⟨.constructor, .unscoped name⟩ ::
      .ask ⟨.variable, ⟨name, "unwrap_" ++ name⟩⟩ ::
      (Render.typeRequests underlying.shownNames ++
        values.map fun value => .ask ⟨.constructor, ⟨name, value.name⟩⟩)

/-- The number of type variables that are taken after a tag is rendered. -/
def freshAfter (options : RenderOptions) (fresh : Nat) : Tag → Nat
  | .structure [] => fresh
  | .structure (_ :: _) => 0
  | .enumeration underlying _ =>
    fresh + CType.variablesFor options.voidPointerAsAny underlying.voidPointers

section Names

variable (reference : Resolver) (options : RenderOptions) (tags : NameMap Tag) (name : String)

end Names

end Tag

namespace Render

variable {reference : Resolver} {fresh : Nat}

/-- The empty data declarations of a module, with an empty line behind them if there are any. -/
theorem yields_emptyDatas (names : List String) :
    Yields reference 0 (emptyDatas names) fresh ()
      (HostDeclaration.emptyDatas (names.map (reference.hostName .type))).lines
      (typeRequests names) fresh := by
  have each : ∀ name, Yields reference 0 (emptyData name) fresh ()
      ["data " ++ reference.hostName .type name] [.ask ⟨.type, .unscoped name⟩] fresh :=
    fun name => Yields.bind (yields_nameOf .type (.unscoped name)) (yields_topLine _)
  cases names with
  | nil => exact yields_pure ()
  | cons name rest =>
    refine Yields.cast (Yields.bind (yields_forM each (name :: rest)) yields_blank) ?_ ?_
    · simp [HostDeclaration.lines, Function.comp_def]
    · simp [typeRequests, List.map_eq_flatMap]

theorem indentation_one : Buffer.indentation 1 = "  " := rfl

/-- A line of an instance stands further in. -/
theorem yields_memberLine (text : String) :
    Yields reference 1 (line text) fresh () ["  " ++ text] [] fresh :=
  yields_line text

/-- Lines below a member of an instance stand still further in. -/
theorem yields_memberBlock (texts : List String) :
    Yields reference 1 (indented (lines texts)) fresh ()
      (texts.map fun text => "  " ++ ("  " ++ text)) [] fresh := by
  refine Yields.cast (Yields.indented (yields_lines texts)) ?_ rfl
  congr 1

/-- The members of the instance of a struct. -/
theorem yields_structMembers (constructor : String) (offsets : List Nat) :
    Yields reference 1 (structMembers constructor offsets) fresh ()
      ((structMemberLines constructor offsets).map fun text => "  " ++ text) [] fresh := by
  unfold structMembers structMemberLines
  split
  case isTrue => exact (yields_memberLine _).bind (yields_memberLine _)
  case isFalse =>
    refine Yields.cast (Yields.bind (yields_memberLine _) (Yields.bind (yields_memberBlock _)
      (Yields.bind (yields_memberLine _) (yields_memberBlock _)))) ?_ rfl
    simp [Function.comp_def]

/-- An instance says how much memory a value takes, and then how it is read and written. -/
theorem yields_instanceBlock_lines (type : String) (layout : Layout) {members : Render Unit}
    {texts : List String}
    (yields : Yields reference 1 members fresh () (texts.map fun text => "  " ++ text) [] fresh) :
    Yields reference 0 (instanceBlock type layout members) fresh ()
      (HostDeclaration.instanceLines type (some (layoutLines layout ++ texts))) [] fresh := by
  refine Yields.cast (Yields.bind (yields_topLine _) (Yields.bind (Yields.indented
    (Yields.bind (yields_memberLine _) (Yields.bind (yields_memberLine _) yields)))
    yields_blank)) ?_ rfl
  simp [HostDeclaration.instanceLines, layoutLines]

/-- The instance of an enum. -/
theorem yields_enumInstance_lines (model : DataModel) (type constructor : String)
    (underlying : CType) :
    Yields reference 0 (enumInstance model type constructor underlying) fresh ()
      (HostDeclaration.instanceLines type
        (some (layoutLines (enumLayout model underlying) ++ enumMemberLines constructor)))
      [] fresh :=
  yields_instanceBlock_lines type _ ((yields_memberLine _).bind (yields_memberLine _))

/-- A struct gets its instance, or is reported as one without a layout. -/
theorem yields_structInstance_lines (model : DataModel) (tags : NameMap Tag)
    (name type constructor : String) (fields : List (Entity CType)) :
    Yields reference 0 (structInstance model tags name type constructor fields) fresh ()
      (HostDeclaration.instanceLines type
        ((model.placement? tags name).map fun placement =>
          layoutLines placement.layout ++ structMemberLines constructor placement.offsets))
      (if (model.placement? tags name).isNone then
        [.report (layoutUnknown name (unsizedField? model tags fields))] else []) fresh := by
  unfold structInstance
  cases model.placement? tags name with
  | none => exact yields_report _
  | some placement =>
    exact yields_instanceBlock_lines type placement.layout
      (yields_structMembers constructor placement.offsets)

/-- A field of a record asks for its name and for the names in the text of its type. -/
theorem yields_field (options : RenderOptions) (name lead : String) (field : Entity CType) :
    Yields reference 1 (recordField options name lead field) fresh ()
      [HostDeclaration.fieldLine lead (reference.hostName .variable field.name,
        field.type.hostFieldText (reference.hostName .type) options)]
      (.ask ⟨.variable, ⟨name, field.name⟩⟩ :: typeRequests field.type.shownNames) 0 := by
  refine Yields.cast (Yields.bind (yields_nameOf .variable ⟨name, field.name⟩)
    (Yields.bind (yields_fieldText options field.type fresh) (yields_line _))) rfl ?_
  simp

/-- The fields of a record. The type variables that were taken before are gone behind a field. -/
theorem yields_fields (options : RenderOptions) (name : String) (fields : List (Entity CType)) :
    Yields reference 0 (recordFields options name fields) fresh ()
      (HostDeclaration.fieldLines (fields.map fun field =>
        (reference.hostName .variable field.name,
          field.type.hostFieldText (reference.hostName .type) options)))
      (fields.flatMap fun field =>
        .ask ⟨.variable, ⟨name, field.name⟩⟩ :: typeRequests field.type.shownNames)
      (if fields.isEmpty then fresh else 0) := by
  cases fields with
  | nil => exact yields_pure ()
  | cons first rest =>
    have others : Yields reference 1 (rest.forM (recordField options name ",")) 0 () _ _ 0 :=
      yields_forM (fun field => yields_field options name "," field) rest
    refine Yields.cast (Yields.indented (Yields.bind (yields_field options name "\x7b" first)
      (Yields.bind others (yields_line _)))) ?_ ?_
    · simp [HostDeclaration.fieldLines, indentation_one]
    · simp

/-- The pattern of an enumerator asks for its name. -/
theorem yields_pattern (name constructor : String) (value : Enumerator) :
    Yields reference 0 (enumerator name constructor value) fresh ()
      ["pattern " ++ reference.hostName .constructor value.name ++ " = " ++ constructor ++ " " ++
        numeral value.value.toInt]
      [.ask ⟨.constructor, ⟨name, value.name⟩⟩] fresh :=
  Yields.bind (yields_nameOf .constructor ⟨name, value.name⟩) (yields_topLine _)

/-- A step that is made only if it is wanted. -/
theorem yields_ite {depth : Nat} {step : Render Unit} {lines : List String} {events : List Event}
    (isWanted : Bool) (yields : Yields reference depth step fresh () lines events fresh) :
    Yields reference depth (if isWanted then step else pure ()) fresh ()
      (if isWanted then lines else []) (if isWanted then events else []) fresh := by
  cases isWanted with
  | true => exact yields
  | false => exact yields_pure ()

/-- A tag is rendered as its declaration. -/
theorem yields_tag (options : RenderOptions) (tags : NameMap Tag) (name : String)
    (definition : Tag) :
    Yields reference 0 (tag options tags name definition) fresh ()
      (definition.declaration reference options tags name fresh).lines
      (definition.events options tags name) (definition.freshAfter options fresh) := by
  cases definition with
  | «structure» fields =>
    let later := if fields.isEmpty then fresh else 0
    have instanceIfWanted : Yields reference 0 (if options.storableInstances then
        structInstance options.model tags name (reference.hostName .type name)
          (reference.hostName .constructor name) fields else pure ()) later () _ _ later :=
      yields_ite options.storableInstances (yields_structInstance_lines _ _ _ _ _ _)
    refine Yields.of_eq (Yields.cast (Yields.bind (yields_nameOf .type (.unscoped name))
      (Yields.bind (yields_nameOf .constructor ⟨"", name⟩) (Yields.bind (yields_topLine _)
      (Yields.bind (yields_fields options name fields) (Yields.bind yields_blank
      instanceIfWanted))))) ?lines rfl) rfl ?events ?later
    case lines =>
      unfold Tag.declaration Tag.instanceMembers
      cases options.storableInstances <;>
        simp [HostDeclaration.lines, HostDeclaration.instanceLines, ScopedName.unscoped]
    case events =>
      unfold Tag.events
      cases options.storableInstances <;> simp [ScopedName.unscoped]
    case later => cases fields <;> rfl
  | enumeration underlying values =>
    let later := fresh + CType.variablesFor options.voidPointerAsAny underlying.voidPointers
    let constructor := reference.hostName .constructor name
    have instanceIfWanted : Yields reference 0 (if options.storableInstances then
        enumInstance options.model (reference.hostName .type name) constructor underlying
        else pure ()) later () _ _ later :=
      yields_ite options.storableInstances (yields_enumInstance_lines _ _ _ _)
    have patterns : Yields reference 0 (values.forM (enumerator name constructor)) later () _ _
        later :=
      yields_forM (fun value => yields_pattern name constructor value) values
    refine Yields.cast (Yields.bind (yields_nameOf .type (.unscoped name))
      (Yields.bind (yields_nameOf .constructor ⟨"", name⟩)
      (Yields.bind (yields_nameOf .variable ⟨name, "unwrap_" ++ name⟩)
      (Yields.bind (yields_typeText options.voidPointerAsAny underlying false fresh)
      (Yields.bind (yields_topLine _) (Yields.bind patterns
      (Yields.bind yields_blank instanceIfWanted))))))) ?lines ?events
    case lines =>
      unfold Tag.declaration Tag.instanceMembers
      cases options.storableInstances <;>
        simp [HostDeclaration.lines, HostDeclaration.instanceLines, ScopedName.unscoped,
          Function.comp_def, constructor]
    case events =>
      unfold Tag.events
      simp [ScopedName.unscoped, List.map_eq_flatMap]

/-- The import that an entity is rendered as. -/
def entityDeclaration (reference : Resolver) (options : RenderOptions) (name : String)
    (type : CType) : HostDeclaration :=
  .foreignImport type.isFunction name (reference.hostName .variable name)
    (type.hostText (reference.hostName .type) options.voidPointerAsAny (!type.isFunction) 0)

/-- The source names of an entity: a variable. -/
def entityNames (name : String) : ItemKind → List ScopedName
  | .variable => [.unscoped name]
  | _ => []

/-- What is asked for when an entity is rendered. -/
def entityEvents (name : String) (type : CType) : List Event :=
  .ask ⟨.variable, .unscoped name⟩ :: typeRequests type.shownNames

/-- An entity is rendered as its import. -/
theorem yields_entity (options : RenderOptions) (name : String) (type : CType) :
    Yields reference 0 (entity options name type) fresh ()
      (entityDeclaration reference options name type).lines (entityEvents name type) 0 := by
  refine Yields.cast (Yields.bind (yields_nameOf .variable ⟨"", name⟩)
    (Yields.bind yields_resetFresh (Yields.bind
      (yields_typeText options.voidPointerAsAny type (!type.isFunction) 0)
      (Yields.bind yields_resetFresh (yields_topLine _))))) ?lines ?events
  case lines =>
    unfold entityDeclaration
    cases type.isFunction <;> simp [HostDeclaration.lines]
  case events => simp [entityEvents, ScopedName.unscoped]

/-- Entities are rendered as their imports, in order. -/
theorem yields_entities (reference : Resolver) (options : RenderOptions) (fresh : Nat)
    (entries : List (String × CType)) :
    ∃ later, Yields reference 0
      (entries.forM fun entry => entity options entry.1 entry.2) fresh ()
      (entries.flatMap fun entry => (entityDeclaration reference options entry.1 entry.2).lines)
      (entries.flatMap fun entry => entityEvents entry.1 entry.2) later := by
  induction entries generalizing fresh with
  | nil => exact ⟨fresh, yields_pure ()⟩
  | cons entry rest inductionHypothesis =>
    obtain ⟨later, others⟩ := inductionHypothesis 0
    exact ⟨later, (yields_entity options entry.1 entry.2).bind others⟩

/-- The declarations that tags are rendered as, under their names. Each starts with the type
variables that are taken after the one before. -/
def tagDeclarations (reference : Resolver) (options : RenderOptions) (tags : NameMap Tag) :
    (fresh : Nat) → List (String × Tag) → List (String × HostDeclaration)
  | _, [] => []
  | fresh, (name, definition) :: rest =>
    (name, definition.declaration reference options tags name fresh) ::
      tagDeclarations reference options tags (definition.freshAfter options fresh) rest

/-- Tags are rendered as their declarations, in order. -/
theorem yields_tags (reference : Resolver) (options : RenderOptions) (tags : NameMap Tag)
    (fresh : Nat) (entries : List (String × Tag)) :
    ∃ later, Yields reference 0
      (entries.forM fun entry => tag options tags entry.1 entry.2) fresh ()
      ((tagDeclarations reference options tags fresh entries).flatMap fun written =>
        written.2.lines)
      (entries.flatMap fun entry => entry.2.events options tags entry.1) later := by
  induction entries generalizing fresh with
  | nil => exact ⟨fresh, yields_pure ()⟩
  | cons entry rest inductionHypothesis =>
    obtain ⟨later, others⟩ := inductionHypothesis (entry.2.freshAfter options fresh)
    exact ⟨later, (yields_tag options tags entry.1 entry.2).bind others⟩

/-- Each tag has its declaration. -/
theorem tagDeclarations_forall₂ (reference : Resolver) (options : RenderOptions)
    (tags : NameMap Tag) (fresh : Nat) (entries : List (String × Tag)) :
    List.Forall₂ (fun entry written => written.1 = entry.1 ∧ ∃ taken, written.2 =
        entry.2.declaration reference options tags entry.1 taken)
      entries (tagDeclarations reference options tags fresh entries) := by
  induction entries generalizing fresh with
  | nil => exact .nil
  | cons entry rest inductionHypothesis => exact .cons ⟨rfl, fresh, rfl⟩ (inductionHypothesis _)

/-- A tag has a declaration. -/
theorem exists_mem_tagDeclarations (reference : Resolver) (options : RenderOptions)
    (tags : NameMap Tag) (fresh : Nat) {entries : List (String × Tag)} {name : String}
    {definition : Tag} (member : (name, definition) ∈ entries) :
    ∃ taken, (name, definition.declaration reference options tags name taken) ∈
      tagDeclarations reference options tags fresh entries := by
  induction entries generalizing fresh with
  | nil => cases member
  | cons entry rest inductionHypothesis =>
    rcases List.mem_cons.mp member with rfl | member
    · exact ⟨fresh, List.mem_cons_self⟩
    · obtain ⟨taken, isDeclaration⟩ := inductionHypothesis _ member
      exact ⟨taken, List.mem_cons_of_mem _ isDeclaration⟩

end Render

end ForeignBindings
