import ForeignBindings.Proofs.Render.Declarations

/-!
# Rendering a module

A generated module is a front and the lines of `Contents.declarations`, and what is asked for
and reported on the way are `Contents.events`: `Contents.generate_eq_declarations`. The names
that the declarations declare are the host names of the source names that the contents declare.
-/

namespace ForeignBindings

namespace Render

variable {reference : Resolver}

/-- The lines in front of the declarations of a module. -/
def frontLines (options : RenderOptions) (name : String) (imports : List String) : List String :=
  headerLines options name ++ [""] ++ importLines standardImports ++ [""] ++
    if imports.isEmpty then [] else importLines imports ++ [""]

/-- What stands in front of the declarations is written first, and asks for nothing. -/
theorem yields_header (options : RenderOptions) (name : String) (imports : List String)
    (fresh : Nat) :
    Yields reference 0 (header options name imports) fresh () (frontLines options name imports) []
      fresh := by
  have topLines : ∀ texts : List String,
      Yields reference 0 (lines texts) fresh () texts [] fresh := by
    intro texts
    refine Yields.cast (yields_lines texts) ?_ rfl
    exact List.map_id'' (fun text => String.empty_append) texts
  have yieldsImports : Yields reference 0 (unless imports.isEmpty do
      lines (importLines imports)
      blank) fresh () (if imports.isEmpty then [] else importLines imports ++ [""]) [] fresh := by
    cases imports with
    | nil => exact yields_pure ()
    | cons first rest => exact (topLines _).bind yields_blank
  refine Yields.cast (Yields.bind (topLines _) (Yields.bind yields_blank (Yields.bind (topLines _)
    (Yields.bind yields_blank yieldsImports)))) ?_ rfl
  simp [frontLines]

end Render

namespace Contents

/-- The declarations of a module behind its front: the empty ones, those of its tags, and the
imports of its entities. -/
def declarations (contents : Contents) (reference : Resolver) (options : RenderOptions) :
    List HostDeclaration :=
  .emptyDatas ((Render.undefinedNames contents).map (reference.hostName .type)) ::
    (Render.tagDeclarations reference options contents.tags 0 contents.tags.entries).map Prod.snd ++
    contents.entities.entries.map fun entry =>
      Render.entityDeclaration reference options entry.1 entry.2

/-- The lines of the declarations, in their three parts. -/
theorem lines_declarations (contents : Contents) (reference : Resolver) (options : RenderOptions) :
    (contents.declarations reference options).flatMap HostDeclaration.lines =
      (HostDeclaration.emptyDatas
          ((Render.undefinedNames contents).map (reference.hostName .type))).lines ++
        ((Render.tagDeclarations reference options contents.tags 0 contents.tags.entries).flatMap
          fun written => written.2.lines) ++
        contents.entities.entries.flatMap fun entry =>
          (Render.entityDeclaration reference options entry.1 entry.2).lines := by
  simp only [declarations, List.flatMap_append, List.flatMap_cons, List.flatMap_map]

/-- What is asked for and reported when a module is rendered. -/
def events (contents : Contents) (options : RenderOptions) : List Render.Event :=
  Render.typeRequests (Render.undefinedNames contents) ++
    (contents.tags.entries.flatMap fun entry => entry.2.events options contents.tags entry.1) ++
    contents.entities.entries.flatMap fun entry => Render.entityEvents entry.1 entry.2

end Contents

namespace Render

/-- The part of rendering a module that writes its text. -/
def body (options : RenderOptions) (name : String) (contents : Contents) : Render Unit := do
  header options (fullModuleName options name) contents.imports
  emptyDatas (undefinedNames contents)
  contents.tags.entries.forM fun entry => tag options contents.tags entry.1 entry.2
  contents.entities.entries.forM fun entry => entity options entry.1 entry.2

/-- A module is what is written, taken as a text. -/
theorem module_eq (options : RenderOptions) (name : String) (contents : Contents) :
    module options name contents = (do
      body options name contents
      let text ← takeText
      pure { name := fullModuleName options name, path := modulePath options name, text }) := by
  unfold module body
  simp only [bind_assoc]

/-- A module is rendered as its front and its declarations. -/
theorem yields_body (reference : Resolver) (options : RenderOptions) (name : String)
    (contents : Contents) :
    ∃ later, Yields reference 0 (body options name contents) 0 ()
      (frontLines options (fullModuleName options name) contents.imports ++
        (contents.declarations reference options).flatMap HostDeclaration.lines)
      (contents.events options) later := by
  obtain ⟨middle, tags⟩ := yields_tags reference options contents.tags 0 contents.tags.entries
  obtain ⟨later, entities⟩ := yields_entities reference options middle contents.entities.entries
  refine ⟨later, Yields.cast (Yields.bind (yields_header options _ contents.imports 0)
    (Yields.bind (yields_emptyDatas _) (Yields.bind tags entities))) ?_ ?_⟩
  · rw [Contents.lines_declarations]
    simp only [List.append_assoc]
  · simp only [Contents.events, List.append_assoc, List.nil_append]

end Render

/-- The text of a generated module is its front and the text of its declarations. The resolver
is asked for names, and reports are made, as the events say. Nothing that the queue holds or
that the resolver remembers makes a difference. -/
theorem Contents.generate_eq_declarations (contents : Contents) (options : RenderOptions)
    (name : String) {resolver reference : Resolver} (like : resolver.AnswersLike reference)
    (queue : Queue) :
    contents.generate options name resolver queue =
      ({ name := Render.fullModuleName options name
         path := Render.modulePath options name
         text := unlines (Render.frontLines options (Render.fullModuleName options name)
           contents.imports ++
             (contents.declarations reference options).flatMap HostDeclaration.lines) },
        (resolver.resolveAll (Render.requestsOf (contents.events options))).2,
        queue.extend (Render.reportsOf reference (contents.events options))) := by
  obtain ⟨later, whole⟩ := Render.yields_body reference options name contents
  have run := whole { resolver, queue } like rfl rfl
  unfold Contents.generate
  rw [Render.module_eq, StateT.run_bind, run]
  refine Prod.ext ?_ rfl
  exact congrArg (GeneratedModule.mk _ _) String.empty_append

namespace Contents

/-- The text of a generated module is its front, its empty declarations, the declarations of
its tags and the imports of its entities. -/
theorem text_generate (contents : Contents) (options : RenderOptions) (name : String)
    {resolver reference : Resolver} (like : resolver.AnswersLike reference) (queue : Queue) :
    (contents.generate options name resolver queue).1.text =
      unlines (Render.frontLines options (Render.fullModuleName options name) contents.imports ++
        (HostDeclaration.emptyDatas
          ((Render.undefinedNames contents).map (reference.hostName .type))).lines ++
        ((Render.tagDeclarations reference options contents.tags 0 contents.tags.entries).flatMap
          fun written => written.2.lines) ++
        contents.entities.entries.flatMap fun entry =>
          (Render.entityDeclaration reference options entry.1 entry.2).lines) := by
  rw [contents.generate_eq_declarations options name like queue]
  simp only [lines_declarations, List.append_assoc]

end Contents

end ForeignBindings
