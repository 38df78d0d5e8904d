import ApiTypings.Declaration.Generation

/-!
# The walk without places

A generation takes the place of an interface before it visits the properties, and fills
it when they are known. The walk of this module has no places: it hands on the registry
alone and returns the declarations it meets, an interface before those inside it. Both
give the same declarations (`generate_eq_walk`), because what a subtree adds to the
places is one complete block behind the place of its parent (`typeOf_eq_follow`).
-/

namespace ApiTypings

/-- What a walk over a part of the schema tree leaves: its result, the registry after it,
and the declarations it has met. -/
structure Walk (α : Type) where
  result : α
  registry : Registry
  declared : List Declaration

variable (api : String) (options : RenderOptions)

/-! ## The walk -/

mutual
def walkShape (registry : Registry) (property : String) (description : Option String) :
    Shape → Walk TypeExpr
  | .primitive kind => ⟨.primitive kind, registry, []⟩
  | .unknown => ⟨.any, registry, []⟩
  | .enumeration titles =>
      let request := registry.requestEnum options (enumName property) titles description
      ⟨request.1, request.2, []⟩
  | .arrayOf items =>
      let element := walkShape registry property description items
      ⟨.array element.result, element.registry, element.declared⟩
  | .objectWith fields =>
      let named := registry.allocate (api ++ typeSegment property)
      let body := walkFields named.2 [] fields
      ⟨.interface named.1, body.registry, .interface named.1 body.result :: body.declared⟩

/-- The properties of an interface, where `seen` are the keys of those before. -/
def walkFields (registry : Registry) (seen : List String) :
    List Field → Walk (List Property)
  | [] => ⟨[], registry, []⟩
  | .mk name optional note shape :: rest =>
      let key := propertyKey options.keyCasing name
      if seen.contains key then walkFields registry seen rest
      else
        let type := walkShape registry name note.description shape
        let others := walkFields type.registry (key :: seen) rest
        ⟨⟨DocBlock.ofNote options.comments note, key, optional, type.result⟩ :: others.result,
          others.registry, type.declared ++ others.declared⟩
end

def walkInterface (registry : Registry) (base : String) (fields : List Field) : Walk String :=
  let named := registry.allocate base
  let body := walkFields api options named.2 [] fields
  ⟨named.1, body.registry, .interface named.1 body.result :: body.declared⟩

def walkResponse (registry : Registry) (shape : Option Shape) : Walk String :=
  match shape with
  | some (.objectWith fields) => walkInterface api options registry (api ++ "Response") fields
  | shape =>
      let named := registry.allocate (api ++ "Response")
      ⟨named.1, named.2, [.alias named.1 (aliasType shape)]⟩

def walkParameters (registry : Registry) (parameters : List Parameter) : Walk String :=
  walkInterface api options registry (api ++ "Parameters") (parameters.map Parameter.toField)

/-- The walk over the response of an API, from a registry without names. -/
def responseWalk (info : ApiInfo) : Walk String :=
  walkResponse api options (Registry.empty options) (info.successSchema.map Schema.shape)

/-- The walk over the parameters of an API, after the one over its response. -/
def parametersWalk (info : ApiInfo) : Walk String :=
  walkParameters api options (responseWalk api options info).registry info.parameters

/-! ## A session follows the walk -/

/-- The session after a walk: the registry of the walk, and a complete place for each of
its declarations behind the places there were. -/
def Session.follow {α : Type} (session : Session) (walk : Walk α) : Session :=
  ⟨walk.registry, session.slots ++ walk.declared.map some⟩

/-- A declaration that is filled in after its subtree lands before the block of that
subtree, and no other place changes. -/
theorem Session.fill_follow {α : Type} (session : Session) (walk : Walk α)
    (decl : Declaration) :
    (session.reserve.2.follow walk).fill session.slots.length decl =
      session.follow ⟨walk.result, walk.registry, decl :: walk.declared⟩ := by
  simp only [Session.reserve, Session.follow, Session.fill, List.append_assoc,
    List.set_append_right session.slots.length (some decl) (Nat.le_refl _), Nat.sub_self]
  rfl

mutual
theorem typeOf_eq_follow (session : Session) (property : String)
    (description : Option String) : ∀ shape : Shape,
    typeOf api options session property description shape =
      let walk := walkShape api options session.registry property description shape
      (walk.result, session.follow walk)
  | .primitive kind => by simp [typeOf, walkShape, Session.follow]
  | .unknown => by simp [typeOf, walkShape, Session.follow]
  | .enumeration titles => by
      simp [typeOf, walkShape, Session.follow, Session.requestEnum]
  | .arrayOf items => by
      rw [typeOf, typeOf_eq_follow session property description items, walkShape]
      rfl
  | .objectWith fields => by
      rw [typeOf, walkShape]
      simp only
      rw [propertiesOf_eq_follow _ [] fields]
      simp only [Session.allocate]
      exact congrArg _ (Session.fill_follow _ _ _)
theorem propertiesOf_eq_follow (session : Session) (seen : List String) :
    ∀ fields : List Field,
    propertiesOf api options session seen fields =
      let walk := walkFields api options session.registry seen fields
      (walk.result, session.follow walk)
  | [] => by simp [propertiesOf, walkFields, Session.follow]
  | .mk name optional note shape :: rest => by
      rw [propertiesOf, walkFields]
      by_cases hseen : seen.contains (propertyKey options.keyCasing name)
      · rw [if_pos hseen, if_pos hseen]
        exact propertiesOf_eq_follow session seen rest
      · rw [if_neg hseen, if_neg hseen, typeOf_eq_follow session name note.description shape]
        simp only
        rw [propertiesOf_eq_follow _ _ rest]
        simp [Session.follow]
end

theorem emitInterface_allocate (session : Session) (base : String) (fields : List Field) :
    (session.allocate base).2.emitInterface api options (session.allocate base).1 fields =
      session.follow (walkInterface api options session.registry base fields) := by
  rw [Session.emitInterface]
  simp only
  rw [propertiesOf_eq_follow]
  exact Session.fill_follow _ _ _

theorem emitResponse_eq_follow (session : Session) (shape : Option Shape) :
    session.emitResponse api options shape =
      session.follow (walkResponse api options session.registry shape) := by
  cases shape with
  | none => rfl
  | some shape =>
      cases shape with
      | objectWith fields => exact emitInterface_allocate api options session _ fields
      | primitive | enumeration | arrayOf | unknown => rfl

theorem emitParameters_eq_follow (session : Session) (parameters : List Parameter) :
    session.emitParameters api options parameters =
      session.follow (walkParameters api options session.registry parameters) :=
  emitInterface_allocate api options session _ _

/-- The session at the end: the registry of the walk, and a complete place for each
declaration of the response and then for each of the parameters. -/
theorem generateSession_eq_walk (info : ApiInfo) :
    generateSession api options info =
      { registry := (parametersWalk api options info).registry
        slots := ((responseWalk api options info).declared ++
          (parametersWalk api options info).declared).map some } := by
  rw [generateSession]
  simp only [emitResponse_eq_follow, emitParameters_eq_follow, Session.follow,
    List.nil_append, List.map_append]
  rfl

/-- **Places change nothing.** The declarations of an API are those of the walk over its
response and then those of the walk over its parameters. -/
theorem generate_eq_walk (info : ApiInfo) :
    generate api options info =
      { enums := (parametersWalk api options info).registry.enums
        interfaces := (responseWalk api options info).declared ++
          (parametersWalk api options info).declared } := by
  rw [generate, generateSession_eq_walk]
  simp only [List.filterMap_map, Function.comp_def, id, List.filterMap_some]

end ApiTypings
