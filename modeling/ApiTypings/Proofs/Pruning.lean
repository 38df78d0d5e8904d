import ApiTypings.Proofs.FirstOfKey
import ApiTypings.Proofs.Walk

/-!
# Properties that are dropped

Of the properties with one key, the first is kept. `ApiInfo.prune` takes the others out of
the metadata, with everything inside them, before any name is given out. Nothing of that
shows in the declarations (`generate_prune`): whatever a dropped property holds, it takes no
name from the registry, adds no declaration, and moves no number.
-/

namespace ApiTypings

variable (casing : KeyCasing)

/-! ## Pruning -/

mutual
/-- A schema without the properties that have the key of an earlier one beside them, at
any depth. -/
def Schema.prune : Schema → Schema
  | { kind, properties, items, titles, description, deprecated, required, sample, fallback } =>
    { kind, titles, description, deprecated, required, sample, fallback
      properties :=
        match properties with
        | some properties =>
            some (firstOfKey (fun entry => propertyKey casing entry.1)
              (Schema.pruneEach properties))
        | none => none
      items :=
        match items with
        | some items => some items.prune
        | none => none }

def Schema.pruneEach : List (String × Schema) → List (String × Schema)
  | [] => []
  | (name, schema) :: rest => (name, schema.prune) :: Schema.pruneEach rest
end

def Parameter.prune (parameter : Parameter) : Parameter :=
  { parameter with schema := parameter.schema.map (Schema.prune casing) }

def Response.prune (response : Response) : Response :=
  { response with schema := response.schema.map (Schema.prune casing) }

/-- The metadata of an API without the parameters and properties that have the key of an
earlier one beside them. -/
def ApiInfo.prune (info : ApiInfo) : ApiInfo :=
  { info with
    parameters := firstOfKey (fun parameter => propertyKey casing parameter.name)
      (info.parameters.map (Parameter.prune casing))
    responses := info.responses.map fun (code, response) => (code, response.prune casing) }

/-! ## Pruned shapes -/

def fieldKey (field : Field) : String :=
  propertyKey casing field.name

mutual
def Shape.prune : Shape → Shape
  | .primitive kind => .primitive kind
  | .enumeration titles => .enumeration titles
  | .arrayOf items => .arrayOf items.prune
  | .objectWith fields => .objectWith (firstOfKey (fieldKey casing) (Shape.pruneEach fields))
  | .unknown => .unknown

def Shape.pruneEach : List Field → List Field
  | [] => []
  | .mk name optional note shape :: rest =>
      .mk name optional note shape.prune :: Shape.pruneEach rest
end

/-- The fields of the schemas that are kept are the fields that are kept. -/
theorem fieldsOf_firstOfKey (properties : List (String × Schema)) :
    Schema.fieldsOf (firstOfKey (fun entry => propertyKey casing entry.1) properties) =
      firstOfKey (fieldKey casing) (Schema.fieldsOf properties) := by
  rw [Schema.fieldsOf_eq_map, Schema.fieldsOf_eq_map, firstOfKey_map]
  rfl

theorem Schema.isOptional_prune (schema : Schema) :
    (schema.prune casing).isOptional = schema.isOptional := by
  cases schema
  rw [Schema.prune.eq_def]
  rfl

/-- Pruning leaves the documentation of a schema as it is. -/
theorem Schema.note_prune (schema : Schema) : (schema.prune casing).note = schema.note := by
  cases schema
  rw [Schema.prune.eq_def]
  rfl

mutual
/-- The shape of a pruned schema is the pruned shape. -/
theorem Schema.shape_prune : ∀ schema : Schema,
    (schema.prune casing).shape = schema.shape.prune casing
  | { kind, properties, items, titles, .. } => by
      rw [Schema.prune.eq_def, Schema.shape.eq_def, Schema.shape.eq_def]
      simp only
      split
      · cases titles <;> simp only [Shape.prune]
      · simp only [Shape.prune]
      · simp only [Shape.prune]
      · cases items with
        | none => simp only [Shape.prune]
        | some items =>
            simp only [Shape.prune]
            exact congrArg Shape.arrayOf (Schema.shape_prune items)
      · cases properties with
        | none => simp only [Shape.prune]
        | some properties =>
            simp only [Shape.prune]
            rw [fieldsOf_firstOfKey, Schema.fieldsOf_pruneEach properties]
      · simp only [Shape.prune]
theorem Schema.fieldsOf_pruneEach : ∀ properties : List (String × Schema),
    Schema.fieldsOf (Schema.pruneEach casing properties) =
      Shape.pruneEach casing (Schema.fieldsOf properties)
  | [] => by simp only [Schema.pruneEach, Schema.fieldsOf, Shape.pruneEach]
  | (name, schema) :: rest => by
      rw [Schema.pruneEach, Schema.fieldsOf, Schema.fieldsOf, Shape.pruneEach,
        Schema.isOptional_prune, Schema.note_prune, Schema.shape_prune schema,
        Schema.fieldsOf_pruneEach rest]
end

/-! ## The walk over what is pruned -/

variable (api : String) (options : RenderOptions)

/-- The walk passes over what is dropped. -/
theorem walkFields_firstOfKey (registry : Registry) (seen : List String)
    (fields : List Field) :
    walkFields api options registry seen
        (firstOfKey (fieldKey options.keyCasing)
          (unseen (fieldKey options.keyCasing) seen fields)) =
      walkFields api options registry seen fields := by
  induction fields generalizing registry seen with
  | nil => rfl
  | cons field rest ih =>
      obtain ⟨name, optional, note, shape⟩ := field
      have hkey : fieldKey options.keyCasing (.mk name optional note shape) =
          propertyKey options.keyCasing name := rfl
      by_cases hseen : seen.contains (fieldKey options.keyCasing (.mk name optional note shape))
      · rw [unseen_cons_seen _ hseen, ih, walkFields, ← hkey]
        exact (if_pos hseen).symm
      · rw [firstOfKey_unseen_cons _ hseen, walkFields, walkFields, ← hkey, if_neg hseen,
          if_neg hseen]
        simp only
        rw [ih]

mutual
theorem walkShape_prune (registry : Registry) (property : String)
    (description : Option String) : ∀ shape : Shape,
    walkShape api options registry property description (shape.prune options.keyCasing) =
      walkShape api options registry property description shape
  | .primitive _ | .unknown | .enumeration _ => by rw [Shape.prune]
  | .arrayOf items => by
      rw [Shape.prune, walkShape, walkShape,
        walkShape_prune registry property description items]
  | .objectWith fields => by
      have hbody := walkFields_pruneEach
        (registry.allocate (api ++ typeSegment property)).2 [] fields
      rw [← walkFields_firstOfKey, unseen_none] at hbody
      rw [Shape.prune, walkShape, walkShape, hbody]
theorem walkFields_pruneEach (registry : Registry) (seen : List String) :
    ∀ fields : List Field,
    walkFields api options registry seen (Shape.pruneEach options.keyCasing fields) =
      walkFields api options registry seen fields
  | [] => by rw [Shape.pruneEach]
  | .mk name _ note shape :: rest => by
      rw [Shape.pruneEach, walkFields, walkFields]
      by_cases hseen : seen.contains (propertyKey options.keyCasing name)
      · rw [if_pos hseen, if_pos hseen]
        exact walkFields_pruneEach registry seen rest
      · rw [if_neg hseen, if_neg hseen]
        simp only
        rw [walkShape_prune registry name note.description shape,
          walkFields_pruneEach _ _ rest]
end

/-- An interface is the same without the fields that are dropped. -/
theorem walkInterface_prune (registry : Registry) (base : String) (fields : List Field) :
    walkInterface api options registry base
        (firstOfKey (fieldKey options.keyCasing)
          (Shape.pruneEach options.keyCasing fields)) =
      walkInterface api options registry base fields := by
  have hbody := walkFields_pruneEach api options (registry.allocate base).2 [] fields
  rw [← walkFields_firstOfKey, unseen_none] at hbody
  rw [walkInterface, walkInterface, hbody]

theorem walkResponse_prune (registry : Registry) (shape : Option Shape) :
    walkResponse api options registry (shape.map (Shape.prune options.keyCasing)) =
      walkResponse api options registry shape := by
  cases shape with
  | none => rfl
  | some shape =>
      cases shape with
      | objectWith fields =>
          rw [Option.map_some, Shape.prune]
          exact walkInterface_prune api options registry _ fields
      | primitive | enumeration | unknown => rw [Option.map_some, Shape.prune]
      | arrayOf items =>
          -- an array is an alias for any type, whatever its items are
          rw [Option.map_some, Shape.prune]
          rfl

/-! ## The declarations of what is pruned -/

theorem successSchema_prune (info : ApiInfo) :
    (info.prune casing).successSchema = info.successSchema.map (Schema.prune casing) := by
  have hvalue : ∀ responses : List (String × Response),
      valueAt? "200" (responses.map fun (code, response) => (code, response.prune casing)) =
        (valueAt? "200" responses).map (Response.prune casing) := by
    intro responses
    induction responses with
    | nil => rfl
    | cons head rest ih =>
        obtain ⟨code, response⟩ := head
        rw [List.map_cons, valueAt?, valueAt?, ih]
        split <;> rfl
  rw [ApiInfo.successSchema, ApiInfo.prune, hvalue, ApiInfo.successSchema]
  cases valueAt? "200" info.responses <;> rfl

theorem toField_prune (parameter : Parameter) :
    (parameter.prune casing).toField =
      .mk parameter.name parameter.toField.optional parameter.toField.note
        (parameter.toField.shape.prune casing) := by
  have hschema : (parameter.schema.map (Schema.prune casing)).getD {} =
      (parameter.schema.getD {}).prune casing := by
    cases parameter.schema with
    | none =>
        rw [Schema.prune.eq_def]
        rfl
    | some schema => rfl
  rw [Parameter.toField, Schema.toField, Parameter.prune, hschema, Schema.isOptional_prune,
    Schema.note_prune, Schema.shape_prune]
  rfl

theorem pruneEach_map_toField (parameters : List Parameter) :
    Shape.pruneEach casing (parameters.map Parameter.toField) =
      (parameters.map (Parameter.prune casing)).map Parameter.toField := by
  induction parameters with
  | nil => rw [List.map_nil, List.map_nil, List.map_nil, Shape.pruneEach]
  | cons parameter rest ih =>
      rw [List.map_cons, List.map_cons, List.map_cons, toField_prune, ← ih]
      rw [Parameter.toField, Schema.toField, Shape.pruneEach]
      rfl

/-- The fields of the parameters that are kept are the fields that are kept. -/
theorem parameters_prune (info : ApiInfo) :
    (info.prune casing).parameters.map Parameter.toField =
      firstOfKey (fieldKey casing)
        (Shape.pruneEach casing (info.parameters.map Parameter.toField)) := by
  rw [pruneEach_map_toField, firstOfKey_map]
  rfl

/-- **Dropped properties leave no trace.** Without the properties that are dropped, a
generation ends in the same session, with the same names taken, and gives the same
declarations. -/
theorem generate_prune (info : ApiInfo) :
    generateSession api options (info.prune options.keyCasing) =
        generateSession api options info ∧
      generate api options (info.prune options.keyCasing) = generate api options info := by
  have hshape : (info.prune options.keyCasing).successSchema.map Schema.shape =
      (info.successSchema.map Schema.shape).map (Shape.prune options.keyCasing) := by
    rw [successSchema_prune, Option.map_map, Option.map_map]
    exact congrArg (Option.map · info.successSchema)
      (funext (Schema.shape_prune options.keyCasing))
  have hresponse : responseWalk api options (info.prune options.keyCasing) =
      responseWalk api options info := by
    rw [responseWalk, hshape, walkResponse_prune, responseWalk]
  have hparameters : parametersWalk api options (info.prune options.keyCasing) =
      parametersWalk api options info := by
    rw [parametersWalk, walkParameters, hresponse, parameters_prune, walkInterface_prune,
      parametersWalk, walkParameters]
  have hsession : generateSession api options (info.prune options.keyCasing) =
      generateSession api options info := by
    rw [generateSession_eq_walk, generateSession_eq_walk, hresponse, hparameters]
  exact ⟨hsession, by rw [generate, generate, hsession]⟩

end ApiTypings
