import ApiTypings.Proofs.BundleDocuments

/-!
# Ways down to schemas

The reader of schemas goes on into the schemas inside a schema. Seen from one schema it is
still a reader of records like others (`Schema.decode_eq`), so on each step of a way down, from
a schema to its items or to one of its properties, only one field matters. Two things follow.
What is read alike at the end of a way is read alike as a whole, in a schema
(`ReadAlike.changeSchema`) as in an API document or a bundle (`SchemaPlace.decode_change`,
`SchemaPlace.decode_changeOf`). And what a way leads to in a document is read to what the way
leads to in the schema (`decode_schemaAt?`).
-/

namespace ApiTypings

/-! ## Schemas as records -/

namespace Schema

def decoder : RecordDecoder Schema where
  name := "Schema"
  fields := fieldNames
  set := fun name value schema =>
    schema.setField name value (fun _ => decode value) (fun _ => decodeProperties value)

theorem decodeMembers_eq (members : List (String × Json)) (schema : Schema) :
    decodeMembers members schema = decoder.ofMembers members schema := by
  induction members generalizing schema with
  | nil => rw [decodeMembers, RecordDecoder.ofMembers]
  | cons member rest ih =>
      rw [decodeMembers, RecordDecoder.ofMembers]
      exact bind_congr fun next => ih next

theorem decodeItems_eq (count : Nat) (names : List String) (items : List Json)
    (schema : Schema) :
    decodeItems count names items schema = decoder.ofItems count names items schema := by
  induction items generalizing names schema with
  | nil => rw [decodeItems, RecordDecoder.ofItems]
  | cons value rest ih =>
      cases names with
      | nil => rw [decodeItems, RecordDecoder.ofItems]
      | cons name names =>
          rw [decodeItems, RecordDecoder.ofItems]
          exact bind_congr fun next => ih names next

theorem decode_eq (document : Json) : decode document = decoder.decode {} document := by
  cases document with
  | object members =>
      rw [decode]
      exact decodeMembers_eq members {}
  | array items =>
      rw [decode]
      exact decodeItems_eq items.length fieldNames items {}
  | null | bool | number | string => simp [decode, RecordDecoder.decode, decoder]

theorem decodeNamed_eq (members : List (String × Json)) :
    decodeNamed members = members.mapM fun (name, value) => (name, ·) <$> decode value := by
  induction members with
  | nil => rw [decodeNamed]; rfl
  | cons member rest ih =>
      obtain ⟨name, value⟩ := member
      rw [decodeNamed, ih, List.mapM_cons]
      simp only [map_eq_pure_bind, bind_assoc, pure_bind]

theorem decodeProperties_eq (value : Json) :
    decodeProperties value = value.decodeMap decode := by
  cases value with
  | object members =>
      rw [decodeProperties]
      exact decodeNamed_eq members
  | null | bool | number | string | array => simp [decodeProperties, Json.decodeMap]

theorem reads_items :
    decoder.Reads "items" (Json.decodeOption decode) fun schema items =>
      { schema with items } := by
  intro value schema
  cases value <;> rfl

theorem reads_properties :
    decoder.Reads "properties" (Json.decodeOption (Json.decodeMap decode))
      fun schema properties => { schema with properties } := by
  intro value schema
  have hread : value.decodeOption (fun _ => decodeProperties value) =
      value.decodeOption (Json.decodeMap decode) := by
    rw [decodeProperties_eq]
    cases value <;> rfl
  rw [← hread]
  rfl

structure KeptBy (name : String) (before after : Schema) : Prop where
  items : name ≠ "items" → after.items = before.items
  properties : name ≠ "properties" → after.properties = before.properties
  required : name ≠ "required" → after.required = before.required
  deprecated : name ≠ "deprecated" → after.deprecated = before.deprecated

/-- A field sets nothing but itself. -/
theorem keptBy_set {name : String} {value : Json} {before after : Schema}
    (h : decoder.set name value before = .ok after) : KeptBy name before after := by
  replace h : before.setField name value (fun _ => decode value)
      (fun _ => decodeProperties value) = .ok after := h
  unfold setField at h
  split at h
  -- fields whose value can be refused, and fields that take any value
  all_goals first
    | obtain ⟨read, -, h⟩ := bind_eq_ok_iff.mp h
      cases h
    | cases h
  all_goals constructor <;> simp

theorem sets_items : decoder.Sets "items" (Json.decodeOption decode) Schema.items where
  own := reads_items.own fun _ _ => rfl
  others hname hset := (keptBy_set hset).items hname

theorem sets_properties :
    decoder.Sets "properties" (Json.decodeOption (Json.decodeMap decode)) Schema.properties where
  own := reads_properties.own fun _ _ => rfl
  others hname hset := (keptBy_set hset).properties hname

theorem sets_required :
    decoder.Sets "required" (fun value => .ok value.bool?) Schema.required where
  own hset := by
    cases hset
    rfl
  others hname hset := (keptBy_set hset).required hname

theorem sets_deprecated :
    decoder.Sets "deprecated" (fun value => .ok value.bool?) Schema.deprecated where
  own hset := by
    cases hset
    rfl
  others hname hset := (keptBy_set hset).deprecated hname

end Schema

/-! ## Ways down -/

/-- One step, from a schema to a schema right inside it. -/
inductive SchemaStep where
  | items
  | property (name : String)
deriving Repr, DecidableEq

abbrev SchemaPath := List SchemaStep

namespace SchemaStep

/-- Where a step leads in a document. -/
def document? : SchemaStep → Json → Option Json
  | items, document => Schema.decoder.field? "items" document
  | property name, document =>
      (Schema.decoder.field? "properties" document).bind (Json.member? name)

def schema? : SchemaStep → Schema → Option Schema
  | items, schema => schema.items
  | property name, schema => schema.properties.bind (valueAt? name)

def change (f : Json → Json) : SchemaStep → Json → Json
  | items => Schema.decoder.changeField "items" f
  | property name => Schema.decoder.changeField "properties" (Json.changeMember name f)

theorem document?_change (f : Json → Json) (step : SchemaStep) (document : Json) :
    step.document? (step.change f document) = (step.document? document).map f := by
  cases step with
  | items => exact RecordDecoder.field?_changeField _ f document
  | property name =>
      rw [change, document?, document?, RecordDecoder.field?_changeField]
      cases Schema.decoder.field? "properties" document with
      | none => rfl
      | some properties =>
          cases properties with
          | object members => exact valueAt?_changeEntry members
          | null | bool | number | string | array => rfl

end SchemaStep

def Json.schemaAt? : SchemaPath → Json → Option Json
  | [], document => some document
  | step :: path, document => (step.document? document).bind (schemaAt? path)

def Schema.at? : SchemaPath → Schema → Option Schema
  | [], schema => some schema
  | step :: path, schema => (step.schema? schema).bind (at? path)

def Json.changeSchema (f : Json → Json) : SchemaPath → Json → Json
  | [] => f
  | step :: path => step.change (changeSchema f path)

theorem Json.schemaAt?_changeSchema (f : Json → Json) (path : SchemaPath) (document : Json) :
    (document.changeSchema f path).schemaAt? path = (document.schemaAt? path).map f := by
  induction path generalizing document with
  | nil => rfl
  | cons step path ih =>
      rw [changeSchema, schemaAt?, schemaAt?, SchemaStep.document?_change]
      cases step.document? document with
      | none => rfl
      | some inside => exact ih inside

/-! ### Documents that are read alike -/

/-- Two documents that are the same schema, or are refused with the same error. Null counts by
itself, as it is no schema and yet no error where a schema may be absent. -/
structure ReadAlike (document document' : Json) : Prop where
  null_iff : document = .null ↔ document' = .null
  decode_eq : Schema.decode document = Schema.decode document'

namespace ReadAlike

theorem decodeOption_eq {document document' : Json} (h : ReadAlike document document') :
    document.decodeOption Schema.decode = document'.decodeOption Schema.decode := by
  by_cases hnull : document = .null
  · rw [hnull, h.null_iff.mp hnull]
  · have hnull' : document' ≠ .null := mt h.null_iff.mpr hnull
    rw [Json.decodeOption_of_ne_null hnull, Json.decodeOption_of_ne_null hnull', h.decode_eq]

section Changes

variable {f g : Json → Json} (h : ∀ document, ReadAlike (f document) (g document))

include h

theorem decodeProperties_eq (name : String) (properties : Json) :
    (properties.changeMember name f).decodeOption (Json.decodeMap Schema.decode) =
      (properties.changeMember name g).decodeOption (Json.decodeMap Schema.decode) := by
  have hmap := Json.decodeMap_changeMember (fun value => (h value).decode_eq) name properties
  cases properties with
  | object members => exact congrArg (some <$> ·) hmap
  | null | bool | number | string | array => rfl

theorem change (step : SchemaStep) (document : Json) :
    ReadAlike (step.change f document) (step.change g document) := by
  constructor
  · cases step <;> simp [SchemaStep.change, RecordDecoder.changeField_eq_null_iff]
  · rw [Schema.decode_eq, Schema.decode_eq]
    cases step with
    | items =>
        have hitems (value : Json) := (h value).decodeOption_eq
        exact Schema.reads_items.decode_changeField hitems {} document
    | property name =>
        have hproperties := decodeProperties_eq h name
        exact Schema.reads_properties.decode_changeField hproperties {} document

/-- **All the way up.** What is read alike where a way leads is read alike as a whole. -/
theorem changeSchema (path : SchemaPath) (document : Json) :
    ReadAlike (document.changeSchema f path) (document.changeSchema g path) := by
  induction path generalizing document with
  | nil => exact h document
  | cons step path ih => exact change ih step document

end Changes

end ReadAlike

/-! ### Schemas inside a schema -/

section Inside

variable {document inside : Json} {step : SchemaStep} {schema : Schema}

theorem namesDistinct_document? (h : document.NamesDistinct)
    (hstep : step.document? document = some inside) : inside.NamesDistinct := by
  cases step with
  | items => exact h.children inside (RecordDecoder.field?_mem_children _ hstep)
  | property name =>
      obtain ⟨properties, hfield, hmember⟩ := Option.bind_eq_some_iff.mp hstep
      have hproperties : properties.NamesDistinct :=
        h.children properties (RecordDecoder.field?_mem_children _ hfield)
      cases properties with
      | object members =>
          have hmem : (name, inside) ∈ members := mem_of_valueAt? hmember
          exact hproperties.children inside (List.mem_map_of_mem hmem)
      | null | bool | number | string | array => cases hmember

/-- What a step leads to in the document is read, and the step leads there in the schema. -/
theorem decode_step (hdocument : document.NamesDistinct)
    (hstep : step.document? document = some inside) (hnull : inside ≠ .null)
    (h : Schema.decode document = .ok schema) :
    ∃ inner, step.schema? schema = some inner ∧ Schema.decode inside = .ok inner := by
  rw [Schema.decode_eq] at h
  have hnames := Schema.decoder.entries_nodup (by decide) hdocument
  cases step with
  | items =>
      have hread := Schema.sets_items.decode_of_field? hnames h hstep
      rw [Json.decodeOption_of_ne_null hnull] at hread
      obtain ⟨inner, hinner, hitems⟩ := map_eq_ok_iff.mp hread
      exact ⟨inner, hitems.symm, hinner⟩
  | property name =>
      obtain ⟨properties, hfield, hmember⟩ := Option.bind_eq_some_iff.mp hstep
      have hread := Schema.sets_properties.decode_of_field? hnames h hfield
      cases properties with
      | object members =>
          obtain ⟨schemas, hschemas, hproperties⟩ := map_eq_ok_iff.mp hread
          have hmem : (name, inside) ∈ members := mem_of_valueAt? hmember
          obtain ⟨entry, -, hentry⟩ := exists_mem_of_mapM hschemas hmem
          obtain ⟨inner, hinner, -⟩ := map_eq_ok_iff.mp hentry
          refine ⟨inner, ?_, hinner⟩
          have hfound : valueAt? name schemas = some inner := by
            rw [valueAt?_of_mapM hschemas, show valueAt? name members = some inside from hmember,
              Option.bind_some, hinner]
            rfl
          rw [SchemaStep.schema?, ← hproperties]
          exact hfound
      | null | bool | number | string | array => cases hmember

theorem namesDistinct_schemaAt? {path : SchemaPath} {node : Json} (h : document.NamesDistinct)
    (hnode : document.schemaAt? path = some node) : node.NamesDistinct := by
  induction path generalizing document with
  | nil => exact Option.some.inj hnode ▸ h
  | cons step path ih =>
      obtain ⟨inside, hstep, hnode⟩ := Option.bind_eq_some_iff.mp hnode
      exact ih (namesDistinct_document? h hstep) hnode

theorem ne_null_of_schemaAt? {path : SchemaPath} {node : Json}
    (hnode : document.schemaAt? path = some node) (hnull : node ≠ .null) : document ≠ .null := by
  rintro rfl
  cases path with
  | nil => exact hnull (Option.some.inj hnode).symm
  | cons step path => cases step <;> cases hnode

/-- **Schemas are read where they stand.** What a way leads to in the document is read to what
the way leads to in the schema. -/
theorem decode_schemaAt? {path : SchemaPath} {node : Json} (hdocument : document.NamesDistinct)
    (hnode : document.schemaAt? path = some node) (hnull : node ≠ .null)
    (h : Schema.decode document = .ok schema) :
    ∃ inner, schema.at? path = some inner ∧ Schema.decode node = .ok inner := by
  induction path generalizing document schema with
  | nil =>
      obtain rfl : document = node := Option.some.inj hnode
      exact ⟨schema, rfl, h⟩
  | cons step path ih =>
      obtain ⟨inside, hstep, hnode⟩ := Option.bind_eq_some_iff.mp hnode
      have hinside : inside ≠ .null := ne_null_of_schemaAt? hnode hnull
      obtain ⟨next, hnext, hdecode⟩ := decode_step hdocument hstep hinside h
      obtain ⟨inner, hinner, hread⟩ := ih (namesDistinct_document? hdocument hstep) hnode hdecode
      refine ⟨inner, ?_, hread⟩
      rw [Schema.at?, hnext]
      exact hinner

end Inside

/-! ## Schemas inside a document -/

inductive SchemaPlace where
  | parameter (index : Nat)
  | response (status : String)
deriving Repr, DecidableEq

namespace SchemaPlace

def change (f : Json → Json) : SchemaPlace → Json → Json
  | parameter index =>
      ApiInfo.decoder.changeField "parameters"
        (Json.changeItem index (Parameter.decoder.changeField "schema" f))
  | response status =>
      ApiInfo.decoder.changeField "responses"
        (Json.changeMember status (Response.decoder.changeField "schema" f))

def changeOf (api : String) (f : Json → Json) (place : SchemaPlace) : Json → Json :=
  ApiDocs.decoder.changeField "apis" (Json.changeMember api (place.change f))

section Alike

variable {f g : Json → Json} (h : ∀ document, ReadAlike (f document) (g document))

include h

theorem decode_parameter (parameter : Json) :
    Parameter.decode (Parameter.decoder.changeField "schema" f parameter) =
      Parameter.decode (Parameter.decoder.changeField "schema" g parameter) := by
  have hreads : Parameter.decoder.Reads "schema" (Json.decodeOption Schema.decode)
      fun parameter schema => { parameter with schema } := fun _ _ => rfl
  exact hreads.decode_changeField (fun value => (h value).decodeOption_eq) {} parameter

theorem decode_response (response : Json) :
    Response.decode (Response.decoder.changeField "schema" f response) =
      Response.decode (Response.decoder.changeField "schema" g response) := by
  have hreads : Response.decoder.Reads "schema" (Json.decodeOption Schema.decode)
      fun response schema => { response with schema } := fun _ _ => rfl
  exact hreads.decode_changeField (fun value => (h value).decodeOption_eq) {} response

theorem decode_change (place : SchemaPlace) (document : Json) :
    ApiInfo.decode (place.change f document) = ApiInfo.decode (place.change g document) := by
  cases place with
  | parameter index =>
      have hreads : ApiInfo.decoder.Reads "parameters" (Json.decodeList Parameter.decode)
          fun info parameters => { info with parameters } := fun _ _ => rfl
      have hparameters := Json.decodeList_changeItem (decode_parameter h) index
      exact hreads.decode_changeField hparameters {} document
  | response status =>
      have hreads : ApiInfo.decoder.Reads "responses" (Json.decodeMap Response.decode)
          fun info responses => { info with responses } := fun _ _ => rfl
      have hresponses := Json.decodeMap_changeMember (decode_response h) status
      exact hreads.decode_changeField hresponses {} document

theorem decode_changeOf (api : String) (place : SchemaPlace) (bundle : Json) :
    ApiDocs.decode (place.changeOf api f bundle) =
      ApiDocs.decode (place.changeOf api g bundle) := by
  have hapis := Json.decodeMap_changeMember (decode_change h place) api
  exact ApiDocs.reads_apis.decode_changeField hapis {} bundle

end Alike

end SchemaPlace

end ApiTypings
