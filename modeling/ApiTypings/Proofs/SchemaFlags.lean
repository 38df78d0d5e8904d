import ApiTypings.Proofs.SchemaPaths

/-!
# Flags of schemas

`required` and `deprecated` are the flags of a schema. A flag that is not a boolean reads as
if it were not there, however deep in a document the schema stands and whatever is wrong
elsewhere in the document (`flag_reads_as_absent`).
-/

namespace ApiTypings

/-! ## Flags -/

inductive SchemaFlag where
  | required
  | deprecated
deriving Repr, DecidableEq

namespace SchemaFlag

def name : SchemaFlag → String
  | required => "required"
  | deprecated => "deprecated"

def value? : SchemaFlag → Schema → Option Bool
  | required, schema => schema.required
  | deprecated, schema => schema.deprecated

/-- Whether a flag makes a property optional, or deprecated. -/
def marks : SchemaFlag → Schema → Bool
  | required, schema => schema.isOptional
  | deprecated, schema => schema.isDeprecated

theorem sets (flag : SchemaFlag) :
    Schema.decoder.Sets flag.name (fun value => .ok value.bool?) flag.value? := by
  cases flag with
  | required => exact Schema.sets_required
  | deprecated => exact Schema.sets_deprecated

theorem marks_of_absent {flag : SchemaFlag} {schema : Schema} (h : flag.value? schema = none) :
    flag.marks schema = false := by
  cases flag with
  | required =>
      have habsent : schema.required = none := h
      rw [marks, Schema.isOptional, habsent]
      rfl
  | deprecated =>
      have habsent : schema.deprecated = none := h
      rw [marks, Schema.isDeprecated, habsent]
      rfl

/-- A value that is no boolean sets nothing in a schema without the flag. -/
theorem set_of_absent {flag : SchemaFlag} {value : Json} (hvalue : value.bool? = none)
    {schema : Schema} (h : flag.value? schema = none) :
    Schema.decoder.set flag.name value schema = .ok schema := by
  cases schema with
  | mk kind properties items titles description deprecated required sample fallback =>
      cases flag with
      | required =>
          obtain rfl : required = none := h
          simp [Schema.decoder, Schema.setField, name, hvalue]
      | deprecated =>
          obtain rfl : deprecated = none := h
          simp [Schema.decoder, Schema.setField, name, hvalue]

/-! ### Values that are no booleans -/

def replace (flag : SchemaFlag) (value : Json) : Json → Json :=
  Json.changeMember flag.name fun _ => value

def drop (flag : SchemaFlag) : Json → Json :=
  Json.dropMember flag.name

variable {flag : SchemaFlag} {value : Json} (hvalue : value.bool? = none)

include hvalue

theorem readAlike_drop (document : Json) :
    ReadAlike (flag.replace value document) (flag.drop document) := by
  constructor
  · rw [replace, drop, Json.changeMember_eq_null_iff, Json.dropMember_eq_null_iff]
  · rw [Schema.decode_eq, Schema.decode_eq]
    cases document with
    | object members =>
        have hdefault : flag.value? {} = none := by cases flag <;> rfl
        exact flag.sets.ofMembers_changeEntry_eq_eraseP
          (fun schema habsent => set_of_absent hvalue habsent) members hdefault
    | null | bool | number | string | array => rfl

/-- A schema that is read from an object with such a value does not have the flag. -/
theorem value?_of_decode {members : List (String × Json)} {schema : Schema}
    (hdistinct : (flag.replace value (.object members)).NamesDistinct)
    (h : Schema.decode (flag.replace value (.object members)) = .ok schema) :
    flag.value? schema = none := by
  rw [Schema.decode_eq] at h
  have hnames := Schema.decoder.entries_nodup (by decide) hdistinct
  rcases flag.sets.decode hnames h with ⟨-, hdefault⟩ | ⟨other, hfield, hread⟩
  · rw [hdefault]
    cases flag <;> rfl
  · have hother : (valueAt? flag.name members).map (fun _ => value) = some other := by
      rw [← valueAt?_changeEntry]
      exact hfield
    obtain ⟨-, -, rfl⟩ := Option.map_eq_some_iff.mp hother
    rw [← Except.ok.inj hread, hvalue]

end SchemaFlag

/-- **Flags that are no booleans.** A schema in which a flag is no boolean is read as if it did
not have the flag, whatever stands around it: where a way leads from another schema, and in an
API document or a bundle. And the schema that is read there is neither optional nor
deprecated. -/
theorem flag_reads_as_absent (flag : SchemaFlag) {value : Json} (hvalue : value.bool? = none)
    (path : SchemaPath) (document : Json) :
    Schema.decode (document.changeSchema (flag.replace value) path) =
        Schema.decode (document.changeSchema flag.drop path) ∧
      (∀ place : SchemaPlace,
        ApiInfo.decode (place.change (Json.changeSchema (flag.replace value) path) document) =
            ApiInfo.decode (place.change (Json.changeSchema flag.drop path) document) ∧
          ∀ api, ApiDocs.decode
              (place.changeOf api (Json.changeSchema (flag.replace value) path) document) =
            ApiDocs.decode (place.changeOf api (Json.changeSchema flag.drop path) document)) ∧
      ∀ members schema, document.schemaAt? path = some (.object members) →
        (document.changeSchema (flag.replace value) path).NamesDistinct →
        Schema.decode (document.changeSchema (flag.replace value) path) = .ok schema →
          ∃ node, schema.at? path = some node ∧ flag.marks node = false := by
  have halike : ∀ inside : Json, ReadAlike (inside.changeSchema (flag.replace value) path)
      (inside.changeSchema flag.drop path) :=
    ReadAlike.changeSchema (SchemaFlag.readAlike_drop hvalue) path
  refine ⟨(halike document).decode_eq, fun place => ⟨?_, fun api => ?_⟩, ?_⟩
  · exact SchemaPlace.decode_change halike place document
  · exact SchemaPlace.decode_changeOf halike api place document
  · intro members schema hobject hdistinct hdecode
    have hnode : (document.changeSchema (flag.replace value) path).schemaAt? path =
        some (flag.replace value (.object members)) := by
      rw [Json.schemaAt?_changeSchema, hobject]
      rfl
    obtain ⟨node, hat, hread⟩ := decode_schemaAt? hdistinct hnode Json.noConfusion hdecode
    have hnames := namesDistinct_schemaAt? hdistinct hnode
    have habsent := SchemaFlag.value?_of_decode hvalue hnames hread
    exact ⟨node, hat, SchemaFlag.marks_of_absent habsent⟩

/-- A list of tags, and what is said about tags being required. -/
def tagsDocument (required : Json) : Json :=
  .object [("type", .string "object"),
    ("properties", .object [("tags", .object [("type", .string "array"),
      ("items", .object [("required", required), ("type", .string "object")])])])]

theorem tagsDocument_namesDistinct {required : Json} (h : required.NamesDistinct) :
    (tagsDocument required).NamesDistinct := by
  have hitems : (Json.object [("required", required), ("type", .string "object")]).NamesDistinct :=
    .object (by simp) (List.forall_mem_cons.mpr
      ⟨h, List.forall_mem_singleton.mpr (.string "object")⟩)
  have htags : (Json.object [("type", .string "array"), ("items", .object
      [("required", required), ("type", .string "object")])]).NamesDistinct :=
    .object (by simp) (List.forall_mem_cons.mpr
      ⟨.string "array", List.forall_mem_singleton.mpr hitems⟩)
  refine .object (by simp) (List.forall_mem_cons.mpr ⟨.string "object", ?_⟩)
  exact List.forall_mem_singleton.mpr (.object (by simp) (List.forall_mem_singleton.mpr htags))

/-- Tags that are optional are not if `required` is a list of names instead. -/
theorem flag_reads_as_absent_tags :
    (Json.array [.string "key"]).bool? = none ∧
      Schema.decode (tagsDocument (.array [.string "key"])) =
        Schema.decode ((tagsDocument (.bool false)).changeSchema (SchemaFlag.drop .required)
          [.property "tags", .items]) ∧
      ∃ schema node, Schema.decode (tagsDocument (.array [.string "key"])) = .ok schema ∧
        schema.at? [.property "tags", .items] = some node ∧ node.isOptional = false := by
  have hvalue : (Json.array [.string "key"]).bool? = none := rfl
  have hdistinct : (tagsDocument (.array [.string "key"])).NamesDistinct :=
    tagsDocument_namesDistinct (.array (List.forall_mem_singleton.mpr (.string "key")))
  obtain ⟨schema, hschema⟩ :
      ∃ schema, Schema.decode (tagsDocument (.array [.string "key"])) = .ok schema := by
    have hread : (Schema.decode (tagsDocument (.array [.string "key"]))).toOption.isSome := by
      decide +kernel
    obtain ⟨schema, hschema⟩ := Option.isSome_iff_exists.mp hread
    exact ⟨schema, toOption_eq_some_iff.mp hschema⟩
  obtain ⟨hequal, -, hmarks⟩ := flag_reads_as_absent .required hvalue
    [.property "tags", .items] (tagsDocument (.bool false))
  obtain ⟨node, hnode, hnot⟩ := hmarks _ schema rfl hdistinct hschema
  exact ⟨hvalue, hequal, schema, node, hschema, hnode, hnot⟩

end ApiTypings
