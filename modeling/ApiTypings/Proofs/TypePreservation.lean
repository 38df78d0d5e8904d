import ApiTypings.Proofs.DataType
import ApiTypings.Proofs.FirstOfKey
import ApiTypings.Proofs.References

/-!
# Types are preserved

The declarations of an API say about its data what its schemas say. For a part of the
walk this holds under any list of declarations that has those the walk has met
(`walkShape_denotes`), so it carries over to the whole list, where all names are
different and every reference has one reading.
-/

namespace ApiTypings

/-! ## Entries with keys not seen before -/

def unseenEntries (seen : List String) (entries : List (RecordEntry DataType)) :
    List (RecordEntry DataType) :=
  entries.filter fun entry => !seen.contains (keyText entry.key)

def writtenKey (entry : RecordEntry DataType) : String :=
  keyText entry.key

theorem unseenEntries_eq_unseen (seen : List String) (entries : List (RecordEntry DataType)) :
    unseenEntries seen entries = unseen writtenKey seen entries := rfl

theorem unseenEntries_nil (entries : List (RecordEntry DataType)) :
    unseenEntries [] entries = entries :=
  unseen_none writtenKey entries

theorem unseenEntries_cons_seen {seen : List String} {key : String}
    (h : seen.contains (keyText key)) (optional : Bool) (type : DataType)
    (rest : List (RecordEntry DataType)) :
    unseenEntries seen (⟨key, optional, type⟩ :: rest) = unseenEntries seen rest := by
  have hseen : seen.contains (writtenKey ⟨key, optional, type⟩) := h
  rw [unseenEntries_eq_unseen, unseen_cons_seen writtenKey hseen, unseenEntries_eq_unseen]

/-- Keys are compared as they are, which is as good as comparing what is written. -/
theorem eraseDupsBy_sameKey (entries : List (RecordEntry DataType)) :
    entries.eraseDupsBy RecordEntry.sameKey = firstOfKey writtenKey entries := by
  have hsame : @RecordEntry.sameKey DataType =
      fun entry other => writtenKey entry == writtenKey other := by
    funext entry other
    rw [writtenKey, writtenKey, keyText_beq, RecordEntry.sameKey]
  rw [hsame, firstOfKey]

/-- To pass over the keys that have been seen is to keep the first entry of each key. -/
theorem eraseDupsBy_unseenEntries_cons {seen : List String} {key : String}
    (h : ¬ seen.contains (keyText key)) (optional : Bool) (type : DataType)
    (rest : List (RecordEntry DataType)) :
    (unseenEntries seen (⟨key, optional, type⟩ :: rest)).eraseDupsBy RecordEntry.sameKey =
      ⟨key, optional, type⟩ ::
        (unseenEntries (keyText key :: seen) rest).eraseDupsBy RecordEntry.sameKey := by
  have hunseen : ¬ seen.contains (writtenKey ⟨key, optional, type⟩) := h
  rw [eraseDupsBy_sameKey, eraseDupsBy_sameKey, unseenEntries_eq_unseen,
    firstOfKey_unseen_cons writtenKey hunseen, unseenEntries_eq_unseen, writtenKey]

/-! ## Types of a walk -/

variable (api : String) (options : RenderOptions)

theorem requestEnum_denotes (hoff : options.unionToEnum = false) (registry : Registry)
    (name : String) (titles : Titles) (description : Option String)
    (decls : List Declaration) :
    Denotes decls (registry.requestEnum options name titles description).1
      (Shape.dataType options.keyCasing (.enumeration titles)) := by
  have hcases := registry.requestEnum_cases options name titles description
  generalize registry.requestEnum options name titles description = request at hcases ⊢
  rw [Shape.dataType]
  cases hcases with
  | string hempty =>
      rw [hempty]
      exact .primitive .string
  | literals hvalues =>
      rw [if_neg (by simpa using hvalues)]
      exact .literals _
  | repeated _ hon | declared _ hon => simp [hoff] at hon

mutual
theorem walkShape_denotes (hoff : options.unionToEnum = false) {decls : List Declaration}
    (registry : Registry) (property : String) (description : Option String) :
    ∀ shape : Shape,
    (walkShape api options registry property description shape).declared ⊆ decls →
      Denotes decls (walkShape api options registry property description shape).result
        (shape.dataType options.keyCasing)
  | .primitive kind, _ => by
      rw [walkShape, Shape.dataType]
      exact .primitive kind
  | .unknown, _ => by
      rw [walkShape, Shape.dataType]
      exact .any
  | .enumeration titles, _ => by
      rw [walkShape]
      exact requestEnum_denotes options hoff registry _ titles description decls
  | .arrayOf items, hdecls => by
      rw [walkShape] at hdecls ⊢
      rw [Shape.dataType]
      exact .array (walkShape_denotes hoff registry property description items hdecls)
  | .objectWith fields, hdecls => by
      rw [walkShape] at hdecls ⊢
      rw [Shape.dataType, DataType.recordOf]
      obtain ⟨hdecl, hbody⟩ := List.cons_subset.mp hdecls
      have hall := walkFields_denote hoff _ [] fields hbody
      rw [unseenEntries_nil] at hall
      exact .record hdecl hall
theorem walkFields_denote (hoff : options.unionToEnum = false) {decls : List Declaration}
    (registry : Registry) (seen : List String) : ∀ fields : List Field,
    (walkFields api options registry seen fields).declared ⊆ decls →
      DenoteAll decls (walkFields api options registry seen fields).result
        ((unseenEntries seen (Shape.entriesOf options.keyCasing fields)).eraseDupsBy
          RecordEntry.sameKey)
  | [], _ => by
      rw [walkFields, Shape.entriesOf]
      exact .nil
  | .mk name _ note shape :: rest, hdecls => by
      rw [walkFields, propertyKey_eq_keyText] at hdecls ⊢
      rw [Shape.entriesOf]
      by_cases hseen : seen.contains (keyText (options.keyCasing.apply name))
      · rw [if_pos hseen] at hdecls ⊢
        rw [unseenEntries_cons_seen hseen]
        exact walkFields_denote hoff registry seen rest hdecls
      · rw [if_neg hseen] at hdecls ⊢
        rw [eraseDupsBy_unseenEntries_cons hseen]
        obtain ⟨htype, hrest⟩ := List.append_subset.mp hdecls
        exact .cons (walkShape_denotes hoff registry name note.description shape htype)
          (walkFields_denote hoff _ _ rest hrest)
end

theorem walkInterface_denotes (hoff : options.unionToEnum = false)
    {decls : List Declaration} (registry : Registry) (base : String) (fields : List Field)
    (hdecls : (walkInterface api options registry base fields).declared ⊆ decls) :
    Denotes decls (.interface (walkInterface api options registry base fields).result)
      (.recordOf (Shape.entriesOf options.keyCasing fields)) := by
  obtain ⟨hdecl, hbody⟩ := List.cons_subset.mp hdecls
  have hall := walkFields_denote api options hoff _ [] fields hbody
  rw [unseenEntries_nil] at hall
  exact .record hdecl hall

theorem walkResponse_denotes (hoff : options.unionToEnum = false)
    {decls : List Declaration} (registry : Registry) (shape : Option Shape)
    (hdecls : (walkResponse api options registry shape).declared ⊆ decls) :
    Denotes decls (.interface (walkResponse api options registry shape).result)
      (.declaredAs (shape.map (Shape.dataType options.keyCasing))) := by
  cases shape with
  | none => exact .synonym (hdecls List.mem_cons_self) .any
  | some shape =>
      cases shape with
      | objectWith fields =>
          exact walkInterface_denotes api options hoff registry _ fields hdecls
      | primitive kind => exact .synonym (hdecls List.mem_cons_self) (.primitive kind)
      | enumeration titles =>
          have hstring : DataType.declaredAs
              (some (Shape.dataType options.keyCasing (.enumeration titles))) =
                .token "string" := by
            rw [Shape.dataType]
            cases titles <;> rfl
          rw [Option.map_some, hstring]
          exact .synonym (hdecls List.mem_cons_self) (.primitive .string)
      | arrayOf | unknown => exact .synonym (hdecls List.mem_cons_self) .any

/-! ## Unions in arrays -/

theorem hasBar_append (front : List Char) {text : List Char} (h : TypeExpr.hasBar text) :
    TypeExpr.hasBar (front ++ text) := by
  induction front with
  | nil => exact h
  | cons c front ih =>
      rw [List.cons_append, TypeExpr.hasBar.eq_def]
      split
      · rfl
      · rename_i heq
        injection heq with _ hrest
        rw [← hrest]
        exact ih
      · rename_i heq
        exact nomatch heq

theorem hasBar_literalsText {values : List String} (h : 2 ≤ values.length) :
    TypeExpr.hasBar (TypeExpr.literalsText values).toList := by
  match values, h with
  | value :: other :: rest, _ =>
      rw [TypeExpr.literalsText, List.map_cons, List.map_cons, String.intercalate_cons_cons,
        String.toList_append, String.toList_append, List.append_assoc]
      exact hasBar_append _ rfl

/-- **Brackets hold a union together.** The array of a union with several values is the
union in parentheses, and brackets behind it. -/
theorem text_array_literals {values : List String} (h : 2 ≤ values.length) :
    (TypeExpr.array (.literals values)).text =
      "(" ++ TypeExpr.literalsText values ++ ")[]" := by
  rw [TypeExpr.text]
  exact if_pos (hasBar_literalsText h)

/-! ## Types of an API -/

variable (info : ApiInfo)

/-- Where enums are not wanted there are none. -/
theorem generate_enums_eq_nil (hoff : options.unionToEnum = false) :
    (generate api options info).enums = [] := by
  rw [generate_eq_walk, parametersWalk_registry, List.eq_nil_iff_forall_not_mem]
  intro decl hmem
  have hwanted : options.unionToEnum = true := by
    rcases Registry.mem_enums_handleAll hmem with h | h
    · cases h
    · rcases List.mem_append.mp h with h | h
      · exact (enum_of_responseRequests api options info h).1
      · exact (enum_of_parametersRequests api options info h).1
  rw [hoff] at hwanted
  cases hwanted

theorem response_denotes (hoff : options.unionToEnum = false) :
    Denotes (generate api options info).interfaces
      (.interface (responseWalk api options info).result)
      (info.responseType options.keyCasing) := by
  have hshapes : info.successSchema.map (Schema.dataType options.keyCasing) =
      (info.successSchema.map Schema.shape).map (Shape.dataType options.keyCasing) := by
    rw [Option.map_map]
    exact congrArg (Option.map · info.successSchema)
      (funext fun schema => (schema.dataType_shape options.keyCasing).symm)
  rw [ApiInfo.responseType, hshapes]
  apply walkResponse_denotes api options hoff
  rw [generate_eq_walk]
  exact List.subset_append_left _ _

theorem parameters_denote (hoff : options.unionToEnum = false) :
    Denotes (generate api options info).interfaces
      (.interface (parametersWalk api options info).result)
      (info.parametersType options.keyCasing) := by
  have hfields : info.parameters.map Parameter.toField =
      Schema.fieldsOf (info.parameters.map fun parameter =>
        (parameter.name, parameter.schema.getD {})) := by
    rw [Schema.fieldsOf_eq_map, List.map_map]
    rfl
  rw [ApiInfo.parametersType, ← Schema.entriesOf_fieldsOf, ← hfields]
  apply walkInterface_denotes api options hoff
  rw [generate_eq_walk]
  exact List.subset_append_right _ _

/-- The type of data that is neither an enum nor an array: a reference is one to an
interface that is declared. -/
inductive TypeExpr.Plain (declared : List Declaration) : TypeExpr → Prop
  | any : Plain declared .any
  | primitive (kind : Primitive) : Plain declared (.primitive kind)
  | literals (values : List String) : Plain declared (.literals values)
  | interface {name : String} {properties : List Property}
      (hdecl : .interface name properties ∈ declared) : Plain declared (.interface name)

theorem TypeExpr.base_ne_array : ∀ type element : TypeExpr, type.base ≠ .array element
  | .any, _ | .primitive _, _ | .literals _, _ | .enumeration _, _ | .interface _, _ => nofun
  | .array inner, element => base_ne_array inner element

/-- Where enums are not wanted, every type inside brackets is plain. -/
theorem generate_bases_plain (hoff : options.unionToEnum = false) :
    ∀ type ∈ (generate api options info).bases,
      type.Plain (generate api options info).interfaces := by
  intro type hmem
  have hrefers := generate_refers api options info type hmem
  cases type with
  | any => exact .any
  | primitive kind => exact .primitive kind
  | literals values => exact .literals values
  | enumeration name =>
      have hon := hrefers.1
      rw [hoff] at hon
      cases hon
  | interface name =>
      obtain ⟨properties, hdecl⟩ := hrefers
      exact .interface hdecl
  | array element =>
      obtain ⟨outer, -, hbase⟩ := List.mem_map.mp hmem
      exact absurd hbase (outer.base_ne_array element)

/-- The declarations say of the data of an API what its schemas say. There is nothing but
interfaces and aliases, with different names and plain types inside all brackets. The
first declaration is that of the response; it stands for one data type, the one that the
schema of the response has, and so does the interface of the parameters. -/
structure Declarations.Faithful (decls : Declarations) (casing : KeyCasing)
    (info : ApiInfo) (response parameters : String) : Prop where
  enums : decls.enums = []
  texts (exported : Bool) :
    decls.interfaceTexts exported = decls.interfaces.map (Declaration.text exported)
  names : decls.interfaceNames.Nodup
  bases : ∀ type ∈ decls.bases, type.Plain decls.interfaces
  first : decls.interfaces.head?.map Declaration.name = some response
  response (data : DataType) :
    Denotes decls.interfaces (.interface response) data ↔ data = info.responseType casing
  parameters (data : DataType) :
    Denotes decls.interfaces (.interface parameters) data ↔
      data = info.parametersType casing

theorem responseWalk_head : (responseWalk api options info).declared.head?.map
    Declaration.name = some (responseWalk api options info).result := by
  rw [responseWalk, walkResponse.eq_def]
  split <;> rfl

/-- **Types are preserved.** Without enums, the declarations of an API say what its schemas
say, in a text where brackets hold unions together. -/
theorem generate_faithful (hoff : options.unionToEnum = false) :
    (generate api options info).Faithful options.keyCasing info
        (responseWalk api options info).result (parametersWalk api options info).result ∧
      ∀ values : List String, 2 ≤ values.length →
        (TypeExpr.array (.literals values)).text =
          "(" ++ TypeExpr.literalsText values ++ ")[]" := by
  have hnodup := generate_interface_names_nodup api options info
  have hresponse := response_denotes api options info hoff
  have hparameters := parameters_denote api options info hoff
  refine ⟨?_, fun values => text_array_literals⟩
  exact
    { enums := generate_enums_eq_nil api options info hoff
      texts := fun exported => rfl
      names := hnodup
      bases := generate_bases_plain api options info hoff
      first := by
        have hhead := responseWalk_head api options info
        rw [generate_eq_walk, List.head?_append_of_ne_nil]
        · exact hhead
        · intro hnil
          rw [hnil] at hhead
          cases hhead
      response := fun data =>
        ⟨fun h => h.unique hnodup hresponse, fun h => h ▸ hresponse⟩
      parameters := fun data =>
        ⟨fun h => h.unique hnodup hparameters, fun h => h ▸ hparameters⟩ }

/-- Two objects that ask for one interface name, the second of them in an array. -/
def jobTagsInfo : ApiInfo :=
  let titles : Titles := [("a", none), ("b", none)]
  let tags : Schema := {
    kind := some "object"
    properties := some [("tag", { kind := some "string", titles := some titles })] }
  let schema : Schema := {
    kind := some "object"
    properties := some [
      ("tag", { kind := some "object", properties := some [] }),
      ("Tag", { kind := some "array", items := some tags })] }
  { responses := [("200", { schema := some schema })] }

theorem generate_faithful_jobTags :
    ({ unionToEnum := false } : RenderOptions).unionToEnum = false ∧
      ∀ data, Denotes (generate "Job" { unionToEnum := false } jobTagsInfo).interfaces
          (.interface "JobResponse") data ↔
        data = .record [⟨"tag", false, .record []⟩,
          ⟨"Tag", false, .array (.record [⟨"tag", false, .union ["a", "b"]⟩])⟩] :=
  ⟨rfl, (generate_faithful "Job" _ jobTagsInfo rfl).1.response⟩

end ApiTypings
