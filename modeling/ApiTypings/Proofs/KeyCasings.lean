import ApiTypings.Proofs.DeclaredNames
import ApiTypings.Proofs.PropertyKeys
import ApiTypings.Proofs.TextParts

/-!
# The casing of keys

A property goes through the walk under two names. Its name as it stands makes the names of
interfaces and enums; its cased name makes its key, and decides whether it is passed over.
Where the casing tells all names beside each other apart, nothing is passed over, and the
casing shows in the keys alone: the declarations are those of one raw generation, whose
keys are the names as they stand, with each key cased and written (`generate_keyCasing`).
-/

namespace ApiTypings

/-- No two of the names are cased alike. -/
def KeyCasing.TellsApart (casing : KeyCasing) (names : List String) : Prop :=
  (names.map casing.apply).Nodup

instance (casing : KeyCasing) (names : List String) : Decidable (casing.TellsApart names) :=
  inferInstanceAs (Decidable (List.Nodup _))

namespace KeyCasing

/-- Names that are cased to different names are different. -/
theorem TellsApart.auto {casing : KeyCasing} {names : List String}
    (h : casing.TellsApart names) : KeyCasing.auto.TellsApart names := by
  have hnames : names.map KeyCasing.auto.apply = names := List.map_id names
  rw [TellsApart, hnames]
  exact h.of_map _

theorem tellsApart_cons {casing : KeyCasing} {name : String} {names : List String}
    (h : casing.TellsApart (name :: names)) :
    (∀ other ∈ names, propertyKey casing other ≠ propertyKey casing name) ∧
      casing.TellsApart names := by
  obtain ⟨hname, hnames⟩ := List.nodup_cons.mp h
  refine ⟨fun other hother heq => hname ?_, hnames⟩
  rw [← (propertyKey_eq_iff casing other name).mp heq]
  exact List.mem_map_of_mem hother

end KeyCasing

/-! ## Names beside each other -/

mutual
/-- The names of the fields of each object in a shape, an object before those inside it. -/
def Shape.siblings : Shape → List (List String)
  | .primitive _ | .enumeration _ | .unknown => []
  | .arrayOf items => items.siblings
  | .objectWith fields => fields.map Field.name :: Shape.siblingsInEach fields

def Shape.siblingsInEach : List Field → List (List String)
  | [] => []
  | .mk _ _ _ shape :: rest => shape.siblings ++ Shape.siblingsInEach rest
end

/-- The names in the objects of a response; one that is no object is not looked into. -/
def responseSiblings : Option Shape → List (List String)
  | some (.objectWith fields) => (Shape.objectWith fields).siblings
  | _ => []

def ApiInfo.siblings (info : ApiInfo) : List (List String) :=
  responseSiblings (info.successSchema.map Schema.shape) ++
    (Shape.objectWith (info.parameters.map Parameter.toField)).siblings

def KeyCasing.TellsAllApart (casing : KeyCasing) (siblings : List (List String)) : Prop :=
  ∀ names ∈ siblings, casing.TellsApart names

instance (casing : KeyCasing) (siblings : List (List String)) :
    Decidable (casing.TellsAllApart siblings) :=
  inferInstanceAs (Decidable (∀ names ∈ siblings, casing.TellsApart names))

/-! ## The raw walk -/

def RenderOptions.withKeyCasing (options : RenderOptions) (keyCasing : KeyCasing) :
    RenderOptions :=
  { options with keyCasing }

def Declaration.keys? : Declaration → Option (List String)
  | .interface _ properties => some (properties.map Property.key)
  | .alias _ _ => none

def Declarations.mapKeys (f : String → String) (decls : Declarations) : Declarations where
  enums := decls.enums
  interfaces := decls.interfaces.map (Declaration.mapKeys f)

variable (api : String) (options : RenderOptions)

/- The raw walk is found before the casing is chosen, and with it all names: the existence
comes first, and what is found holds for every casing that tells the names apart. -/
mutual
theorem walkShape_raw (registry : Registry) (property : String)
    (description : Option String) : ∀ shape : Shape,
    ∃ (type : TypeExpr) (after : Registry) (declared : List Declaration),
      declared.filterMap Declaration.keys? = shape.siblings ∧
      ∀ casing : KeyCasing, casing.TellsAllApart shape.siblings →
        walkShape api (options.withKeyCasing casing) registry property description shape =
          ⟨type, after, declared.map (Declaration.mapKeys (propertyKey casing))⟩
  | .primitive kind => by
      refine ⟨.primitive kind, registry, [], ?_, fun casing _ => ?_⟩
      · rw [Shape.siblings]
        rfl
      · rw [walkShape]
        rfl
  | .unknown => by
      refine ⟨.any, registry, [], ?_, fun casing _ => ?_⟩
      · rw [Shape.siblings]
        rfl
      · rw [walkShape]
        rfl
  | .enumeration titles => by
      let request := registry.requestEnum options (enumName property) titles description
      refine ⟨request.1, request.2, [], ?_, fun casing _ => ?_⟩
      · rw [Shape.siblings]
        rfl
      · rw [walkShape]
        rfl
  | .arrayOf items => by
      obtain ⟨type, after, declared, hsiblings, hwalk⟩ :=
        walkShape_raw registry property description items
      rw [Shape.siblings]
      refine ⟨.array type, after, declared, hsiblings, fun casing hcasing => ?_⟩
      rw [walkShape, hwalk casing hcasing]
  | .objectWith fields => by
      let named := registry.allocate (api ++ typeSegment property)
      obtain ⟨properties, after, declared, hnames, hsiblings, hwalk⟩ :=
        walkFields_raw named.2 fields
      rw [Shape.siblings]
      refine ⟨.interface named.1, after, .interface named.1 properties :: declared, ?_,
        fun casing hcasing => ?_⟩
      · rw [List.filterMap_cons, Declaration.keys?, hnames, hsiblings]
      · obtain ⟨hfields, hinside⟩ := List.forall_mem_cons.mp hcasing
        rw [walkShape, hwalk casing [] (fun _ _ => List.not_mem_nil) hfields hinside]
        rfl
/-- What is seen before the fields makes no difference, as long as none of their keys is
among it. -/
theorem walkFields_raw (registry : Registry) : ∀ fields : List Field,
    ∃ (properties : List Property) (after : Registry) (declared : List Declaration),
      properties.map Property.key = fields.map Field.name ∧
      declared.filterMap Declaration.keys? = Shape.siblingsInEach fields ∧
      ∀ (casing : KeyCasing) (seen : List String),
        (∀ name ∈ fields.map Field.name, propertyKey casing name ∉ seen) →
        casing.TellsApart (fields.map Field.name) →
        casing.TellsAllApart (Shape.siblingsInEach fields) →
        walkFields api (options.withKeyCasing casing) registry seen fields =
          ⟨properties.map (Property.mapKey (propertyKey casing)), after,
            declared.map (Declaration.mapKeys (propertyKey casing))⟩
  | [] => by
      refine ⟨[], registry, [], rfl, ?_, fun casing seen _ _ _ => ?_⟩
      · rw [Shape.siblingsInEach]
        rfl
      · rw [walkFields]
        rfl
  | .mk name optional note shape :: rest => by
      obtain ⟨type, between, declared, hsiblings, hshape⟩ :=
        walkShape_raw registry name note.description shape
      obtain ⟨properties, after, others, hnames, hsiblings', hrest⟩ :=
        walkFields_raw between rest
      rw [Shape.siblingsInEach]
      refine ⟨⟨DocBlock.ofNote options.comments note, name, optional, type⟩ :: properties,
        after, declared ++ others, ?_, ?_, fun casing seen hseen hapart hinside => ?_⟩
      · rw [List.map_cons, List.map_cons, hnames]
        rfl
      · rw [List.filterMap_append, hsiblings, hsiblings']
      · obtain ⟨hfirst, hseen⟩ := List.forall_mem_cons.mp hseen
        obtain ⟨hother, hapart⟩ := KeyCasing.tellsApart_cons hapart
        obtain ⟨hinside, hinside'⟩ := List.forall_mem_append.mp hinside
        have hfree : ¬ seen.contains (propertyKey casing name) := fun h =>
          hfirst (List.contains_iff_mem.mp h)
        -- no key of the rest has been seen, nor is it the key that is written now
        have hnew : ∀ other ∈ rest.map Field.name,
            propertyKey casing other ∉ propertyKey casing name :: seen := fun other hmem =>
          List.not_mem_cons_of_ne_of_not_mem (hother other hmem) (hseen other hmem)
        have hkeys : (options.withKeyCasing casing).keyCasing = casing := rfl
        rw [walkFields, hkeys, if_neg hfree, hshape casing hinside]
        simp only
        rw [hrest casing _ hnew hapart hinside', List.map_append]
        rfl
end

theorem walkInterface_raw (registry : Registry) (base : String) (fields : List Field) :
    ∃ (name : String) (after : Registry) (declared : List Declaration),
      declared.filterMap Declaration.keys? = (Shape.objectWith fields).siblings ∧
      ∀ casing : KeyCasing, casing.TellsAllApart (Shape.objectWith fields).siblings →
        walkInterface api (options.withKeyCasing casing) registry base fields =
          ⟨name, after, declared.map (Declaration.mapKeys (propertyKey casing))⟩ := by
  let named := registry.allocate base
  obtain ⟨properties, after, declared, hnames, hsiblings, hwalk⟩ :=
    walkFields_raw api options named.2 fields
  rw [Shape.siblings]
  refine ⟨named.1, after, .interface named.1 properties :: declared, ?_,
    fun casing hcasing => ?_⟩
  · rw [List.filterMap_cons, Declaration.keys?, hnames, hsiblings]
  · obtain ⟨hfields, hinside⟩ := List.forall_mem_cons.mp hcasing
    rw [walkInterface, hwalk casing [] (fun _ _ => List.not_mem_nil) hfields hinside]
    rfl

theorem walkResponse_raw (registry : Registry) (shape : Option Shape) :
    ∃ (name : String) (after : Registry) (declared : List Declaration),
      declared.filterMap Declaration.keys? = responseSiblings shape ∧
      ∀ casing : KeyCasing, casing.TellsAllApart (responseSiblings shape) →
        walkResponse api (options.withKeyCasing casing) registry shape =
          ⟨name, after, declared.map (Declaration.mapKeys (propertyKey casing))⟩ := by
  let named := registry.allocate (api ++ "Response")
  -- an alias has no properties, so no casing changes it
  have halias : ∃ (name : String) (after : Registry) (declared : List Declaration),
      declared.filterMap Declaration.keys? = [] ∧
      ∀ casing : KeyCasing, casing.TellsAllApart [] →
        (⟨named.1, named.2, [.alias named.1 (aliasType shape)]⟩ : Walk String) =
          ⟨name, after, declared.map (Declaration.mapKeys (propertyKey casing))⟩ :=
    ⟨_, _, [.alias named.1 (aliasType shape)], rfl, fun _ _ => rfl⟩
  cases shape with
  | none => exact halias
  | some shape =>
      cases shape with
      | objectWith fields => exact walkInterface_raw api options registry _ fields
      | primitive | enumeration | arrayOf | unknown => exact halias

/-! ## The raw generation -/

variable (info : ApiInfo)

/-- **One raw generation for all casings.** Its keys are the names as they stand. -/
theorem exists_raw : ∃ raw : Declarations,
    raw.interfaces.filterMap Declaration.keys? = info.siblings ∧
    ∀ casing : KeyCasing, casing.TellsAllApart info.siblings →
      generate api (options.withKeyCasing casing) info = raw.mapKeys (propertyKey casing) := by
  obtain ⟨name, between, declared, hresponseKeys, hresponse⟩ :=
    walkResponse_raw api options (Registry.empty options) (info.successSchema.map Schema.shape)
  obtain ⟨name', after, others, hparameterKeys, hparameters⟩ :=
    walkInterface_raw api options between (api ++ "Parameters")
      (info.parameters.map Parameter.toField)
  refine ⟨⟨after.enums, declared ++ others⟩, ?_, fun casing hcasing => ?_⟩
  · rw [List.filterMap_append, hresponseKeys, hparameterKeys, ApiInfo.siblings]
  · obtain ⟨hfirst, hsecond⟩ := List.forall_mem_append.mp hcasing
    have hresponse : responseWalk api (options.withKeyCasing casing) info =
        ⟨name, between, declared.map (Declaration.mapKeys (propertyKey casing))⟩ :=
      hresponse casing hfirst
    have hparameters : parametersWalk api (options.withKeyCasing casing) info =
        ⟨name', after, others.map (Declaration.mapKeys (propertyKey casing))⟩ := by
      rw [parametersWalk, hresponse]
      exact hparameters casing hsecond
    rw [generate_eq_walk, hresponse, hparameters, Declarations.mapKeys, List.map_append]

theorem Declarations.interfaceNames_mapKeys (f : String → String) (decls : Declarations) :
    (decls.mapKeys f).interfaceNames = decls.interfaceNames := by
  rw [interfaceNames, mapKeys, List.map_map]
  exact List.map_congr_left fun decl _ => decl.name_mapKeys f

theorem Declarations.interfaceTexts_mapKeys (f : String → String) (exported : Bool)
    (decls : Declarations) :
    (decls.mapKeys f).interfaceTexts exported =
      decls.interfaces.map (fun decl =>
        partsText ((decl.parts exported).map (TextPart.mapKey f))) := by
  rw [interfaceTexts, mapKeys, List.map_map]
  refine List.map_congr_left fun decl _ => ?_
  rw [Function.comp_apply, ← Declaration.text_parts, Declaration.parts_mapKeys]

/-- **The casing shows in the keys alone.** Where a casing tells names beside each other
apart, there is one raw generation, whose keys are the names as they stand, such that both
the casing and `auto` give its declarations with each key cased and written. The enums and
all names are the same, and so is each interface, part by part, up to its keys. -/
theorem generate_keyCasing (casing : KeyCasing) (hcasing : casing.TellsAllApart info.siblings) :
    let cased := generate api (options.withKeyCasing casing) info
    let auto := generate api (options.withKeyCasing .auto) info
    cased.enums = auto.enums ∧ cased.enumNames = auto.enumNames ∧
      cased.interfaceNames = auto.interfaceNames ∧
      ∃ raw : Declarations,
        raw.interfaces.filterMap Declaration.keys? = info.siblings ∧
        cased = raw.mapKeys (propertyKey casing) ∧
        auto = raw.mapKeys (propertyKey .auto) ∧
        ∀ exported,
          cased.enumTexts exported = auto.enumTexts exported ∧
          cased.interfaceTexts exported = raw.interfaces.map (fun decl =>
            partsText ((decl.parts exported).map (TextPart.mapKey (propertyKey casing)))) ∧
          auto.interfaceTexts exported = raw.interfaces.map (fun decl =>
            partsText ((decl.parts exported).map (TextPart.mapKey (propertyKey .auto)))) := by
  intro cased auto
  obtain ⟨raw, hkeys, hraw⟩ := exists_raw api options info
  -- what a casing tells apart is different as it stands
  have hauto : KeyCasing.auto.TellsAllApart info.siblings :=
    fun names hnames => (hcasing names hnames).auto
  have hcased : cased = raw.mapKeys (propertyKey casing) := hraw casing hcasing
  have hauto : auto = raw.mapKeys (propertyKey .auto) := hraw .auto hauto
  have henums : cased.enums = auto.enums := by
    rw [hcased, hauto]
    rfl
  refine ⟨henums, congrArg (List.map EnumDecl.name) henums, ?_, raw, hkeys, hcased, hauto,
    fun exported => ⟨congrArg (List.map (EnumDecl.text exported)) henums, ?_, ?_⟩⟩
  · rw [hcased, hauto, Declarations.interfaceNames_mapKeys, Declarations.interfaceNames_mapKeys]
  · rw [hcased, Declarations.interfaceTexts_mapKeys]
  · rw [hauto, Declarations.interfaceTexts_mapKeys]

/-- The parameters of `Job` have an object in them, and its fields begin with a capital. -/
def jobFilterInfo : ApiInfo :=
  let filter : Schema := {
    kind := some "object"
    properties := some [("RegionId", { kind := some "string" }),
      ("X-Id", { kind := some "integer" })] }
  { parameters := [{ name := "Filter", schema := some filter }] }

/-- The interface of the object `Filter` has that name under any casing, whereas the key of
the object, and those in it, are cased. -/
theorem generate_keyCasing_filter :
    KeyCasing.lowerFirst.TellsAllApart jobFilterInfo.siblings ∧
      (generate "Job" (RenderOptions.withKeyCasing {} .lowerFirst) jobFilterInfo).interfaceNames =
        ["JobResponse", "JobParameters", "JobFilter"] ∧
      (generate "Job" (RenderOptions.withKeyCasing {} .lowerFirst) jobFilterInfo).interfaceTexts
          false =
        ["type JobResponse = any;\n",
          "interface JobParameters \x7b\n  filter: JobFilter;\n\x7d\n",
          "interface JobFilter \x7b\n  regionId: string;\n  'x-Id': number;\n\x7d\n"] := by
  have happlied : KeyCasing.lowerFirst.TellsAllApart jobFilterInfo.siblings := by decide
  obtain ⟨-, -, hnames, -⟩ := generate_keyCasing "Job" {} jobFilterInfo .lowerFirst happlied
  refine ⟨happlied, ?_, by decide⟩
  rw [hnames]
  decide

end ApiTypings
