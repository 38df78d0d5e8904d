import ApiTypings.Proofs.Places
import ApiTypings.Proofs.Pruning

/-!
# A parameter more

A parameter at the end comes last in every respect: the walk reaches it when the names,
the enums and the places of everything before it have been given out, and the only place
it finds open is that of the interface of the parameters. So the declarations with it are
those without it, with its property behind the others of that interface, and behind all of
them what its own schema adds (`generate_addParameter`). If its key is there before, it
adds nothing.
-/

namespace ApiTypings

def ApiInfo.addParameter (info : ApiInfo) (parameter : Parameter) : ApiInfo :=
  { info with parameters := info.parameters ++ [parameter] }

def ApiInfo.parameterKeys (casing : KeyCasing) (info : ApiInfo) : List String :=
  info.parameters.map fun parameter => propertyKey casing parameter.name

theorem ApiInfo.parameterKeys_eq (casing : KeyCasing) (info : ApiInfo) :
    info.parameterKeys casing =
      (info.parameters.map Parameter.toField).map (fieldKey casing) := by
  rw [parameterKeys, List.map_map]
  rfl

/-! ## What the walk over one property adds -/

variable (api : String) (options : RenderOptions)

/-- The type of a property, and the enums and interfaces that its shape adds to a session:
they stand behind those there were, the enums are asked for in the shape, and each
interface is that of one place in the shape. -/
structure Adds (session : Session) (property : String) (description : Option String)
    (shape : Shape) (type : TypeExpr) (enums : List EnumDecl)
    (interfaces : List Declaration) : Prop where
  typed : (typeOf api options session property description shape).1 = type
  declared : (typeOf api options session property description shape).2.registry.enums =
    session.registry.enums ++ enums
  placed : (typeOf api options session property description shape).2.slots =
    session.slots ++ interfaces.map some
  asked : ∀ decl ∈ enums, .enum decl ∈ requestsOfShape api options property description shape
  owned : Owned [type] interfaces

theorem exists_adds (session : Session) (property : String) (description : Option String)
    (shape : Shape) :
    ∃ enums,
      (walkShape api options session.registry property description shape).registry.enums =
        session.registry.enums ++ enums ∧
      Adds api options session property description shape
        (walkShape api options session.registry property description shape).result enums
        (walkShape api options session.registry property description shape).declared := by
  obtain ⟨enums, henums, hasked⟩ := session.registry.exists_enums_handleAll
    (requestsOfShape api options property description shape)
  rw [← walkShape_registry] at henums
  have htype := typeOf_eq_follow api options session property description shape
  refine ⟨enums, henums, ?_, ?_, ?_, hasked, walkShape_owned api options _ _ _ _⟩
  · rw [htype]
  · rw [htype]
    exact henums
  · rw [htype]
    rfl

/-! ## One field more -/

/-- A field whose key is there before changes nothing. -/
theorem walkFields_concat_seen (field : Field) (fields : List Field) (registry : Registry)
    (seen : List String)
    (h : fieldKey options.keyCasing field ∈ seen ∨
      fieldKey options.keyCasing field ∈ fields.map (fieldKey options.keyCasing)) :
    walkFields api options registry seen (fields ++ [field]) =
      walkFields api options registry seen fields := by
  induction fields generalizing registry seen with
  | nil =>
      have hseen : seen.contains (fieldKey options.keyCasing field) = true := by
        simpa using h
      cases field
      rw [List.nil_append, walkFields, walkFields]
      exact if_pos hseen
  | cons first rest ih =>
      rw [List.map_cons, List.mem_cons] at h
      cases first with
      | mk name optional note shape =>
          rw [List.cons_append, walkFields, walkFields]
          by_cases hseen : seen.contains (propertyKey options.keyCasing name)
          · rw [if_pos hseen, if_pos hseen]
            refine ih registry seen ?_
            rcases h with h | h | h
            · exact Or.inl h
            · exact Or.inl (h ▸ List.contains_iff_mem.mp hseen)
            · exact Or.inr h
          · rw [if_neg hseen, if_neg hseen]
            simp only
            rw [ih]
            rcases h with h | h | h
            · exact Or.inl (List.mem_cons_of_mem _ h)
            · exact Or.inl (h ▸ List.mem_cons_self)
            · exact Or.inr h

/-- A field with a new key adds its property behind the others, and what its shape declares
behind what they declare. -/
theorem walkFields_concat_new (field : Field) (fields : List Field) (registry : Registry)
    (seen : List String) (hseen : fieldKey options.keyCasing field ∉ seen)
    (hnew : fieldKey options.keyCasing field ∉ fields.map (fieldKey options.keyCasing)) :
    walkFields api options registry seen (fields ++ [field]) =
      let before := walkFields api options registry seen fields
      let last := walkShape api options before.registry field.name field.note.description
        field.shape
      ⟨before.result ++ [⟨DocBlock.ofNote options.comments field.note,
          fieldKey options.keyCasing field, field.optional, last.result⟩],
        last.registry, before.declared ++ last.declared⟩ := by
  induction fields generalizing registry seen with
  | nil =>
      cases field with
      | mk name optional note shape =>
          have hfree : ¬ seen.contains (propertyKey options.keyCasing name) := fun hmem =>
            hseen (List.contains_iff_mem.mp hmem)
          rw [List.nil_append, walkFields, walkFields, if_neg hfree]
          simp only [walkFields, List.append_nil, List.nil_append]
          rfl
  | cons first rest ih =>
      rw [List.map_cons, List.mem_cons, not_or] at hnew
      cases first with
      | mk name optional note shape =>
          rw [List.cons_append, walkFields, walkFields]
          by_cases hfirst : seen.contains (propertyKey options.keyCasing name)
          · rw [if_pos hfirst, if_pos hfirst]
            exact ih registry seen hseen hnew.2
          · have hseen' : fieldKey options.keyCasing field ∉
                propertyKey options.keyCasing name :: seen :=
              List.not_mem_cons_of_ne_of_not_mem hnew.1 hseen
            rw [if_neg hfirst, if_neg hfirst]
            simp only
            rw [ih _ _ hseen' hnew.2]
            simp only [List.cons_append, List.append_assoc]

/-! ## One parameter more -/

variable (info : ApiInfo) (parameter : Parameter)

/-- The interface of the parameters, in front of what is nested in it. -/
theorem parametersWalk_eq :
    parametersWalk api options info =
      let named := (responseWalk api options info).registry.allocate (api ++ "Parameters")
      let body := walkFields api options named.2 [] (info.parameters.map Parameter.toField)
      ⟨named.1, body.registry, .interface named.1 body.result :: body.declared⟩ :=
  rfl

theorem map_toField_addParameter :
    (info.addParameter parameter).parameters.map Parameter.toField =
      info.parameters.map Parameter.toField ++ [parameter.toField] :=
  List.map_append

theorem responseWalk_addParameter :
    responseWalk api options (info.addParameter parameter) = responseWalk api options info :=
  rfl

theorem parametersWalk_addParameter_seen
    (h : propertyKey options.keyCasing parameter.name ∈ info.parameterKeys options.keyCasing) :
    parametersWalk api options (info.addParameter parameter) =
      parametersWalk api options info := by
  rw [ApiInfo.parameterKeys_eq] at h
  have hwalk := walkFields_concat_seen api options parameter.toField
    (info.parameters.map Parameter.toField)
    ((responseWalk api options info).registry.allocate (api ++ "Parameters")).2 [] (Or.inr h)
  rw [parametersWalk_eq, parametersWalk_eq, map_toField_addParameter, responseWalk_addParameter]
  simp only [hwalk]

theorem parametersWalk_addParameter_new
    (h : propertyKey options.keyCasing parameter.name ∉ info.parameterKeys options.keyCasing) :
    parametersWalk api options (info.addParameter parameter) =
      let named := (responseWalk api options info).registry.allocate (api ++ "Parameters")
      let body := walkFields api options named.2 [] (info.parameters.map Parameter.toField)
      let last := walkShape api options body.registry parameter.name
        parameter.toField.note.description parameter.toField.shape
      ⟨named.1, last.registry,
        .interface named.1 (body.result ++ [⟨DocBlock.ofNote options.comments
          parameter.toField.note, propertyKey options.keyCasing parameter.name,
          parameter.toField.optional, last.result⟩]) :: (body.declared ++ last.declared)⟩ := by
  rw [ApiInfo.parameterKeys_eq] at h
  have hwalk := walkFields_concat_new api options parameter.toField
    (info.parameters.map Parameter.toField)
    ((responseWalk api options info).registry.allocate (api ++ "Parameters")).2 []
    List.not_mem_nil h
  rw [parametersWalk_eq, map_toField_addParameter, responseWalk_addParameter]
  simp only
  rw [hwalk]
  rfl

/-- The registry at the end of a generation is that of the walk over the parameters. -/
theorem generateSession_registry :
    (generateSession api options info).registry = (parametersWalk api options info).registry := by
  rw [generateSession_eq_walk]

/-- The response does not know the parameters. -/
theorem generate_parameters (parameters : List Parameter) :
    (responseWalk api options info).declared <+:
        (generate api options { info with parameters }).interfaces ∧
      (responseWalk api options info).registry.enums <+:
        (generate api options { info with parameters }).enums := by
  have hresponse : responseWalk api options { info with parameters } =
      responseWalk api options info := rfl
  rw [generate_eq_walk, hresponse]
  obtain ⟨enums, henums, -⟩ :=
    (parametersWalk_extends api options { info with parameters }).taken
  exact ⟨List.prefix_append _ _, enums, by rw [henums, hresponse]⟩

/-- A property behind the others of an interface is the end of its body. -/
theorem Declaration.text_interface_concat (exported : Bool) (name : String)
    (properties : List Property) (property : Property) :
    ∃ body, (Declaration.interface name properties).text exported = body ++ "\x7d\n" ∧
      (Declaration.interface name (properties ++ [property])).text exported =
        body ++ property.text ++ "\x7d\n" := by
  have hjoin : String.join ((properties ++ [property]).map Property.text) =
      String.join (properties.map Property.text) ++ property.text := by
    simp
  refine ⟨_, rfl, ?_⟩
  rw [Declaration.text, hjoin]
  simp only [String.append_assoc]

/-- **A parameter more adds what is its own.** If its key is there before, nothing changes.
Otherwise the enums and the interfaces are those there were, with its property behind the
others of the interface of the parameters, and then what its schema adds to the session
that had ended. Whatever the parameters are, the declarations start with those of the
response. -/
theorem generate_addParameter :
    (propertyKey options.keyCasing parameter.name ∈ info.parameterKeys options.keyCasing →
      generate api options (info.addParameter parameter) = generate api options info) ∧
    (propertyKey options.keyCasing parameter.name ∉ info.parameterKeys options.keyCasing →
      ∃ name properties nested type enums added,
        let property : Property :=
          ⟨DocBlock.ofNote options.comments parameter.toField.note,
            propertyKey options.keyCasing parameter.name, parameter.toField.optional, type⟩
        Adds api options (generateSession api options info) parameter.name
          parameter.toField.note.description parameter.toField.shape type enums added ∧
        (generate api options (info.addParameter parameter)).enums =
          (generate api options info).enums ++ enums ∧
        (generate api options info).interfaces =
          (responseWalk api options info).declared ++ .interface name properties :: nested ∧
        (generate api options (info.addParameter parameter)).interfaces =
          (responseWalk api options info).declared ++
            .interface name (properties ++ [property]) :: (nested ++ added) ∧
        ∀ exported, ∃ body,
          (Declaration.interface name properties).text exported = body ++ "\x7d\n" ∧
          (Declaration.interface name (properties ++ [property])).text exported =
            body ++ property.text ++ "\x7d\n") ∧
    ∀ parameters,
      (responseWalk api options info).declared <+:
        (generate api options { info with parameters }).interfaces ∧
      (responseWalk api options info).registry.enums <+:
        (generate api options { info with parameters }).enums := by
  refine ⟨fun hseen => ?_, fun hnew => ?_, generate_parameters api options info⟩
  · rw [generate_eq_walk, generate_eq_walk, parametersWalk_addParameter_seen api options _ _ hseen,
      responseWalk_addParameter]
  · let named := (responseWalk api options info).registry.allocate (api ++ "Parameters")
    let body := walkFields api options named.2 [] (info.parameters.map Parameter.toField)
    let last := walkShape api options body.registry parameter.name
      parameter.toField.note.description parameter.toField.shape
    obtain ⟨enums, henums, hadds⟩ := exists_adds api options (generateSession api options info)
      parameter.name parameter.toField.note.description parameter.toField.shape
    have hended : (generateSession api options info).registry = body.registry :=
      generateSession_registry api options info
    rw [hended] at henums hadds
    have hbefore := generate_eq_walk api options info
    have hafter := generate_eq_walk api options (info.addParameter parameter)
    rw [parametersWalk_addParameter_new api options _ _ hnew, responseWalk_addParameter] at hafter
    refine ⟨named.1, body.result, body.declared, last.result, enums, last.declared, hadds,
      ?_, ?_, ?_, fun exported => Declaration.text_interface_concat exported _ _ _⟩
    · rw [hafter, hbefore]
      exact henums
    · rw [hbefore]
      rfl
    · rw [hafter]

/-- An object `enum` as a parameter. -/
def enumParameter : Parameter where
  name := "enum"
  schema := some {
    kind := some "object"
    properties := some [("mode", { kind := some "string", titles := some [("a", none)] })] }

/-- The response of `jobInfo` has an object `enum` too, so that of the parameter gets a
number. -/
theorem generate_addParameter_enum :
    propertyKey .auto enumParameter.name ∉ jobInfo.parameterKeys .auto ∧
      (generate "Job" {} (jobInfo.addParameter enumParameter)).interfaceNames =
        ["JobResponse", "JobEnum", "JobParameters", "JobEnum1"] ∧
      ∃ enums, (generate "Job" {} (jobInfo.addParameter enumParameter)).enums =
          (generate "Job" {} jobInfo).enums ++ enums ∧
        enums.map EnumDecl.name = ["ModeEnum"] := by
  have hnew : propertyKey .auto enumParameter.name ∉ jobInfo.parameterKeys .auto := by decide
  obtain ⟨name, properties, nested, type, enums, added, -, henums, -⟩ :=
    (generate_addParameter "Job" {} jobInfo enumParameter).2.1 hnew
  refine ⟨hnew, by decide, enums, henums, ?_⟩
  have hnames := congrArg (List.map EnumDecl.name) henums
  rw [List.map_append] at hnames
  exact hnames.symm.trans (by decide)

end ApiTypings
