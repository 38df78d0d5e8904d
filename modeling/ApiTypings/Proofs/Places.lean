import ApiTypings.Proofs.References

/-!
# Places

While an interface is written, its place in the list is taken and empty, and the places
of everything inside it are taken and filled. No two interfaces ever meet in a place:
each fills the one it has taken, which is still there and still empty, and no other place
changes (`emitInterface_ownPlace`). So the places at the end are the declarations in
pre-order, and none is empty.

In that order a nested interface stands behind the interface whose property it belongs to.
Only that property is of the interface's type (`Walk.Owned`). A reference to an enum can
carry the name of the interface too, where the interface has captured the name of the
enum; `interfaces_in_preorder` says that this is the only way to a second reference, and
in the API of `job_enum_has_two_references` there is one.
-/

namespace ApiTypings

variable (api : String) (options : RenderOptions)

/-! ## Each interface has its own place -/

theorem typeOf_slots (session : Session) (property : String) (description : Option String)
    (shape : Shape) :
    (typeOf api options session property description shape).2.slots =
      session.slots ++
        (walkShape api options session.registry property description shape).declared.map
          some := by
  rw [typeOf_eq_follow]
  rfl

theorem propertiesOf_slots (session : Session) (seen : List String) (fields : List Field) :
    (propertiesOf api options session seen fields).2.slots =
      session.slots ++
        (walkFields api options session.registry seen fields).declared.map some := by
  rw [propertiesOf_eq_follow]
  rfl

/-- An object is written like an entry declaration, under a name made of its property. -/
theorem typeOf_objectWith (session : Session) (property : String)
    (description : Option String) (fields : List Field) :
    typeOf api options session property description (.objectWith fields) =
      let named := session.allocate (api ++ typeSegment property)
      (.interface named.1, named.2.emitInterface api options named.1 fields) := by
  rw [typeOf]
  rfl

structure Session.OwnPlace (session : Session) (name : String) (fields : List Field) :
    Prop where
  /-- When the place is filled, it is there and empty. -/
  reserved : (propertiesOf api options session.reserve.2 [] fields).2.slots[
    session.reserve.1]? = some none
  /-- After that, it holds the interface. -/
  filled : ∃ properties, (session.emitInterface api options name fields).slots[
    session.reserve.1]? = some (some (.interface name properties))
  /-- To fill it changes no other place. -/
  others : ∀ place ≠ session.reserve.1,
    (session.emitInterface api options name fields).slots[place]? =
      (propertiesOf api options session.reserve.2 [] fields).2.slots[place]?
  /-- The places that others had taken before are as they were, filled or not. -/
  kept : session.slots <+: (session.emitInterface api options name fields).slots
  /-- The places that were taken since are all filled. -/
  complete : ∀ place, session.slots.length ≤ place →
    (session.emitInterface api options name fields).slots[place]? ≠ some none

theorem emitInterface_slots (session : Session) (name : String) (fields : List Field) :
    (session.emitInterface api options name fields).slots =
      session.slots ++
        (Declaration.interface name
            (walkFields api options session.registry [] fields).result ::
          (walkFields api options session.registry [] fields).declared).map some := by
  rw [Session.emitInterface]
  simp only
  rw [propertiesOf_eq_follow]
  exact congrArg Session.slots (Session.fill_follow session _ _)

theorem emitInterface_ownPlace (session : Session) (name : String) (fields : List Field) :
    session.OwnPlace api options name fields where
  reserved := by
    rw [propertiesOf_slots]
    simp [Session.reserve]
  filled := by
    refine ⟨(walkFields api options session.registry [] fields).result, ?_⟩
    rw [emitInterface_slots]
    simp [Session.reserve]
  others := by
    intro place hplace
    rw [Session.emitInterface]
    exact List.getElem?_set_ne (Ne.symm hplace)
  kept := by
    rw [emitInterface_slots]
    exact List.prefix_append _ _
  complete := by
    intro place hplace hempty
    rw [emitInterface_slots, List.getElem?_append_right hplace, List.getElem?_map] at hempty
    cases hdecl : (Declaration.interface name
        (walkFields api options session.registry [] fields).result ::
      (walkFields api options session.registry [] fields).declared)[
        place - session.slots.length]? with
    | none =>
        rw [hdecl] at hempty
        cases hempty
    | some decl =>
        rw [hdecl] at hempty
        cases hempty

/-! ## Each nested interface belongs to one property -/

def basesOf (declared : List Declaration) : List TypeExpr :=
  (declared.flatMap Declaration.propertyTypes).map TypeExpr.base

@[simp] theorem basesOf_nil : basesOf [] = [] := rfl

theorem basesOf_cons (decl : Declaration) (declared : List Declaration) :
    basesOf (decl :: declared) = decl.propertyTypes.map TypeExpr.base ++ basesOf declared := by
  rw [basesOf, List.flatMap_cons, List.map_append]
  rfl

theorem basesOf_append (declared others : List Declaration) :
    basesOf (declared ++ others) = basesOf declared ++ basesOf others := by
  rw [basesOf, List.flatMap_append, List.map_append]
  rfl

/-- The declarations are interfaces of properties with the given types and of properties
among the declarations: each of one property, which comes before it. -/
structure Owned (types : List TypeExpr) (declared : List Declaration) : Prop where
  once (name : String) :
    (types.map TypeExpr.base ++ basesOf declared).count (.interface name) =
      (declared.map Declaration.name).count name
  earlier (before : List Declaration) (decl : Declaration) (after : List Declaration)
    (h : declared = before ++ decl :: after) :
    .interface decl.name ∈ types.map TypeExpr.base ++ basesOf before

namespace Owned

theorem nil : Owned [] [] where
  once _ := rfl
  earlier _ _ _ h := by simp at h

/-- A type that is of no interface owns nothing. -/
theorem of_plain {type : TypeExpr} (h : ∀ name, type.base ≠ .interface name) :
    Owned [type] [] where
  once name := by
    rw [basesOf_nil, List.append_nil, List.map_nil, List.count_nil, List.count_eq_zero]
    intro hmem
    exact h name (List.mem_singleton.mp hmem).symm
  earlier _ _ _ h := by simp at h

/-- An interface stands before those of its properties. -/
theorem interface {name : String} {properties : List Property}
    {declared : List Declaration} (h : Owned (properties.map Property.type) declared) :
    Owned [.interface name] (.interface name properties :: declared) where
  once other := by
    have hself : ((TypeExpr.interface name).base == .interface other) =
        ((Declaration.interface name properties).name == other) := by
      rw [Bool.eq_iff_iff, beq_iff_eq, beq_iff_eq]
      exact TypeExpr.interface.injEq name other ▸ Iff.rfl
    have hbody := h.once other
    rw [basesOf_cons, List.map_cons, List.map_nil, List.singleton_append, List.count_cons,
      List.map_cons, List.count_cons, ← hbody, hself]
    rfl
  earlier before decl after hsplit := by
    cases before with
    | nil =>
        obtain ⟨rfl, -⟩ := List.cons_eq_cons.mp hsplit
        exact List.mem_cons_self
    | cons first before =>
        obtain ⟨rfl, hrest⟩ := List.cons_eq_cons.mp hsplit
        rw [basesOf_cons]
        exact List.mem_append_right _ (h.earlier before decl after hrest)

/-- What stands behind each other is owned by both together. -/
theorem append {types others : List TypeExpr} {declared declared' : List Declaration}
    (h : Owned types declared) (h' : Owned others declared') :
    Owned (types ++ others) (declared ++ declared') where
  once name := by
    have hfirst := h.once name
    have hsecond := h'.once name
    simp only [List.map_append, List.count_append, basesOf_append] at hfirst hsecond ⊢
    omega
  earlier before decl after hsplit := by
    rw [List.map_append]
    rcases List.append_eq_append_iff.mp hsplit with ⟨between, rfl, hrest⟩ | ⟨between, hrest, heq⟩
    · have hmem := h'.earlier between decl after hrest
      rw [basesOf_append]
      rw [List.mem_append] at hmem
      rcases hmem with hmem | hmem
      · exact List.mem_append_left _ (List.mem_append_right _ hmem)
      · exact List.mem_append_right _ (List.mem_append_right _ hmem)
    · cases between with
      | nil =>
          have hmem := h'.earlier [] decl after heq.symm
          rw [basesOf_nil, List.append_nil] at hmem
          exact List.mem_append_left _ (List.mem_append_right _ hmem)
      | cons first between =>
          obtain ⟨rfl, -⟩ := List.cons_eq_cons.mp heq
          have hmem := h.earlier before decl between hrest
          rw [List.mem_append] at hmem
          rcases hmem with hmem | hmem
          · exact List.mem_append_left _ (List.mem_append_left _ hmem)
          · exact List.mem_append_right _ hmem

end Owned

theorem requestEnum_base_ne_interface (registry : Registry) (name : String)
    (titles : Titles) (description : Option String) (other : String) :
    (registry.requestEnum options name titles description).1.base ≠ .interface other := by
  have hcases := registry.requestEnum_cases options name titles description
  generalize registry.requestEnum options name titles description = request at hcases ⊢
  cases hcases <;> exact nofun

mutual
theorem walkShape_owned (registry : Registry) (property : String)
    (description : Option String) : ∀ shape : Shape,
    Owned [(walkShape api options registry property description shape).result]
      (walkShape api options registry property description shape).declared
  | .primitive _ | .unknown => by
      rw [walkShape]
      exact .of_plain nofun
  | .enumeration titles => by
      rw [walkShape]
      exact .of_plain (requestEnum_base_ne_interface options registry _ titles description)
  | .arrayOf items => by
      -- brackets do not change what the type inside them owns
      have ih := walkShape_owned registry property description items
      rw [walkShape]
      exact ⟨ih.once, ih.earlier⟩
  | .objectWith fields => by
      rw [walkShape]
      exact (walkFields_owned _ [] fields).interface
theorem walkFields_owned (registry : Registry) (seen : List String) :
    ∀ fields : List Field,
    Owned ((walkFields api options registry seen fields).result.map Property.type)
      (walkFields api options registry seen fields).declared
  | [] => by
      rw [walkFields]
      exact .nil
  | .mk name _ note shape :: rest => by
      rw [walkFields]
      by_cases hseen : seen.contains (propertyKey options.keyCasing name)
      · rw [if_pos hseen]
        exact walkFields_owned registry seen rest
      · rw [if_neg hseen]
        exact (walkShape_owned registry name note.description shape).append
          (walkFields_owned _ _ rest)
end

theorem walkInterface_owned (registry : Registry) (base : String) (fields : List Field) :
    ∃ entry nested,
      (walkInterface api options registry base fields).declared = entry :: nested ∧
        Owned entry.propertyTypes nested :=
  ⟨_, _, rfl, walkFields_owned api options _ [] fields⟩

theorem walkResponse_owned (registry : Registry) (shape : Option Shape) :
    ∃ entry nested, (walkResponse api options registry shape).declared = entry :: nested ∧
      Owned entry.propertyTypes nested := by
  rw [walkResponse.eq_def]
  split
  · exact walkInterface_owned api options registry _ _
  · exact ⟨_, _, rfl, .nil⟩

/-! ## Pre-order -/

variable (info : ApiInfo)

/-- The declarations of an API in pre-order: those of the response, then those of the
parameters. -/
def preorder : List Declaration :=
  (responseWalk api options info).declared ++ (parametersWalk api options info).declared

theorem generate_interfaces : (generate api options info).interfaces =
    preorder api options info := by
  rw [generate_eq_walk]
  rfl

theorem generateSession_slots :
    (generateSession api options info).slots = (preorder api options info).map some := by
  rw [generateSession_eq_walk]
  rfl

/-- The properties of an API whose types name a declaration, each by its type inside the
brackets. -/
def Declarations.references (decls : Declarations) (name : String) : List TypeExpr :=
  decls.bases.filter fun type => type == .interface name || type == .enumeration name

theorem length_references (decls : Declarations) (name : String) :
    (decls.references name).length =
      decls.bases.count (.interface name) + decls.bases.count (.enumeration name) := by
  rw [Declarations.references]
  induction decls.bases with
  | nil => rfl
  | cons type rest ih =>
      rw [List.filter_cons, List.count_cons, List.count_cons]
      by_cases hinterface : type = .interface name
      · subst hinterface
        simp [ih]
        omega
      · by_cases henum : type = .enumeration name
        · subst henum
          simp [ih]
          omega
        · simp [hinterface, henum, ih]

/-- The two entry declarations, each in front of what it owns. -/
theorem generate_entries : ∃ first nested second nested',
    (responseWalk api options info).declared = first :: nested ∧
      (generate api options info).interfaces = (first :: nested) ++ (second :: nested') ∧
      Owned first.propertyTypes nested ∧ Owned second.propertyTypes nested' := by
  obtain ⟨first, nested, hfirst, howned⟩ := walkResponse_owned api options
    (Registry.empty options) (info.successSchema.map Schema.shape)
  obtain ⟨second, nested', hsecond, howned'⟩ := walkInterface_owned api options
    (responseWalk api options info).registry (api ++ "Parameters")
    (info.parameters.map Parameter.toField)
  change (responseWalk api options info).declared = _ at hfirst
  change (parametersWalk api options info).declared = _ at hsecond
  refine ⟨first, nested, second, nested', hfirst, ?_, howned, howned'⟩
  rw [generate_interfaces, preorder, hfirst, hsecond]

/-- In two lists with a head each, what is no head is in one of the tails. -/
theorem mem_tails_of_split {first second decl : Declaration}
    {nested nested' before after : List Declaration}
    (hsplit : (first :: nested) ++ (second :: nested') = before ++ decl :: after)
    (hfirst : before ≠ []) (hsecond : before ≠ first :: nested) :
    (∃ inside rest, before = first :: inside ∧ nested = inside ++ decl :: rest) ∨
      ∃ inside, before = (first :: nested) ++ second :: inside ∧
        nested' = inside ++ decl :: after := by
  rcases List.append_eq_append_iff.mp hsplit with
    ⟨between, hbefore, hrest⟩ | ⟨between, hrest, heq⟩
  · cases between with
    | nil => exact absurd (hbefore.trans (List.append_nil _)) hsecond
    | cons head inside =>
        obtain ⟨rfl, hnested⟩ := List.cons_eq_cons.mp hrest
        exact Or.inr ⟨inside, hbefore, hnested⟩
  · cases between with
    | nil => exact absurd (hrest.trans (List.append_nil _)).symm hsecond
    | cons head rest =>
        obtain ⟨rfl, -⟩ := List.cons_eq_cons.mp heq
        cases before with
        | nil => exact absurd rfl hfirst
        | cons head inside =>
            obtain ⟨rfl, hnested⟩ := List.cons_eq_cons.mp hrest
            exact Or.inl ⟨inside, rest, rfl, hnested⟩

/-- A nested interface is the interface of one property of the API, and that property is
one of a declaration before it. -/
theorem nested_owned {before after : List Declaration} {decl : Declaration}
    (hsplit : (generate api options info).interfaces = before ++ decl :: after)
    (hresponse : before ≠ [])
    (hparameters : before ≠ (responseWalk api options info).declared) :
    .interface decl.name ∈ basesOf before ∧
      (generate api options info).bases.count (.interface decl.name) = 1 := by
  change _ ∧ (basesOf (generate api options info).interfaces).count _ = 1
  obtain ⟨first, nested, second, nested', hwalk, hall, howned, howned'⟩ :=
    generate_entries api options info
  have hnodup : ((generate api options info).interfaces.map Declaration.name).count
      decl.name ≤ 1 :=
    List.nodup_iff_count_le_one.mp (generate_interface_names_nodup api options info) decl.name
  rw [hwalk] at hparameters
  rw [hall] at hsplit hnodup ⊢
  have hcases := mem_tails_of_split hsplit hresponse hparameters
  constructor
  · rcases hcases with ⟨inside, rest, rfl, hnested⟩ | ⟨inside, rfl, hnested⟩
    · rw [basesOf_cons]
      exact howned.earlier inside decl rest hnested
    · rw [basesOf_append, basesOf_cons second]
      exact List.mem_append_right _ (howned'.earlier inside decl after hnested)
  · have hmem : 0 < (nested.map Declaration.name).count decl.name +
        (nested'.map Declaration.name).count decl.name := by
      rcases hcases with ⟨inside, rest, -, rfl⟩ | ⟨inside, -, rfl⟩
      · exact Nat.add_pos_left (List.count_pos_iff.mpr (by simp)) _
      · exact Nat.add_pos_right _ (List.count_pos_iff.mpr (by simp))
    -- no other declaration has its name, so one property has its type
    have honce := howned.once decl.name
    have honce' := howned'.once decl.name
    rw [basesOf_append, basesOf_cons, basesOf_cons, List.count_append, honce, honce']
    simp only [List.map_append, List.map_cons, List.count_append, List.count_cons] at hnodup
    omega

/-- **Pre-order.** The places at the end hold the declarations of the walk in pre-order,
and their texts are those of an API. On the way, the walk leaves the places as they are
that were taken before, a nested interface is written like the one of the parameters, and
each has a place of its own. A declaration that is not an entry is the interface of
exactly one property, which stands before it. Exactly one property refers to it unless a
reference to an enum carries its name. -/
theorem interfaces_in_preorder :
    (generateSession api options info).slots = (preorder api options info).map some ∧
    (∀ exported, (generate api options info).interfaceTexts exported =
      (preorder api options info).map (Declaration.text exported)) ∧
    (∀ session property description shape,
      session.slots <+: (typeOf api options session property description shape).2.slots) ∧
    (∀ (session : Session) property description fields,
      typeOf api options session property description (.objectWith fields) =
        let named := session.allocate (api ++ typeSegment property)
        (.interface named.1, named.2.emitInterface api options named.1 fields)) ∧
    (∀ (session : Session) name fields, session.OwnPlace api options name fields) ∧
    ∀ before decl after,
      (generate api options info).interfaces = before ++ decl :: after →
      before ≠ [] → before ≠ (responseWalk api options info).declared →
        .interface decl.name ∈ (before.flatMap Declaration.propertyTypes).map TypeExpr.base ∧
        (generate api options info).bases.count (.interface decl.name) = 1 ∧
        (((generate api options info).references decl.name).length = 1 ↔
          .enumeration decl.name ∉ (generate api options info).bases) := by
  refine ⟨generateSession_slots api options info, ?_, ?_, typeOf_objectWith api options,
    emitInterface_ownPlace api options, ?_⟩
  · intro exported
    rw [← generate_interfaces]
    rfl
  · intro session property description shape
    rw [typeOf_slots]
    exact List.prefix_append _ _
  · intro before decl after hsplit hresponse hparameters
    obtain ⟨hearlier, hcount⟩ :=
      nested_owned api options info hsplit hresponse hparameters
    refine ⟨hearlier, hcount, ?_⟩
    rw [length_references, hcount, ← List.count_eq_zero]
    omega

/-- **A second reference.** The interface `JobEnum` belongs to the property `enum`, and the
property `job`, which asks for an enum of that name, refers to it as well. -/
theorem job_enum_has_two_references :
    (generate "Job" {} jobInfo).interfaceNames = ["JobResponse", "JobEnum", "JobParameters"] ∧
      (generate "Job" {} jobInfo).enumNames = [] ∧
      (generate "Job" {} jobInfo).references "JobEnum" =
        [.interface "JobEnum", .enumeration "JobEnum"] := by
  decide

end ApiTypings
