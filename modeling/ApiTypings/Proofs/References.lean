import ApiTypings.Proofs.DeclaredNames
import ApiTypings.Proofs.Requests

/-!
# References

A property refers to a nested interface by its name, or to an enum by the name made of
the property. References to interfaces always have their target. References to enums
need not: the request for an enum takes a name that is taken for one of an enum declared
before, also when an interface has it. `enumeration_declared_iff` says exactly when the
enum is there, and in the API of `job_enum_is_captured` it is not.
-/

namespace ApiTypings

/-! ## The types of properties -/

def TypeExpr.base : TypeExpr → TypeExpr
  | .array element => element.base
  | type => type

def Declaration.propertyTypes : Declaration → List TypeExpr
  | .interface _ properties => properties.map Property.type
  | .alias _ _ => []

def Declarations.bases (decls : Declarations) : List TypeExpr :=
  (decls.interfaces.flatMap Declaration.propertyTypes).map TypeExpr.base

/-- What the reference in a type points to: an enum to a taken name, and only if enums
are wanted, and an interface to one that is declared. -/
def TypeExpr.Refers (options : RenderOptions) (taken : List String)
    (declared : List Declaration) : TypeExpr → Prop
  | .any | .primitive _ | .literals _ => True
  | .enumeration name =>
      options.unionToEnum = true ∧ name ∈ taken ∧ ∃ property, name = enumName property
  | .interface name => ∃ properties, .interface name properties ∈ declared
  | .array element => element.Refers options taken declared

theorem TypeExpr.Refers.mono {options : RenderOptions} {taken taken' : List String}
    {declared declared' : List Declaration} (htaken : taken ⊆ taken')
    (hdeclared : declared ⊆ declared') : ∀ {type : TypeExpr},
    type.Refers options taken declared → type.Refers options taken' declared'
  | .any, _ | .primitive _, _ | .literals _, _ => trivial
  | .enumeration _, ⟨hon, hmem, hname⟩ => ⟨hon, htaken hmem, hname⟩
  | .interface _, ⟨properties, hmem⟩ => ⟨properties, hdeclared hmem⟩
  | .array element, h =>
      have helement : element.Refers options taken declared := h
      helement.mono htaken hdeclared

theorem TypeExpr.refers_base {options : RenderOptions} {taken : List String}
    {declared : List Declaration} : ∀ type : TypeExpr,
    type.base.Refers options taken declared ↔ type.Refers options taken declared
  | .any | .primitive _ | .literals _ | .enumeration _ | .interface _ => Iff.rfl
  | .array element => refers_base element

/-! ## References of a walk -/

variable (api : String) (options : RenderOptions)

/-- All references are settled when the walk is over: those of the given types, and those
of the declarations it has met. -/
def Walk.Settled {α : Type} (walk : Walk α) (types : List TypeExpr) : Prop :=
  ∀ type ∈ types ++ walk.declared.flatMap Declaration.propertyTypes,
    type.Refers options walk.registry.names.taken walk.declared

theorem requestEnum_refers (registry : Registry) (property : String) (titles : Titles)
    (description : Option String) (declared : List Declaration) :
    (registry.requestEnum options (enumName property) titles description).1.Refers options
      (registry.requestEnum options (enumName property) titles description).2.names.taken
      declared := by
  have hcases :=
    registry.requestEnum_cases options (enumName property) titles description
  generalize registry.requestEnum options (enumName property) titles description = request
    at hcases ⊢
  cases hcases with
  | string | literals => trivial
  | repeated _ hon htaken => exact ⟨hon, htaken, property, rfl⟩
  | declared _ hon _ => exact ⟨hon, List.mem_cons_self, property, rfl⟩

/-- An interface put before a settled body is settled. -/
theorem Walk.Settled.interface {body : Walk (List Property)} (name : String)
    (h : body.Settled options (body.result.map Property.type)) :
    Walk.Settled options
      (⟨name, body.registry, .interface name body.result :: body.declared⟩ : Walk String)
      [.interface name] := by
  intro type hmem
  rw [List.singleton_append, List.mem_cons] at hmem
  rcases hmem with rfl | hmem
  · exact ⟨body.result, List.mem_cons_self⟩
  · exact (h type hmem).mono (List.Subset.refl _) (List.subset_cons_self _ _)

/-- Two settled walks in a row are settled together. -/
theorem Walk.Settled.append {α β : Type} {first : Walk α} {second : Walk β}
    {types others : List TypeExpr} (h : first.Settled options types)
    (h' : second.Settled options others)
    (htaken : first.registry.names.taken ⊆ second.registry.names.taken) :
    ∀ type ∈ (types ++ others) ++
        (first.declared ++ second.declared).flatMap Declaration.propertyTypes,
      type.Refers options second.registry.names.taken
        (first.declared ++ second.declared) := by
  intro type hmem
  have hfirst (hmem : type ∈ types ++ first.declared.flatMap Declaration.propertyTypes) :=
    (h type hmem).mono htaken (List.subset_append_left _ second.declared)
  have hsecond (hmem : type ∈ others ++ second.declared.flatMap Declaration.propertyTypes) :=
    (h' type hmem).mono (List.Subset.refl _) (List.subset_append_right first.declared _)
  rw [List.flatMap_append] at hmem
  rcases List.mem_append.mp hmem with hmem | hmem <;>
    rcases List.mem_append.mp hmem with hmem | hmem
  · exact hfirst (List.mem_append_left _ hmem)
  · exact hsecond (List.mem_append_left _ hmem)
  · exact hfirst (List.mem_append_right _ hmem)
  · exact hsecond (List.mem_append_right _ hmem)

mutual
theorem walkShape_settled (registry : Registry) (property : String)
    (description : Option String) : ∀ shape : Shape,
    (walkShape api options registry property description shape).Settled options
      [(walkShape api options registry property description shape).result]
  | .primitive _ | .unknown => by simp [Walk.Settled, walkShape, TypeExpr.Refers]
  | .enumeration titles => by
      rw [walkShape]
      intro type hmem
      rw [List.flatMap_nil, List.append_nil, List.mem_singleton] at hmem
      rw [hmem]
      exact requestEnum_refers options registry property titles description []
  | .arrayOf items => by
      have ih := walkShape_settled registry property description items
      rw [walkShape]
      intro type hmem
      rw [List.singleton_append, List.mem_cons] at hmem
      rcases hmem with rfl | hmem
      · have helement := ih _ List.mem_cons_self
        exact helement
      · exact ih type (List.mem_cons_of_mem _ hmem)
  | .objectWith fields => by
      rw [walkShape]
      exact (walkFields_settled _ [] fields).interface options _
theorem walkFields_settled (registry : Registry) (seen : List String) :
    ∀ fields : List Field,
    (walkFields api options registry seen fields).Settled options
      ((walkFields api options registry seen fields).result.map Property.type)
  | [] => by simp [Walk.Settled, walkFields]
  | .mk name _ note shape :: rest => by
      rw [walkFields]
      by_cases hseen : seen.contains (propertyKey options.keyCasing name)
      · rw [if_pos hseen]
        exact walkFields_settled registry seen rest
      · rw [if_neg hseen]
        exact (walkShape_settled registry name note.description shape).append options
          (walkFields_settled _ _ rest)
          (walkFields_extends api options _ _ rest).taken_subset
end

theorem walkInterface_settled (registry : Registry) (base : String) (fields : List Field) :
    (walkInterface api options registry base fields).Settled options
      [.interface (walkInterface api options registry base fields).result] :=
  (walkFields_settled api options _ [] fields).interface options _

theorem walkResponse_settled (registry : Registry) (shape : Option Shape) :
    (walkResponse api options registry shape).Settled options [] := by
  cases shape with
  | none => exact fun _ hmem => nomatch hmem
  | some shape =>
      cases shape with
      | objectWith fields =>
          intro type hmem
          exact walkInterface_settled api options registry _ fields type
            (List.mem_append_right _ hmem)
      | primitive | enumeration | arrayOf | unknown => exact fun _ hmem => nomatch hmem

variable (info : ApiInfo)

/-- Every property of an API refers to what there is: a declared interface, or a taken
name made of a property. -/
theorem generate_refers : ∀ type ∈ (generate api options info).bases,
    type.Refers options (parametersWalk api options info).registry.names.taken
      (generate api options info).interfaces := by
  have hall := (walkResponse_settled api options (Registry.empty options)
    (info.successSchema.map Schema.shape)).append options
      (walkInterface_settled api options (responseWalk api options info).registry _ _)
      (parametersWalk_extends api options info).taken_subset
  intro type hmem
  obtain ⟨outer, houter, rfl⟩ := List.mem_map.mp hmem
  rw [TypeExpr.refers_base]
  rw [generate_eq_walk] at houter ⊢
  exact hall outer (List.mem_append_right _ houter)

/-! ## References to enums -/

theorem endsPlain_enumName (property : String) : Names.EndsPlain (enumName property) :=
  Names.EndsPlain.append ⟨'m', by decide, by decide⟩ _

/-- **A reference has one target.** The name in a reference to an enum is that of exactly
one declaration, an enum or an interface. -/
theorem count_enumeration {name : String}
    (h : .enumeration name ∈ (generate api options info).bases) :
    (generate api options info).enumNames.count name +
      (generate api options info).interfaceNames.count name = 1 := by
  obtain ⟨-, htaken, -⟩ := generate_refers api options info _ h
  rw [← List.count_append, ← (taken_perm_declared api options info).count_eq]
  exact List.count_eq_one_of_mem (taken_nodup api options info) htaken

/-- The name in a reference to an enum is that of an enum exactly when the first request
for it was one for an enum. -/
theorem mem_enums_iff_first {name : String}
    (h : .enumeration name ∈ (generate api options info).bases) :
    name ∈ (generate api options info).enumNames ↔
      ∃ decl, (responseRequests api options info ++ parametersRequests api options info).find?
        (·.stem options.interfacePrefix == name) = some (.enum decl) := by
  obtain ⟨-, -, property, rfl⟩ := generate_refers api options info _ h
  rw [Declarations.enumNames, generate_eq_walk, parametersWalk_registry,
    Registry.mem_enums_handleAll_iff (endsPlain_enumName property) List.not_mem_nil]
  exact or_iff_right List.not_mem_nil

/-- **When an enum is there.** A reference to an enum has exactly one enum declaration if
its name is not that of an interface, and that is so if the first request for the name
is one for an enum; otherwise no enum and one interface has the name. -/
theorem enumeration_declared_iff {name : String}
    (h : .enumeration name ∈ (generate api options info).bases) :
    ((generate api options info).enumNames.count name = 1 ↔
        name ∉ (generate api options info).interfaceNames) ∧
      ((generate api options info).enumNames.count name = 1 ↔
        ∃ decl, (responseRequests api options info ++
          parametersRequests api options info).find?
            (·.stem options.interfacePrefix == name) = some (.enum decl)) ∧
      ((generate api options info).enumNames.count name ≠ 1 →
        (generate api options info).enumNames.count name = 0 ∧
          (generate api options info).interfaceNames.count name = 1) := by
  have hcount := count_enumeration api options info h
  refine ⟨?_, ?_, ?_⟩
  · rw [← List.count_eq_zero]
    omega
  · rw [← mem_enums_iff_first api options info h, ← List.count_pos_iff]
    omega
  · omega

/-- An object `enum` beside an enumerated string `job`. -/
def jobInfo : ApiInfo :=
  let schema : Schema := {
    kind := some "object"
    properties := some [
      ("enum", { kind := some "object", properties := some [] }),
      ("job", { kind := some "string", titles := some [("a", none)] })] }
  { responses := [("200", { schema := some schema })] }

/-- **A captured enum.** In the API `Job`, the interface of `enum` takes the name that the
enum of `job` would have: `job` refers to an enum that is not declared. -/
theorem job_enum_is_captured :
    (generate "Job" {} jobInfo).interfaces =
        [.interface "JobResponse"
            [⟨none, "enum", false, .interface "JobEnum"⟩,
              ⟨none, "job", false, .enumeration "JobEnum"⟩],
          .interface "JobEnum" [], .interface "JobParameters" []] ∧
      (generate "Job" {} jobInfo).enums = [] := by
  decide

theorem enumeration_declared_iff_job :
    .enumeration "JobEnum" ∈ (generate "Job" {} jobInfo).bases ∧
      ((generate "Job" {} jobInfo).enumNames.count "JobEnum" = 1 ↔
        "JobEnum" ∉ (generate "Job" {} jobInfo).interfaceNames) :=
  have h : .enumeration "JobEnum" ∈ (generate "Job" {} jobInfo).bases := by decide
  ⟨h, (enumeration_declared_iff "Job" {} jobInfo h).1⟩

end ApiTypings
