import ApiTypings.Proofs.NameSupply
import ApiTypings.Proofs.Walk

/-!
# Declared names

Names of interfaces and aliases are allocated, names of enums are registered, and both
go into one registry. `Registry.Extends` says what any number of such requests can do:
the names newly taken are exactly those of the enums that were added and of the
interfaces that were declared, and none of them was taken before. Every step of the walk
keeps it, so the declarations of an API never clash (`declared_names_nodup`).
-/

namespace ApiTypings

namespace Registry

/-! ## What requests do to a registry -/

/-- From one registry to a later one, between which the given interfaces were declared:
the prefix stays, enums are added behind those there were, and a name is newly taken for
each added enum and for each interface. -/
structure Extends (before : Registry) (interfaces : List String) (after : Registry) :
    Prop where
  samePrefix : after.names.interfacePrefix = before.names.interfacePrefix
  taken : ∃ enums, after.enums = before.enums ++ enums ∧
    after.names.taken.Perm (enums.map EnumDecl.name ++ interfaces ++ before.names.taken)
  nodup : before.names.taken.Nodup → after.names.taken.Nodup

theorem Extends.refl (registry : Registry) : registry.Extends [] registry where
  samePrefix := rfl
  taken := ⟨[], by simp, by simp⟩
  nodup := id

theorem Extends.trans {first second third : Registry} {interfaces others : List String}
    (h : first.Extends interfaces second) (h' : second.Extends others third) :
    first.Extends (interfaces ++ others) third where
  samePrefix := h'.samePrefix.trans h.samePrefix
  taken := by
    obtain ⟨enums, henums, htaken⟩ := h.taken
    obtain ⟨enums', henums', htaken'⟩ := h'.taken
    refine ⟨enums ++ enums', by rw [henums', henums, List.append_assoc], ?_⟩
    rw [List.perm_iff_count] at htaken htaken' ⊢
    intro name
    have hfirst := htaken name
    have hsecond := htaken' name
    simp only [List.map_append, List.count_append] at hfirst hsecond ⊢
    omega
  nodup := fun hnodup => h'.nodup (h.nodup hnodup)

theorem Extends.taken_subset {before after : Registry} {interfaces : List String}
    (h : before.Extends interfaces after) : before.names.taken ⊆ after.names.taken := by
  obtain ⟨enums, -, htaken⟩ := h.taken
  intro name hname
  exact htaken.mem_iff.mpr (List.mem_append_right _ hname)

/-- An allocated name is new, and nothing else changes. -/
theorem allocate_extends (registry : Registry) (base : String) :
    registry.Extends [(registry.allocate base).1] (registry.allocate base).2 where
  samePrefix := rfl
  taken := ⟨[], (List.append_nil _).symm, List.Perm.refl _⟩
  nodup := fun hnodup => List.nodup_cons.mpr ⟨Names.firstFree_not_mem _ _, hnodup⟩

/-- The ways a request for an enum can end: there is nothing to enumerate, enums are not
wanted, the name is taken, or the enum is declared. -/
inductive EnumRequest (options : RenderOptions) (registry : Registry) (name : String)
    (titles : Titles) (description : Option String) : TypeExpr × Registry → Prop where
  | string (hempty : titles = []) :
      EnumRequest options registry name titles description (.primitive .string, registry)
  | literals (hvalues : titles ≠ []) (hoff : options.unionToEnum = false) :
      EnumRequest options registry name titles description
        (.literals (titles.map Prod.fst), registry)
  | repeated (hvalues : titles ≠ []) (hon : options.unionToEnum = true)
      (htaken : name ∈ registry.names.taken) :
      EnumRequest options registry name titles description (.enumeration name, registry)
  | declared (hvalues : titles ≠ []) (hon : options.unionToEnum = true)
      (hfree : name ∉ registry.names.taken) :
      EnumRequest options registry name titles description
        (.enumeration name,
          { names := { registry.names with taken := name :: registry.names.taken }
            enums := registry.enums ++
              [EnumDecl.ofTitles options.comments name titles description] })

theorem requestEnum_cases (options : RenderOptions) (registry : Registry) (name : String)
    (titles : Titles) (description : Option String) :
    EnumRequest options registry name titles description
      (registry.requestEnum options name titles description) := by
  rw [requestEnum]
  by_cases hempty : titles = []
  · subst hempty
    exact .string rfl
  have hne : titles.isEmpty = false := by simpa using hempty
  cases hon : options.unionToEnum with
  | false => simpa [hne] using EnumRequest.literals hempty hon
  | true =>
      by_cases htaken : name ∈ registry.names.taken
      · simpa [hne, Names.register, htaken] using EnumRequest.repeated hempty hon htaken
      · simpa [hne, Names.register, htaken] using EnumRequest.declared hempty hon htaken

/-- A request for an enum declares no interface, and takes a name only together with the
enum it declares. -/
theorem requestEnum_extends (options : RenderOptions) (registry : Registry) (name : String)
    (titles : Titles) (description : Option String) :
    registry.Extends [] (registry.requestEnum options name titles description).2 := by
  have hcases := requestEnum_cases options registry name titles description
  generalize registry.requestEnum options name titles description = request at hcases ⊢
  cases hcases with
  | string | literals | repeated => exact Extends.refl registry
  | declared _ _ hfree =>
      exact
        { samePrefix := rfl
          taken := ⟨[_], rfl, List.Perm.refl _⟩
          nodup := fun hnodup => List.nodup_cons.mpr ⟨hfree, hnodup⟩ }

end Registry

/-! ## What the walk does to the registry -/

variable (api : String) (options : RenderOptions)

mutual
theorem walkShape_extends (registry : Registry) (property : String)
    (description : Option String) : ∀ shape : Shape,
    registry.Extends
      ((walkShape api options registry property description shape).declared.map
        Declaration.name)
      (walkShape api options registry property description shape).registry
  | .primitive _ | .unknown => by
      rw [walkShape]
      exact .refl registry
  | .enumeration titles => by
      rw [walkShape]
      exact registry.requestEnum_extends options _ titles description
  | .arrayOf items => by
      rw [walkShape]
      exact walkShape_extends registry property description items
  | .objectWith fields => by
      rw [walkShape]
      exact (registry.allocate_extends _).trans (walkFields_extends _ [] fields)
theorem walkFields_extends (registry : Registry) (seen : List String) :
    ∀ fields : List Field,
    registry.Extends
      ((walkFields api options registry seen fields).declared.map Declaration.name)
      (walkFields api options registry seen fields).registry
  | [] => by
      rw [walkFields]
      exact .refl registry
  | .mk name _ note shape :: rest => by
      rw [walkFields]
      by_cases hseen : seen.contains (propertyKey options.keyCasing name)
      · rw [if_pos hseen]
        exact walkFields_extends registry seen rest
      · rw [if_neg hseen]
        simp only [List.map_append]
        exact (walkShape_extends registry name note.description shape).trans
          (walkFields_extends _ _ rest)
end

theorem walkInterface_extends (registry : Registry) (base : String) (fields : List Field) :
    registry.Extends
      ((walkInterface api options registry base fields).declared.map Declaration.name)
      (walkInterface api options registry base fields).registry :=
  (registry.allocate_extends base).trans (walkFields_extends api options _ [] fields)

theorem walkResponse_extends (registry : Registry) (shape : Option Shape) :
    registry.Extends
      ((walkResponse api options registry shape).declared.map Declaration.name)
      (walkResponse api options registry shape).registry := by
  cases shape with
  | none => exact registry.allocate_extends _
  | some shape =>
      cases shape with
      | objectWith fields => exact walkInterface_extends api options registry _ fields
      | primitive | enumeration | arrayOf | unknown => exact registry.allocate_extends _

/-! ## The declarations of an API -/

def Declarations.enumNames (decls : Declarations) : List String :=
  decls.enums.map EnumDecl.name

def Declarations.interfaceNames (decls : Declarations) : List String :=
  decls.interfaces.map Declaration.name

variable (info : ApiInfo)

theorem responseWalk_extends :
    (Registry.empty options).Extends
      ((responseWalk api options info).declared.map Declaration.name)
      (responseWalk api options info).registry :=
  walkResponse_extends api options _ _

theorem parametersWalk_extends :
    (responseWalk api options info).registry.Extends
      ((parametersWalk api options info).declared.map Declaration.name)
      (parametersWalk api options info).registry :=
  walkInterface_extends api options _ _ _

theorem generate_extends :
    (Registry.empty options).Extends (generate api options info).interfaceNames
      (parametersWalk api options info).registry := by
  rw [Declarations.interfaceNames, generate_eq_walk, List.map_append]
  exact (responseWalk_extends api options info).trans
    (parametersWalk_extends api options info)

/-- **The registry is the list of declared names.** At the end, the names taken are those
of the enums and of the interfaces and aliases, each once. -/
theorem taken_perm_declared :
    (parametersWalk api options info).registry.names.taken.Perm
      ((generate api options info).enumNames ++
        (generate api options info).interfaceNames) := by
  obtain ⟨enums, henums, htaken⟩ := (generate_extends api options info).taken
  have hall : (generate api options info).enumNames = enums.map EnumDecl.name := by
    rw [Declarations.enumNames, generate_eq_walk, henums]
    rfl
  rw [hall]
  simpa [Registry.empty] using htaken

theorem taken_nodup : (parametersWalk api options info).registry.names.taken.Nodup :=
  (generate_extends api options info).nodup List.nodup_nil

theorem generate_interface_names_nodup :
    (generate api options info).interfaceNames.Nodup :=
  List.Nodup.of_append_right
    ((taken_perm_declared api options info).nodup (taken_nodup api options info))

/-- **No two declarations clash.** The names of all enums, interfaces and aliases of an
API are different from each other. -/
theorem declared_names_nodup :
    ((generate api options info).enumNames ++
      (generate api options info).interfaceNames).Nodup :=
  (taken_perm_declared api options info).nodup (taken_nodup api options info)

end ApiTypings
