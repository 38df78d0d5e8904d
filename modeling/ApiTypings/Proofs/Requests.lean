import ApiTypings.Proofs.NameSupply
import ApiTypings.Proofs.Walk

/-!
# Requests

What a walk asks of the registry depends on the schema alone: not on the names it was
given so far. `requestsOfShape` lists these requests in order, and the walk changes the
registry by handling them one after the other (`walkShape_registry`). Questions about
which names are taken, and by what, are then questions about a list: for a name that
ends in no digit, whether it is taken is whether something asks for it
(`mem_taken_handleAll_iff`), and whether an enum has it is whether the first to ask for
it is an enum (`mem_enums_handleAll_iff`).
-/

namespace ApiTypings

/-- What a walk asks the registry for: a name for an interface or an alias, or an enum
under its name. -/
inductive Request where
  | interface (base : String)
  | enum (decl : EnumDecl)

def Request.stem (interfacePrefix : String) : Request → String
  | .interface base => interfacePrefix ++ upperFirst base
  | .enum decl => decl.name

namespace Registry

/-- The registry after a request: an enum is declared if its name is free. -/
def handle (registry : Registry) : Request → Registry
  | .interface base => (registry.allocate base).2
  | .enum decl =>
      if decl.name ∈ registry.names.taken then registry
      else
        { names := { registry.names with taken := decl.name :: registry.names.taken }
          enums := registry.enums ++ [decl] }

def handleAll (registry : Registry) (requests : List Request) : Registry :=
  requests.foldl handle registry

@[simp] theorem handleAll_nil (registry : Registry) : registry.handleAll [] = registry := rfl

@[simp] theorem handleAll_cons (registry : Registry) (request : Request)
    (rest : List Request) :
    registry.handleAll (request :: rest) = (registry.handle request).handleAll rest := rfl

@[simp] theorem handleAll_append (registry : Registry) (requests others : List Request) :
    registry.handleAll (requests ++ others) =
      (registry.handleAll requests).handleAll others :=
  List.foldl_append

@[simp] theorem handle_prefix (registry : Registry) (request : Request) :
    (registry.handle request).names.interfacePrefix = registry.names.interfacePrefix := by
  cases request with
  | interface base => rfl
  | enum decl =>
      rw [handle]
      split <;> rfl

/-! ## Which names are taken -/

variable {registry : Registry} {name : String}

theorem mem_taken_handle_iff (hname : Names.EndsPlain name) (request : Request) :
    name ∈ (registry.handle request).names.taken ↔
      name ∈ registry.names.taken ∨
        request.stem registry.names.interfacePrefix = name := by
  cases request with
  | interface base =>
      have htaken : (registry.handle (.interface base)).names.taken =
          Names.firstFree registry.names.taken (registry.names.stem base) ::
            registry.names.taken := rfl
      rw [htaken, List.mem_cons, or_comm]
      refine or_congr_right' fun hfree => ⟨fun h => ?_, fun h => ?_⟩
      · exact Names.firstFree_eq_endsPlain hname h.symm
      · have hstem : registry.names.stem base = name := h
        rw [hstem, Names.firstFree_of_not_mem hfree]
  | enum decl =>
      rw [handle]
      split
      · rename_i htaken
        refine ⟨Or.inl, ?_⟩
        rintro (h | h)
        · exact h
        · have hdecl : decl.name = name := h
          exact hdecl ▸ htaken
      · simp only [List.mem_cons, Request.stem]
        tauto

/-- **Taken means asked for.** A name that ends in no digit is taken exactly when it was
taken before or is the stem of one of the requests. -/
theorem mem_taken_handleAll_iff (hname : Names.EndsPlain name) (requests : List Request) :
    name ∈ (registry.handleAll requests).names.taken ↔
      name ∈ registry.names.taken ∨
        ∃ request ∈ requests, request.stem registry.names.interfacePrefix = name := by
  induction requests generalizing registry with
  | nil => simp
  | cons request rest ih =>
      rw [handleAll_cons, ih, mem_taken_handle_iff hname, handle_prefix]
      simp only [List.mem_cons, exists_eq_or_imp, or_assoc]

/-! ## Which names are those of enums -/

/-- Once a name is taken, no request makes an enum of it. -/
theorem mem_enums_handleAll_of_taken (requests : List Request)
    (htaken : name ∈ registry.names.taken) :
    name ∈ (registry.handleAll requests).enums.map EnumDecl.name ↔
      name ∈ registry.enums.map EnumDecl.name := by
  induction requests generalizing registry with
  | nil => rfl
  | cons request rest ih =>
      rw [handleAll_cons]
      cases request with
      | interface base => exact ih (List.mem_cons_of_mem _ htaken)
      | enum decl =>
          rw [handle]
          split
          · exact ih htaken
          · rename_i hfree
            have hne : name ≠ decl.name := fun h => hfree (h ▸ htaken)
            rw [ih (List.mem_cons_of_mem _ htaken), List.map_append, List.mem_append]
            simp [hne]

/-- **The first to ask decides.** A free name that ends in no digit becomes the name of
an enum exactly when the first request for it is one for an enum. -/
theorem mem_enums_handleAll_iff (hname : Names.EndsPlain name)
    (hfree : name ∉ registry.names.taken) (requests : List Request) :
    name ∈ (registry.handleAll requests).enums.map EnumDecl.name ↔
      name ∈ registry.enums.map EnumDecl.name ∨
        ∃ decl, requests.find? (·.stem registry.names.interfacePrefix == name) =
          some (.enum decl) := by
  induction requests generalizing registry with
  | nil => simp
  | cons request rest ih =>
      rw [handleAll_cons]
      by_cases hstem : request.stem registry.names.interfacePrefix = name
      · have htaken := (mem_taken_handle_iff hname request).mpr (Or.inr hstem)
        rw [mem_enums_handleAll_of_taken rest htaken,
          List.find?_cons_of_pos (by simpa using hstem)]
        cases request with
        | interface base =>
            refine ⟨Or.inl, ?_⟩
            rintro (h | ⟨decl, hdecl⟩)
            · exact h
            · cases hdecl
        | enum decl =>
            have hdecl : decl.name = name := hstem
            rw [handle, if_neg (hdecl ▸ hfree)]
            simp [hdecl]
      · have hfree' : name ∉ (registry.handle request).names.taken := fun h =>
          ((mem_taken_handle_iff hname request).mp h).elim hfree hstem
        rw [ih hfree', handle_prefix, List.find?_cons_of_neg (by simpa using hstem)]
        refine or_congr_left ?_
        cases request with
        | interface base => rfl
        | enum decl =>
            have hne : name ≠ decl.name := fun h => hstem h.symm
            rw [handle]
            split
            · rfl
            · rw [List.map_append, List.mem_append]
              simp [hne]

/-- The enums a series of requests adds are behind those there were, and each is one of
those asked for. -/
theorem exists_enums_handleAll (registry : Registry) (requests : List Request) :
    ∃ added, (registry.handleAll requests).enums = registry.enums ++ added ∧
      ∀ decl ∈ added, .enum decl ∈ requests := by
  induction requests generalizing registry with
  | nil => exact ⟨[], (List.append_nil _).symm, nofun⟩
  | cons request rest ih =>
      obtain ⟨added, henums, hasked⟩ := ih (registry.handle request)
      rw [handleAll_cons, henums]
      have hrest : ∀ decl ∈ added, .enum decl ∈ request :: rest := fun decl hdecl =>
        List.mem_cons_of_mem _ (hasked decl hdecl)
      cases request with
      | interface base => exact ⟨added, rfl, hrest⟩
      | enum decl =>
          rw [handle]
          split
          · exact ⟨added, rfl, hrest⟩
          · refine ⟨decl :: added, List.append_assoc _ _ _, fun other hother => ?_⟩
            rcases List.mem_cons.mp hother with rfl | hother
            · exact List.mem_cons_self
            · exact hrest other hother

/-- Every enum that is declared has been asked for. -/
theorem mem_enums_handleAll {decl : EnumDecl} {requests : List Request}
    (h : decl ∈ (registry.handleAll requests).enums) :
    decl ∈ registry.enums ∨ .enum decl ∈ requests := by
  obtain ⟨added, henums, hasked⟩ := registry.exists_enums_handleAll requests
  rw [henums, List.mem_append] at h
  exact h.imp_right (hasked decl)

end Registry

/-! ## The requests of a walk -/

variable (api : String) (options : RenderOptions)

mutual
/-- The requests for a property of the given name and shape. An enumerated string asks
for nothing if it has no values or if enums are not wanted. -/
def requestsOfShape (property : String) (description : Option String) :
    Shape → List Request
  | .primitive _ | .unknown => []
  | .enumeration titles =>
      if titles.isEmpty || !options.unionToEnum then []
      else [.enum (.ofTitles options.comments (enumName property) titles description)]
  | .arrayOf items => requestsOfShape property description items
  | .objectWith fields =>
      .interface (api ++ typeSegment property) :: requestsOfFields [] fields

/-- The requests for the properties of an interface, where `seen` are the keys of those
before. -/
def requestsOfFields (seen : List String) : List Field → List Request
  | [] => []
  | .mk name _ note shape :: rest =>
      let key := propertyKey options.keyCasing name
      if seen.contains key then requestsOfFields seen rest
      else
        requestsOfShape name note.description shape ++ requestsOfFields (key :: seen) rest
end

def nestedRequests : Option Shape → List Request
  | some (.objectWith fields) => requestsOfFields api options [] fields
  | _ => []

def responseRequests (info : ApiInfo) : List Request :=
  .interface (api ++ "Response") ::
    nestedRequests api options (info.successSchema.map Schema.shape)

def parametersRequests (info : ApiInfo) : List Request :=
  .interface (api ++ "Parameters") ::
    requestsOfFields api options [] (info.parameters.map Parameter.toField)

/-! ### Enums

Enums are asked for only where they are wanted, and under names made of properties. -/

mutual
theorem enum_of_requestsOfShape {decl : EnumDecl} (property : String)
    (description : Option String) : ∀ shape : Shape,
    .enum decl ∈ requestsOfShape api options property description shape →
      options.unionToEnum = true ∧ ∃ property, decl.name = enumName property
  | .primitive _, h | .unknown, h => by simp [requestsOfShape] at h
  | .enumeration titles, h => by
      rw [requestsOfShape] at h
      split at h
      · cases h
      · rename_i hwanted
        rw [List.mem_singleton] at h
        injection h with h
        exact ⟨by simpa using (not_or.mp (mt Bool.or_eq_true_iff.mpr hwanted)).2,
          property, by rw [h]; rfl⟩
  | .arrayOf items, h => by
      rw [requestsOfShape] at h
      exact enum_of_requestsOfShape property description items h
  | .objectWith fields, h => by
      rw [requestsOfShape, List.mem_cons] at h
      rcases h with h | h
      · cases h
      · exact enum_of_requestsOfFields [] fields h
theorem enum_of_requestsOfFields {decl : EnumDecl} (seen : List String) :
    ∀ fields : List Field, .enum decl ∈ requestsOfFields api options seen fields →
      options.unionToEnum = true ∧ ∃ property, decl.name = enumName property
  | [], h => by simp [requestsOfFields] at h
  | .mk name _ note shape :: rest, h => by
      rw [requestsOfFields] at h
      split at h
      · exact enum_of_requestsOfFields seen rest h
      · rcases List.mem_append.mp h with h | h
        · exact enum_of_requestsOfShape name note.description shape h
        · exact enum_of_requestsOfFields _ rest h
end

theorem enum_of_responseRequests {decl : EnumDecl} (info : ApiInfo)
    (h : .enum decl ∈ responseRequests api options info) :
    options.unionToEnum = true ∧ ∃ property, decl.name = enumName property := by
  rw [responseRequests, List.mem_cons] at h
  rcases h with h | h
  · cases h
  · rw [nestedRequests.eq_def] at h
    split at h
    · exact enum_of_requestsOfFields api options [] _ h
    · cases h

theorem enum_of_parametersRequests {decl : EnumDecl} (info : ApiInfo)
    (h : .enum decl ∈ parametersRequests api options info) :
    options.unionToEnum = true ∧ ∃ property, decl.name = enumName property := by
  rw [parametersRequests, List.mem_cons] at h
  rcases h with h | h
  · cases h
  · exact enum_of_requestsOfFields api options [] _ h

/-! ### The walk handles its requests -/

theorem requestEnum_registry (registry : Registry) (name : String) (titles : Titles)
    (description : Option String) :
    (registry.requestEnum options name titles description).2 =
      registry.handleAll
        (if titles.isEmpty || !options.unionToEnum then []
          else [.enum (.ofTitles options.comments name titles description)]) := by
  rw [Registry.requestEnum]
  cases titles.isEmpty with
  | true => simp
  | false =>
      cases options.unionToEnum with
      | false => simp
      | true =>
          by_cases htaken : name ∈ registry.names.taken <;>
            simp [Registry.handle, EnumDecl.ofTitles, Names.register, htaken]

mutual
theorem walkShape_registry (registry : Registry) (property : String)
    (description : Option String) : ∀ shape : Shape,
    (walkShape api options registry property description shape).registry =
      registry.handleAll (requestsOfShape api options property description shape)
  | .primitive _ | .unknown => by simp [walkShape, requestsOfShape]
  | .enumeration titles => by
      rw [walkShape, requestsOfShape]
      exact requestEnum_registry options registry _ titles description
  | .arrayOf items => by
      rw [walkShape, requestsOfShape]
      exact walkShape_registry registry property description items
  | .objectWith fields => by
      rw [walkShape, requestsOfShape]
      exact walkFields_registry _ [] fields
theorem walkFields_registry (registry : Registry) (seen : List String) :
    ∀ fields : List Field,
    (walkFields api options registry seen fields).registry =
      registry.handleAll (requestsOfFields api options seen fields)
  | [] => by simp [walkFields, requestsOfFields]
  | .mk name _ note shape :: rest => by
      rw [walkFields, requestsOfFields]
      by_cases hseen : seen.contains (propertyKey options.keyCasing name)
      · rw [if_pos hseen, if_pos hseen]
        exact walkFields_registry registry seen rest
      · rw [if_neg hseen, if_neg hseen, Registry.handleAll_append,
          ← walkShape_registry registry name note.description shape]
        exact walkFields_registry _ _ rest
end

theorem responseWalk_registry (info : ApiInfo) :
    (responseWalk api options info).registry =
      (Registry.empty options).handleAll (responseRequests api options info) := by
  rw [responseWalk, responseRequests, Registry.handleAll_cons]
  cases info.successSchema.map Schema.shape with
  | none => rfl
  | some shape =>
      cases shape with
      | objectWith fields => exact walkFields_registry api options _ [] fields
      | primitive | enumeration | arrayOf | unknown => rfl

theorem parametersWalk_registry (info : ApiInfo) :
    (parametersWalk api options info).registry =
      (Registry.empty options).handleAll
        (responseRequests api options info ++ parametersRequests api options info) := by
  rw [Registry.handleAll_append, ← responseWalk_registry, parametersRequests,
    Registry.handleAll_cons]
  exact walkFields_registry api options _ [] _

end ApiTypings
