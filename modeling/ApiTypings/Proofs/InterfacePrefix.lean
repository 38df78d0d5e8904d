import ApiTypings.Proofs.EntryNames
import ApiTypings.Proofs.References
import ApiTypings.Proofs.TextParts

/-!
# The prefix of interface names

The prefix takes part in the search for a free name: what is looked up and what is taken
are the names with it. Put something in front of the prefix of a registry and of every name
it holds, and it answers each request as before, with the same in front of the answer
(`Names.allocate_putBefore`); no two names that were different meet, and none that were the
same part. The walk carries the two registries side by side (`walkShape_putBefore`), so
another prefix gives the declarations under other names, and nothing else changes
(`generate_withPrefix`). Enums are left out, because their names are registered without the
prefix: with enums, a prefix can keep an interface from taking the name of an enum.
-/

namespace ApiTypings

/-! ## Registries with more in front -/

namespace Names

variable (front : String)

/-- The registry with the given text in front of its prefix and of every name it holds. -/
def putBefore (names : Names) : Names where
  interfacePrefix := front ++ names.interfacePrefix
  taken := names.taken.map (front ++ ·)

theorem append_injective : Function.Injective (front ++ ·) :=
  fun _ _ => (String.append_right_inj front).mp

theorem numbered_append (base : String) (n : ℕ) :
    numbered (front ++ base) n = front ++ numbered base n := by
  cases n with
  | zero => rfl
  | succ n => rw [numbered, numbered, String.append_assoc]

/-- A candidate is taken with the text in front exactly when it is taken without. -/
theorem contains_map_append (taken : List String) (name : String) :
    (taken.map (front ++ ·)).contains (front ++ name) = taken.contains name := by
  rw [Bool.eq_iff_iff, List.contains_iff_mem, List.contains_iff_mem]
  exact List.mem_map_of_injective (append_injective front)

theorem firstFree_append (taken : List String) (base : String) :
    firstFree (taken.map (front ++ ·)) (front ++ base) = front ++ firstFree taken base := by
  -- the search is the same one: candidates in the same order, taken in the same places
  have hcandidates : numbered (front ++ base) = (front ++ ·) ∘ numbered base :=
    funext (numbered_append front base)
  have hfree : ((!(taken.map (front ++ ·)).contains ·) ∘ (front ++ ·)) =
      (!taken.contains ·) :=
    funext fun name => congrArg (!·) (contains_map_append front taken name)
  rw [firstFree, firstFree, List.length_map, hcandidates, ← List.map_map, List.find?_map, hfree]
  exact Option.getD_map _ _ _

/-- Names are given out as before, with the text in front. -/
theorem allocate_putBefore (names : Names) (base : String) :
    (names.putBefore front).allocate base =
      (front ++ (names.allocate base).1, (names.allocate base).2.putBefore front) := by
  have hstem : (names.putBefore front).stem base = front ++ names.stem base :=
    String.append_assoc
  have hname : firstFree (names.putBefore front).taken ((names.putBefore front).stem base) =
      front ++ (names.allocate base).1 := by
    rw [hstem]
    exact firstFree_append front names.taken (names.stem base)
  rw [allocate, hname]
  rfl

end Names

namespace Registry

def putBefore (front : String) (registry : Registry) : Registry where
  names := registry.names.putBefore front
  enums := registry.enums

theorem allocate_putBefore (front : String) (registry : Registry) (base : String) :
    (registry.putBefore front).allocate base =
      (front ++ (registry.allocate base).1, (registry.allocate base).2.putBefore front) := by
  rw [allocate, putBefore, Names.allocate_putBefore]
  rfl

end Registry

def RenderOptions.withPrefix (options : RenderOptions) (interfacePrefix : String) :
    RenderOptions :=
  { options with interfacePrefix }

variable (api : String) (options : RenderOptions)

/-! ## Two walks side by side -/

theorem requestEnum_of_off (hoff : options.unionToEnum = false) (registry : Registry)
    (name : String) (titles : Titles) (description : Option String) :
    registry.requestEnum options name titles description =
      (if titles.isEmpty then .primitive .string else .literals (titles.map Prod.fst),
        registry) := by
  rw [Registry.requestEnum, hoff]
  cases titles.isEmpty <;> rfl

section Walk

variable (interfacePrefix front : String)

mutual
theorem walkShape_putBefore (hoff : options.unionToEnum = false) (registry : Registry)
    (property : String) (description : Option String) : ∀ shape : Shape,
    walkShape api (options.withPrefix interfacePrefix) (registry.putBefore front) property
        description shape =
      let walk := walkShape api options registry property description shape
      ⟨walk.result.rename (front ++ ·), walk.registry.putBefore front,
        walk.declared.map (Declaration.rename (front ++ ·))⟩
  | .primitive _ | .unknown => by
      rw [walkShape, walkShape]
      rfl
  | .enumeration titles => by
      have hoff' : (options.withPrefix interfacePrefix).unionToEnum = false := hoff
      rw [walkShape, walkShape, requestEnum_of_off _ hoff', requestEnum_of_off _ hoff]
      cases titles <;> rfl
  | .arrayOf items => by
      rw [walkShape, walkShape, walkShape_putBefore hoff registry property description items]
      rfl
  | .objectWith fields => by
      rw [walkShape, walkShape, Registry.allocate_putBefore]
      simp only
      rw [walkFields_putBefore hoff _ [] fields]
      rfl
theorem walkFields_putBefore (hoff : options.unionToEnum = false) (registry : Registry)
    (seen : List String) : ∀ fields : List Field,
    walkFields api (options.withPrefix interfacePrefix) (registry.putBefore front) seen fields =
      let walk := walkFields api options registry seen fields
      ⟨walk.result.map (Property.rename (front ++ ·)), walk.registry.putBefore front,
        walk.declared.map (Declaration.rename (front ++ ·))⟩
  | [] => by
      rw [walkFields, walkFields]
      rfl
  | .mk name _ note shape :: rest => by
      -- keys do not depend on the prefix: both walks pass over the same fields
      have hkeys : (options.withPrefix interfacePrefix).keyCasing = options.keyCasing := rfl
      rw [walkFields, walkFields, hkeys]
      by_cases hseen : seen.contains (propertyKey options.keyCasing name)
      · rw [if_pos hseen, if_pos hseen]
        exact walkFields_putBefore hoff registry seen rest
      · rw [if_neg hseen, if_neg hseen,
          walkShape_putBefore hoff registry name note.description shape]
        simp only
        rw [walkFields_putBefore hoff _ _ rest, List.map_append]
        rfl
end

theorem walkInterface_putBefore (hoff : options.unionToEnum = false) (registry : Registry)
    (base : String) (fields : List Field) :
    walkInterface api (options.withPrefix interfacePrefix) (registry.putBefore front) base
        fields =
      let walk := walkInterface api options registry base fields
      ⟨front ++ walk.result, walk.registry.putBefore front,
        walk.declared.map (Declaration.rename (front ++ ·))⟩ := by
  rw [walkInterface, walkInterface, Registry.allocate_putBefore]
  simp only
  rw [walkFields_putBefore api options interfacePrefix front hoff]
  rfl

theorem walkResponse_putBefore (hoff : options.unionToEnum = false) (registry : Registry)
    (shape : Option Shape) :
    walkResponse api (options.withPrefix interfacePrefix) (registry.putBefore front) shape =
      let walk := walkResponse api options registry shape
      ⟨front ++ walk.result, walk.registry.putBefore front,
        walk.declared.map (Declaration.rename (front ++ ·))⟩ := by
  rw [walkResponse.eq_def, walkResponse.eq_def]
  split
  · exact walkInterface_putBefore api options interfacePrefix front hoff registry _ _
  · rw [Registry.allocate_putBefore]
    rfl

end Walk

/-! ## Names in the order of the declarations -/

mutual
/-- Where enums are not wanted, the names that are given out are those of the declarations,
in their order. -/
theorem walkShape_taken (hoff : options.unionToEnum = false) (registry : Registry)
    (property : String) (description : Option String) : ∀ shape : Shape,
    (walkShape api options registry property description shape).registry.names.taken =
      ((walkShape api options registry property description shape).declared.map
        Declaration.name).reverse ++ registry.names.taken
  | .primitive _ | .unknown => by
      rw [walkShape]
      rfl
  | .enumeration titles => by
      rw [walkShape, requestEnum_of_off _ hoff]
      rfl
  | .arrayOf items => by
      rw [walkShape]
      exact walkShape_taken hoff registry property description items
  | .objectWith fields => by
      have hbody := walkFields_taken hoff
        (registry.allocate (api ++ typeSegment property)).2 [] fields
      rw [walkShape, List.map_cons, List.reverse_cons, List.append_assoc]
      exact hbody
theorem walkFields_taken (hoff : options.unionToEnum = false) (registry : Registry)
    (seen : List String) : ∀ fields : List Field,
    (walkFields api options registry seen fields).registry.names.taken =
      ((walkFields api options registry seen fields).declared.map
        Declaration.name).reverse ++ registry.names.taken
  | [] => by
      rw [walkFields]
      rfl
  | .mk name _ note shape :: rest => by
      rw [walkFields]
      by_cases hseen : seen.contains (propertyKey options.keyCasing name)
      · rw [if_pos hseen]
        exact walkFields_taken hoff registry seen rest
      · rw [if_neg hseen]
        simp only
        rw [walkFields_taken hoff _ _ rest, walkShape_taken hoff registry name _ shape,
          List.map_append, List.reverse_append, List.append_assoc]
end

theorem walkInterface_taken (hoff : options.unionToEnum = false) (registry : Registry)
    (base : String) (fields : List Field) :
    (walkInterface api options registry base fields).registry.names.taken =
      ((walkInterface api options registry base fields).declared.map
        Declaration.name).reverse ++ registry.names.taken := by
  have hbody := walkFields_taken api options hoff (registry.allocate base).2 [] fields
  rw [walkInterface, List.map_cons, List.reverse_cons, List.append_assoc]
  exact hbody

theorem walkResponse_taken (hoff : options.unionToEnum = false) (registry : Registry)
    (shape : Option Shape) :
    (walkResponse api options registry shape).registry.names.taken =
      ((walkResponse api options registry shape).declared.map
        Declaration.name).reverse ++ registry.names.taken := by
  rw [walkResponse.eq_def]
  split
  · exact walkInterface_taken api options hoff registry _ _
  · rfl

/-- The names that a generation has taken, in order: where enums are not wanted, all of them
have been given out. -/
def issuedNames (info : ApiInfo) : List String :=
  (generateSession api options info).registry.names.taken.reverse

theorem issuedNames_eq (hoff : options.unionToEnum = false) (info : ApiInfo) :
    issuedNames api options info = (generate api options info).interfaceNames := by
  have hresponse := walkResponse_taken api options hoff (Registry.empty options)
    (info.successSchema.map Schema.shape)
  have hparameters := walkInterface_taken api options hoff
    (responseWalk api options info).registry (api ++ "Parameters")
    (info.parameters.map Parameter.toField)
  have hall : (parametersWalk api options info).registry.names.taken =
      ((parametersWalk api options info).declared.map Declaration.name).reverse ++
        ((responseWalk api options info).declared.map Declaration.name).reverse := by
    refine hparameters.trans (congrArg _ ?_)
    exact hresponse.trans (List.append_nil _)
  rw [issuedNames, generateSession_eq_walk, hall, Declarations.interfaceNames,
    generate_eq_walk, ← List.reverse_append, List.reverse_reverse, List.map_append]

/-! ## Names among the parts -/

/-- The names among the parts of a type are the references to interfaces. -/
theorem TypeExpr.name_mem_parts_iff (name : String) : ∀ type : TypeExpr,
    .name name ∈ type.parts ↔ type.base = .interface name
  | .any | .primitive _ | .literals _ | .enumeration _ => by
      simp [parts, base]
  | .interface other => by
      simp [parts, base, eq_comm]
  | .array element => by
      cases element with
      | literals | any | primitive | enumeration => simp [parts, base]
      | interface other => simp [parts, base, eq_comm]
      | array inner =>
          have ih := name_mem_parts_iff name (.array inner)
          rw [parts_array_array, List.mem_append, ih]
          simp [base]

theorem Property.name_mem_parts_iff (name : String) (property : Property) :
    .name name ∈ property.parts ↔ property.type.base = .interface name := by
  simp [parts, TypeExpr.name_mem_parts_iff]

/-- The names among the parts of a declaration are its own and the references of its
properties to interfaces. -/
theorem Declaration.name_mem_parts_iff (exported : Bool) (name : String) :
    ∀ decl : Declaration, .name name ∈ decl.parts exported ↔
      name = decl.name ∨ .interface name ∈ decl.propertyTypes.map TypeExpr.base
  | .interface own properties => by
      simp [parts, Declaration.name, propertyTypes, Property.name_mem_parts_iff]
  | .alias own type => by
      simp [parts, Declaration.name, propertyTypes]

variable (info : ApiInfo)

/-- Every name in the text of a declaration is declared. -/
theorem name_declared_of_mem_parts {exported : Bool} {decl : Declaration} {name : String}
    (hdecl : decl ∈ (generate api options info).interfaces)
    (hname : .name name ∈ decl.parts exported) :
    name ∈ (generate api options info).interfaceNames := by
  rcases (Declaration.name_mem_parts_iff exported name decl).mp hname with rfl | hreference
  · exact List.mem_map_of_mem hdecl
  · have hbase : .interface name ∈ (generate api options info).bases := by
      obtain ⟨type, htype, hbase⟩ := List.mem_map.mp hreference
      rw [← hbase]
      exact List.mem_map_of_mem (List.mem_flatMap.mpr ⟨decl, hdecl, htype⟩)
    obtain ⟨properties, htarget⟩ := generate_refers api options info _ hbase
    exact List.mem_map.mpr ⟨_, htarget, rfl⟩

/-! ## Declarations under another prefix -/

theorem empty_withPrefix (interfacePrefix : String) :
    Registry.empty (options.withPrefix interfacePrefix) =
      (Registry.empty (options.withPrefix "")).putBefore interfacePrefix := by
  have hprefix : interfacePrefix ++ "" = interfacePrefix := String.append_empty
  rw [Registry.empty, Registry.putBefore, Names.putBefore]
  simp only [Registry.empty, RenderOptions.withPrefix, hprefix, List.map_nil]

/-- The two walks of a generation, with another prefix. -/
theorem walks_withPrefix (interfacePrefix : String) (hoff : options.unionToEnum = false) :
    let rename := List.map (Declaration.rename (interfacePrefix ++ ·))
    let plain := options.withPrefix ""
    let prefixed := options.withPrefix interfacePrefix
    (responseWalk api prefixed info).declared = rename (responseWalk api plain info).declared ∧
    (parametersWalk api prefixed info).declared =
      rename (parametersWalk api plain info).declared ∧
    (parametersWalk api prefixed info).registry =
      (parametersWalk api plain info).registry.putBefore interfacePrefix := by
  intro rename plain prefixed
  have hresponse : responseWalk api prefixed info =
      let walk := responseWalk api plain info
      ⟨interfacePrefix ++ walk.result, walk.registry.putBefore interfacePrefix,
        rename walk.declared⟩ := by
    rw [responseWalk, empty_withPrefix]
    exact walkResponse_putBefore api plain interfacePrefix interfacePrefix hoff _ _
  have hparameters : parametersWalk api prefixed info =
      let walk := parametersWalk api plain info
      ⟨interfacePrefix ++ walk.result, walk.registry.putBefore interfacePrefix,
        rename walk.declared⟩ := by
    rw [parametersWalk, hresponse]
    exact walkInterface_putBefore api plain interfacePrefix interfacePrefix hoff _ _ _
  rw [hresponse, hparameters]
  exact ⟨rfl, rfl, rfl⟩

/-- **The prefix renames.** Where enums are not wanted, the names given out under a prefix
are those given out without one, in the same order, with the prefix in front; they are the
names of the declarations. The declarations are the same, each under its other name and
with the other names in its references. In their texts only the names change, and every
name in them is declared. -/
theorem generate_withPrefix (interfacePrefix : String) (hoff : options.unionToEnum = false) :
    issuedNames api (options.withPrefix interfacePrefix) info =
        (issuedNames api (options.withPrefix "") info).map (interfacePrefix ++ ·) ∧
      let plain := generate api (options.withPrefix "") info
      let prefixed := generate api (options.withPrefix interfacePrefix) info
      issuedNames api (options.withPrefix "") info = plain.interfaceNames ∧
        prefixed.enums = plain.enums ∧
        prefixed.interfaces = plain.interfaces.map (Declaration.rename (interfacePrefix ++ ·)) ∧
        ∀ exported,
          plain.interfaceTexts exported =
            plain.interfaces.map (fun decl => partsText (decl.parts exported)) ∧
          prefixed.interfaceTexts exported =
            plain.interfaces.map (fun decl =>
              partsText ((decl.parts exported).map (TextPart.mapName (interfacePrefix ++ ·)))) ∧
          ∀ decl ∈ plain.interfaces, ∀ name,
            .name name ∈ decl.parts exported → name ∈ plain.interfaceNames := by
  obtain ⟨hresponse, hparameters, hregistry⟩ :=
    walks_withPrefix api options info interfacePrefix hoff
  have hinterfaces : (generate api (options.withPrefix interfacePrefix) info).interfaces =
      (generate api (options.withPrefix "") info).interfaces.map
        (Declaration.rename (interfacePrefix ++ ·)) := by
    simp only [generate_eq_walk, hresponse, hparameters, List.map_append]
  have hissued (interfacePrefix : String) :
      issuedNames api (options.withPrefix interfacePrefix) info =
        (generate api (options.withPrefix interfacePrefix) info).interfaceNames :=
    issuedNames_eq api (options.withPrefix interfacePrefix) hoff info
  constructor
  · rw [hissued interfacePrefix, hissued "", Declarations.interfaceNames, hinterfaces,
      List.map_map, Declarations.interfaceNames, List.map_map]
    exact List.map_congr_left fun decl _ => decl.name_rename _
  intro plain prefixed
  refine ⟨hissued "", ?_, hinterfaces, fun exported => ⟨?_, ?_,
    fun decl hdecl name hname => name_declared_of_mem_parts api _ info hdecl hname⟩⟩
  · simp only [prefixed, plain, generate_eq_walk, hregistry]
    rfl
  · exact List.map_congr_left fun decl _ => (decl.text_parts exported).symm
  · rw [Declarations.interfaceTexts, hinterfaces, List.map_map]
    refine List.map_congr_left fun decl _ => ?_
    rw [Function.comp_apply, ← Declaration.text_parts, Declaration.parts_rename]

/-- The object `parameters` of `jobParametersInfo` takes the name of the parameters, with
the prefix as without it. -/
theorem generate_withPrefix_displaced :
    let options : RenderOptions := { unionToEnum := false }
    options.unionToEnum = false ∧
      issuedNames "Job" (options.withPrefix "I") jobParametersInfo =
        ["IJobResponse", "IJobParameters", "IJobParameters1"] := by
  intro options
  refine ⟨rfl, ?_⟩
  have hplain : issuedNames "Job" (options.withPrefix "") jobParametersInfo =
      ["JobResponse", "JobParameters", "JobParameters1"] := by decide
  rw [(generate_withPrefix "Job" options jobParametersInfo "I" rfl).1, hplain]
  decide

end ApiTypings
