import ApiTypings.Proofs.DeclaredNames
import ApiTypings.Proofs.Requests

/-!
# The names of the entry declarations

The response of an API is the first to ask for a name, so it always has the one that is
documented. The parameters ask when all objects nested in the response have their names.
An object there whose property reads `parameters` takes the documented name away, and
then the interface of the parameters gets a number: `entry_declaration_names` says which
number, and for which responses there is none.
-/

namespace ApiTypings

/-! ## Last characters

The stems of the two entry declarations, numbered names and names of enums end in
different characters. -/

theorem getLast?_upperFirst_append (front : String) {text : String} {c d : Char}
    {rest : List Char} (h : text.toList = c :: d :: rest) :
    (upperFirst (front ++ text)).toList.getLast? = text.toList.getLast? := by
  rw [upperFirst, String.toList_append, h]
  cases front.toList with
  | nil =>
      rw [List.nil_append, String.toList_ofList, List.getLast?_cons_cons]
      exact List.getLast?_append_of_ne_nil _ (List.cons_ne_nil d rest)
  | cons a others =>
      rw [List.cons_append, String.toList_ofList, ← List.append_assoc]
      exact List.getLast?_append_of_ne_nil _ (List.cons_ne_nil c (d :: rest))

theorem getLast?_append_toList (front : String) {text : String} {c : Char}
    (h : text.toList.getLast? = some c) : (front ++ text).toList.getLast? = some c := by
  rw [String.toList_append, List.getLast?_append, h]
  rfl

theorem getLast?_enumName (property : String) :
    (enumName property).toList.getLast? = some 'm' :=
  getLast?_append_toList _ rfl

variable (api : String) (options : RenderOptions)

/-- The documented name of the interface of the parameters. -/
def documentedParameters : String :=
  options.interfacePrefix ++ upperFirst (api ++ "Parameters")

def documentedResponse : String :=
  options.interfacePrefix ++ upperFirst (api ++ "Response")

theorem getLast?_documentedParameters :
    (documentedParameters api options).toList.getLast? = some 's' :=
  getLast?_append_toList _ (getLast?_upperFirst_append api rfl)

theorem getLast?_documentedResponse :
    (documentedResponse api options).toList.getLast? = some 'e' :=
  getLast?_append_toList _ (getLast?_upperFirst_append api rfl)

theorem endsPlain_documentedParameters : Names.EndsPlain (documentedParameters api options) :=
  ⟨'s', getLast?_documentedParameters api options, by decide⟩

theorem documentedResponse_ne_documentedParameters :
    documentedResponse api options ≠ documentedParameters api options := by
  intro h
  have hlast := getLast?_documentedResponse api options
  rw [h, getLast?_documentedParameters] at hlast
  exact absurd hlast (by decide)

theorem enumName_ne_documentedParameters (property : String) :
    enumName property ≠ documentedParameters api options := by
  intro h
  have hlast := getLast?_enumName property
  rw [h, getLast?_documentedParameters] at hlast
  exact absurd hlast (by decide)

/-- No enum has the documented name, with or without a number behind it. -/
theorem enumName_ne_numbered (property : String) (n : ℕ) :
    enumName property ≠ Names.numbered (documentedParameters api options) n := by
  cases n with
  | zero => exact enumName_ne_documentedParameters api options property
  | succ n =>
      intro h
      apply Names.not_endsPlain_numbered (documentedParameters api options) n
      rw [← h]
      exact ⟨'m', getLast?_enumName property, by decide⟩

variable (info : ApiInfo)

theorem enum_of_responseWalk {decl : EnumDecl}
    (h : decl ∈ (responseWalk api options info).registry.enums) :
    ∃ property, decl.name = enumName property := by
  rw [responseWalk_registry] at h
  rcases Registry.mem_enums_handleAll h with h | h
  · cases h
  · exact (enum_of_responseRequests api options info h).2

/-! ## What the response takes -/

/-- Of the names taken by the response, the numbered forms of the documented name are
those of interfaces. -/
theorem numbered_mem_taken_iff (n : ℕ) :
    Names.numbered (documentedParameters api options) n ∈
        (responseWalk api options info).registry.names.taken ↔
      Names.numbered (documentedParameters api options) n ∈
        (responseWalk api options info).declared.map Declaration.name := by
  obtain ⟨enums, henums, htaken⟩ := (responseWalk_extends api options info).taken
  rw [htaken.mem_iff, List.mem_append, List.mem_append]
  have hnil : (Registry.empty options).names.taken = [] := rfl
  rw [hnil, or_iff_left List.not_mem_nil, or_iff_right]
  intro hmem
  obtain ⟨decl, hdecl, hname⟩ := List.mem_map.mp hmem
  have hall : decl ∈ (responseWalk api options info).registry.enums := by
    rw [henums]
    exact List.mem_append_right _ hdecl
  obtain ⟨property, hproperty⟩ := enum_of_responseWalk api options info hall
  exact enumName_ne_numbered api options property n (hproperty.symm.trans hname)

/-- The response takes the documented name of the parameters exactly when an object
nested in it asks for that name. -/
theorem documentedParameters_mem_taken_iff :
    documentedParameters api options ∈
        (responseWalk api options info).registry.names.taken ↔
      ∃ base, .interface base ∈
          nestedRequests api options (info.successSchema.map Schema.shape) ∧
        upperFirst base = upperFirst (api ++ "Parameters") := by
  rw [responseWalk_registry,
    Registry.mem_taken_handleAll_iff (endsPlain_documentedParameters api options)]
  have hnil : (Registry.empty options).names.taken = [] := rfl
  rw [hnil, or_iff_right List.not_mem_nil, responseRequests]
  constructor
  · rintro ⟨request, hmem, hstem⟩
    cases request with
    | interface base =>
        have hbase : upperFirst base = upperFirst (api ++ "Parameters") :=
          (String.append_right_inj _).mp hstem
        rcases List.mem_cons.mp hmem with heq | hmem
        · injection heq with heq
          subst heq
          exact absurd hstem (documentedResponse_ne_documentedParameters api options)
        · exact ⟨base, hmem, hbase⟩
    | enum decl =>
        obtain ⟨-, property, hproperty⟩ := enum_of_responseRequests api options info hmem
        have hname : decl.name = documentedParameters api options := hstem
        exact absurd (hproperty.symm.trans hname)
          (enumName_ne_documentedParameters api options property)
  · rintro ⟨base, hmem, hbase⟩
    exact ⟨.interface base, List.mem_cons_of_mem _ hmem,
      congrArg (options.interfacePrefix ++ ·) hbase⟩

/-! ## The entry declarations -/

theorem firstFree_nil (base : String) : Names.firstFree [] base = base :=
  Names.firstFree_of_not_mem List.not_mem_nil

theorem responseWalk_declared : ∃ entry nested,
    (responseWalk api options info).declared = entry :: nested ∧
      entry.name = documentedResponse api options := by
  rw [responseWalk, walkResponse.eq_def]
  split
  · exact ⟨_, _, rfl, firstFree_nil _⟩
  · exact ⟨_, _, rfl, firstFree_nil _⟩

theorem parametersWalk_declared : ∃ registry rest,
    (parametersWalk api options info).declared =
      .interface (Names.firstFree (responseWalk api options info).registry.names.taken
          (documentedParameters api options))
        (walkFields api options registry [] (info.parameters.map Parameter.toField)).result ::
          rest := by
  have hprefix : (responseWalk api options info).registry.names.interfacePrefix =
      options.interfacePrefix := (responseWalk_extends api options info).samePrefix
  rw [documentedParameters, ← hprefix]
  exact ⟨_, _, rfl⟩

/-- **The names of the entry declarations.** The first declaration is that of the
response, under its documented name. The interface of the parameters stands behind all
declarations of the response. It has its documented name with the least number that makes
it different from all of theirs; there is no number exactly when no object nested in the
response asks for that name. -/
theorem entry_declaration_names : ∃ entry nested n registry rest,
    (generate api options info).interfaces = entry :: nested ++
      .interface (Names.numbered (documentedParameters api options) n)
        (walkFields api options registry []
          (info.parameters.map Parameter.toField)).result :: rest ∧
    entry :: nested = (responseWalk api options info).declared ∧
    entry.name = documentedResponse api options ∧
    Names.numbered (documentedParameters api options) n ∉
      (entry :: nested).map Declaration.name ∧
    (∀ m < n, Names.numbered (documentedParameters api options) m ∈
      (entry :: nested).map Declaration.name) ∧
    (n = 0 ↔ ∀ base, .interface base ∈
        nestedRequests api options (info.successSchema.map Schema.shape) →
      upperFirst base ≠ upperFirst (api ++ "Parameters")) := by
  obtain ⟨entry, nested, hresponse, hentry⟩ := responseWalk_declared api options info
  obtain ⟨n, -, hname, hfree, hbefore⟩ := Names.exists_firstFree
    (responseWalk api options info).registry.names.taken (documentedParameters api options)
  obtain ⟨registry, rest, hdeclared⟩ := parametersWalk_declared api options info
  refine ⟨entry, nested, n, registry, rest, ?_, hresponse.symm, hentry, ?_, ?_, ?_⟩
  · rw [generate_eq_walk, hdeclared, hname, hresponse]
  · intro hmem
    rw [← hresponse] at hmem
    exact hfree ((numbered_mem_taken_iff api options info n).mpr hmem)
  · intro m hm
    rw [← hresponse]
    exact (numbered_mem_taken_iff api options info m).mp (hbefore m hm)
  · have hzero : n = 0 ↔ documentedParameters api options ∉
        (responseWalk api options info).registry.names.taken := by
      constructor
      · rintro rfl
        exact hfree
      · intro hnot
        by_contra hne
        exact hnot (hbefore 0 (Nat.pos_of_ne_zero hne))
    rw [hzero, documentedParameters_mem_taken_iff]
    push Not
    rfl

/-- An object `parameters` in the response, beside one parameter. -/
def jobParametersInfo : ApiInfo :=
  let schema : Schema := {
    kind := some "object"
    properties := some [("parameters", { kind := some "object", properties := some [] })] }
  { parameters := [{ name := "id", schema := some { kind := some "integer" } }]
    responses := [("200", { schema := some schema })] }

/-- **A displaced entry.** In the API `Job`, the object `parameters` of the response has the
name that is documented for the parameters, and they have a number. -/
theorem job_parameters_are_displaced :
    documentedParameters "Job" {} = "JobParameters" ∧
      (generate "Job" {} jobParametersInfo).interfaces =
        [.interface "JobResponse"
            [⟨none, "parameters", false, .interface "JobParameters"⟩],
          .interface "JobParameters" [],
          .interface "JobParameters1" [⟨none, "id", false, .primitive .integer⟩]] := by
  decide

end ApiTypings
