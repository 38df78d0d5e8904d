import ApiTypings.Proofs.DeclaredNames
import ApiTypings.Proofs.Requests
import ApiTypings.Proofs.TypeSegments

/-!
# Which declared names are identifiers

Every declared name is the stem of a request, perhaps with a number behind it, and a
number does not make a name an identifier or undo one. So whether all names of a
generation are identifiers is a question about the stems
(`Registry.forall_taken_handleAll_iff`), and about a stem only two things can be wrong
(`isIdentifier_iff`): a diacritic that a change of case brought in, and for an enum,
whose name starts with its property, a numeral in front.
-/

namespace ApiTypings

/-! ## Identifiers -/

def hasDiacritic (name : String) : Bool :=
  name.toList.any isDiacritic

theorem hasDiacritic_append (front back : String) :
    hasDiacritic (front ++ back) = (hasDiacritic front || hasDiacritic back) := by
  rw [hasDiacritic, String.toList_append, List.any_append]
  rfl

/-- A name of parts of identifiers and diacritics is an identifier if it starts as one
and has no diacritic. -/
theorem isIdentifier_iff {name : String} {first : Char} {rest : List Char}
    (hname : name.toList = first :: rest) (hparts : ∀ c ∈ name.toList, IsNamePart c) :
    isIdentifier name ↔ isIdentifierStart first ∧ hasDiacritic name = false := by
  have hidentifier : isIdentifier name ↔
      isIdentifierStart first ∧ ∀ c ∈ rest, isIdentifierPart c := by
    simp [isIdentifier, hname]
  have hplain : hasDiacritic name = false ↔ ∀ c ∈ first :: rest, isDiacritic c = false := by
    rw [hasDiacritic, hname, List.any_eq_false]
    simp
  rw [hname] at hparts
  rw [hidentifier, hplain]
  refine and_congr_right fun hstart => ⟨fun hrest c hc => ?_, fun hplain c hc => ?_⟩
  · have hpart : isIdentifierPart c := by
      rcases List.mem_cons.mp hc with rfl | hc
      · exact isIdentifierPart_of_start hstart
      · exact hrest c hc
    rw [Bool.eq_false_iff]
    intro hdiacritic
    rw [isIdentifierPart_of_isDiacritic hdiacritic] at hpart
    cases hpart
  · rcases hparts c (List.mem_cons_of_mem _ hc) with hpart | hdiacritic
    · exact hpart
    · rw [hplain c (List.mem_cons_of_mem _ hc)] at hdiacritic
      cases hdiacritic

/-- A name that is an identifier but for diacritics: it starts as one. -/
structure IsCasedName (name : String) : Prop where
  starts : ∃ first rest, name.toList = first :: rest ∧ isIdentifierStart first
  parts : ∀ c ∈ name.toList, IsNamePart c

namespace IsCasedName

variable {name front back : String}

theorem isIdentifier_iff (h : IsCasedName name) :
    isIdentifier name ↔ hasDiacritic name = false := by
  obtain ⟨first, rest, hname, hstart⟩ := h.starts
  rw [ApiTypings.isIdentifier_iff hname h.parts]
  exact and_iff_right hstart

theorem of_isIdentifier (h : isIdentifier name) : IsCasedName name := by
  cases hname : name.toList with
  | nil => simp [isIdentifier, hname] at h
  | cons first rest =>
      simp only [isIdentifier, hname, Bool.and_eq_true, List.all_eq_true] at h
      refine ⟨⟨first, rest, hname, h.1⟩, fun c hc => ?_⟩
      rw [hname] at hc
      rcases List.mem_cons.mp hc with rfl | hc
      · exact Or.inl (isIdentifierPart_of_start h.1)
      · exact Or.inl (h.2 c hc)

/-- Whatever stands behind it, the front of a name decides how it starts. -/
theorem append (h : IsCasedName front) (hback : ∀ c ∈ back.toList, IsNamePart c) :
    IsCasedName (front ++ back) where
  starts := by
    obtain ⟨first, rest, hfront, hstart⟩ := h.starts
    refine ⟨first, rest ++ back.toList, ?_, hstart⟩
    rw [String.toList_append, hfront, List.cons_append]
  parts c hc := by
    rw [String.toList_append, List.mem_append] at hc
    exact hc.elim (h.parts c) (hback c)

/-- The capital of a letter is a letter. -/
theorem upperFirst (h : isIdentifier name) : IsCasedName (upperFirst name) := by
  obtain ⟨⟨c, rest, hname, hstart⟩, hparts⟩ := of_isIdentifier h
  have hhead : ∀ d ∈ name.toList.head?, isIdentifierPart d := by
    intro d hd
    rw [hname, List.head?_cons, Option.mem_some] at hd
    exact hd ▸ isIdentifierPart_of_start hstart
  refine ⟨?_, upperFirst_parts hparts hhead⟩
  obtain ⟨first, others, himage, hfirst⟩ := (casedForm_upperChars c).exists_cons
  refine ⟨first, others ++ rest, ?_, ?_⟩
  · rw [toList_upperFirst hname, himage, List.cons_append]
  · rcases hfirst with rfl | ⟨-, hletter⟩
    · exact hstart
    · exact isIdentifierStart_of_isAlphabetic hletter

end IsCasedName

/-- Only the first character of a name is changed. -/
theorem upperFirst_append {front : String} (h : front.toList ≠ []) (back : String) :
    upperFirst (front ++ back) = upperFirst front ++ back := by
  obtain ⟨c, rest, hfront⟩ := List.exists_cons_of_ne_nil h
  have hlist : (front ++ back).toList = c :: (rest ++ back.toList) := by
    rw [String.toList_append, hfront, List.cons_append]
  rw [← String.toList_inj, toList_upperFirst hlist, String.toList_append,
    toList_upperFirst hfront, List.append_assoc]

/-! ## Numbers behind a name -/

theorem isIdentifierStart_of_isDigit {c : Char} (h : c.isDigit) :
    isIdentifierStart c = false := by
  have halphanumeric : isAlphanumeric c := by simp [isAlphanumeric, isNumeric_of_isDigit h]
  rw [isIdentifierStart_of_isAlphanumeric halphanumeric, Bool.eq_false_iff]
  intro hletter
  rw [isDigit_of_isAlphabetic hletter] at h
  cases h

/-- What stands behind the front of a name changes nothing if its characters can stand in a
name. -/
theorem isIdentifier_append {front back : String} (hfront : front.toList ≠ [])
    (hback : back.toList.all isIdentifierPart = true) :
    isIdentifier (front ++ back) = isIdentifier front := by
  obtain ⟨c, rest, hlist⟩ := List.exists_cons_of_ne_nil hfront
  rw [isIdentifier, isIdentifier, String.toList_append, hlist]
  simp only [List.cons_append, List.all_append, hback, Bool.and_true]

theorem isDigit_of_mem_toString {n : Nat} {c : Char} (h : c ∈ (toString n).toList) :
    c.isDigit := by
  rw [Nat.toString_eq_repr, Nat.toList_repr] at h
  exact Nat.isDigit_of_mem_toDigits (by decide) (by decide) h

theorem toString_all_isIdentifierPart (n : Nat) :
    (toString n).toList.all isIdentifierPart = true := by
  rw [List.all_eq_true]
  intro c hc
  simp [isIdentifierPart, isAlphanumeric, isNumeric_of_isDigit (isDigit_of_mem_toString hc)]

/-- A number behind a name changes nothing. -/
theorem isIdentifier_numbered (base : String) (n : Nat) :
    isIdentifier (Names.numbered base n) = isIdentifier base := by
  cases n with
  | zero => rfl
  | succ n =>
      by_cases hbase : base.toList = []
      · rw [Names.numbered, isIdentifier, isIdentifier, String.toList_append, hbase,
          List.nil_append]
        cases hnumber : (toString (n + 1)).toList with
        | nil => rfl
        | cons d rest =>
            have hdigit : d.isDigit := isDigit_of_mem_toString (hnumber ▸ List.mem_cons_self)
            simp [isIdentifierStart_of_isDigit hdigit]
      · exact isIdentifier_append hbase (toString_all_isIdentifierPart _)

/-! ## Names and stems -/

namespace Registry

variable {P : String → Prop} (hP : ∀ base n, P (Names.numbered base n) ↔ P base)

include hP

/-- One request takes a name only for its stem: a property of names that numbers do not
change holds of all that are taken after it exactly when it held before and holds of the
stem. -/
theorem forall_taken_handle_iff (registry : Registry) (request : Request) :
    (∀ name ∈ (registry.handle request).names.taken, P name) ↔
      (∀ name ∈ registry.names.taken, P name) ∧
        P (request.stem registry.names.interfacePrefix) := by
  cases request with
  | interface base =>
      obtain ⟨n, -, hname, -⟩ :=
        Names.exists_firstFree registry.names.taken (registry.names.stem base)
      have htaken : (registry.handle (.interface base)).names.taken =
          Names.numbered (registry.names.stem base) n :: registry.names.taken := by
        rw [← hname]
        rfl
      rw [htaken, List.forall_mem_cons, hP, and_comm]
      rfl
  | enum decl =>
      rw [handle]
      split
      · rename_i htaken
        exact ⟨fun h => ⟨h, h _ htaken⟩, And.left⟩
      · rw [List.forall_mem_cons, and_comm]
        rfl

theorem forall_taken_handleAll_iff (registry : Registry) (requests : List Request) :
    (∀ name ∈ (registry.handleAll requests).names.taken, P name) ↔
      (∀ name ∈ registry.names.taken, P name) ∧
        ∀ request ∈ requests, P (request.stem registry.names.interfacePrefix) := by
  induction requests generalizing registry with
  | nil => simp
  | cons request rest ih =>
      rw [handleAll_cons, ih, forall_taken_handle_iff hP, handle_prefix, List.forall_mem_cons,
        and_assoc]

end Registry

/-! ## What asks for a name -/

variable (api : String) (options : RenderOptions)

mutual
/-- Interfaces are asked for under names made of properties. -/
theorem interface_of_requestsOfShape {base : String} (property : String)
    (description : Option String) : ∀ shape : Shape,
    .interface base ∈ requestsOfShape api options property description shape →
      ∃ property, base = api ++ typeSegment property
  | .primitive _, h | .unknown, h => by simp [requestsOfShape] at h
  | .enumeration titles, h => by
      rw [requestsOfShape] at h
      split at h
      · cases h
      · cases List.mem_singleton.mp h
  | .arrayOf items, h => by
      rw [requestsOfShape] at h
      exact interface_of_requestsOfShape property description items h
  | .objectWith fields, h => by
      rw [requestsOfShape, List.mem_cons] at h
      rcases h with h | h
      · exact ⟨property, Request.interface.inj h⟩
      · exact interface_of_requestsOfFields [] fields h
theorem interface_of_requestsOfFields {base : String} (seen : List String) :
    ∀ fields : List Field, .interface base ∈ requestsOfFields api options seen fields →
      ∃ property, base = api ++ typeSegment property
  | [], h => by simp [requestsOfFields] at h
  | .mk name _ note shape :: rest, h => by
      rw [requestsOfFields] at h
      split at h
      · exact interface_of_requestsOfFields seen rest h
      · rcases List.mem_append.mp h with h | h
        · exact interface_of_requestsOfShape name note.description shape h
        · exact interface_of_requestsOfFields _ rest h
end

variable (info : ApiInfo)

def requestsOf : List Request :=
  responseRequests api options info ++ parametersRequests api options info

/-- An interface is asked for under the name of the API and the segment of a property;
the two entry declarations have properties of their own, `Response` and
`Parameters`. -/
def AsksForInterface (property : String) : Prop :=
  .interface (api ++ typeSegment property) ∈ requestsOf api options info

def AsksForEnum (property : String) : Prop :=
  ∃ decl, .enum decl ∈ requestsOf api options info ∧ decl.name = enumName property

theorem interface_of_requestsOf {base : String}
    (h : .interface base ∈ requestsOf api options info) :
    ∃ property, base = api ++ typeSegment property := by
  rw [requestsOf, responseRequests, parametersRequests, List.mem_append, List.mem_cons,
    List.mem_cons] at h
  rcases h with (h | h) | (h | h)
  · exact ⟨"Response", Request.interface.inj h⟩
  · rw [nestedRequests.eq_def] at h
    split at h
    · exact interface_of_requestsOfFields api options [] _ h
    · cases h
  · exact ⟨"Parameters", Request.interface.inj h⟩
  · exact interface_of_requestsOfFields api options [] _ h

theorem enum_of_requestsOf {decl : EnumDecl} (h : .enum decl ∈ requestsOf api options info) :
    ∃ property, decl.name = enumName property := by
  rcases List.mem_append.mp h with h | h
  · exact (enum_of_responseRequests api options info h).2
  · exact (enum_of_parametersRequests api options info h).2

/-! ## The names of a generation -/

/-- The name of an interface is an identifier unless a diacritic comes in with the capital
of the API or with the segment of the property. -/
theorem isIdentifier_interface_stem (hapi : isIdentifier api)
    (hfront : options.interfacePrefix = "" ∨ isIdentifier options.interfacePrefix)
    (property : String) :
    isIdentifier (options.interfacePrefix ++ upperFirst (api ++ typeSegment property)) ↔
      hasDiacritic (upperFirst api) = false ∧ hasDiacritic (typeSegment property) = false := by
  have hne : api.toList ≠ [] := by
    obtain ⟨⟨first, rest, happ, -⟩, -⟩ := IsCasedName.of_isIdentifier hapi
    rw [happ]
    exact List.cons_ne_nil first rest
  have hinner : IsCasedName (upperFirst api ++ typeSegment property) :=
    (IsCasedName.upperFirst hapi).append (typeSegment_parts property)
  rw [upperFirst_append hne]
  rcases hfront with hempty | hfront
  · rw [hempty, String.empty_append, hinner.isIdentifier_iff, hasDiacritic_append,
      Bool.or_eq_false_iff]
  · have hwhole := (IsCasedName.of_isIdentifier hfront).append hinner.parts
    have hplain : hasDiacritic options.interfacePrefix = false :=
      (IsCasedName.of_isIdentifier hfront).isIdentifier_iff.mp hfront
    rw [hwhole.isIdentifier_iff, hasDiacritic_append, hplain, Bool.false_or,
      hasDiacritic_append, Bool.or_eq_false_iff]

/-- The name of an enum is an identifier unless a diacritic comes in with its property or
a numeral of the property is in front. -/
theorem isIdentifier_enumName (property : String) :
    isIdentifier (enumName property) ↔
      hasDiacritic (typeSegment property) = false ∧ startsNumeral property = false := by
  obtain ⟨first, rest, hname, hfirst⟩ := enumName_eq_cons property
  have hending : "Enum".toList.all isIdentifierPart = true := by decide
  have hparts : ∀ c ∈ (enumName property).toList, IsNamePart c := by
    intro c hc
    rw [enumName, String.toList_append, List.mem_append] at hc
    rcases hc with hc | hc
    · exact typeSegment_parts property c hc
    · exact Or.inl (List.all_eq_true.mp hending c hc)
  have hplain : hasDiacritic "Enum" = false := by decide
  rw [isIdentifier_iff hname hparts, hfirst, enumName, hasDiacritic_append, hplain]
  simp [and_comm]

/-- The names of a generation are identifiers exactly when the stems of its requests
are. -/
theorem declared_names_identifiers_iff_stems :
    (∀ name ∈ (generate api options info).enumNames ++
        (generate api options info).interfaceNames, isIdentifier name) ↔
      ∀ request ∈ requestsOf api options info,
        isIdentifier (request.stem options.interfacePrefix) := by
  have hperm := taken_perm_declared api options info
  rw [parametersWalk_registry] at hperm
  have hall := Registry.forall_taken_handleAll_iff (P := (isIdentifier · = true))
    (fun base n => by rw [isIdentifier_numbered]) (Registry.empty options)
    (requestsOf api options info)
  have hbefore : ∀ name ∈ (Registry.empty options).names.taken, isIdentifier name = true :=
    fun name hname => by cases hname
  simp only [← hperm.mem_iff]
  exact hall.trans (and_iff_right hbefore)

/-- **When all names are identifiers.** With an identifier for the API, and one or nothing
for the prefix, the names of all declarations are identifiers exactly when no change of
case brings a diacritic into the name of the API or into the segment of a property that
something is named after, and no property that an enum is named after has a numeral in
front. -/
theorem declared_names_identifiers_iff (hapi : isIdentifier api)
    (hfront : options.interfacePrefix = "" ∨ isIdentifier options.interfacePrefix) :
    (∀ name ∈ (generate api options info).enumNames ++
        (generate api options info).interfaceNames, isIdentifier name) ↔
      hasDiacritic (upperFirst api) = false ∧
        (∀ property, AsksForInterface api options info property ∨
            AsksForEnum api options info property →
          hasDiacritic (typeSegment property) = false) ∧
        ∀ property, AsksForEnum api options info property →
          startsNumeral property = false := by
  rw [declared_names_identifiers_iff_stems]
  constructor
  · intro h
    have hinterface : ∀ property, AsksForInterface api options info property →
        hasDiacritic (upperFirst api) = false ∧
          hasDiacritic (typeSegment property) = false := fun property hasks =>
      (isIdentifier_interface_stem api options hapi hfront property).mp (h _ hasks)
    have henum : ∀ property, AsksForEnum api options info property →
        hasDiacritic (typeSegment property) = false ∧ startsNumeral property = false := by
      rintro property ⟨decl, hdecl, hname⟩
      exact (isIdentifier_enumName property).mp (hname ▸ h _ hdecl)
    have hresponse : AsksForInterface api options info "Response" := List.mem_cons_self
    exact ⟨(hinterface _ hresponse).1,
      fun property hasks => hasks.elim (fun h => (hinterface property h).2)
        (fun h => (henum property h).1),
      fun property hasks => (henum property hasks).2⟩
  · rintro ⟨happ, hplain, hnumeral⟩ request hrequest
    cases request with
    | interface base =>
        obtain ⟨property, rfl⟩ := interface_of_requestsOf api options info hrequest
        exact (isIdentifier_interface_stem api options hapi hfront property).mpr
          ⟨happ, hplain property (Or.inl hrequest)⟩
    | enum decl =>
        obtain ⟨property, hname⟩ := enum_of_requestsOf api options info hrequest
        have hasks : AsksForEnum api options info property := ⟨decl, hrequest, hname⟩
        rw [Request.stem, hname]
        exact (isIdentifier_enumName property).mpr
          ⟨hplain property (Or.inr hasks), hnumeral property hasks⟩

/-- Keys that are no identifiers: one of a nested object, one of an enumerated string. -/
def taggedInfo : ApiInfo :=
  let schema : Schema := {
    kind := some "object"
    properties := some [
      ("x-acs-id", { kind := some "object", properties := some [] }),
      ("1.Tag", { kind := some "string", titles := some [("a", none)] })] }
  { responses := [("200", { schema := some schema })] }

theorem declared_names_identifiers_tagged :
    isIdentifier "Job" = true ∧ isIdentifier "$" = true ∧
      AsksForInterface "Job" { interfacePrefix := "$" } taggedInfo "x-acs-id" ∧
      AsksForEnum "Job" { interfacePrefix := "$" } taggedInfo "1.Tag" ∧
      (∀ name ∈ (generate "Job" { interfacePrefix := "$" } taggedInfo).enumNames ++
          (generate "Job" { interfacePrefix := "$" } taggedInfo).interfaceNames,
        isIdentifier name) ∧
      ∀ property, AsksForEnum "Job" { interfacePrefix := "$" } taggedInfo property →
        startsNumeral property = false := by
  have hnames : ∀ name ∈ (generate "Job" { interfacePrefix := "$" } taggedInfo).enumNames ++
      (generate "Job" { interfacePrefix := "$" } taggedInfo).interfaceNames,
      isIdentifier name = true := by
    decide +kernel
  have happ : isIdentifier "Job" = true := by decide +kernel
  have hfront : isIdentifier "$" = true := by decide +kernel
  refine ⟨happ, hfront, List.mem_cons_of_mem _ List.mem_cons_self,
    ⟨_, List.mem_cons_of_mem _ (List.mem_cons_of_mem _ List.mem_cons_self), rfl⟩, hnames, ?_⟩
  exact ((declared_names_identifiers_iff "Job" { interfacePrefix := "$" } taggedInfo happ
    (Or.inr hfront)).mp hnames).2.2

def secondFactorInfo : ApiInfo :=
  let schema : Schema := {
    kind := some "object"
    properties := some [("2fa", { kind := some "string", titles := some [("a", none)] })] }
  { responses := [("200", { schema := some schema })] }

/-- **Names that are none.** The enum of `2fa` is named after it as it is, with the digit in
front. Neither does the underscore guard a numeral outside ASCII, and the capital of `ǰ`
has a caron behind the letter. -/
theorem second_factor_enum_no_identifier :
    isIdentifier "Job" = true ∧
      (generate "Job" {} secondFactorInfo).enumNames = ["2faEnum"] ∧
      isIdentifier "2faEnum" = false ∧
      enumName "²-a" = "²AEnum" ∧ isIdentifier "²AEnum" = false ∧
      enumName "ǰ" = "J\u030CEnum" ∧ isIdentifier "J\u030CEnum" = false := by
  decide +kernel

end ApiTypings
