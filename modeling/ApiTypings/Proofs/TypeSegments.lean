import ApiTypings.Declaration.Generation
import ApiTypings.Proofs.CasedLetters

/-!
# The characters of type segments

What a property contributes to a type name, character by character. Cutting a name into
words loses only the characters between them (`flatten_wordsOf`), so the first letter of
a camel-cased segment stems from the first letter or numeral of the property. A segment
then has only parts of identifiers and diacritics (`typeSegment_parts`), and as the front
of a name it is as good as its first character: a numeral is guarded by an underscore
only where it is a decimal digit of ASCII and the segment is camel-cased
(`enumName_eq_cons`).
-/

namespace ApiTypings

/-! ## Words -/

theorem flatten_splitWhen (stop : Char → Bool) (text : List Char) :
    (splitWhen stop text).flatten = text.filter (fun c => !stop c) := by
  induction text with
  | nil => rfl
  | cons c rest ih =>
      rw [splitWhen]
      by_cases hstop : stop c
      · simp [hstop, ih]
      · obtain ⟨piece, pieces, hsplit⟩ := List.exists_cons_of_ne_nil (splitWhen_ne_nil stop rest)
        rw [hsplit] at ih ⊢
        simpa [hstop] using ih

/-- The words of a piece, one after the other, are the piece. -/
theorem flatten_wordsOfPiece (mode : CaseMode) (word piece : List Char) :
    (wordsOfPiece mode word piece).flatten = word.reverse ++ piece := by
  fun_induction wordsOfPiece mode word piece <;> simp_all

/-- **Words lose only what is between them.** -/
theorem flatten_wordsOf (name : String) :
    (wordsOf name).flatten = name.toList.filter isAlphanumeric := by
  have hpieces : ∀ pieces : List (List Char),
      (pieces.flatMap (wordsOfPiece .boundary [])).flatten = pieces.flatten := by
    intro pieces
    induction pieces with
    | nil => rfl
    | cons piece rest ih => simp [ih, flatten_wordsOfPiece]
  rw [wordsOf, hpieces, flatten_splitWhen]
  simp

/-- There is no empty word. -/
theorem ne_nil_of_mem_wordsOfPiece {mode : CaseMode} {word piece : List Char}
    (h : mode = .upper → word ≠ []) :
    ∀ w ∈ wordsOfPiece mode word piece, w ≠ [] := by
  fun_induction wordsOfPiece mode word piece <;> simp_all

theorem ne_nil_of_mem_wordsOf {name : String} {word : List Char} (h : word ∈ wordsOf name) :
    word ≠ [] := by
  obtain ⟨piece, -, hword⟩ := List.mem_flatMap.mp h
  have hmode : CaseMode.boundary = .upper → ([] : List Char) ≠ [] := fun hupper => by cases hupper
  exact ne_nil_of_mem_wordsOfPiece hmode word hword

/-- The first letter or numeral of a name starts its first word. -/
theorem wordsOf_eq_cons {name : String} {c : Char}
    (h : name.toList.find? isAlphanumeric = some c) :
    ∃ word words, wordsOf name = (c :: word) :: words := by
  obtain ⟨others, hothers⟩ : ∃ others, (wordsOf name).flatten = c :: others := by
    rw [flatten_wordsOf]
    rw [← List.head?_filter] at h
    exact List.head?_eq_some_iff.mp h
  cases hwords : wordsOf name with
  | nil =>
      rw [hwords] at hothers
      cases hothers
  | cons first words =>
      obtain ⟨d, word, rfl⟩ := List.exists_cons_of_ne_nil
        (ne_nil_of_mem_wordsOf (hwords ▸ List.mem_cons_self))
      rw [hwords] at hothers
      obtain rfl : d = c := (List.cons.inj hothers).1
      exact ⟨word, words, rfl⟩

/-- A name without letters and numerals has no words. -/
theorem wordsOf_eq_nil {name : String} (h : name.toList.find? isAlphanumeric = none) :
    wordsOf name = [] := by
  have hnone : (wordsOf name).flatten = [] := by
    rw [flatten_wordsOf, ← List.head?_eq_none_iff, List.head?_filter]
    exact h
  rw [List.eq_nil_iff_forall_not_mem]
  intro word hword
  exact ne_nil_of_mem_wordsOf hword (List.flatten_eq_nil_iff.mp hnone word hword)

theorem mem_lowerWord {d : Char} {word : List Char} (h : d ∈ lowerWord word) :
    d = 'ς' ∨ ∃ c ∈ word, d ∈ lowerChars c := by
  fun_induction lowerWord word with
  | case1 => cases h
  | case2 => exact Or.inl (List.mem_singleton.mp h)
  | case3 c _ => exact Or.inr ⟨c, List.mem_singleton.mpr rfl, h⟩
  | case4 c rest _ ih =>
      rcases List.mem_append.mp h with h | h
      · exact Or.inr ⟨c, List.mem_cons_self, h⟩
      · rcases ih h with h | ⟨c', hc', h⟩
        · exact Or.inl h
        · exact Or.inr ⟨c', List.mem_cons_of_mem _ hc', h⟩

/-- A capitalised word has only capital and small forms of its characters, and final
sigmas. -/
theorem mem_capitalWord {d : Char} {word : List Char} (h : d ∈ capitalWord word) :
    d = 'ς' ∨ ∃ c ∈ word, d ∈ upperChars c ∨ d ∈ lowerChars c := by
  cases word with
  | nil => cases h
  | cons c rest =>
      rcases List.mem_append.mp h with h | h
      · exact Or.inr ⟨c, List.mem_cons_self, Or.inl h⟩
      · exact (mem_lowerWord h).imp_right fun ⟨c', hc', h⟩ =>
          ⟨c', List.mem_cons_of_mem _ hc', Or.inr h⟩

/-! ## Camel case -/

/-- A character that can be in a name made of properties: a part of an identifier, or a
diacritic that a change of case brought in. -/
def IsNamePart (c : Char) : Prop :=
  isIdentifierPart c ∨ isDiacritic c

theorem upperCamel_parts (name : String) :
    ∀ d ∈ (upperCamel name).toList, IsNamePart d := by
  intro d hd
  rw [upperCamel, String.toList_ofList, List.mem_flatMap] at hd
  obtain ⟨word, hword, hd⟩ := hd
  rcases mem_capitalWord hd with rfl | ⟨c, hc, hd⟩
  · exact Or.inl (by decide +kernel)
  · have hmem : c ∈ name.toList.filter isAlphanumeric := by
      rw [← flatten_wordsOf]
      exact List.mem_flatten_of_mem hword hc
    have hpart : isIdentifierPart c := by
      simp [isIdentifierPart, (List.mem_filter.mp hmem).2]
    exact hd.elim ((casedForm_upperChars c).part_or_diacritic hpart)
      ((casedForm_lowerChars c).part_or_diacritic hpart)

/-- A name with a letter or numeral has a camel case, which starts with a form of the
first of them. -/
theorem upperCamel_eq_cons {name : String} {c : Char}
    (h : name.toList.find? isAlphanumeric = some c) :
    ∃ first rest, (upperCamel name).toList = first :: rest ∧
      (first = c ∨ isAlphabetic c ∧ isAlphabetic first) := by
  obtain ⟨word, words, hwords⟩ := wordsOf_eq_cons h
  obtain ⟨first, rest, himage, hfirst⟩ := (casedForm_upperChars c).exists_cons
  refine ⟨first, rest ++ lowerWord word ++ words.flatMap capitalWord, ?_, hfirst⟩
  rw [upperCamel, String.toList_ofList, hwords, List.flatMap_cons, capitalWord, himage]
  rfl

/-- A name without letters and numerals has no camel case. -/
theorem upperCamel_eq_empty {name : String} (h : name.toList.find? isAlphanumeric = none) :
    upperCamel name = "" := by
  rw [upperCamel, wordsOf_eq_nil h]
  rfl

/-! ## Segments -/

theorem toList_upperFirst {text : String} {c : Char} {rest : List Char}
    (h : text.toList = c :: rest) : (upperFirst text).toList = upperChars c ++ rest := by
  rw [upperFirst, h, String.toList_ofList]

theorem upperFirst_parts {text : String} (h : ∀ c ∈ text.toList, IsNamePart c)
    (hfirst : ∀ c ∈ text.toList.head?, isIdentifierPart c) :
    ∀ d ∈ (upperFirst text).toList, IsNamePart d := by
  cases htext : text.toList with
  | nil =>
      rw [upperFirst, htext]
      simp
  | cons c rest =>
      rw [htext] at h hfirst
      rw [toList_upperFirst htext]
      intro d hd
      rcases List.mem_append.mp hd with hd | hd
      · exact (casedForm_upperChars c).part_or_diacritic (hfirst c rfl) hd
      · exact h d (List.mem_cons_of_mem _ hd)

/-- **The characters of a segment.** Whatever a property is made of, its segment has only
parts of identifiers and diacritics. -/
theorem typeSegment_parts (property : String) :
    ∀ d ∈ (typeSegment property).toList, IsNamePart d := by
  rw [typeSegment]
  split
  · rename_i hparts
    rw [List.all_eq_true] at hparts
    exact upperFirst_parts (fun c hc => Or.inl (hparts c hc))
      fun c hc => hparts c (List.mem_of_mem_head? hc)
  · have hmark : IsNamePart '_' := Or.inl (by decide)
    simp only
    split
    · simpa using hmark
    · split
      · intro d hd
        rw [String.toList_append, List.mem_append] at hd
        rcases hd with hd | hd
        · rw [List.mem_singleton.mp hd]
          exact hmark
        · exact upperCamel_parts property d hd
      · exact upperCamel_parts property

/-- Whether the segment of a property has a numeral in front: one that the property
starts with if it is taken as it is, and one outside ASCII that comes before all letters
if it is camel-cased. -/
def startsNumeral (property : String) : Bool :=
  if property.toList.all isIdentifierPart then
    property.toList.head?.any fun c => !isIdentifierStart c
  else
    (property.toList.find? isAlphanumeric).any fun c => !isAlphabetic c && !c.isDigit

theorem isDigit_of_isAlphabetic {c : Char} (h : isAlphabetic c) : c.isDigit = false := by
  rw [Bool.eq_false_iff]
  intro hdigit
  have hdigit := toNat_of_isDigit hdigit
  rw [isAlphabetic_of_ascii (by omega)] at h
  have hletter := toNat_of_isAlpha h
  omega

/-- A letter or numeral starts an identifier only if it is a letter. -/
theorem isIdentifierStart_of_isAlphanumeric {c : Char} (h : isAlphanumeric c) :
    isIdentifierStart c = isAlphabetic c := by
  have hunderscore : (c == '_') = false :=
    beq_eq_false_iff_ne.mpr fun hc => absurd (hc ▸ h) (by decide +kernel)
  have hdollar : (c == '$') = false :=
    beq_eq_false_iff_ne.mpr fun hc => absurd (hc ▸ h) (by decide +kernel)
  rw [isIdentifierStart, hunderscore, hdollar, Bool.or_false, Bool.or_false]

theorem isIdentifierStart_of_isAlphabetic {c : Char} (h : isAlphabetic c) :
    isIdentifierStart c := by
  simp [isIdentifierStart, h]

/-- An underscore in front of a digit leaves only a numeral outside ASCII to start a name as
no identifier starts. Here `first` starts a form of `c` in another case. -/
theorem isIdentifierStart_guarded {c first : Char} (hc : isAlphanumeric c)
    (h : first = c ∨ isAlphabetic c ∧ isAlphabetic first) :
    isIdentifierStart (if first.isDigit then '_' else first) =
      !(!isAlphabetic c && !c.isDigit) := by
  rcases h with rfl | ⟨hletter, hfirst⟩
  · by_cases hdigit : first.isDigit
    · simp [hdigit, isIdentifierStart]
    · rw [if_neg hdigit, isIdentifierStart_of_isAlphanumeric hc]
      simp [hdigit]
  · have hdigit : ¬first.isDigit := by simp [isDigit_of_isAlphabetic hfirst]
    rw [if_neg hdigit, isIdentifierStart_of_isAlphabetic hfirst, hletter]
    rfl

/-- **The front of a segment.** The name of an enum starts as an identifier does unless
its property has a numeral in front. -/
theorem enumName_eq_cons (property : String) :
    ∃ first rest, (enumName property).toList = first :: rest ∧
      isIdentifierStart first = !startsNumeral property := by
  rw [enumName, String.toList_append, typeSegment, startsNumeral]
  split
  · cases hproperty : property.toList with
    | nil =>
        rw [upperFirst, hproperty]
        exact ⟨'E', _, rfl, by decide +kernel⟩
    | cons c rest =>
        obtain ⟨first, others, himage, hfirst⟩ := (casedForm_upperChars c).exists_cons
        rw [toList_upperFirst hproperty, himage]
        refine ⟨first, _, rfl, ?_⟩
        rcases hfirst with rfl | ⟨hletter, hfirst⟩
        · simp
        · simp [isIdentifierStart_of_isAlphabetic, hletter, hfirst]
  · cases hfind : property.toList.find? isAlphanumeric with
    | none =>
        rw [upperCamel_eq_empty hfind]
        exact ⟨'_', _, rfl, by decide +kernel⟩
    | some c =>
        obtain ⟨first, others, hsegment, hfirst⟩ := upperCamel_eq_cons hfind
        have hstart := isIdentifierStart_guarded (List.find?_some hfind) hfirst
        simp only [hsegment]
        by_cases hdigit : first.isDigit
        · rw [if_pos hdigit] at hstart
          exact ⟨'_', (upperCamel property).toList ++ "Enum".toList, by simp [hdigit], hstart⟩
        · rw [if_neg hdigit] at hstart
          exact ⟨first, others ++ "Enum".toList, by simp [hdigit, hsegment], hstart⟩

end ApiTypings
