import ApiTypings.Proofs.EnumMembers
import ApiTypings.Proofs.IdentifierNames

/-!
# Which members of an enum are identifiers

The name of a member is made of the capitals of its value's letters and numerals, with
underscores between the words. A number that makes it different from the names before it
stands behind it and changes nothing (`isIdentifier_freeMember`), so whether a member is an
identifier is a question about its value: what its first letter or numeral is, and whether a
capital is written with a diacritic (`member_identifier_iff`).
-/

namespace ApiTypings

/-! ## Upper snake case -/

theorem mem_intercalate {d : Char} {separator : List Char} (h : d ∉ separator)
    (pieces : List (List Char)) :
    d ∈ separator.intercalate pieces ↔ ∃ piece ∈ pieces, d ∈ piece := by
  induction pieces with
  | nil => simp
  | cons piece rest ih =>
      cases rest with
      | nil => simp
      | cons next rest =>
          rw [List.intercalate_cons_cons, List.mem_append, List.mem_append, ih,
            List.exists_mem_cons_iff]
          simp [h]

/-- Behind the underscores of an upper snake case are the capitals of the letters and numerals
of the name. -/
theorem mem_upperSnake {d : Char} (h : d ≠ '_') (name : String) :
    d ∈ (upperSnake name).toList ↔
      ∃ c ∈ name.toList, isAlphanumeric c ∧ d ∈ upperChars c := by
  have hwords : d ∈ (upperSnake name).toList ↔ ∃ word ∈ wordsOf name, d ∈ upperWord word := by
    rw [upperSnake, String.toList_intercalate, mem_intercalate (by simpa using h)]
    simp
  have hchars : (∃ word ∈ wordsOf name, d ∈ upperWord word) ↔
      ∃ c ∈ (wordsOf name).flatten, d ∈ upperChars c := by
    simp only [upperWord, List.mem_flatMap, List.mem_flatten]
    grind
  rw [hwords, hchars, flatten_wordsOf]
  simp only [List.mem_filter, and_assoc]

/-- A name with a letter or numeral has an upper snake case, which starts with a form of the
first of them. -/
theorem upperSnake_eq_cons {name : String} {c : Char}
    (h : name.toList.find? isAlphanumeric = some c) :
    ∃ first rest, (upperSnake name).toList = first :: rest ∧
      (first = c ∨ isAlphabetic c ∧ isAlphabetic first) := by
  obtain ⟨word, words, hwords⟩ := wordsOf_eq_cons h
  obtain ⟨first, rest, himage, hfirst⟩ := (casedForm_upperChars c).exists_cons
  have hword : String.ofList (upperWord (c :: word)) =
      String.ofList [first] ++ String.ofList (rest ++ upperWord word) := by
    rw [← String.ofList_append, upperWord, List.flatMap_cons, himage]
    rfl
  rw [upperSnake, hwords, List.map_cons, hword, String.intercalate_cons_append,
    String.toList_append, String.toList_ofList]
  exact ⟨first, _, rfl, hfirst⟩

/-- A name without letters and numerals has no upper snake case. -/
theorem upperSnake_eq_empty {name : String} (h : name.toList.find? isAlphanumeric = none) :
    upperSnake name = "" := by
  rw [upperSnake, wordsOf_eq_nil h]
  rfl

/-! ## The name of a value -/

/-- Whether the first letter or numeral of a value is a numeral outside ASCII. -/
def leadsWithNumeral (value : String) : Bool :=
  (value.toList.find? isAlphanumeric).any fun c => !isAlphabetic c && !c.isDigit

def capitalsBringDiacritic (value : String) : Bool :=
  value.toList.any fun c => isAlphanumeric c && (upperChars c).any isDiacritic

/-- The name of a value is its upper snake case with an underscore in front, or without. -/
theorem memberName_front (value : String) :
    ∃ front : String, (front = "_" ∨ front = "") ∧ memberName value = front ++ upperSnake value := by
  rw [memberName]
  split
  · rename_i hempty
    refine ⟨"_", Or.inl rfl, ?_⟩
    rw [String.toList_eq_nil_iff.mp hempty, String.append_empty]
  · split
    · exact ⟨"_", Or.inl rfl, rfl⟩
    · exact ⟨"", Or.inr rfl, String.empty_append.symm⟩

theorem mem_memberName {d : Char} (h : d ≠ '_') (value : String) :
    d ∈ (memberName value).toList ↔
      ∃ c ∈ value.toList, isAlphanumeric c ∧ d ∈ upperChars c := by
  obtain ⟨front, hfront, hname⟩ := memberName_front value
  have hmark : d ∉ front.toList := by
    rcases hfront with rfl | rfl <;> simp [h]
  rw [hname, String.toList_append, List.mem_append, mem_upperSnake h]
  exact or_iff_right hmark

theorem memberName_parts (value : String) :
    ∀ d ∈ (memberName value).toList, IsNamePart d := by
  intro d hd
  by_cases hmark : d = '_'
  · exact Or.inl (hmark ▸ by decide)
  · obtain ⟨c, -, hc, hcapital⟩ := (mem_memberName hmark value).mp hd
    have hpart : isIdentifierPart c := by simp [isIdentifierPart, hc]
    exact (casedForm_upperChars c).part_or_diacritic hpart hcapital

theorem hasDiacritic_memberName (value : String) :
    hasDiacritic (memberName value) = capitalsBringDiacritic value := by
  have hmark : isDiacritic '_' = false := by decide
  rw [Bool.eq_iff_iff, hasDiacritic, capitalsBringDiacritic, List.any_eq_true, List.any_eq_true]
  constructor
  · rintro ⟨d, hd, hdiacritic⟩
    have hne : d ≠ '_' := fun h => by simp [h, hmark] at hdiacritic
    obtain ⟨c, hc, halphanumeric, hcapital⟩ := (mem_memberName hne value).mp hd
    exact ⟨c, hc, Bool.and_eq_true_iff.mpr
      ⟨halphanumeric, List.any_eq_true.mpr ⟨d, hcapital, hdiacritic⟩⟩⟩
  · rintro ⟨c, hc, hboth⟩
    obtain ⟨halphanumeric, hcapital⟩ := Bool.and_eq_true_iff.mp hboth
    obtain ⟨d, hd, hdiacritic⟩ := List.any_eq_true.mp hcapital
    have hne : d ≠ '_' := fun h => by simp [h, hmark] at hdiacritic
    exact ⟨d, (mem_memberName hne value).mpr ⟨c, hc, halphanumeric, hd⟩, hdiacritic⟩

/-- The guard in front of a digit leaves only numerals outside ASCII in front. -/
theorem memberName_eq_cons (value : String) :
    ∃ first rest, (memberName value).toList = first :: rest ∧
      isIdentifierStart first = !leadsWithNumeral value := by
  rw [memberName, leadsWithNumeral]
  cases hfind : value.toList.find? isAlphanumeric with
  | none =>
      rw [upperSnake_eq_empty hfind]
      exact ⟨'_', [], rfl, by decide +kernel⟩
  | some c =>
      obtain ⟨first, others, hsnake, hfirst⟩ := upperSnake_eq_cons hfind
      have hstart := isIdentifierStart_guarded (List.find?_some hfind) hfirst
      simp only [hsnake]
      by_cases hdigit : first.isDigit
      · rw [if_pos hdigit] at hstart
        exact ⟨'_', (upperSnake value).toList, by simp [hdigit], hstart⟩
      · rw [if_neg hdigit] at hstart
        exact ⟨first, others, by simp [hdigit, hsnake], hstart⟩

theorem isIdentifier_memberName (value : String) :
    isIdentifier (memberName value) ↔
      leadsWithNumeral value = false ∧ capitalsBringDiacritic value = false := by
  obtain ⟨first, rest, hname, hfirst⟩ := memberName_eq_cons value
  rw [isIdentifier_iff hname (memberName_parts value), hfirst, hasDiacritic_memberName]
  simp

/-! ## Members -/

theorem isIdentifier_numberedMember {name : String} (h : name.toList ≠ []) (n : Nat) :
    isIdentifier (numberedMember name n) = isIdentifier name := by
  cases n with
  | zero => rfl
  | succ n =>
      have hback : ("_" ++ toString (n + 2)).toList.all isIdentifierPart = true := by
        rw [String.toList_append, List.all_append, toString_all_isIdentifierPart]
        decide
      rw [numberedMember, String.append_assoc]
      exact isIdentifier_append h hback

/-- Whatever names are taken, the number behind a name changes nothing. -/
theorem isIdentifier_freeMember {name : String} (h : name.toList ≠ []) (taken : List String) :
    isIdentifier (freeMember taken name) = isIdentifier name := by
  obtain ⟨n, -, hsearch, -⟩ := (memberNumbering name).exists_search taken
  rw [freeMember_eq_search, hsearch, candidate_memberNumbering]
  exact isIdentifier_numberedMember h n

/-- **When a member is an identifier.** Wherever it is in an enum, a member is an identifier
unless the first letter or numeral of its value is a numeral outside ASCII, or the capital of
one of its letters is written with a diacritic. -/
theorem member_identifier_iff (options : CommentOptions) (enum : String) (titles : Titles)
    (description : Option String) :
    ∀ member ∈ (EnumDecl.ofTitles options enum titles description).members,
      isIdentifier member.name ↔
        leadsWithNumeral member.value = false ∧ capitalsBringDiacritic member.value = false := by
  intro member hmember
  obtain ⟨before, after, hsplit⟩ := List.append_of_mem hmember
  obtain ⟨first, rest, hname, -⟩ := memberName_eq_cons member.value
  have hne : (memberName member.value).toList ≠ [] := by
    rw [hname]
    exact List.cons_ne_nil first rest
  rw [enumMembers_split options hsplit, isIdentifier_freeMember hne]
  exact isIdentifier_memberName member.value

def sizeTitles : Titles :=
  [("2xlarge", none), ("2XLARGE", none)]

theorem member_identifier_iff_sizes :
    ⟨none, "_2XLARGE_2", "2XLARGE"⟩ ∈ (EnumDecl.ofTitles {} "SizeEnum" sizeTitles none).members ∧
      (isIdentifier "_2XLARGE_2" ↔
        leadsWithNumeral "2XLARGE" = false ∧ capitalsBringDiacritic "2XLARGE" = false) ∧
      isIdentifier "_2XLARGE_2" = true := by
  have hmember : ⟨none, "_2XLARGE_2", "2XLARGE"⟩ ∈
      (EnumDecl.ofTitles {} "SizeEnum" sizeTitles none).members := by decide +kernel
  have hiff := member_identifier_iff {} "SizeEnum" sizeTitles none _ hmember
  exact ⟨hmember, hiff, hiff.mpr (by decide +kernel)⟩

/-- Terms of one year, with a digit of full width. -/
def termTitles : Titles :=
  [("１年", none), ("ǰ", none)]

/-- **Members that are no identifiers.** No underscore guards a digit of full width, and the
capital of `ǰ` has a caron behind the letter. -/
theorem term_members_no_identifiers :
    (EnumDecl.ofTitles {} "TermEnum" termTitles none).members =
        [⟨none, "１年", "１年"⟩, ⟨none, "J\u030C", "ǰ"⟩] ∧
      isIdentifier "１年" = false ∧ isIdentifier "J\u030C" = false ∧
      isIdentifier "_１年" = true := by
  decide +kernel

end ApiTypings
