import ApiTypings.Text.Alphanumeric
import ApiTypings.Text.Words
import Mathlib.Data.List.Sort
import Mathlib.Data.List.TakeWhile

/-!
# Letters keep to letters when their case changes

The tables of the case maps against those of the character classes: a character with a
capital or a small form of its own is a letter, and so is the first character of that
form. What follows it is a letter too, or one of the diacritics in U+0300 to U+0342,
which stand in no identifier. `casedForm_upperChars` and `casedForm_lowerChars` say so;
they rest on a check that one sorted table of runs covers another, in one pass over
both.
-/

namespace ApiTypings

/-! ## One table covers another -/

namespace CodeRun

theorem contains_iff {run : CodeRun} {point : Nat} :
    run.contains point ↔
      (run.first ≤ point ∧ point ≤ run.last) ∧ (point - run.first) % run.step = 0 := by
  simp [contains]

def includes (run other : CodeRun) : Bool :=
  Nat.ble other.last run.last && Nat.ble run.first other.first &&
    Nat.beq ((other.first - run.first) % run.step) 0 &&
    (Nat.beq (other.step % run.step) 0 || Nat.beq other.first other.last)

theorem contains_of_includes {run other : CodeRun} (h : run.includes other) {point : Nat}
    (hpoint : other.contains point) : run.contains point := by
  simp only [includes, Bool.and_eq_true, Bool.or_eq_true, Nat.ble_eq, Nat.beq_eq] at h
  obtain ⟨⟨⟨hlast, hfirst⟩, hstart⟩, hstep⟩ := h
  obtain ⟨⟨hle, hge⟩, hoffset⟩ := contains_iff.mp hpoint
  refine contains_iff.mpr ⟨⟨by omega, by omega⟩, ?_⟩
  have hbehind : run.step ∣ point - other.first := by
    rcases hstep with hstep | hsingle
    · exact Nat.dvd_trans (Nat.dvd_of_mod_eq_zero hstep) (Nat.dvd_of_mod_eq_zero hoffset)
    · have hzero : point - other.first = 0 := by omega
      rw [hzero]
      exact Nat.dvd_zero _
  have hsum : point - run.first = (point - other.first) + (other.first - run.first) := by
    omega
  rw [hsum]
  exact Nat.mod_eq_zero_of_dvd (Nat.dvd_add hbehind (Nat.dvd_of_mod_eq_zero hstart))

/-- What is left of a table when each run of another, in order, takes away the runs at
the front that it includes. -/
def leftOver (runs others : List CodeRun) : List CodeRun :=
  runs.foldl (fun rest run => rest.dropWhile run.includes) others

theorem mem_leftOver_or_includes {other : CodeRun} {runs others : List CodeRun}
    (h : other ∈ others) :
    other ∈ leftOver runs others ∨ ∃ run ∈ runs, run.includes other := by
  induction runs generalizing others with
  | nil => exact Or.inl h
  | cons run rest ih =>
      rw [← List.takeWhile_append_dropWhile (p := run.includes) (l := others),
        List.mem_append] at h
      rcases h with h | h
      · exact Or.inr ⟨run, List.mem_cons_self, List.mem_takeWhile_imp h⟩
      · rcases ih h with hleft | ⟨run', hrun', hincludes⟩
        · exact Or.inl hleft
        · exact Or.inr ⟨run', List.mem_cons_of_mem _ hrun', hincludes⟩

/-- A table that a pass leaves nothing of is covered. -/
theorem exists_contains_of_leftOver {runs others : List CodeRun}
    (h : leftOver runs others = []) {other : CodeRun} (hother : other ∈ others)
    {point : Nat} (hpoint : other.contains point) : ∃ run ∈ runs, run.contains point := by
  have hpass : other ∈ leftOver runs others ∨ ∃ run ∈ runs, run.includes other :=
    mem_leftOver_or_includes hother
  rcases hpass with hleft | ⟨run, hrun, hincludes⟩
  · rw [h] at hleft
    cases hleft
  · exact ⟨run, hrun, contains_of_includes hincludes hpoint⟩

def sorted (runs : List CodeRun) : List CodeRun :=
  runs.insertionSort fun run other => Nat.ble run.first other.first

theorem mem_sorted {run : CodeRun} {runs : List CodeRun} : run ∈ sorted runs ↔ run ∈ runs :=
  List.mem_insertionSort _

end CodeRun

/-! ## Letters and digits of ASCII -/

theorem toNat_of_isAlpha {c : Char} (h : c.isAlpha) : 0x41 ≤ c.toNat ∧ c.toNat ≤ 0x7A := by
  rcases Bool.or_eq_true_iff.mp h with hupper | hlower
  · obtain ⟨hfirst, hlast⟩ := of_decide_eq_true hupper
    exact ⟨UInt32.le_iff_toNat_le.mp hfirst,
      Nat.le_trans (UInt32.le_iff_toNat_le.mp hlast) (by decide)⟩
  · obtain ⟨hfirst, hlast⟩ := Bool.and_eq_true_iff.mp hlower
    exact ⟨Nat.le_trans (by decide) (UInt32.le_iff_toNat_le.mp (of_decide_eq_true hfirst)),
      UInt32.le_iff_toNat_le.mp (of_decide_eq_true hlast)⟩

theorem toNat_of_isDigit {c : Char} (h : c.isDigit) : 0x30 ≤ c.toNat ∧ c.toNat ≤ 0x39 := by
  obtain ⟨hfirst, hlast⟩ := Bool.and_eq_true_iff.mp h
  exact ⟨UInt32.le_iff_toNat_le.mp (of_decide_eq_true hfirst),
    UInt32.le_iff_toNat_le.mp (of_decide_eq_true hlast)⟩

/-! ## The letters as one table -/

/-- The letters in one sorted table, those of ASCII too. The run with step two repeats
letters of the table, so that the capitals of one run of Greek letters are one run
here. -/
def letterRuns : List CodeRun :=
  CodeRun.sorted
    (⟨0x41, 0x5A, 1⟩ :: ⟨0x61, 0x7A, 1⟩ :: ⟨0x1F59, 0x1F5F, 2⟩ :: alphabeticRuns)

theorem alphabeticRuns_not_ascii :
    alphabeticRuns.all (fun run => Nat.ble 0x80 run.first) = true := by
  decide +kernel

theorem letterRuns_scalar :
    letterRuns.all (fun run => Nat.ble run.last 0xD7FF ||
      (Nat.ble 0xE000 run.first && Nat.ble run.last 0x10FFFF)) = true := by
  decide +kernel

theorem isAlphabetic_of_alphabeticRuns {run : CodeRun} (hrun : run ∈ alphabeticRuns)
    {c : Char} (hc : run.contains c.toNat) : isAlphabetic c := by
  have hfirst := List.all_eq_true.mp alphabeticRuns_not_ascii run hrun
  have hascii : 0x80 ≤ c.toNat :=
    Nat.le_trans (Nat.le_of_ble_eq_true hfirst) (CodeRun.contains_iff.mp hc).1.1
  have hany : alphabeticRuns.any (·.contains c.toNat) = true :=
    List.any_eq_true.mpr ⟨run, hrun, hc⟩
  simp [isAlphabetic, CodeRun.cover, hascii, hany]

theorem isAlphabetic_of_letterRuns {run : CodeRun} (hrun : run ∈ letterRuns) {c : Char}
    (hc : run.contains c.toNat) : isAlphabetic c := by
  rw [letterRuns, CodeRun.mem_sorted, List.mem_cons, List.mem_cons, List.mem_cons] at hrun
  rcases hrun with rfl | rfl | rfl | hrun
  · obtain ⟨⟨hfirst, hlast⟩, -⟩ := CodeRun.contains_iff.mp hc
    refine isAlphabetic_of_isAlpha (Bool.or_eq_true_iff.mpr (Or.inl ?_))
    exact decide_eq_true ⟨hfirst, hlast⟩
  · obtain ⟨⟨hfirst, hlast⟩, -⟩ := CodeRun.contains_iff.mp hc
    refine isAlphabetic_of_isAlpha (Bool.or_eq_true_iff.mpr (Or.inr ?_))
    exact Bool.and_eq_true_iff.mpr ⟨decide_eq_true hfirst, decide_eq_true hlast⟩
  · obtain ⟨⟨hfirst, hlast⟩, hstep⟩ := CodeRun.contains_iff.mp hc
    have hpoint : c.toNat = 0x1F59 ∨ c.toNat = 0x1F5B ∨ c.toNat = 0x1F5D ∨
        c.toNat = 0x1F5F := by
      dsimp only at hfirst hlast hstep
      omega
    rw [← Char.ofNat_toNat c]
    rcases hpoint with h | h | h | h <;> rw [h] <;> decide +kernel
  · exact isAlphabetic_of_alphabeticRuns hrun hc

theorem toNat_ofNat {point : Nat} (h : point.isValidChar) : (Char.ofNat point).toNat = point := by
  rw [Char.ofNat, dif_pos h]
  rfl

theorem toNat_ofNat_of_letterRuns {run : CodeRun} (hrun : run ∈ letterRuns) {point : Nat}
    (hpoint : run.contains point) : (Char.ofNat point).toNat = point := by
  have hscalar := List.all_eq_true.mp letterRuns_scalar run hrun
  simp only [Bool.or_eq_true, Bool.and_eq_true, Nat.ble_eq] at hscalar
  obtain ⟨⟨hfirst, hlast⟩, -⟩ := CodeRun.contains_iff.mp hpoint
  refine toNat_ofNat ?_
  rw [Nat.isValidChar]
  omega

theorem isAlphabetic_ofNat {run : CodeRun} (hrun : run ∈ letterRuns) {point : Nat}
    (hpoint : run.contains point) : isAlphabetic (Char.ofNat point) :=
  isAlphabetic_of_letterRuns hrun (by rwa [toNat_ofNat_of_letterRuns hrun hpoint])

/-! ## Diacritics -/

/-- The diacritics that some capitals and small forms put behind a letter. -/
def isDiacritic (c : Char) : Bool :=
  0x300 ≤ c.toNat && c.toNat ≤ 0x342

/-- No letter and no numeral is a diacritic. -/
theorem letters_and_numerals_not_diacritics :
    (alphabeticRuns ++ numericRuns).all (fun run =>
      Nat.blt run.last 0x300 || Nat.blt 0x342 run.first) = true := by
  decide +kernel

theorem cover_of_isDiacritic {runs : List CodeRun} (hruns : runs ⊆ alphabeticRuns ++ numericRuns)
    {c : Char} (h : isDiacritic c) : CodeRun.cover runs c = false := by
  simp only [isDiacritic, Bool.and_eq_true, decide_eq_true_eq] at h
  rw [CodeRun.cover, Bool.and_eq_false_iff]
  refine Or.inr (List.any_eq_false.mpr fun run hrun hcontains => ?_)
  have hapart := List.all_eq_true.mp letters_and_numerals_not_diacritics run (hruns hrun)
  simp only [Bool.or_eq_true, Nat.blt_eq] at hapart
  obtain ⟨⟨hfirst, hlast⟩, -⟩ := CodeRun.contains_iff.mp hcontains
  omega

theorem isIdentifierPart_of_isDiacritic {c : Char} (h : isDiacritic c) :
    isIdentifierPart c = false := by
  have hletter := cover_of_isDiacritic (List.subset_append_left alphabeticRuns numericRuns) h
  have hnumeral := cover_of_isDiacritic (List.subset_append_right alphabeticRuns numericRuns) h
  simp only [isDiacritic, Bool.and_eq_true, decide_eq_true_eq] at h
  have halpha : c.isAlpha = false := by
    rw [Bool.eq_false_iff]
    intro halpha
    have hbounds := toNat_of_isAlpha halpha
    omega
  have hdigit : c.isDigit = false := by
    rw [Bool.eq_false_iff]
    intro hdigit
    have hbounds := toNat_of_isDigit hdigit
    omega
  have hmark : c ≠ '_' ∧ c ≠ '$' := by
    constructor <;> rintro rfl <;> exact absurd h.1 (by decide)
  simp [isIdentifierPart, isAlphanumeric, isAlphabetic, isNumeric, halpha, hdigit, hletter,
    hnumeral, hmark]

/-! ## The case maps -/

def CaseRun.images (run : CaseRun) : CodeRun :=
  ⟨run.image, run.image + (run.source.last - run.source.first), run.source.step⟩

theorem CaseRun.images_contains {run : CaseRun} {point image : Nat}
    (h : run.map? point = some image) :
    run.source.contains point ∧ run.images.contains image := by
  rw [CaseRun.map?] at h
  split at h
  · rename_i hsource
    refine ⟨hsource, ?_⟩
    obtain ⟨⟨hfirst, hlast⟩, hstep⟩ := CodeRun.contains_iff.mp hsource
    injection h with h
    subst h
    refine CodeRun.contains_iff.mpr ⟨⟨Nat.le_add_right _ _, ?_⟩, ?_⟩
    · exact Nat.add_le_add_left (Nat.sub_le_sub_right hlast _) _
    · rwa [CaseRun.images, Nat.add_sub_cancel_left]
  · cases h

def CodeRun.single (point : Nat) : CodeRun := ⟨point, point, 1⟩

theorem CodeRun.single_contains (point : Nat) : (CodeRun.single point).contains point := by
  simp [CodeRun.single, CodeRun.contains]

/-- The code points of a sequence that have to be letters: the one that is changed, the
first of its image, and the others that are no diacritics. -/
def letterPoints (sequence : Nat × List Nat) : List Nat :=
  sequence.1 :: sequence.2.head?.toList ++
    sequence.2.tail.filter fun point => !isDiacritic (Char.ofNat point)

/-- A form of a character in another case: the character itself or, for a letter, a
letter with letters and diacritics behind it. -/
inductive CasedForm (c : Char) : List Char → Prop where
  | same : CasedForm c [c]
  | cased {first : Char} {rest : List Char} (hletter : isAlphabetic c)
      (hfirst : isAlphabetic first)
      (hrest : ∀ d ∈ rest, isAlphabetic d ∨ isDiacritic d) : CasedForm c (first :: rest)

/-- A case map within the letters: all that it changes, all images, and the letters of
the sequences are in the table of the letters. -/
structure LettersOnly (runs : List CaseRun) (sequences : List (Nat × List Nat)) : Prop where
  sources : CodeRun.leftOver letterRuns (runs.map CaseRun.source) = []
  images : CodeRun.leftOver letterRuns (CodeRun.sorted (runs.map CaseRun.images)) = []
  points : CodeRun.leftOver letterRuns
    (CodeRun.sorted ((sequences.flatMap letterPoints).map CodeRun.single)) = []
  nonempty : sequences.all (!·.2.isEmpty) = true

theorem lettersOnly_capitals : LettersOnly capitalRuns capitalSequences where
  sources := by decide +kernel
  images := by decide +kernel
  points := by decide +kernel
  nonempty := by decide +kernel

theorem lettersOnly_smalls : LettersOnly smallRuns smallSequences where
  sources := by decide +kernel
  images := by decide +kernel
  points := by decide +kernel
  nonempty := by decide +kernel

variable {runs : List CaseRun} {sequences : List (Nat × List Nat)}

/-- **Cased forms.** A case map within the letters gives cased forms. -/
theorem LettersOnly.casedForm (h : LettersOnly runs sequences) (c : Char) :
    CasedForm c (mapCase runs sequences c) := by
  rw [mapCase]
  split
  · rename_i points hlookup
    have hmem : (c.toNat, points) ∈ sequences := by
      obtain ⟨before, after, hsplit, -⟩ := List.lookup_eq_some_iff.mp hlookup
      rw [hsplit]
      exact List.mem_append_right _ List.mem_cons_self
    have hletter : ∀ point ∈ letterPoints (c.toNat, points),
        ∃ run ∈ letterRuns, run.contains point := fun point hpoint =>
      CodeRun.exists_contains_of_leftOver h.points
        (CodeRun.mem_sorted.mpr
          (List.mem_map_of_mem (List.mem_flatMap.mpr ⟨_, hmem, hpoint⟩)))
        (CodeRun.single_contains point)
    cases points with
    | nil => exact absurd (List.all_eq_true.mp h.nonempty _ hmem) (by simp)
    | cons first rest =>
        obtain ⟨run, hrun, hc⟩ := hletter c.toNat (by simp [letterPoints])
        obtain ⟨run', hrun', hfirst⟩ := hletter first (by simp [letterPoints])
        refine .cased (isAlphabetic_of_letterRuns hrun hc) (isAlphabetic_ofNat hrun' hfirst)
          fun d hd => ?_
        obtain ⟨point, hpoint, rfl⟩ := List.mem_map.mp hd
        by_cases hdiacritic : isDiacritic (Char.ofNat point)
        · exact Or.inr hdiacritic
        · obtain ⟨run, hrun, hcontains⟩ :=
            hletter point (by simp [letterPoints, hpoint, hdiacritic])
          exact Or.inl (isAlphabetic_ofNat hrun hcontains)
  · split
    · rename_i image himage
      obtain ⟨run, hrun, hmap⟩ := List.exists_of_findSome?_eq_some himage
      obtain ⟨hsource, hcontains⟩ := CaseRun.images_contains hmap
      obtain ⟨letters, hletters, hc⟩ :=
        CodeRun.exists_contains_of_leftOver h.sources (List.mem_map_of_mem hrun) hsource
      obtain ⟨letters', hletters', hfirst⟩ :=
        CodeRun.exists_contains_of_leftOver h.images
          (CodeRun.mem_sorted.mpr (List.mem_map_of_mem hrun)) hcontains
      exact .cased (isAlphabetic_of_letterRuns hletters hc)
        (isAlphabetic_ofNat hletters' hfirst) (by simp)
    · exact .same

/-! ## Capital and small forms -/

theorem ascii_cased :
    (List.range 0x80).all (fun point =>
      let c := Char.ofNat point
      (c.toUpper == c || c.isAlpha && c.toUpper.isAlpha) &&
        (c.toLower == c || c.isAlpha && c.toLower.isAlpha)) = true := by
  decide +kernel

theorem casedForm_ascii {c : Char} (h : c.toNat < 0x80) :
    CasedForm c [c.toUpper] ∧ CasedForm c [c.toLower] := by
  have hc := List.all_eq_true.mp ascii_cased c.toNat (List.mem_range.mpr h)
  simp only [Char.ofNat_toNat, Bool.and_eq_true, Bool.or_eq_true, beq_iff_eq] at hc
  constructor
  · rcases hc.1 with hsame | ⟨hletter, hfirst⟩
    · rw [hsame]
      exact .same
    · exact .cased (isAlphabetic_of_isAlpha hletter) (isAlphabetic_of_isAlpha hfirst) (by simp)
  · rcases hc.2 with hsame | ⟨hletter, hfirst⟩
    · rw [hsame]
      exact .same
    · exact .cased (isAlphabetic_of_isAlpha hletter) (isAlphabetic_of_isAlpha hfirst) (by simp)

/-- The capital form of any character. -/
theorem casedForm_upperChars (c : Char) : CasedForm c (upperChars c) := by
  rw [upperChars]
  split
  · rename_i hascii
    exact (casedForm_ascii hascii).1
  · exact lettersOnly_capitals.casedForm c

/-- The small form of any character. -/
theorem casedForm_lowerChars (c : Char) : CasedForm c (lowerChars c) := by
  rw [lowerChars]
  split
  · rename_i hascii
    exact (casedForm_ascii hascii).2
  · exact lettersOnly_smalls.casedForm c

namespace CasedForm

variable {c : Char} {image : List Char}

/-- A form starts with the character itself, or with a letter for a letter. -/
theorem exists_cons (h : CasedForm c image) :
    ∃ first rest, image = first :: rest ∧
      (first = c ∨ isAlphabetic c ∧ isAlphabetic first) := by
  cases h with
  | same => exact ⟨c, [], rfl, Or.inl rfl⟩
  | cased hletter hfirst => exact ⟨_, _, rfl, Or.inr ⟨hletter, hfirst⟩⟩

/-- A form of a part of an identifier has only such parts and diacritics. -/
theorem part_or_diacritic (h : CasedForm c image) (hc : isIdentifierPart c) {d : Char}
    (hd : d ∈ image) : isIdentifierPart d ∨ isDiacritic d := by
  have hpart : ∀ {letter : Char}, isAlphabetic letter → isIdentifierPart letter :=
    fun hletter => by simp [isIdentifierPart, isAlphanumeric, hletter]
  cases h with
  | same =>
      rw [List.mem_singleton.mp hd]
      exact Or.inl hc
  | cased _ hfirst hrest =>
      rcases List.mem_cons.mp hd with rfl | hd
      · exact Or.inl (hpart hfirst)
      · exact (hrest d hd).imp_left hpart

end CasedForm

end ApiTypings
