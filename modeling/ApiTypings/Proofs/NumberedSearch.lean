import Mathlib.Data.Finset.Card
import Mathlib.Data.Nat.Find

/-!
# Searches by number

A name that is taken gets a number, and the next number, until it is free. `Numbering` is
the loop that does this: a counter and a candidate in hand, and another round while the
candidate is taken. Nothing in the loop becomes smaller, but its candidates are all
different (`candidate_injective`), so each round spends another one of the taken names.
What the loop gives is the first candidate that is free (`gives_iff`), and it ends after at
most as many rounds as there are taken names (`exists_gives`).
-/

namespace ApiTypings

/-- A loop that numbers names: the name without a number, what a number is put behind, and
where the counter starts. -/
structure Numbering where
  plain : String
  stem : String
  start : ℕ
  length_le : plain.length ≤ stem.length

namespace Numbering

variable (numbering : Numbering)

def numbered (n : ℕ) : String :=
  numbering.stem ++ toString n

/-- The loop ends. With a counter and a candidate in hand, it makes so many rounds and gives
the name. A round counts one up; it cannot be made when the counter has reached `limit`,
the largest number it holds. -/
inductive Ends (limit : ℕ) (taken : List String) : ℕ → String → ℕ → String → Prop
  | free {counter : ℕ} {candidate : String} (hfree : candidate ∉ taken) :
      Ends limit taken counter candidate 0 candidate
  | round {counter rounds : ℕ} {candidate name : String} (htaken : candidate ∈ taken)
      (hcounter : counter < limit)
      (hrest : Ends limit taken (counter + 1) (numbering.numbered (counter + 1)) rounds name) :
      Ends limit taken counter candidate (rounds + 1) name

def Gives (limit : ℕ) (taken : List String) (rounds : ℕ) (name : String) : Prop :=
  numbering.Ends limit taken numbering.start numbering.plain rounds name

def candidate : ℕ → String
  | 0 => numbering.plain
  | rounds + 1 => numbering.numbered (numbering.start + rounds + 1)

/-! ## Candidates -/

theorem toString_nat_injective {m n : ℕ} (h : toString m = toString n) : m = n := by
  have hdigits : Nat.toDigits 10 m = Nat.toDigits 10 n := by
    simpa only [Nat.toString_eq_repr, Nat.toList_repr] using congrArg String.toList h
  simpa using congrArg (Nat.ofDigitChars 10 · 0) hdigits

variable {numbering}

theorem numbered_ne_plain (n : ℕ) : numbering.numbered n ≠ numbering.plain := by
  intro h
  have hlen := congrArg String.length h
  rw [numbered, String.length_append, Nat.toString_eq_repr] at hlen
  have hpos := Nat.length_repr_pos (n := n)
  have hle := numbering.length_le
  omega

/-- The candidates of a loop are all different. -/
theorem candidate_injective : Function.Injective numbering.candidate := by
  intro m n h
  cases m with
  | zero =>
      cases n with
      | zero => rfl
      | succ n => exact absurd h.symm (numbered_ne_plain _)
  | succ m =>
      cases n with
      | zero => exact absurd h (numbered_ne_plain _)
      | succ n =>
          rw [candidate, candidate, numbered, numbered, String.append_right_inj] at h
          have hnumber := toString_nat_injective h
          omega

/-- Among the candidates there is a first one that is free, and there are at most as many
before it as taken names. -/
theorem exists_least_free (taken : List String) :
    ∃ rounds ≤ taken.toFinset.card, numbering.candidate rounds ∉ taken ∧
      ∀ m < rounds, numbering.candidate m ∈ taken := by
  -- taken candidates are different taken names, so there are no more of them than of those
  have hcount : ∀ n, (∀ m < n, numbering.candidate m ∈ taken) → n ≤ taken.toFinset.card := by
    intro n htaken
    have hsub : (Finset.range n).image numbering.candidate ⊆ taken.toFinset := by
      intro name hname
      obtain ⟨m, hm, rfl⟩ := Finset.mem_image.mp hname
      exact List.mem_toFinset.mpr (htaken m (Finset.mem_range.mp hm))
    have hcard := Finset.card_le_card hsub
    rwa [Finset.card_image_of_injective _ candidate_injective, Finset.card_range] at hcard
  have hexists : ∃ n, numbering.candidate n ∉ taken := by
    by_contra hnone
    have hle := hcount (taken.toFinset.card + 1) fun m _ => by
      by_contra hfree
      exact hnone ⟨m, hfree⟩
    omega
  have hbefore : ∀ m < Nat.find hexists, numbering.candidate m ∈ taken :=
    fun m hm => not_not.mp (Nat.find_min hexists hm)
  exact ⟨Nat.find hexists, hcount _ hbefore, Nat.find_spec hexists, hbefore⟩

/-! ## Rounds -/

variable {limit : ℕ} {taken : List String}

/-- A round leaves a loop in the state it would have started from one number later. -/
theorem ends_succ_iff {counter rounds : ℕ} {candidate name : String} :
    numbering.Ends limit taken counter candidate (rounds + 1) name ↔
      candidate ∈ taken ∧ counter < limit ∧
        numbering.Ends limit taken (counter + 1) (numbering.numbered (counter + 1)) rounds
          name := by
  constructor
  · rintro (_ | ⟨htaken, hcounter, hrest⟩)
    exact ⟨htaken, hcounter, hrest⟩
  · rintro ⟨htaken, hcounter, hrest⟩
    exact .round htaken hcounter hrest

theorem ends_zero_iff {counter : ℕ} {candidate name : String} :
    numbering.Ends limit taken counter candidate 0 name ↔
      candidate ∉ taken ∧ name = candidate := by
  constructor
  · rintro (hfree | _)
    exact ⟨hfree, rfl⟩
  · rintro ⟨hfree, rfl⟩
    exact .free hfree

/-- The loop after `done` rounds, with so many still to make. -/
theorem ends_iff {done rounds : ℕ} {name : String} :
    numbering.Ends limit taken (numbering.start + done) (numbering.candidate done) rounds name ↔
      name = numbering.candidate (done + rounds) ∧
        numbering.candidate (done + rounds) ∉ taken ∧
        (∀ m, done ≤ m → m < done + rounds → numbering.candidate m ∈ taken) ∧
        rounds ≤ limit - (numbering.start + done) := by
  induction rounds generalizing done with
  | zero =>
      rw [ends_zero_iff]
      constructor
      · rintro ⟨hfree, hname⟩
        exact ⟨hname, hfree, fun m hle hlt => by omega, Nat.zero_le _⟩
      · rintro ⟨hname, hfree, -, -⟩
        exact ⟨hfree, hname⟩
  | succ rounds ih =>
      have hnext : numbering.Ends limit taken (numbering.start + (done + 1))
          (numbering.candidate (done + 1)) rounds name ↔ _ := ih
      rw [candidate, ← Nat.add_assoc, Nat.add_right_comm done 1 rounds] at hnext
      rw [ends_succ_iff, hnext]
      constructor
      · rintro ⟨htaken, hcounter, hname, hfree, hbefore, hlimit⟩
        refine ⟨hname, hfree, fun m hle hlt => ?_, by omega⟩
        rcases Nat.eq_or_lt_of_le hle with rfl | hlater
        · exact htaken
        · exact hbefore m hlater hlt
      · rintro ⟨hname, hfree, hbefore, hlimit⟩
        exact ⟨hbefore done (Nat.le_refl _) (by omega), by omega, hname, hfree,
          fun m hle hlt => hbefore m (by omega) hlt, by omega⟩

/-- **What the loop gives.** After so many rounds it gives the candidate of that round, if
this is free, those of all rounds before are taken, and the counter can hold the
numbers. -/
theorem gives_iff {rounds : ℕ} {name : String} :
    numbering.Gives limit taken rounds name ↔
      name = numbering.candidate rounds ∧ numbering.candidate rounds ∉ taken ∧
        (∀ m < rounds, numbering.candidate m ∈ taken) ∧ rounds ≤ limit - numbering.start := by
  have hstart : numbering.Ends limit taken (numbering.start + 0) (numbering.candidate 0)
      rounds name ↔ _ := ends_iff
  simpa [Gives, candidate] using hstart

/-! ## The search without a loop -/

variable (numbering)

/-- The first of the first `taken.length + 1` candidates that is free. -/
def search (taken : List String) : String :=
  (((List.range (taken.length + 1)).map numbering.candidate).find?
    (!taken.contains ·)).getD numbering.plain

/-- The search finds the first candidate that is free. -/
theorem exists_search (taken : List String) :
    ∃ rounds ≤ taken.toFinset.card, numbering.search taken = numbering.candidate rounds ∧
      numbering.candidate rounds ∉ taken ∧ ∀ m < rounds, numbering.candidate m ∈ taken := by
  obtain ⟨rounds, hle, hfree, hbefore⟩ := numbering.exists_least_free taken
  refine ⟨rounds, hle, ?_, hfree, hbefore⟩
  have hbound : rounds < taken.length + 1 :=
    Nat.lt_succ_of_le (Nat.le_trans hle (List.toFinset_card_le taken))
  have hfind : (List.range (taken.length + 1)).find?
      ((!taken.contains ·) ∘ numbering.candidate) = some rounds := by
    rw [List.find?_range_eq_some]
    refine ⟨?_, List.mem_range.mpr hbound, ?_⟩
    · simpa using hfree
    · intro m hm
      simpa using hbefore m hm
  rw [search, List.find?_map, hfind]
  rfl

/-- A name that is free is found as it stands. -/
theorem search_of_not_mem {taken : List String} (h : numbering.plain ∉ taken) :
    numbering.search taken = numbering.plain := by
  obtain ⟨rounds, -, hsearch, -, hbefore⟩ := numbering.exists_search taken
  cases rounds with
  | zero => exact hsearch
  | succ rounds => exact absurd (hbefore 0 (Nat.succ_pos rounds)) h

/-- Where the name is taken, it is found with the least number above the start of the
counter that makes it free. -/
theorem exists_number {taken : List String} (h : numbering.plain ∈ taken) :
    ∃ k, numbering.start < k ∧ numbering.search taken = numbering.numbered k ∧
      numbering.numbered k ∉ taken ∧
      ∀ j, numbering.start < j → j < k → numbering.numbered j ∈ taken := by
  obtain ⟨rounds, -, hsearch, hfree, hbefore⟩ := numbering.exists_search taken
  cases rounds with
  | zero => exact absurd h hfree
  | succ rounds =>
      refine ⟨numbering.start + rounds + 1, by omega, hsearch, hfree, fun j hstart hj => ?_⟩
      obtain ⟨m, rfl⟩ := Nat.exists_eq_add_of_lt hstart
      exact hbefore (m + 1) (by omega)

/-- **The loop ends.** It ends in one way, with what the search finds, after at most as many
rounds as there are taken names, if only its counter can hold the numbers. -/
theorem exists_gives (taken : List String) :
    ∃ rounds ≤ taken.toFinset.card, ∀ limit made name,
      numbering.Gives limit taken made name ↔
        made = rounds ∧ name = numbering.search taken ∧ rounds ≤ limit - numbering.start := by
  obtain ⟨rounds, hle, hsearch, hfree, hbefore⟩ := numbering.exists_search taken
  refine ⟨rounds, hle, fun limit made name => ?_⟩
  rw [gives_iff, hsearch]
  constructor
  · rintro ⟨rfl, hmade, htaken, hlimit⟩
    -- with fewer rounds the candidate is taken, and with more a free one was passed over
    rcases Nat.lt_trichotomy made rounds with hfewer | rfl | hmore
    · exact absurd (hbefore made hfewer) hmade
    · exact ⟨rfl, rfl, hlimit⟩
    · exact absurd (htaken rounds hmore) hfree
  · rintro ⟨rfl, rfl, hlimit⟩
    exact ⟨rfl, hfree, hbefore, hlimit⟩

/-- The order of the taken names makes no difference. -/
theorem search_congr {taken taken' : List String} (h : ∀ name, name ∈ taken ↔ name ∈ taken') :
    numbering.search taken = numbering.search taken' := by
  obtain ⟨rounds, -, hgives⟩ := numbering.exists_gives taken
  obtain ⟨_, -, hgives'⟩ := numbering.exists_gives taken'
  have hrun : numbering.Gives (numbering.start + rounds) taken rounds
      (numbering.search taken) :=
    (hgives _ _ _).mpr ⟨rfl, rfl, by omega⟩
  have hrun' : numbering.Gives (numbering.start + rounds) taken' rounds
      (numbering.search taken) := by
    rw [gives_iff] at hrun ⊢
    simpa only [h] using hrun
  exact ((hgives' _ _ _).mp hrun').2.1

end Numbering

end ApiTypings
