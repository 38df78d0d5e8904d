import ApiTypings.Declaration.Names
import ApiTypings.Proofs.NumberedSearch

/-!
# The supply of names

`firstFree` searches a bounded list of candidates. The search always succeeds, and what it
finds is the candidate with the least number that is not in the list
(`exists_firstFree`).
-/

namespace ApiTypings.Names

def numbering (base : String) : Numbering where
  plain := base
  stem := base
  start := 0
  length_le := Nat.le_refl _

theorem candidate_numbering (base : String) :
    (numbering base).candidate = numbered base := by
  funext n
  cases n with
  | zero => rfl
  | succ n =>
      rw [Numbering.candidate, numbered, Numbering.numbered, numbering, Nat.zero_add]

theorem firstFree_eq_search (taken : List String) (base : String) :
    firstFree taken base = (numbering base).search taken := by
  rw [Numbering.search, candidate_numbering]
  rfl

/-- **The least free number.** The name given is a candidate that is not taken, all
candidates before it are taken, and there are at most as many of those as taken
names. -/
theorem exists_firstFree (taken : List String) (base : String) :
    ∃ n ≤ taken.toFinset.card, firstFree taken base = numbered base n ∧
      numbered base n ∉ taken ∧ ∀ m < n, numbered base m ∈ taken := by
  have hsearch := (numbering base).exists_search taken
  rw [candidate_numbering, ← firstFree_eq_search] at hsearch
  exact hsearch

theorem firstFree_not_mem (taken : List String) (base : String) :
    firstFree taken base ∉ taken := by
  obtain ⟨n, -, heq, hfree, -⟩ := exists_firstFree taken base
  rw [heq]
  exact hfree

/-- A base that is free is given as it stands. -/
theorem firstFree_of_not_mem {taken : List String} {base : String} (h : base ∉ taken) :
    firstFree taken base = base := by
  rw [firstFree_eq_search]
  exact (numbering base).search_of_not_mem h

/-! ## Names that do not end in a digit

A number is only ever put behind a base that is taken, so a name that ends in no digit
can only be given to a request for that very name. -/

def EndsPlain (name : String) : Prop :=
  ∃ c, name.toList.getLast? = some c ∧ c.isDigit = false

theorem EndsPlain.append {name : String} (h : EndsPlain name) (front : String) :
    EndsPlain (front ++ name) := by
  obtain ⟨c, hlast, hdigit⟩ := h
  refine ⟨c, ?_, hdigit⟩
  rw [String.toList_append, List.getLast?_append, hlast]
  rfl

theorem not_endsPlain_numbered (base : String) (n : ℕ) :
    ¬ EndsPlain (numbered base (n + 1)) := by
  rintro ⟨c, hlast, hdigit⟩
  rw [numbered, String.toList_append, Nat.toString_eq_repr, Nat.toList_repr,
    List.getLast?_append_of_ne_nil _ Nat.toDigits_ne_nil] at hlast
  have hmem : c ∈ Nat.toDigits 10 (n + 1) := List.mem_of_getLast? hlast
  rw [Nat.isDigit_of_mem_toDigits (by decide) (by decide) hmem] at hdigit
  exact Bool.noConfusion hdigit

theorem eq_zero_of_endsPlain {base : String} {n : ℕ} (h : EndsPlain (numbered base n)) :
    n = 0 := by
  cases n with
  | zero => rfl
  | succ n => exact absurd h (not_endsPlain_numbered base n)

/-- A name that ends in no digit is given only where it is the base itself. -/
theorem firstFree_eq_endsPlain {taken : List String} {base name : String}
    (hname : EndsPlain name) (h : firstFree taken base = name) : base = name := by
  obtain ⟨n, -, heq, -, -⟩ := exists_firstFree taken base
  rw [← h, heq] at hname
  rw [← h, heq, eq_zero_of_endsPlain hname]
  rfl

/-! ## Names as they stand -/

end ApiTypings.Names
