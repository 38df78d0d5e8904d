/-!
# The first entry of each key

Of the entries with one key, the first is kept. A program that goes through the entries
does not need to look ahead for that: it passes over the keys it has seen, and what is
left to keep behind an entry are the first entries of the other keys
(`firstOfKey_unseen_cons`).
-/

namespace ApiTypings

variable {α β : Type}

/-- The entries of a list without those that have the key of an earlier one. -/
def firstOfKey (key : α → String) (entries : List α) : List α :=
  entries.eraseDupsBy fun entry other => key entry == key other

@[simp] theorem firstOfKey_nil (key : α → String) : firstOfKey key [] = [] := rfl

theorem firstOfKey_cons (key : α → String) (entry : α) (rest : List α) :
    firstOfKey key (entry :: rest) =
      entry :: firstOfKey key (rest.filter fun other => !(key other == key entry)) := by
  rw [firstOfKey, List.eraseDupsBy_cons]
  simp only [Bool.decide_eq_false]
  rfl

/-- It makes no difference whether entries are kept before or after they are changed, as
long as their keys stay. -/
theorem firstOfKey_map (f : α → β) (key : β → String) (entries : List α) :
    firstOfKey key (entries.map f) = (firstOfKey (key ∘ f) entries).map f := by
  match entries with
  | [] => rfl
  | entry :: rest =>
      rw [List.map_cons, firstOfKey_cons, firstOfKey_cons, List.map_cons, List.filter_map,
        firstOfKey_map f key]
      rfl
termination_by entries.length
decreasing_by
  simp only [List.length_cons]
  exact Nat.lt_succ_of_le (List.length_filter_le _ _)

def unseen (key : α → String) (seen : List String) (entries : List α) : List α :=
  entries.filter fun entry => !seen.contains (key entry)

@[simp] theorem unseen_nil (key : α → String) (seen : List String) :
    unseen key seen [] = [] := rfl

theorem unseen_none (key : α → String) (entries : List α) : unseen key [] entries = entries :=
  List.filter_eq_self.mpr fun _ _ => rfl

theorem unseen_cons_seen (key : α → String) {seen : List String} {entry : α}
    (h : seen.contains (key entry)) (rest : List α) :
    unseen key seen (entry :: rest) = unseen key seen rest :=
  List.filter_cons_of_neg (by simpa using h)

/-- To pass over the keys that have been seen is to keep the first entry of each key. -/
theorem firstOfKey_unseen_cons (key : α → String) {seen : List String} {entry : α}
    (h : ¬ seen.contains (key entry)) (rest : List α) :
    firstOfKey key (unseen key seen (entry :: rest)) =
      entry :: firstOfKey key (unseen key (key entry :: seen) rest) := by
  have hrest : (unseen key seen rest).filter (fun other => !(key other == key entry)) =
      unseen key (key entry :: seen) rest := by
    rw [unseen, unseen, List.filter_filter]
    refine List.filter_congr fun other _ => ?_
    rw [List.contains_cons, Bool.not_or]
  rw [unseen, List.filter_cons_of_pos (by simpa using h), firstOfKey_cons, ← unseen, hrest]

/-! ## The entries that are kept -/

section Kept

variable (key : α → String) (entries : List α)

end Kept

end ApiTypings
