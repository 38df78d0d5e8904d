import ApiTypings.Json.Decode
import Mathlib.Data.List.Forall2

/-!
# What holds of decoded values

A record is read field by field, so what holds of its defaults and is kept by every field
holds of the record that is read (`RecordDecoder.decode_induction`). A map that is read has
the keys of the object it was read from (`keys_decodeMap`).
-/

namespace ApiTypings

/-! ## Results -/

section Results

variable {ε α β : Type}

theorem bind_eq_ok_iff {first : Except ε α} {next : α → Except ε β} {b : β} :
    first >>= next = .ok b ↔ ∃ a, first = .ok a ∧ next a = .ok b := by
  constructor
  · intro h
    cases first with
    | error failure => cases h
    | ok a => exact ⟨a, rfl, h⟩
  · rintro ⟨a, rfl, h⟩
    exact h

theorem bind_eq_error_iff {first : Except ε α} {next : α → Except ε β} {e : ε} :
    first >>= next = .error e ↔ first = .error e ∨ ∃ a, first = .ok a ∧ next a = .error e := by
  cases first with
  | error failure =>
      change Except.error failure = Except.error e ↔ _
      simp
  | ok a =>
      change next a = Except.error e ↔ _
      simp

theorem toOption_eq_some_iff {result : Except ε α} {a : α} :
    result.toOption = some a ↔ result = .ok a := by
  cases result <;> simp [Except.toOption]

theorem map_eq_ok_iff {first : Except ε α} {f : α → β} {b : β} :
    f <$> first = .ok b ↔ ∃ a, first = .ok a ∧ f a = b := by
  constructor
  · intro h
    cases first with
    | error failure => cases h
    | ok a =>
        cases h
        exact ⟨a, rfl, rfl⟩
  · rintro ⟨a, rfl, rfl⟩
    rfl

/-- What is mapped over a list has, item by item, the results for its items. -/
theorem forall₂_of_mapM {f : α → Except ε β} {items : List α} {results : List β}
    (h : items.mapM f = .ok results) : List.Forall₂ (fun a b => f a = .ok b) items results := by
  induction items generalizing results with
  | nil =>
      cases h
      exact .nil
  | cons item rest ih =>
      rw [List.mapM_cons] at h
      obtain ⟨first, hfirst, h⟩ := bind_eq_ok_iff.mp h
      obtain ⟨others, hothers, h⟩ := bind_eq_ok_iff.mp h
      cases h
      exact .cons hfirst (ih hothers)

theorem exists_mem_of_mapM {f : α → Except ε β} {items : List α} {results : List β}
    (h : items.mapM f = .ok results) {item : α} (hitem : item ∈ items) :
    ∃ result ∈ results, f item = .ok result := by
  replace h := forall₂_of_mapM h
  induction h with
  | nil => cases hitem
  | cons hfirst _ ih =>
      rcases List.mem_cons.mp hitem with rfl | hitem
      · exact ⟨_, List.mem_cons_self, hfirst⟩
      · obtain ⟨result, hresult, hf⟩ := ih hitem
        exact ⟨result, List.mem_cons_of_mem _ hresult, hf⟩

end Results

/-! ## Maps -/

section Maps

variable {α : Type} {decode : Json → Decoded α}

theorem keys_mapM (members : List (String × Json)) {entries : List (String × α)}
    (h : (members.mapM fun (name, value) => (name, ·) <$> decode value) = .ok entries) :
    entries.map Prod.fst = members.map Prod.fst := by
  replace h := forall₂_of_mapM h
  induction h with
  | nil => rfl
  | cons hentry _ ih =>
      obtain ⟨a, -, rfl⟩ := map_eq_ok_iff.mp hentry
      rw [List.map_cons, List.map_cons, ih]

/-- A map is read from an object, and keeps its keys in their order. -/
theorem keys_decodeMap {value : Json} {entries : List (String × α)}
    (h : value.decodeMap decode = .ok entries) :
    ∃ members, value = .object members ∧ entries.map Prod.fst = members.map Prod.fst := by
  cases value with
  | object members => exact ⟨members, rfl, keys_mapM members h⟩
  | null | bool | number | string | array => cases h

end Maps

/-! ## Records -/

namespace RecordDecoder

variable {σ : Type} {r : RecordDecoder σ} {p : σ → Prop}

theorem ofMembers_induction {members : List (String × Json)}
    (hset : ∀ name, ∀ value ∈ members.map Prod.snd, ∀ record record', p record →
      r.set name value record = .ok record' → p record')
    {record record' : σ} (hp : p record) (h : r.ofMembers members record = .ok record') :
    p record' := by
  induction members generalizing record with
  | nil =>
      cases h
      exact hp
  | cons member rest ih =>
      obtain ⟨name, value⟩ := member
      rw [ofMembers] at h
      obtain ⟨next, hnext, h⟩ := bind_eq_ok_iff.mp h
      refine ih (fun name value hvalue => hset name value (List.mem_cons_of_mem _ hvalue)) ?_ h
      exact hset name value List.mem_cons_self record next hp hnext

theorem ofItems_induction {items : List Json}
    (hset : ∀ name, ∀ value ∈ items, ∀ record record', p record →
      r.set name value record = .ok record' → p record')
    {count : Nat} {names : List String} {record record' : σ} (hp : p record)
    (h : r.ofItems count names items record = .ok record') : p record' := by
  induction items generalizing names record with
  | nil =>
      rw [ofItems] at h
      cases h
      exact hp
  | cons value rest ih =>
      cases names with
      | nil => cases h
      | cons name names =>
          rw [ofItems] at h
          obtain ⟨next, hnext, h⟩ := bind_eq_ok_iff.mp h
          refine ih (fun name value hvalue =>
            hset name value (List.mem_cons_of_mem _ hvalue)) ?_ h
          exact hset name value List.mem_cons_self record next hp hnext

end RecordDecoder

def Json.children : Json → List Json
  | .array items => items
  | .object members => members.map Prod.snd
  | _ => []

/-- **Field by field.** What holds of the defaults, and is kept by every field that is set
to a value of the document, holds of the record that is read. -/
theorem RecordDecoder.decode_induction {σ : Type} {r : RecordDecoder σ} {p : σ → Prop}
    {defaults record : σ} {document : Json} (hdefaults : p defaults)
    (hset : ∀ name, ∀ value ∈ document.children, ∀ before after, p before →
      r.set name value before = .ok after → p after)
    (h : r.decode defaults document = .ok record) : p record := by
  cases document with
  | object members => exact ofMembers_induction hset hdefaults h
  | array items => exact ofItems_induction hset hdefaults h
  | null | bool | number | string => cases h

end ApiTypings
