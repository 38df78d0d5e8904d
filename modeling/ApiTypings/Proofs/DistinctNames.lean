import ApiTypings.Proofs.Decoding
import ApiTypings.Input.Document
import Mathlib.Data.List.Nodup

/-!
# Distinct names

A name that is repeated in an object is merged with the first one, in JSON as in YAML, so
no object of a document has two members of one name. The APIs of a bundle are members of
an object: their names are all different (`parse_names_nodup`).
-/

namespace ApiTypings

/-! ## Merged entries -/

section Entries

variable {α : Type}

theorem setEntry_nodup (key : String) (value : α) {entries : List (String × α)}
    (h : (entries.map Prod.fst).Nodup) : ((setEntry key value entries).map Prod.fst).Nodup := by
  rw [keys_setEntry]
  split
  · exact h
  · rename_i hnew
    refine List.nodup_append.mpr ⟨h, List.nodup_singleton key, ?_⟩
    intro name hname other hother heq
    rw [List.mem_singleton.mp hother] at heq
    exact hnew (heq ▸ hname)

theorem mem_setEntry {key : String} {value : α} {entries : List (String × α)}
    {entry : String × α} (h : entry ∈ setEntry key value entries) :
    entry.2 = value ∨ entry ∈ entries := by
  induction entries with
  | nil =>
      rw [setEntry, List.mem_singleton] at h
      exact Or.inl (by rw [h])
  | cons head rest ih =>
      obtain ⟨k, v⟩ := head
      rw [setEntry] at h
      split at h
      · rcases List.mem_cons.mp h with rfl | h
        · exact Or.inl rfl
        · exact Or.inr (List.mem_cons_of_mem _ h)
      · rcases List.mem_cons.mp h with rfl | h
        · exact Or.inr List.mem_cons_self
        · exact (ih h).imp_right (List.mem_cons_of_mem _)

/-- What holds of an empty list of entries, and still holds when one of the given entries
is set, holds when all are merged. -/
theorem mergeEntries_induction {p : List (String × α) → Prop} (entries : List (String × α))
    (hnil : p [])
    (hset : ∀ merged, ∀ entry ∈ entries, p merged → p (setEntry entry.1 entry.2 merged)) :
    p (mergeEntries entries) := by
  rw [mergeEntries]
  generalize [] = merged at hnil ⊢
  induction entries generalizing merged with
  | nil => exact hnil
  | cons head rest ih =>
      rw [List.foldl_cons]
      refine ih (fun merged entry hentry => hset merged entry (List.mem_cons_of_mem _ hentry)) _ ?_
      exact hset merged head List.mem_cons_self hnil

theorem mergeEntries_nodup (entries : List (String × α)) :
    ((mergeEntries entries).map Prod.fst).Nodup :=
  mergeEntries_induction (p := fun merged => (merged.map Prod.fst).Nodup) entries
    List.nodup_nil fun _ _ _ => setEntry_nodup _ _

/-- Merging brings in no new values. -/
theorem mem_mergeEntries {entries : List (String × α)} :
    ∀ entry ∈ mergeEntries entries, ∃ other ∈ entries, other.2 = entry.2 := by
  refine mergeEntries_induction
    (p := fun merged => ∀ entry ∈ merged, ∃ other ∈ entries, other.2 = entry.2) entries
    (by simp) ?_
  intro merged head hhead ih entry hentry
  rcases mem_setEntry hentry with hvalue | hmem
  · exact ⟨head, hhead, hvalue.symm⟩
  · exact ih entry hmem

end Entries

/-! ## Values -/

/-- No object in the value has two members of one name. -/
inductive Json.NamesDistinct : Json → Prop
  | null : NamesDistinct .null
  | bool (value : Bool) : NamesDistinct (.bool value)
  | number (value : JsonNumber) : NamesDistinct (.number value)
  | string (value : String) : NamesDistinct (.string value)
  | array {items : List Json} (h : ∀ item ∈ items, item.NamesDistinct) :
      NamesDistinct (.array items)
  | object {members : List (String × Json)} (hnames : (members.map Prod.fst).Nodup)
      (h : ∀ member ∈ members, member.2.NamesDistinct) : NamesDistinct (.object members)

theorem Json.NamesDistinct.merged {members : List (String × Json)}
    (h : ∀ member ∈ members, member.2.NamesDistinct) :
    (Json.object (mergeEntries members)).NamesDistinct := by
  refine .object (mergeEntries_nodup members) fun member hmember => ?_
  obtain ⟨other, hother, hvalue⟩ := mem_mergeEntries member hmember
  exact hvalue ▸ h other hother

/-! ### JSON -/

namespace Json.Reader

/-- What the readers of values, items and members give with the same fuel. -/
structure ReadsDistinct (fuel : Nat) : Prop where
  value {depth : Nat} {text rest : List Char} {value : Json}
    (h : readValue fuel depth text = some (value, rest)) : value.NamesDistinct
  items {depth : Nat} {text rest : List Char} {items : List Json}
    (h : readItems fuel depth text = some (items, rest)) : ∀ item ∈ items, item.NamesDistinct
  members {depth : Nat} {text rest : List Char} {members : List (String × Json)}
    (h : readMembers fuel depth text = some (members, rest)) :
    ∀ member ∈ members, member.2.NamesDistinct

namespace ReadsDistinct

variable {fuel depth : Nat} {text rest : List Char}

theorem readValue (ih : ReadsDistinct fuel) {value : Json}
    (h : Reader.readValue (fuel + 1) depth text = some (value, rest)) : value.NamesDistinct := by
  rw [Reader.readValue] at h
  split at h
  · cases h
    exact .null
  · cases h
    exact .bool true
  · cases h
    exact .bool false
  · obtain ⟨⟨s, tail⟩, -, h⟩ := Option.bind_eq_some_iff.mp h
    cases h
    exact .string s
  · split at h
    · cases h
    · split at h
      · cases h
        exact .array (by simp)
      · obtain ⟨⟨items, tail⟩, hitems, h⟩ := Option.bind_eq_some_iff.mp h
        cases h
        exact .array (ih.items hitems)
  · split at h
    · cases h
    · split at h
      · cases h
        exact .object List.nodup_nil (by simp)
      · obtain ⟨⟨members, tail⟩, hmembers, h⟩ := Option.bind_eq_some_iff.mp h
        cases h
        exact .merged (ih.members hmembers)
  · obtain ⟨⟨n, tail⟩, -, h⟩ := Option.bind_eq_some_iff.mp h
    cases h
    exact .number n

theorem readItems (ih : ReadsDistinct fuel) {items : List Json}
    (h : Reader.readItems (fuel + 1) depth text = some (items, rest)) :
    ∀ item ∈ items, item.NamesDistinct := by
  rw [Reader.readItems] at h
  obtain ⟨⟨first, tail⟩, hfirst, h⟩ := Option.bind_eq_some_iff.mp h
  simp only at h
  split at h
  · obtain ⟨⟨others, tail'⟩, hothers, h⟩ := Option.bind_eq_some_iff.mp h
    cases h
    exact List.forall_mem_cons.mpr ⟨ih.value hfirst, ih.items hothers⟩
  · cases h
    exact List.forall_mem_singleton.mpr (ih.value hfirst)
  · cases h

theorem readMembers (ih : ReadsDistinct fuel) {members : List (String × Json)}
    (h : Reader.readMembers (fuel + 1) depth text = some (members, rest)) :
    ∀ member ∈ members, member.2.NamesDistinct := by
  rw [Reader.readMembers] at h
  split at h
  · obtain ⟨⟨name, tail⟩, -, h⟩ := Option.bind_eq_some_iff.mp h
    simp only at h
    split at h
    · obtain ⟨⟨first, tail'⟩, hfirst, h⟩ := Option.bind_eq_some_iff.mp h
      simp only at h
      split at h
      · obtain ⟨⟨others, tail''⟩, hothers, h⟩ := Option.bind_eq_some_iff.mp h
        cases h
        exact List.forall_mem_cons.mpr ⟨ih.value hfirst, ih.members hothers⟩
      · cases h
        exact List.forall_mem_singleton.mpr (ih.value hfirst)
      · cases h
    · cases h
  · cases h

end ReadsDistinct

theorem readsDistinct (fuel : Nat) : ReadsDistinct fuel := by
  induction fuel with
  | zero =>
      -- without fuel nothing is read
      constructor
      · intro depth text rest value h
        simp [readValue] at h
      · intro depth text rest items h
        simp [readItems] at h
      · intro depth text rest members h
        simp [readMembers] at h
  | succ fuel ih => exact ⟨ih.readValue, ih.readItems, ih.readMembers⟩

end Json.Reader

theorem Json.parse?_namesDistinct {text : String} {document : Json}
    (h : Json.parse? text = some document) : document.NamesDistinct := by
  rw [Json.parse?] at h
  obtain ⟨⟨value, rest⟩, hvalue, h⟩ := Option.bind_eq_some_iff.mp h
  simp only at h
  split at h
  · cases h
    exact (Reader.readsDistinct _).value hvalue
  · cases h

/-! ### YAML -/

namespace Yaml

theorem integerValue?_namesDistinct {n : Int} {value : Json}
    (h : integerValue? n = some value) : value.NamesDistinct := by
  rw [integerValue?] at h
  split at h
  · cases h
    exact .number _
  · cases h

theorem doubleOf?_namesDistinct {text : String} {value : Json}
    (h : doubleOf? text = some value) : value.NamesDistinct := by
  rw [doubleOf?] at h
  split at h
  · cases h
    exact .null
  · obtain ⟨x, -, rfl⟩ := Option.map_eq_some_iff.mp h
    exact .number _

theorem plainValue?_namesDistinct {text : String} {value : Json}
    (h : plainValue? text = some value) : value.NamesDistinct := by
  rw [plainValue?] at h
  split at h
  · cases h
    exact .null
  · split at h
    · cases h
      exact .bool _
    · split at h
      · exact integerValue?_namesDistinct h
      · split at h
        · cases h
          exact .string text
        · cases hdouble : doubleOf? text with
          | none =>
              rw [hdouble] at h
              cases h
              exact .string text
          | some number =>
              rw [hdouble] at h
              cases h
              exact doubleOf?_namesDistinct hdouble

/-- A scalar is never a collection. -/
theorem scalarValue?_namesDistinct {plain : Bool} {tag : Option Tag} {text : String}
    {value : Json} (h : scalarValue? plain tag text = some value) : value.NamesDistinct := by
  rw [scalarValue?.eq_def] at h
  split at h
  · obtain ⟨b, -, rfl⟩ := Option.map_eq_some_iff.mp h
    exact .bool b
  · obtain ⟨n, -, h⟩ := Option.bind_eq_some_iff.mp h
    exact integerValue?_namesDistinct h
  · exact doubleOf?_namesDistinct h
  · split at h
    · cases h
      exact .null
    · cases h
  · cases h
    exact .string text
  · cases h
  · split at h
    · exact plainValue?_namesDistinct h
    · cases h
      exact .string text

namespace Node

mutual
theorem toJson?_namesDistinct (depth : Nat) : ∀ (node : Node) {value : Json},
    node.toJson? depth = some value → value.NamesDistinct
  | .scalar plain tag text, value, h => by
      rw [toJson?] at h
      exact scalarValue?_namesDistinct h
  | .sequence tag items, value, h => by
      rw [toJson?] at h
      split at h
      · cases h
      · obtain ⟨values, hvalues, rfl⟩ := Option.map_eq_some_iff.mp h
        exact .array (itemsToJson?_namesDistinct _ items hvalues)
  | .mapping tag entries, value, h => by
      rw [toJson?] at h
      split at h
      · cases h
      · obtain ⟨members, hmembers, rfl⟩ := Option.map_eq_some_iff.mp h
        exact .merged (entriesToJson?_namesDistinct _ entries hmembers)
theorem itemsToJson?_namesDistinct (depth : Nat) : ∀ (items : List Node)
    {values : List Json}, itemsToJson? depth items = some values →
    ∀ value ∈ values, value.NamesDistinct
  | [], values, h => by
      rw [itemsToJson?] at h
      cases h
      exact List.forall_mem_nil _
  | item :: rest, values, h => by
      rw [itemsToJson?] at h
      obtain ⟨first, hfirst, h⟩ := Option.bind_eq_some_iff.mp h
      obtain ⟨others, hothers, h⟩ := Option.bind_eq_some_iff.mp h
      cases h
      exact List.forall_mem_cons.mpr ⟨toJson?_namesDistinct depth item hfirst,
        itemsToJson?_namesDistinct depth rest hothers⟩
theorem entriesToJson?_namesDistinct (depth : Nat) : ∀ (entries : List (Node × Node))
    {members : List (String × Json)}, entriesToJson? depth entries = some members →
    ∀ member ∈ members, member.2.NamesDistinct
  | [], members, h => by
      rw [entriesToJson?] at h
      cases h
      exact List.forall_mem_nil _
  | (key, node) :: rest, members, h => by
      rw [entriesToJson?] at h
      obtain ⟨name, -, h⟩ := Option.bind_eq_some_iff.mp h
      obtain ⟨first, hfirst, h⟩ := Option.bind_eq_some_iff.mp h
      obtain ⟨others, hothers, h⟩ := Option.bind_eq_some_iff.mp h
      cases h
      exact List.forall_mem_cons.mpr ⟨toJson?_namesDistinct depth node hfirst,
        entriesToJson?_namesDistinct depth rest hothers⟩
end

end Node

theorem parseJson?_namesDistinct {text : String} {document : Json}
    (h : parseJson? text = some document) : document.NamesDistinct := by
  rw [parseJson?] at h
  obtain ⟨node, -, h⟩ := Option.bind_eq_some_iff.mp h
  exact node.toJson?_namesDistinct maxDepth h

end Yaml

/-! ## Documents -/

theorem readDocument_namesDistinct {tree : FileTree} {path : String} {document : Json}
    (h : readDocument tree path = .ok document) : document.NamesDistinct := by
  rw [readDocument] at h
  split at h
  · cases h
  · rw [parseDocument] at h
    split at h
    · split at h
      · rename_i hparse
        cases h
        exact Yaml.parseJson?_namesDistinct hparse
      · cases h
    · split at h
      · rename_i hparse
        cases h
        exact Json.parse?_namesDistinct hparse
      · cases h
  · cases h

/-! ## APIs -/

theorem Json.NamesDistinct.children {document : Json} (h : document.NamesDistinct) :
    ∀ value ∈ document.children, value.NamesDistinct := by
  cases h with
  | array hitems => exact hitems
  | object hnames hmembers =>
      intro value hvalue
      obtain ⟨member, hmember, rfl⟩ := List.mem_map.mp hvalue
      exact hmembers member hmember
  | null | bool | number | string => exact List.forall_mem_nil _

theorem decodeMap_names_nodup {α : Type} {decode : Json → Decoded α} {value : Json}
    {entries : List (String × α)} (hvalue : value.NamesDistinct)
    (h : value.decodeMap decode = .ok entries) : (entries.map Prod.fst).Nodup := by
  obtain ⟨members, rfl, hkeys⟩ := keys_decodeMap h
  cases hvalue with
  | object hnames hmembers => exact hkeys ▸ hnames

theorem ApiDocs.decode_names_nodup {document : Json} {docs : ApiDocs}
    (hdocument : document.NamesDistinct) (h : ApiDocs.decode document = .ok docs) :
    (docs.apis.map Prod.fst).Nodup := by
  refine RecordDecoder.decode_induction (r := ApiDocs.decoder)
    (p := fun docs => (docs.apis.map Prod.fst).Nodup) ?_ ?_ h
  · exact List.nodup_nil
  intro name value hvalue before after hbefore hset
  simp only [ApiDocs.decoder] at hset
  split at hset
  · obtain ⟨apis, hapis, hset⟩ := bind_eq_ok_iff.mp hset
    cases hset
    exact decodeMap_names_nodup (hdocument.children value hvalue) hapis
  · cases hset
    exact hbefore

/-- **Distinct APIs.** The APIs of a document have different names. -/
theorem parse_names_nodup {format : InputFormat} {source : String} {document : Json}
    {selected : Option String} {apis : List NamedApi} (hdocument : document.NamesDistinct)
    (h : format.parse source document selected = .ok apis) :
    (apis.map NamedApi.name).Nodup := by
  cases format with
  | api =>
      rw [InputFormat.parse] at h
      split at h
      · cases h
      · split at h
        · cases h
          exact List.nodup_singleton _
        · cases h
  | apiDocs =>
      rw [InputFormat.parse] at h
      split at h
      · cases h
      · rename_i hdocs
        split at h
        · cases h
          rw [List.map_map]
          exact ApiDocs.decode_names_nodup hdocument hdocs
        · split at h
          · cases h
            exact List.nodup_singleton _
          · cases h

end ApiTypings
