import ApiTypings.Proofs.DistinctNames

/-!
# Single fields of a record

A field of a record is one member of the object form, or one item of the list form
(`RecordDecoder.field?`). Two documents that differ in one field, and there in values that set
the field alike, are read alike: to the same record or with the same error, whatever stands
before and behind the field (`Reads.decode_changeField`). A part of the record that only one field
sets (`Sets`) is what the value of that field is read to, or the default (`Sets.decode`); a
value that sets nothing there can be left out (`Sets.ofMembers_changeEntry_eq_eraseP`).
-/

namespace ApiTypings

/-! ## Entries under their names -/

section Entries

variable {α : Type} {key : String} {entries : List (String × α)}

theorem valueAt?_eq_none_iff : valueAt? key entries = none ↔ key ∉ entries.map Prod.fst := by
  induction entries with
  | nil => simp [valueAt?]
  | cons head rest ih =>
      obtain ⟨k, value⟩ := head
      rw [valueAt?, List.map_cons, List.mem_cons, not_or]
      split
      · rename_i hkey
        simp [hkey]
      · rename_i hkey
        rw [ih]
        exact ⟨fun h => ⟨Ne.symm hkey, h⟩, fun h => h.2⟩

theorem mem_of_valueAt? {value : α}
    (h : valueAt? key entries = some value) : (key, value) ∈ entries := by
  induction entries with
  | nil => cases h
  | cons head rest ih =>
      obtain ⟨k, v⟩ := head
      rw [valueAt?] at h
      split at h
      · rename_i hkey
        cases h
        rw [hkey]
        exact List.mem_cons_self
      · exact List.mem_cons_of_mem _ (ih h)

/-- What is decoded under a name comes from the value under that name. -/
theorem valueAt?_of_mapM {β : Type} {decode : α → Decoded β} {results : List (String × β)}
    (h : (entries.mapM fun (name, value) => (name, ·) <$> decode value) = .ok results) :
    valueAt? key results = (valueAt? key entries).bind fun value => (decode value).toOption := by
  replace h := forall₂_of_mapM h
  induction h with
  | nil => rfl
  | @cons entry result _ _ hentry _ ih =>
      obtain ⟨name, value⟩ := entry
      obtain ⟨decoded, hdecoded, rfl⟩ := map_eq_ok_iff.mp hentry
      rw [valueAt?, valueAt?, ih]
      split
      · rw [Option.bind_some, hdecoded]
        rfl
      · rfl

end Entries

/-! ## Changes -/

section Changes

variable {α β : Type} {key : String} {f g : α → α}

/-- The entries with the value of a key changed, where the key first stands. -/
def changeEntry (key : String) (f : α → α) : List (String × α) → List (String × α)
  | [] => []
  | (k, v) :: rest => if k = key then (k, f v) :: rest else (k, v) :: changeEntry key f rest

theorem valueAt?_changeEntry (entries : List (String × α)) :
    valueAt? key (changeEntry key f entries) = (valueAt? key entries).map f := by
  induction entries with
  | nil => rfl
  | cons head rest ih =>
      obtain ⟨k, v⟩ := head
      rw [changeEntry, valueAt?]
      split
      · rename_i hkey
        rw [valueAt?, if_pos hkey]
        rfl
      · rename_i hkey
        rw [valueAt?, if_neg hkey, ih]

/-- A map is read entry by entry. -/
theorem mapM_changeEntry {decode : α → Decoded β}
    (h : ∀ value, decode (f value) = decode (g value)) (entries : List (String × α)) :
    (changeEntry key f entries).mapM (fun (name, value) => (name, ·) <$> decode value) =
      (changeEntry key g entries).mapM fun (name, value) => (name, ·) <$> decode value := by
  induction entries with
  | nil => rfl
  | cons head rest ih =>
      obtain ⟨k, v⟩ := head
      rw [changeEntry, changeEntry]
      split
      · simp only [List.mapM_cons, h]
      · rw [List.mapM_cons, List.mapM_cons, ih]

/-- A list is read item by item. -/
theorem mapM_modify {decode : α → Decoded β}
    (h : ∀ value, decode (f value) = decode (g value)) (index : Nat) (items : List α) :
    (items.modify index f).mapM decode = (items.modify index g).mapM decode := by
  induction items generalizing index with
  | nil => rw [List.modify_nil, List.modify_nil]
  | cons value rest ih =>
      cases index with
      | zero =>
          rw [List.modify_zero_cons, List.modify_zero_cons, List.mapM_cons, List.mapM_cons, h]
      | succ index =>
          rw [List.modify_succ_cons, List.modify_succ_cons, List.mapM_cons, List.mapM_cons,
            ih index]

end Changes

/-! ### Members and items -/

namespace Json

def changeMember (name : String) (f : Json → Json) : Json → Json
  | .object members => .object (changeEntry name f members)
  | value => value

def changeItem (index : Nat) (f : Json → Json) : Json → Json
  | .array items => .array (items.modify index f)
  | value => value

def dropMember (name : String) : Json → Json
  | .object members => .object (members.eraseP (·.1 == name))
  | value => value

variable {β : Type} {decode : Json → Decoded β} {name : String} {f g : Json → Json}

theorem decodeMap_changeMember (h : ∀ value, decode (f value) = decode (g value))
    (name : String) (value : Json) :
    (value.changeMember name f).decodeMap decode =
      (value.changeMember name g).decodeMap decode := by
  cases value with
  | object members => exact mapM_changeEntry h members
  | null | bool | number | string | array => rfl

theorem decodeList_changeItem (h : ∀ value, decode (f value) = decode (g value))
    (index : Nat) (value : Json) :
    (value.changeItem index f).decodeList decode =
      (value.changeItem index g).decodeList decode := by
  cases value with
  | array items => exact mapM_modify h index items
  | null | bool | number | string | object => rfl

theorem changeMember_eq_null_iff (value : Json) :
    value.changeMember name f = .null ↔ value = .null := by
  cases value <;> simp [changeMember]

theorem dropMember_eq_null_iff (value : Json) :
    value.dropMember name = .null ↔ value = .null := by
  cases value <;> simp [dropMember]

/-- What is not null is there. -/
theorem decodeOption_of_ne_null {value : Json} (h : value ≠ .null) :
    value.decodeOption decode = some <$> decode value := by
  cases value with
  | null => exact absurd rfl h
  | bool | number | string | array | object => rfl

end Json

/-! ## Fields -/

namespace RecordDecoder

variable {σ β : Type} (r : RecordDecoder σ) {name : String}

/-- The values of a record under the names of its fields, in either form. -/
def entries : Json → List (String × Json)
  | .object members => members
  | .array items => r.fields.zip items
  | _ => []

def field? (name : String) (document : Json) : Option Json :=
  valueAt? name (r.entries document)

def changeField (name : String) (f : Json → Json) : Json → Json
  | .object members => .object (changeEntry name f members)
  | .array items => .array (items.modify (r.fields.idxOf name) f)
  | value => value

theorem zip_modify (f : Json → Json) (names : List String) (items : List Json) :
    names.zip (items.modify (names.idxOf name) f) = changeEntry name f (names.zip items) := by
  induction names generalizing items with
  | nil => rfl
  | cons first names ih =>
      cases items with
      | nil =>
          rw [List.modify_nil]
          rfl
      | cons value rest =>
          by_cases hfirst : first = name
          · subst hfirst
            rw [List.idxOf_cons_self, List.modify_zero_cons, List.zip_cons_cons,
              List.zip_cons_cons, changeEntry, if_pos rfl]
          · rw [List.idxOf_cons_ne _ hfirst, List.modify_succ_cons, List.zip_cons_cons,
              List.zip_cons_cons, changeEntry, if_neg hfirst, ih]

theorem entries_changeField (f : Json → Json) (document : Json) :
    r.entries (r.changeField name f document) = changeEntry name f (r.entries document) := by
  cases document with
  | object members => rfl
  | array items => exact zip_modify f r.fields items
  | null | bool | number | string => rfl

theorem field?_changeField (f : Json → Json) (document : Json) :
    r.field? name (r.changeField name f document) = (r.field? name document).map f := by
  rw [field?, entries_changeField, valueAt?_changeEntry]
  rfl

theorem changeField_eq_null_iff (f : Json → Json) (document : Json) :
    r.changeField name f document = .null ↔ document = .null := by
  cases document <;> simp [changeField]

theorem keys_zip_sublist (names : List String) (items : List Json) :
    ((names.zip items).map Prod.fst).Sublist names := by
  induction names generalizing items with
  | nil => exact List.Sublist.slnil
  | cons first names ih =>
      cases items with
      | nil => exact List.nil_sublist _
      | cons value rest => exact (ih rest).cons_cons first

/-- The value of a field stands right inside the document. -/
theorem field?_mem_children {document value : Json} (h : r.field? name document = some value) :
    value ∈ document.children := by
  have hmem : (name, value) ∈ r.entries document := mem_of_valueAt? h
  cases document with
  | object members => exact List.mem_map_of_mem hmem
  | array items => exact (List.of_mem_zip hmem).2
  | null | bool | number | string => cases hmem

/-- No field has two values. -/
theorem entries_nodup (hfields : r.fields.Nodup) {document : Json}
    (hdocument : document.NamesDistinct) : ((r.entries document).map Prod.fst).Nodup := by
  cases hdocument with
  | object hnames _ => exact hnames
  | @array items _ => exact hfields.sublist (keys_zip_sublist r.fields items)
  | null | bool | number | string => exact List.nodup_nil

variable {r}

theorem ofMembers_zip {count : Nat} {names : List String} {items : List Json}
    {record record' : σ} (h : r.ofItems count names items record = .ok record') :
    r.ofMembers (names.zip items) record = .ok record' := by
  induction items generalizing names record with
  | nil =>
      rw [ofItems] at h
      rw [List.zip_nil_right, ofMembers, h]
  | cons value rest ih =>
      cases names with
      | nil => cases h
      | cons first names =>
          rw [ofItems] at h
          obtain ⟨next, hset, h⟩ := bind_eq_ok_iff.mp h
          rw [List.zip_cons_cons, ofMembers]
          exact bind_eq_ok_iff.mpr ⟨next, hset, ih h⟩

/-- A record that can be read is read from the values of its fields, in order. -/
theorem ofMembers_entries {defaults record : σ} {document : Json}
    (h : r.decode defaults document = .ok record) :
    r.ofMembers (r.entries document) defaults = .ok record := by
  cases document with
  | object members => exact h
  | array items => exact ofMembers_zip h
  | null | bool | number | string => cases h

/-! ### Values that set a field alike -/

section Alike

variable {f g : Json → Json}
  (h : ∀ value record, r.set name (f value) record = r.set name (g value) record)

include h

theorem ofMembers_changeEntry (members : List (String × Json)) (record : σ) :
    r.ofMembers (changeEntry name f members) record =
      r.ofMembers (changeEntry name g members) record := by
  induction members generalizing record with
  | nil => rfl
  | cons member rest ih =>
      obtain ⟨key, value⟩ := member
      rw [changeEntry, changeEntry]
      split
      · rename_i hkey
        subst hkey
        rw [ofMembers, ofMembers, h]
      · rw [ofMembers, ofMembers]
        exact bind_congr fun next => ih next

theorem ofItems_modify (count : Nat) (names : List String) (items : List Json) (record : σ) :
    r.ofItems count names (items.modify (names.idxOf name) f) record =
      r.ofItems count names (items.modify (names.idxOf name) g) record := by
  induction items generalizing names record with
  | nil => rw [List.modify_nil, List.modify_nil]
  | cons value rest ih =>
      cases names with
      -- an item more than there are fields is refused, whatever it is
      | nil => rfl
      | cons first names =>
          by_cases hfirst : first = name
          · subst hfirst
            rw [List.idxOf_cons_self, List.modify_zero_cons, List.modify_zero_cons, ofItems,
              ofItems, h]
          · rw [List.idxOf_cons_ne _ hfirst, List.modify_succ_cons, List.modify_succ_cons,
              ofItems, ofItems]
            exact bind_congr fun next => ih names next

/-- **One field.** Documents that differ in one field are read alike if the field is set
alike. -/
theorem decode_changeField (defaults : σ) (document : Json) :
    r.decode defaults (r.changeField name f document) =
      r.decode defaults (r.changeField name g document) := by
  cases document with
  | object members => exact ofMembers_changeEntry h members defaults
  | array items =>
      -- the error for a list that is too long tells the length, which no change alters
      have hlength (change : Json → Json) :
          (items.modify (r.fields.idxOf name) change).length = items.length :=
        List.length_modify ..
      rw [changeField, changeField, decode, decode, hlength, hlength]
      exact ofItems_modify h items.length r.fields items defaults
  | null | bool | number | string => rfl

end Alike

/-! ### Fields that are read by themselves -/

/-- A field is read by itself, and what is read is put into the record. -/
def Reads (r : RecordDecoder σ) (name : String) (read : Json → Decoded β) (put : σ → β → σ) :
    Prop :=
  ∀ value record, r.set name value record = put record <$> read value

namespace Reads

variable {read : Json → Decoded β} {put : σ → β → σ} (hreads : r.Reads name read put)

include hreads

theorem decode_changeField {f g : Json → Json} (h : ∀ value, read (f value) = read (g value))
    (defaults : σ) (document : Json) :
    r.decode defaults (r.changeField name f document) =
      r.decode defaults (r.changeField name g document) := by
  refine RecordDecoder.decode_changeField (fun value record => ?_) defaults document
  rw [hreads, hreads, h]

theorem own {get : σ → β} (hput : ∀ record part, get (put record part) = part) {value : Json}
    {before after : σ} (h : r.set name value before = .ok after) :
    read value = .ok (get after) := by
  rw [hreads] at h
  obtain ⟨part, hpart, rfl⟩ := map_eq_ok_iff.mp h
  rw [hput, hpart]

end Reads

/-! ### Parts of a record that one field sets -/

/-- A part of the record is what one field is read to: the field sets it so, and no other field
touches it. -/
structure Sets (r : RecordDecoder σ) (name : String) (read : Json → Decoded β) (get : σ → β) :
    Prop where
  own {value : Json} {before after : σ} :
    r.set name value before = .ok after → read value = .ok (get after)
  others {other : String} {value : Json} {before after : σ} :
    other ≠ name → r.set other value before = .ok after → get after = get before

namespace Sets

variable {read : Json → Decoded β} {get : σ → β} (hsets : r.Sets name read get)

include hsets

theorem ofMembers {members : List (String × Json)} (hnames : (members.map Prod.fst).Nodup)
    {record record' : σ} (h : r.ofMembers members record = .ok record') :
    (valueAt? name members = none ∧ get record' = get record) ∨
      ∃ value, valueAt? name members = some value ∧ read value = .ok (get record') := by
  induction members generalizing record with
  | nil =>
      cases h
      exact Or.inl ⟨rfl, rfl⟩
  | cons member rest ih =>
      obtain ⟨key, value⟩ := member
      obtain ⟨hnew, hrest⟩ := List.nodup_cons.mp hnames
      rw [RecordDecoder.ofMembers] at h
      obtain ⟨next, hset, h⟩ := bind_eq_ok_iff.mp h
      rw [valueAt?]
      by_cases hkey : key = name
      · subst hkey
        rw [if_pos rfl]
        -- no later member has the name again
        have habsent : valueAt? key rest = none := valueAt?_eq_none_iff.mpr hnew
        rcases ih hrest h with ⟨-, hget⟩ | ⟨other, hagain, -⟩
        · exact Or.inr ⟨value, rfl, hget ▸ hsets.own hset⟩
        · rw [habsent] at hagain
          cases hagain
      · rw [if_neg hkey, ← hsets.others hkey hset]
        exact ih hrest h

/-- **The part of a field.** It is what the value of the field is read to, or the default if
the field is not there. -/
theorem decode {document : Json} (hnames : ((r.entries document).map Prod.fst).Nodup)
    {defaults record : σ} (h : r.decode defaults document = .ok record) :
    (r.field? name document = none ∧ get record = get defaults) ∨
      ∃ value, r.field? name document = some value ∧ read value = .ok (get record) :=
  hsets.ofMembers hnames (ofMembers_entries h)

theorem decode_of_field? {document : Json}
    (hnames : ((r.entries document).map Prod.fst).Nodup) {defaults record : σ}
    (h : r.decode defaults document = .ok record) {value : Json}
    (hfield : r.field? name document = some value) : read value = .ok (get record) := by
  rcases hsets.decode hnames h with ⟨hnone, -⟩ | ⟨found, hfound, hread⟩
  · cases hfield.symm.trans hnone
  · cases hfield.symm.trans hfound
    exact hread

/-- A member can be left out if its value sets nothing in a record with this part. -/
theorem ofMembers_changeEntry_eq_eraseP {value : Json} {part : β}
    (hidle : ∀ record, get record = part → r.set name value record = .ok record)
    (members : List (String × Json)) {record : σ} (hpart : get record = part) :
    r.ofMembers (changeEntry name (fun _ => value) members) record =
      r.ofMembers (members.eraseP (·.1 == name)) record := by
  induction members generalizing record with
  | nil => rfl
  | cons member rest ih =>
      obtain ⟨key, old⟩ := member
      rw [changeEntry]
      by_cases hkey : key = name
      · subst hkey
        rw [if_pos rfl, List.eraseP_cons_of_pos (by simp), RecordDecoder.ofMembers,
          hidle record hpart]
        rfl
      · rw [if_neg hkey, List.eraseP_cons_of_neg (by simpa using hkey),
          RecordDecoder.ofMembers, RecordDecoder.ofMembers]
        cases hset : r.set key old record with
        | error failure => rfl
        | ok next =>
            have hnext : get next = part := (hsets.others hkey hset).trans hpart
            exact ih hnext

end Sets

end RecordDecoder

end ApiTypings
