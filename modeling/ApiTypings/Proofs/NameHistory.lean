import ApiTypings.Proofs.NameSupply

/-!
# Histories of names

A registry of names gives out names and registers names as they stand, in any order. Its
history lists the calls with their answers. `Remembers` is what ties the registry to the
history: the names it holds are those that came in new, each once, and a name has been
mentioned, given out or passed to be registered, exactly when the registry holds it. Every
call keeps this (`Remembers.serve`), so the whole state of a registry can be read off its
history (`history_of_names`).
-/

namespace ApiTypings.Names

inductive Call where
  | allocate (base : String)
  | register (name : String)
deriving Repr, DecidableEq

/-- A call with its answer: the name that was given out, or whether the name was
accepted. -/
inductive Entry where
  | allocated (base name : String)
  | registered (name : String) (accepted : Bool)
deriving Repr, DecidableEq

namespace Entry

def call : Entry → Call
  | allocated base _ => .allocate base
  | registered name _ => .register name

/-- The name that an entry mentions: returned by the call, or passed to it. -/
def name : Entry → String
  | allocated _ name => name
  | registered name _ => name

/-- The name that comes in with an entry; a name that is refused does not. -/
def newName? : Entry → Option String
  | allocated _ name => some name
  | registered name accepted => if accepted then some name else none

end Entry

def serve (names : Names) : Call → Entry × Names
  | .allocate base =>
      let (name, names) := names.allocate base
      (.allocated base name, names)
  | .register name =>
      let (accepted, names) := names.register name
      (.registered name accepted, names)

def serveAll (names : Names) : List Call → List Entry × Names
  | [] => ([], names)
  | call :: rest =>
      let first := names.serve call
      let others := serveAll first.2 rest
      (first.1 :: others.1, others.2)

theorem map_call_serveAll (names : Names) (calls : List Call) :
    (names.serveAll calls).1.map Entry.call = calls := by
  induction calls generalizing names with
  | nil => rfl
  | cons call rest ih =>
      have hcall : (names.serve call).1.call = call := by
        cases call <;> rfl
      rw [serveAll, List.map_cons, hcall, ih]

/-- Each entry answers its call in the registry that the calls before it leave. -/
theorem serveAll_eq_append_cons {names : Names} {calls : List Call} {before after : List Entry}
    {entry : Entry} (h : (names.serveAll calls).1 = before ++ entry :: after) :
    ∃ front call rest, calls = front ++ call :: rest ∧
      (names.serveAll front).1 = before ∧
      ((names.serveAll front).2.serve call).1 = entry := by
  induction before generalizing names calls with
  | nil =>
      cases calls with
      | nil => cases h
      | cons call rest =>
          obtain ⟨hentry, -⟩ := List.cons_eq_cons.mp h
          exact ⟨[], call, rest, rfl, rfl, hentry⟩
  | cons first before ih =>
      cases calls with
      | nil => cases h
      | cons call rest =>
          obtain ⟨hfirst, hrest⟩ := List.cons_eq_cons.mp h
          obtain ⟨front, call', rest', rfl, hbefore, hentry⟩ := ih hrest
          refine ⟨call :: front, call', rest', rfl, ?_, hentry⟩
          rw [serveAll, hfirst, hbefore]

/-! ## What the registry remembers -/

/-- The registry remembers a history: it holds the names that came in, latest first and
each once, and these are all that have been mentioned. -/
structure Remembers (names : Names) (history : List Entry) : Prop where
  taken : names.taken = (history.filterMap Entry.newName?).reverse
  nodup : names.taken.Nodup
  mentioned (name : String) : name ∈ names.taken ↔ name ∈ history.map Entry.name

theorem remembers_nil (interfacePrefix : String) :
    Remembers { interfacePrefix } [] where
  taken := rfl
  nodup := List.nodup_nil
  mentioned _ := Iff.rfl

/-- A name is accepted exactly when it has not been mentioned. -/
theorem Remembers.register_iff {names : Names} {history : List Entry}
    (h : names.Remembers history) (name : String) :
    (names.register name).1 = true ↔ name ∉ history.map Entry.name := by
  rw [← h.mentioned, register]
  by_cases htaken : name ∈ names.taken
  · rw [if_pos (List.contains_iff_mem.mpr htaken)]
    simp [htaken]
  · rw [if_neg (by simpa using htaken)]
    simp [htaken]

/-- A name that is new comes in. -/
theorem Remembers.concat_new {names after : Names} {history : List Entry} {entry : Entry}
    (h : names.Remembers history) (hnew : entry.newName? = some entry.name)
    (hfree : entry.name ∉ names.taken) (hafter : after.taken = entry.name :: names.taken) :
    after.Remembers (history ++ [entry]) where
  taken := by
    rw [hafter, h.taken, List.filterMap_append, List.reverse_append]
    simp [hnew]
  nodup := hafter ▸ List.nodup_cons.mpr ⟨hfree, h.nodup⟩
  mentioned name := by
    rw [hafter, List.mem_cons, h.mentioned, List.map_append, List.mem_append, or_comm]
    exact or_congr_right List.mem_singleton.symm

/-- A name that is held is refused, and nothing changes. -/
theorem Remembers.concat_refused {names : Names} {history : List Entry} {name : String}
    (h : names.Remembers history) (htaken : name ∈ names.taken) :
    names.Remembers (history ++ [.registered name false]) where
  taken := by
    rw [h.taken, List.filterMap_append]
    simp [Entry.newName?]
  nodup := h.nodup
  mentioned other := by
    rw [List.map_append, List.mem_append, ← h.mentioned]
    constructor
    · exact Or.inl
    · rintro (hother | hother)
      · exact hother
      · rw [List.mem_singleton.mp hother]
        exact htaken

/-- A call is remembered. -/
theorem Remembers.serve {names : Names} {history : List Entry} (h : names.Remembers history)
    (call : Call) : (names.serve call).2.Remembers (history ++ [(names.serve call).1]) := by
  cases call with
  | allocate base => exact h.concat_new rfl (firstFree_not_mem _ _) rfl
  | register name =>
      rw [Names.serve, register]
      by_cases htaken : name ∈ names.taken
      · rw [if_pos (List.contains_iff_mem.mpr htaken)]
        exact h.concat_refused htaken
      · rw [if_neg (by simpa using htaken)]
        exact h.concat_new rfl htaken rfl

theorem Remembers.serveAll {names : Names} {history : List Entry}
    (h : names.Remembers history) (calls : List Call) :
    (names.serveAll calls).2.Remembers (history ++ (names.serveAll calls).1) := by
  induction calls generalizing names history with
  | nil =>
      rw [Names.serveAll, List.append_nil]
      exact h
  | cons call rest ih =>
      have hrest := ih (h.serve call)
      rw [List.append_assoc] at hrest
      exact hrest

/-- **Names and their history.** Whatever a registry without names is called for, the
names that it gives out and those that it accepts are different from each other. It
accepts a name exactly when no call before has returned that name or was passed it. The
names that it holds at the end are the ones that came in, latest first. -/
theorem history_of_names (interfacePrefix : String) (calls : List Call) :
    let history := (serveAll { interfacePrefix } calls).1
    let names := (serveAll { interfacePrefix } calls).2
    history.map Entry.call = calls ∧
    (history.filterMap Entry.newName?).Nodup ∧
    (∀ before name accepted after, history = before ++ .registered name accepted :: after →
      (accepted = true ↔ name ∉ before.map Entry.name)) ∧
    names.taken = (history.filterMap Entry.newName?).reverse ∧
    ∀ name, name ∈ names.taken ↔ name ∈ history.filterMap Entry.newName? := by
  intro history names
  have hstart := remembers_nil interfacePrefix
  have hend : names.Remembers history := hstart.serveAll calls
  refine ⟨map_call_serveAll _ calls, ?_, ?_, hend.taken, fun name => ?_⟩
  · have hnodup := hend.nodup
    rw [hend.taken] at hnodup
    exact List.nodup_reverse.mp hnodup
  · intro before name accepted after hsplit
    -- the registry that answers this call remembers the entries before it
    obtain ⟨front, call, rest, -, hbefore, hentry⟩ := serveAll_eq_append_cons hsplit
    have hfront := hstart.serveAll front
    rw [List.nil_append, hbefore] at hfront
    cases call with
    | allocate base => cases hentry
    | register other =>
        obtain ⟨rfl, rfl⟩ := Entry.registered.inj hentry
        exact hfront.register_iff _
  · rw [hend.taken, List.mem_reverse]

/-- A number is passed over where a name that was registered has it. -/
example : (serveAll { interfacePrefix := "I" }
    [.register "IUser1", .allocate "user", .allocate "user", .register "IUser2"]).1 =
    [.registered "IUser1" true, .allocated "user" "IUser", .allocated "user" "IUser2",
      .registered "IUser2" false] := by
  decide

end ApiTypings.Names
