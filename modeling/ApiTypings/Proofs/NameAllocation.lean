import ApiTypings.Proofs.NameHistory

/-!
# Allocated names

A base gets the name that is its stem, with the least number that makes it free. The loop
that looks for the number needs no more rounds than there are names, so a counter of 64
bits does not overflow while fewer than `2 ^ 64` names are held. Requests that come to one
stem, in a registry that holds nothing else, are numbered in turn: `HoldsFirst` is what
every one of them keeps, with one more candidate held.
-/

namespace ApiTypings.Names

theorem numbered_injective (base : String) : Function.Injective (numbered base) := by
  rw [← candidate_numbering]
  exact Numbering.candidate_injective

/-- The loop gives the name that is allocated. -/
theorem exists_gives_firstFree (taken : List String) (base : String) :
    ∃ rounds ≤ taken.toFinset.card, ∀ limit made name,
      (numbering base).Gives limit taken made name ↔
        made = rounds ∧ name = firstFree taken base ∧ rounds ≤ limit := by
  rw [firstFree_eq_search]
  exact (numbering base).exists_gives taken

/-! ## Requests for one stem -/

/-- The names held are the first candidates of a base, so many of them. -/
def HoldsFirst (names : Names) (base : String) (count : ℕ) : Prop :=
  ∀ name, name ∈ names.taken ↔ ∃ m < count, name = numbered base m

theorem holdsFirst_nil (interfacePrefix base : String) :
    HoldsFirst { interfacePrefix } base 0 := by
  intro name
  simp

namespace HoldsFirst

variable {names : Names} {base : String} {count : ℕ}

/-- The next candidate is the one that is free. -/
theorem firstFree_eq (h : names.HoldsFirst base count) :
    firstFree names.taken base = numbered base count := by
  obtain ⟨n, -, hname, hfree, hbefore⟩ := exists_firstFree names.taken base
  rcases Nat.lt_trichotomy n count with hfewer | rfl | hmore
  · exact absurd ((h _).mpr ⟨n, hfewer, rfl⟩) hfree
  · exact hname
  · obtain ⟨m, hm, heq⟩ := (h _).mp (hbefore count hmore)
    have hcount : count = m := numbered_injective base heq
    omega

/-- A request for the stem gets the next candidate, which is held from then on. -/
theorem allocate {request : String} (h : names.HoldsFirst base count)
    (hstem : names.stem request = base) :
    (names.allocate request).1 = numbered base count ∧
      (names.allocate request).2.HoldsFirst base (count + 1) := by
  have hname : (names.allocate request).1 = numbered base count := by
    rw [Names.allocate, hstem]
    exact h.firstFree_eq
  refine ⟨hname, fun name => ?_⟩
  have htaken : (names.allocate request).2.taken =
      (names.allocate request).1 :: names.taken := rfl
  rw [htaken, hname, List.mem_cons, h name]
  constructor
  · rintro (rfl | ⟨m, hm, rfl⟩)
    · exact ⟨count, Nat.lt_succ_self count, rfl⟩
    · exact ⟨m, Nat.lt_succ_of_lt hm, rfl⟩
  · rintro ⟨m, hm, rfl⟩
    rcases Nat.lt_succ_iff_lt_or_eq.mp hm with hm | rfl
    · exact Or.inr ⟨m, hm, rfl⟩
    · exact Or.inl rfl

/-- Requests for the stem get the candidates in turn. -/
theorem serveAll (h : names.HoldsFirst base count) {requests : List String}
    (hstems : ∀ request ∈ requests, names.stem request = base) {k : ℕ} {request : String}
    (hrequest : requests[k]? = some request) :
    (names.serveAll (requests.map .allocate)).1[k]? =
      some (.allocated request (numbered base (count + k))) := by
  induction requests generalizing names count k with
  | nil => cases hrequest
  | cons first rest ih =>
      obtain ⟨hname, hnext⟩ := h.allocate (hstems first List.mem_cons_self)
      rw [List.map_cons, Names.serveAll]
      cases k with
      | zero =>
          obtain rfl : first = request := Option.some.inj hrequest
          exact congrArg (fun name => some (Entry.allocated first name)) hname
      | succ k =>
          have hrest := ih hnext (fun other hother =>
            hstems other (List.mem_cons_of_mem _ hother)) hrequest
          rw [Nat.add_right_comm, Nat.add_assoc] at hrest
          exact hrest

end HoldsFirst

/-! ## Allocation -/

/-- **The least number.** A base gets its stem if this is free, and otherwise the stem with
the least number from 1 on that makes it free. The loop that finds the number ends in one
way, after at most as many rounds as there are names, and needs 64 bits only from `2 ^ 64`
names on. The name is added to those held, and nothing else changes. So requests that have
one capital form, where no name was held before, get it as it stands, with 1 behind it,
with 2, and so on. -/
theorem allocate_least_number (names : Names) (base : String) :
    let stem := names.interfacePrefix ++ upperFirst base
    let name := (names.allocate base).1
    (stem ∉ names.taken → name = stem) ∧
    (stem ∈ names.taken → ∃ n, 1 ≤ n ∧ name = stem ++ toString n ∧ name ∉ names.taken ∧
      ∀ m, 1 ≤ m → m < n → stem ++ toString m ∈ names.taken) ∧
    (∃ rounds ≤ names.taken.toFinset.card, ∀ limit made found,
      (numbering stem).Gives limit names.taken made found ↔
        made = rounds ∧ found = name ∧ rounds ≤ limit) ∧
    (names.taken.toFinset.card < UInt64.size →
      ∃ rounds, (numbering stem).Gives (UInt64.size - 1) names.taken rounds name) ∧
    (names.allocate base).2 = { names with taken := name :: names.taken } ∧
    ∀ (requests : List String) (capital : String),
      (∀ request ∈ requests, upperFirst request = capital) →
      ∀ (k : ℕ) (request : String), requests[k]? = some request →
        (serveAll { interfacePrefix := names.interfacePrefix }
            (requests.map .allocate)).1[k]? =
          some (Entry.allocated request
            (if k = 0 then names.interfacePrefix ++ capital
              else names.interfacePrefix ++ capital ++ toString k)) := by
  intro stem name
  have hname : name = firstFree names.taken stem := rfl
  have hloop := exists_gives_firstFree names.taken stem
  rw [← hname] at hloop
  refine ⟨fun hfree => hname.trans (firstFree_of_not_mem hfree), fun htaken => ?_, hloop,
    fun hfew => ?_, rfl, ?_⟩
  · obtain ⟨n, hpos, hnumbered, hfree, hbefore⟩ := (numbering stem).exists_number htaken
    rw [← firstFree_eq_search, ← hname] at hnumbered
    exact ⟨n, hpos, hnumbered, hnumbered ▸ hfree, hbefore⟩
  · obtain ⟨rounds, hrounds, hgives⟩ := hloop
    exact ⟨rounds, (hgives _ _ _).mpr ⟨rfl, rfl, by omega⟩⟩
  · intro requests capital hcapital k request hrequest
    have hstems : ∀ request ∈ requests,
        ({ interfacePrefix := names.interfacePrefix } : Names).stem request =
          names.interfacePrefix ++ capital := by
      intro request hmem
      rw [Names.stem, hcapital request hmem]
    have hserved := (holdsFirst_nil names.interfacePrefix
      (names.interfacePrefix ++ capital)).serveAll hstems hrequest
    rw [hserved, Nat.zero_add]
    cases k <;> rfl

/-- The names `IUser` and `IUser1`, and `IUser3` that was registered as it stands. -/
def heldUsers : Names where
  interfacePrefix := "I"
  taken := ["IUser3", "IUser1", "IUser"]

theorem allocate_least_number_user :
    heldUsers.interfacePrefix ++ upperFirst "user" ∈ heldUsers.taken ∧
      heldUsers.taken.toFinset.card < UInt64.size ∧
      (∀ request ∈ ["user", "User"], upperFirst request = "User") ∧
      (∃ n, 1 ≤ n ∧ (heldUsers.allocate "user").1 = "IUser" ++ toString n ∧
        ∀ m, 1 ≤ m → m < n → "IUser" ++ toString m ∈ heldUsers.taken) ∧
      (∃ rounds, (numbering "IUser").Gives (UInt64.size - 1) heldUsers.taken rounds "IUser2") ∧
      (serveAll { interfacePrefix := "I" } [.allocate "user", .allocate "User"]).1[1]? =
        some (Entry.allocated "User" "IUser1") := by
  have hstem : heldUsers.interfacePrefix ++ upperFirst "user" ∈ heldUsers.taken := by
    decide +kernel
  have hcard : heldUsers.taken.toFinset.card < UInt64.size := by decide +kernel
  have hcapital : ∀ request ∈ ["user", "User"], upperFirst request = "User" := by
    decide +kernel
  obtain ⟨-, hleast, -, hfits, -, hturns⟩ := allocate_least_number heldUsers "user"
  refine ⟨hstem, hcard, hcapital, ?_, ?_, hturns _ _ hcapital 1 "User" rfl⟩
  · obtain ⟨n, hpos, hname, -, hbefore⟩ := hleast hstem
    exact ⟨n, hpos, hname, hbefore⟩
  · exact hfits hcard

end ApiTypings.Names
