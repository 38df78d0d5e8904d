import ApiTypings.Declaration.Enumeration
import ApiTypings.Proofs.NumberedSearch

/-!
# The members of an enum

An enum has a member for each of its values, in their order. Many values can come to one
name, and a name with a number behind it can be the name of another value, before or after
it, so what a member is called depends on all members before it: `enumMembers_split` says
how, for any member. Each gets a name that none before it has, and that makes all names
different (`enumMembers_names_nodup`).
-/

namespace ApiTypings

/-! ## The name of one member -/

/-- The loop that looks for the name of a member. The first number that it puts behind a name
is 2. -/
def memberNumbering (name : String) : Numbering where
  plain := name
  stem := name ++ "_"
  start := 1
  length_le := by
    rw [String.length_append]
    exact Nat.le_add_right _ _

theorem candidate_memberNumbering (name : String) :
    (memberNumbering name).candidate = numberedMember name := by
  funext n
  cases n with
  | zero => rfl
  | succ n =>
      have hnumber : 1 + n + 1 = n + 2 := by omega
      rw [Numbering.candidate, Numbering.numbered, memberNumbering, hnumber, numberedMember]

theorem freeMember_eq_search (taken : List String) (name : String) :
    freeMember taken name = (memberNumbering name).search taken := by
  rw [Numbering.search, candidate_memberNumbering]
  rfl

theorem freeMember_not_mem (taken : List String) (name : String) :
    freeMember taken name ∉ taken := by
  obtain ⟨n, -, hsearch, hfree, -⟩ := (memberNumbering name).exists_search taken
  rw [freeMember_eq_search, hsearch]
  exact hfree

/-- The order of the names that are taken makes no difference. -/
theorem freeMember_reverse (taken : List String) (name : String) :
    freeMember taken.reverse name = freeMember taken name := by
  rw [freeMember_eq_search, freeMember_eq_search]
  exact Numbering.search_congr _ fun _ => List.mem_reverse

/-- A name that is taken gets the least number from 2 on that makes it free. -/
theorem exists_memberNumber {taken : List String} {name : String} (h : name ∈ taken) :
    ∃ k, 2 ≤ k ∧ freeMember taken name = name ++ "_" ++ toString k ∧
      name ++ "_" ++ toString k ∉ taken ∧
      ∀ j, 2 ≤ j → j < k → name ++ "_" ++ toString j ∈ taken := by
  rw [freeMember_eq_search]
  exact (memberNumbering name).exists_number h

/-! ## The names of all members -/

variable (options : CommentOptions)

/-- There is a member for each title, with its value and its comment. -/
theorem enumMembers_titles (taken : List String) (titles : Titles) :
    (enumMembers options taken titles).map (fun member => (member.value, member.doc)) =
      titles.map fun (value, title) => (value, DocBlock.ofText options title) := by
  induction titles generalizing taken with
  | nil => rfl
  | cons head rest ih =>
      rw [enumMembers, List.map_cons, List.map_cons, ih]

/-- A member is named in view of the names that were taken and those of the members before
it. -/
theorem enumMembers_split {taken : List String} {titles : Titles}
    {before after : List EnumMember} {member : EnumMember}
    (h : enumMembers options taken titles = before ++ member :: after) :
    member.name =
      freeMember ((before.map EnumMember.name).reverse ++ taken) (memberName member.value) := by
  induction before generalizing taken titles with
  | nil =>
      cases titles with
      | nil => cases h
      | cons head rest =>
          rw [enumMembers] at h
          obtain ⟨rfl, -⟩ := List.cons_eq_cons.mp h
          rfl
  | cons first before ih =>
      cases titles with
      | nil => cases h
      | cons head rest =>
          rw [enumMembers] at h
          obtain ⟨rfl, hrest⟩ := List.cons_eq_cons.mp h
          rw [ih hrest, List.map_cons, List.reverse_cons, List.append_assoc]
          rfl

theorem enumMembers_names_not_mem (taken : List String) (titles : Titles) :
    ∀ member ∈ enumMembers options taken titles, member.name ∉ taken := by
  intro member hmember htaken
  obtain ⟨before, after, hsplit⟩ := List.append_of_mem hmember
  rw [enumMembers_split options hsplit] at htaken
  exact freeMember_not_mem _ _ (List.mem_append_right _ htaken)

/-- No two members have one name. -/
theorem enumMembers_names_nodup (taken : List String) (titles : Titles) :
    ((enumMembers options taken titles).map EnumMember.name).Nodup := by
  induction titles generalizing taken with
  | nil => exact List.nodup_nil
  | cons head rest ih =>
      rw [enumMembers, List.map_cons, List.nodup_cons]
      refine ⟨fun hmem => ?_, ih _⟩
      obtain ⟨member, hmember, hname⟩ := List.mem_map.mp hmem
      have hfresh := enumMembers_names_not_mem options _ rest member hmember
      exact hfresh (hname ▸ List.mem_cons_self)

/-- **Nothing is lost, nothing is merged.** The text of an enum shows its members one after
the other. There is a member for each value, in order, bound to the value and with its
comment, and all members have different names. A member has the name of its value if no
member before it has that name, and otherwise the name with the least number from 2 on that
makes it differ from theirs. The loop that finds the number ends in one way, after at most
as many rounds as there are members before, if its counter can hold that many and one
more. -/
theorem members_distinct_in_order (enum : String) (titles : Titles)
    (description : Option String) :
    let decl := EnumDecl.ofTitles options enum titles description
    let members := decl.members
    (∀ exported, decl.text exported =
      DocBlock.optionalText "" decl.doc ++ exportMarker exported ++ "enum " ++ enum ++
        " \x7b\n" ++ String.join (members.map fun member =>
          DocBlock.optionalText "  " member.doc ++ "  " ++ member.name ++ " = " ++
            singleQuoted member.value ++ ",\n") ++ "\x7d\n") ∧
    members.map (fun member => (member.value, member.doc)) =
      titles.map (fun (value, title) => (value, DocBlock.ofText options title)) ∧
    (members.map EnumMember.name).Nodup ∧
    ∀ before member after, members = before ++ member :: after →
      let earlier := before.map EnumMember.name
      let name := memberName member.value
      (name ∉ earlier → member.name = name) ∧
      (name ∈ earlier → ∃ k, 2 ≤ k ∧ member.name = name ++ "_" ++ toString k ∧
        member.name ∉ earlier ∧
        ∀ j, 2 ≤ j → j < k → name ++ "_" ++ toString j ∈ earlier) ∧
      ∃ retries ≤ before.length, ∀ limit made found,
        (memberNumbering name).Gives limit earlier made found ↔
          made = retries ∧ found = member.name ∧ retries ≤ limit - 1 := by
  intro decl members
  refine ⟨fun _ => rfl, enumMembers_titles options [] titles,
    enumMembers_names_nodup options [] titles, ?_⟩
  intro before member after hsplit earlier name
  have hname : member.name = freeMember earlier name := by
    rw [enumMembers_split options hsplit, List.append_nil, freeMember_reverse]
  rw [hname]
  clear_value name
  refine ⟨fun hfree => ?_, fun htaken => ?_, ?_⟩
  · rw [freeMember_eq_search]
    exact Numbering.search_of_not_mem _ hfree
  · obtain ⟨k, hk, hmember, hfree, hbefore⟩ := exists_memberNumber htaken
    exact ⟨k, hk, hmember, hmember ▸ hfree, hbefore⟩
  · obtain ⟨retries, hle, hgives⟩ := (memberNumbering name).exists_gives earlier
    rw [← freeMember_eq_search] at hgives
    refine ⟨retries, Nat.le_trans hle ?_, hgives⟩
    exact Nat.le_trans (List.toFinset_card_le earlier) (List.length_map _).le

/-- Values with one name, and one whose own name has been given to another. -/
def collidingTitles : Titles :=
  [("a b", none), ("a-b", none), ("a_b_2", none)]

theorem members_distinct_in_order_colliding :
    (EnumDecl.ofTitles {} "KindEnum" collidingTitles none).members =
        [⟨none, "A_B", "a b"⟩, ⟨none, "A_B_2", "a-b"⟩] ++ ⟨none, "A_B_2_2", "a_b_2"⟩ :: [] ∧
      memberName "a_b_2" ∈ ["A_B", "A_B_2"] ∧
      ∃ k, 2 ≤ k ∧ "A_B_2_2" = memberName "a_b_2" ++ "_" ++ toString k ∧
        "A_B_2_2" ∉ ["A_B", "A_B_2"] ∧
        ∀ j, 2 ≤ j → j < k → memberName "a_b_2" ++ "_" ++ toString j ∈ ["A_B", "A_B_2"] := by
  have hsplit : (EnumDecl.ofTitles {} "KindEnum" collidingTitles none).members =
      [⟨none, "A_B", "a b"⟩, ⟨none, "A_B_2", "a-b"⟩] ++ ⟨none, "A_B_2_2", "a_b_2"⟩ :: [] := by
    decide +kernel
  have htaken : memberName "a_b_2" ∈ ["A_B", "A_B_2"] := by decide +kernel
  obtain ⟨-, -, -, hnames⟩ := members_distinct_in_order {} "KindEnum" collidingTitles none
  obtain ⟨-, hnumber, -⟩ := hnames _ _ _ hsplit
  exact ⟨hsplit, htaken, hnumber htaken⟩

end ApiTypings
