import ApiTypings.Declaration.DocBlock

/-!
# Links for references

In the texts of doc comments a reference `(~~25609~~)` becomes a link, wherever a search from
the left finds one (`Links`). The search has to be made once only: nothing in its result is a
reference (`not_hasReference_linkFrom`). A new one would start with a parenthesis that the
result kept from the text or got from a link. A link has no other parenthesis than its first,
which no tilde follows, so that the reference would have been in the text before
(`append_of_linkFrom_eq`). And no reference, no link goes across a line feed: line by line the
result is the same (`splitWhen_linkFrom`), and a comment has as many lines as its text.
-/

namespace ApiTypings

/-! ## References -/

structure IsPageNumber (digits : List Char) : Prop where
  ne_nil : digits ≠ []
  decimal : ∀ c ∈ digits, isDecimalDigit c

def pageReference (digits : List Char) : List Char :=
  ['(', '~', '~'] ++ digits ++ ['~', '~', ')']

def StartsReference (text : List Char) : Prop :=
  ∃ digits, IsPageNumber digits ∧ pageReference digits <+: text

def HasReference (text : List Char) : Prop :=
  ∃ digits, IsPageNumber digits ∧ pageReference digits <:+: text

/-- The text on the right has a link for each reference that a search from the left finds:
the first one is replaced, and the search goes on behind it. -/
inductive Links : List Char → List Char → Prop
  | none {text : List Char} (h : ¬ HasReference text) : Links text text
  | first {front digits rest linked : List Char} (hdigits : IsPageNumber digits)
      (hfirst : ∀ i < front.length,
        ¬ StartsReference ((front ++ pageReference digits ++ rest).drop i))
      (hrest : Links rest linked) :
      Links (front ++ pageReference digits ++ rest) (front ++ pageLink digits ++ linked)

section References

variable {text rest digits : List Char} {c : Char}

theorem IsPageNumber.not_mem (h : IsPageNumber digits) (hc : isDecimalDigit c = false) :
    c ∉ digits := by
  intro hmem
  rw [h.decimal c hmem] at hc
  cases hc

/-- A character that is no digit comes from the frame around the digits, if at all. -/
theorem IsPageNumber.not_mem_framed (h : IsPageNumber digits) (hc : isDecimalDigit c = false)
    {opening closing : List Char} (hframe : c ∉ opening ++ [] ++ closing) :
    c ∉ opening ++ digits ++ closing := by
  intro hmem
  rcases List.mem_append.mp hmem with hmem | hmem
  · rcases List.mem_append.mp hmem with hmem | hmem
    · exact hframe (List.mem_append_left _ (List.mem_append_left _ hmem))
    · exact h.not_mem hc hmem
  · exact hframe (List.mem_append_right _ hmem)

theorem IsPageNumber.not_mem_pageReference (h : IsPageNumber digits)
    (hc : isDecimalDigit c = false) (hframe : c ∉ pageReference []) :
    c ∉ pageReference digits :=
  h.not_mem_framed hc hframe

theorem IsPageNumber.not_mem_pageLink (h : IsPageNumber digits)
    (hc : isDecimalDigit c = false) (hframe : c ∉ pageLink []) : c ∉ pageLink digits :=
  h.not_mem_framed hc hframe

theorem StartsReference.head_eq (h : StartsReference (c :: rest)) : c = '(' := by
  obtain ⟨digits, -, hprefix⟩ := h
  exact (List.cons_prefix_cons.mp hprefix).1.symm

theorem not_hasReference_nil : ¬ HasReference [] := by
  rintro ⟨digits, -, hinfix⟩
  exact absurd (List.infix_nil.mp hinfix) (List.cons_ne_nil _ _)

theorem hasReference_cons_iff :
    HasReference (c :: rest) ↔ StartsReference (c :: rest) ∨ HasReference rest := by
  simp only [HasReference, StartsReference, List.infix_cons_iff, and_or_left, exists_or]

theorem pageReference?_pageReference (h : IsPageNumber digits) :
    pageReference? (pageReference digits ++ rest) = some digits := by
  have htilde : isDecimalDigit '~' = false := by decide
  have htake : (digits ++ '~' :: '~' :: ')' :: rest).takeWhile isDecimalDigit = digits := by
    rw [List.takeWhile_append_of_pos h.decimal, List.takeWhile_cons, htilde]
    exact List.append_nil digits
  have hdrop : (digits ++ '~' :: '~' :: ')' :: rest).dropWhile isDecimalDigit =
      '~' :: '~' :: ')' :: rest := by
    rw [List.dropWhile_append_of_pos h.decimal, List.dropWhile_cons, htilde]
    rfl
  have htext : pageReference digits ++ rest =
      '(' :: '~' :: '~' :: (digits ++ '~' :: '~' :: ')' :: rest) := by
    simp [pageReference]
  rw [htext, pageReference?]
  simp only [hdrop, htake]
  rw [if_neg]
  simpa using h.ne_nil

/-- A reference is found where one is written, with the digits that are written. -/
theorem pageReference?_eq_some_iff :
    pageReference? text = some digits ↔ IsPageNumber digits ∧ pageReference digits <+: text := by
  constructor
  · intro h
    rw [pageReference?.eq_def] at h
    split at h
    · rename_i rest
      split at h
      · rename_i behind hbehind
        dsimp only at h
        split at h
        · cases h
        · rename_i hne
          cases h
          refine ⟨⟨by simpa using hne, List.all_eq_true.mp List.all_takeWhile⟩, behind, ?_⟩
          have hsplit := List.takeWhile_append_dropWhile (p := isDecimalDigit) (l := rest)
          rw [hbehind] at hsplit
          simp [pageReference, hsplit]
      · cases h
    · cases h
  · rintro ⟨hdigits, rest, rfl⟩
    exact pageReference?_pageReference hdigits

theorem pageReference?_eq_none_iff : pageReference? text = none ↔ ¬ StartsReference text := by
  simp only [Option.eq_none_iff_forall_ne_some, ne_eq, pageReference?_eq_some_iff, StartsReference,
    not_exists]

end References

/-! ## The search -/

section Search

variable {text rest digits : List Char} {c : Char}

theorem linkFrom_eq_drop (skip : Nat) (text : List Char) :
    linkFrom skip text = linkFrom 0 (text.drop skip) := by
  induction text generalizing skip with
  | nil =>
      rw [List.drop_nil]
      cases skip <;> rfl
  | cons c rest ih =>
      cases skip with
      | zero => rfl
      | succ skip =>
          rw [linkFrom, List.drop_succ_cons]
          exact ih skip

/-- A character at which no reference starts is kept. -/
theorem linkFrom_cons (h : ¬ StartsReference (c :: rest)) :
    linkFrom 0 (c :: rest) = c :: linkFrom 0 rest := by
  rw [linkFrom, pageReference?_eq_none_iff.mpr h]

/-- A reference becomes a link, and the search goes on behind it. -/
theorem linkFrom_pageReference (h : IsPageNumber digits) :
    linkFrom 0 (pageReference digits ++ rest) = pageLink digits ++ linkFrom 0 rest := by
  have htext : pageReference digits ++ rest =
      '(' :: ('~' :: '~' :: (digits ++ ['~', '~', ')']) ++ rest) := by
    simp [pageReference]
  have hfound : pageReference? (pageReference digits ++ rest) = some digits :=
    pageReference?_pageReference h
  rw [htext] at hfound ⊢
  rw [linkFrom, hfound]
  dsimp only
  rw [linkFrom_eq_drop, List.drop_left' (by simp)]

/-- A text is taken apart as the search goes through it: at each place there is a character
that is kept, or a reference. -/
@[elab_as_elim]
theorem linkFrom_induction {motive : List Char → Prop} (nil : motive [])
    (kept : ∀ c rest, ¬ StartsReference (c :: rest) → motive rest → motive (c :: rest))
    (reference : ∀ digits rest, IsPageNumber digits → motive rest →
      motive (pageReference digits ++ rest))
    (text : List Char) : motive text := by
  induction hlength : text.length using Nat.strongRecOn generalizing text with
  | ind n ih =>
      subst hlength
      cases text with
      | nil => exact nil
      | cons c rest =>
          by_cases hstart : StartsReference (c :: rest)
          · obtain ⟨digits, hdigits, behind, hbehind⟩ := hstart
            have hshorter : behind.length < (c :: rest).length := by
              rw [← hbehind]
              simp [pageReference]
              omega
            rw [← hbehind]
            exact reference digits behind hdigits (ih _ hshorter behind rfl)
          · exact kept c rest hstart (ih rest.length (by simp) rest rfl)

/-- What is in front of the first reference is kept. -/
theorem linkFrom_append {front : List Char}
    (h : ∀ i < front.length, ¬ StartsReference ((front ++ rest).drop i)) :
    linkFrom 0 (front ++ rest) = front ++ linkFrom 0 rest := by
  induction front with
  | nil => rfl
  | cons c front ih =>
      have hhead : ¬ StartsReference (c :: (front ++ rest)) := h 0 (by simp)
      have htail : ∀ i < front.length, ¬ StartsReference ((front ++ rest).drop i) :=
        fun i hi => h (i + 1) (by simpa using hi)
      rw [List.cons_append, linkFrom_cons hhead, ih htail]
      rfl

/-- Nothing changes in a text without references. -/
theorem linkFrom_of_not_hasReference (h : ¬ HasReference text) : linkFrom 0 text = text := by
  induction text with
  | nil => rfl
  | cons c rest ih =>
      rw [hasReference_cons_iff, not_or] at h
      rw [linkFrom_cons h.1, ih h.2]

theorem links_linkFrom (text : List Char) : Links text (linkFrom 0 text) := by
  induction text using linkFrom_induction with
  | nil => exact Links.none not_hasReference_nil
  | kept c rest hstart ih =>
      rw [linkFrom_cons hstart]
      generalize linkFrom 0 rest = linked at ih
      cases ih with
      | none hnone =>
          refine Links.none ?_
          rw [hasReference_cons_iff, not_or]
          exact ⟨hstart, hnone⟩
      | @first front digits behind linked hdigits hfirst hbehind =>
          have hfirst' : ∀ i < (c :: front).length,
              ¬ StartsReference ((c :: front ++ pageReference digits ++ behind).drop i) := by
            intro i hi
            cases i with
            | zero => exact hstart
            | succ i => exact hfirst i (by simpa using hi)
          exact Links.first hdigits hfirst' hbehind
  | reference digits rest hdigits ih =>
      rw [linkFrom_pageReference hdigits]
      have hfirst : ∀ i < ([] : List Char).length,
          ¬ StartsReference (([] ++ pageReference digits ++ rest).drop i) := nofun
      exact Links.first hdigits hfirst ih

/-- The search puts the links, and there is one way to put them. -/
theorem links_iff {linked : List Char} : Links text linked ↔ linked = linkFrom 0 text := by
  constructor
  · intro h
    induction h with
    | none hnone => exact (linkFrom_of_not_hasReference hnone).symm
    | first hdigits hfirst _ ih =>
        rw [List.append_assoc] at hfirst
        rw [List.append_assoc, List.append_assoc, linkFrom_append hfirst,
          linkFrom_pageReference hdigits, ih]
  · rintro rfl
    exact links_linkFrom text

/-! ## Nothing is left to be found -/

/-- What is in front of the first parenthesis of the result is in front in the text as well. -/
theorem append_of_linkFrom_eq {front linked : List Char} (hfront : '(' ∉ front)
    (h : linkFrom 0 text = front ++ linked) :
    ∃ behind, text = front ++ behind ∧ linkFrom 0 behind = linked := by
  induction front generalizing text with
  | nil => exact ⟨text, rfl, h⟩
  | cons d front ih =>
      rw [List.mem_cons, not_or] at hfront
      induction text using linkFrom_induction with
      | nil => cases h
      | kept c rest hstart _ =>
          rw [linkFrom_cons hstart, List.cons_append, List.cons.injEq] at h
          obtain ⟨behind, hrest, hbehind⟩ := ih hfront.2 h.2
          exact ⟨behind, by rw [h.1, hrest, List.cons_append], hbehind⟩
      | reference digits rest hdigits _ =>
          rw [linkFrom_pageReference hdigits] at h
          exact absurd (List.cons.inj h).1 hfront.1

/-- If the result starts with a reference, so does the text. -/
theorem StartsReference.of_linkFrom (h : StartsReference (linkFrom 0 text)) :
    StartsReference text := by
  obtain ⟨digits, hdigits, linked, hlinked⟩ := h
  induction text using linkFrom_induction with
  | nil => cases hlinked
  | kept c rest hstart _ =>
      rw [linkFrom_cons hstart] at hlinked
      obtain ⟨rfl, hrest⟩ := List.cons.inj hlinked
      have hopen : '(' ∉ ['~', '~'] ++ digits ++ ['~', '~', ')'] :=
        hdigits.not_mem_framed (by decide) (by decide)
      obtain ⟨behind, hbehind, -⟩ := append_of_linkFrom_eq hopen hrest.symm
      exact ⟨digits, hdigits, behind, by rw [hbehind]; rfl⟩
  | reference number rest hnumber _ => exact ⟨number, hnumber, List.prefix_append _ _⟩

theorem hasReference_append {front : List Char} (h : '(' ∉ front) :
    HasReference (front ++ rest) ↔ HasReference rest := by
  induction front with
  | nil => rfl
  | cons c front ih =>
      rw [List.mem_cons, not_or] at h
      have hstart : ¬ StartsReference (c :: (front ++ rest)) := fun hc => h.1 hc.head_eq.symm
      rw [List.cons_append, hasReference_cons_iff, or_iff_right hstart, ih h.2]

theorem pageLink_append_eq (digits rest : List Char) :
    pageLink digits ++ rest = '(' :: 'h' ::
      ("ttps://help.aliyun.com/document_detail/".toList ++ digits ++ ".html)".toList ++ rest) := by
  have hopening : "(https://help.aliyun.com/document_detail/".toList =
      '(' :: 'h' :: "ttps://help.aliyun.com/document_detail/".toList := by decide
  exact congrArg (· ++ digits ++ ".html)".toList ++ rest) hopening

/-- A link makes no reference with what is behind it. -/
theorem hasReference_pageLink_append (h : IsPageNumber digits) :
    HasReference (pageLink digits ++ rest) ↔ HasReference rest := by
  have hopen : '(' ∉ "ttps://help.aliyun.com/document_detail/".toList ++ digits ++
      ".html)".toList := h.not_mem_framed (by decide) (by decide)
  rw [pageLink_append_eq, hasReference_cons_iff, hasReference_cons_iff, hasReference_append hopen]
  constructor
  · rintro (⟨number, -, hprefix⟩ | hstart | hrest)
    · -- a tilde would have to follow the parenthesis
      have hsecond := (List.cons_prefix_cons.mp hprefix).2
      exact absurd (List.cons_prefix_cons.mp hsecond).1 (by decide)
    · exact absurd hstart.head_eq (by decide)
    · exact hrest
  · exact fun hrest => Or.inr (Or.inr hrest)

/-- The result of the search has no reference in it. -/
theorem not_hasReference_linkFrom (text : List Char) : ¬ HasReference (linkFrom 0 text) := by
  induction text using linkFrom_induction with
  | nil => exact not_hasReference_nil
  | kept c rest hstart ih =>
      have hresult : ¬ StartsReference (c :: linkFrom 0 rest) := by
        rw [← linkFrom_cons hstart]
        exact fun h => hstart h.of_linkFrom
      rw [linkFrom_cons hstart, hasReference_cons_iff, not_or]
      exact ⟨hresult, ih⟩
  | reference digits rest hdigits ih =>
      rw [linkFrom_pageReference hdigits, hasReference_pageLink_append hdigits]
      exact ih

end Search

/-! ## Line by line -/

section Lines

/-- Line by line, the result of the search is the same. -/
theorem splitWhen_linkFrom (text : List Char) :
    splitWhen (· == '\n') (linkFrom 0 text) =
      (splitWhen (· == '\n') text).map (linkFrom 0) := by
  induction text using linkFrom_induction with
  | nil => rfl
  | kept c rest hstart ih =>
      rw [linkFrom_cons hstart, splitWhen, splitWhen, ih]
      split
      · rfl
      · obtain ⟨first, pieces, hpieces⟩ :=
          List.exists_cons_of_ne_nil (splitWhen_ne_nil (· == '\n') rest)
        have hfirst : ¬ StartsReference (c :: first) := by
          rintro ⟨digits, hdigits, hprefix⟩
          have hmore : c :: first <+: c :: rest :=
            (List.prefix_cons_inj c).mpr (prefix_of_splitWhen_eq_cons hpieces)
          exact hstart ⟨digits, hdigits, hprefix.trans hmore⟩
        simp [hpieces, linkFrom_cons hfirst]
  | reference digits rest hdigits ih =>
      obtain ⟨first, pieces, hpieces⟩ :=
        List.exists_cons_of_ne_nil (splitWhen_ne_nil (· == '\n') rest)
      have hlink : '\n' ∉ pageLink digits := hdigits.not_mem_pageLink (by decide) (by decide)
      have hreference : '\n' ∉ pageReference digits :=
        hdigits.not_mem_pageReference (by decide) (by decide)
      rw [linkFrom_pageReference hdigits, splitWhen_append_left (beq_lineFeed_of_not_mem hlink),
        splitWhen_append_left (beq_lineFeed_of_not_mem hreference), ih]
      simp [hpieces, linkFrom_pageReference hdigits]

theorem splitLines_linkPages (text : String) :
    splitLines (linkPages text) = (splitLines text).map linkPages := by
  have hline : linkPages ∘ String.ofList = String.ofList ∘ linkFrom 0 := by
    funext line
    rw [Function.comp_apply, Function.comp_apply, linkPages, String.toList_ofList]
  rw [splitLines, linkPages, String.toList_ofList, splitWhen_linkFrom, List.map_map, splitLines,
    List.map_map, hline]

theorem length_splitLines_linkPages (text : String) :
    (splitLines (linkPages text)).length = (splitLines text).length := by
  rw [splitLines_linkPages, List.length_map]

end Lines

/-! ## All references at once -/

/-- **References become links, once and line by line.** The text with links is the one that a
search from the left makes, it has no reference in it, and a second search leaves it as it is.
Its lines are the lines of the text with links; so a comment has as many lines for a text, or
for the description of a property, as are in the text itself. -/
theorem page_links_settled (text : String) :
    (∀ linked, Links text.toList linked ↔ linked = (linkPages text).toList) ∧
      ¬ HasReference (linkPages text).toList ∧
      linkPages (linkPages text) = linkPages text ∧
      splitLines (linkPages text) = (splitLines text).map linkPages ∧
      (∀ options, ∀ block ∈ DocBlock.ofText options (some text),
        block.lines.length = (splitLines text).length) ∧
      ∀ (insertExample : Bool) (note : Note),
        (DocBlock.linesOf insertExample { note with description := some text }).length =
          (splitLines text).length +
            (DocBlock.linesOf insertExample { note with description := none }).length := by
  have hlinked : (linkPages text).toList = linkFrom 0 text.toList := by
    rw [linkPages, String.toList_ofList]
  have hnone : ¬ HasReference (linkPages text).toList := by
    rw [hlinked]
    exact not_hasReference_linkFrom text.toList
  refine ⟨?_, hnone, ?_, splitLines_linkPages text, ?_, ?_⟩
  · intro linked
    rw [hlinked]
    exact links_iff
  · rw [linkPages, linkFrom_of_not_hasReference hnone, String.ofList_toList]
  · intro options block hblock
    rw [DocBlock.lines_ofText hblock, length_splitLines_linkPages]
  · intro insertExample note
    simp only [DocBlock.linesOf, List.length_append, List.length_map, List.length_nil,
      length_splitLines_linkPages]
    omega

/-- A text with one reference inside what would be another, and one that goes across a line
feed. -/
def nestedReferences : String := "(~~(~~٣~~)~~) (~~8\n~~)"

def nestedReferencesBlock : DocBlock where
  lines := ["(~~(https://help.aliyun.com/document_detail/٣.html)~~) (~~8", "~~)"]

theorem page_links_settled_nested :
    DocBlock.ofText {} (some nestedReferences) = some nestedReferencesBlock ∧
      nestedReferencesBlock.lines.length = (splitLines nestedReferences).length ∧
      linkPages (linkPages nestedReferences) = linkPages nestedReferences := by
  have hblock : DocBlock.ofText {} (some nestedReferences) = some nestedReferencesBlock := by
    decide +kernel
  obtain ⟨-, -, honce, -, hlines, -⟩ := page_links_settled nestedReferences
  exact ⟨hblock, hlines {} nestedReferencesBlock hblock, honce⟩

end ApiTypings
