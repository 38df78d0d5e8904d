import ApiTypings.Proofs.PageLinks

/-!
# Where a doc comment ends

A comment is over with the first `*/` in it. The frame of a block brings one of these, right
before the final line feed, and no frame, link or line break makes or unmakes another one: a
block has one more than the texts it shows (`terminators_text`). So a block is a single
comment exactly if none of its texts has a terminator (`doc_comment_closed_iff`). Texts are
shown as they are, and one with a terminator ends the comment early (`wildcard_ends_comment`).
-/

namespace ApiTypings

/-! ## Terminators -/

/-- Whether a terminator begins with the character in front of a text. -/
def StartsTerminator (c : Char) (rest : List Char) : Prop :=
  c = '*' ∧ rest.head? = some '/'

instance (c : Char) (rest : List Char) : Decidable (StartsTerminator c rest) :=
  inferInstanceAs (Decidable (_ ∧ _))

def terminators : List Char → Nat
  | [] => 0
  | c :: rest => (if StartsTerminator c rest then 1 else 0) + terminators rest

def behindComment? : List Char → Option (List Char)
  | [] => none
  | c :: rest => if StartsTerminator c rest then some rest.tail else behindComment? rest

section Terminators

variable {front rest text : List Char}

theorem terminators_cons_of_ne {c : Char} (h : c ≠ '*') :
    terminators (c :: rest) = terminators rest := by
  rw [terminators, if_neg (fun hstart => h hstart.1), Nat.zero_add]

theorem terminators_eq_zero (h : '*' ∉ text) : terminators text = 0 := by
  induction text with
  | nil => rfl
  | cons c rest ih =>
      rw [List.mem_cons, not_or] at h
      rw [terminators_cons_of_ne (Ne.symm h.1), ih h.2]

theorem terminators_eq_zero_iff : terminators text = 0 ↔ ¬ ['*', '/'] <:+: text := by
  induction text with
  | nil => simp [terminators]
  | cons c rest ih =>
      have hstart : ['*', '/'] <+: c :: rest ↔ StartsTerminator c rest := by
        rw [List.cons_prefix_cons, List.singleton_prefix_iff_head?_eq_some, StartsTerminator,
          eq_comm]
      rw [List.infix_cons_iff, hstart, not_or, ← ih, terminators]
      split <;> simp [*]

/-- Terminators add up, unless one is made where two texts meet. -/
theorem terminators_append (h : front.getLast? ≠ some '*' ∨ rest.head? ≠ some '/') :
    terminators (front ++ rest) = terminators front + terminators rest := by
  induction front with
  | nil => rw [List.nil_append, terminators, Nat.zero_add]
  | cons c front ih =>
      cases front with
      | nil =>
          have hstart : ¬ StartsTerminator c rest := by
            rintro ⟨rfl, hslash⟩
            rcases h with hstar | hhead
            · exact hstar rfl
            · exact hhead hslash
          rw [List.singleton_append, terminators, if_neg hstart, terminators, terminators]
          simp [StartsTerminator]
      | cons d front =>
          have hstart :
              StartsTerminator c ((d :: front) ++ rest) ↔ StartsTerminator c (d :: front) :=
            Iff.rfl
          have h' : (d :: front).getLast? ≠ some '*' ∨ rest.head? ≠ some '/' := by
            rwa [List.getLast?_cons_cons] at h
          rw [List.cons_append, terminators, terminators, ih h']
          simp only [hstart]
          omega

theorem terminators_append_of_not_mem (h : '*' ∉ front) :
    terminators (front ++ rest) = terminators rest := by
  have hlast : front.getLast? ≠ some '*' := fun hlast => h (List.mem_of_getLast? hlast)
  rw [terminators_append (Or.inl hlast), terminators_eq_zero h, Nat.zero_add]

/-- A text whose only terminator is at its end leaves what comes next. -/
theorem behindComment?_append
    (h : terminators (front ++ '*' :: '/' :: rest) = 1 + terminators rest) :
    behindComment? (front ++ '*' :: '/' :: rest) = some rest := by
  induction front with
  | nil => rfl
  | cons c front ih =>
      -- a terminator further in front would make two
      have hmore : 1 + terminators rest ≤ terminators (front ++ '*' :: '/' :: rest) := by
        rw [terminators_append (Or.inr (by simp))]
        simp [terminators, StartsTerminator]
      rw [List.cons_append, terminators] at h
      split at h
      · omega
      · rename_i hstart
        rw [List.cons_append, behindComment?, if_neg hstart]
        exact ih (by omega)

/-- How many terminators are in some texts, each on its own. -/
def terminatorsOf : List String → Nat
  | [] => 0
  | text :: rest => terminators text.toList + terminatorsOf rest

theorem terminatorsOf_append (texts others : List String) :
    terminatorsOf (texts ++ others) = terminatorsOf texts + terminatorsOf others := by
  induction texts with
  | nil => rw [List.nil_append, terminatorsOf, Nat.zero_add]
  | cons text texts ih => rw [List.cons_append, terminatorsOf, terminatorsOf, ih, Nat.add_assoc]

theorem terminatorsOf_map {f : String → String}
    (h : ∀ text, terminators (f text).toList = terminators text.toList) (texts : List String) :
    terminatorsOf (texts.map f) = terminatorsOf texts := by
  induction texts with
  | nil => rfl
  | cons text texts ih => rw [List.map_cons, terminatorsOf, terminatorsOf, h, ih]

theorem terminatorsOf_eq_zero_iff (texts : List String) :
    terminatorsOf texts = 0 ↔ ∀ text ∈ texts, ¬ ['*', '/'] <:+: text.toList := by
  induction texts with
  | nil => simp [terminatorsOf]
  | cons text texts ih =>
      rw [terminatorsOf, Nat.add_eq_zero_iff, terminators_eq_zero_iff, ih, List.forall_mem_cons]

/-- Texts that do not end in a star make no terminators when they are joined. -/
theorem terminators_join {texts : List String}
    (h : ∀ text ∈ texts, text.toList.getLast? ≠ some '*') :
    terminators (String.join texts).toList = terminatorsOf texts := by
  induction texts with
  | nil => rfl
  | cons text texts ih =>
      obtain ⟨htext, htexts⟩ := List.forall_mem_cons.mp h
      rw [String.join_cons, String.toList_append, terminators_append (Or.inl htext), ih htexts,
        terminatorsOf]

end Terminators

/-! ## Lines and blanks -/

/-- The first piece starts as the text does, unless a separator comes first. -/
theorem head?_splitWhen_iff {stop : Char → Bool} {text first : List Char}
    {pieces : List (List Char)} {d : Char} (hd : stop d = false) (h : splitWhen stop text = first :: pieces) :
    first.head? = some d ↔ text.head? = some d := by
  cases text with
  | nil =>
      cases h
      rfl
  | cons c rest =>
      rw [splitWhen] at h
      split at h
      · rename_i hstop
        cases h
        have hne : c ≠ d := by
          rintro rfl
          rw [hd] at hstop
          cases hstop
        simp [hne]
      · cases hpieces : splitWhen stop rest with
        | nil => exact absurd hpieces (splitWhen_ne_nil stop rest)
        | cons piece others =>
            rw [hpieces, List.modifyHead_cons] at h
            cases h
            rfl

/-- No terminator goes across a line feed. -/
theorem terminatorsOf_splitWhen (text : List Char) :
    terminatorsOf ((splitWhen (· == '\n') text).map String.ofList) = terminators text := by
  induction text with
  | nil => rfl
  | cons c rest ih =>
      rw [splitWhen]
      split
      · rename_i hfeed
        have hc : c = '\n' := by simpa using hfeed
        rw [List.map_cons, terminatorsOf, ih, terminators_cons_of_ne (by rw [hc]; decide)]
        exact Nat.zero_add _
      · cases hpieces : splitWhen (· == '\n') rest with
        | nil => exact absurd hpieces (splitWhen_ne_nil _ rest)
        | cons first pieces =>
            have hstart : StartsTerminator c first ↔ StartsTerminator c rest :=
              and_congr_right fun _ => head?_splitWhen_iff (by decide) hpieces
            rw [hpieces, List.map_cons, terminatorsOf, String.toList_ofList] at ih
            rw [List.modifyHead_cons, List.map_cons, terminatorsOf, String.toList_ofList,
              terminators, terminators, ← ih]
            simp only [hstart]
            omega

theorem star_not_mem_takeWhile_isBlank (text : List Char) : '*' ∉ text.takeWhile isBlank := by
  intro hmem
  have hblank := List.all_eq_true.mp List.all_takeWhile '*' hmem
  exact absurd hblank (by decide)

theorem terminators_dropWhile_isBlank (text : List Char) :
    terminators (text.dropWhile isBlank) = terminators text := by
  have hsplit := List.takeWhile_append_dropWhile (p := isBlank) (l := text)
  rw [← terminators_append_of_not_mem (star_not_mem_takeWhile_isBlank text), hsplit]

theorem terminators_trimEndChars (text : List Char) :
    terminators (trimEndChars text) = terminators text := by
  have hsplit : trimEndChars text ++ (text.reverse.takeWhile isBlank).reverse = text := by
    rw [trimEndChars, ← List.reverse_append, List.takeWhile_append_dropWhile, List.reverse_reverse]
  have hblank : '*' ∉ (text.reverse.takeWhile isBlank).reverse := by
    rw [List.mem_reverse]
    exact star_not_mem_takeWhile_isBlank _
  have hhead : (text.reverse.takeWhile isBlank).reverse.head? ≠ some '/' := by
    intro hhead
    have hmem := List.mem_reverse.mp (List.mem_of_mem_head? hhead)
    exact absurd (List.all_eq_true.mp List.all_takeWhile '/' hmem) (by decide)
  rw [← hsplit, terminators_append (Or.inr hhead), terminators_eq_zero hblank, Nat.add_zero, hsplit]

theorem terminators_trim (text : String) :
    terminators (trim text).toList = terminators text.toList := by
  rw [trim, String.toList_ofList, trimChars, terminators_trimEndChars,
    terminators_dropWhile_isBlank]

theorem terminatorsOf_splitLines (text : String) :
    terminatorsOf (splitLines text) = terminators text.toList :=
  terminatorsOf_splitWhen text.toList

/-! ## Links -/

/-- A link starts with the parenthesis that its reference starts with. -/
theorem head?_linkFrom (text : List Char) : (linkFrom 0 text).head? = text.head? := by
  induction text using linkFrom_induction with
  | nil => rfl
  | kept c rest hstart _ => rw [linkFrom_cons hstart, List.head?_cons, List.head?_cons]
  | reference digits rest hdigits _ =>
      rw [linkFrom_pageReference hdigits]
      rfl

/-- Links bring no terminators and hide none. -/
theorem terminators_linkFrom (text : List Char) :
    terminators (linkFrom 0 text) = terminators text := by
  induction text using linkFrom_induction with
  | nil => rfl
  | kept c rest hstart ih =>
      have hterminator : StartsTerminator c (linkFrom 0 rest) ↔ StartsTerminator c rest := by
        rw [StartsTerminator, StartsTerminator, head?_linkFrom]
      rw [linkFrom_cons hstart, terminators, terminators, ih]
      simp only [hterminator]
  | reference digits rest hdigits ih =>
      have hlink : '*' ∉ pageLink digits := hdigits.not_mem_pageLink (by decide) (by decide)
      have hreference : '*' ∉ pageReference digits :=
        hdigits.not_mem_pageReference (by decide) (by decide)
      rw [linkFrom_pageReference hdigits, terminators_append_of_not_mem hlink, ih,
        terminators_append_of_not_mem hreference]

theorem terminators_linkPages (text : String) :
    terminators (linkPages text).toList = terminators text.toList := by
  rw [linkPages, String.toList_ofList, terminators_linkFrom]

/-! ## Blocks -/

def Note.shown (options : CommentOptions) (note : Note) : List String :=
  note.description.toList ++ if options.insertExample then note.sample.toList else []

namespace DocBlock

section Frames

variable {indent : String}

theorem terminators_lineText (hindent : '*' ∉ indent.toList) (line : String) :
    terminators (lineText indent line).toList = terminators line.toList := by
  rw [lineText]
  split
  · rename_i hempty
    have hline : line = "" := String.isEmpty_iff.mp hempty
    rw [String.toList_append, terminators_append_of_not_mem hindent, hline]
    rfl
  · have hframe : (indent ++ " * " ++ line ++ "\n").toList =
        indent.toList ++ ([' ', '*', ' '] ++ (line.toList ++ ['\n'])) := by
      simp
    rw [hframe, terminators_append_of_not_mem hindent, terminators_append (Or.inl (by decide)),
      terminators_append (Or.inr (by decide))]
    show 0 + (terminators line.toList + 0) = terminators line.toList
    rw [Nat.zero_add, Nat.add_zero]

theorem getLast?_lineText (line : String) : (lineText indent line).toList.getLast? = some '\n' := by
  rw [lineText]
  split
  · rw [String.toList_append, List.getLast?_append]
    rfl
  · rw [String.toList_append, List.getLast?_append]
    rfl

/-- What stands between the opening and the terminator that the frame brings. -/
def inside (indent : String) (block : DocBlock) : String :=
  "\n" ++ String.join (block.lines.map (lineText indent)) ++ indent ++ " "

theorem text_eq_inside (block : DocBlock) :
    block.text indent = indent ++ "/**" ++ block.inside indent ++ "*/\n" := by
  rw [← String.toList_inj]
  simp [text, inside]

theorem terminators_inside (hindent : '*' ∉ indent.toList) (block : DocBlock) :
    terminators (block.inside indent).toList = terminatorsOf block.lines := by
  have hpieces : block.inside indent =
      String.join (["\n"] ++ block.lines.map (lineText indent) ++ [indent ++ " "]) := by
    rw [← String.toList_inj]
    simp [inside]
  have hfirst : terminatorsOf ["\n"] = 0 := rfl
  have hlast : terminatorsOf [indent ++ " "] = 0 := by
    rw [terminatorsOf, terminatorsOf, String.toList_append, terminators_append_of_not_mem hindent]
    rfl
  rw [hpieces, terminators_join]
  · rw [terminatorsOf_append, terminatorsOf_append, hfirst, hlast, Nat.zero_add, Nat.add_zero,
      terminatorsOf_map (terminators_lineText hindent)]
  · intro piece hpiece
    rcases List.mem_append.mp hpiece with hpiece | hpiece
    · rcases List.mem_append.mp hpiece with hpiece | hpiece
      · rw [List.mem_singleton.mp hpiece]
        decide
      · obtain ⟨line, -, rfl⟩ := List.mem_map.mp hpiece
        rw [getLast?_lineText]
        decide
    · have hspace : " ".toList.getLast? = some ' ' := rfl
      rw [List.mem_singleton.mp hpiece, String.toList_append, List.getLast?_append, hspace,
        Option.some_or]
      decide

/-- A block has the terminator of its frame, and those of its lines. -/
theorem terminators_text (hindent : '*' ∉ indent.toList) (block : DocBlock) :
    terminators (block.text indent).toList =
      1 + terminatorsOf block.lines := by
  have hsplit : (block.text indent).toList =
      indent.toList ++ (['/', '*', '*'] ++ ((block.inside indent).toList ++ ['*', '/', '\n'])) := by
    rw [text_eq_inside]
    simp
  have hopen : ((block.inside indent).toList ++ ['*', '/', '\n']).head? ≠ some '/' := by
    simp [inside]
  have hframe : terminators ['/', '*', '*'] = 0 := rfl
  have hclose : terminators ['*', '/', '\n'] = 1 := rfl
  rw [hsplit, terminators_append_of_not_mem hindent, terminators_append (Or.inr hopen), hframe,
    terminators_append (Or.inr (by decide)), hclose, terminators_inside hindent]
  omega

end Frames

theorem terminators_description (text : String) :
    terminatorsOf ((splitLines (linkPages text)).map trim) = terminators text.toList := by
  rw [terminatorsOf_map terminators_trim, terminatorsOf_splitLines, terminators_linkPages]

/-- The lines of a property have the terminators of the texts that they show. -/
theorem terminators_linesOf (options : CommentOptions) (note : Note) :
    terminatorsOf (linesOf options.insertExample note) = terminatorsOf (note.shown options) := by
  have hdeprecated : terminatorsOf (if note.deprecated then ["", "@deprecated"] else []) = 0 := by
    cases note.deprecated <;> rfl
  have hexample : terminatorsOf ["", "@example"] = 0 := rfl
  rw [linesOf, Note.shown, terminatorsOf_append, terminatorsOf_append, hdeprecated,
    terminatorsOf_append, Nat.add_zero]
  congr 1
  · cases note.description with
    | none => rfl
    | some description => exact terminators_description description
  · cases note.sample with
    | none => cases options.insertExample <;> rfl
    | some sample =>
        cases options.insertExample with
        | false => rfl
        | true =>
            show terminatorsOf (["", "@example"] ++ splitLines sample) = _
            rw [terminatorsOf_append, hexample, terminatorsOf_splitLines, Nat.zero_add]
            rfl

end DocBlock

/-! ## Comments that end where they should -/

/-- A text that is one comment: it opens behind the indentation, and its only terminator
leaves nothing but a line feed. -/
structure IsOneComment (indent text : String) : Prop where
  opens : ∃ rest, text = indent ++ "/**" ++ rest
  once : terminators text.toList = 1
  behind : behindComment? text.toList = some ['\n']

theorem isOneComment_iff {indent : String} (hindent : '*' ∉ indent.toList) (block : DocBlock) :
    IsOneComment indent (block.text indent) ↔
      terminatorsOf block.lines = 0 := by
  have hcount := DocBlock.terminators_text hindent block
  constructor
  · intro h
    rw [h.once] at hcount
    omega
  · intro hnone
    have honce : terminators (block.text indent).toList = 1 := by
      rw [hcount, hnone]
    have htext : (block.text indent).toList =
        (indent ++ "/**" ++ block.inside indent).toList ++ '*' :: '/' :: ['\n'] := by
      rw [DocBlock.text_eq_inside, String.toList_append]
      rfl
    refine ⟨?_, honce, ?_⟩
    · exact ⟨block.inside indent ++ "*/\n", by rw [DocBlock.text_eq_inside, String.append_assoc]⟩
    · rw [htext] at honce ⊢
      exact behindComment?_append honce

/-- **Comments that end where they should.** The block of a property, or of a text under any
indentation, is a single comment exactly if no text that it shows has a terminator in it. -/
theorem doc_comment_closed_iff (options : CommentOptions) {indent : String}
    (hindent : ∀ c ∈ indent.toList, c = ' ') :
    (∀ (schema : Schema) (block : DocBlock), DocBlock.ofNote options schema.note = some block →
      (IsOneComment "  " (block.text "  ") ↔
        ∀ text ∈ schema.note.shown options, ¬ ['*', '/'] <:+: text.toList)) ∧
    ∀ (text : String) (block : DocBlock), DocBlock.ofText options (some text) = some block →
      (IsOneComment indent (block.text indent) ↔ ¬ ['*', '/'] <:+: text.toList) := by
  have hstar : '*' ∉ indent.toList := by
    intro hmem
    exact absurd (hindent '*' hmem) (by decide)
  constructor
  · intro schema block hblock
    rw [isOneComment_iff (by decide), DocBlock.lines_ofNote hblock, DocBlock.terminators_linesOf,
      terminatorsOf_eq_zero_iff]
  · intro text block hblock
    rw [isOneComment_iff hstar, DocBlock.lines_ofText hblock, terminatorsOf_splitLines,
      terminators_linkPages, terminators_eq_zero_iff]

/-! ### A description with and without a terminator -/

def describedSchema (description : String) : Schema where
  kind := some "string"
  description := some description

def statusBlock : DocBlock where
  lines := ["Status of the job"]

/-- The block of the property `accept`, which names a wildcard. -/
def acceptBlock : DocBlock where
  lines := ["Media types, e.g. */*"]

theorem status_comment_is_closed :
    DocBlock.ofNote {} (describedSchema "Status of the job").note = some statusBlock ∧
      IsOneComment "  " (statusBlock.text "  ") := by
  have hblock :
      DocBlock.ofNote {} (describedSchema "Status of the job").note = some statusBlock := by
    decide +kernel
  refine ⟨hblock, ?_⟩
  refine ((@doc_comment_closed_iff {} "  " (by simp)).1 _ _ hblock).mpr ?_
  decide +kernel

/-- **A wildcard ends the comment.** The rest of its line is outside. -/
theorem wildcard_ends_comment :
    DocBlock.ofNote {} (describedSchema "Media types, e.g. */*").note = some acceptBlock ∧
      ¬ IsOneComment "  " (acceptBlock.text "  ") ∧
      terminators (acceptBlock.text "  ").toList = 2 ∧
      behindComment? (acceptBlock.text "  ").toList = some "*\n   */\n".toList := by
  have htwo : terminators (acceptBlock.text "  ").toList = 2 := by decide +kernel
  refine ⟨by decide +kernel, ?_, htwo, by decide +kernel⟩
  intro h
  rw [h.once] at htwo
  cases htwo

end ApiTypings
