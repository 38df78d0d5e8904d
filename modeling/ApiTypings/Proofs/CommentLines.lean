import ApiTypings.Declaration.DocBlock

/-!
# Comments read back

The doc comment of a property has an opening line, a line for each line of its documentation,
and a closing line. A reader who knows the frames can take them away again (`shownLines?`): an
empty line is framed without a blank at its end and any other with one, so that no two lines
look alike in their frames, and no line has a line feed of its own. What the reader is left
with is the documentation, line for line, whatever it looks like
(`property_comment_reads_back`).
-/

namespace ApiTypings

/-! ## Reading a block -/

/-- What a line of a block shows: ` *` frames an empty line and ` * ` any other one, behind two
blanks. -/
def shownLine? (line : String) : Option String :=
  match line.toList with
  | [' ', ' ', ' ', '*'] => some ""
  | ' ' :: ' ' :: ' ' :: '*' :: ' ' :: c :: rest => some (String.ofList (c :: rest))
  | _ => none

def beforeFinalFeed? (text : String) : Option String :=
  if text.toList.getLast? = some '\n' then some (String.ofList text.toList.dropLast) else none

/-- The lines that a block shows between its opening and its closing line; none if it is not
framed as a block. -/
def shownLines? (block : String) : Option (List String) := do
  match splitLines (← beforeFinalFeed? block) with
  | opening :: rest =>
      if opening = "  /**" ∧ rest.getLast? = some "   */" then rest.dropLast.mapM shownLine?
      else none
  | [] => none

/-- The documentation of a property, line by line: its description, with links and each line
trimmed, a mark if it is deprecated, and its example as it is, if examples are asked for. -/
def Schema.documentation (options : CommentOptions) (schema : Schema) : List String :=
  let described :=
    match schema.description with
    | some description => (splitLines (linkPages description)).map trim
    | none => []
  let deprecated := if schema.deprecated = some true then ["", "@deprecated"] else []
  let exemplified :=
    match schema.sampleText with
    | some sample => ["", "@example"] ++ splitLines sample
    | none => []
  described ++ deprecated ++ if options.insertExample then exemplified else []

/-! ## Frames -/

theorem beforeFinalFeed?_append (text : String) : beforeFinalFeed? (text ++ "\n") = some text := by
  have hlist : (text ++ "\n").toList = text.toList ++ ['\n'] := String.toList_append
  rw [beforeFinalFeed?, hlist, if_pos List.getLast?_concat, List.dropLast_concat,
    String.ofList_toList]

namespace DocBlock

def framedLine (line : String) : String :=
  if line.isEmpty then "   *" else "   * " ++ line

theorem lineText_eq_framedLine (line : String) :
    lineText "  " line = framedLine line ++ "\n" := by
  unfold lineText framedLine
  split
  · rfl
  · rfl

theorem shownLine?_framedLine (line : String) : shownLine? (framedLine line) = some line := by
  unfold framedLine
  split
  · rename_i hempty
    rw [String.isEmpty_iff.mp hempty]
    rfl
  · rename_i hempty
    have hne : line.toList ≠ [] := by
      intro hnil
      exact hempty (String.isEmpty_iff.mpr (String.toList_eq_nil_iff.mp hnil))
    obtain ⟨c, rest, hline⟩ := List.exists_cons_of_ne_nil hne
    have hframed : ("   * " ++ line).toList = ' ' :: ' ' :: ' ' :: '*' :: ' ' :: c :: rest := by
      rw [String.toList_append, hline]
      rfl
    rw [shownLine?, hframed]
    show some (String.ofList (c :: rest)) = some line
    rw [← hline, String.ofList_toList]

theorem mapM_shownLine?_framedLine (lines : List String) :
    (lines.map framedLine).mapM shownLine? = some lines := by
  induction lines with
  | nil => rfl
  | cons line rest ih =>
      rw [List.map_cons, List.mapM_cons, shownLine?_framedLine, ih]
      rfl

theorem lineFeed_not_mem_framedLine {line : String} (h : '\n' ∉ line.toList) :
    '\n' ∉ (framedLine line).toList := by
  unfold framedLine
  split
  · decide
  · rw [String.toList_append, List.mem_append, not_or]
    exact ⟨by decide, h⟩

def framedLines (block : DocBlock) : List String :=
  "  /**" :: (block.lines.map framedLine ++ ["   */"])

theorem intercalate_concat (lines : List String) (last : String) :
    "\n".intercalate (lines ++ [last]) = String.join (lines.map (· ++ "\n")) ++ last := by
  induction lines with
  | nil => simp
  | cons line rest ih =>
      rw [List.cons_append, String.intercalate_cons_of_ne_nil (by simp), ih]
      simp [String.append_assoc]

/-- A block is its framed lines, with a line feed behind each. -/
theorem text_eq_framedLines (block : DocBlock) :
    block.text "  " = "\n".intercalate block.framedLines ++ "\n" := by
  have hlines : block.lines.map (lineText "  ") = (block.lines.map framedLine).map (· ++ "\n") := by
    rw [List.map_map]
    exact List.map_congr_left fun line _ => lineText_eq_framedLine line
  have hframed : block.framedLines = ("  /**" :: block.lines.map framedLine) ++ ["   */"] := rfl
  rw [text, hlines, hframed, intercalate_concat, ← String.toList_inj]
  simp

/-- A block whose lines are lines is read back. -/
theorem shownLines?_text {block : DocBlock} (h : ∀ line ∈ block.lines, '\n' ∉ line.toList) :
    shownLines? (block.text "  ") = some block.lines := by
  have hframed : ∀ line ∈ block.framedLines, '\n' ∉ line.toList := by
    intro line hline
    rcases List.mem_cons.mp hline with rfl | hline
    · decide
    · rcases List.mem_append.mp hline with hline | hline
      · obtain ⟨shown, hshown, rfl⟩ := List.mem_map.mp hline
        exact lineFeed_not_mem_framedLine (h shown hshown)
      · rw [List.mem_singleton.mp hline]
        decide
  have hsplit : splitLines ("\n".intercalate block.framedLines) = block.framedLines :=
    splitLines_intercalate (List.cons_ne_nil _ _) hframed
  rw [shownLines?, text_eq_framedLines, beforeFinalFeed?_append, Option.bind_eq_bind,
    Option.bind_some, hsplit, framedLines]
  dsimp only
  rw [if_pos ⟨rfl, List.getLast?_concat⟩, List.dropLast_concat, mapM_shownLine?_framedLine]

/-! ## Documentation -/

theorem linesOf_eq_documentation (options : CommentOptions) (schema : Schema) :
    linesOf options.insertExample schema.note = schema.documentation options := by
  have hdeprecated : schema.note.deprecated = true ↔ schema.deprecated = some true := by
    simp [Schema.note, Schema.isDeprecated]
  have hsample : schema.note.sample = schema.sampleText := rfl
  have hdescription : schema.note.description = schema.description := rfl
  unfold linesOf Schema.documentation
  simp only [hdeprecated, hsample, hdescription]
  congr 1
  · cases schema.description with
    | none => rfl
    | some description => rfl
  · cases schema.sampleText with
    | none => exact (ite_self []).symm
    | some sample => rfl

/-- No line of the documentation has a line feed in it. -/
theorem lineFeed_not_mem_documentation {options : CommentOptions} {schema : Schema}
    {line : String} (h : line ∈ schema.documentation options) : '\n' ∉ line.toList := by
  have hmark : ∀ line ∈ ["", "@deprecated"], '\n' ∉ line.toList := by decide
  have hheading : ∀ line ∈ ["", "@example"], '\n' ∉ line.toList := by decide
  unfold Schema.documentation at h
  rcases List.mem_append.mp h with h | h
  · rcases List.mem_append.mp h with h | h
    · split at h
      · obtain ⟨described, hdescribed, rfl⟩ := List.mem_map.mp h
        intro hmem
        rw [trim, String.toList_ofList] at hmem
        exact lineFeed_not_mem_of_mem_splitLines hdescribed ((trimChars_sublist _).mem hmem)
      · cases h
    · split at h
      · exact hmark line h
      · cases h
  · split at h
    · split at h
      · rcases List.mem_append.mp h with h | h
        · exact hheading line h
        · exact lineFeed_not_mem_of_mem_splitLines h
      · cases h
    · cases h

end DocBlock

/-- **Comments of properties read back.** With comments enabled, a property has no block exactly
if it has no documentation, and its block reads back to the lines of the documentation, in order
and with none lost, merged or added. -/
theorem property_comment_reads_back {options : CommentOptions}
    (henabled : options.disabled = false) (schema : Schema) :
    (DocBlock.ofNote options schema.note = none ↔ schema.documentation options = []) ∧
      ∀ block, DocBlock.ofNote options schema.note = some block →
        shownLines? (block.text "  ") = some (schema.documentation options) := by
  have hlines := DocBlock.linesOf_eq_documentation options schema
  constructor
  · rw [DocBlock.ofNote, henabled, hlines, if_neg Bool.false_ne_true]
    cases schema.documentation options with
    | nil => exact iff_of_true rfl rfl
    | cons line rest => exact iff_of_false (Option.some_ne_none _) (List.cons_ne_nil _ _)
  · intro block hblock
    have hshown : block.lines = schema.documentation options :=
      (DocBlock.lines_ofNote hblock).trans hlines
    rw [← hshown]
    refine DocBlock.shownLines?_text fun line hline => ?_
    rw [hshown] at hline
    exact DocBlock.lineFeed_not_mem_documentation hline

/-! ### Lines that look like frames -/

/-- The property `zone`: its texts have empty lines, blanks at the ends of lines, a line feed at
the end, and lines that look like those of a block. -/
def zoneSchema : Schema where
  description := some " Zone,  \n\n * as listed (~~7~~)\n"
  deprecated := some true
  sample := some (.string "  a\n \n   * b\n")

def zoneBlock : DocBlock where
  lines := ["Zone,", "", "* as listed (https://help.aliyun.com/document_detail/7.html)", "", "",
    "@deprecated", "", "@example", "  a", " ", "   * b", ""]

theorem property_comment_reads_back_zone :
    ({ insertExample := true } : CommentOptions).disabled = false ∧
      DocBlock.ofNote { insertExample := true } zoneSchema.note = some zoneBlock ∧
      shownLines? (zoneBlock.text "  ") =
        some (zoneSchema.documentation { insertExample := true }) := by
  have hblock : DocBlock.ofNote { insertExample := true } zoneSchema.note = some zoneBlock := by
    decide +kernel
  exact ⟨rfl, hblock, (property_comment_reads_back rfl zoneSchema).2 zoneBlock hblock⟩

end ApiTypings
