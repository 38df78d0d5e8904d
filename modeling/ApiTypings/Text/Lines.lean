/-!
# Lines and blanks

Splitting at separators and trimming. The lemmas on `splitWhen` say how the pieces of a
text hang together: a front without separators belongs to the first piece
(`splitWhen_append_left`), and a separator parts what is in front of it from what is behind
it (`splitWhen_append_cons`). The functions on `String` are the list functions between
`toList` and `ofList`.
-/

namespace ApiTypings

/-- The pieces between the characters at which `stop` holds; `n` separators make
`n + 1` pieces. -/
def splitWhen (stop : Char → Bool) : List Char → List (List Char)
  | [] => [[]]
  | c :: rest =>
      if stop c then [] :: splitWhen stop rest
      else (splitWhen stop rest).modifyHead (c :: ·)

theorem splitWhen_ne_nil (stop : Char → Bool) (text : List Char) :
    splitWhen stop text ≠ [] := by
  induction text with
  | nil => simp [splitWhen]
  | cons c rest ih =>
      by_cases h : stop c <;> simp [splitWhen, h, ih]

/-- A text without separators is one piece. -/
theorem splitWhen_of_forall_not {stop : Char → Bool} {text : List Char}
    (h : ∀ c ∈ text, stop c = false) : splitWhen stop text = [text] := by
  induction text with
  | nil => rfl
  | cons c rest ih =>
      simp [splitWhen, h c (by simp), ih fun d hd => h d (by simp [hd])]

/-- A front without separators belongs to the first piece. -/
theorem splitWhen_append_left {stop : Char → Bool} {front : List Char}
    (h : ∀ c ∈ front, stop c = false) (rest : List Char) :
    splitWhen stop (front ++ rest) = (splitWhen stop rest).modifyHead (front ++ ·) := by
  obtain ⟨first, pieces, hpieces⟩ := List.exists_cons_of_ne_nil (splitWhen_ne_nil stop rest)
  induction front with
  | nil => simp [hpieces]
  | cons c front ih =>
      simp [splitWhen, h c (by simp), ih fun d hd => h d (by simp [hd]), hpieces]

/-- A separator parts the pieces in front of it from those behind it. -/
theorem splitWhen_append_cons (stop : Char → Bool) {sep : Char} (hsep : stop sep)
    (front rest : List Char) :
    splitWhen stop (front ++ sep :: rest) = splitWhen stop front ++ splitWhen stop rest := by
  induction front with
  | nil => simp [splitWhen, hsep]
  | cons c front ih =>
      rw [List.cons_append, splitWhen, splitWhen, ih]
      split
      · rfl
      · cases hpieces : splitWhen stop front with
        | nil => exact absurd hpieces (splitWhen_ne_nil stop front)
        | cons piece pieces => rfl

/-- There is no separator in a piece. -/
theorem stop_of_mem_splitWhen {stop : Char → Bool} {text piece : List Char}
    (h : piece ∈ splitWhen stop text) : ∀ c ∈ piece, stop c = false := by
  induction text generalizing piece with
  | nil =>
      rw [splitWhen, List.mem_singleton] at h
      subst h
      exact List.forall_mem_nil _
  | cons c rest ih =>
      rw [splitWhen] at h
      split at h
      · rcases List.mem_cons.mp h with rfl | h
        · exact List.forall_mem_nil _
        · exact ih h
      · rename_i hc
        cases hpieces : splitWhen stop rest with
        | nil => exact absurd hpieces (splitWhen_ne_nil stop rest)
        | cons first others =>
            rw [hpieces, List.modifyHead_cons] at h
            rw [hpieces] at ih
            rcases List.mem_cons.mp h with rfl | h
            · exact List.forall_mem_cons.mpr ⟨by simpa using hc, ih List.mem_cons_self⟩
            · exact ih (List.mem_cons_of_mem first h)

/-- The text starts with its first piece. -/
theorem prefix_of_splitWhen_eq_cons {stop : Char → Bool} {text first : List Char}
    {pieces : List (List Char)} (h : splitWhen stop text = first :: pieces) : first <+: text := by
  induction text generalizing first pieces with
  | nil =>
      cases h
      exact List.nil_prefix
  | cons c rest ih =>
      rw [splitWhen] at h
      split at h
      · cases h
        exact List.nil_prefix
      · obtain ⟨piece, others, hpieces⟩ :=
          List.exists_cons_of_ne_nil (splitWhen_ne_nil stop rest)
        rw [hpieces, List.modifyHead_cons] at h
        cases h
        exact (List.prefix_cons_inj c).mpr (ih hpieces)

/-- Texts with line feeds between them have the pieces of each, in order. -/
theorem splitWhen_intercalate {stop : Char → Bool} (hstop : stop '\n') {lines : List String}
    (hne : lines ≠ []) :
    splitWhen stop ("\n".intercalate lines).toList =
      lines.flatMap fun line => splitWhen stop line.toList := by
  induction lines with
  | nil => exact absurd rfl hne
  | cons line rest ih =>
      cases rest with
      | nil => simp
      | cons next rest =>
          have htext : ("\n".intercalate (line :: next :: rest)).toList =
              line.toList ++ '\n' :: ("\n".intercalate (next :: rest)).toList := by
            rw [String.intercalate_cons_cons, String.toList_append, String.toList_append,
              List.append_assoc]
            rfl
          rw [htext, splitWhen_append_cons stop hstop, ih (List.cons_ne_nil _ _)]
          rfl

def splitLines (text : String) : List String :=
  (splitWhen (· == '\n') text.toList).map String.ofList

theorem beq_lineFeed_of_not_mem {text : List Char} (h : '\n' ∉ text) :
    ∀ c ∈ text, (c == '\n') = false := by
  intro c hc
  rw [beq_eq_false_iff_ne]
  rintro rfl
  exact h hc

theorem lineFeed_not_mem_of_mem_splitLines {text line : String} (h : line ∈ splitLines text) :
    '\n' ∉ line.toList := by
  obtain ⟨piece, hpiece, rfl⟩ := List.mem_map.mp h
  rw [String.toList_ofList]
  intro hmem
  exact absurd (stop_of_mem_splitWhen hpiece '\n' hmem) (by decide)

/-- Lines with line feeds between them are the lines of the text they make. -/
theorem splitLines_intercalate {lines : List String} (hne : lines ≠ [])
    (h : ∀ line ∈ lines, '\n' ∉ line.toList) : splitLines ("\n".intercalate lines) = lines := by
  have hpiece : ∀ line ∈ lines, splitWhen (· == '\n') line.toList = [line.toList] :=
    fun line hline => splitWhen_of_forall_not (beq_lineFeed_of_not_mem (h line hline))
  have hpieces : (lines.flatMap fun line => splitWhen (· == '\n') line.toList) =
      lines.map String.toList := by
    rw [List.flatMap_def, List.map_congr_left hpiece, ← List.flatMap_def, ← List.map_eq_flatMap]
  rw [splitLines, splitWhen_intercalate (by decide) hne, hpieces, List.map_map]
  simp

def dropCarriageReturn (line : List Char) : List Char :=
  if line.getLast? = some '\r' then line.dropLast else line

/-- The lines of a text as an editor counts them: a final line feed ends the last
line instead of starting another, and a carriage return before a line feed belongs
to the line break. -/
def textLines (text : String) : List String :=
  let pieces := splitWhen (· == '\n') text.toList
  let ended := pieces.dropLast.map dropCarriageReturn
  let last := pieces.getLast?.getD []
  (if last.isEmpty then ended else ended ++ [last]).map String.ofList

theorem dropCarriageReturn_sublist (line : List Char) : (dropCarriageReturn line).Sublist line := by
  unfold dropCarriageReturn
  split
  · exact List.dropLast_sublist line
  · exact List.Sublist.refl line

/-- A line of a text is a piece of it between line feeds, perhaps without its carriage return. -/
theorem lineFeed_not_mem_of_mem_textLines {text line : String} (h : line ∈ textLines text) :
    '\n' ∉ line.toList := by
  have hpieces : ∀ piece ∈ splitWhen (· == '\n') text.toList, '\n' ∉ piece := by
    intro piece hpiece hmem
    exact absurd (stop_of_mem_splitWhen hpiece '\n' hmem) (by decide)
  have hended : ∀ piece ∈ (splitWhen (· == '\n') text.toList).dropLast.map dropCarriageReturn,
      '\n' ∉ piece := by
    intro piece hpiece
    obtain ⟨whole, hwhole, rfl⟩ := List.mem_map.mp hpiece
    intro hmem
    exact hpieces whole ((List.dropLast_sublist _).mem hwhole)
      ((dropCarriageReturn_sublist whole).mem hmem)
  have hlast : '\n' ∉ (splitWhen (· == '\n') text.toList).getLast?.getD [] := by
    cases hpiece : (splitWhen (· == '\n') text.toList).getLast? with
    | none => exact List.not_mem_nil
    | some piece => exact hpieces piece (List.mem_of_getLast? hpiece)
  obtain ⟨piece, hpiece, rfl⟩ := List.mem_map.mp h
  rw [String.toList_ofList]
  split at hpiece
  · exact hended piece hpiece
  · rcases List.mem_append.mp hpiece with hpiece | hpiece
    · exact hended piece hpiece
    · rw [List.mem_singleton.mp hpiece]
      exact hlast

/-- The Unicode property `White_Space`. -/
def isBlank (c : Char) : Bool :=
  let n := c.toNat
  (0x9 ≤ n && n ≤ 0xD) || n == 0x20 || n == 0x85 || n == 0xA0 || n == 0x1680 ||
    (0x2000 ≤ n && n ≤ 0x200A) || n == 0x2028 || n == 0x2029 || n == 0x202F ||
    n == 0x205F || n == 0x3000

/-- The text without the blanks at its end. -/
def trimEndChars (text : List Char) : List Char :=
  (text.reverse.dropWhile isBlank).reverse

/-- The text without the blanks at its two ends. -/
def trimChars (text : List Char) : List Char :=
  trimEndChars (text.dropWhile isBlank)

theorem trimEndChars_sublist (text : List Char) : (trimEndChars text).Sublist text := by
  have hreverse := (List.dropWhile_sublist isBlank (l := text.reverse)).reverse
  rwa [List.reverse_reverse] at hreverse

theorem trimChars_sublist (text : List Char) : (trimChars text).Sublist text :=
  (trimEndChars_sublist _).trans (List.dropWhile_sublist isBlank)

@[inherit_doc trimEndChars]
def trimEnd (text : String) : String :=
  String.ofList (trimEndChars text.toList)

@[inherit_doc trimChars]
def trim (text : String) : String :=
  String.ofList (trimChars text.toList)

def isBlankText (text : String) : Bool :=
  text.toList.all isBlank

end ApiTypings
