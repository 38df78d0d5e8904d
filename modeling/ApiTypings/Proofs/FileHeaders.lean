import ApiTypings.OutputFile
import ApiTypings.Proofs.QuotedLiterals
import Mathlib.Data.List.TakeWhile

/-!
# File headers

A file without a template has a header of line comments in front of its declarations, with an
empty line between the two. The summary is cut into lines, and each gets its own two slashes; the
title gets two slashes once. So the header is made of comments exactly if every further line of
the title opens one by itself (`header_comment_iff`), and a title with a plain line break puts the
rest of its text among the declarations (`second_title_line_is_code`). To a reader who ends a
line at more than line feeds, the same goes for each line of the summary.
-/

namespace ApiTypings

/-! ## Line comments -/

/-- All lines of the text are line comments. `ends` says which characters end a line. -/
def IsLineComments (ends : Char → Bool) (text : String) : Prop :=
  ∀ line ∈ splitWhen ends text.toList, ['/', '/'] <+: line

/-- The text goes on with a line comment behind each of its line ends, so that all of it is
comment if it starts as one. -/
def StaysComment (ends : Char → Bool) (text : String) : Prop :=
  ∀ line ∈ (splitWhen ends text.toList).tail, ['/', '/'] <+: line

instance (ends : Char → Bool) (text : String) : Decidable (IsLineComments ends text) :=
  inferInstanceAs (Decidable (∀ line ∈ _, _))

instance (ends : Char → Bool) (text : String) : Decidable (StaysComment ends text) :=
  inferInstanceAs (Decidable (∀ line ∈ _, _))

section Comments

variable {ends : Char → Bool} {text : String}

/-- Lines are comments exactly if each of them is. -/
theorem isLineComments_intercalate {lines : List String} (hends : ends '\n') (hne : lines ≠ []) :
    IsLineComments ends ("\n".intercalate lines) ↔ ∀ line ∈ lines, IsLineComments ends line := by
  rw [IsLineComments, splitWhen_intercalate hends hne]
  simp only [List.mem_flatMap, forall_exists_index, and_imp, IsLineComments]
  exact ⟨fun h line hline piece hpiece => h piece line hline hpiece,
    fun h piece line hline hpiece => h line hline piece hpiece⟩

/-- Behind two slashes, and more on the same line, everything is up to the text. -/
theorem isLineComments_append {front : String} (hfront : ∀ c ∈ front.toList, ends c = false)
    (hslashes : ['/', '/'] <+: front.toList) :
    IsLineComments ends (front ++ text) ↔ StaysComment ends text := by
  obtain ⟨first, rest, hpieces⟩ :=
    List.exists_cons_of_ne_nil (splitWhen_ne_nil ends text.toList)
  have hfirst : ['/', '/'] <+: front.toList ++ first := hslashes.trans (List.prefix_append _ _)
  rw [IsLineComments, StaysComment, String.toList_append, splitWhen_append_left hfront, hpieces,
    List.modifyHead_cons, List.forall_mem_cons, List.tail_cons, and_iff_right hfirst]

theorem staysComment_of_forall (h : ∀ c ∈ text.toList, ends c = false) :
    StaysComment ends text := by
  rw [StaysComment, splitWhen_of_forall_not h]
  exact List.forall_mem_nil _

end Comments

/-! ## Blank texts -/

theorem trimEndChars_eq_nil_iff {text : List Char} :
    trimEndChars text = [] ↔ ∀ c ∈ text, isBlank c := by
  rw [trimEndChars, List.reverse_eq_nil_iff, List.dropWhile_eq_nil_iff]
  simp

theorem trimChars_eq_nil_iff {text : List Char} :
    trimChars text = [] ↔ ∀ c ∈ text, isBlank c := by
  rw [trimChars, trimEndChars_eq_nil_iff]
  constructor
  · intro h
    have hsplit := List.takeWhile_append_dropWhile (p := isBlank) (l := text)
    rw [← hsplit]
    intro c hc
    rcases List.mem_append.mp hc with hc | hc
    · exact List.all_eq_true.mp List.all_takeWhile c hc
    · exact h c hc
  · intro h c hc
    exact h c ((List.dropWhile_sublist isBlank).mem hc)

theorem trim_isEmpty (text : String) : (trim text).isEmpty = isBlankText text := by
  rw [Bool.eq_iff_iff, String.isEmpty_iff, ← String.toList_eq_nil_iff, trim, String.toList_ofList,
    trimChars_eq_nil_iff, isBlankText, List.all_eq_true]

theorem nonBlank?_some (text : String) :
    nonBlank? (some text) = if isBlankText text then none else some (trim text) := by
  rw [← trim_isEmpty]
  rfl

theorem nonBlank?_eq_none_iff {text : Option String} :
    nonBlank? text = none ↔ ∀ shown, text = some shown → isBlankText shown = true := by
  cases text with
  | none => exact iff_of_true rfl nofun
  | some shown => simp [nonBlank?_some]

def NamedApi.Documented (api : NamedApi) : Prop :=
  ∃ text, (api.info.title = some text ∨ api.info.summary = some text) ∧ isBlankText text = false

theorem NamedApi.not_documented_iff {api : NamedApi} :
    ¬ api.Documented ↔ nonBlank? api.info.title = none ∧ nonBlank? api.info.summary = none := by
  rw [nonBlank?_eq_none_iff, nonBlank?_eq_none_iff, ← forall_and]
  simp [Documented, or_imp]

/-! ## Headers -/

def titleLines (api : NamedApi) : List String :=
  match nonBlank? api.info.title with
  | some title => ["// " ++ api.name ++ ": " ++ title]
  | none => if (nonBlank? api.info.summary).isSome then ["// " ++ api.name] else []

def summaryLines (api : NamedApi) : List String :=
  match nonBlank? api.info.summary with
  | some summary => (textLines summary).map fun line => "// " ++ trimEnd line
  | none => []

theorem headerLines_eq (api : NamedApi) : headerLines api = titleLines api ++ summaryLines api :=
  rfl

section Header

variable {ends : Char → Bool} {api : NamedApi}

theorem titleLines_eq_nil_iff : titleLines api = [] ↔ ¬ api.Documented := by
  rw [NamedApi.not_documented_iff, titleLines]
  cases nonBlank? api.info.title with
  | some title => simp
  | none => cases nonBlank? api.info.summary <;> simp

theorem headerText_of_not_documented (h : ¬ api.Documented) : headerText api = "" := by
  have hsummary : summaryLines api = [] := by
    rw [summaryLines, (NamedApi.not_documented_iff.mp h).2]
  rw [headerText, headerLines_eq, titleLines_eq_nil_iff.mpr h, hsummary]
  rfl

theorem headerLines_ne_nil (h : api.Documented) : headerLines api ≠ [] := by
  rw [headerLines_eq]
  intro hnil
  exact titleLines_eq_nil_iff.mp (List.append_eq_nil_iff.mp hnil).1 h

theorem headerText_of_documented (h : api.Documented) :
    headerText api = "\n".intercalate (headerLines api) ++ "\n\n" := by
  obtain ⟨line, rest, hlines⟩ := List.exists_cons_of_ne_nil (headerLines_ne_nil h)
  rw [headerText, hlines]

/-- What stands in front of the texts of a header ends no line. -/
theorem frame_stays (hframe : ∀ c ∈ ['/', ' ', ':'], ends c = false) :
    (∀ c ∈ "// ".toList, ends c = false) ∧ ∀ c ∈ ": ".toList, ends c = false := by
  have hslashes : ∀ c ∈ "// ".toList, c ∈ ['/', ' ', ':'] := by simp
  have hcolon : ∀ c ∈ ": ".toList, c ∈ ['/', ' ', ':'] := by simp
  exact ⟨fun c hc => hframe c (hslashes c hc), fun c hc => hframe c (hcolon c hc)⟩

/-- The first line is a comment unless the title breaks out. -/
theorem titleLines_comments_iff (hframe : ∀ c ∈ ['/', ' ', ':'], ends c = false)
    (hname : ∀ c ∈ api.name.toList, ends c = false) :
    (∀ line ∈ titleLines api, IsLineComments ends line) ↔
      ∀ title ∈ nonBlank? api.info.title, StaysComment ends title := by
  obtain ⟨hslashes, hcolon⟩ := frame_stays hframe
  rw [titleLines]
  cases nonBlank? api.info.title with
  | some title =>
      have hfront : ∀ c ∈ ("// " ++ api.name ++ ": ").toList, ends c = false := by
        intro c hc
        rw [String.toList_append, String.toList_append] at hc
        rcases List.mem_append.mp hc with hc | hc
        · rcases List.mem_append.mp hc with hc | hc
          · exact hslashes c hc
          · exact hname c hc
        · exact hcolon c hc
      have hopen : ['/', '/'] <+: ("// " ++ api.name ++ ": ").toList := by
        rw [String.toList_append, String.toList_append]
        exact ⟨' ' :: (api.name.toList ++ ": ".toList), by simp⟩
      simp [isLineComments_append hfront hopen]
  | none =>
      refine iff_of_true ?_ nofun
      have hname' : IsLineComments ends ("// " ++ api.name) :=
        (isLineComments_append hslashes (by decide)).mpr (staysComment_of_forall hname)
      cases nonBlank? api.info.summary with
      | some summary => simpa using hname'
      | none => simp

/-- The other lines are comments unless one of the summary breaks out. -/
theorem summaryLines_comments_iff (hframe : ∀ c ∈ ['/', ' ', ':'], ends c = false) :
    (∀ line ∈ summaryLines api, IsLineComments ends line) ↔
      ∀ summary ∈ nonBlank? api.info.summary, ∀ line ∈ textLines summary,
        StaysComment ends (trimEnd line) := by
  have hline (line : String) :
      IsLineComments ends ("// " ++ trimEnd line) ↔ StaysComment ends (trimEnd line) :=
    isLineComments_append (frame_stays hframe).1 (by decide)
  rw [summaryLines]
  cases nonBlank? api.info.summary with
  | some summary => simp [hline]
  | none => simp

/-- A header is made of comments exactly if no text in it breaks out. -/
theorem header_comments_iff (hdocumented : api.Documented) (hfeed : ends '\n')
    (hframe : ∀ c ∈ ['/', ' ', ':'], ends c = false)
    (hname : ∀ c ∈ api.name.toList, ends c = false) :
    IsLineComments ends ("\n".intercalate (headerLines api)) ↔
      (∀ title ∈ nonBlank? api.info.title, StaysComment ends title) ∧
        ∀ summary ∈ nonBlank? api.info.summary, ∀ line ∈ textLines summary,
          StaysComment ends (trimEnd line) := by
  rw [isLineComments_intercalate hfeed (headerLines_ne_nil hdocumented), headerLines_eq,
    List.forall_mem_append, titleLines_comments_iff hframe hname,
    summaryLines_comments_iff hframe]

end Header

/-- Line feeds are no way out of a comment for a summary: it is cut at each of them. -/
theorem staysComment_summaryLine {text line : String} (h : line ∈ textLines text) :
    StaysComment (· == '\n') (trimEnd line) := by
  have hline : '\n' ∉ (trimEnd line).toList := by
    rw [trimEnd, String.toList_ofList]
    intro hmem
    exact lineFeed_not_mem_of_mem_textLines h ((trimEndChars_sublist _).mem hmem)
  exact staysComment_of_forall (beq_lineFeed_of_not_mem hline)

/-! ## Files -/

/-- **Headers are comments unless a title breaks out.** A file without a template has the
declarations alone if there is neither a title nor a summary. Otherwise a header and an empty
line are in front of them. By line feeds, all lines of the header are comments exactly if every
further line of the title opens one by itself. By all characters that end a line, each line of
the summary must do so, too. -/
theorem header_comment_iff (options : RenderOptions) {api : NamedApi} (decls : Declarations)
    (hname : '\n' ∉ api.name.toList) :
    ∃ content, fileText? options none api decls = some content ∧
      (¬ api.Documented → content = decls.text options.useExport) ∧
      (api.Documented → ∃ header,
        content = header ++ "\n\n" ++ decls.text options.useExport ∧
        (IsLineComments (· == '\n') header ↔
          ∀ title ∈ nonBlank? api.info.title, StaysComment (· == '\n') title) ∧
        ((∀ c ∈ api.name.toList, isLineTerminator c = false) →
          (IsLineComments isLineTerminator header ↔
            (∀ title ∈ nonBlank? api.info.title, StaysComment isLineTerminator title) ∧
              ∀ summary ∈ nonBlank? api.info.summary, ∀ line ∈ textLines summary,
                StaysComment isLineTerminator (trimEnd line)))) := by
  refine ⟨headerText api ++ decls.text options.useExport, rfl, ?_, ?_⟩
  · intro h
    rw [headerText_of_not_documented h, String.empty_append]
  · intro h
    refine ⟨"\n".intercalate (headerLines api), ?_, ?_, ?_⟩
    · rw [headerText_of_documented h]
    · rw [header_comments_iff h (by decide) (by simp) (beq_lineFeed_of_not_mem hname)]
      exact and_iff_left fun summary _ line hline => staysComment_summaryLine hline
    · intro hterminators
      exact header_comments_iff h (by decide) (by simp [isLineTerminator]) hterminators

/-! ### A title on one line and one on two -/

/-- The API `ListJobs`, whose summary has an empty line in it and ends in blanks. -/
def listJobsApi : NamedApi where
  name := "ListJobs"
  info :=
    { title := some " List jobs "
      summary := some "Lists every job.\r\n\r\n  Newest first. \n" }

theorem header_comment_iff_listJobs :
    '\n' ∉ listJobsApi.name.toList ∧ listJobsApi.Documented ∧
      (∀ c ∈ listJobsApi.name.toList, isLineTerminator c = false) ∧
      ∃ content, fileText? {} none listJobsApi {} = some content ∧
        ∃ header, content = header ++ "\n\n" ++ ({} : Declarations).text true ∧
          IsLineComments (· == '\n') header ∧ IsLineComments isLineTerminator header := by
  have hname : '\n' ∉ listJobsApi.name.toList := by decide
  have hterminators : ∀ c ∈ listJobsApi.name.toList, isLineTerminator c = false := by
    simp [listJobsApi, isLineTerminator]
  have hdocumented : listJobsApi.Documented := ⟨" List jobs ", Or.inl rfl, by decide +kernel⟩
  obtain ⟨content, hcontent, -, hheaded⟩ := header_comment_iff {} {} hname
  obtain ⟨header, hheader, hfeeds, hall⟩ := hheaded hdocumented
  refine ⟨hname, hdocumented, hterminators, content, hcontent, header, hheader, ?_, ?_⟩
  · exact hfeeds.mpr (by decide +kernel)
  · exact (hall hterminators).mpr (by decide +kernel)

/-- The API `Job`, whose title has a line break in it. -/
def titledJobApi : NamedApi where
  name := "Job"
  info := { title := some "List\njobs" }

def jobDeclarations : String :=
  "export type JobResponse = any;\n\nexport interface JobParameters \x7b\n\x7d\n"

/-- **A title on two lines.** The second line of the title is no comment: the file is not its
declarations under a header of comments, nor its declarations alone. -/
theorem second_title_line_is_code :
    fileContent? {} none titledJobApi = some ("// Job: List\njobs\n\n" ++ jobDeclarations) ∧
      (generate "Job" {} titledJobApi.info).text true = jobDeclarations ∧
      "// Job: List\njobs\n\n" ++ jobDeclarations ≠ jobDeclarations ∧
      ∀ header,
        "// Job: List\njobs\n\n" ++ jobDeclarations = header ++ "\n\n" ++ jobDeclarations →
        ¬ IsLineComments (· == '\n') header := by
  refine ⟨by decide +kernel, by decide +kernel, by decide +kernel, ?_⟩
  intro header hheader
  have hlists := congrArg String.toList hheader
  simp only [String.toList_append] at hlists
  have hfront : "// Job: List\njobs".toList ++ "\n\n".toList = header.toList ++ "\n\n".toList :=
    List.append_cancel_right hlists
  have htext : header = "// Job: List\njobs" :=
    String.toList_inj.mp (List.append_cancel_right hfront).symm
  rw [htext]
  decide +kernel

end ApiTypings
