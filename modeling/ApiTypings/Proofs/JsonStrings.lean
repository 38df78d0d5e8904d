import ApiTypings.Json.Printer
import ApiTypings.Json.Reader

/-!
# Strings of JSON read back

What `jsonString` writes, the reader takes for the text that was written, and it stops at the
closing quote whatever comes behind (`readQuoted_written`). In general, a string that has
been read is read in the same way in front of any other text (`readQuoted_append`): the reader
never looks behind the closing quote.
-/

namespace ApiTypings.Json.Reader

/-! ## More text behind what is read -/

theorem readHex4_append {text rest : List Char} {n : Nat} (h : readHex4 text = some (n, rest))
    (more : List Char) : readHex4 (text ++ more) = some (n, rest ++ more) := by
  match text, h with
  | a :: b :: c :: d :: tail, h =>
      simp only [readHex4, List.cons_append, Option.bind_eq_bind, Option.bind_eq_some_iff,
        Option.some.injEq, Prod.mk.injEq] at h ⊢
      obtain ⟨a, ha, b, hb, c, hc, d, hd, hn, rfl⟩ := h
      exact ⟨a, ha, b, hb, c, hc, d, hd, hn, rfl⟩

theorem readUnicodeEscape_append {text rest : List Char} {c : Char}
    (h : readUnicodeEscape text = some (c, rest)) (more : List Char) :
    readUnicodeEscape (text ++ more) = some (c, rest ++ more) := by
  rw [readUnicodeEscape, Option.bind_eq_bind, Option.bind_eq_some_iff] at h
  obtain ⟨⟨high, tail⟩, hhigh, h⟩ := h
  rw [readUnicodeEscape, readHex4_append hhigh, Option.bind_eq_bind, Option.bind_some]
  simp only at h ⊢
  split at h
  · -- a high surrogate, and the low one behind it
    rename_i hsurrogate
    rw [if_pos hsurrogate]
    split at h
    · obtain ⟨⟨low, tail'⟩, hlow, h⟩ := Option.bind_eq_some_iff.mp h
      simp only [List.cons_append, readHex4_append hlow, Option.bind_some]
      simp only at h
      split at h
      · rename_i hpair
        obtain ⟨hc, rfl⟩ := Prod.mk.inj (Option.some.inj h)
        rw [if_pos hpair, hc]
      · cases h
    · cases h
  · rename_i hsurrogate
    rw [if_neg hsurrogate]
    split at h
    · cases h
    · rename_i hlow
      rw [if_neg hlow]
      cases h
      rfl

theorem readEscape_append {text rest : List Char} {c : Char}
    (h : readEscape text = some (c, rest)) (more : List Char) :
    readEscape (text ++ more) = some (c, rest ++ more) := by
  rw [readEscape.eq_def] at h
  split at h
  case h_9 => exact readUnicodeEscape_append h more
  case h_10 => cases h
  all_goals
    cases h
    rfl

/-- A character that stands for itself. -/
theorem readString_plain {c : Char} (hquote : c ≠ '"') (hbackslash : c ≠ '\\')
    (hplain : ¬c.toNat < 0x20) (fuel : Nat) (read rest : List Char) :
    readString (fuel + 1) read (c :: rest) = readString fuel (c :: read) rest := by
  rw [readString]
  · exact if_neg hplain
  · exact hquote
  · exact hbackslash

/-- An escape, after the backslash. -/
theorem readString_escape {c : Char} {text rest : List Char}
    (h : readEscape text = some (c, rest)) (fuel : Nat) (read : List Char) :
    readString (fuel + 1) read ('\\' :: text) = readString fuel (c :: read) rest := by
  rw [readString, h]
  rfl

/-- More fuel makes no difference, and no text behind the closing quote does. -/
theorem readString_append {fuel fuel' : Nat} {read text chars rest : List Char}
    (h : readString fuel read text = some (chars, rest)) (hfuel : fuel ≤ fuel')
    (more : List Char) : readString fuel' read (text ++ more) = some (chars, rest ++ more) := by
  induction fuel generalizing fuel' read text with
  | zero => cases h
  | succ fuel ih =>
      obtain ⟨fuel', rfl⟩ : ∃ n, fuel' = n + 1 := ⟨fuel' - 1, by omega⟩
      have hle : fuel ≤ fuel' := Nat.le_of_succ_le_succ hfuel
      rw [readString.eq_def] at h
      simp only at h
      split at h
      · cases h
      · cases h
        rfl
      · obtain ⟨⟨c, tail⟩, hescape, h⟩ := Option.bind_eq_some_iff.mp h
        rw [List.cons_append, readString_escape (readEscape_append hescape more)]
        exact ih h hle
      · rename_i c tail hquote hbackslash
        split at h
        · cases h
        · rename_i hplain
          rw [List.cons_append, readString_plain hquote hbackslash hplain]
          exact ih h hle

/-- **A string ends at its closing quote.** -/
theorem readQuoted_append {text rest : List Char} {value : String}
    (h : readQuoted text = some (value, rest)) (more : List Char) :
    readQuoted (text ++ more) = some (value, rest ++ more) := by
  rw [readQuoted, Option.bind_eq_bind, Option.bind_eq_some_iff] at h
  obtain ⟨⟨chars, tail⟩, hread, h⟩ := h
  have hfuel : text.length + 1 ≤ (text ++ more).length + 1 := by simp
  rw [readQuoted, readString_append hread hfuel, Option.bind_eq_bind, Option.bind_some]
  cases h
  rfl

/-! ## What is written -/

/-- A control character is written with four digits that read as its code. -/
theorem readHex4_control : ∀ n < 0x20,
    readHex4 ['0', '0', hexDigit (n / 16), hexDigit (n % 16)] = some (n, []) := by
  decide +kernel

theorem readUnicodeEscape_control {c : Char} (h : c.toNat < 0x20) (rest : List Char) :
    readUnicodeEscape
      ('0' :: '0' :: hexDigit (c.toNat / 16) :: hexDigit (c.toNat % 16) :: rest) =
        some (c, rest) := by
  have hdigits := readHex4_append (readHex4_control c.toNat h) rest
  simp only [List.cons_append, List.nil_append] at hdigits
  have hhigh : ¬(0xD800 ≤ c.toNat ∧ c.toNat ≤ 0xDBFF) := by omega
  have hlow : ¬(0xDC00 ≤ c.toNat ∧ c.toNat ≤ 0xDFFF) := by omega
  rw [readUnicodeEscape, hdigits, Option.bind_eq_bind, Option.bind_some]
  simp only [if_neg hhigh, if_neg hlow, Char.ofNat_toNat]

/-- A character is written as it is, or as an escape that stands for it. -/
theorem jsonChar_cases (c : Char) :
    (jsonChar c = [c] ∧ c ≠ '"' ∧ c ≠ '\\' ∧ ¬c.toNat < 0x20) ∨
      ∃ escape, jsonChar c = '\\' :: escape ∧
        ∀ rest, readEscape (escape ++ rest) = some (c, rest) := by
  by_cases hquote : c = '"'
  · subst hquote
    exact Or.inr ⟨['"'], rfl, fun _ => rfl⟩
  by_cases hbackslash : c = '\\'
  · subst hbackslash
    exact Or.inr ⟨['\\'], rfl, fun _ => rfl⟩
  by_cases hfeed : c = '\n'
  · subst hfeed
    exact Or.inr ⟨['n'], rfl, fun _ => rfl⟩
  by_cases hreturn : c = '\r'
  · subst hreturn
    exact Or.inr ⟨['r'], rfl, fun _ => rfl⟩
  by_cases htab : c = '\t'
  · subst htab
    exact Or.inr ⟨['t'], rfl, fun _ => rfl⟩
  by_cases hback : c = '\x08'
  · subst hback
    exact Or.inr ⟨['b'], rfl, fun _ => rfl⟩
  by_cases hform : c = '\x0c'
  · subst hform
    exact Or.inr ⟨['f'], rfl, fun _ => rfl⟩
  rw [jsonChar, if_neg hquote, if_neg hbackslash, if_neg hfeed, if_neg hreturn, if_neg htab,
    if_neg hback, if_neg hform]
  by_cases hcontrol : c.toNat < 0x20
  · rw [if_pos hcontrol]
    exact Or.inr ⟨_, rfl, fun rest => readUnicodeEscape_control hcontrol rest⟩
  · rw [if_neg hcontrol]
    exact Or.inl ⟨rfl, hquote, hbackslash, hcontrol⟩

/-- One step reads back what is written for one character. -/
theorem readString_jsonChar (fuel : Nat) (read : List Char) (c : Char) (rest : List Char) :
    readString (fuel + 1) read (jsonChar c ++ rest) = readString fuel (c :: read) rest := by
  rcases jsonChar_cases c with ⟨hplain, hquote, hbackslash, hcontrol⟩ | ⟨escape, hescape, hread⟩
  · rw [hplain]
    exact readString_plain hquote hbackslash hcontrol fuel read rest
  · rw [hescape]
    exact readString_escape (hread rest) fuel read

theorem readString_written (text read rest : List Char) :
    readString (text.length + 1) read (text.flatMap jsonChar ++ '"' :: rest) =
      some (read.reverse ++ text, rest) := by
  induction text generalizing read with
  | nil =>
      rw [List.append_nil]
      rfl
  | cons c text ih =>
      rw [List.flatMap_cons, List.append_assoc, List.length_cons, readString_jsonChar, ih,
        List.reverse_cons, List.append_assoc]
      rfl

theorem length_le_length_flatMap_jsonChar (text : List Char) :
    text.length ≤ (text.flatMap jsonChar).length := by
  induction text with
  | nil => exact Nat.le_refl _
  | cons c text ih =>
      have hwritten : 0 < (jsonChar c).length := by
        rcases jsonChar_cases c with ⟨hplain, -⟩ | ⟨escape, hescape, -⟩
        · simp [hplain]
        · simp [hescape]
      rw [List.flatMap_cons, List.length_append, List.length_cons]
      omega

/-- **Strings read back.** -/
theorem readQuoted_written (text : String) (rest : List Char) :
    readQuoted (text.toList.flatMap jsonChar ++ '"' :: rest) = some (text, rest) := by
  have hfuel : text.toList.length + 1 ≤
      (text.toList.flatMap jsonChar ++ '"' :: rest).length + 1 := by
    have hle := length_le_length_flatMap_jsonChar text.toList
    rw [List.length_append]
    omega
  have hread := readString_append (readString_written text.toList [] rest) hfuel []
  simp only [List.append_nil] at hread
  rw [readQuoted, hread, Option.bind_eq_bind, Option.bind_some, List.reverse_nil,
    List.nil_append]
  simp

end ApiTypings.Json.Reader
