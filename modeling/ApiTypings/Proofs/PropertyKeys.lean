import ApiTypings.Declaration.Basic

/-!
# Keys as they are written

A key that is not an identifier is written between single quotes, with quotes and
backslashes escaped. Two keys are written alike only if they are the same, so that
properties told apart by what is written are told apart by their names as well.
-/

namespace ApiTypings

/-- A key as it is written: in quotes unless it is an identifier. -/
def keyText (key : String) : String :=
  if isIdentifier key then key else singleQuoted key

theorem propertyKey_eq_keyText (casing : KeyCasing) (name : String) :
    propertyKey casing name = keyText (casing.apply name) := rfl

/-! ## Escapes -/

/-- Takes the escapes out again: a character behind a backslash stands for itself. -/
def unescapeSingle : List Char → List Char
  | '\\' :: c :: rest => c :: unescapeSingle rest
  | c :: rest => c :: unescapeSingle rest
  | [] => []

theorem unescapeSingle_cons {c : Char} (h : c ≠ '\\') (rest : List Char) :
    unescapeSingle (c :: rest) = c :: unescapeSingle rest := by
  rw [unescapeSingle]
  intro c' rest' hc
  exact absurd hc h

theorem unescapeSingle_escapeSingle (text : List Char) :
    unescapeSingle (escapeSingle text) = text := by
  induction text with
  | nil => rfl
  | cons c text ih =>
      rw [escapeSingle, List.flatMap_cons, ← escapeSingle]
      by_cases hc : c = '\\' ∨ c = '\''
      · rw [if_pos hc]
        exact congrArg (c :: ·) ih
      · rw [if_neg hc, List.singleton_append,
          unescapeSingle_cons fun h => hc (Or.inl h), ih]

theorem singleQuoted_injective {key key' : String}
    (h : singleQuoted key = singleQuoted key') : key = key' := by
  rw [singleQuoted, singleQuoted, String.ofList_inj, List.cons_inj_right,
    List.append_cancel_right_eq] at h
  have hchars := congrArg unescapeSingle h
  rw [unescapeSingle_escapeSingle, unescapeSingle_escapeSingle] at hchars
  exact String.toList_inj.mp hchars

/-! ## Identifiers -/

/-- No identifier starts like a key in quotes. -/
theorem not_isIdentifier_singleQuoted (key : String) :
    isIdentifier (singleQuoted key) = false := by
  have hquote : isIdentifierStart '\'' = false := by decide
  rw [isIdentifier, singleQuoted, String.toList_ofList]
  simp only [hquote, Bool.false_and]

/-- **Different keys are written differently.** -/
theorem keyText_injective {key key' : String} (h : keyText key = keyText key') :
    key = key' := by
  rw [keyText, keyText] at h
  cases hkey : isIdentifier key <;> cases hkey' : isIdentifier key' <;>
    simp only [hkey, hkey', if_true, Bool.false_eq_true, if_false] at h
  · exact singleQuoted_injective h
  · rw [← h, not_isIdentifier_singleQuoted] at hkey'
    exact absurd hkey' Bool.false_ne_true
  · rw [h, not_isIdentifier_singleQuoted] at hkey
    exact absurd hkey Bool.false_ne_true
  · exact h

theorem keyText_beq (key key' : String) : (keyText key == keyText key') = (key == key') := by
  rw [Bool.eq_iff_iff, beq_iff_eq, beq_iff_eq]
  exact ⟨keyText_injective, congrArg keyText⟩

/-- Two keys are written alike exactly if the names are cased alike. -/
theorem propertyKey_eq_iff (casing : KeyCasing) (first second : String) :
    propertyKey casing first = propertyKey casing second ↔
      casing.apply first = casing.apply second := by
  rw [propertyKey_eq_keyText, propertyKey_eq_keyText]
  exact ⟨keyText_injective, congrArg keyText⟩

end ApiTypings
