import ApiTypings.Proofs.EnumMembers
import ApiTypings.Yaml.ScalarText

/-!
# Quoted literals

The value of an enum member, and a key that is no identifier, stands in a declaration as a
string literal between single quotes. A reader of the declaration takes the literal for a
sequence of UTF-16 code units: `literalValue?` reads one as strict code does, with every kind
of escape there is. It gets back the text that was quoted, all of it and nothing else, if
the text has no line feed and no carriage return (`quoted_literal_denotes_iff`). These two are
written as they are, and what they are written into is no literal at all
(`broken_value_is_no_literal`).
-/

namespace ApiTypings

/-! ## Code units -/

def codeUnits (point : Nat) : List Nat :=
  if point < 0x10000 then [point]
  else [0xD800 + (point - 0x10000) / 0x400, 0xDC00 + (point - 0x10000) % 0x400]

def utf16 (text : List Char) : List Nat :=
  text.flatMap fun c => codeUnits c.toNat

theorem utf16_cons (c : Char) (rest : List Char) :
    utf16 (c :: rest) = codeUnits c.toNat ++ utf16 rest :=
  List.flatMap_cons

/-- A character is no surrogate. -/
theorem toNat_cases (c : Char) : c.toNat < 0xD800 ∨ 0xDFFF < c.toNat ∧ c.toNat < 0x110000 :=
  c.valid

/-- The units of a first character tell it, and where it ends. -/
theorem codeUnits_append_inj {c d : Char} {rest rest' : List Nat}
    (h : codeUnits c.toNat ++ rest = codeUnits d.toNat ++ rest') : c = d ∧ rest = rest' := by
  have hc := toNat_cases c
  have hd := toNat_cases d
  rw [codeUnits, codeUnits] at h
  split at h <;> split at h <;>
    simp only [List.cons_append, List.nil_append, List.cons.injEq] at h
  · exact ⟨Char.toNat_inj.mp h.1, h.2⟩
  · omega
  · omega
  · exact ⟨Char.toNat_inj.mp (by omega), h.2.2⟩

theorem utf16_injective {text text' : List Char} (h : utf16 text = utf16 text') :
    text = text' := by
  induction text generalizing text' with
  | nil =>
      cases text' with
      | nil => rfl
      | cons d rest' =>
          rw [utf16_cons, codeUnits] at h
          split at h <;> cases h
  | cons c rest ih =>
      cases text' with
      | nil =>
          rw [utf16_cons, codeUnits] at h
          split at h <;> cases h
      | cons d rest' =>
          rw [utf16_cons, utf16_cons] at h
          obtain ⟨rfl, hrest⟩ := codeUnits_append_inj h
          rw [ih hrest]

/-! ## Reading a literal -/

def hexNumber? (digits : List Char) : Option Nat :=
  digits.foldlM (fun number c => (Yaml.hexValue? c).map (number * 16 + ·)) 0

/-- The characters that end a line. Behind a backslash, they are left out. -/
def isLineTerminator (c : Char) : Bool :=
  c == '\n' || c == '\r' || c == '\u2028' || c == '\u2029'

/-- What a character behind a backslash stands for, if it stands for one on its own. -/
def escapedChar (c : Char) : Char :=
  if c = 'b' then '\x08'
  else if c = 't' then '\t'
  else if c = 'n' then '\n'
  else if c = 'v' then '\x0b'
  else if c = 'f' then '\x0c'
  else if c = 'r' then '\r'
  else c

/-- The code units of an escape behind its backslash, and how many characters spell it. -/
def literalEscape? : List Char → Option (List Nat × Nat)
  | [] => none
  | '\r' :: '\n' :: _ => some ([], 2)
  | '0' :: rest => if rest.head?.any Char.isDigit then none else some ([0], 1)
  | 'x' :: a :: b :: _ => do return (codeUnits (← hexNumber? [a, b]), 3)
  | 'u' :: '{' :: rest => do
      let digits := rest.takeWhile (· != '}')
      let point ← hexNumber? digits
      if digits.isEmpty ∨ digits.length = rest.length ∨ 0x10FFFF < point then none
      else some (codeUnits point, digits.length + 3)
  | 'u' :: a :: b :: c :: d :: _ => do return (codeUnits (← hexNumber? [a, b, c, d]), 5)
  | c :: _ =>
      if c.isDigit || c == 'x' || c == 'u' then none
      else if isLineTerminator c then some ([], 1)
      else some (codeUnits (escapedChar c).toNat, 1)

/-- The code units of a literal behind its opening quote, where `skip` characters still
belong to the escape before them. The closing quote ends the text. -/
def literalRest? : Nat → List Char → Option (List Nat)
  | _, [] => none
  | skip + 1, _ :: rest => literalRest? skip rest
  | 0, '\'' :: rest => if rest.isEmpty then some [] else none
  | 0, '\\' :: rest =>
      (literalEscape? rest).bind fun (units, spelt) =>
        (literalRest? spelt rest).map (units ++ ·)
  | 0, c :: rest =>
      if c = '\n' ∨ c = '\r' then none
      else (literalRest? 0 rest).map (codeUnits c.toNat ++ ·)

/-- The code units that a literal in single quotes stands for; none if it is not
well-formed. -/
def literalValue? (literal : String) : Option (List Nat) :=
  match literal.toList with
  | '\'' :: rest => literalRest? 0 rest
  | _ => none

def IsLiteralOf (literal text : String) : Prop :=
  literalValue? literal = some (utf16 text.toList)

/-- A literal stands for one text at most. -/
theorem IsLiteralOf.unique {literal text text' : String} (h : IsLiteralOf literal text)
    (h' : IsLiteralOf literal text') : text = text' := by
  have hvalues : some (utf16 text.toList) = some (utf16 text'.toList) := h.symm.trans h'
  exact String.toList_inj.mp (utf16_injective (Option.some.inj hvalues))

example : literalValue? "'\\x41\\u\x7b1F600\x7d\\\n\\'\\q'" = some (utf16 "A😀'q".toList) := by
  decide +kernel

/-! ## Reading what was quoted -/

def breaksLine (c : Char) : Bool :=
  c = '\n' ∨ c = '\r'

/-- A character that is quoted is read back on its own. -/
theorem literalRest?_escapeSingle_append (c : Char) (rest : List Char) :
    literalRest? 0 (escapeSingle [c] ++ rest) =
      if breaksLine c then none else (literalRest? 0 rest).map (codeUnits c.toNat ++ ·) := by
  by_cases hbackslash : c = '\\'
  · subst hbackslash
    rfl
  by_cases hquote : c = '\''
  · subst hquote
    rfl
  · have hplain : escapeSingle [c] = [c] := by
      rw [escapeSingle, List.flatMap_singleton, if_neg (not_or.mpr ⟨hbackslash, hquote⟩)]
    rw [hplain, List.singleton_append, literalRest?]
    · simp [breaksLine]
    · exact fun h => hquote h
    · exact fun h => hbackslash h

theorem literalRest?_escapeSingle (text : List Char) :
    literalRest? 0 (escapeSingle text ++ ['\'']) =
      if text.any breaksLine then none else some (utf16 text) := by
  induction text with
  | nil => simp [escapeSingle, literalRest?, utf16]
  | cons c rest ih =>
      have hsplit : escapeSingle (c :: rest) = escapeSingle [c] ++ escapeSingle rest := by
        rw [escapeSingle, escapeSingle, escapeSingle, List.flatMap_cons, List.flatMap_singleton]
      rw [hsplit, List.append_assoc, literalRest?_escapeSingle_append, ih]
      by_cases hc : breaksLine c
      · simp [hc]
      · by_cases hrest : rest.any breaksLine
        · simp [hc, hrest]
        · simp [hc, hrest, utf16_cons]

def OneLine (text : String) : Prop :=
  text.toList.any breaksLine = false

instance (text : String) : Decidable (OneLine text) :=
  inferInstanceAs (Decidable (_ = _))

/-- What is quoted is a literal of the text and of nothing else, or no literal. -/
theorem isLiteralOf_singleQuoted_iff (text other : String) :
    IsLiteralOf (singleQuoted text) other ↔ other = text ∧ OneLine text := by
  have hvalue : literalValue? (singleQuoted text) =
      if text.toList.any breaksLine then none else some (utf16 text.toList) := by
    rw [literalValue?, singleQuoted, String.toList_ofList]
    exact literalRest?_escapeSingle text.toList
  by_cases hline : OneLine text
  · have hself : IsLiteralOf (singleQuoted text) text := by
      rw [IsLiteralOf, hvalue, hline, if_neg Bool.false_ne_true]
    constructor
    · intro h
      exact ⟨h.unique hself, hline⟩
    · rintro ⟨rfl, -⟩
      exact hself
  · have hbreak : text.toList.any breaksLine = true := by
      simpa [OneLine] using hline
    rw [IsLiteralOf, hvalue, if_pos hbreak]
    simp [hline]

/-! ## Values and keys -/

theorem map_value_enumMembers (options : CommentOptions) (taken : List String)
    (titles : Titles) :
    (enumMembers options taken titles).map EnumMember.value = titles.map Prod.fst := by
  have htitles := congrArg (List.map Prod.fst) (enumMembers_titles options taken titles)
  rw [List.map_map, List.map_map] at htitles
  exact htitles

/-- **Quoted literals denote what is quoted.** The members of an enum have its values in
order, each as the literal behind the equals sign. Such a literal, and the key of a property
whose cased name is no identifier, is a literal of the value or of the cased name, and of no
other text, if that is on one line; otherwise it is not well-formed. -/
theorem quoted_literal_denotes_iff (options : CommentOptions) (enum : String)
    (titles : Titles) (description : Option String) {casing : KeyCasing} {property : String}
    (hproperty : isIdentifier (casing.apply property) = false) :
    (EnumDecl.ofTitles options enum titles description).members.map EnumMember.value =
        titles.map Prod.fst ∧
      (∀ member ∈ (EnumDecl.ofTitles options enum titles description).members,
        ∃ literal,
          member.text = DocBlock.optionalText "  " member.doc ++ "  " ++ member.name ++
            " = " ++ literal ++ ",\n" ∧
          ∀ text, IsLiteralOf literal text ↔ text = member.value ∧ OneLine member.value) ∧
      ∀ text, IsLiteralOf (propertyKey casing property) text ↔
        text = casing.apply property ∧ OneLine (casing.apply property) := by
  refine ⟨map_value_enumMembers options [] titles, ?_, ?_⟩
  · intro member _
    exact ⟨singleQuoted member.value, rfl, isLiteralOf_singleQuoted_iff member.value⟩
  · intro text
    have hkey : propertyKey casing property = singleQuoted (casing.apply property) := by
      rw [propertyKey, hproperty]
      rfl
    rw [hkey, isLiteralOf_singleQuoted_iff]

theorem quoted_literal_denotes_header :
    isIdentifier (KeyCasing.lowerFirst.apply "X-it's\\") = false ∧
      propertyKey .lowerFirst "X-it's\\" = "'x-it\\'s\\\\'" ∧
      IsLiteralOf (propertyKey .lowerFirst "X-it's\\") "x-it's\\" := by
  have hcased : KeyCasing.lowerFirst.apply "X-it's\\" = "x-it's\\" := by decide +kernel
  have hkey : isIdentifier (KeyCasing.lowerFirst.apply "X-it's\\") = false := by
    rw [hcased]
    decide +kernel
  have hquoted : propertyKey .lowerFirst "X-it's\\" = "'x-it\\'s\\\\'" := by
    rw [propertyKey, hkey, hcased]
    decide +kernel
  refine ⟨hkey, hquoted, ?_⟩
  refine ((quoted_literal_denotes_iff {} "ModeEnum" [] none hkey).2.2 _).mpr ?_
  rw [hcased]
  exact ⟨rfl, by decide +kernel⟩

/-- **A broken literal.** The line feed in a value, or in a key, ends its line before the
literal is closed. -/
theorem broken_value_is_no_literal :
    (EnumDecl.ofTitles {} "ModeEnum" [("a\nb", none)] none).text true =
        "export enum ModeEnum \x7b\n  A_B = 'a\nb',\n\x7d\n" ∧
      propertyKey .auto "a\nb" = "'a\nb'" ∧
      literalValue? "'a\nb'" = none := by
  decide +kernel

end ApiTypings
