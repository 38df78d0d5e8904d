import ApiTypings.Proofs.JsonStrings
import ApiTypings.Proofs.TypePreservation
import Mathlib.Logic.Function.Iterate

/-!
# Unions of literals read back

Where enums are not wanted, an enumerated string is written as the union of its values, each
quoted as in JSON. The values may have quotes, bars and brackets in them, so what a union says
is a question of how its text is read: `Spells` is the grammar of such types, in which brackets
bind tighter than bars. It is unambiguous (`Spells.unique`), because what may stand behind an
operand, an array or a union tells where each of them ends. The text of a union is read as its
values, and the text of an array as the array of them all, however the parentheses were
decided on.
-/

namespace ApiTypings

/-! ## Rows of literals -/

def IsJsonString (text : List Char) (value : String) : Prop :=
  ∃ body, text = '"' :: body ∧ Json.Reader.readQuoted body = some (value, [])

theorem isJsonString_jsonString (value : String) :
    IsJsonString (jsonString value).toList value := by
  refine ⟨value.toList.flatMap jsonChar ++ ['"'], ?_, Json.Reader.readQuoted_written value []⟩
  rw [jsonString, String.toList_ofList]

/-- Only one string of JSON stands at the front of a text. -/
theorem IsJsonString.unique {text text' rest rest' : List Char} {value value' : String}
    (h : IsJsonString text value) (h' : IsJsonString text' value')
    (heq : text ++ rest = text' ++ rest') : text = text' ∧ value = value' := by
  obtain ⟨body, rfl, hread⟩ := h
  obtain ⟨body', rfl, hread'⟩ := h'
  have hbodies : body ++ rest = body' ++ rest' := (List.cons.inj heq).2
  have hboth := Json.Reader.readQuoted_append hread rest
  rw [hbodies, Json.Reader.readQuoted_append hread' rest'] at hboth
  obtain ⟨rfl, rfl⟩ := Prod.mk.inj (Option.some.inj hboth)
  rw [List.append_cancel_right hbodies]
  exact ⟨rfl, rfl⟩

/-- No string of JSON starts with a parenthesis. -/
theorem IsJsonString.ne_parenthesis {text rest others : List Char} {value : String}
    (h : IsJsonString text value) : text ++ rest ≠ '(' :: others := by
  obtain ⟨body, rfl, -⟩ := h
  intro heq
  exact absurd (List.cons.inj heq).1 (by decide)

def unionBar : List Char := [' ', '|', ' ']

/-- A row of strings of JSON with bars between them, and their values. -/
inductive LiteralRow : List Char → List String → Prop where
  | last {text : List Char} {value : String} (hstring : IsJsonString text value) :
      LiteralRow text [value]
  | more {text others : List Char} {value : String} {values : List String}
      (hstring : IsJsonString text value) (hothers : LiteralRow others values) :
      LiteralRow (text ++ unionBar ++ others) (value :: values)

theorem literalsText_singleton (value : String) :
    TypeExpr.literalsText [value] = jsonString value := by
  rw [TypeExpr.literalsText, List.map_singleton, String.intercalate_singleton]

theorem toList_literalsText_cons (value : String) {values : List String} (h : values ≠ []) :
    (TypeExpr.literalsText (value :: values)).toList =
      (jsonString value).toList ++ unionBar ++ (TypeExpr.literalsText values).toList := by
  have hrest : values.map jsonString ≠ [] := by simpa using h
  rw [TypeExpr.literalsText, List.map_cons, String.intercalate_cons_of_ne_nil hrest,
    String.toList_append, String.toList_append]
  rfl

theorem literalRow_literalsText (value : String) (values : List String) :
    LiteralRow (TypeExpr.literalsText (value :: values)).toList (value :: values) := by
  induction values generalizing value with
  | nil =>
      rw [literalsText_singleton]
      exact .last (isJsonString_jsonString value)
  | cons next values ih =>
      rw [toList_literalsText_cons value (List.cons_ne_nil next values)]
      exact .more (isJsonString_jsonString value) (ih next)

/-! ## The grammar of types -/

/-- A type as it is spelled: a literal, an array, or a union of alternatives. -/
inductive SpelledType where
  | literal (value : String)
  | array (element : SpelledType)
  | union (alternatives : List SpelledType)

/-- The union of some alternatives. A single one is a type of its own. -/
def SpelledType.unionOf : List SpelledType → SpelledType
  | [type] => type
  | alternatives => .union alternatives

/-- How tightly a part of a type holds together. -/
inductive TypeLevel where
  | operand
  | array
  | union

def brackets : Nat → List Char
  | 0 => []
  | n + 1 => '[' :: ']' :: brackets n

/-- The alternatives that a text spells. An operand is a string of JSON, or a union in
parentheses; an array is an operand with any number of brackets behind it; and a union is a
row of arrays with bars between them. -/
inductive Spells : TypeLevel → List Char → List SpelledType → Prop where
  | literal {text : List Char} {value : String} (hstring : IsJsonString text value) :
      Spells .operand text [.literal value]
  | parentheses {text : List Char} {alternatives : List SpelledType}
      (hinner : Spells .union text alternatives) :
      Spells .operand ('(' :: (text ++ [')'])) [.unionOf alternatives]
  | arrays (n : Nat) {text : List Char} {type : SpelledType}
      (hoperand : Spells .operand text [type]) :
      Spells .array (text ++ brackets n) [SpelledType.array^[n] type]
  | single {text : List Char} {alternatives : List SpelledType}
      (harray : Spells .array text alternatives) : Spells .union text alternatives
  | bar {text others : List Char} {alternatives alternatives' : List SpelledType}
      (harray : Spells .array text alternatives)
      (hothers : Spells .union others alternatives') :
      Spells .union (text ++ unionBar ++ others) (alternatives ++ alternatives')

/-- What may stand behind a part of a type if it is all of its level: no more brackets behind an
array, and behind a union nothing but the parenthesis that closes it. -/
def TypeLevel.Ends : TypeLevel → List Char → Prop
  | .operand, _ => True
  | .array, rest => rest.head? ≠ some '['
  | .union, rest => ∀ c ∈ rest.head?, c = ')'

/-- The parenthesis that closes a union ends it. -/
theorem TypeLevel.ends_parenthesis (rest : List Char) : TypeLevel.union.Ends ([')'] ++ rest) := by
  simp [TypeLevel.Ends]

/-- A bar ends an array. -/
theorem TypeLevel.ends_bar (rest : List Char) : TypeLevel.array.Ends (unionBar ++ rest) := by
  simp [TypeLevel.Ends, unionBar]

theorem TypeLevel.Ends.array_of_union {rest : List Char} (h : TypeLevel.union.Ends rest) :
    TypeLevel.array.Ends rest := by
  intro hbracket
  have hparenthesis : '[' = ')' := h '[' hbracket
  exact absurd hparenthesis (by decide)

/-- A bar goes on with a union. -/
theorem TypeLevel.Ends.ne_bar {rest others : List Char} (h : TypeLevel.union.Ends rest) :
    rest ≠ unionBar ++ others := by
  rintro rfl
  have hparenthesis : ' ' = ')' := h ' ' rfl
  exact absurd hparenthesis (by decide)

theorem brackets_append_inj {n n' : Nat} {rest rest' : List Char}
    (h : TypeLevel.array.Ends rest) (h' : TypeLevel.array.Ends rest')
    (heq : brackets n ++ rest = brackets n' ++ rest') : n = n' := by
  induction n generalizing n' with
  | zero =>
      cases n' with
      | zero => rfl
      | succ n' =>
          have hrest : rest = brackets (n' + 1) ++ rest' := heq
          exact absurd (congrArg List.head? hrest) h
  | succ n ih =>
      cases n' with
      | zero =>
          have hrest : brackets (n + 1) ++ rest = rest' := heq
          exact absurd (congrArg List.head? hrest.symm) h'
      | succ n' =>
          have htail : brackets n ++ rest = brackets n' ++ rest' :=
            (List.cons.inj (List.cons.inj heq).2).2
          rw [ih htail]

/-- **Types are read in one way.** Two parts of one level at the front of a text, with such an
end that each is all of its level, are the same part and spell the same. -/
theorem Spells.unique {level : TypeLevel} {text text' rest rest' : List Char}
    {alternatives alternatives' : List SpelledType} (h : Spells level text alternatives)
    (h' : Spells level text' alternatives') (hends : level.Ends rest)
    (hends' : level.Ends rest') (heq : text ++ rest = text' ++ rest') :
    text = text' ∧ alternatives = alternatives' := by
  induction h generalizing text' rest rest' alternatives' with
  | literal hstring =>
      cases h' with
      | literal hstring' =>
          obtain ⟨rfl, rfl⟩ := hstring.unique hstring' heq
          exact ⟨rfl, rfl⟩
      | parentheses _ => exact absurd heq hstring.ne_parenthesis
  | parentheses _ ih =>
      cases h' with
      | literal hstring' => exact absurd heq.symm hstring'.ne_parenthesis
      | parentheses hinner' =>
          simp only [List.cons_append, List.append_assoc, List.cons.injEq, true_and] at heq
          obtain ⟨rfl, rfl⟩ := ih hinner' (TypeLevel.ends_parenthesis rest)
            (TypeLevel.ends_parenthesis rest') heq
          exact ⟨rfl, rfl⟩
  | arrays n _ ih =>
      cases h' with
      | arrays n' hoperand' =>
          rw [List.append_assoc, List.append_assoc] at heq
          obtain ⟨rfl, htype⟩ := ih hoperand' trivial trivial heq
          obtain rfl := (List.cons.inj htype).1
          obtain rfl := brackets_append_inj hends hends' (List.append_cancel_left heq)
          exact ⟨rfl, rfl⟩
  | single _ ih =>
      cases h' with
      | single harray' => exact ih harray' hends.array_of_union hends'.array_of_union heq
      | bar harray' hothers' =>
          rw [List.append_assoc, List.append_assoc] at heq
          obtain ⟨rfl, -⟩ := ih harray' hends.array_of_union (TypeLevel.ends_bar _) heq
          exact absurd (List.append_cancel_left heq) hends.ne_bar
  | bar _ _ ih ihothers =>
      cases h' with
      | single harray' =>
          rw [List.append_assoc, List.append_assoc] at heq
          obtain ⟨rfl, -⟩ := ih harray' (TypeLevel.ends_bar _) hends'.array_of_union heq
          exact absurd (List.append_cancel_left heq).symm hends'.ne_bar
      | bar harray' hothers' =>
          simp only [List.append_assoc] at heq
          obtain ⟨rfl, rfl⟩ := ih harray' (TypeLevel.ends_bar _) (TypeLevel.ends_bar _) heq
          have hrest := List.append_cancel_left (List.append_cancel_left heq)
          obtain ⟨rfl, rfl⟩ := ihothers hothers' hends hends' hrest
          exact ⟨rfl, rfl⟩

/-- A whole text spells one type. -/
theorem Spells.iff_eq {text : List Char} {alternatives : List SpelledType}
    (h : Spells .union text alternatives) (alternatives' : List SpelledType) :
    Spells .union text alternatives' ↔ alternatives' = alternatives := by
  have hends : TypeLevel.union.Ends [] := by simp [TypeLevel.Ends]
  exact ⟨fun h' => (h'.unique h hends hends rfl).2, fun heq => heq ▸ h⟩

/-! ## Unions of literals -/

theorem Spells.literal_array {text : List Char} {value : String}
    (hstring : IsJsonString text value) : Spells .array text [.literal value] := by
  have harray := Spells.arrays 0 (.literal hstring)
  rwa [brackets, List.append_nil] at harray

/-- A row of literals spells their union. -/
theorem LiteralRow.spells {text : List Char} {values : List String} (h : LiteralRow text values) :
    Spells .union text (values.map .literal) := by
  induction h with
  | last hstring => exact .single (.literal_array hstring)
  | more hstring _ ih => exact .bar (.literal_array hstring) ih

/-- **Rows of literals are read in one way.** -/
theorem LiteralRow.iff_eq {text : List Char} {values : List String} (h : LiteralRow text values)
    (values' : List String) : LiteralRow text values' ↔ values' = values := by
  refine ⟨fun h' => ?_, fun heq => heq ▸ h⟩
  have hspelled := (h.spells.iff_eq _).mp h'.spells
  exact List.map_injective_iff.mpr (fun _ _ => SpelledType.literal.inj) hspelled

def literalsOperand (values : List String) : List Char :=
  let element := (TypeExpr.literalsText values).toList
  if TypeExpr.hasBar element then '(' :: (element ++ [')']) else element

/-- The union of the values is one operand, with parentheses where they are needed: without a
bar in its text there is only one value. -/
theorem spells_literalsOperand (value : String) (values : List String) :
    Spells .operand (literalsOperand (value :: values))
      [.unionOf ((value :: values).map .literal)] := by
  rw [literalsOperand]
  split
  · exact .parentheses (literalRow_literalsText value values).spells
  · rename_i hbar
    cases values with
    | nil =>
        rw [literalsText_singleton]
        exact .literal (isJsonString_jsonString value)
    | cons next values => exact absurd (hasBar_literalsText (by simp)) hbar

theorem brackets_append (n : Nat) : brackets n ++ ['[', ']'] = brackets (n + 1) := by
  induction n with
  | zero => rfl
  | succ n ih =>
      rw [brackets, List.cons_append, List.cons_append, ih]
      rfl

theorem toList_text_arrays (values : List String) (depth : Nat) :
    (TypeExpr.array^[depth + 1] (.literals values)).text.toList =
      literalsOperand values ++ brackets (depth + 1) := by
  induction depth with
  | zero =>
      rw [Function.iterate_one, TypeExpr.text, literalsOperand]
      split <;> simp [brackets]
  | succ depth ih =>
      have houter : (TypeExpr.array^[depth + 1 + 1] (.literals values)).text =
          (TypeExpr.array^[depth + 1] (.literals values)).text ++ "[]" := by
        rw [Function.iterate_succ_apply', Function.iterate_succ_apply']
        rfl
      have hpair : "[]".toList = ['[', ']'] := rfl
      rw [houter, String.toList_append, ih, hpair, List.append_assoc, brackets_append]

/-! ## Types of properties -/

variable (api : String)

theorem typeOf_arrays_enumeration {options : RenderOptions} (hoff : options.unionToEnum = false)
    {titles : Titles} (hvalues : titles ≠ []) (session : Session) (property : String)
    (description : Option String) (depth : Nat) :
    (typeOf api options session property description
        (Shape.arrayOf^[depth] (.enumeration titles))).1 =
      TypeExpr.array^[depth] (.literals (titles.map Prod.fst)) := by
  induction depth with
  | zero =>
      have hsome : titles.isEmpty = false := by simpa using hvalues
      rw [Function.iterate_zero_apply, Function.iterate_zero_apply, typeOf, Session.requestEnum,
        Registry.requestEnum, hsome, hoff]
      rfl
  | succ depth ih =>
      rw [Function.iterate_succ_apply', Function.iterate_succ_apply', typeOf, ← ih]

/-- **Unions of literals read back, also under brackets.** The union of some values is read
as a row of strings of JSON with these values and no others. Where enums are not wanted, the
type of an array of them, or of arrays of arrays, has one alternative: the array, as deep as the
brackets say, of the union of all values. -/
theorem literal_unions_read_back (titles : Titles) (hvalues : titles ≠ []) :
    let values := titles.map Prod.fst
    (∀ read, LiteralRow (TypeExpr.literalsText values).toList read ↔ read = values) ∧
    ∀ options : RenderOptions, options.unionToEnum = false →
      ∀ session property description depth alternatives,
        Spells .union (typeOf api options session property description
            (Shape.arrayOf^[depth + 1] (.enumeration titles))).1.text.toList alternatives ↔
          alternatives = [SpelledType.array^[depth + 1] (.unionOf (values.map .literal))] := by
  intro values
  obtain ⟨value, others, hcons⟩ : ∃ value others, values = value :: others := by
    obtain ⟨title, rest, rfl⟩ := List.exists_cons_of_ne_nil hvalues
    exact ⟨title.1, rest.map Prod.fst, rfl⟩
  constructor
  · rw [hcons]
    exact (literalRow_literalsText value others).iff_eq
  · intro options hoff session property description depth
    have hspelled := Spells.single (.arrays (depth + 1) (spells_literalsOperand value others))
    rw [← hcons, ← toList_text_arrays,
      ← typeOf_arrays_enumeration api hoff hvalues session property description] at hspelled
    exact hspelled.iff_eq

/-- Values with a bar, with a quote, and with a backslash before a line feed. -/
def awkwardTitles : Titles :=
  [("a | b", none), ("\"", none), ("\\\n", none)]

theorem literal_unions_read_back_awkward :
    awkwardTitles ≠ [] ∧ ({ unionToEnum := false } : RenderOptions).unionToEnum = false ∧
      TypeExpr.literalsText (awkwardTitles.map Prod.fst) =
        "\"a | b\" | \"\\\"\" | \"\\\\\\n\"" ∧
      (typeOf "Job" { unionToEnum := false } { registry := {} } "kind" none
          (.arrayOf (.arrayOf (.enumeration awkwardTitles)))).1.text =
        "(\"a | b\" | \"\\\"\" | \"\\\\\\n\")[][]" ∧
      (∀ read, LiteralRow "\"a | b\" | \"\\\"\" | \"\\\\\\n\"".toList read ↔
        read = ["a | b", "\"", "\\\n"]) ∧
      ∀ alternatives, Spells .union "(\"a | b\" | \"\\\"\" | \"\\\\\\n\")[][]".toList alternatives ↔
        alternatives = [.array (.array (.union
          [.literal "a | b", .literal "\"", .literal "\\\n"]))] := by
  have hvalues : awkwardTitles ≠ [] := by decide
  have hoff : ({ unionToEnum := false } : RenderOptions).unionToEnum = false := rfl
  obtain ⟨hrow, harrays⟩ := literal_unions_read_back "Job" awkwardTitles hvalues
  exact ⟨hvalues, hoff, by decide +kernel, by decide +kernel, hrow,
    harrays _ hoff { registry := {} } "kind" none 1⟩

end ApiTypings
