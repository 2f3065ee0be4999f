import AccessControl.FormBody
import Mathlib.Data.List.Forall2
/-!
# What a form body says

The members of any object can be sent as a form body, and the body says exactly what the object
does: it reads back as one pair for each member, in their order, whatever the keys and values are.

* `Json.sentAs_iff` : every value is sent as one text.
* `Form.isBodyChar_of_mem_encode` : a form body has no other characters than those.
* `formBody_says` : what reads back from the body by which members are sent.
-/

namespace AccessControl

namespace Json

/-! ### The texts of values -/

/-- The text by which a value is sent as the value of a pair. -/
inductive SentAs : Json → String → Prop where
  /-- Null is sent as nothing. -/
  | null : SentAs .null ""
  /-- A string is sent as it is. -/
  | string (s : String) : SentAs (.string s) s
  /-- An array is sent as its items, with commas between them. -/
  | array {items : List Json} {texts : List String} (h : List.Forall₂ SentAs items texts) :
    SentAs (.array items) (",".intercalate texts)
  /-- Anything else is sent as its wire text. -/
  | other {v : Json} (hnull : v ≠ .null) (hstring : v.string? = none) (harray : v.array? = none) :
    SentAs v v.text

mutual

theorem sentAs_formText : ∀ v : Json, v.SentAs v.formText
  | .null => .null
  | .string s => .string s
  | .array items => .array (forall₂_sentAs_formTexts items)
  | .bool _ => .other nofun rfl rfl
  | .number _ => .other nofun rfl rfl
  | .object _ => .other nofun rfl rfl

theorem forall₂_sentAs_formTexts : ∀ items : List Json, List.Forall₂ SentAs items (formTexts items)
  | [] => .nil
  | v :: rest => .cons (sentAs_formText v) (forall₂_sentAs_formTexts rest)

end

mutual

theorem eq_formText_of_sentAs : ∀ {v : Json} {t : String}, v.SentAs t → t = v.formText
  | .null, _, .null => rfl
  | .string _, _, .string _ => rfl
  | .array _, _, .array h => by rw [formText, eq_formTexts_of_sentAs h]
  | .bool _, _, .other .. => rfl
  | .number _, _, .other .. => rfl
  | .object _, _, .other .. => rfl

theorem eq_formTexts_of_sentAs :
    ∀ {items : List Json} {texts : List String}, List.Forall₂ SentAs items texts →
      texts = formTexts items
  | [], _, .nil => rfl
  | _ :: _, _, .cons h hrest => by
    rw [formTexts, eq_formText_of_sentAs h, eq_formTexts_of_sentAs hrest]

end

/-- Every value is sent as one text. -/
theorem sentAs_iff {v : Json} {t : String} : v.SentAs t ↔ t = v.formText :=
  ⟨eq_formText_of_sentAs, fun h => h ▸ sentAs_formText v⟩

end Json

namespace Form

/-! ### The characters of a body -/

/-- A character of a form body: an ASCII letter or digit, or one of eight others. -/
def IsBodyChar (c : Char) : Prop := c.isAlphanum ∨ c ∈ ['*', '-', '.', '_', '+', '%', '&', '=']

theorem isBodyChar_of_isFormChar {c : Char} (h : isFormChar c = true) : IsBodyChar c := by
  simp only [isFormChar, Bool.or_eq_true, beq_iff_eq] at h
  simp only [IsBodyChar, List.mem_cons, List.not_mem_nil, or_false]
  tauto

theorem isBodyChar_of_mem_encodePair {pair : String × String} {c : Char}
    (h : c ∈ encodePair pair) : IsBodyChar c := by
  rw [encodePair, List.mem_append, List.mem_cons] at h
  rcases h with h | rfl | h
  · exact isBodyChar_of_isFormChar (isFormChar_of_mem_encodeText h)
  · exact .inr (by simp)
  · exact isBodyChar_of_isFormChar (isFormChar_of_mem_encodeText h)

/-- A form body has no other characters. -/
theorem isBodyChar_of_mem_encode {pairs : List (String × String)} {c : Char}
    (h : c ∈ (encode pairs).toList) : IsBodyChar c := by
  rw [encode, String.toList_ofList] at h
  induction pairs with
  | nil => cases h
  | cons pair rest ih =>
    cases rest with
    | nil => exact isBodyChar_of_mem_encodePair (by simpa using h)
    | cons next rest =>
      rw [List.map_cons, List.map_cons, List.intercalate_cons_cons, List.mem_append,
        List.mem_append] at h
      rcases h with (h | h) | h
      · exact isBodyChar_of_mem_encodePair h
      · exact .inr (by simp_all)
      · exact ih h

end Form

/-! ### The body -/

/-- **A form body says exactly what the members say that it is made of.**  It reads back as the
pairs of their keys and the texts by which their values are sent, in the order of the members, and
it has only the characters of form bodies. -/
theorem formBody_says (members : Entries Json) :
    Form.decode? (formBody members) = some (members.toList.map fun e => (e.1, e.2.formText)) ∧
      (∀ v t, Json.SentAs v t ↔ t = v.formText) ∧
      ∀ c ∈ (formBody members).toList, Form.IsBodyChar c := by
  refine ⟨?_, fun _ _ => Json.sentAs_iff, fun c hc => ?_⟩
  · rw [formBody, Form.decode?_encode, formPairs]
  · rw [formBody] at hc
    exact Form.isBodyChar_of_mem_encode hc

/-- An empty key with an empty value is a pair like any other, and the items of inner arrays come
between the same commas. -/
example : formBody (Json.entries [("", .null), ("a b",
    .array [.string "x&y", .array [.bool true, .null], .string "é"])]) =
      "=&a+b=x%26y%2Ctrue%2C%2C%C3%A9" := by
  decide +kernel

end AccessControl
