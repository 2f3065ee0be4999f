import AccessControl.Text.Percent
/-!
# The pieces of a text

A text can be taken apart wherever a separator occurs in it.  A percent-encoded text is always one
piece of a path: it has only unreserved characters and escapes, and no separator is among them.

* `takeWhile_ne_append_cons`, `dropWhile_ne_append_cons` : what is before the first separator, and
  what is left.
* `pieces_append`, `pieces_eq_singleton` : the pieces of joined texts, and of a text without a
  separator.
* `not_mem_of_mem_pieces` : the separator is in no piece.
* `Percent.isSegment_encode` : the characters of a percent-encoded text.
* `Percent.IsSegment.not_mem` : no other characters are in it.
* `Percent.encode_inj`, `Percent.encode_eq_empty_iff` : what is read off a percent-encoded text.
-/

namespace AccessControl

/-! ### Up to a separator -/

section Separator

variable {separator : Char} {cs : List Char}

theorem passes_of_not_mem (h : separator ∉ cs) : ∀ c ∈ cs, decide (c ≠ separator) = true := by
  intro c hc
  rw [decide_eq_true_eq]
  rintro rfl
  exact h hc

theorem takeWhile_ne_append_cons (h : separator ∉ cs) (rest : List Char) :
    (cs ++ separator :: rest).takeWhile (· ≠ separator) = cs := by
  rw [List.takeWhile_append_of_pos (passes_of_not_mem h)]
  simp

theorem dropWhile_ne_append_cons (h : separator ∉ cs) (rest : List Char) :
    (cs ++ separator :: rest).dropWhile (· ≠ separator) = separator :: rest := by
  rw [List.dropWhile_append_of_pos (passes_of_not_mem h)]
  simp

end Separator

/-! ### Pieces -/

/-- The stretches of a text between the places where a character occurs. -/
def pieces (separator : Char) (text : String) : List String :=
  (text.toList.splitOn separator).map String.ofList

theorem not_mem_of_mem_splitOn {α : Type} [DecidableEq α] {separator : α} {xs piece : List α}
    (h : piece ∈ xs.splitOn separator) : separator ∉ piece := by
  induction xs generalizing piece with
  | nil => simp_all
  | cons x rest ih =>
    rw [List.splitOn_cons_eq_if_modifyHead] at h
    split at h
    · rcases List.mem_cons.1 h with rfl | hrest
      · exact List.not_mem_nil
      · exact ih hrest
    · rename_i hx
      -- the first piece grows by an element that is no separator, the others stay
      cases hpieces : rest.splitOn separator with
      | nil => exact absurd hpieces (List.splitOn_ne_nil _ _)
      | cons first others =>
        rw [hpieces] at h ih
        rcases List.mem_cons.1 h with rfl | hothers
        · have hfirst := ih List.mem_cons_self
          have hne : separator ≠ x := fun e => hx (by simp [e])
          simp [hne, hfirst]
        · exact ih (List.mem_cons_of_mem _ hothers)

variable {separator : Char}

/-- Texts with a separator between them have the pieces of both. -/
theorem pieces_append {joint : String} (hjoint : joint.toList = [separator]) (s t : String) :
    pieces separator (s ++ joint ++ t) = pieces separator s ++ pieces separator t := by
  have hchars : (s ++ joint ++ t).toList = s.toList ++ separator :: t.toList := by
    simp [hjoint]
  rw [pieces, hchars, List.splitOn_append_cons_self, List.map_append]
  rfl

/-- No piece has the separator. -/
theorem not_mem_of_mem_pieces {s text : String} (h : s ∈ pieces separator text) :
    separator ∉ s.toList := by
  obtain ⟨cs, hcs, rfl⟩ := List.mem_map.1 h
  rw [String.toList_ofList]
  exact not_mem_of_mem_splitOn hcs

/-- A text without a separator is one piece. -/
theorem pieces_eq_singleton {s : String} (h : separator ∉ s.toList) : pieces separator s = [s] := by
  rw [pieces, List.splitOn_eq_singleton h, List.map_singleton, String.ofList_toList]

namespace Percent

/-! ### The characters of a segment -/

/-- A character that stands for itself in a path segment. -/
def IsUnreserved (c : Char) : Prop := c.isAlphanum ∨ c ∈ ['-', '.', '_', '~']

/-- A digit of an escape. -/
def IsEscapeDigit (c : Char) : Prop := c ∈ "0123456789ABCDEF".toList

instance : DecidablePred IsUnreserved := fun c => by unfold IsUnreserved; infer_instance

instance : DecidablePred IsEscapeDigit := fun c => by unfold IsEscapeDigit; infer_instance

/-- The characters of a path segment: unreserved ones, and percent signs with two digits each. -/
inductive IsSegment : List Char → Prop
  | nil : IsSegment []
  | unreserved {c : Char} {rest : List Char} (hc : IsUnreserved c) (hrest : IsSegment rest) :
      IsSegment (c :: rest)
  | escape {a b : Char} {rest : List Char} (ha : IsEscapeDigit a) (hb : IsEscapeDigit b)
      (hrest : IsSegment rest) : IsSegment ('%' :: a :: b :: rest)

theorem isEscapeDigit_hexDigit_fin : ∀ n : Fin 16, IsEscapeDigit (hexDigit n) := by
  decide

theorem isUnreserved_ofNat_fin :
    ∀ n : Fin 128, isUnreserved (UInt8.ofNat n) = true → IsUnreserved (Char.ofNat n) := by
  decide

theorem isSegment_encodeOctet_append (o : UInt8) {rest : List Char} (hrest : IsSegment rest) :
    IsSegment (encodeOctet o ++ rest) := by
  unfold encodeOctet
  split
  · rename_i h
    have ho : o.toNat < 128 := (lt_of_isUnreserved h).1
    have hc := isUnreserved_ofNat_fin ⟨o.toNat, ho⟩ (by simpa using h)
    exact .unreserved hc hrest
  · have ho := o.toNat_lt
    exact .escape (isEscapeDigit_hexDigit_fin ⟨o.toNat / 16, by omega⟩)
      (isEscapeDigit_hexDigit_fin ⟨o.toNat % 16, by omega⟩) hrest

/-- A percent-encoded text has the characters of a segment. -/
theorem isSegment_encode (s : String) : IsSegment (encode s).toList := by
  rw [encode, String.toList_ofList]
  induction octets s.toList with
  | nil => exact .nil
  | cons o rest ih => exact isSegment_encodeOctet_append o ih

/-- A character that is neither unreserved, nor a percent sign, nor a digit of an escape is in no
segment. -/
theorem IsSegment.not_mem {cs : List Char} (h : IsSegment cs) {c : Char} (hc : ¬ IsUnreserved c)
    (hpercent : c ≠ '%') (hdigit : ¬ IsEscapeDigit c) : c ∉ cs := by
  induction h with
  | nil => simp
  | unreserved hc' _ ih =>
    rw [List.mem_cons, not_or]
    exact ⟨fun e => hc (e ▸ hc'), ih⟩
  | escape ha hb _ ih =>
    simp only [List.mem_cons, not_or]
    exact ⟨hpercent, fun e => hdigit (e ▸ ha), fun e => hdigit (e ▸ hb), ih⟩

/-! ### What a segment stands for -/

/-- Texts with the same segment are the same. -/
theorem encode_inj {s t : String} : encode s = encode t ↔ s = t := by
  refine ⟨fun h => ?_, fun h => h ▸ rfl⟩
  have hdecode := congrArg decode? h
  rw [decode?_encode, decode?_encode] at hdecode
  exact Option.some.inj hdecode

/-- Only the empty text has the empty segment. -/
theorem encode_eq_empty_iff {s : String} : encode s = "" ↔ s = "" := by
  have hempty : encode "" = "" := by decide
  rw [← hempty, encode_inj, hempty]

end Percent

end AccessControl
