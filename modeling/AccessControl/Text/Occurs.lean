/-!
# Occurrence of one text in another

* `occurs_iff` : the search finds exactly the texts of which the other is a stretch.
-/

namespace AccessControl

/-- Whether a list is a stretch of another one. -/
def occursIn (needle : List Char) : List Char → Bool
  | [] => needle.isEmpty
  | c :: rest => needle.isPrefixOf (c :: rest) || occursIn needle rest

/-- Whether a text occurs in another one. -/
def occurs (needle text : String) : Bool := occursIn needle.toList text.toList

theorem occursIn_iff {needle cs : List Char} : occursIn needle cs = true ↔ needle <:+: cs := by
  induction cs with
  | nil => simp [occursIn]
  | cons c rest ih =>
    rw [occursIn, Bool.or_eq_true, ih, List.isPrefixOf_iff_prefix, List.infix_cons_iff]

/-- A text occurs in another one iff its characters are a stretch of the other's. -/
theorem occurs_iff {needle text : String} :
    occurs needle text = true ↔ needle.toList <:+: text.toList :=
  occursIn_iff

end AccessControl
