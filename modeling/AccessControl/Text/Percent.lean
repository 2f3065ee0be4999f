import AccessControl.Text.Octets
/-!
# Percent-encoding of a path segment

In a path segment only unreserved characters stand for themselves: ASCII letters, digits and
`-`, `.`, `_`, `~`.  Every other octet is written as a percent sign and two digits.

* `Percent.decode?_encode` : a text is read back from its segment.
-/

namespace AccessControl.Percent

/-- Whether an octet stands for itself in a path segment. -/
def isUnreserved (o : UInt8) : Bool :=
  isAlphanumeric o || o == 45 || o == 46 || o == 95 || o == 126

/-- How one octet is written in a path segment. -/
def encodeOctet (o : UInt8) : List Char :=
  if isUnreserved o then [Char.ofNat o.toNat] else percentEscape o

/-- A text as a path segment. -/
def encode (s : String) : String := String.ofList ((octets s.toList).flatMap encodeOctet)

/-- The text that a path segment stands for, if its octets form one. -/
def decode? (segment : String) : Option String := textOfOctets? (percentDecode segment.toList)

/-! ### Reading back -/

theorem lt_of_isUnreserved {o : UInt8} (h : isUnreserved o = true) : o < 128 ∧ o ≠ 37 := by
  simp only [isUnreserved, isAlphanumeric, Bool.or_eq_true, Bool.and_eq_true, decide_eq_true_eq,
    beq_iff_eq, UInt8.le_iff_toNat_le, ← UInt8.toNat_inj] at h
  constructor
  · rw [UInt8.lt_iff_toNat_lt]
    simp at h ⊢
    omega
  · intro e
    subst e
    simp at h

theorem percentDecode_encodeOctet (o : UInt8) (rest : List Char) :
    percentDecode (encodeOctet o ++ rest) = o :: percentDecode rest := by
  unfold encodeOctet
  split
  · rename_i h
    exact percentDecode_ofNat (lt_of_isUnreserved h).1 (lt_of_isUnreserved h).2 rest
  · exact percentDecode_percentEscape o rest

theorem percentDecode_flatMap_encodeOctet (os : List UInt8) :
    percentDecode (os.flatMap encodeOctet) = os := by
  induction os with
  | nil => rfl
  | cons o rest ih => rw [List.flatMap_cons, percentDecode_encodeOctet, ih]

/-- A text is read back from its path segment. -/
theorem decode?_encode (s : String) : decode? (encode s) = some s := by
  simp [decode?, encode, percentDecode_flatMap_encodeOctet]

end AccessControl.Percent
