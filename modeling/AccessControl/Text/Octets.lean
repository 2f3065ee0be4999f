/-!
# The octets of a text

A text travels as its UTF-8 octets, and an octet that cannot stand for itself is written as a
percent sign and two hexadecimal digits.

* `textOfOctets?_octets` : a text is read back from its octets.
* `percentDecode_percentEscape` : an octet is read back from its escape.
-/

namespace AccessControl

/-! ### Texts and octets -/

/-- The UTF-8 octets of a list of characters. -/
def octets (cs : List Char) : List UInt8 := cs.flatMap String.utf8EncodeChar

/-- The text that some octets are the UTF-8 form of, if there is one. -/
def textOfOctets? (os : List UInt8) : Option String := String.fromUTF8? os.toByteArray

@[simp] theorem textOfOctets?_octets (s : String) : textOfOctets? (octets s.toList) = some s := by
  have h : (octets s.toList).toByteArray = s.toByteArray := String.utf8Encode_toList
  rw [textOfOctets?, h, String.fromUTF8?, dif_pos s.isValidUTF8]
  rfl

theorem utf8EncodeChar_ofNat :
    ∀ n : Fin 128, String.utf8EncodeChar (Char.ofNat n) = [UInt8.ofNat n] := by
  decide

/-! ### Hexadecimal digits -/

/-- The digit of a number below sixteen, letters in upper case. -/
def hexDigit (n : Nat) : Char := if n < 10 then Char.ofNat (48 + n) else Char.ofNat (55 + n)

/-- The value of a hexadecimal digit of either case. -/
def hexValue? (c : Char) : Option Nat :=
  if '0' ≤ c ∧ c ≤ '9' then some (c.toNat - 48)
  else if 'a' ≤ c ∧ c ≤ 'f' then some (c.toNat - 87)
  else if 'A' ≤ c ∧ c ≤ 'F' then some (c.toNat - 55)
  else none

theorem hexValue?_hexDigit_fin : ∀ n : Fin 16, hexValue? (hexDigit n) = some n.val := by
  decide

theorem hexValue?_hexDigit {n : Nat} (h : n < 16) : hexValue? (hexDigit n) = some n :=
  hexValue?_hexDigit_fin ⟨n, h⟩

/-! ### Percent escapes -/

/-- Whether an octet is the code of an ASCII letter or digit. -/
def isAlphanumeric (o : UInt8) : Bool :=
  (48 ≤ o && o ≤ 57) || (65 ≤ o && o ≤ 90) || (97 ≤ o && o ≤ 122)

/-- An octet as a percent sign and two digits. -/
def percentEscape (o : UInt8) : List Char :=
  ['%', hexDigit (o.toNat / 16), hexDigit (o.toNat % 16)]

/-- The octets of a text with escapes.  A percent sign that two digits do not follow stands for
itself. -/
def percentDecode : List Char → List UInt8
  | [] => []
  | '%' :: a :: b :: rest =>
    match hexValue? a, hexValue? b with
    | some x, some y => UInt8.ofNat (16 * x + y) :: percentDecode rest
    | _, _ => 37 :: percentDecode (a :: b :: rest)
  | c :: rest => String.utf8EncodeChar c ++ percentDecode rest

theorem percentDecode_percentEscape (o : UInt8) (rest : List Char) :
    percentDecode (percentEscape o ++ rest) = o :: percentDecode rest := by
  have ho := o.toNat_lt
  have h₁ := hexValue?_hexDigit (show o.toNat / 16 < 16 by omega)
  have h₂ := hexValue?_hexDigit (show o.toNat % 16 < 16 by omega)
  have h₃ : 16 * (o.toNat / 16) + o.toNat % 16 = o.toNat := Nat.div_add_mod _ _
  simp only [percentEscape, List.cons_append, List.nil_append, percentDecode, h₁, h₂, h₃]
  simp

theorem percentDecode_cons {c : Char} (h : c ≠ '%') (rest : List Char) :
    percentDecode (c :: rest) = String.utf8EncodeChar c ++ percentDecode rest := by
  rw [percentDecode]
  intro a b rest' hc
  exact absurd hc h

theorem percentDecode_ofNat {o : UInt8} (h : o < 128) (hp : o ≠ 37) (rest : List Char) :
    percentDecode (Char.ofNat o.toNat :: rest) = o :: percentDecode rest := by
  have ho : o.toNat < 128 := h
  have he := utf8EncodeChar_ofNat ⟨o.toNat, ho⟩
  simp only [UInt8.ofNat_toNat] at he
  have hc : Char.ofNat o.toNat ≠ '%' := fun e => by
    rw [e] at he
    have : o = 37 := by
      have := (List.cons.inj he).1
      rw [← this]; rfl
    exact hp this
  rw [percentDecode_cons hc, he]
  rfl

end AccessControl
