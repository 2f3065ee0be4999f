import AccessControl.Text.Octets
/-!
# Form bodies

A form body is a list of pairs of texts, `key=value`, with `&` between them.  In a key and in a
value ASCII letters, digits and `*`, `-`, `.`, `_` stand for themselves, a space is written `+`,
and every other octet is written as a percent sign and two digits.

* `Form.decode?_encode` : a list of pairs is read back from its form body, whatever their texts.
-/

namespace AccessControl.Form

/-! ### Writing -/

/-- Whether an octet stands for itself in a form body. -/
def isPlain (o : UInt8) : Bool :=
  isAlphanumeric o || o == 42 || o == 45 || o == 46 || o == 95

/-- How one octet is written in a form body. -/
def encodeOctet (o : UInt8) : List Char :=
  if isPlain o then [Char.ofNat o.toNat] else if o == 32 then ['+'] else percentEscape o

/-- How a key or a value is written in a form body. -/
def encodeText (s : String) : List Char := (octets s.toList).flatMap encodeOctet

/-- How a pair is written in a form body. -/
def encodePair (pair : String × String) : List Char :=
  encodeText pair.1 ++ '=' :: encodeText pair.2

/-- A list of pairs as a form body. -/
def encode (pairs : List (String × String)) : String :=
  String.ofList (List.intercalate ['&'] (pairs.map encodePair))

/-! ### Reading -/

/-- A plus sign stands for a space. -/
def plusToSpace (c : Char) : Char := if c = '+' then ' ' else c

/-- The text of a key or a value, if its octets form one. -/
def decodeText? (cs : List Char) : Option String :=
  textOfOctets? (percentDecode (cs.map plusToSpace))

/-- The pair of a stretch of a form body; its first equals sign ends the key. -/
def decodePair? (cs : List Char) : Option (String × String) := do
  let key ← decodeText? (cs.takeWhile (· ≠ '='))
  let value ← decodeText? ((cs.dropWhile (· ≠ '=')).drop 1)
  return (key, value)

/-- The pairs of a form body, in their order; empty stretches between ampersands do not count. -/
def decode? (body : String) : Option (List (String × String)) :=
  ((body.toList.splitOn '&').filter fun cs => !cs.isEmpty).mapM decodePair?

/-! ### Single octets -/

/-- The characters of a form body other than the separators. -/
def isFormChar (c : Char) : Bool :=
  c.isAlphanum || c == '*' || c == '-' || c == '.' || c == '_' || c == '+' || c == '%'

theorem isFormChar_encodeOctet_fin :
    ∀ n : Fin 256, (encodeOctet (UInt8.ofNat n)).all isFormChar = true := by
  decide +kernel

theorem isFormChar_of_mem_encodeOctet {o : UInt8} {c : Char} (h : c ∈ encodeOctet o) :
    isFormChar c = true := by
  have := isFormChar_encodeOctet_fin ⟨o.toNat, o.toNat_lt⟩
  simp only [UInt8.ofNat_toNat, List.all_eq_true] at this
  exact this c h

theorem lt_of_isPlain {o : UInt8} (h : isPlain o = true) : o < 128 ∧ o ≠ 37 ∧ o ≠ 43 := by
  simp only [isPlain, isAlphanumeric, Bool.or_eq_true, Bool.and_eq_true, decide_eq_true_eq,
    beq_iff_eq, UInt8.le_iff_toNat_le, ← UInt8.toNat_inj] at h
  refine ⟨?_, fun e => ?_, fun e => ?_⟩
  · rw [UInt8.lt_iff_toNat_lt]
    simp at h ⊢
    omega
  · subst e; simp at h
  · subst e; simp at h

theorem map_plusToSpace_percentEscape (o : UInt8) :
    (percentEscape o).map plusToSpace = percentEscape o := by
  have digit : ∀ n : Fin 16, plusToSpace (hexDigit n) = hexDigit n := by decide
  have ho := o.toNat_lt
  have h₁ := digit ⟨o.toNat / 16, by omega⟩
  have h₂ := digit ⟨o.toNat % 16, by omega⟩
  simp only [percentEscape, List.map_cons, List.map_nil] at h₁ h₂ ⊢
  rw [h₁, h₂]
  rfl

theorem percentDecode_encodeOctet (o : UInt8) (rest : List Char) :
    percentDecode ((encodeOctet o).map plusToSpace ++ rest) = o :: percentDecode rest := by
  unfold encodeOctet
  split
  · rename_i h
    obtain ⟨hlt, hp, hs⟩ := lt_of_isPlain h
    have hc : plusToSpace (Char.ofNat o.toNat) = Char.ofNat o.toNat := by
      refine if_neg fun e => hs ?_
      have he := utf8EncodeChar_ofNat ⟨o.toNat, hlt⟩
      simp only [UInt8.ofNat_toNat] at he
      rw [e] at he
      exact (List.cons.inj he).1.symm
    simp only [List.map_cons, List.map_nil, hc]
    exact percentDecode_ofNat hlt hp rest
  · split
    · rename_i h
      have : o = 32 := by simpa using h
      subst this
      exact percentDecode_ofNat (o := 32) (by decide) (by decide) rest
    · rw [map_plusToSpace_percentEscape]
      exact percentDecode_percentEscape o rest

/-! ### Texts, pairs and bodies -/

theorem isFormChar_of_mem_encodeText {s : String} {c : Char} (h : c ∈ encodeText s) :
    isFormChar c = true := by
  obtain ⟨o, _, hc⟩ := List.mem_flatMap.1 h
  exact isFormChar_of_mem_encodeOctet hc

theorem decodeText?_encodeText (s : String) : decodeText? (encodeText s) = some s := by
  have h : ∀ os : List UInt8, percentDecode ((os.flatMap encodeOctet).map plusToSpace) = os := by
    intro os
    induction os with
    | nil => rfl
    | cons o rest ih =>
      rw [List.flatMap_cons, List.map_append, percentDecode_encodeOctet, ih]
  rw [decodeText?, encodeText, h, textOfOctets?_octets]

theorem decodePair?_encodePair (pair : String × String) :
    decodePair? (encodePair pair) = some pair := by
  have hne : ∀ c ∈ encodeText pair.1, (decide (c ≠ '=')) = true := fun c hc => by
    have := isFormChar_of_mem_encodeText hc
    simp only [decide_eq_true_eq]
    rintro rfl
    exact absurd this (by decide)
  have htake : (encodePair pair).takeWhile (· ≠ '=') = encodeText pair.1 := by
    rw [encodePair, List.takeWhile_append_of_pos hne]
    simp
  have hdrop : (encodePair pair).dropWhile (· ≠ '=') = '=' :: encodeText pair.2 := by
    rw [encodePair, List.dropWhile_append_of_pos hne]
    simp
  rw [decodePair?, htake, hdrop, List.drop_one, List.tail_cons, decodeText?_encodeText,
    decodeText?_encodeText]
  rfl

theorem not_mem_encodePair (pair : String × String) : '&' ∉ encodePair pair := by
  intro h
  rw [encodePair, List.mem_append, List.mem_cons] at h
  rcases h with h | h | h
  · exact absurd (isFormChar_of_mem_encodeText h) (by decide)
  · exact absurd h (by decide)
  · exact absurd (isFormChar_of_mem_encodeText h) (by decide)

theorem encodePair_ne_nil (pair : String × String) : encodePair pair ≠ [] := by
  simp [encodePair]

/-- The stretches between the ampersands of a form body are what is written of its pairs. -/
theorem filter_splitOn_encode (pairs : List (String × String)) :
    ((encode pairs).toList.splitOn '&').filter (fun cs => !cs.isEmpty) = pairs.map encodePair := by
  have hfilter : (pairs.map encodePair).filter (fun cs => !cs.isEmpty) = pairs.map encodePair := by
    rw [List.filter_eq_self]
    intro cs hcs
    obtain ⟨pair, _, rfl⟩ := List.mem_map.1 hcs
    simp [encodePair_ne_nil]
  -- splitting the empty body gives one empty stretch, so the list without pairs is a case apart
  cases pairs with
  | nil => rfl
  | cons pair rest =>
    rw [encode, String.toList_ofList, List.splitOn_intercalate, hfilter]
    · intro cs hcs
      obtain ⟨pair, _, rfl⟩ := List.mem_map.1 hcs
      exact not_mem_encodePair pair
    · simp

/-- A list of pairs is read back from its form body. -/
theorem decode?_encode (pairs : List (String × String)) : decode? (encode pairs) = some pairs := by
  rw [decode?, filter_splitOn_encode]
  induction pairs with
  | nil => rfl
  | cons pair rest ih =>
    rw [List.map_cons, List.mapM_cons, decodePair?_encodePair, ih]
    rfl

end AccessControl.Form
