import AccessControl.Argument
import AccessControl.Ordered.Set
/-!
# Roles

A role is a permission, cluster-wide or scoped to one bucket.  Its string form is `name` or
`name[bucket]`: everything before the first `[` is the name, and everything between it and the `]`
at the end is the bucket.  Roles are ordered by name, then bucket, the absent bucket first.

* `Role.encode_of_parse` : a string that reads as a role is the string form of that role.
* `Role.validate` : the roles that can be sent, those whose string form reads back and has no comma.
-/

namespace AccessControl

/-- A permission, cluster-wide or scoped to one bucket. -/
structure Role where
  name : String
  /-- The bucket to which the role is scoped; an empty name is a bucket too. -/
  bucket : Option String := none
  deriving DecidableEq, Inhabited

namespace Role

/-- Roles are ordered by name, then bucket. -/
instance : Ord Role := ⟨compareLex (compareOn Role.name) (compareOn Role.bucket)⟩

instance : Std.TransOrd Role :=
  inferInstanceAs (Std.TransCmp (compareLex (compareOn Role.name) (compareOn Role.bucket)))

instance : Std.LawfulEqOrd Role where
  eq_of_compare {a b} h := by
    have h : compareLex (compareOn Role.name) (compareOn Role.bucket) a b = .eq := h
    rw [compareLex_eq_eq] at h
    obtain ⟨name, bucket⟩ := a
    obtain ⟨name', bucket'⟩ := b
    simp only [compareOn, Std.compare_eq_iff_eq] at h
    rw [h.1, h.2]

/-- The string form of a role. -/
def encode (r : Role) : String :=
  match r.bucket with
  | some bucket => r.name ++ "[" ++ bucket ++ "]"
  | none => r.name

/-- The characters before a given last one. -/
def dropLast? (c : Char) (cs : List Char) : Option (List Char) :=
  if cs.getLast? = some c then some cs.dropLast else none

/-- The name and bucket of a role string, before the name is checked. -/
def split (s : String) : Except ArgumentFault Role :=
  let cs := s.toList
  match cs.dropWhile (· ≠ '[') with
  | _ :: rest =>
    match dropLast? ']' rest with
    | some bucket =>
      .ok ⟨String.ofList (cs.takeWhile (· ≠ '[')), some (String.ofList bucket)⟩
    | none => .error (.unterminatedBucket s)
  | [] => if cs.getLast? = some ']' then .error (.unbalancedBracket s) else .ok ⟨s, none⟩

/-- Reads a role's string form. -/
def parse (s : String) : Except ArgumentFault Role := do
  let role ← split s
  if role.name = "" then .error .emptyRoleName else .ok role

/-- Checks that a role can be sent: its string form has no comma, which separates roles, and reads
back as the role. -/
def validate (r : Role) : Except ArgumentFault Unit :=
  if ',' ∈ r.encode.toList then .error (.commaInRole r.encode)
  else
    match parse r.encode with
    | .ok r' => if r' = r then .ok () else .error (.notARoleString r.encode)
    | .error _ => .error (.notARoleString r.encode)

/-- Checks that every role of a list can be sent; the first that cannot decides. -/
def validateAll : List Role → Except ArgumentFault Unit
  | [] => .ok ()
  | r :: rest => do
    r.validate
    validateAll rest

/-- The string forms of some roles, separated by commas. -/
def encodeList (roles : List Role) : String := ",".intercalate (roles.map encode)

/-! ### Reading gives back what was written -/

theorem encode_of_split {s : String} {r : Role} (h : split s = .ok r) : r.encode = s := by
  unfold split at h
  simp only at h
  split at h
  · rename_i c rest hd
    split at h
    · rename_i bucket hb
      cases h
      have hcs := List.takeWhile_append_dropWhile (p := (· ≠ '[')) (l := s.toList)
      have hc : c = '[' := by
        have := List.head?_dropWhile_not (· ≠ '[') s.toList
        rw [hd] at this
        simpa using this
      unfold dropLast? at hb
      split at hb
      · rename_i hl
        cases hb
        have hrest : rest.dropLast ++ [']'] = rest := by
          obtain ⟨ys, hys⟩ := List.getLast?_eq_some_iff.1 hl
          rw [hys]; simp
        apply String.ext
        rw [hd, hc, ← hrest] at hcs
        simpa [encode] using hcs
      · cases hb
    · cases h
  · split at h
    · cases h
    · cases h; rfl

/-- A string that reads as a role is the string form of that role. -/
theorem encode_of_parse {s : String} {r : Role} (h : parse s = .ok r) : r.encode = s := by
  unfold parse at h
  cases hs : split s with
  | error e => rw [hs] at h; cases h
  | ok r' =>
    rw [hs] at h
    have h' : (if r'.name = "" then .error .emptyRoleName else .ok r' : Except ArgumentFault Role)
        = .ok r := h
    split at h'
    · cases h'
    · cases h'; exact encode_of_split hs

end Role

end AccessControl
