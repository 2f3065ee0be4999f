import AccessControl.Proofs.Success
import AccessControl.Proofs.Text.Pieces
import AccessControl.Role.Basic
import Mathlib.Data.List.TakeWhile
/-!
# The string form of a role

A role's string form is its name, or its name and then its bucket in brackets.  Both may have
brackets of their own, so a text could be taken apart in several ways; the first opening bracket
and the end of the text decide.  Every text that reads as a role is the string form of that role.
A role is read back from its string form unless its name is empty or has an opening bracket, or
the role has no bucket and its name looks like the end of one.

* `Role.parse_eq_ok_iff` : a text reads as a role iff it is the string form of the role and the role
  is read back from it.
* `Role.isRoleText_iff` : the texts that read as a role are the string forms of such roles.
* `Role.parse_inverse_encode` : reading and writing are inverse on exactly these two sets.
-/

namespace AccessControl.Role

/-- A text ends with a closing bracket. -/
def EndsClosed (s : String) : Prop := ∃ t, s = t ++ "]"

/-- The texts that read as a role. -/
inductive IsRoleText (s : String) : Prop where
  /-- A name alone, which does not look like the end of a bucket. -/
  | plain (hopen : '[' ∉ s.toList) (hname : s ≠ "") (hclosed : ¬ EndsClosed s)
  /-- A name up to the first opening bracket, and a bucket up to a closing bracket at the end. -/
  | scoped {before after : String} (hs : s = before ++ "[" ++ after)
      (hopen : '[' ∉ before.toList) (hname : before ≠ "") (hclosed : EndsClosed after)

/-- The roles that are read back from their string form; the bucket may be any text. -/
structure HasStringForm (r : Role) : Prop where
  name_ne_empty : r.name ≠ ""
  open_not_mem_name : '[' ∉ r.name.toList
  /-- Without a bucket the name must not look like the end of one. -/
  not_endsClosed : r.bucket = none → ¬ EndsClosed r.name

variable {s : String} {r : Role}

/-! ### Brackets -/

theorem endsClosed_iff : EndsClosed s ↔ s.toList.getLast? = some ']' := by
  rw [List.getLast?_eq_some_iff]
  constructor
  · rintro ⟨t, rfl⟩
    exact ⟨t.toList, by simp⟩
  · rintro ⟨cs, hcs⟩
    exact ⟨String.ofList cs, String.toList_injective (by simp [hcs])⟩

theorem dropLast?_concat (c : Char) (cs : List Char) : dropLast? c (cs ++ [c]) = some cs := by
  simp [dropLast?]

theorem open_not_mem_takeWhile (cs : List Char) : '[' ∉ cs.takeWhile (· ≠ '[') := by
  intro h
  simpa using List.mem_takeWhile_imp h

/-! ### Taking a text apart -/

theorem split_of_not_mem (hopen : '[' ∉ s.toList) (hclosed : ¬ EndsClosed s) :
    split s = .ok ⟨s, none⟩ := by
  have hdrop : s.toList.dropWhile (· ≠ '[') = [] :=
    List.dropWhile_eq_nil_iff.2 (passes_of_not_mem hopen)
  rw [split]
  simp only [hdrop]
  rw [if_neg (mt endsClosed_iff.2 hclosed)]

/-- A name, and a bucket in brackets: the first opening bracket ends the name, and all that follows
up to the closing bracket at the end is the bucket. -/
theorem split_scoped {name : String} (hopen : '[' ∉ name.toList) (bucket : String) :
    split (name ++ "[" ++ bucket ++ "]") = .ok ⟨name, some bucket⟩ := by
  have hchars : (name ++ "[" ++ bucket ++ "]").toList =
      name.toList ++ '[' :: (bucket.toList ++ [']']) := by
    simp
  rw [split, hchars]
  simp only [takeWhile_ne_append_cons hopen, dropWhile_ne_append_cons hopen, dropLast?_concat,
    String.ofList_toList]

/-- The name of a text that was taken apart has no opening bracket, and without a bucket it closes
none. -/
theorem brackets_of_split (h : split s = .ok r) :
    '[' ∉ r.name.toList ∧ (r.bucket = none → ¬ EndsClosed r.name) := by
  unfold split at h
  simp only at h
  split at h
  · split at h
    · cases h
      refine ⟨?_, nofun⟩
      rw [String.toList_ofList]
      exact open_not_mem_takeWhile s.toList
    · cases h
  · rename_i hdrop
    split at h
    · cases h
    · rename_i hlast
      cases h
      refine ⟨fun hmem => ?_, fun _ => mt endsClosed_iff.1 hlast⟩
      simpa using List.dropWhile_eq_nil_iff.1 hdrop '[' hmem

/-! ### Reading and writing -/

theorem parse_eq_ok_iff_split : parse s = .ok r ↔ split s = .ok r ∧ r.name ≠ "" := by
  rw [parse, bind_eq_ok_iff]
  constructor
  · rintro ⟨r', hsplit, h⟩
    split at h
    · cases h
    · cases h
      exact ⟨hsplit, ‹_›⟩
  · rintro ⟨hsplit, hname⟩
    exact ⟨r, hsplit, if_neg hname⟩

theorem HasStringForm.parse_encode (h : r.HasStringForm) : parse r.encode = .ok r := by
  obtain ⟨name, _ | bucket⟩ := r
  · exact parse_eq_ok_iff_split.2
      ⟨split_of_not_mem h.open_not_mem_name (h.not_endsClosed rfl), h.name_ne_empty⟩
  · exact parse_eq_ok_iff_split.2 ⟨split_scoped h.open_not_mem_name bucket, h.name_ne_empty⟩

/-- A text reads as a role iff it is the string form of the role, and the role is one that is read
back from it. -/
theorem parse_eq_ok_iff : parse s = .ok r ↔ r.encode = s ∧ r.HasStringForm := by
  constructor
  · intro h
    obtain ⟨hsplit, hname⟩ := parse_eq_ok_iff_split.1 h
    obtain ⟨hopen, hclosed⟩ := brackets_of_split hsplit
    exact ⟨encode_of_parse h, hname, hopen, hclosed⟩
  · rintro ⟨rfl, h⟩
    exact h.parse_encode

theorem parse_encode_eq_ok_iff : parse r.encode = .ok r ↔ r.HasStringForm := by
  rw [parse_eq_ok_iff, eq_self, true_and]

/-- The texts that read as a role are the string forms of the roles that are read back. -/
theorem isRoleText_iff : IsRoleText s ↔ ∃ r : Role, r.encode = s ∧ r.HasStringForm := by
  constructor
  · rintro (⟨hopen, hname, hclosed⟩ | ⟨rfl, hopen, hname, bucket, rfl⟩)
    · exact ⟨⟨s, none⟩, rfl, hname, hopen, fun _ => hclosed⟩
    · rename_i before
      refine ⟨⟨before, some bucket⟩, ?_, hname, hopen, nofun⟩
      simp [encode, String.append_assoc]
  · rintro ⟨⟨name, _ | bucket⟩, rfl, hname, hopen, hclosed⟩
    · exact .plain hopen hname (hclosed rfl)
    · have hs : name ++ "[" ++ bucket ++ "]" = name ++ "[" ++ (bucket ++ "]") := by
        simp [String.append_assoc]
      exact .scoped hs hopen hname ⟨bucket, rfl⟩

/-- **Reading and writing a role's string form are inverse on exactly the right sets**: the texts
that read as a role, and the roles that are read back. -/
theorem parse_inverse_encode :
    (∀ s, (∃ r, parse s = .ok r) ↔ IsRoleText s) ∧
      (∀ s r, parse s = .ok r ↔ r.encode = s ∧ r.HasStringForm) ∧
      ∀ r : Role, parse r.encode = .ok r ↔ r.HasStringForm := by
  refine ⟨fun s => ?_, fun s r => parse_eq_ok_iff, fun r => parse_encode_eq_ok_iff⟩
  rw [isRoleText_iff]
  exact exists_congr fun r => parse_eq_ok_iff

-- brackets in the name and in the bucket: the first opening one and the end decide
example : parse "x][y]]" = .ok ⟨"x]", some "y]"⟩ := rfl

end AccessControl.Role
