import AccessControl.Proofs.InOrder
import AccessControl.Proofs.Role.List
import Mathlib.Data.Set.Function
/-!
# Roles that can be sent

A role is checked by writing its string form and reading it again, so which roles pass depends on
where the reader finds the first bracket and the last.  Told from the name and the bucket alone, a
role can be sent iff it has a string form and neither of them has a comma.

* `Role.validate_eq_ok_iff_isSendable` : exactly these roles pass the check.
* `Role.validate_eq_error_iff` : why a role does not pass.
* `Role.validateAll_eq_error_iff` : a list is refused for its first role that does not pass.
* `Role.validate_exact` : all that the check says about a role, a text and a list.
-/

namespace AccessControl.Role

/-- The roles that can be sent. -/
structure IsSendable (r : Role) : Prop where
  name_ne_empty : r.name ≠ ""
  open_not_mem_name : '[' ∉ r.name.toList
  comma_not_mem_name : ',' ∉ r.name.toList
  /-- Only in front of a bucket may the name end with a closing bracket. -/
  not_endsClosed : r.bucket = none → ¬ EndsClosed r.name
  /-- A bucket may be any text without a comma. -/
  comma_not_mem_bucket : ∀ bucket, r.bucket = some bucket → ',' ∉ bucket.toList

variable {r : Role}

/-! ### Single roles -/

theorem comma_mem_encode_iff :
    ',' ∈ r.encode.toList ↔
      ',' ∈ r.name.toList ∨ ∃ bucket, r.bucket = some bucket ∧ ',' ∈ bucket.toList := by
  obtain ⟨name, _ | bucket⟩ := r <;> simp [encode]

theorem isSendable_iff : r.IsSendable ↔ r.HasStringForm ∧ ',' ∉ r.encode.toList := by
  rw [comma_mem_encode_iff]
  constructor
  · rintro ⟨hname, hopen, hcomma, hclosed, hbucket⟩
    refine ⟨⟨hname, hopen, hclosed⟩, ?_⟩
    rintro (h | ⟨bucket, hb, h⟩)
    · exact hcomma h
    · exact hbucket bucket hb h
  · rintro ⟨⟨hname, hopen, hclosed⟩, hcomma⟩
    exact ⟨hname, hopen, fun h => hcomma (.inl h), hclosed,
      fun bucket hb h => hcomma (.inr ⟨bucket, hb, h⟩)⟩

/-- **A role passes the check iff it can be sent.** -/
theorem validate_eq_ok_iff_isSendable : r.validate = .ok () ↔ r.IsSendable := by
  rw [validate_eq_ok_iff, parse_encode_eq_ok_iff, isSendable_iff, and_comm]

/-- A comma is what a role is refused for first, and otherwise that it has no string form. -/
theorem validate_eq_error_iff {fault : ArgumentFault} :
    r.validate = .error fault ↔
      ',' ∈ r.encode.toList ∧ fault = .commaInRole r.encode ∨
        ',' ∉ r.encode.toList ∧ ¬ r.HasStringForm ∧ fault = .notARoleString r.encode := by
  rw [validate]
  by_cases hcomma : ',' ∈ r.encode.toList
  · simp [hcomma, eq_comm]
  rw [if_neg hcomma]
  by_cases hform : r.HasStringForm
  · simp [hcomma, hform, hform.parse_encode]
  · cases hparse : parse r.encode with
    | error e => simp [hcomma, hform, eq_comm]
    | ok r' =>
      -- what is read back is another role
      have hne : r' ≠ r := by
        rintro rfl
        exact hform (parse_encode_eq_ok_iff.1 hparse)
      simp [hcomma, hform, hne, eq_comm]

theorem argument_of_validate {fault : ArgumentFault} (h : r.validate = .error fault) :
    fault.argument = "role" := by
  obtain ⟨-, rfl⟩ | ⟨-, -, rfl⟩ := validate_eq_error_iff.1 h <;> rfl

theorem encode_injOn_hasStringForm : Set.InjOn encode {r | r.HasStringForm} := by
  intro r hr r' hr' h
  have hparse := HasStringForm.parse_encode hr
  rw [h, HasStringForm.parse_encode hr'] at hparse
  exact (Except.ok.inj hparse).symm

theorem validate_of_parse {s : String} (h : parse s = .ok r) :
    r.validate = .ok () ↔ ',' ∉ s.toList := by
  obtain ⟨rfl, hform⟩ := parse_eq_ok_iff.1 h
  rw [validate_eq_ok_iff_isSendable, isSendable_iff, and_iff_right hform]

/-! ### Lists of roles -/

theorem validateAll_eq_mapM (rs : List Role) :
    validateAll rs = rs.mapM validate >>= fun _ => pure () := by
  induction rs with
  | nil => rfl
  | cons r rest ih =>
    rw [validateAll, ih, List.mapM_cons]
    simp only [bind_assoc, pure_bind]

/-- A list of roles is refused for the first of them that cannot be sent. -/
theorem validateAll_eq_error_iff {rs : List Role} {fault : ArgumentFault} :
    validateAll rs = .error fault ↔
      ∃ before r after, rs = before ++ r :: after ∧
        (∀ r' ∈ before, r'.validate = .ok ()) ∧ r.validate = .error fault := by
  have hpasses : ∀ r : Role, (∃ u, r.validate = .ok u) ↔ r.validate = .ok () :=
    fun _ => ⟨fun ⟨_, h⟩ => h, fun h => ⟨(), h⟩⟩
  rw [validateAll_eq_mapM, bind_pure_eq_error_iff, mapM_eq_error_iff]
  simp only [FirstRefusal, hpasses]

/-! ### The check -/

/-- **The check accepts exactly the roles that can be sent**, and refuses all others as the argument
`role`.  Roles that pass have different string forms, a role that was read from a text passes iff
the text has no comma, and a list is accepted iff all its roles are, or else refused for the first
of them that is not. -/
theorem validate_exact :
    (∀ r : Role, r.validate = .ok () ↔ r.IsSendable) ∧
      (∀ (r : Role) (fault : ArgumentFault), r.validate = .error fault → fault.argument = "role") ∧
      Set.InjOn encode {r | r.validate = .ok ()} ∧
      (∀ s r, parse s = .ok r → (r.validate = .ok () ↔ ',' ∉ s.toList)) ∧
      ∀ rs : List Role, (validateAll rs = .ok () ↔ ∀ r ∈ rs, r.validate = .ok ()) ∧
        ∀ fault, validateAll rs = .error fault ↔
          ∃ before r after, rs = before ++ r :: after ∧
            (∀ r' ∈ before, r'.validate = .ok ()) ∧ r.validate = .error fault := by
  refine ⟨fun r => validate_eq_ok_iff_isSendable, fun r fault => argument_of_validate, ?_,
    fun s r => validate_of_parse,
    fun rs => ⟨validateAll_eq_ok_iff, fun fault => validateAll_eq_error_iff⟩⟩
  refine encode_injOn_hasStringForm.mono fun r hr => ?_
  exact (isSendable_iff.1 (validate_eq_ok_iff_isSendable.1 hr)).1

/-- A name that ends with a closing bracket passes in front of a bucket, and only there. -/
theorem validate_exact_sample :
    (⟨"x]", some "]["⟩ : Role).validate = .ok () ∧
      validateAll [⟨"x]", some "]["⟩, ⟨"x]", none⟩, ⟨"a,b", none⟩] =
        .error (.notARoleString "x]") ∧
      (ArgumentFault.notARoleString "x]").argument = "role" ∧
      parse "a[b,c]" = .ok ⟨"a", some "b,c"⟩ ∧ (⟨"a", some "b,c"⟩ : Role).validate ≠ .ok () := by
  obtain ⟨haccept, hargument, -, hparsed, hlists⟩ := validate_exact
  have hfirst : (⟨"x]", some "]["⟩ : Role).validate = .ok () :=
    (haccept _).2 ⟨by decide, by decide, by decide, nofun, fun _ h => by cases h; decide⟩
  have hsecond : (⟨"x]", none⟩ : Role).validate = .error (.notARoleString "x]") := rfl
  have hread : parse "a[b,c]" = .ok ⟨"a", some "b,c"⟩ := rfl
  refine ⟨hfirst, ((hlists _).2 _).2 ⟨[_], _, [_], rfl, ?_, hsecond⟩, hargument _ _ hsecond, hread,
    fun h => ?_⟩
  · exact List.forall_mem_singleton.2 hfirst
  · exact absurd ((hparsed _ _ hread).1 h) (by decide)

end AccessControl.Role
