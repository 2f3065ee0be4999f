import AccessControl.Proofs.Role.WireForm
/-!
# Values that are no role

A value that is no wire form of a role is refused, and the value tells why.  An object and an array
are refused for their name before their bucket is looked at, and a value of another kind under a key
is never passed over for the next key.

* `Role.wireForm_or_refusal` : every value is a wire form of a role or refused, told from the value.
* `Role.ofJson_eq_error_iff` : a value is refused for exactly this reason.
* `Role.ofJson_exact` : which values are decoded to which role, and why the others are refused.
-/

namespace AccessControl.Role

/-- Why a name and a bucket, each of which may be missing, name no role. -/
inductive Misnamed : Option Json → Option Json → DecodeFault → Prop where
  | nameless {bucket? : Option Json} : Misnamed none bucket? (.record (.missing "role" "name"))
  | nameKind {v : Json} {bucket? : Option Json} (hv : v.string? = none) :
    Misnamed (some v) bucket? (.record (.invalid "role" "name" (.kind v "a string")))
  | emptyName {bucket? : Option Json} : Misnamed (some (.string "")) bucket? .emptyRoleName
  /-- The bucket only counts where there is a name. -/
  | bucketKind {name : String} {v : Json} (hname : name ≠ "") (hv : v.string? = none) :
    Misnamed (some (.string name)) (some v)
      (.record (.invalid "role" "bucket" (.kind v "a string")))

/-- Why a value is no role. -/
inductive Refusal : Json → DecodeFault → Prop where
  | text {s : String} {fault : ArgumentFault} (h : parse s = .error fault) :
    Refusal (.string s) (.roleString fault)
  | object {members : List (String × Json)} {fault : DecodeFault}
    (h : Misnamed (firstPresent? (Json.entries members) ["role", "name"])
      (firstPresent? (Json.entries members) ["bucket", "bucket_name"]) fault) :
    Refusal (.object members) fault
  | array {items : List Json} {fault : DecodeFault} (hlength : items.length ≤ 2)
    (h : Misnamed (presentItem? items 0) (presentItem? items 1) fault) :
    Refusal (.array items) fault
  | tooLong {items : List Json} (hlength : 2 < items.length) :
    Refusal (.array items) (.record (.tooManyPositions "role" 2 items.length))
  /-- Null, a truth value or a number. -/
  | shape {v : Json} (hv : v.kind ∈ ["null", "bool", "number"]) :
    Refusal v (.record (.shape "role" v))

variable {v : Json} {r : Role} {fault : DecodeFault} {rec : Record schema}

/-! ### Names and buckets -/

theorem names_or_misnamed (name? bucket? : Option Json) :
    (∃ r : Role, r.name ≠ "" ∧ name? = some (.string r.name) ∧ bucket? = r.bucket.map .string) ∨
      ∃ fault, Misnamed name? bucket? fault := by
  match name? with
  | none => exact .inr ⟨_, .nameless⟩
  | some (.string name) =>
    by_cases hname : name = ""
    · subst hname
      exact .inr ⟨_, .emptyName⟩
    · match bucket? with
      | none => exact .inl ⟨⟨name, none⟩, hname, rfl, rfl⟩
      | some (.string bucket) => exact .inl ⟨⟨name, some bucket⟩, hname, rfl, rfl⟩
      | some .null | some (.bool _) | some (.number _) | some (.array _) | some (.object _) =>
        exact .inr ⟨_, .bucketKind hname rfl⟩
  | some .null | some (.bool _) | some (.number _) | some (.array _) | some (.object _) =>
    exact .inr ⟨_, .nameKind rfl⟩

theorem string_eq_error_of_string?_eq_none (hv : v.string? = none) :
    Decoder.string v = .error (.kind v "a string") := by
  cases v with
  | string s => cases hv
  | _ => rfl

theorem ofRecord_of_misnamed
    (h : Misnamed (firstPresent? rec.raw ["role", "name"])
      (firstPresent? rec.raw ["bucket", "bucket_name"]) fault) :
    ofRecord rec = .error fault := by
  rw [← get?_name, ← get?_bucket] at h
  generalize hname : rec.get? "name" = name? at h
  generalize hbucket : rec.get? "bucket" = bucket? at h
  rw [ofRecord, Record.require]
  cases h with
  | nameless =>
    rw [Record.read?_eq_none_iff.2 hname]
    rfl
  | nameKind hv =>
    rw [Record.read?_eq_error_iff.2 ⟨_, _, hname, string_eq_error_of_string?_eq_none hv, rfl⟩]
    rfl
  | emptyName =>
    have hread : rec.read? .string "name" = .ok (some "") :=
      Record.read?_eq_some_iff.2 ⟨_, hname, rfl⟩
    rw [hread]
    rfl
  | @bucketKind name v hne hv =>
    have hread : rec.read? .string "name" = .ok (some name) :=
      Record.read?_eq_some_iff.2 ⟨_, hname, rfl⟩
    rw [hread,
      Record.read?_eq_error_iff.2 ⟨v, _, hbucket, string_eq_error_of_string?_eq_none hv, rfl⟩]
    exact if_neg hne

/-! ### Values -/

/-- **Every value is a wire form of a role, or there is a reason why it is none.** -/
theorem wireForm_or_refusal (v : Json) : (∃ r, WireForm r v) ∨ ∃ fault, Refusal v fault := by
  cases v with
  | null => exact .inr ⟨_, .shape (by decide)⟩
  | bool _ => exact .inr ⟨_, .shape (by simp [Json.kind])⟩
  | number _ => exact .inr ⟨_, .shape (by simp [Json.kind])⟩
  | string s =>
    cases hparse : parse s with
    | error fault => exact .inr ⟨_, .text hparse⟩
    | ok r =>
      obtain rfl := encode_of_parse hparse
      exact .inl ⟨r, .text hparse⟩
  | object members =>
    obtain ⟨r, hne, hname, hbucket⟩ | ⟨fault, h⟩ := names_or_misnamed
      (firstPresent? (Json.entries members) ["role", "name"])
      (firstPresent? (Json.entries members) ["bucket", "bucket_name"])
    · exact .inl ⟨r, .object ⟨hne, hname, hbucket⟩⟩
    · exact .inr ⟨fault, .object h⟩
  | array items =>
    by_cases hlength : items.length ≤ 2
    · obtain ⟨r, hne, hname, hbucket⟩ | ⟨fault, h⟩ :=
        names_or_misnamed (presentItem? items 0) (presentItem? items 1)
      · rw [← firstPresent?_positional_name hlength] at hname
        rw [← firstPresent?_positional_bucket hlength] at hbucket
        exact .inl ⟨r, (namedBy_positional_iff hlength).1 ⟨hne, hname, hbucket⟩⟩
      · exact .inr ⟨fault, .array hlength h⟩
    · exact .inr ⟨_, .tooLong (by omega)⟩

theorem ofJson_of_refusal (h : Refusal v fault) : ofJson v = .error fault := by
  cases h with
  | text h =>
    rw [ofJson, h]
    rfl
  | object h => exact ofRecord_of_misnamed h
  | array hlength h =>
    rw [ofJson_array_of_le hlength]
    rw [← firstPresent?_positional_name hlength, ← firstPresent?_positional_bucket hlength] at h
    exact ofRecord_of_misnamed h
  | tooLong hlength => exact ofJson_array_of_lt hlength
  | shape hv =>
    cases v with
    | null | bool | number => rfl
    | string | array | object => simp [Json.kind] at hv

/-- **A value is refused for exactly the reason that it gives.** -/
theorem ofJson_eq_error_iff : ofJson v = .error fault ↔ Refusal v fault := by
  refine ⟨fun h => ?_, ofJson_of_refusal⟩
  -- a value that is refused is no wire form, so it gives a reason, and there is only one
  obtain ⟨r, hform⟩ | ⟨fault', hrefusal⟩ := wireForm_or_refusal v
  · cases h.symm.trans (ofJson_eq_ok_iff.2 hform)
  · cases h.symm.trans (ofJson_of_refusal hrefusal)
    exact hrefusal

/-! ### Decoding -/

theorem wireForm_iff :
    WireForm r v ↔ (∃ s, v = .string s ∧ parse s = .ok r) ∨
      (∃ members, v = .object members ∧ NamedBy r (Json.entries members)) ∨
        r.name ≠ "" ∧ (v = .array [.string r.name] ∧ r.bucket = none ∨
          v = .array [.string r.name, (r.bucket.map .string).getD .null]) := by
  constructor
  · intro h
    cases h with
    | text h => exact .inl ⟨_, rfl, h⟩
    | object h => exact .inr (.inl ⟨_, rfl, h⟩)
    | name hname hbucket => exact .inr (.inr ⟨hname, .inl ⟨rfl, hbucket⟩⟩)
    | pair hname => exact .inr (.inr ⟨hname, .inr rfl⟩)
  · rintro (⟨s, rfl, h⟩ | ⟨members, rfl, h⟩ | ⟨hname, ⟨rfl, hbucket⟩ | rfl⟩)
    · obtain rfl := encode_of_parse h
      exact .text h
    · exact .object h
    · exact .name hname hbucket
    · exact .pair hname

/-- **A value is decoded to a role iff it is one of three things**: a text that reads as the role,
an object that names it, or an array of its name and its bucket; in the last two the name is taken
as it is.  Every other value is refused as one that cannot be decoded, for the reason that the value
gives, and no role that is decoded has an empty name. -/
theorem ofJson_exact :
    (∀ v r, ofJson v = .ok r ↔ (∃ s, v = .string s ∧ parse s = .ok r) ∨
      (∃ members, v = .object members ∧ NamedBy r (Json.entries members)) ∨
        r.name ≠ "" ∧ (v = .array [.string r.name] ∧ r.bucket = none ∨
          v = .array [.string r.name, (r.bucket.map .string).getD .null])) ∧
      (∀ v fault, ofJson v = .error fault ↔ Refusal v fault) ∧
      (∀ v, (∃ r, ofJson v = .ok r) ∨ ∃ fault, Refusal v fault) ∧
      ∀ v bucket?, ofJson v ≠ .ok ⟨"", bucket?⟩ := by
  refine ⟨fun v r => ?_, fun v fault => ofJson_eq_error_iff, fun v => ?_, fun v bucket? h => ?_⟩
  · rw [ofJson_eq_ok_iff, wireForm_iff]
  · exact (wireForm_or_refusal v).imp_left fun ⟨r, h⟩ => ⟨r, ofJson_eq_ok_iff.2 h⟩
  · exact exists_wireForm_iff.1 ⟨v, ofJson_eq_ok_iff.1 h⟩ rfl

-- brackets in a positional name are part of it; null is passed over, a value of another kind is not
example : ofJson (.array [.string "a[b]", .null]) = .ok ⟨"a[b]", none⟩ := rfl
example : ofJson (.object [("role", .null), ("name", .string "a")]) = .ok ⟨"a", none⟩ := rfl
example : ofJson (.object [("role", .bool true), ("name", .string "a")]) =
    .error (.record (.invalid "role" "name" (.kind (.bool true) "a string"))) := rfl

end AccessControl.Role
