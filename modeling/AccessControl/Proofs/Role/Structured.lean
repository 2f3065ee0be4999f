import AccessControl.Proofs.Record.Writing
import AccessControl.Proofs.Role.WireForm
/-!
# Structured and positional roles

A role has a string form only under conditions, but its other wire forms hold its name and its
bucket apart and lose nothing: the members by which it is sent, an object with its bucket under
either key, and the array of its name and bucket are all read as the role, if only it has a name.

* `Role.get?_toMembers` : what is under each key of the members by which a role is sent.
* `Role.ofJson_object_eq_ok_iff` : an object with the name and the bucket of a role is read as the
  role iff that has a name.
* `Role.toMembers_lossless` : the members of a role determine it, and all its forms are read alike.
-/

namespace AccessControl.Role

/-- The bucket of a role as a wire value, null where there is none. -/
def bucketOrNull (r : Role) : Json := (r.bucket.map .string).getD .null

variable {r r' : Role}

/-! ### The members that are sent -/

theorem allWritten_toRecord (r : Role) : r.toRecord.AllWritten := by
  have hnamed := Record.allWritten_empty.set (s := schema) "name" (.string r.name)
  unfold toRecord
  cases r.bucket with
  | none => exact hnamed
  | some bucket => exact hnamed.set "bucket" (.string bucket)

/-- The name of a role is sent under one key, and its bucket, if it has one, under another. -/
theorem get?_toMembers (r : Role) (k : String) :
    r.toMembers.get? k =
      if k = "role" then some (.string r.name)
      else if k = "bucket" then r.bucket.map .string else none := by
  have hname : schema.writeKey "name" = "role" := by decide
  have hbucket : schema.writeKey "bucket" = "bucket" := by decide
  rw [toMembers, (allWritten_toRecord r).outgoing_eq, toRecord]
  cases r.bucket with
  | none =>
    simp only [Record.set, Record.empty, hname, Entries.get?_insert, Entries.get?_empty]
    simp
  | some bucket =>
    simp only [Record.set, Record.empty, hname, hbucket, Entries.get?_insert, Entries.get?_empty]
    -- the two keys differ, so it does not matter which of them is looked at first
    by_cases hk : k = "role" <;> simp [hk]

theorem get?_toMembers_injective : Function.Injective fun r : Role => r.toMembers.get? := by
  rintro ⟨name, bucket?⟩ ⟨name', bucket?'⟩ h
  have hname := congrFun h "role"
  have hbucket := congrFun h "bucket"
  simp only [get?_toMembers, if_true, String.reduceEq, if_false, Option.some.injEq,
    Json.string.injEq] at hname hbucket
  rw [hname, Option.map_injective (fun _ _ => Json.string.inj) hbucket]

theorem firstPresent?_toMembers (r : Role) :
    firstPresent? r.toMembers ["role", "name"] = some (.string r.name) ∧
      firstPresent? r.toMembers ["bucket", "bucket_name"] = r.bucket.map .string := by
  have hrole : r.toMembers.get? "role" = some (.string r.name) := get?_toMembers r _
  have hbucket : r.toMembers.get? "bucket" = r.bucket.map .string := get?_toMembers r _
  have hother : r.toMembers.get? "bucket_name" = none := get?_toMembers r _
  refine ⟨firstPresent?_cons_of_ne_null hrole (by simp) _, ?_⟩
  cases hb : r.bucket with
  | none =>
    rw [hb] at hbucket
    rw [firstPresent?_cons_of_absent (.inl hbucket), firstPresent?_cons_of_absent (.inl hother)]
    rfl
  | some bucket =>
    rw [hb] at hbucket
    exact firstPresent?_cons_of_ne_null hbucket (by simp) _

/-! ### Reading the forms -/

/-- An object with the name and the bucket of a role is read as the role iff that has a name. -/
theorem ofJson_object_eq_ok_iff {members : List (String × Json)}
    (hname : firstPresent? (Json.entries members) ["role", "name"] = some (.string r.name))
    (hbucket : firstPresent? (Json.entries members) ["bucket", "bucket_name"] =
      r.bucket.map .string) :
    ofJson (.object members) = .ok r ↔ r.name ≠ "" := by
  rw [ofJson_eq_ok_iff]
  exact ⟨fun h => exists_wireForm_iff.1 ⟨_, h⟩, fun hne => .object ⟨hne, hname, hbucket⟩⟩

theorem ofJson_toMembers_eq_ok_iff : ofJson (.ofEntries r.toMembers) = .ok r ↔ r.name ≠ "" := by
  obtain ⟨hname, hbucket⟩ := firstPresent?_toMembers r
  rw [← Json.entries_toList r.toMembers] at hname hbucket
  exact ofJson_object_eq_ok_iff hname hbucket

theorem ofJson_bucketUnder_eq_ok_iff {key : String} (hkey : key ∈ ["bucket", "bucket_name"]) :
    ofJson (.object [("role", .string r.name), (key, r.bucketOrNull)]) = .ok r ↔ r.name ≠ "" := by
  obtain ⟨name, bucket?⟩ := r
  simp only [List.mem_cons, List.not_mem_nil, or_false] at hkey
  refine ofJson_object_eq_ok_iff ?_ ?_
  · rcases hkey with rfl | rfl <;> rfl
  · rcases hkey with rfl | rfl <;> cases bucket? <;> rfl

theorem ofJson_pair_eq_ok_iff :
    ofJson (.array [.string r.name, r.bucketOrNull]) = .ok r ↔ r.name ≠ "" := by
  rw [ofJson_eq_ok_iff]
  exact ⟨fun h => exists_wireForm_iff.1 ⟨_, h⟩, .pair⟩

theorem ofJson_encode_eq_ok_iff : ofJson (.string r.encode) = .ok r ↔ ∃ s, parse s = .ok r := by
  rw [ofJson, mapError_eq_ok_iff]
  constructor
  · exact fun h => ⟨_, h⟩
  · rintro ⟨s, h⟩
    rwa [encode_of_parse h]

/-- **Structured and positional roles lose nothing.**  The members by which a role is sent determine
it.  They are read as the role iff it has a name, and so are the object with its bucket under either
key and the array of its name and bucket; its string form is read as the role iff some text is.
Hence whatever value is read as the role, what is sent of it is read as the role again. -/
theorem toMembers_lossless :
    (Function.Injective fun r : Role => r.toMembers.get?) ∧ ∀ r : Role,
      (ofJson (.ofEntries r.toMembers) = .ok r ↔ r.name ≠ "") ∧
      (∀ key ∈ ["bucket", "bucket_name"],
        ofJson (.object [("role", .string r.name), (key, r.bucketOrNull)]) = .ok r ↔
          r.name ≠ "") ∧
      (ofJson (.array [.string r.name, r.bucketOrNull]) = .ok r ↔ r.name ≠ "") ∧
      (ofJson (.string r.encode) = .ok r ↔ ∃ s, parse s = .ok r) ∧
      ∀ v, ofJson v = .ok r → ofJson (.ofEntries r.toMembers) = .ok r := by
  refine ⟨get?_toMembers_injective, fun r => ⟨ofJson_toMembers_eq_ok_iff,
    fun key => ofJson_bucketUnder_eq_ok_iff, ofJson_pair_eq_ok_iff, ofJson_encode_eq_ok_iff,
    fun v h => ?_⟩⟩
  have hname : r.name ≠ "" := exists_wireForm_iff.1 ⟨v, ofJson_eq_ok_iff.1 h⟩
  exact ofJson_toMembers_eq_ok_iff.2 hname

/-- A name with brackets and an empty bucket, which is sent because it was written here. -/
theorem toMembers_lossless_sample :
    ofJson (.array [.string "a[b,", .string ""]) = .ok ⟨"a[b,", some ""⟩ ∧
      ofJson (.ofEntries (toMembers ⟨"a[b,", some ""⟩)) = .ok ⟨"a[b,", some ""⟩ ∧
      ofJson (.object [("role", .string "a[b,"), ("bucket_name", .string "")]) =
        .ok ⟨"a[b,", some ""⟩ := by
  obtain ⟨-, hunder, -, -, hagain⟩ := toMembers_lossless.2 ⟨"a[b,", some ""⟩
  have hread : ofJson (.array [.string "a[b,", .string ""]) = .ok ⟨"a[b,", some ""⟩ := rfl
  exact ⟨hread, hagain _ hread, (hunder "bucket_name" (by decide)).2 (by decide)⟩

end AccessControl.Role
