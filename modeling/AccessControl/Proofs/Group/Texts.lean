import AccessControl.Proofs.Call.Sending
import AccessControl.Proofs.Group.Decoding
import Mathlib.Data.List.Induction
/-!
# The texts of decoded groups

A group keeps the members of its payload as they came.  Its texts are looked for when it is asked
for them, and the members that count as set are sent back.  So a value that is no text passes three
stages that take it differently: it is accepted, it is answered as the empty text, and it is sent.

* `get?_applyAll`, `stored?_applyAll` : what is under the keys of the texts after some changes.
* `sendsText` : what is sent of a text, and when nothing is.
* `ofJson_tellsTexts` : what becomes of the texts of a payload.
* `ofJson_misreads` : a number is accepted as a text, and sent back under an empty answer.
-/

namespace AccessControl.Group

/-- The attributes of a group that are texts. -/
def textAttrs : List String := ["description", "ldap_group_reference"]

/-! ### Changes -/

/-- What a change writes: an attribute with its text. -/
def Edit.written? : Edit → Option (String × String)
  | .description text => some ("description", text)
  | .ldapReference reference => some ("ldap_group_reference", reference)
  | .roles _ | .addRole _ => none

/-- The text that a change gives an attribute. -/
def Edit.textOf? (attr : String) (e : Edit) : Option String :=
  e.written?.bind fun p => if p.1 = attr then some p.2 else none

/-- The text that some changes give an attribute: the one that was set last. -/
def lastText? (attr : String) (edits : List Edit) : Option String :=
  (edits.filterMap (Edit.textOf? attr)).getLast?

section Changes

variable {g : Group} {e : Edit} {edits : List Edit} {attr k : String}

theorem lastText?_concat :
    lastText? attr (edits ++ [e]) = (e.textOf? attr).or (lastText? attr edits) := by
  rw [lastText?, List.filterMap_append, List.getLast?_append, lastText?]
  cases h : e.textOf? attr <;> simp [h]

theorem eq_of_writeKey_mem_readKeys : ∀ attr' ∈ textAttrs, ∀ attr ∈ textAttrs,
    groupSchema.writeKey attr' ∈ groupSchema.readKeys attr → attr' = attr := by
  decide

theorem mem_textAttrs_of_written? {text : String} (h : e.written? = some (attr, text)) :
    attr ∈ textAttrs := by
  cases e <;> cases h <;> decide

theorem record_apply : (g.apply e).record =
    match e.written? with
    | some (attr, text) => g.record.set attr (.string text)
    | none => g.record := by
  cases e <;> rfl

theorem get?_apply (hattr : attr ∈ textAttrs) (hk : k ∈ groupSchema.readKeys attr) :
    (g.apply e).record.raw.get? k =
      if k = groupSchema.writeKey attr then
        ((e.textOf? attr).map Json.string).or (g.record.raw.get? k)
      else g.record.raw.get? k := by
  rw [record_apply]
  cases h : e.written? with
  | none => simp [Edit.textOf?, h]
  | some p =>
    obtain ⟨attr', text⟩ := p
    have hattr' := mem_textAttrs_of_written? h
    simp only [Record.set, Entries.get?_insert]
    by_cases heq : attr' = attr
    · subst heq
      simp [Edit.textOf?, h]
    · have hne : k ≠ groupSchema.writeKey attr' := by
        rintro rfl
        exact heq (eq_of_writeKey_mem_readKeys _ hattr' _ hattr hk)
      simp [Edit.textOf?, h, hne, heq]

/-- After some changes the last text is where the attribute is written, and nothing is new
elsewhere. -/
theorem get?_applyAll (hattr : attr ∈ textAttrs) (hk : k ∈ groupSchema.readKeys attr) :
    (g.applyAll edits).record.raw.get? k =
      if k = groupSchema.writeKey attr then
        ((lastText? attr edits).map Json.string).or (g.record.raw.get? k)
      else g.record.raw.get? k := by
  induction edits using List.reverseRecOn with
  | nil => simp [applyAll, lastText?]
  | append_singleton edits e ih =>
    have happly : g.applyAll (edits ++ [e]) = (g.applyAll edits).apply e := by
      rw [applyAll, List.foldl_concat, applyAll]
    rw [happly, get?_apply hattr hk, ih, lastText?_concat]
    split
    · cases e.textOf? attr <;> rfl
    · rfl

/-- After some changes the last text is found, else what was there before. -/
theorem stored?_applyAll (hattr : attr ∈ textAttrs) :
    (g.applyAll edits).record.stored? attr =
      ((lastText? attr edits).map Json.string).or (g.record.stored? attr) := by
  cases hlast : lastText? attr edits with
  | none =>
    rw [Option.map_none, Option.none_or]
    refine Record.stored?_eq_of_present?_eq fun k hk => ?_
    rw [Record.present?, Record.present?, get?_applyAll hattr hk, hlast, Option.map_none,
      Option.none_or, ite_self]
  | some text =>
    obtain ⟨rest, hkeys⟩ := groupSchema.exists_readKeys_eq_cons attr
    have hget : (g.applyAll edits).record.raw.get? (groupSchema.writeKey attr) =
        some (.string text) := by
      rw [get?_applyAll hattr (hkeys ▸ List.mem_cons_self), if_pos rfl, hlast]
      rfl
    rw [Record.stored?_of_get?_writeKey hget nofun, Option.map_some, Option.some_or]

end Changes

/-! ### Answering and sending -/

/-- The empty text is where an attribute is written, and a value that counts as set is still under
another of its keys. -/
def Shadowed (m : Entries Json) (attr : String) : Prop :=
  m.get? (groupSchema.writeKey attr) = some (.string "") ∧
    ∃ k ∈ groupSchema.readKeys attr, ∃ v, m.get? k = some v ∧ v.truthy

/-- No value under the keys of an attribute counts as set. -/
def Unset (m : Entries Json) (attr : String) : Prop :=
  ∀ k ∈ groupSchema.readKeys attr, ∀ v, m.get? k = some v → ¬ v.truthy

/-- What a request that writes a group says about one of its texts. -/
structure SendsText (g : Group) (attr : String) (request : Request) : Prop where
  /-- Every key has the value that is held under it, if that counts as set. -/
  values : ∀ k ∈ groupSchema.readKeys attr, request.values? k =
    some (((g.record.raw.get? k).filter Json.truthy).map Json.formText).toList
  /-- The value of the attribute is sent if it counts as set, whether it is a text or not. -/
  sent : ∀ v, g.record.stored? attr = some v → v.truthy →
    ∃ k ∈ groupSchema.readKeys attr, request.values? k = some [v.formText]
  /-- If the value is a text or missing, nothing is sent iff the empty text is answered, unless that
  text has another value behind it. -/
  empty_iff : (∀ v, g.record.stored? attr = some v → v.string? ≠ none) →
    ((g.text attr = "" ↔ ∀ k ∈ groupSchema.readKeys attr, request.values? k = some []) ↔
      ¬ Shadowed g.record.raw attr)

section Sending

variable {g : Group} {attr k : String} {m : Entries Json} {v : Json}

theorem truthy_string {text : String} : (Json.string text).truthy = true ↔ text ≠ "" := by
  simp [Json.truthy]

theorem text_eq (hattr : attr ∈ textAttrs) :
    g.text attr = ((g.record.stored? attr).bind Json.string?).getD "" := by
  have hfallback : groupSchema.fallback? attr = some (.string "") := by
    simp only [textAttrs, List.mem_cons, List.not_mem_nil, or_false] at hattr
    rcases hattr with rfl | rfl <;> rfl
  rw [text, Record.get?, hfallback]
  cases g.record.stored? attr <;> rfl

theorem stored?_cases (hattr : attr ∈ textAttrs)
    (htext : ∀ v, g.record.stored? attr = some v → v.string? ≠ none) :
    g.record.stored? attr = none ∧ g.text attr = "" ∨
      g.record.stored? attr = some (.string (g.text attr)) := by
  rw [text_eq hattr]
  cases hfound : g.record.stored? attr with
  | none => exact .inl ⟨rfl, rfl⟩
  | some v =>
    cases v with
    | string s => exact .inr rfl
    | _ => exact absurd rfl (htext _ hfound)

theorem exists_readKeys_eq : ∀ attr ∈ textAttrs, ∃ rest,
    groupSchema.readKeys attr = groupSchema.writeKey attr :: rest ∧
      ∀ k ∈ rest, ∀ k' ∈ rest, k = k' := by
  simp only [textAttrs, List.forall_mem_cons]
  exact ⟨⟨[], rfl, nofun⟩, ⟨["ldap_group_reference"], rfl, by simp⟩, nofun⟩

theorem shadowed_of_truthy (hattr : attr ∈ textAttrs) (hk : k ∈ groupSchema.readKeys attr)
    (hget : g.record.raw.get? k = some v) (hv : v.truthy)
    (hfound : g.record.stored? attr = some (.string "")) : Shadowed g.record.raw attr := by
  refine ⟨?_, k, hk, v, hget, hv⟩
  obtain ⟨rest, hkeys, hone⟩ := exists_readKeys_eq attr hattr
  by_cases habsent : Absent g.record.raw (groupSchema.writeKey attr)
  · -- the empty text is under the other key, so there is nowhere left for the value
    exfalso
    rw [Record.stored?_eq_firstPresent?, hkeys, firstPresent?_cons_of_absent habsent] at hfound
    obtain ⟨-, k', hk', hget'⟩ := firstPresent?_eq_some hfound
    rw [hkeys, List.mem_cons] at hk
    rcases hk with rfl | hk
    · rcases habsent with h | h <;> rw [h] at hget <;> cases hget
      cases hv
    · rw [hone k hk k' hk', hget'] at hget
      cases hget
      cases hv
  · rw [Absent, not_or] at habsent
    obtain ⟨u, hu⟩ := Option.ne_none_iff_exists'.1 habsent.1
    have hnull : u ≠ .null := fun h => habsent.2 (hu.trans (congrArg some h))
    rw [Record.stored?_of_get?_writeKey hu hnull] at hfound
    rw [hu, hfound]

/-- The empty text is answered for what is behind it. -/
theorem text_eq_empty_of_shadowed (hattr : attr ∈ textAttrs)
    (h : Shadowed g.record.raw attr) : g.text attr = "" := by
  rw [text_eq hattr, Record.stored?_of_get?_writeKey h.1 nofun]
  rfl

theorem text_eq_empty_of_unset (hattr : attr ∈ textAttrs)
    (htext : ∀ v, g.record.stored? attr = some v → v.string? ≠ none)
    (h : Unset g.record.raw attr) : g.text attr = "" := by
  obtain ⟨-, hempty⟩ | hfound := stored?_cases hattr htext
  · exact hempty
  · by_contra hne
    obtain ⟨-, k, hk, hget⟩ := firstPresent?_eq_some hfound
    exact h k hk _ hget (truthy_string.2 hne)

theorem unset_of_text_eq_empty (hattr : attr ∈ textAttrs)
    (htext : ∀ v, g.record.stored? attr = some v → v.string? ≠ none)
    (hshadowed : ¬ Shadowed g.record.raw attr) (hempty : g.text attr = "") :
    Unset g.record.raw attr := by
  intro k hk v hget hv
  obtain ⟨hnone, -⟩ | hfound := stored?_cases hattr htext
  · -- the value would have been found
    rw [Record.stored?_eq_firstPresent?, firstPresent?, List.findSome?_eq_none_iff] at hnone
    have hnull := hnone k hk
    rw [hget, Option.filter_eq_none_iff] at hnull
    cases v <;> simp_all [Json.isNull, Json.truthy]
  · rw [hempty] at hfound
    exact hshadowed (shadowed_of_truthy hattr hk hget hv hfound)

/-- **What is sent of a text, and when nothing is.** -/
theorem sendsText {request : Request} (hattr : attr ∈ textAttrs)
    (hbody : request.body? = some (formBody g.toMembers)) : SendsText g attr request := by
  have hroles : ∀ attr ∈ textAttrs, "roles" ∉ groupSchema.readKeys attr := by decide
  have hne : ∀ k ∈ groupSchema.readKeys attr, k ≠ "roles" := fun k hk h =>
    hroles attr hattr (h ▸ hk)
  refine ⟨fun k hk => values?_of_body? hbody (hne k hk), fun v hv htruthy => ?_,
    fun htext => ?_⟩
  · obtain ⟨-, k, hk, hget⟩ := firstPresent?_eq_some hv
    refine ⟨k, hk, ?_⟩
    rw [values?_of_body? hbody (hne k hk), hget, Option.filter_some_pos htruthy]
    rfl
  · have hnothing : (∀ k ∈ groupSchema.readKeys attr, request.values? k = some []) ↔
        Unset g.record.raw attr :=
      forall₂_congr fun k hk => values?_eq_nil_iff hbody (hne k hk)
    rw [hnothing]
    constructor
    · intro h hshadowed
      have hunset := h.1 (text_eq_empty_of_shadowed hattr hshadowed)
      obtain ⟨-, k, hk, v, hget, hv⟩ := hshadowed
      exact hunset k hk v hget hv
    · exact fun hshadowed => ⟨unset_of_text_eq_empty hattr htext hshadowed,
        text_eq_empty_of_unset hattr htext⟩

end Sending

/-! ### Decoding -/

/-- The payload gives an attribute a value that is no text, and no change has given it one since. -/
def Misread (payload : Entries Json) (edits : List Edit) (attr : String) : Prop :=
  lastText? attr edits = none ∧
    ∃ v, firstPresent? payload (groupSchema.readKeys attr) = some v ∧ v.string? = none

/-- What a group that was decoded from a payload and then changed tells about one of its texts. -/
structure TellsText (payload : Entries Json) (edits : List Edit) (attr : String) (g : Group) :
    Prop where
  /-- The text that was set last is where the attribute is written; everything else is as it
  came. -/
  held : ∀ k ∈ groupSchema.readKeys attr, g.record.raw.get? k =
    if k = groupSchema.writeKey attr then
      ((lastText? attr edits).map Json.string).or (payload.get? k)
    else payload.get? k
  /-- The text that was set last is found, else what the payload gives. -/
  found : g.record.stored? attr =
    ((lastText? attr edits).map Json.string).or
      (firstPresent? payload (groupSchema.readKeys attr))
  /-- An attribute that is not misread is missing and answered as empty, or it is the text that is
  answered. -/
  faithful : ¬ Misread payload edits attr →
    g.record.stored? attr = none ∧ g.text attr = "" ∨
      g.record.stored? attr = some (.string (g.text attr))
  /-- One that is misread is answered as empty, although there is a value. -/
  misread : Misread payload edits attr →
    g.text attr = "" ∧ ∃ v, g.record.stored? attr = some v ∧ v.string? = none

/-- **The history of a text attribute decides what is told of it.** -/
theorem tellsText {payload : Entries Json} {g : Group} {attr : String} (hattr : attr ∈ textAttrs)
    (hraw : ∀ k ∈ groupSchema.readKeys attr, g.record.raw.get? k = payload.get? k)
    (edits : List Edit) : TellsText payload edits attr (g.applyAll edits) := by
  have hstored : g.record.stored? attr = firstPresent? payload (groupSchema.readKeys attr) := by
    have hsame : ∀ k ∈ groupSchema.readKeys attr,
        g.record.present? k = (Record.received payload : Record groupSchema).present? k :=
      fun k hk => congrArg (Option.filter _) (hraw k hk)
    exact Record.stored?_eq_of_present?_eq hsame
  have hfound : (g.applyAll edits).record.stored? attr =
      ((lastText? attr edits).map Json.string).or
        (firstPresent? payload (groupSchema.readKeys attr)) := by
    rw [stored?_applyAll hattr, hstored]
  refine ⟨fun k hk => ?_, hfound, fun hmisread => ?_, ?_⟩
  · rw [get?_applyAll hattr hk, hraw k hk]
  · refine stored?_cases hattr fun v hv htext => hmisread ?_
    rw [hfound] at hv
    cases hlast : lastText? attr edits with
    | none =>
      rw [hlast] at hv
      exact ⟨hlast, v, hv, htext⟩
    | some text =>
      rw [hlast] at hv
      cases hv
      cases htext
  · rintro ⟨hlast, v, hv, htext⟩
    rw [hlast, hv] at hfound
    refine ⟨?_, v, hfound, htext⟩
    rw [text_eq hattr, hfound, Option.map_none, Option.none_or, Option.bind_some, htext]
    rfl

/-- **What becomes of the texts of a payload.**  The payload would be decoded with anything else
under the keys of its texts.  After any changes, a text attribute is missing or the text that is
answered, unless it is misread: then it is answered as empty.  What is found is sent if it counts
as set; so nothing is sent iff the empty text is answered, unless the attribute is misread or the
empty text has another value behind it. -/
theorem ofJson_tellsTexts {v : Json} {g : Group} (h : ofJson v = .ok g) (edits : List Edit)
    (config : Config) (transport : Transport) (options : CallOptions) :
    ∃ members, v = .object members ∧
      (∀ members', (∀ k, k ∉ textAttrs.flatMap groupSchema.readKeys →
          (Json.entries members').get? k = (Json.entries members).get? k) →
        ∃ g', ofJson (.object members') = .ok g' ∧ g'.name = g.name ∧ g'.roles = g.roles) ∧
      ∀ attr ∈ textAttrs,
        TellsText (Json.entries members) edits attr (g.applyAll edits) ∧
          ∀ request ∈ ((Call.upsertGroup (g.applyAll edits)).run config transport
            options).requests, SendsText (g.applyAll edits) attr request := by
  obtain ⟨members, rfl, hraw⟩ := exists_members_of_ofJson h
  refine ⟨members, rfl, fun members' hsame => ?_,
    fun attr hattr => ⟨?_, fun request hrequest => ?_⟩⟩
  · exact exists_ofJson_of_get?_eq h (hsame _ (by decide)) (hsame _ (by decide))
  · have hkeys : ∀ attr ∈ textAttrs, ∀ k ∈ groupSchema.readKeys attr, k ≠ "id" ∧ k ≠ "roles" := by
      decide
    refine tellsText hattr (fun k hk => ?_) edits
    obtain ⟨hid, hroles⟩ := hkeys attr hattr k hk
    exact hraw k hid hroles
  · obtain ⟨-, -, rfl⟩ := Call.request_upsertGroup_eq_ok_iff.1 (Call.mem_requests_run.1 hrequest)
    exact sendsText hattr rfl

/-- A payload with a text, and with a truth value for another. -/
def sampleTexts : List (String × Json) :=
  [("id", .string "staff"), ("description", .string "People"), ("ldap_group_ref", .bool true),
    ("ldap_group_reference", .string "cn=staff")]

/-- The group of the payload. -/
def sampleStaff : Group where
  name := "staff"
  record := .received (Json.entries [("description", .string "People"),
    ("ldap_group_ref", .bool true), ("ldap_group_reference", .string "cn=staff")])
  roles := ∅

/-- The requests by which a group is written, where nothing else is set. -/
def plainRequests (g : Group) : List Request :=
  ((Call.upsertGroup g).run {} (fun _ => .ok .null) {}).requests

theorem ofJson_tellsTexts_sample :
    ofJson (.object sampleTexts) = .ok sampleStaff ∧
      sampleStaff.record.stored? "description" = some (.string sampleStaff.description) ∧
      sampleStaff.ldapReference = "" ∧
      ∀ request ∈ plainRequests sampleStaff, request.values? "ldap_group_ref" = some ["true"] := by
  have h : ofJson (.object sampleTexts) = .ok sampleStaff := rfl
  obtain ⟨members, hmembers, -, htells⟩ := ofJson_tellsTexts h [] {} (fun _ => .ok .null) {}
  cases hmembers
  obtain ⟨hdescription, -⟩ := htells "description" (by decide)
  obtain ⟨hldap, hsends⟩ := htells "ldap_group_reference" (by decide)
  refine ⟨h, ?_, (hldap.misread ⟨rfl, _, rfl, rfl⟩).1, fun request hrequest => ?_⟩
  · have hread : ¬ Misread (Json.entries sampleTexts) [] "description" := by
      rintro ⟨-, v, hv, hshape⟩
      cases hv
      cases hshape
    obtain ⟨hnone, -⟩ | hfound := hdescription.faithful hread
    · cases hnone
    · exact hfound
  · exact (hsends request hrequest).values "ldap_group_ref" (by decide)

/-- **A number is accepted as a text**: it is answered as the empty text, and sent back as it came.
So is a reference under its second key, after the empty text was set in front of it. -/
theorem ofJson_misreads :
    ∃ g g',
      ofJson (.object [("id", .string "g"), ("description", .number (.int ⟨5, by decide⟩))]) =
        .ok g ∧
      g.record.stored? "description" = some (.number (.int ⟨5, by decide⟩)) ∧
      g.description = "" ∧
      (plainRequests g).map (·.values? "description") = [some ["5"]] ∧
      ofJson (.object [("id", .string "g"), ("ldap_group_reference", .string "cn=x")]) = .ok g' ∧
      (g'.apply (.ldapReference "")).ldapReference = "" ∧
      (plainRequests (g'.apply (.ldapReference ""))).map (·.values? "ldap_group_reference") =
        [some ["cn=x"]] := by
  refine ⟨⟨"g", .received (Json.entries [("description", .number (.int ⟨5, by decide⟩))]), ∅⟩,
    ⟨"g", .received (Json.entries [("ldap_group_reference", .string "cn=x")]), ∅⟩,
    rfl, rfl, rfl, ?_, rfl, rfl, ?_⟩
  · decide +kernel
  · decide +kernel

end AccessControl.Group
