import AccessControl.Proofs.Text.Pieces
import AccessControl.Proofs.User.Sending
/-!
# Groups on their way to the server

The names of a user's groups travel like a list of roles, as one text with commas between them.  A
role with a comma is refused, but a group's name may have one, and it may be empty.  So the text
splits back into the names iff none of them has a comma, and it is empty for the one group with the
empty name.

* `commaPieces_intercalate_iff` : texts are read back from their list iff they have no commas.
* `CarriesGroups.unique` : names without commas are told apart by what is sent of them.
* `User.upsertUser_carriesGroups` : every request that writes a user carries its groups.
* `User.upsertUser_groups_collide` : names with commas can be sent as other names are.
-/

namespace AccessControl

/-! ### Texts with commas between them -/

theorem not_mem_of_mem_commaPieces {s text : String} (h : s ∈ commaPieces text) :
    ',' ∉ s.toList :=
  not_mem_of_mem_pieces h

variable {texts : List String}

/-- Texts are read back from their list iff none of them has a comma. -/
theorem commaPieces_intercalate_iff (hne : texts ≠ []) :
    commaPieces (",".intercalate texts) = texts ↔ ∀ s ∈ texts, ',' ∉ s.toList := by
  constructor
  · intro h s hs
    rw [← h] at hs
    exact not_mem_of_mem_commaPieces hs
  · exact fun h => commaPieces_intercalate h hne

theorem intercalate_eq_empty_iff (hne : texts ≠ []) :
    ",".intercalate texts = "" ↔ texts = [""] := by
  cases texts with
  | nil => exact absurd rfl hne
  | cons s rest =>
    cases rest with
    | nil => simp
    | cons t rest => simp [String.intercalate_cons_cons]

/-! ### Groups -/

/-- No name of a set has the character that separates names. -/
def CommaFree (names : SortedSet String) : Prop := ∀ name ∈ names, ',' ∉ name.toList

/-- What a request says about the groups of a user. -/
structure CarriesGroups (request : Request) (groups : SortedSet String) : Prop where
  /-- There is no pair of the groups iff there are no groups. -/
  absent_iff : request.values? "groups" = some [] ↔ groups = ∅
  /-- Otherwise there is one.  Its value is empty only for the group with the empty name, and its
  pieces are the names, in increasing order, iff no name has a comma. -/
  present : groups ≠ ∅ → ∃ value, request.values? "groups" = some [value] ∧
    (value = "" ↔ groups.toList = [""]) ∧
    (commaPieces value = groups.toList ↔ CommaFree groups)

theorem carriesGroups_of_values? {request : Request} {groups : SortedSet String}
    (h : request.values? "groups" =
      some (if groups = ∅ then [] else [",".intercalate groups.toList])) :
    CarriesGroups request groups := by
  by_cases hempty : groups = ∅
  · rw [if_pos hempty] at h
    exact ⟨by simp [h, hempty], fun hne => absurd hempty hne⟩
  · rw [if_neg hempty] at h
    have hne : groups.toList ≠ [] := mt SortedSet.toList_eq_nil_iff.1 hempty
    exact ⟨by simp [h, hempty], fun _ => ⟨_, h, intercalate_eq_empty_iff hne,
      commaPieces_intercalate_iff hne⟩⟩

/-- Names without commas are told apart by what is sent of them. -/
theorem CarriesGroups.unique {request request' : Request} {groups groups' : SortedSet String}
    (h : CarriesGroups request groups) (h' : CarriesGroups request' groups')
    (hfree : CommaFree groups) (hfree' : CommaFree groups')
    (hsame : request.values? "groups" = request'.values? "groups") : groups = groups' := by
  have hboth : groups = ∅ ↔ groups' = ∅ := by rw [← h.absent_iff, hsame, h'.absent_iff]
  by_cases hempty : groups = ∅
  · rw [hempty, hboth.1 hempty]
  · have hempty' : groups' ≠ ∅ := mt hboth.2 hempty
    obtain ⟨value, hvalue, -, hpieces⟩ := h.present hempty
    obtain ⟨value', hvalue', -, hpieces'⟩ := h'.present hempty'
    obtain rfl : value = value' := by simpa [hvalue, hvalue'] using hsame
    refine SortedSet.toList_injective ?_
    rw [← hpieces.2 hfree, hpieces'.2 hfree']

namespace User

section Sent

variable {name : String} {edits : List Edit} {u : User}

theorem isSent_groups (names : SortedSet String) :
    isSent "groups" (.array (names.toList.map .string)) = decide (names ≠ ∅) := by
  simp only [isSent, bodyKeys, Ne, ← SortedSet.toList_eq_nil_iff]
  cases names.toList <;> simp [Json.array?]

theorem Tracks.get?_groups_sent (h : Tracks name edits u) :
    (u.toMembers.filter isSent).get? "groups" =
      if u.groups = ∅ then none else some (.array (u.groups.toList.map .string)) := by
  have hmember : u.toMembers.get? "groups" = u.record.raw.get? "groups" := by
    unfold toMembers
    cases u.roles? <;> simp [Entries.get?_insert, h.outgoing_eq]
  have hget : u.record.raw.get? "groups" = _ := h.get?_key .groups
  rw [Entries.get?_filter, hmember, hget, h.groups_eq]
  by_cases hset : .groups ∈ propertiesSet edits
  · simp only [if_pos hset, storedValue, Option.filter, isSent_groups, decide_eq_true_eq, ite_not]
  · simp [hset, groupsAfter_of_not_mem hset]

theorem Tracks.carriesGroups (h : Tracks name edits u) (domain : AuthDomain) (params : Params) :
    CarriesGroups (writeRequest domain name edits params) u.groups := by
  refine carriesGroups_of_values? ?_
  rw [Request.values?, decode?_writeRequest, Option.map_some, ← h.formPairs_eq,
    map_snd_filter_formPairs, h.get?_groups_sent]
  by_cases hempty : u.groups = ∅ <;> simp [hempty, Json.formText_array_string]

end Sent

/-! ### The course of the call -/

variable {config config' : Config} {transport transport' : Transport}
  {options options' : CallOptions} {domain? domain?' : Option AuthDomain} {name name' : String}
  {edits edits' : List Edit} {request request' : Request}

/-- **Every request that writes a user carries its groups**, and two such requests with the same
groups' value have the same groups, unless some name has a comma. -/
theorem upsertUser_carriesGroups
    (h : request ∈ ((Call.upsertUser ((User.new name).applyAll edits) domain?).run config transport
      options).requests)
    (h' : request' ∈ ((Call.upsertUser ((User.new name').applyAll edits') domain?').run config'
      transport' options').requests) :
    let groups := ((User.new name).applyAll edits).groups
    let groups' := ((User.new name').applyAll edits').groups
    CarriesGroups request groups ∧
      (CommaFree groups → CommaFree groups' →
        request.values? "groups" = request'.values? "groups" → groups = groups') := by
  have htracks := tracks_applyAll name edits
  have htracks' := tracks_applyAll name' edits'
  obtain ⟨-, -, rfl⟩ := htracks.request_eq_ok_iff.1 (Call.mem_requests_run.1 h)
  obtain ⟨-, -, rfl⟩ := htracks'.request_eq_ok_iff.1 (Call.mem_requests_run.1 h')
  have hcarries := htracks.carriesGroups (config.domainOf domain?) (config.callParams options)
  have hcarries' :=
    htracks'.carriesGroups (config'.domainOf domain?') (config'.callParams options')
  exact ⟨hcarries, hcarries.unique hcarries'⟩

/-- The requests by which a user is written, where nothing else is set. -/
def plainRequests (u : User) : List Request :=
  ((Call.upsertUser u none).run {} (fun _ => .ok .null) {}).requests

/-- A user in groups whose names have all that a form keeps apart, but no comma. -/
def sampleMember : User := (User.new "ann").applyAll [.groups ["b&groups=c", "a b", "", "é%2C"]]

/-- Another user, who joined the same groups one by one. -/
def sampleJoiner : User :=
  (User.new "bob").applyAll
    [.addGroup "é%2C", .addGroup "", .addGroup "b&groups=c", .addGroup "a b"]

theorem upsertUser_carriesGroups_sample :
    ∃ request ∈ plainRequests sampleMember, ∃ request' ∈ plainRequests sampleJoiner,
      CarriesGroups request sampleMember.groups ∧ CommaFree sampleMember.groups ∧
        request.values? "groups" = some [",a b,b&groups=c,é%2C"] ∧
        request.values? "groups" = request'.values? "groups" ∧
        sampleMember.groups = sampleJoiner.groups := by
  obtain ⟨request, hrequest⟩ : ∃ request, plainRequests sampleMember = [request] := ⟨_, rfl⟩
  obtain ⟨request', hrequest'⟩ : ∃ request, plainRequests sampleJoiner = [request] := ⟨_, rfl⟩
  have hmem : request ∈ plainRequests sampleMember := by simp [hrequest]
  have hmem' : request' ∈ plainRequests sampleJoiner := by simp [hrequest']
  have hvalues : ∀ r ∈ plainRequests sampleMember ++ plainRequests sampleJoiner,
      r.values? "groups" = some [",a b,b&groups=c,é%2C"] := by
    decide +kernel
  have hvalue := hvalues request (List.mem_append_left _ hmem)
  have hvalue' := hvalues request' (List.mem_append_right _ hmem')
  have hfree : CommaFree sampleMember.groups ∧ CommaFree sampleJoiner.groups := by
    unfold CommaFree
    decide +kernel
  obtain ⟨hcarries, hunique⟩ := upsertUser_carriesGroups hmem hmem'
  exact ⟨request, hmem, request', hmem', hcarries, hfree.1, hvalue, hvalue.trans hvalue'.symm,
    hunique hfree.1 hfree.2 (hvalue.trans hvalue'.symm)⟩

/-- **Names with commas can be sent as other names are**, and the one group with the empty name is
sent as an empty value: nothing refuses such names. -/
theorem upsertUser_groups_collide :
    let one := (User.new "ann").applyAll [.groups ["a,b"]]
    let two := (User.new "ann").applyAll [.groups ["a", "b"]]
    let nameless := (User.new "ann").applyAll [.groups [""]]
    one.groups ≠ two.groups ∧ plainRequests one ≠ [] ∧ plainRequests one = plainRequests two ∧
      (plainRequests nameless).map (·.values? "groups") = [some [""]] := by
  decide +kernel

end User

end AccessControl
