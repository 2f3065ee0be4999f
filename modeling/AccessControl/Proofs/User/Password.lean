import AccessControl.Proofs.User.Sending
/-!
# Where a password goes

A password is sent as the value of one pair.  Two runs that differ only in the passwords cannot be
told apart by their results, by what is logged, or by anything that is sent but the value of that
pair.

* `User.pairsSent_map_redact` : leaving out the password leaves out the value of its pair.
* `Call.run_sameButPassword` : writing a user and changing a password give nothing else away.
-/

namespace AccessControl

/-! ### Sameness -/

/-- Two pairs have the same key, and also the same value unless it is a password. -/
def SamePairButPassword (pair pair' : String × String) : Prop :=
  pair.1 = pair'.1 ∧ (pair.1 ≠ "password" → pair.2 = pair'.2)

/-- Two requests are the same, except for the value of the one pair of the password. -/
structure Request.SameButPassword (request request' : Request) : Prop where
  method : request.method = request'.method
  path : request.path = request'.path
  params : request.params = request'.params
  contentType : request.contentType? = request'.contentType?
  /-- The forms have the same pairs in the same order, no key comes twice. -/
  body : ∃ pairs pairs', request.body?.bind Form.decode? = some pairs ∧
    request'.body?.bind Form.decode? = some pairs' ∧
    List.Forall₂ SamePairButPassword pairs pairs' ∧
    (pairs.map Prod.fst).Nodup ∧ (pairs'.map Prod.fst).Nodup

/-- Two runs have the same result and log, and they send the same but for a password. -/
structure Outcome.SameButPassword {α : Type} (o o' : Outcome α) : Prop where
  result : o.result = o'.result
  log : o.log = o'.log
  requests : List.Forall₂ Request.SameButPassword o.requests o'.requests

/-! ### Histories without their passwords -/

namespace User

/-- A change of a user without the text of its password. -/
def Edit.redact : Edit → Edit
  | password _ => password ""
  | e => e

/-- A pair without the text of a password. -/
def redactPair (pair : String × String) : String × String :=
  if pair.1 = "password" then (pair.1, "") else pair

theorem samePairButPassword_iff {pair pair' : String × String} :
    SamePairButPassword pair pair' ↔ redactPair pair = redactPair pair' := by
  obtain ⟨k, v⟩ := pair
  obtain ⟨k', v'⟩ := pair'
  by_cases hk : k = "password" <;> by_cases hk' : k' = "password" <;>
    simp_all [SamePairButPassword, redactPair, eq_comm]

section Redact

variable (edits : List Edit)

theorem filterMap_map_redact {α : Type} {f : Edit → Option α} (hf : ∀ e : Edit, f e.redact = f e) :
    (edits.map Edit.redact).filterMap f = edits.filterMap f := by
  rw [List.filterMap_map]
  exact List.filterMap_congr fun e _ => hf e

theorem foldl_map_redact {α : Type} {f : α → Edit → α} (hf : ∀ a (e : Edit), f a e.redact = f a e)
    (a : α) : (edits.map Edit.redact).foldl f a = edits.foldl f a := by
  rw [List.foldl_map]
  simp only [hf]

theorem propertiesSet_map_redact : propertiesSet (edits.map Edit.redact) = propertiesSet edits := by
  rw [propertiesSet, filterMap_map_redact edits fun e => by cases e <;> rfl, propertiesSet]

theorem lastDisplayName?_map_redact :
    lastDisplayName? (edits.map Edit.redact) = lastDisplayName? edits := by
  rw [lastDisplayName?, filterMap_map_redact edits fun e => by cases e <;> rfl, lastDisplayName?]

theorem groupsAfter_map_redact : groupsAfter (edits.map Edit.redact) = groupsAfter edits :=
  foldl_map_redact edits (fun _ e => by cases e <;> rfl) ∅

theorem rolesAfter_map_redact : rolesAfter (edits.map Edit.redact) = rolesAfter edits :=
  foldl_map_redact edits (fun _ e => by cases e <;> rfl) ∅

theorem any_isRoles_map_redact :
    (edits.map Edit.redact).any Edit.isRoles = edits.any Edit.isRoles := by
  have hroles : Edit.isRoles ∘ Edit.redact = Edit.isRoles := funext fun e => by cases e <;> rfl
  rw [List.any_map, hroles]

theorem lastPassword?_map_redact :
    lastPassword? (edits.map Edit.redact) = (lastPassword? edits).map fun _ => "" := by
  have hpassword : ∀ e : Edit, e.redact.password? = e.password?.map fun _ => "" := by
    intro e
    cases e <;> rfl
  rw [lastPassword?, lastPassword?, List.filterMap_map, ← List.getLast?_map, List.map_filterMap]
  congr 1
  exact List.filterMap_congr fun e _ => hpassword e

theorem pairOf?_map_redact (p : Property) :
    pairOf? (edits.map Edit.redact) p = (pairOf? edits p).map redactPair := by
  cases p with
  | displayName =>
    rw [pairOf?, pairOf?, lastDisplayName?_map_redact, Option.map_map]
    rfl
  | password =>
    rw [pairOf?, pairOf?, lastPassword?_map_redact, Option.map_map, Option.map_map]
    rfl
  | groups =>
    rw [pairOf?, pairOf?, groupsAfter_map_redact]
    split <;> rfl

theorem rolesPair?_map_redact :
    rolesPair? (edits.map Edit.redact) = (rolesPair? edits).map redactPair := by
  rw [rolesPair?, rolesPair?, any_isRoles_map_redact, rolesAfter_map_redact]
  split <;> rfl

/-- **Leaving out the passwords of a history leaves out the value of their pair.** -/
theorem pairsSent_map_redact :
    pairsSent (edits.map Edit.redact) = (pairsSent edits).map redactPair := by
  rw [pairsSent, pairsSent, propertiesSet_map_redact, rolesPair?_map_redact, List.map_append,
    List.map_filterMap]
  congr 1
  · exact List.filterMap_congr fun p _ => pairOf?_map_redact edits p
  · cases rolesPair? edits <;> rfl

end Redact

theorem nodup_fst_pairsSent (edits : List Edit) : ((pairsSent edits).map Prod.fst).Nodup := by
  rw [← (tracks_applyAll "" edits).formPairs_eq, formPairs, List.map_map]
  exact Entries.nodup _

end User

/-! ### Requests -/

theorem Request.sameButPassword_of_pairs (request : Request) {pairs pairs' : List (String × String)}
    (h : pairs.map User.redactPair = pairs'.map User.redactPair)
    (hnodup : (pairs.map Prod.fst).Nodup) (hnodup' : (pairs'.map Prod.fst).Nodup) :
    SameButPassword { request with body? := some (Form.encode pairs) }
      { request with body? := some (Form.encode pairs') } := by
  refine ⟨rfl, rfl, rfl, rfl, pairs, pairs', ?_, ?_, ?_, hnodup, hnodup'⟩
  · rw [Option.bind_some, Form.decode?_encode]
  · rw [Option.bind_some, Form.decode?_encode]
  · rw [← List.forall₂_eq_eq_eq, List.forall₂_map_left_iff, List.forall₂_map_right_iff] at h
    exact h.imp fun _ _ => User.samePairButPassword_iff.2

theorem User.writeRequest_sameButPassword {edits edits' : List Edit}
    (h : edits.map Edit.redact = edits'.map Edit.redact) (domain : AuthDomain) (name : String)
    (params : Params) :
    (writeRequest domain name edits params).SameButPassword
      (writeRequest domain name edits' params) := by
  have hpairs : (pairsSent edits).map redactPair = (pairsSent edits').map redactPair := by
    rw [← pairsSent_map_redact, h, pairsSent_map_redact]
  exact Request.sameButPassword_of_pairs
    { method := .put, path := Path.user domain name, params }
    hpairs (nodup_fst_pairsSent edits) (nodup_fst_pairsSent edits')

theorem Request.body?_changePassword (p : String) (params : Params) :
    (changePassword p params).body? = some (Form.encode [("password", p)]) := rfl

theorem Request.changePassword_sameButPassword (p p' : String) (params : Params) :
    (changePassword p params).SameButPassword (changePassword p' params) :=
  sameButPassword_of_pairs { method := .post, path := Path.changePassword, params } rfl
    (List.nodup_singleton _) (List.nodup_singleton _)

/-! ### The course of the calls -/

namespace Call

variable {config : Config} {transport : Transport} {options : CallOptions}

/-- The course of a call that only writes: what it sends if its argument passes a check, and what it
makes of the reply. -/
def writeOutcome (check : Except ArgumentFault Unit) (request : Request) (log : List String)
    (reply : Except Error Json) : Outcome Unit :=
  match check with
  | .error fault => ⟨[], [], .error (.invalidArgument fault)⟩
  | .ok () => ⟨[request], log, (reply.mapError Error.classify).map fun _ => ()⟩

theorem writeOutcome_sameButPassword {request request' : Request}
    (h : request.SameButPassword request') (check : Except ArgumentFault Unit) (log : List String)
    (reply : Except Error Json) :
    (writeOutcome check request log reply).SameButPassword
      (writeOutcome check request' log reply) := by
  cases check with
  | error fault => exact ⟨rfl, rfl, .nil⟩
  | ok => exact ⟨rfl, rfl, .cons h .nil⟩

theorem run_changePassword (p : String) :
    let planned := Request.changePassword p (config.callParams options)
    (changePassword p).run config transport options =
      writeOutcome (requireNonEmpty "password" p) planned
        ["changing password of the authenticated user"] (transport planned) := by
  intro planned
  have hrequest : (changePassword p).request config (config.callParams options) =
      requireNonEmpty "password" p >>= fun _ => pure planned := rfl
  rw [run, hrequest]
  cases requireNonEmpty "password" p with
  | error fault => rfl
  | ok =>
    simp only [bind, Except.bind, pure, Except.pure]
    cases transport planned <;> rfl

/-- The check of a user with a name and a history. -/
def checkUser (name : String) (edits : List User.Edit) : Except ArgumentFault Unit := do
  requireNonEmpty "username" name
  Role.validateAll (User.rolesAfter edits).toList

theorem request_upsertUser_eq {name : String} {edits : List User.Edit} {u : User}
    (h : User.Tracks name edits u) (params : Params) (domain? : Option AuthDomain) :
    (upsertUser u domain?).request config params = do
      checkUser name edits
      return User.writeRequest (config.domainOf domain?) name edits params := by
  rw [request, User.body, h.username_eq, h.roles_eq, checkUser]
  simp only [bind_assoc, pure_bind]
  rw [Request.writeUser, formBody, h.formPairs_eq, User.writeRequest]

theorem run_upsertUser {name : String} {edits : List User.Edit} {u : User}
    (h : User.Tracks name edits u) (domain? : Option AuthDomain) :
    let domain := config.domainOf domain?
    let planned := User.writeRequest domain name edits (config.callParams options)
    (upsertUser u domain?).run config transport options =
      writeOutcome (checkUser name edits) planned
        ["upserting user " ++ name ++ " in domain " ++ domain.name] (transport planned) := by
  intro domain planned
  have hrequest : (upsertUser u domain?).request config (config.callParams options) =
      checkUser name edits >>= fun _ => pure planned := request_upsertUser_eq h _ domain?
  have hannounce : (upsertUser u domain?).announcement config =
      ["upserting user " ++ name ++ " in domain " ++ domain.name] := by
    rw [announcement, h.username_eq]
  rw [run, hrequest, hannounce]
  cases checkUser name edits with
  | error fault => rfl
  | ok =>
    simp only [bind, Except.bind, pure, Except.pure]
    cases transport planned <;> rfl

/-- **A password influences only the value of its pair.**  Two runs that write users with histories
that differ only in the passwords, or that change the password to two texts, have the same result
and send the same but for the password; and what changes a password sends nothing but it. -/
theorem run_sameButPassword (config : Config) (options : CallOptions)
    (reply : Except Error Json) :
    (∀ (name : String) (edits edits' : List User.Edit) (domain? : Option AuthDomain),
      edits.map User.Edit.redact = edits'.map User.Edit.redact →
      Outcome.SameButPassword
        ((upsertUser ((User.new name).applyAll edits) domain?).run config (fun _ => reply) options)
        ((upsertUser ((User.new name).applyAll edits') domain?).run config (fun _ => reply)
          options)) ∧
    ∀ p p' : String, p ≠ "" → p' ≠ "" →
      Outcome.SameButPassword
        ((changePassword p).run config (fun _ => reply) options)
        ((changePassword p').run config (fun _ => reply) options) ∧
      ∃ request, ((changePassword p).run config (fun _ => reply) options).requests = [request] ∧
        request.body?.bind Form.decode? = some [("password", p)] := by
  constructor
  · intro name edits edits' domain? hsame
    have hcheck : checkUser name edits = checkUser name edits' := by
      rw [checkUser, checkUser, ← User.rolesAfter_map_redact, hsame, User.rolesAfter_map_redact]
    rw [run_upsertUser (User.tracks_applyAll name edits),
      run_upsertUser (User.tracks_applyAll name edits'), hcheck]
    exact writeOutcome_sameButPassword (User.writeRequest_sameButPassword hsame _ _ _) _ _ _
  · intro p p' hne hne'
    rw [run_changePassword, run_changePassword, requireNonEmpty, requireNonEmpty, if_neg hne,
      if_neg hne']
    refine ⟨writeOutcome_sameButPassword (Request.changePassword_sameButPassword p p' _) _ _ _,
      _, rfl, ?_⟩
    rw [Request.body?_changePassword, Option.bind_some, Form.decode?_encode]

/-- A history with passwords that look like pairs of a form. -/
def sampleEdits : List User.Edit :=
  [.password "p&roles=admin", .displayName "Ann", .roles [⟨"ops", none⟩], .password "a=b+c%2C,d"]

/-- The same history with passwords that are empty or plain. -/
def plainEdits : List User.Edit :=
  [.password "", .displayName "Ann", .roles [⟨"ops", none⟩], .password "secret"]

theorem run_sameButPassword_sample :
    sampleEdits.map User.Edit.redact = plainEdits.map User.Edit.redact ∧
      Outcome.SameButPassword
        ((upsertUser ((User.new "ann").applyAll sampleEdits) none).run {} (fun _ => .ok .null) {})
        ((upsertUser ((User.new "ann").applyAll plainEdits) none).run {} (fun _ => .ok .null) {}) ∧
      Outcome.SameButPassword
        ((changePassword "a=b+c%2C,d").run {} (fun _ => .ok .null) {})
        ((changePassword "secret").run {} (fun _ => .ok .null) {}) := by
  obtain ⟨hwrite, hchange⟩ := run_sameButPassword {} {} (.ok .null)
  have hsame : sampleEdits.map User.Edit.redact = plainEdits.map User.Edit.redact := rfl
  exact ⟨hsame, hwrite "ann" sampleEdits plainEdits none hsame,
    (hchange "a=b+c%2C,d" "secret" (by decide) (by decide)).1⟩

end Call

end AccessControl
