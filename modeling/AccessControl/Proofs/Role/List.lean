import AccessControl.Proofs.Role.StringForm
/-!
# Lists of roles in one text

Roles travel as their string forms with commas between them.  A list of roles that can be sent is
read back from its text, because no string form of such a role has a comma, is empty, or reads as
another role.

* `Role.validateAll_eq_ok_iff` : a list is accepted iff each of its roles is.
* `Role.encodeList_eq_empty_iff` : only the empty list has the empty text.
* `Role.readList_encodeList` : the reader of lists gives back the list that was written.
-/

namespace AccessControl

/-- The texts between the commas of a text. -/
def commaPieces (text : String) : List String := (text.toList.splitOn ',').map String.ofList

theorem commaPieces_intercalate {texts : List String} (h : ∀ s ∈ texts, ',' ∉ s.toList)
    (hne : texts ≠ []) : commaPieces (",".intercalate texts) = texts := by
  have hsep : (",".intercalate texts).toList = List.intercalate [','] (texts.map String.toList) :=
    String.toList_intercalate
  have hcomma : ∀ cs ∈ texts.map String.toList, ',' ∉ cs := by
    intro cs hcs
    obtain ⟨s, hs, rfl⟩ := List.mem_map.1 hcs
    exact h s hs
  rw [commaPieces, hsep, List.splitOn_intercalate _ hcomma (by simpa using hne), List.map_map]
  simp [Function.comp_def]

namespace Role

/-! ### Roles that can be sent -/

theorem validate_eq_ok_iff {r : Role} :
    r.validate = .ok () ↔ ',' ∉ r.encode.toList ∧ parse r.encode = .ok r := by
  unfold validate
  split
  · simp_all
  · split <;> simp_all

theorem name_ne_empty_of_parse {s : String} {r : Role} (h : parse s = .ok r) : r.name ≠ "" :=
  (parse_eq_ok_iff.1 h).2.name_ne_empty

theorem encode_ne_empty {r : Role} (h : r.validate = .ok ()) : r.encode ≠ "" := by
  have hname := name_ne_empty_of_parse (validate_eq_ok_iff.1 h).2
  unfold encode
  cases r.bucket <;> simp [hname]

/-- A list of roles is accepted iff each of them can be sent. -/
theorem validateAll_eq_ok_iff {rs : List Role} :
    validateAll rs = .ok () ↔ ∀ r ∈ rs, r.validate = .ok () := by
  induction rs with
  | nil => simp [validateAll]
  | cons r rest ih =>
    rw [validateAll, check_bind_eq_ok_iff, List.forall_mem_cons, ih]

/-! ### Reading a list back -/

variable {rs : List Role}

/-- Only the empty list of roles has the empty text. -/
theorem encodeList_eq_empty_iff (h : ∀ r ∈ rs, r.validate = .ok ()) :
    encodeList rs = "" ↔ rs = [] := by
  constructor
  · intro he
    cases rs with
    | nil => rfl
    | cons r rest =>
      have hr := encode_ne_empty (h r List.mem_cons_self)
      -- one role has its own text, and between two there is a comma
      cases rest with
      | nil => exact absurd (by simpa [encodeList] using he) hr
      | cons r' rest =>
        rw [encodeList, List.map_cons, List.map_cons, String.intercalate_cons_cons] at he
        exact absurd he (by simp [hr])
  · rintro rfl
    rfl

theorem commaPieces_encodeList (h : ∀ r ∈ rs, r.validate = .ok ()) (hne : rs ≠ []) :
    commaPieces (encodeList rs) = rs.map encode := by
  refine commaPieces_intercalate (fun s hs => ?_) (by simpa using hne)
  obtain ⟨r, hr, rfl⟩ := List.mem_map.1 hs
  exact (validate_eq_ok_iff.1 (h r hr)).1

/-- The roles in the text of a list; an empty text has none. -/
def readList (text : String) : Except ArgumentFault (List Role) :=
  if text = "" then .ok [] else (commaPieces text).mapM parse

/-- A list of roles that can be sent is read back from its text. -/
theorem readList_encodeList (h : ∀ r ∈ rs, r.validate = .ok ()) :
    readList (encodeList rs) = .ok rs := by
  by_cases hne : rs = []
  · subst hne
    rfl
  · have hparse : rs.map (parse ∘ encode) = rs.map .ok :=
      List.map_congr_left fun r hr => (validate_eq_ok_iff.1 (h r hr)).2
    rw [readList, if_neg (mt (encodeList_eq_empty_iff h).1 hne), commaPieces_encodeList h hne,
      Decoder.mapM_eq_ok_iff, List.map_map, hparse]

end Role

end AccessControl
