import AccessControl.Proofs.Text.Pieces
import Mathlib.Data.List.DropRight
/-!
# Dot segments

Before a path is sent, the segments `.` and `..` are resolved in it: the first stands for the place
where it is, the second for the place above.  The path is read from the left, and its segments are
moved to the output one by one; a dot segment is left out, and `..` takes the last segment of the
output with it.

* `length_removeDots_le` : a path never grows.
* `removeDots_absolute_append` : segments that are no dot segments stay as they are.
* `length_removeDots_lt` : a path with a dot segment shrinks.
* `removeDotSegments_eq_self_iff` : a path stays as it is iff it has no dot segment.
* `Percent.isDotSegment_encode_iff` : percent-encoding leaves dot segments as they are.
* `removeDotSegments_of_dot`, `removeDotSegments_of_dots` : where a dot segment at the end leads.
-/

namespace AccessControl

/-! ### Resolving -/

/-- The characters without the last segment and the slash in front of it. -/
def dropLastSegment (out : List Char) : List Char := (out.rdropWhile (· ≠ '/')).dropLast

/-- Moves the characters of a path to the output, segment by segment, and resolves dot segments. -/
def removeDots (out : List Char) : List Char → List Char
  -- in front of a relative path
  | '.' :: '.' :: '/' :: rest => removeDots out rest
  | '.' :: '/' :: rest => removeDots out rest
  -- after a slash
  | '/' :: '.' :: '/' :: rest => removeDots out ('/' :: rest)
  | ['/', '.'] => removeDots out ['/']
  | '/' :: '.' :: '.' :: '/' :: rest => removeDots (dropLastSegment out) ('/' :: rest)
  | ['/', '.', '.'] => removeDots (dropLastSegment out) ['/']
  -- alone
  | ['.'] => out
  | ['.', '.'] => out
  | c :: rest => removeDots (out ++ c :: rest.takeWhile (· ≠ '/')) (rest.dropWhile (· ≠ '/'))
  | [] => out
termination_by input => input.length
decreasing_by
  all_goals simp only [List.length_cons, List.length_nil]
  all_goals first | omega | exact Nat.lt_succ_of_le (List.length_dropWhile_le ..)

/-- The path in which the dot segments are resolved. -/
def removeDotSegments (path : String) : String := String.ofList (removeDots [] path.toList)

/-- A segment that stands for the place where it is, or for the place above. -/
def IsDotSegment (s : String) : Prop := s = "." ∨ s = ".."

instance : DecidablePred IsDotSegment := fun s => by unfold IsDotSegment; infer_instance

/-- The characters of a path that starts with a slash and has the given segments. -/
def absolute (segments : List String) : List Char := segments.flatMap fun s => '/' :: s.toList

variable {out input rest : List Char} {s path : String} {segments : List String}

@[simp] theorem absolute_nil : absolute [] = [] := rfl

@[simp] theorem absolute_cons (s : String) (segments : List String) :
    absolute (s :: segments) = '/' :: (s.toList ++ absolute segments) := rfl

@[simp] theorem absolute_append (segments segments' : List String) :
    absolute (segments ++ segments') = absolute segments ++ absolute segments' :=
  List.flatMap_append

/-! ### Single steps -/

theorem length_dropLastSegment_le (out : List Char) :
    (dropLastSegment out).length ≤ out.length := by
  rw [dropLastSegment, List.length_dropLast]
  exact (Nat.sub_le _ _).trans (List.rdropWhile_prefix _ _).length_le

theorem dropLastSegment_append (h : '/' ∉ s.toList) (out : List Char) :
    dropLastSegment (out ++ '/' :: s.toList) = out := by
  have hs : '/' ∉ s.toList.reverse := mt List.mem_reverse.1 h
  have hkept : (out ++ '/' :: s.toList).rdropWhile (· ≠ '/') = out ++ ['/'] := by
    rw [List.rdropWhile, List.reverse_append, List.reverse_cons, List.append_assoc,
      List.singleton_append, dropWhile_ne_append_cons hs, List.reverse_cons, List.reverse_reverse]
  rw [dropLastSegment, hkept, List.dropLast_concat]

/-- A path never grows. -/
theorem length_removeDots_le (out input : List Char) :
    (removeDots out input).length ≤ out.length + input.length := by
  fun_induction removeDots out input with
  | case5 out rest ih =>
    have hout := length_dropLastSegment_le out
    simp only [List.length_cons] at ih ⊢
    omega
  | case6 out ih =>
    have hout := length_dropLastSegment_le out
    simp only [List.length_cons, List.length_nil] at ih ⊢
    omega
  | case9 out c rest _ _ _ _ _ _ _ _ ih =>
    -- the characters of the segment are moved, none of them is lost or comes twice
    have hsplit := congrArg List.length
      (List.takeWhile_append_dropWhile (p := (· ≠ '/')) (l := rest))
    simp only [List.length_append, List.length_cons] at ih hsplit ⊢
    omega
  | _ => simp only [List.length_cons, List.length_nil] at *; omega

theorem removeDots_cons (hdot : rest.takeWhile (· ≠ '/') ≠ ['.'])
    (hdots : rest.takeWhile (· ≠ '/') ≠ ['.', '.']) (out : List Char) :
    removeDots out ('/' :: rest) =
      removeDots (out ++ '/' :: rest.takeWhile (· ≠ '/')) (rest.dropWhile (· ≠ '/')) := by
  rw [removeDots]
  -- in each of the other cases the segment would be a dot segment
  all_goals intros; simp_all

/-! ### Segments -/

/-- What is after a segment: nothing, or a slash and what follows. -/
def StartsSegment (rest : List Char) : Prop := rest = [] ∨ ∃ rest', rest = '/' :: rest'

theorem startsSegment_absolute (segments : List String) : StartsSegment (absolute segments) := by
  cases segments with
  | nil => exact .inl rfl
  | cons s segments => exact .inr ⟨_, rfl⟩

theorem takeWhile_segment (hs : '/' ∉ s.toList) (hrest : StartsSegment rest) :
    (s.toList ++ rest).takeWhile (· ≠ '/') = s.toList ∧
      (s.toList ++ rest).dropWhile (· ≠ '/') = rest := by
  rcases hrest with rfl | ⟨rest', rfl⟩
  · have hpass := passes_of_not_mem hs
    rw [List.append_nil]
    exact ⟨List.takeWhile_eq_self_iff.2 hpass, List.dropWhile_eq_nil_iff.2 hpass⟩
  · exact ⟨takeWhile_ne_append_cons hs rest', dropWhile_ne_append_cons hs rest'⟩

theorem removeDots_segment (hs : '/' ∉ s.toList) (hdot : ¬ IsDotSegment s)
    (hrest : StartsSegment rest) (out : List Char) :
    removeDots out ('/' :: (s.toList ++ rest)) = removeDots (out ++ '/' :: s.toList) rest := by
  obtain ⟨htake, hdrop⟩ := takeWhile_segment hs hrest
  have hne : ∀ t : String, s.toList = t.toList → s = t := fun t => String.ext
  rw [IsDotSegment, not_or] at hdot
  rw [removeDots_cons (fun h => hdot.1 (hne "." (htake.symm.trans h)))
    (fun h => hdot.2 (hne ".." (htake.symm.trans h))), htake, hdrop]

/-- **Segments that are no dot segments stay as they are.** -/
theorem removeDots_absolute_append (hslash : ∀ s ∈ segments, '/' ∉ s.toList)
    (hdot : ∀ s ∈ segments, ¬ IsDotSegment s) (hrest : StartsSegment rest) (out : List Char) :
    removeDots out (absolute segments ++ rest) = removeDots (out ++ absolute segments) rest := by
  induction segments generalizing out with
  | nil => simp
  | cons s segments ih =>
    rw [List.forall_mem_cons] at hslash hdot
    have hstarts : StartsSegment (absolute segments ++ rest) := by
      rcases startsSegment_absolute segments with h | ⟨rest', h⟩
      · rwa [h]
      · exact .inr ⟨rest' ++ rest, by rw [h]; rfl⟩
    calc removeDots out (absolute (s :: segments) ++ rest)
        = removeDots out ('/' :: (s.toList ++ (absolute segments ++ rest))) := by simp
      _ = removeDots (out ++ '/' :: s.toList) (absolute segments ++ rest) :=
          removeDots_segment hslash.1 hdot.1 hstarts out
      _ = removeDots (out ++ '/' :: s.toList ++ absolute segments) rest :=
          ih hslash.2 hdot.2 _
      _ = removeDots (out ++ absolute (s :: segments)) rest := by simp

/-! ### Dot segments -/

/-- What is left of a path after a dot segment: there is always a slash. -/
def afterDot : List String → List Char
  | [] => ['/']
  | s :: segments => absolute (s :: segments)

theorem length_afterDot_le (segments : List String) :
    (afterDot segments).length ≤ (absolute segments).length + 1 := by
  cases segments with
  | nil => exact le_rfl
  | cons s segments => exact Nat.le_succ _

theorem removeDots_dot (out : List Char) (segments : List String) :
    removeDots out (absolute ("." :: segments)) = removeDots out (afterDot segments) := by
  cases segments <;> simp [removeDots, afterDot]

theorem removeDots_dots (out : List Char) (segments : List String) :
    removeDots out (absolute (".." :: segments)) =
      removeDots (dropLastSegment out) (afterDot segments) := by
  cases segments <;> simp [removeDots, afterDot]

theorem length_removeDots_cons_lt (h : IsDotSegment s) (out : List Char)
    (segments : List String) :
    (removeDots out (absolute (s :: segments))).length <
      out.length + (absolute (s :: segments)).length := by
  have hafter := length_afterDot_le segments
  rcases h with rfl | rfl
  · have hle := length_removeDots_le out (afterDot segments)
    have hone : ".".toList.length = 1 := rfl
    rw [removeDots_dot]
    simp only [absolute_cons, List.length_cons, List.length_append]
    omega
  · have hle := length_removeDots_le (dropLastSegment out) (afterDot segments)
    have hout := length_dropLastSegment_le out
    have htwo : "..".toList.length = 2 := rfl
    rw [removeDots_dots]
    simp only [absolute_cons, List.length_cons, List.length_append]
    omega

/-- **A path with a dot segment becomes shorter.** -/
theorem length_removeDots_lt (hslash : ∀ s ∈ segments, '/' ∉ s.toList)
    (hdot : ∃ s ∈ segments, IsDotSegment s) (out : List Char) :
    (removeDots out (absolute segments)).length < out.length + (absolute segments).length := by
  induction segments generalizing out with
  | nil => simp at hdot
  | cons s segments ih =>
    by_cases hs : IsDotSegment s
    · exact length_removeDots_cons_lt hs out segments
    · -- the first segment is moved as it is, so a later one is the dot segment
      rw [List.forall_mem_cons] at hslash
      have hlater : ∃ s ∈ segments, IsDotSegment s := by simpa [hs] using hdot
      have hlt := ih hslash.2 hlater (out ++ '/' :: s.toList)
      rw [absolute_cons, removeDots_segment hslash.1 hs (startsSegment_absolute segments)]
      simp only [List.length_append, List.length_cons] at hlt ⊢
      omega

theorem removeDots_absolute_eq_self_iff (hslash : ∀ s ∈ segments, '/' ∉ s.toList) :
    removeDots [] (absolute segments) = absolute segments ↔
      ∀ s ∈ segments, ¬ IsDotSegment s := by
  constructor
  · intro h s hs hdot
    have hlt := length_removeDots_lt hslash ⟨s, hs, hdot⟩ []
    rw [h] at hlt
    simp at hlt
  · intro hdot
    have happend := removeDots_absolute_append hslash hdot (.inl rfl) []
    simpa [removeDots] using happend

/-! ### Paths -/

theorem toList_eq_absolute (h : pieces '/' path = "" :: segments) :
    path.toList = absolute segments ∧ ∀ s ∈ segments, '/' ∉ s.toList := by
  have hslash : ∀ s ∈ segments, '/' ∉ s.toList := fun s hs =>
    not_mem_of_mem_pieces (h ▸ List.mem_cons_of_mem _ hs)
  refine ⟨?_, hslash⟩
  have hjoin : ∀ segments : List String,
      ['/'].intercalate ([] :: segments.map String.toList) = absolute segments := by
    intro segments
    induction segments with
    | nil => rfl
    | cons s segments ih =>
      cases segments with
      | nil => simp
      | cons t segments => simp_all [List.intercalate_cons_cons]
  have hsplit : path.toList.splitOn '/' = [] :: segments.map String.toList := by
    have hmap := congrArg (List.map String.toList) h
    rw [pieces, List.map_map] at hmap
    simpa [Function.comp_def] using hmap
  rw [← hjoin, ← hsplit, List.intercalate_splitOn]

/-- **A path stays as it is iff it has no dot segment.** -/
theorem removeDotSegments_eq_self_iff (h : pieces '/' path = "" :: segments) :
    removeDotSegments path = path ↔ ∀ s ∈ segments, ¬ IsDotSegment s := by
  obtain ⟨hpath, hslash⟩ := toList_eq_absolute h
  rw [← removeDots_absolute_eq_self_iff hslash, ← hpath, removeDotSegments]
  exact ⟨fun h => by rw [← String.toList_inj, String.toList_ofList] at h; exact h,
    fun h => by rw [h, String.ofList_toList]⟩

/-- A percent-encoded text is a dot segment iff the text is one: dots stand for themselves. -/
theorem Percent.isDotSegment_encode_iff {text : String} :
    IsDotSegment (Percent.encode text) ↔ IsDotSegment text := by
  have hsame : ∀ dots, encode dots = dots → (encode text = dots ↔ text = dots) := by
    intro dots hdots
    have hiff : encode text = encode dots ↔ text = dots := encode_inj
    rwa [hdots] at hiff
  exact or_congr (hsame "." (by decide)) (hsame ".." (by decide))

/-! ### Where dot segments lead -/

theorem removeDots_slash (out : List Char) : removeDots out ['/'] = out ++ ['/'] := by
  simp [removeDots]

theorem removeDotSegments_append {segments' : List String}
    (h : pieces '/' path = "" :: (segments ++ segments'))
    (hdot : ∀ s ∈ segments, ¬ IsDotSegment s) :
    removeDotSegments path =
      String.ofList (removeDots (absolute segments) (absolute segments')) := by
  obtain ⟨hpath, hslash⟩ := toList_eq_absolute h
  have hslash' : ∀ s ∈ segments, '/' ∉ s.toList := fun s hs =>
    hslash s (List.mem_append_left _ hs)
  rw [removeDotSegments, hpath, absolute_append,
    removeDots_absolute_append hslash' hdot (startsSegment_absolute _), List.nil_append]

/-- One dot at the end leads to the place where it is. -/
theorem removeDotSegments_of_dot (h : pieces '/' path = "" :: (segments ++ ["."]))
    (hdot : ∀ s ∈ segments, ¬ IsDotSegment s) :
    removeDotSegments path = String.ofList (absolute segments) ++ "/" := by
  rw [removeDotSegments_append h hdot, removeDots_dot, afterDot, removeDots_slash,
    String.ofList_append]

/-- Two dots at the end lead to the place above. -/
theorem removeDotSegments_of_dots (h : pieces '/' path = "" :: (segments ++ [s, ".."]))
    (hdot : ∀ t ∈ segments ++ [s], ¬ IsDotSegment t) :
    removeDotSegments path = String.ofList (absolute segments) ++ "/" := by
  have hs : '/' ∉ s.toList := (toList_eq_absolute h).2 s (by simp)
  have hdropped : dropLastSegment (absolute (segments ++ [s])) = absolute segments := by
    rw [absolute_append, absolute_cons, absolute_nil, List.append_nil, dropLastSegment_append hs]
  have hsplit : pieces '/' path = "" :: (segments ++ [s] ++ [".."]) := by
    rw [h, List.append_assoc]
    rfl
  rw [removeDotSegments_append hsplit hdot, removeDots_dots, hdropped, afterDot, removeDots_slash,
    String.ofList_append]

end AccessControl
