import Mathlib.Data.List.Flatten
import Leasehold.Proofs.Text.Percent
import Leasehold.Url.Reader

/-! What the path of a URL stands for, and what becomes of a path to which segments are added. Segments
that are no dot segments are added as they are; each dot segment makes the path stand for less. -/
namespace Leasehold.Url

open Text (percentDecode percentEncode bytes)

/-! ## Meaning -/

/-- The bytes that the segments of a path stand for, with the slashes in front of them. -/
def meaning (segments : List (List Char)) : List UInt8 :=
  segments.flatMap fun segment => 47 :: percentDecode segment

@[simp] theorem meaning_append (front rest : List (List Char)) :
    meaning (front ++ rest) = meaning front ++ meaning rest := List.flatMap_append

theorem meaning_cons (segment : List Char) (rest : List (List Char)) :
    meaning (segment :: rest) = 47 :: (percentDecode segment ++ meaning rest) := rfl

theorem percentDecode_segments (front : List Char) (segments : List (List Char)) :
    percentDecode (front ++ segments.flatMap ('/' :: ·)) = percentDecode front ++ meaning segments := by
  induction segments generalizing front with
  | nil => simp [meaning]
  | cons segment rest ih =>
    rw [List.flatMap_cons, List.cons_append, Text.percentDecode_slash, ih, meaning_cons]

/-- Decoding the text of a path gives what its segments stand for. -/
theorem percentDecode_path (segments : List (List Char)) :
    percentDecode (Path.segments segments).chars = meaning segments := by
  show percentDecode ([] ++ segments.flatMap ('/' :: ·)) = _
  rw [percentDecode_segments, Text.percentDecode_nil, List.nil_append]

/-- Control characters are neither percent signs nor digits. -/
theorem isControl_spares {c : Char} (control : isControl c = true) :
    c ≠ '%' ∧ Text.hexValue? c = none := by
  simp only [isControl, Bool.or_eq_true, decide_eq_true_eq] at control
  refine ⟨?_, ?_⟩
  · rintro rfl
    revert control
    decide
  · have digits : ¬ ('0' ≤ c ∧ c ≤ '9') ∧ ¬ ('a' ≤ c ∧ c ≤ 'f') ∧ ¬ ('A' ≤ c ∧ c ≤ 'F') := by
      simp only [Char.le_def, UInt32.le_iff_toNat_le]
      change c.val.toNat < 32 ∨ 127 ≤ c.val.toNat at control
      have marks : '0'.val.toNat = 48 ∧ '9'.val.toNat = 57 ∧ 'a'.val.toNat = 97 ∧
        'f'.val.toNat = 102 ∧ 'A'.val.toNat = 65 ∧ 'F'.val.toNat = 70 := by decide
      omega
    rw [Text.hexValue?, if_neg digits.1, if_neg digits.2.1, if_neg digits.2.2]

theorem encodedInPath_spares {c : Char} (written : encodedInPath c = true) :
    c ≠ '%' ∧ Text.hexValue? c = none := by
  rcases Bool.or_eq_true_iff.mp written with control | mark
  · exact isControl_spares control
  · have marks : " \"<>`#?\x7b\x7d".toList.all (fun c => c ≠ '%' ∧ Text.hexValue? c = none) = true := by
      decide
    exact of_decide_eq_true (List.all_eq_true.mp marks c (List.contains_iff_mem.mp mark))

theorem percentDecode_encoded (segment : List Char) :
    percentDecode (percentEncode encodedInPath segment) = percentDecode segment :=
  Text.percentDecode_percentEncode (fun _ => encodedInPath_spares) segment

/-! ## Walks -/

section
variable {walk : Walk} {segment : List Char} {segments : List (List Char)}

/-- Whether a segment goes nowhere else. -/
def isPlain (segment : List Char) : Bool := !isDot segment && !isDoubleDot segment

theorem meaning_add (walk : Walk) (segment : List Char) :
    meaning (walk.add segment).path = meaning walk.path ++ 47 :: percentDecode segment := by
  rw [Walk.add, meaning_append, meaning_cons, percentDecode_encoded]
  simp [meaning]

theorem enter_eq (walk : Walk) (segment : List Char) :
    walk.enter false segment = walk.add (withoutGaps segment) := by
  simp [Walk.enter]

theorem goUp_sublist (path : List (List Char)) : (goUp path).Sublist path := by
  unfold goUp
  split
  · split
    · exact List.Sublist.refl _
    · exact List.dropLast_sublist _
  · exact List.nil_sublist _

theorem length_meaning_sublist {fewer path : List (List Char)} (sublist : fewer.Sublist path) :
    (meaning fewer).length ≤ (meaning path).length :=
  (sublist.flatMap _).length_le

theorem through_plain (plain : isPlain (withoutGaps segment) = true) (rest : List (List Char)) :
    walk.through false (segment :: rest) = (walk.add (withoutGaps segment)).through false rest := by
  simp only [isPlain, Bool.and_eq_true, Bool.not_eq_true'] at plain
  simp [Walk.through, plain.1, plain.2, enter_eq]

theorem through_slash (walk : Walk) : walk.through false [[]] = walk.add [] := through_plain rfl []

/-- A dot segment leads to a path that stands for no more than before. A path that ends with it ends
with a slash. -/
theorem through_dot (walk : Walk) (dot : isPlain (withoutGaps segment) = false) :
    ∃ reached : Walk, (meaning reached.path).length ≤ (meaning walk.path).length ∧
      ∀ rest, walk.through false (segment :: rest) =
        reached.through false (if rest.isEmpty then [[]] else rest) := by
  cases up : isDoubleDot (withoutGaps segment) with
  | true =>
    refine ⟨{ walk with path := goUp walk.path }, length_meaning_sublist (goUp_sublist _),
      fun rest => ?_⟩
    simp only [Walk.through, up, if_true]
    split
    · rw [through_slash]
    · rfl
  | false =>
    have stays : isDot (withoutGaps segment) = true := by simpa [isPlain, up] using dot
    refine ⟨walk, Nat.le_refl _, fun rest => ?_⟩
    simp only [Walk.through, up, stays, if_true, Bool.false_eq_true, if_false]
    split
    · rw [through_slash]
    · rfl

theorem pos_of_dot (dot : isPlain segment = false) : 0 < (percentDecode segment).length := by
  cases segment with
  | nil => cases dot
  | cons c rest => exact Text.percentDecode_pos c rest

/-- A path stands for no more than what its segments stand for. -/
theorem length_through_le (walk : Walk) (tight : ∀ segment ∈ segments, withoutGaps segment = segment) :
    (meaning (walk.through false segments).path).length ≤
      (meaning walk.path).length + (meaning segments).length := by
  induction segments generalizing walk with
  | nil => exact Nat.le_add_right _ _
  | cons segment rest ih =>
    obtain ⟨own, others⟩ := List.forall_mem_cons.mp tight
    cases plain : isPlain (withoutGaps segment) with
    | true =>
      have bound := ih (walk.add segment) others
      rw [meaning_add, List.length_append] at bound
      rw [through_plain plain, own, meaning_cons]
      simp only [List.length_cons, List.length_append] at bound ⊢
      omega
    | false =>
      obtain ⟨reached, fewer, same⟩ := through_dot walk plain
      rw [same, meaning_cons]
      simp only [List.length_cons, List.length_append]
      split
      · rw [through_slash, meaning_add, List.length_append]
        simp only [Text.percentDecode_nil, List.length_cons, List.length_nil]
        omega
      · have bound := ih reached others
        omega

/-- A path with dot segments stands for less than what its segments stand for. -/
theorem length_through_lt (walk : Walk) (tight : ∀ segment ∈ segments, withoutGaps segment = segment)
    (dotted : ∃ segment ∈ segments, isPlain segment = false) :
    (meaning (walk.through false segments).path).length <
      (meaning walk.path).length + (meaning segments).length := by
  induction segments generalizing walk with
  | nil => simp at dotted
  | cons segment rest ih =>
    obtain ⟨own, others⟩ := List.forall_mem_cons.mp tight
    cases plain : isPlain (withoutGaps segment) with
    | true =>
      have later : ∃ segment ∈ rest, isPlain segment = false := by
        obtain ⟨dot, member, found⟩ := dotted
        rcases List.mem_cons.mp member with rfl | member
        · rw [own, found] at plain; cases plain
        · exact ⟨dot, member, found⟩
      have bound := ih (walk.add segment) others later
      rw [meaning_add, List.length_append] at bound
      rw [through_plain plain, own, meaning_cons]
      simp only [List.length_cons, List.length_append] at bound ⊢
      omega
    | false =>
      obtain ⟨reached, fewer, same⟩ := through_dot walk plain
      have positive := pos_of_dot (own ▸ plain)
      rw [same, meaning_cons]
      simp only [List.length_cons, List.length_append]
      split
      · rw [through_slash, meaning_add, List.length_append]
        simp only [Text.percentDecode_nil, List.length_cons, List.length_nil]
        omega
      · have bound := length_through_le reached others
        omega

/-- Without dot segments, a path stands for what its segments stand for. -/
theorem meaning_through (walk : Walk) (tight : ∀ segment ∈ segments, withoutGaps segment = segment)
    (plain : ∀ segment ∈ segments, isPlain segment = true) :
    meaning (walk.through false segments).path = meaning walk.path ++ meaning segments := by
  induction segments generalizing walk with
  | nil => simp [Walk.through, meaning]
  | cons segment rest ih =>
    obtain ⟨own, others⟩ := List.forall_mem_cons.mp tight
    obtain ⟨first, later⟩ := List.forall_mem_cons.mp plain
    rw [through_plain (own.symm ▸ first), own, ih _ others later, meaning_add, meaning_cons]
    simp

end

/-! ## Paths that go on -/

section
variable {last : List Char}

/-- A path that ends with a dot segment ends with a slash. -/
theorem through_last_dot (walk : Walk) (front : List (List Char))
    (dot : isPlain (withoutGaps last) = false) :
    (walk.through false (front ++ [last])).path.getLast? = some [] := by
  have slash (walk : Walk) : (walk.add []).path.getLast? = some [] := by
    rw [Walk.add, List.getLast?_append]
    rfl
  induction front generalizing walk with
  | nil =>
    obtain ⟨reached, _, same⟩ := through_dot walk dot
    rw [List.nil_append, same, List.isEmpty_nil, if_pos rfl, through_slash, slash]
  | cons segment front ih =>
    cases plain : isPlain (withoutGaps segment) with
    | true => rw [List.cons_append, through_plain plain, ih]
    | false =>
      obtain ⟨reached, _, same⟩ := through_dot walk plain
      rw [List.cons_append, same, if_neg (by simp), ih]

/-- Segments after one that is no dot segment are gone through like others. -/
theorem through_append (walk : Walk) (front rest : List (List Char))
    (plain : isPlain (withoutGaps last) = true) :
    walk.through false (front ++ [last] ++ rest) =
      (walk.through false (front ++ [last])).through false rest := by
  induction front generalizing walk with
  | nil =>
    show walk.through false (last :: rest) = (walk.through false [last]).through false rest
    rw [through_plain plain, through_plain plain, Walk.through]
  | cons segment front ih =>
    cases other : isPlain (withoutGaps segment) with
    | true =>
      rw [List.cons_append, List.cons_append, through_plain other, through_plain other, ih]
    | false =>
      obtain ⟨reached, _, same⟩ := through_dot walk other
      rw [List.cons_append, List.cons_append, same, same, if_neg (by simp), if_neg (by simp), ih]

theorem getLast?_slash {segments : List (List Char)} (slash : segments.getLast? = some []) :
    (Path.segments segments).chars.getLast? = some '/' := by
  obtain ⟨front, rfl⟩ := List.getLast?_eq_some_iff.mp slash
  simp [Path.chars]

/-- Going through a text that does not end with a slash goes on behind a slash. -/
theorem through_splitPath (inner rest : List Char)
    (solid : (Path.segments (Walk.through false {} (splitPath true inner)).path).chars.getLast? ≠
      some '/') :
    Walk.through false {} (splitPath true (inner ++ '/' :: rest)) =
      (Walk.through false {} (splitPath true inner)).through false (splitPath true rest) := by
  have parts : splitPath true (inner ++ '/' :: rest) =
      splitPath true inner ++ splitPath true rest := by
    simp [splitPath, Text.splitAt_append]
  obtain ⟨front, last, same⟩ :=
    (List.eq_nil_or_concat (splitPath true inner)).resolve_left (Text.splitAt_ne_nil _ _)
  rw [List.concat_eq_append] at same
  rw [same] at solid
  rw [parts, same]
  refine through_append _ _ _ (Bool.of_not_eq_false fun dot => solid ?_)
  exact getLast?_slash (through_last_dot _ _ dot)

/-- A path that does not end with a slash goes on with the segments behind a slash. -/
theorem pathOf_append {text : List Char} {path : Path} (reads : pathOf true text = path)
    (solid : path.chars.getLast? ≠ some '/') (rest : List Char) :
    ∃ walk : Walk, path = .segments walk.path ∧ pathOf true (text ++ '/' :: rest) =
      .segments (walk.through false (splitPath true rest)).path := by
  subst reads
  match text with
  | [] => exact absurd rfl solid
  | c :: text =>
    refine ⟨_, rfl, ?_⟩
    simp only [List.cons_append, pathOf] at solid ⊢
    split at solid
    · rename_i slash
      rw [if_pos slash, if_pos slash, through_splitPath _ _ solid]
    · rename_i letter
      rw [if_neg letter, if_neg letter, ← List.cons_append, through_splitPath _ _ solid]

end

end Leasehold.Url
