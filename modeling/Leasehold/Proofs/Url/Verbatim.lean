import Mathlib.Data.List.Basic
import Leasehold.Proofs.Url.Extension

/-! Which texts can be put into the path of a URL as they are. A URL that is read drops some characters,
takes others for marks, decodes percent signs and resolves dot segments. Each of these makes the path
stand for fewer bytes, except for backslashes, which turn into slashes; so a text is kept if and only
if nothing of that happens (`kept_iff`). -/
namespace Leasehold.Url

open Text (percentDecode bytes)

/-- A text that a path can hold as it is. -/
structure Verbatim (text : List Char) : Prop where
  /-- Nothing in it ends the path, stands for a slash, or is dropped. -/
  unmarked : ∀ c ∈ text, c ≠ '?' ∧ c ≠ '#' ∧ c ≠ '\\' ∧ isGap c = false
  /-- Nothing is dropped at its end. -/
  ended : ∀ c ∈ text.getLast?, isPadding c = false
  /-- No percent sign has two hexadecimal digits behind it. -/
  unescaped : percentDecode text = bytes text
  /-- Between slashes there are no dot segments. -/
  plain : ∀ segment ∈ Text.splitAt '/' text, isPlain segment = true

/-- A text with slashes for backslashes. -/
def slashed (text : List Char) : List Char := text.map fun c => if c = '\\' then '/' else c

/-- What is left of a text behind a slash that belongs to the path of a URL. -/
def pathPart (text : List Char) : List Char :=
  (withoutGaps (trimmedEnd text)).takeWhile (!endsPath ·)

section
variable {text : List Char}

theorem meaning_splitAt (text : List Char) :
    meaning (Text.splitAt '/' text) = 47 :: percentDecode text := by
  have joined := percentDecode_segments [] (Text.splitAt '/' text)
  rw [Text.percentDecode_nil, List.nil_append, List.nil_append, Text.join_splitAt] at joined
  rw [← joined]
  exact (Text.percentDecode_slash [] text).trans (by rw [Text.percentDecode_nil, List.nil_append])

theorem splitPath_eq (text : List Char) : splitPath true text = Text.splitAt '/' (slashed text) := rfl

/-! ## What is left of a text -/

theorem trimmedEnd_begins (text : List Char) : trimmedEnd text <+: text := by
  have suffix := List.dropWhile_suffix isPadding (l := text.reverse)
  simpa [trimmedEnd] using List.reverse_prefix.mpr suffix

theorem pathPart_sublist (text : List Char) : (pathPart text).Sublist text :=
  (List.takeWhile_prefix _).sublist.trans (List.filter_sublist.trans (trimmedEnd_begins text).sublist)

theorem trimmedEnd_eq_iff : trimmedEnd text = text ↔ ∀ c ∈ text.getLast?, isPadding c = false := by
  rw [trimmedEnd, List.reverse_eq_iff, ← List.head?_reverse]
  generalize text.reverse = reversed
  constructor
  · intro same c last
    have := List.head?_dropWhile_not isPadding reversed
    rw [same, Option.mem_def.mp last] at this
    exact this
  · intro kept
    cases reversed with
    | nil => rfl
    | cons c rest => exact List.dropWhile_cons_of_neg (Bool.eq_false_iff.mp (kept c rfl))

/-- All of a text belongs to the path if nothing in it ends the path or is dropped. -/
theorem pathPart_eq_iff : pathPart text = text ↔
    (∀ c ∈ text, c ≠ '?' ∧ c ≠ '#' ∧ isGap c = false) ∧
      ∀ c ∈ text.getLast?, isPadding c = false := by
  have marks : (∀ c ∈ text, c ≠ '?' ∧ c ≠ '#' ∧ isGap c = false) ↔
      (∀ c ∈ text, (!endsPath c) = true) ∧ ∀ c ∈ text, (!isGap c) = true := by
    simp only [endsPath, Bool.not_eq_true', Bool.or_eq_false_iff, beq_eq_false_iff_ne]
    grind
  rw [marks, ← trimmedEnd_eq_iff]
  constructor
  · intro same
    have inside : text.Sublist (withoutGaps (trimmedEnd text)) := by
      conv => lhs; rw [← same]
      exact (List.takeWhile_prefix _).sublist
    have trimmed : trimmedEnd text = text :=
      (trimmedEnd_begins text).sublist.antisymm (inside.trans List.filter_sublist)
    rw [trimmed] at inside
    have gapless : withoutGaps text = text := List.filter_sublist.antisymm inside
    rw [pathPart, trimmed, gapless] at same
    exact ⟨⟨List.takeWhile_eq_self_iff.mp same, List.filter_eq_self.mp gapless⟩, trimmed⟩
  · rintro ⟨⟨unmarked, gapless⟩, trimmed⟩
    rw [pathPart, trimmed, withoutGaps, List.filter_eq_self.mpr gapless,
      List.takeWhile_eq_self_iff.mpr unmarked]

/-- Behind a text that belongs to the path there is neither a query nor a fragment. -/
theorem ending_of_whole (whole : pathPart text = text) :
    ending true ((withoutGaps (trimmedEnd text)).dropWhile (!endsPath ·)) = (none, none) := by
  have fewer : (withoutGaps (trimmedEnd text)).length ≤ text.length :=
    (List.filter_sublist.trans (trimmedEnd_begins text).sublist).length_le
  have parts := congrArg List.length
    (List.takeWhile_append_dropWhile (p := (!endsPath ·)) (l := withoutGaps (trimmedEnd text)))
  have taken : ((withoutGaps (trimmedEnd text)).takeWhile (!endsPath ·)).length = text.length :=
    congrArg List.length whole
  rw [List.length_append, taken] at parts
  have nothing : (withoutGaps (trimmedEnd text)).dropWhile (!endsPath ·) = [] :=
    List.length_eq_zero_iff.mp (by omega)
  rw [nothing]
  rfl

/-! ## What is made of it -/

theorem length_bytes_slashed (text : List Char) :
    (bytes (slashed text)).length = (bytes text).length := by
  induction text with
  | nil => rfl
  | cons c rest ih =>
    rw [slashed, List.map_cons, Text.bytes_cons, Text.bytes_cons, List.length_append,
      List.length_append, ← slashed, ih]
    split
    · rename_i same; rw [same]; rfl
    · rfl

theorem slashed_eq_iff : slashed text = text ↔ ∀ c ∈ text, c ≠ '\\' := by
  induction text with
  | nil => simp [slashed]
  | cons c rest ih =>
    rw [slashed, List.map_cons, List.cons.injEq, ← slashed, ih, List.forall_mem_cons]
    refine and_congr_left fun _ => ?_
    split
    · rename_i same; subst same; decide
    · rename_i other; exact iff_of_true rfl other

theorem mem_splitAt {separator c : Char} {segment : List Char}
    (part : segment ∈ Text.splitAt separator text) (member : c ∈ segment) : c ∈ text := by
  induction text generalizing segment with
  | nil =>
    cases List.mem_singleton.mp part
    cases member
  | cons d rest ih =>
    rw [Text.splitAt] at part
    split at part
    · rcases List.mem_cons.mp part with rfl | part
      · cases member
      · exact List.mem_cons_of_mem _ (ih part member)
    · cases parts : Text.splitAt separator rest with
      | nil => exact absurd parts (Text.splitAt_ne_nil separator rest)
      | cons first others =>
        rw [parts] at part ih
        rcases List.mem_cons.mp part with rfl | part
        · rcases List.mem_cons.mp member with rfl | member
          · exact List.mem_cons_self
          · exact List.mem_cons_of_mem _ (ih List.mem_cons_self member)
        · exact List.mem_cons_of_mem _ (ih (List.mem_cons_of_mem _ part) member)

/-- The segments of what is left have no gaps. -/
theorem tight_pathPart (text : List Char) :
    ∀ segment ∈ splitPath true (pathPart text), withoutGaps segment = segment := by
  intro segment part
  refine List.filter_eq_self.mpr fun c member => ?_
  obtain ⟨d, inside, same⟩ := List.mem_map.mp (mem_splitAt part member)
  have kept : d ∈ withoutGaps (trimmedEnd text) := (List.takeWhile_prefix _).sublist.mem inside
  rw [← same]
  split
  · rfl
  · exact (List.mem_filter.mp kept).2

/-- What is left of a text has no more bytes than the text. -/
theorem length_bytes_pathPart_le (text : List Char) :
    (bytes (slashed (pathPart text))).length ≤ (bytes text).length := by
  rw [length_bytes_slashed]
  rcases Text.bytes_of_sublist (pathPart_sublist text) with same | fewer
  · rw [same]
  · exact Nat.le_of_lt fewer

/-- A text behind a slash is verbatim by itself. -/
theorem verbatim_append {front : List Char} (own : Verbatim front) (rest : List Char) :
    Verbatim (front ++ '/' :: rest) ↔ Verbatim rest := by
  have last : (front ++ '/' :: rest).getLast? = some (rest.getLast?.getD '/') := by
    simp [List.getLast?_append, List.getLast?_cons]
  constructor
  · rintro ⟨unmarked, ended, unescaped, plain⟩
    refine ⟨fun c member => unmarked c (by simp [member]), fun c found => ?_, ?_, ?_⟩
    · refine ended c ?_
      rw [last, Option.mem_def.mp found]
      rfl
    · rw [Text.percentDecode_slash, own.unescaped, Text.bytes_append] at unescaped
      exact (List.cons.inj (List.append_cancel_left unescaped)).2
    · intro segment part
      exact plain segment (by rw [Text.splitAt_append]; exact List.mem_append_right _ part)
  · rintro ⟨unmarked, ended, unescaped, plain⟩
    refine ⟨fun c member => ?_, fun c found => ?_, ?_, fun segment part => ?_⟩
    · rcases List.mem_append.mp member with inside | behind
      · exact own.unmarked c inside
      · rcases List.mem_cons.mp behind with rfl | behind
        · decide
        · exact unmarked c behind
    · rw [last] at found
      cases found
      cases final : rest.getLast? with
      | none => rfl
      | some c => exact ended c final
    · rw [Text.percentDecode_slash, own.unescaped, unescaped, Text.bytes_append]
      rfl
    · rw [Text.splitAt_append] at part
      rcases List.mem_append.mp part with inside | behind
      · exact own.plain segment inside
      · exact plain segment behind

/-- A text without marks, percent signs, gaps and dot segments is verbatim. -/
theorem verbatim_of_plain (solid : text.all (fun c => c ≠ '?' ∧ c ≠ '#' ∧ c ≠ '\\' ∧ c ≠ '%' ∧
      isPadding c = false) = true)
    (plain : (Text.splitAt '/' text).all isPlain = true) : Verbatim text := by
  have unmarked (c : Char) (member : c ∈ text) :=
    of_decide_eq_true (List.all_eq_true.mp solid c member)
  refine ⟨fun c member => ?_, fun c last => ?_, Text.percentDecode_of_not_mem fun member => ?_,
    List.all_eq_true.mp plain⟩
  · obtain ⟨question, number, backslash, _, solid⟩ := unmarked c member
    refine ⟨question, number, backslash, Bool.eq_false_iff.mpr fun gap => ?_⟩
    simp only [isGap, Bool.or_eq_true, beq_iff_eq] at gap
    rcases gap with (rfl | rfl) | rfl <;> cases solid
  · exact (unmarked c (List.mem_of_getLast? last)).2.2.2.2
  · exact (unmarked _ member).2.2.2.1 rfl

theorem verbatim_nil : Verbatim [] := verbatim_of_plain (by decide) (by decide)

theorem Verbatim.pathPart_eq (verbatim : Verbatim text) : pathPart text = text :=
  pathPart_eq_iff.mpr ⟨fun c member => ⟨(verbatim.unmarked c member).1,
    (verbatim.unmarked c member).2.1, (verbatim.unmarked c member).2.2.2⟩, verbatim.ended⟩

/-- **A path holds a text as it is if and only if the text is verbatim.** -/
theorem kept_iff (walk : Walk) (text : List Char) :
    meaning (walk.through false (splitPath true (pathPart text))).path =
      meaning walk.path ++ 47 :: bytes text ↔ Verbatim text := by
  constructor
  · intro kept
    have tight := tight_pathPart text
    -- nothing has made it shorter, since the path stands for as many bytes as the text has
    have bound := length_through_le walk tight
    have strict := length_through_lt walk tight
    rw [kept, splitPath_eq, meaning_splitAt] at bound strict
    simp only [List.length_append, List.length_cons] at bound strict
    have read := Text.percentDecode_or_shorter (slashed (pathPart text))
    have left := Text.bytes_of_sublist (pathPart_sublist text)
    rw [← length_bytes_slashed (pathPart text)] at left
    have unescaped : percentDecode (slashed (pathPart text)) = bytes (slashed (pathPart text)) := by
      have no_more := length_bytes_pathPart_le text
      exact read.resolve_right fun shorter => by omega
    have part : pathPart text = text := by
      refine left.resolve_right fun fewer => ?_
      rw [unescaped] at bound
      omega
    rw [part] at tight strict unescaped kept
    rw [unescaped, length_bytes_slashed] at strict
    have plain : ∀ segment ∈ Text.splitAt '/' (slashed text), isPlain segment = true :=
      fun segment member => Bool.of_not_eq_false fun dot =>
        Nat.lt_irrefl _ (strict ⟨segment, member, dot⟩)
    rw [meaning_through walk tight plain, splitPath_eq, meaning_splitAt, unescaped] at kept
    have same : slashed text = text :=
      Text.bytes_injective (List.cons.inj (List.append_cancel_left kept)).2
    obtain ⟨unmarked, ended⟩ := pathPart_eq_iff.mp part
    rw [same] at plain unescaped
    exact ⟨fun c member => ⟨(unmarked c member).1, (unmarked c member).2.1,
      slashed_eq_iff.mp same c member, (unmarked c member).2.2⟩, ended, unescaped, plain⟩
  · intro verbatim
    have same : splitPath true (pathPart text) = Text.splitAt '/' text := by
      rw [splitPath_eq, verbatim.pathPart_eq,
        slashed_eq_iff.mpr fun c member => (verbatim.unmarked c member).2.2.1]
    have tight := tight_pathPart text
    rw [same] at tight ⊢
    rw [meaning_through walk tight verbatim.plain, meaning_splitAt, verbatim.unescaped]

end

end Leasehold.Url
