import Mathlib.Data.List.TakeWhile
import Leasehold.Proofs.Url.Paths

/-! Reading the text of a URL behind which a slash and some more text stand. If the URL goes over HTTP,
ends in its path, and has no slash at the end, everything up to its path is read as before, and the
rest is read as the rest of the path, a query and a fragment (`read?_extend`). -/
namespace Leasehold.Url

/-! ## Texts -/

section
variable {p : Char → Bool} {c : Char}

theorem takeWhile_append_cons (stops : p c = false) (front rest : List Char) :
    (front ++ c :: rest).takeWhile p = front.takeWhile p := by
  induction front with
  | nil => simp [stops]
  | cons d front ih => rw [List.cons_append, List.takeWhile_cons, List.takeWhile_cons, ih]

theorem drop_takeWhile (text : List Char) : text.drop (text.takeWhile p).length = text.dropWhile p := by
  have whole : text.takeWhile p ++ text.dropWhile p = text := List.takeWhile_append_dropWhile
  calc text.drop (text.takeWhile p).length
      = (text.takeWhile p ++ text.dropWhile p).drop (text.takeWhile p).length := by rw [whole]
    _ = text.dropWhile p := List.drop_left

theorem drop_takeWhile_append (front rest : List Char) :
    (front ++ rest).drop (front.takeWhile p).length = front.drop (front.takeWhile p).length ++ rest :=
  List.drop_append_of_le_length (List.takeWhile_prefix p).length_le

end

/-! ## What is dropped -/

/-- A text without what is dropped at its end. -/
def trimmedEnd (text : List Char) : List Char := (text.reverse.dropWhile isPadding).reverse

theorem trimmed_append {text : List Char} (solid : ∃ c ∈ text.getLast?, isPadding c = false)
    (rest : List Char) :
    trimmed (text ++ '/' :: rest) = trimmed text ++ '/' :: trimmedEnd rest := by
  obtain ⟨c, last, kept⟩ := solid
  obtain ⟨front, rfl⟩ := List.getLast?_eq_some_iff.mp last
  have begun : (front ++ [c]).dropWhile isPadding = front.dropWhile isPadding ++ [c] := by
    rw [List.dropWhile_append]
    split
    · rename_i blank; simp [List.isEmpty_iff.mp blank, kept]
    · rfl
  have ended (front rest : List Char) (d : Char) (kept : isPadding d = false) :
      ((front ++ d :: rest).reverse.dropWhile isPadding).reverse =
        front ++ d :: trimmedEnd rest := by
    rw [List.reverse_append, List.reverse_cons, List.append_assoc, List.dropWhile_append]
    split
    · rename_i blank
      simp [trimmedEnd, List.isEmpty_iff.mp blank, kept]
    · simp [trimmedEnd]
  have own : ((front.dropWhile isPadding ++ [c]).reverse.dropWhile isPadding).reverse =
      front.dropWhile isPadding ++ [c] := ended _ [] c kept
  rw [trimmed, trimmed, begun, own, List.dropWhile_append, if_neg (by simp [begun]), begun,
    ended _ rest '/' rfl]

theorem withoutGaps_append (front rest : List Char) :
    withoutGaps (front ++ '/' :: rest) = withoutGaps front ++ '/' :: withoutGaps rest := by
  simp [withoutGaps, isGap]

/-! ## Up to the path -/

theorem scheme?_append {text scheme rest : List Char} (found : scheme? text = some (scheme, rest))
    (more : List Char) : scheme? (text ++ more) = some (scheme, rest ++ more) := by
  have stops : (fun c : Char => c.isAlphanum || c == '+' || c == '-' || c == '.') ':' = false := rfl
  unfold scheme? at found ⊢
  generalize (fun c : Char => c.isAlphanum || c == '+' || c == '-' || c == '.') = p at stops found ⊢
  dsimp only at found ⊢
  split at found
  · rename_i left same
    have whole : text = text.takeWhile p ++ ':' :: left := by
      rw [← same, drop_takeWhile, List.takeWhile_append_dropWhile]
    have taken : (text ++ more).takeWhile p = text.takeWhile p := by
      rw [whole, List.append_assoc, List.cons_append, takeWhile_append_cons stops,
        takeWhile_append_cons stops]
    rw [taken, drop_takeWhile_append, same]
    split at found
    · rename_i letter
      cases found
      simp only [List.cons_append, if_pos letter]
    · cases found
  · cases found

theorem splitHost_append (inBrackets : Bool) (text rest : List Char) :
    splitHost true inBrackets (text ++ '/' :: rest) =
      ((splitHost true inBrackets text).1, (splitHost true inBrackets text).2 ++ '/' :: rest) := by
  induction text generalizing inBrackets with
  | nil => simp [splitHost, endsAuthority]
  | cons c text ih =>
    rw [List.cons_append, splitHost, splitHost]
    split
    · rfl
    · rw [ih]

theorem splitPort?_append (scheme text rest : List Char) :
    splitPort? scheme (text ++ '/' :: rest) =
      (splitPort? scheme text).map fun (port, left) => (port, left ++ '/' :: rest) := by
  match text with
  | [] => rfl
  | c :: text =>
    by_cases colon : c = ':'
    · subst colon
      have stops : (!endsAuthority true '/') = false := rfl
      have same := takeWhile_append_cons (p := (!endsAuthority true ·)) stops text rest
      simp only [List.cons_append, splitPort?, same, drop_takeWhile_append, Option.map_map]
      rfl
    · simp [splitPort?, colon]

/-- What stands for who asks, and what follows it. -/
def splitAuthority (text : List Char) : List Char × List Char :=
  let authority := text.takeWhile (!endsAuthority true ·)
  (splitLogin? authority).elim ([], text) fun (login, rest) =>
    (login, rest ++ text.drop authority.length)

theorem splitAuthority_append (text rest : List Char) :
    splitAuthority (text ++ '/' :: rest) =
      ((splitAuthority text).1, (splitAuthority text).2 ++ '/' :: rest) := by
  have stops : (!endsAuthority true '/') = false := rfl
  have same := takeWhile_append_cons (p := (!endsAuthority true ·)) stops text rest
  simp only [splitAuthority, same, drop_takeWhile_append]
  cases splitLogin? (text.takeWhile (!endsAuthority true ·)) with
  | none => rfl
  | some login => simp

/-- What is read behind a host: the port, the path, the query and the fragment. -/
theorem withAuthority?_special {scheme : List Char} (special : isSpecial scheme = true)
    (text : List Char) :
    withAuthority? scheme text =
      let (login, located) := splitAuthority text
      let (name, rest) := splitHost true false located
      if name.isEmpty then none
      else (host? name).bind fun host => (splitPort? scheme rest).bind fun (port, rest) => some
        { scheme
          user := (readLogin login).1
          password := (readLogin login).2
          host := some host
          port
          path := pathOf true (rest.takeWhile (!endsPath ·))
          query := (ending true (rest.drop (rest.takeWhile (!endsPath ·)).length)).1
          fragment := (ending true (rest.drop (rest.takeWhile (!endsPath ·)).length)).2 } := by
  simp only [withAuthority?, special, Bool.true_or, Bool.and_true, if_true, splitAuthority]
  rfl

theorem ending_none {text : List Char} (query : (ending true (text.dropWhile (!endsPath ·))).1 = none)
    (fragment : (ending true (text.dropWhile (!endsPath ·))).2 = none) :
    text.dropWhile (!endsPath ·) = [] := by
  cases left : text.dropWhile (!endsPath ·) with
  | nil => rfl
  | cons c rest =>
    have ends : (!endsPath c) = false := by
      have := List.head?_dropWhile_not (!endsPath ·) text
      rw [left] at this
      simpa using this
    rw [left] at query fragment
    simp only [endsPath, Bool.not_eq_false', Bool.or_eq_true, beq_iff_eq] at ends
    rcases ends with rfl | rfl
    · cases query
    · cases fragment

/-- The path, the query and the fragment are read as those of a text that goes on. -/
theorem withAuthority?_append {scheme text : List Char} {root : Url}
    (special : isSpecial scheme = true) (reads : withAuthority? scheme text = some root)
    (query : root.query = none) (fragment : root.fragment = none)
    (solid : root.path.chars.getLast? ≠ some '/') (rest : List Char) :
    ∃ walk : Walk, root.path = .segments walk.path ∧
      withAuthority? scheme (text ++ '/' :: rest) = some { root with
        path := .segments
          (walk.through false (splitPath true (rest.takeWhile (!endsPath ·)))).path
        query := (ending true (rest.dropWhile (!endsPath ·))).1
        fragment := (ending true (rest.dropWhile (!endsPath ·))).2 } := by
  rw [withAuthority?_special special] at reads ⊢
  simp only [splitAuthority_append, splitHost_append, splitPort?_append] at reads ⊢
  split at reads
  · cases reads
  · rename_i named
    obtain ⟨host, found, reads⟩ := Option.bind_eq_some_iff.mp reads
    obtain ⟨⟨port, left⟩, split, same⟩ := Option.bind_eq_some_iff.mp reads
    cases same
    simp only [drop_takeWhile] at query fragment solid
    have inside : ∀ c ∈ left, (!endsPath c) = true :=
      List.dropWhile_eq_nil_iff.mp (ending_none query fragment)
    rw [List.takeWhile_eq_self_iff.mpr inside] at solid
    obtain ⟨walk, path, further⟩ := pathOf_append rfl solid (rest.takeWhile (!endsPath ·))
    refine ⟨walk, ?_, ?_⟩
    · rw [List.takeWhile_eq_self_iff.mpr inside, path]
    · have taken : (left ++ '/' :: rest).takeWhile (!endsPath ·) =
          left ++ '/' :: rest.takeWhile (!endsPath ·) := by
        rw [List.takeWhile_append_of_pos inside, List.takeWhile_cons_of_pos rfl]
      have dropped : (left ++ '/' :: rest).dropWhile (!endsPath ·) = rest.dropWhile (!endsPath ·) := by
        rw [List.dropWhile_append_of_pos inside, List.dropWhile_cons_of_pos rfl]
      rw [if_neg named, found, split]
      simp only [Option.bind_some, Option.map_some, drop_takeWhile, taken, dropped, further]

/-! ## The whole text -/

theorem withAuthority?_scheme {scheme text : List Char} {url : Url}
    (reads : withAuthority? scheme text = some url) : url.scheme = scheme := by
  unfold withAuthority? at reads
  dsimp only at reads
  split at reads
  · cases reads
  · split at reads
    all_goals
      obtain ⟨host, _, reads⟩ := Option.bind_eq_some_iff.mp reads
      obtain ⟨port, _, reads⟩ := Option.bind_eq_some_iff.mp reads
      cases reads
      rfl

theorem file?_scheme {scheme text : List Char} {url : Url} (reads : file? scheme text = some url) :
    url.scheme = scheme := by
  unfold file? at reads
  dsimp only at reads
  split at reads
  · cases reads
    rfl
  · obtain ⟨host, _, reads⟩ := Option.bind_eq_some_iff.mp reads
    cases reads
    rfl

theorem special_of_web {scheme : List Char}
    (web : scheme = "http".toList ∨ scheme = "https".toList) :
    isSpecial scheme = true ∧ scheme ≠ "file".toList := by
  rcases web with rfl | rfl <;> decide

/-- A URL over HTTP has the scheme in front of its text, and an authority behind that. -/
theorem read?_web {text : List Char} {url : Url} (reads : read? text = some url)
    (web : url.scheme = "http".toList ∨ url.scheme = "https".toList) :
    ∃ rest, scheme? (withoutGaps (trimmed text)) = some (url.scheme, rest) ∧
      withAuthority? url.scheme (rest.dropWhile fun c => c == '/' || c == '\\') = some url := by
  unfold read? at reads
  obtain ⟨⟨scheme, rest⟩, found, reads⟩ := Option.bind_eq_some_iff.mp reads
  dsimp only at reads
  have same : url.scheme = scheme := by
    split at reads
    · exact file?_scheme reads
    · split at reads
      · exact withAuthority?_scheme reads
      · split at reads
        · exact withAuthority?_scheme reads
        · cases reads
          rfl
  subst same
  refine ⟨rest, found, ?_⟩
  obtain ⟨special, other⟩ := special_of_web web
  rwa [if_neg other, if_pos special] at reads

/-- A text of a URL over HTTP that goes on behind a slash. -/
theorem read?_extend {text : List Char} {root : Url} (reads : read? text = some root)
    (web : root.scheme = "http".toList ∨ root.scheme = "https".toList)
    (query : root.query = none) (fragment : root.fragment = none)
    (solid : root.path.chars.getLast? ≠ some '/')
    (ends : ∃ c ∈ text.getLast?, isPadding c = false) (tail : List Char) :
    ∃ walk : Walk, root.path = .segments walk.path ∧
      read? (text ++ '/' :: tail) = some { root with
        path := .segments (walk.through false (splitPath true
          ((withoutGaps (trimmedEnd tail)).takeWhile (!endsPath ·)))).path
        query := (ending true ((withoutGaps (trimmedEnd tail)).dropWhile (!endsPath ·))).1
        fragment := (ending true ((withoutGaps (trimmedEnd tail)).dropWhile (!endsPath ·))).2 } := by
  obtain ⟨rest, found, located⟩ := read?_web reads web
  obtain ⟨special, other⟩ := special_of_web web
  have present : (rest.dropWhile fun c => c == '/' || c == '\\') ≠ [] := by
    intro nothing
    rw [nothing, withAuthority?_special special] at located
    cases located
  obtain ⟨walk, path, further⟩ := withAuthority?_append special located query fragment solid
    (withoutGaps (trimmedEnd tail))
  refine ⟨walk, path, ?_⟩
  simp only [read?, trimmed_append ends, withoutGaps_append, scheme?_append found]
  rw [← further]
  simp only [Option.bind_eq_bind, Option.bind_some, if_neg other, special, if_true,
    List.dropWhile_append, List.isEmpty_iff, if_neg present]

end Leasehold.Url
