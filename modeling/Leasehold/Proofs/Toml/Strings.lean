import Leasehold.Toml.Strings
import Leasehold.Toml.Writer

/-! Strings read back from the form that they are written in. Both forms with escapes take characters by
the same rules (`Unescapes`). On several lines a string ends at the first three delimiters in a row, and
no more than two of them ever stand together in what is written for its text. -/
namespace Leasehold.Toml

variable {rest : List Char}

/-! ## Characters -/

/-- What stands for a character other than a quote in a basic string. -/
def writtenChar (isLines : Bool) (c : Char) : List Char :=
  if c = '\x08' then ['\\', 'b']
  else if c = '\t' then ['\\', 't']
  else if c = '\n' then if isLines then ['\n'] else ['\\', 'n']
  else if c = '\x0C' then ['\\', 'f']
  else if c = '\r' then ['\\', 'r']
  else if c = '\\' then ['\\', '\\']
  else if mustEscape c then '\\' :: 'u' :: hexCode c
  else [c]

theorem basicChars_other {isLines : Bool} {room run : Nat} {c : Char} (other : c ≠ '"') (text : List Char) :
    basicChars isLines room run (c :: text) = writtenChar isLines c ++ basicChars isLines room 0 text := by
  rw [basicChars, if_neg other]
  rfl

theorem scalar?_hexCode {c : Char} (ascii : c.toNat < 0x80) : scalar? (hexCode c) = some c := by
  have all : ∀ code < 0x80, scalar? (hexCode (Char.ofNat code)) = some (Char.ofNat code) := by decide
  have found := all c.toNat ascii
  rwa [Char.ofNat_toNat] at found

/-- Only control characters are escaped by their code. -/
theorem ascii_of_mustEscape {c : Char} (escaped : mustEscape c = true) : c.toNat < 0x80 := by
  simp only [mustEscape, Bool.or_eq_true, Bool.and_eq_true, decide_eq_true_eq, beq_iff_eq] at escaped
  omega

theorem isShown_of_kept {c : Char} (kept : mustEscape c = false) (sameLine : c ≠ '\n') :
    isShown c = true := by
  simp only [mustEscape, Bool.or_eq_false_iff, Bool.and_eq_false_iff, decide_eq_false_iff_not,
    bne_eq_false_iff_eq, beq_eq_false_iff_ne] at kept
  simp only [isShown, Bool.or_eq_true, Bool.and_eq_true, decide_eq_true_eq, beq_iff_eq,
    bne_iff_ne]
  obtain ⟨(control | rfl) | rfl, last⟩ := kept
  · exact .inr ⟨by omega, last⟩
  · exact .inl rfl
  · exact absurd rfl sameLine

/-- A reader that takes characters as basic strings hold them. -/
structure Unescapes (isLines : Bool) (read : List Char → Option (List Char × List Char)) : Prop where
  /-- Most characters stand for themselves. -/
  shown {c : Char} (unquoted : c ≠ '"') (unescaped : c ≠ '\\')
    (fits : isShown c = true ∨ (isLines = true ∧ c = '\n')) (rest : List Char) :
    read (c :: rest) = push c (read rest)
  /-- A letter after a backslash stands for one of a few. -/
  named {letter c : Char} (named : escaped? letter = some c) (rest : List Char) :
    read ('\\' :: letter :: rest) = push c (read rest)
  /-- A control character stands as its code. -/
  coded {c : Char} (ascii : c.toNat < 0x80) (rest : List Char) :
    read ('\\' :: 'u' :: (hexCode c ++ rest)) = push c (read rest)

/-- A character other than a quote is read back. -/
theorem Unescapes.written {isLines : Bool} {read : List Char → Option (List Char × List Char)}
    (reads : Unescapes isLines read) {c : Char} (other : c ≠ '"') (rest : List Char) :
    read (writtenChar isLines c ++ rest) = push c (read rest) := by
  unfold writtenChar
  split
  · subst c; exact reads.named rfl rest
  split
  · subst c; exact reads.named rfl rest
  split
  · subst c
    split
    · rename_i lines
      exact reads.shown (by decide) (by decide) (.inr ⟨lines, rfl⟩) rest
    · exact reads.named rfl rest
  split
  · subst c; exact reads.named rfl rest
  split
  · subst c; exact reads.named rfl rest
  split
  · subst c; exact reads.named rfl rest
  split
  · rename_i escaped
    exact reads.coded (ascii_of_mustEscape escaped) rest
  · rename_i sameLine _ _ unescaped kept
    exact reads.shown other unescaped (.inl (isShown_of_kept (Bool.eq_false_iff.mpr kept) sameLine)) rest

theorem hexCode_eq (c : Char) : ∃ a b d e, hexCode c = [a, b, d, e] := ⟨_, _, _, _, rfl⟩

theorem ne_of_escaped {letter other c : Char} (named : escaped? letter = some c)
    (unnamed : escaped? other = none) : letter ≠ other := by
  rintro rfl
  rw [named] at unnamed
  cases unnamed

theorem unescapes_basic : Unescapes false basic? where
  shown unquoted unescaped fits rest := by
    rw [basic?.eq_def]
    simp_all
  named {letter c} named rest := by
    have short : letter ≠ 'u' := ne_of_escaped named rfl
    have long : letter ≠ 'U' := ne_of_escaped named rfl
    rw [basic?.eq_def]
    simp [short, long, named]
  coded {c} ascii rest := by
    have found := scalar?_hexCode ascii
    obtain ⟨a, b, d, e, code⟩ := hexCode_eq c
    rw [code] at found ⊢
    rw [basic?.eq_def]
    simp [found]

theorem unescapes_basicLines : Unescapes true (basicLines? .text) where
  shown unquoted unescaped fits rest := by
    rw [basicLines?.eq_def]
    simp_all
  named {letter c} named rest := by
    have space : letter ≠ ' ' := ne_of_escaped named rfl
    have tab : letter ≠ '\t' := ne_of_escaped named rfl
    have lineFeed : letter ≠ '\n' := ne_of_escaped named rfl
    have short : letter ≠ 'u' := ne_of_escaped named rfl
    have long : letter ≠ 'U' := ne_of_escaped named rfl
    rw [basicLines?.eq_def]
    simp [isSpace, space, tab, lineFeed, short, long, named]
  coded {c} ascii rest := by
    have found := scalar?_hexCode ascii
    obtain ⟨a, b, d, e, code⟩ := hexCode_eq c
    rw [code] at found ⊢
    rw [basicLines?.eq_def]
    simp [found, isSpace]

/-! ## Strings on one line -/

/-- Where no two quotes may follow each other, the first one that stands for itself is the end. -/
theorem basic?_append (text : List Char) (run : Nat) :
    basic? (basicChars false 0 run text ++ '"' :: rest) = some (text, rest) := by
  induction text generalizing run with
  | nil =>
    rw [basicChars, List.nil_append, basic?.eq_def]
    simp
  | cons c text ih =>
    by_cases quote : c = '"'
    · subst c
      rw [basicChars, if_pos rfl, if_neg (Nat.not_lt_zero run), List.cons_append, List.cons_append,
        unescapes_basic.named rfl, ih, push]
    · rw [basicChars_other quote, List.append_assoc, unescapes_basic.written quote, ih, push]

theorem literal?_append {text : List Char} (plain : ∀ c ∈ text, isShown c = true ∧ c ≠ '\'') :
    literal? (text ++ '\'' :: rest) = some (text, rest) := by
  induction text with
  | nil => rw [List.nil_append, literal?, if_pos rfl]
  | cons c text ih =>
    obtain ⟨shown, other⟩ := plain c List.mem_cons_self
    rw [List.cons_append, literal?, if_neg other, if_pos shown,
      ih fun later member => plain later (List.mem_cons_of_mem _ member), push]

/-! ## Strings on several lines -/

/-- What follows the text of a string on several lines that ends its line. -/
def closingLine (quote : Char) (rest : List Char) : List Char := quote :: quote :: quote :: '\n' :: rest

theorem startsClosing_cons {quote d : Char} (other : d ≠ quote) (others : List Char) :
    startsClosing quote (d :: others) = false := by
  cases others <;> simp [startsClosing, other]

theorem startsClosing_cons_cons {quote d : Char} (other : d ≠ quote) (others : List Char) :
    startsClosing quote (quote :: d :: others) = false := by
  simp [startsClosing, other]

/-- Delimiters before the last three belong to the text. -/
theorem closing_closingLine (quote : Char) (other : quote ≠ '\n') {count : Nat} (few : count ≤ 1) :
    closing quote ((List.replicate count quote ++ closingLine quote rest).drop 2) =
      (quote :: List.replicate count quote, '\n' :: rest) := by
  have apart : ('\n' == quote) = false := beq_false_of_ne other.symm
  match count, few with
  | 0, _ => simp [closing, closingLine, apart]
  | 1, _ => simp [closing, closingLine]

theorem basicLines?_quote (rest : List Char) :
    basicLines? .text ('"' :: rest) =
      if startsClosing '"' rest then some (closing '"' (rest.drop 2))
      else push '"' (basicLines? .text rest) := by
  rw [basicLines?.eq_def]
  simp [isShown]

/-- A character is written as itself or begins with a backslash. -/
theorem writtenChar_begins (isLines : Bool) (c : Char) :
    ∃ first others, writtenChar isLines c = first :: others ∧ (first = '\\' ∨ first = c) := by
  unfold writtenChar
  repeat' split
  all_goals first
    | exact ⟨'\\', _, rfl, .inl rfl⟩
    | exact ⟨c, _, rfl, .inr rfl⟩
    | exact ⟨'\n', _, rfl, .inr (Eq.symm ‹c = '\n'›)⟩

/-- What is written after quotes begins with another one only if there is room for it. -/
theorem basicChars_begins (isLines : Bool) {room run : Nat} {c : Char} (full : c = '"' → ¬ run < room)
    (text : List Char) :
    ∃ first others, basicChars isLines room run (c :: text) = first :: others ∧ first ≠ '"' := by
  by_cases quote : c = '"'
  · rw [basicChars, if_pos quote, if_neg (full quote)]
    exact ⟨'\\', _, rfl, by decide⟩
  · obtain ⟨first, others, begins, isFirst⟩ := writtenChar_begins isLines c
    rw [basicChars_other quote, begins]
    refine ⟨first, _, rfl, ?_⟩
    rcases isFirst with rfl | rfl
    · decide
    · exact quote

/-- After a quote, two more of them stand together only at the end. -/
theorem basicChars_closing {text : List Char} {run : Nat} (positive : 0 < run) (room : run ≤ 2)
    (closes : startsClosing '"' (basicChars true 2 run text ++ closingLine '"' rest) = true) :
    ∃ count ≤ 1, text = List.replicate count '"' ∧
      basicChars true 2 run text = List.replicate count '"' := by
  cases text with
  | nil => exact ⟨0, Nat.zero_le 1, rfl, rfl⟩
  | cons c text =>
    by_cases quote : c = '"' ∧ run < 2
    · obtain ⟨rfl, full⟩ := quote
      rw [basicChars, if_pos rfl, if_pos full] at closes ⊢
      cases text with
      | nil => exact ⟨1, Nat.le_refl 1, rfl, rfl⟩
      | cons d text =>
        obtain ⟨first, others, begins, other⟩ :=
          basicChars_begins true (fun _ : d = '"' => (by omega : ¬ run + 1 < 2)) text
        rw [begins, List.cons_append, List.cons_append, startsClosing_cons_cons other] at closes
        cases closes
    · obtain ⟨first, others, begins, other⟩ :=
        basicChars_begins true (fun same full => quote ⟨same, full⟩) text
      rw [begins, List.cons_append, startsClosing_cons other] at closes
      cases closes

/-- A text lets its string end only where it ends itself, also after quotes that belong to it. -/
theorem basicLines?_append (text : List Char) {run : Nat} (room : run ≤ 2) :
    basicLines? .text (basicChars true 2 run text ++ closingLine '"' rest) = some (text, '\n' :: rest) := by
  induction text generalizing run with
  | nil =>
    rw [basicChars, List.nil_append, closingLine, basicLines?_quote]
    simp [startsClosing, closing]
  | cons c text ih =>
    by_cases quote : c = '"'
    · subst c
      by_cases full : run < 2
      · rw [basicChars, if_pos rfl, if_pos full, List.cons_append, basicLines?_quote]
        split
        · rename_i closes
          obtain ⟨count, few, isQuotes, written⟩ := basicChars_closing (by omega) (by omega) closes
          rw [written, closing_closingLine '"' (by decide) few, isQuotes]
        · rw [ih (by omega), push]
      · rw [basicChars, if_pos rfl, if_neg full, List.cons_append, List.cons_append,
          unescapes_basicLines.named rfl, ih (Nat.zero_le 2), push]
    · rw [basicChars_other quote, List.append_assoc, unescapes_basicLines.written quote,
        ih (Nat.zero_le 2), push]

theorem le_longestRun (quote : Char) (text : List Char) (run : Nat) : run ≤ longestRun quote run text := by
  induction text generalizing run with
  | nil => exact Nat.le_refl run
  | cons c text ih =>
    rw [longestRun]
    split
    · exact Nat.le_of_succ_le (ih (run + 1))
    · exact Nat.le_max_left _ _

/-- After a tick, two more of them stand together only at the end. -/
theorem ticks_closing {text : List Char} {run : Nat} (positive : 0 < run)
    (few : longestRun '\'' run text ≤ 2)
    (closes : startsClosing '\'' (text ++ closingLine '\'' rest) = true) :
    ∃ count ≤ 1, text = List.replicate count '\'' := by
  match text with
  | [] => exact ⟨0, Nat.zero_le 1, rfl⟩
  | [c] =>
    by_cases tick : c = '\''
    · exact ⟨1, Nat.le_refl 1, by rw [tick]; rfl⟩
    · rw [List.cons_append, startsClosing_cons tick] at closes
      cases closes
  | c :: d :: text =>
    by_cases tick : c = '\''
    · subst c
      by_cases second : d = '\''
      · subst d
        rw [longestRun, if_pos rfl, longestRun, if_pos rfl] at few
        have long := le_longestRun '\'' text (run + 1 + 1)
        omega
      · rw [List.cons_append, List.cons_append, startsClosing_cons_cons second] at closes
        cases closes
    · rw [List.cons_append, startsClosing_cons tick] at closes
      cases closes

/-- A text without three ticks in a row lets the string end only where it ends itself. -/
theorem literalLines?_append {text : List Char} {run : Nat} (few : longestRun '\'' run text ≤ 2)
    (plain : ∀ c ∈ text, isShown c = true ∨ c = '\n') :
    literalLines? (text ++ closingLine '\'' rest) = some (text, '\n' :: rest) := by
  induction text generalizing run with
  | nil => simp [closingLine, literalLines?, startsClosing, closing]
  | cons c text ih =>
    have fits := plain c List.mem_cons_self
    have onward {run : Nat} (few : longestRun '\'' run text ≤ 2) :=
      ih few fun later member => plain later (List.mem_cons_of_mem _ member)
    rw [List.cons_append, literalLines?]
    rw [longestRun] at few
    by_cases tick : c = '\''
    · rw [if_pos tick] at few
      by_cases closes : startsClosing '\'' (text ++ closingLine '\'' rest) = true
      · obtain ⟨count, atMost, isTicks⟩ := ticks_closing (Nat.succ_pos run) few closes
        rw [if_pos ⟨tick, closes⟩, tick, isTicks, closing_closingLine '\'' (by decide) atMost]
      · rw [if_neg fun both => closes both.2, if_pos fits, onward few, push]
    · rw [if_neg tick] at few
      rw [if_neg fun both => tick both.1, if_pos fits,
        onward (Nat.le_trans (Nat.le_max_right _ _) few), push]

/-! ## Strings of any form -/

theorem styleOf_literal {text : List Char} (style : styleOf text = .literal) :
    (∀ c ∈ text, mustEscape c = false ∧ c ≠ '\n') ∧ longestRun '\'' 0 text = 0 ∧ text ≠ [] := by
  have nonempty : text ≠ [] := by
    rintro rfl
    simp [styleOf, longestRun] at style
  unfold styleOf at style
  dsimp only at style
  split at style
  · cases style
  split at style
  · rename_i fits
    simp only [Bool.and_eq_true, Bool.not_eq_true', List.any_eq_false, Bool.not_eq_true,
      decide_eq_true_eq] at fits
    obtain ⟨⟨unescaped, ticks⟩, oneLine⟩ := fits
    refine ⟨fun c member => ⟨unescaped c member, ?_⟩, ticks, nonempty⟩
    rintro rfl
    rw [List.contains_eq_mem, decide_eq_false_iff_not] at oneLine
    exact oneLine member
  split at style
  · cases style
  split at style
  · cases style
  split at style <;> cases style

theorem styleOf_literalLines {text : List Char} (style : styleOf text = .literalLines) :
    (∀ c ∈ text, mustEscape c = false) ∧ longestRun '\'' 0 text ≤ 2 := by
  unfold styleOf at style
  dsimp only at style
  split at style
  · cases style
  split at style
  · cases style
  split at style
  · cases style
  split at style
  · rename_i fits
    simp only [Bool.and_eq_true, Bool.not_eq_true', List.any_eq_false, Bool.not_eq_true,
      decide_eq_true_eq] at fits
    exact fits
  split at style <;> cases style

theorem ne_tick_of_longestRun {text : List Char} (none_run : longestRun '\'' 0 text = 0) :
    ∀ c ∈ text, c ≠ '\'' := by
  induction text with
  | nil => simp
  | cons c text ih =>
    rw [longestRun] at none_run
    by_cases tick : c = '\''
    · rw [if_pos tick] at none_run
      have long := le_longestRun '\'' text (0 + 1)
      omega
    · rw [if_neg tick] at none_run
      rw [List.forall_mem_cons]
      exact ⟨tick, ih (by omega)⟩

/-- The line end that a text with line feeds begins with is dropped again, and no other. -/
theorem dropFirstLineEnd_append {text body : List Char} (begins : body.head? = some '\n' → '\n' ∈ text) :
    dropFirstLineEnd ((if text.contains '\n' then ['\n'] else []) ++ body) = body := by
  by_cases lineFeed : '\n' ∈ text
  · rw [if_pos (List.contains_iff_mem.mpr lineFeed)]
    rfl
  · rw [if_neg (fun found => lineFeed (List.contains_iff_mem.mp found)), List.nil_append]
    unfold dropFirstLineEnd
    split
    · exact absurd (begins rfl) lineFeed
    · rfl

theorem head?_basicChars {text : List Char}
    (begins : (basicChars true 2 0 text ++ closingLine '"' rest).head? = some '\n') : '\n' ∈ text := by
  cases text with
  | nil => cases begins
  | cons c text =>
    by_cases quote : c = '"'
    · rw [basicChars, if_pos quote, if_pos (by decide)] at begins
      cases begins
    · obtain ⟨first, others, written, isFirst⟩ := writtenChar_begins true c
      rw [basicChars_other quote, written] at begins
      simp only [List.cons_append, List.head?_cons, Option.some.injEq] at begins
      subst begins
      rcases isFirst with escaped | rfl
      · cases escaped
      · exact List.mem_cons_self

/-- A written string is read back where its line ends. -/
theorem string?_append (text : List Char) :
    string? (stringChars text ++ '\n' :: rest) = some (text, '\n' :: rest) := by
  unfold stringChars
  cases style : styleOf text with
  | basic =>
    have opens : startsClosing '"' (basicChars false 0 0 text ++ '"' :: '\n' :: rest) = false := by
      cases text with
      | nil => exact startsClosing_cons_cons (by decide) rest
      | cons c text =>
        obtain ⟨first, others, begins, other⟩ :=
          basicChars_begins false (fun _ => Nat.not_lt_zero 0) text
        rw [begins]
        exact startsClosing_cons other _
    simp [string?, opens, basic?_append]
  | literal =>
    obtain ⟨plain, none_run, nonempty⟩ := styleOf_literal style
    have other := ne_tick_of_longestRun none_run
    have opens : startsClosing '\'' (text ++ '\'' :: '\n' :: rest) = false := by
      obtain ⟨c, others, rfl⟩ := List.exists_cons_of_ne_nil nonempty
      exact startsClosing_cons (other c List.mem_cons_self) _
    have read : literal? (text ++ '\'' :: '\n' :: rest) = some (text, '\n' :: rest) := by
      apply literal?_append
      intro c member
      obtain ⟨kept, sameLine⟩ := plain c member
      exact ⟨isShown_of_kept kept sameLine, other c member⟩
    simp [string?, opens, read]
  | basicLines =>
    have begins : (basicChars true 2 0 text ++ closingLine '"' rest).head? = some '\n' → '\n' ∈ text :=
      head?_basicChars
    have dropped := dropFirstLineEnd_append begins
    have read : basicLines? .text (basicChars true 2 0 text ++ closingLine '"' rest) =
        some (text, '\n' :: rest) := basicLines?_append text (Nat.zero_le 2)
    rw [← dropped] at read
    simpa [string?, startsClosing, closingLine] using read
  | literalLines =>
    obtain ⟨plain, few⟩ := styleOf_literalLines style
    have begins : (text ++ closingLine '\'' rest).head? = some '\n' → '\n' ∈ text := by
      cases text with
      | nil => intro same; cases same
      | cons c text => intro same; cases same; exact List.mem_cons_self
    have dropped := dropFirstLineEnd_append begins
    have read : literalLines? (text ++ closingLine '\'' rest) = some (text, '\n' :: rest) := by
      apply literalLines?_append few
      intro c member
      by_cases lineFeed : c = '\n'
      · exact .inr lineFeed
      · exact .inl (isShown_of_kept (plain c member) lineFeed)
    rw [← dropped] at read
    simpa [string?, startsClosing, closingLine] using read

theorem stringChars_begins (text : List Char) :
    ∃ quote others, stringChars text = quote :: others ∧ (quote = '"' ∨ quote = '\'') := by
  unfold stringChars
  cases styleOf text with
  | basic => exact ⟨'"', _, rfl, .inl rfl⟩
  | literal => exact ⟨'\'', _, rfl, .inr rfl⟩
  | basicLines => exact ⟨'"', _, rfl, .inl rfl⟩
  | literalLines => exact ⟨'\'', _, rfl, .inr rfl⟩

/-! ## Carriage returns -/

theorem hexCode_not_return {c : Char} (ascii : c.toNat < 0x80) : '\r' ∉ hexCode c := by
  have all : ∀ code < 0x80, '\r' ∉ hexCode (Char.ofNat code) := by decide
  have found := all c.toNat ascii
  rwa [Char.ofNat_toNat] at found

theorem writtenChar_not_return (isLines : Bool) (c : Char) : '\r' ∉ writtenChar isLines c := by
  by_cases carriage : c = '\r'
  · subst c
    cases isLines <;> decide
  · unfold writtenChar
    repeat' split
    any_goals decide
    · rename_i escaped
      simp [hexCode_not_return (ascii_of_mustEscape escaped)]
    · simp [Ne.symm carriage]

theorem basicChars_not_return (isLines : Bool) (room run : Nat) (text : List Char) :
    '\r' ∉ basicChars isLines room run text := by
  induction text generalizing run with
  | nil => simp [basicChars]
  | cons c text ih =>
    by_cases quote : c = '"'
    · subst c
      rw [basicChars, if_pos rfl]
      split <;> simp [ih]
    · rw [basicChars_other quote, List.mem_append, not_or]
      exact ⟨writtenChar_not_return isLines c, ih 0⟩

theorem not_return_of_kept {text : List Char} (kept : ∀ c ∈ text, mustEscape c = false) : '\r' ∉ text := by
  intro member
  cases kept '\r' member

/-- No carriage return is ever written as it is, so that no reader can fold it into a line end. -/
theorem stringChars_not_return (text : List Char) : '\r' ∉ stringChars text := by
  unfold stringChars
  cases style : styleOf text with
  | basic => simp [basicChars_not_return]
  | literal =>
    have kept := fun c member => ((styleOf_literal style).1 c member).1
    simp [not_return_of_kept kept]
  | basicLines =>
    dsimp only
    split <;> simp [basicChars_not_return]
  | literalLines =>
    have kept := (styleOf_literalLines style).1
    dsimp only
    split <;> simp [not_return_of_kept kept]

end Leasehold.Toml
