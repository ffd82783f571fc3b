import Leasehold.Proofs.Toml.Strings
import Leasehold.Toml.Reader

/-! Documents read line by line: a header begins a table, and each line after it puts a text under a key
into that table. What is read is told by what the whole rest of the document makes of the draft so far
(`Reads`), so that the lines can be taken one after the other. -/
namespace Leasehold.Toml

variable {rest : List Char} {key : String}

/-! ## Keys -/

/-- A key that needs no quotes. -/
def IsBareKey (key : String) : Prop := key.toList ≠ [] ∧ key.toList.all isBare = true

instance (key : String) : Decidable (IsBareKey key) := inferInstanceAs (Decidable (_ ∧ _))

theorem IsBareKey.each (bare : IsBareKey key) : ∀ c ∈ key.toList, isBare c = true :=
  List.all_eq_true.mp bare.2

theorem ne_of_isBare {c d : Char} (bare : isBare c = true) (other : isBare d = false) : c ≠ d := by
  rintro rfl
  rw [bare] at other
  cases other

theorem isSpace_of_isBare {c : Char} (bare : isBare c = true) : isSpace c = false := by
  have space : c ≠ ' ' := ne_of_isBare bare rfl
  have tab : c ≠ '\t' := ne_of_isBare bare rfl
  simp [isSpace, space, tab]

theorem IsBareKey.begins (bare : IsBareKey key) :
    ∃ first others, key.toList = first :: others ∧ isBare first = true := by
  obtain ⟨first, others, same⟩ := List.exists_cons_of_ne_nil bare.1
  exact ⟨first, others, same, bare.each first (same ▸ List.mem_cons_self)⟩

theorem simpleKey?_append (bare : IsBareKey key) {c : Char} (ends : isBare c = false) :
    simpleKey? (key.toList ++ c :: rest) = some (key, c :: rest) := by
  have before : (key.toList ++ c :: rest).takeWhile isBare = key.toList := by
    rw [List.takeWhile_append_of_pos bare.each, List.takeWhile_cons_of_neg (by simp [ends]), List.append_nil]
  have after : (key.toList ++ c :: rest).dropWhile isBare = c :: rest := by
    rw [List.dropWhile_append_of_pos bare.each, List.dropWhile_cons_of_neg (by simp [ends])]
  obtain ⟨first, others, same, isFirst⟩ := bare.begins
  have basic : first ≠ '"' := ne_of_isBare isFirst rfl
  have literal : first ≠ '\'' := ne_of_isBare isFirst rfl
  have name : String.ofList (first :: others) = key := by rw [← same, String.ofList_toList]
  rw [same, List.cons_append] at before after ⊢
  simp [simpleKey?, basic, literal, before, after, name]

/-- A key without quotes is read back as one part. -/
theorem path?_append (bare : IsBareKey key) {c d : Char} {others : List Char} (ends : isBare c = false)
    (spaces : (c :: rest).dropWhile isSpace = d :: others) (last : d ≠ '.') :
    path? (key.toList ++ c :: rest) = some ([], key, d :: others) := by
  have unspaced : (key.toList ++ c :: rest).dropWhile isSpace = key.toList ++ c :: rest := by
    obtain ⟨first, others, same, isFirst⟩ := bare.begins
    rw [same, List.cons_append, List.dropWhile_cons_of_neg (by simp [isSpace_of_isBare isFirst])]
  have parts : key? ((key.toList ++ c :: rest).length + 1) (key.toList ++ c :: rest) =
      some ([key], d :: others) := by
    simp [key?, unspaced, simpleKey?_append bare ends, spaces, last]
  rw [path?, parts]
  rfl

/-! ## Lines -/

/-- What a header brings to the draft of a document. -/
theorem line?_header (bare : IsBareKey key) (draft : Draft) :
    line? draft ('[' :: (key.toList ++ ']' :: '\n' :: rest)) =
      (draft.begin? [key]).map fun draft => (draft, rest) := by
  have path : path? (key.toList ++ ']' :: '\n' :: rest) = some ([], key, ']' :: '\n' :: rest) :=
    path?_append bare rfl rfl (by decide)
  have single : expect? '[' (key.toList ++ ']' :: '\n' :: rest) = none := by
    obtain ⟨first, others, same, isFirst⟩ := bare.begins
    rw [same, List.cons_append, expect?, if_neg (Ne.symm (ne_of_isBare isFirst rfl))]
  have ends : lineEnd? ('\n' :: rest) = some rest := by simp [lineEnd?, isSpace]
  have header : headerLine? draft (key.toList ++ ']' :: '\n' :: rest) =
      (draft.begin? [key]).map fun draft => (draft, rest) := by
    have closes : expect? ']' (']' :: '\n' :: rest) = some ('\n' :: rest) := rfl
    simp only [headerLine?, single, path, Option.bind_eq_bind, Option.bind_some, closes, ends,
      List.nil_append]
    cases draft.begin? [key] <;> rfl
  simp [line?, isSpace, header]

/-- What a text under a key brings to the draft of a document. -/
theorem line?_text (bare : IsBareKey key) (draft : Draft) (value : String) :
    line? draft (key.toList ++ ' ' :: '=' :: ' ' :: (stringChars value.toList ++ '\n' :: rest)) =
      (draft.put? [] key (.text value)).map fun draft => (draft, rest) := by
  have path : path? (key.toList ++ ' ' :: '=' :: ' ' :: (stringChars value.toList ++ '\n' :: rest)) =
      some ([], key, '=' :: ' ' :: (stringChars value.toList ++ '\n' :: rest)) :=
    path?_append bare rfl rfl (by decide)
  obtain ⟨quote, others, begins, isQuote⟩ := stringChars_begins value.toList
  have spaces : (' ' :: (stringChars value.toList ++ '\n' :: rest)).dropWhile isSpace =
      stringChars value.toList ++ '\n' :: rest := by
    have unspaced : isSpace quote = false := by rcases isQuote with rfl | rfl <;> rfl
    rw [begins, List.dropWhile_cons_of_pos rfl, List.cons_append,
      List.dropWhile_cons_of_neg (by simp [unspaced])]
  have read (fuel : Nat) : value? (fuel + 1) maxDepth (stringChars value.toList ++ '\n' :: rest) =
      some (.text value, '\n' :: rest) := by
    have found : string? (stringChars value.toList ++ '\n' :: rest) = some (value.toList, '\n' :: rest) :=
      string?_append value.toList
    rw [begins, List.cons_append] at found ⊢
    simp only [value?, if_pos isQuote, found, Option.map_some, String.ofList_toList]
  have ends : lineEnd? ('\n' :: rest) = some rest := by simp [lineEnd?, isSpace]
  have pair : pairLine? draft
      (key.toList ++ ' ' :: '=' :: ' ' :: (stringChars value.toList ++ '\n' :: rest)) =
        (draft.put? [] key (.text value)).map fun draft => (draft, rest) := by
    simp only [pairLine?, path, Option.bind_eq_bind, Option.bind_some, expect?, ↓reduceIte, spaces, read,
      ends]
    cases draft.put? [] key (.text value) <;> rfl
  obtain ⟨first, letters, same, isFirst⟩ := bare.begins
  have comment : first ≠ '#' := ne_of_isBare isFirst rfl
  have lineFeed : first ≠ '\n' := ne_of_isBare isFirst rfl
  have header : first ≠ '[' := ne_of_isBare isFirst rfl
  rw [same, List.cons_append] at pair ⊢
  simp only [line?, List.dropWhile_cons, isSpace_of_isBare isFirst, Bool.false_eq_true, ↓reduceIte,
    comment, lineFeed, or_self, header, pair]

/-! ## Tables -/

theorem find?_append_self {entries : Entries} (fresh : find? key entries = none) (value : Toml) :
    find? key (entries ++ [(key, value)]) = some value := by
  induction entries with
  | nil => simp [find?]
  | cons entry entries ih =>
    obtain ⟨found, old⟩ := entry
    rw [find?] at fresh
    split at fresh
    · cases fresh
    · rename_i other
      rw [List.cons_append, find?, if_neg other, ih fresh]

theorem replace_append_self {entries : Entries} (fresh : find? key entries = none) (old value : Toml) :
    replace key value (entries ++ [(key, old)]) = entries ++ [(key, value)] := by
  induction entries with
  | nil => simp [replace]
  | cons entry entries ih =>
    obtain ⟨found, former⟩ := entry
    rw [find?] at fresh
    split at fresh
    · cases fresh
    · rename_i other
      rw [List.cons_append, replace, if_neg other, ih fresh, List.cons_append]

/-- A draft whose last entry is the table that lines go into. -/
def Draft.inTable (before : Entries) (key : String) (below : Entries) : Draft where
  entries := before ++ [(key, .table .headed below)]
  path := [key]

/-- A header begins a table behind everything else. -/
theorem begin?_inTable {draft : Draft} (fresh : find? key draft.entries = none) :
    draft.begin? [key] = some (.inTable draft.entries key []) := by
  simp [Draft.begin?, descend?, fresh, Draft.inTable]

/-- A new key goes behind the others of its table. -/
theorem put?_inTable {before below : Entries} {table : String} (fresh : find? table before = none)
    (freshKey : find? key below = none) (value : Toml) :
    (Draft.inTable before table below).put? [] key value =
      some (.inTable before table (below ++ [(key, value)])) := by
  have found := find?_append_self fresh (.table .headed below)
  have replaced := replace_append_self fresh (.table .headed below) (.table .headed (below ++ [(key, value)]))
  simp [Draft.put?, Draft.inTable, descend?, Toml.put?, found, freshKey, replaced]

/-! ## Documents -/

/-- Whatever the fuel, the rest of a document brings a draft to these entries. -/
def Reads (draft : Draft) (input : List Char) (entries : Entries) : Prop :=
  ∀ fuel, input.length < fuel → (lines? fuel draft input).map (·.entries) = some entries

theorem reads_nil (draft : Draft) : Reads draft [] draft.entries := by
  intro fuel enough
  obtain ⟨fuel, rfl⟩ : ∃ less, fuel = less + 1 := ⟨fuel - 1, by omega⟩
  rfl

/-- One line after the other is read. -/
theorem Reads.line {draft next : Draft} {input : List Char} {entries : Entries}
    (line : line? draft input = some (next, rest)) (shorter : rest.length < input.length)
    (onward : Reads next rest entries) : Reads draft input entries := by
  intro fuel enough
  obtain ⟨fuel, rfl⟩ : ∃ less, fuel = less + 1 := ⟨fuel - 1, by omega⟩
  obtain ⟨c, others, rfl⟩ : ∃ c others, input = c :: others := by
    cases input with
    | nil => exact absurd shorter (Nat.not_lt_zero _)
    | cons c others => exact ⟨c, others, rfl⟩
  rw [lines?, line]
  · exact onward fuel (by omega)
  · exact List.cons_ne_nil c others

theorem Reads.blank {draft : Draft} {entries : Entries} (onward : Reads draft rest entries) :
    Reads draft ('\n' :: rest) entries := by
  apply onward.line _ (Nat.lt_succ_self _)
  simp [line?, lineEnd?, isSpace]

theorem Reads.header {draft : Draft} {entries : Entries} (bare : IsBareKey key)
    (fresh : find? key draft.entries = none)
    (onward : Reads (.inTable draft.entries key []) rest entries) :
    Reads draft ('[' :: (key.toList ++ ']' :: '\n' :: rest)) entries := by
  apply onward.line
  · rw [line?_header bare, begin?_inTable fresh, Option.map_some]
  · simp only [List.length_cons, List.length_append]
    omega

/-- The texts of a table. -/
def texts (pairs : List (String × String)) : Entries := pairs.map fun (key, value) => (key, .text value)

/-- The lines of a table. -/
def textLines (pairs : List (String × String)) : List Char :=
  pairs.flatMap fun (key, value) =>
    key.toList ++ ' ' :: '=' :: ' ' :: (stringChars value.toList ++ ['\n'])

theorem find?_texts {pairs : List (String × String)} (fresh : key ∉ pairs.map Prod.fst) :
    find? key (texts pairs) = none := by
  induction pairs with
  | nil => rfl
  | cons pair pairs ih =>
    rw [List.map_cons, List.mem_cons, not_or] at fresh
    rw [texts, List.map_cons, find?, if_neg (Ne.symm fresh.1)]
    exact ih fresh.2

/-- The lines of a table are read into it, after those that are already there. -/
theorem Reads.texts {before : Entries} {table : String} (fresh : find? table before = none)
    (done : List (String × String)) {pairs : List (String × String)}
    (bare : ∀ pair ∈ pairs, IsBareKey pair.1)
    (distinct : ((done ++ pairs).map Prod.fst).Nodup) {entries : Entries}
    (onward : Reads (.inTable before table (Toml.texts (done ++ pairs))) rest entries) :
    Reads (.inTable before table (Toml.texts done)) (textLines pairs ++ rest) entries := by
  induction pairs generalizing done with
  | nil =>
    rw [List.append_nil] at onward
    exact onward
  | cons pair pairs ih =>
    obtain ⟨key, value⟩ := pair
    have freshKey : key ∉ done.map Prod.fst := by
      rw [List.map_append, List.nodup_append] at distinct
      exact fun member => distinct.2.2 key member key List.mem_cons_self rfl
    have put := put?_inTable fresh (find?_texts freshKey) (.text value)
    have extended : Toml.texts done ++ [(key, .text value)] = Toml.texts (done ++ [(key, value)]) := by
      simp [Toml.texts]
    have later : Reads (.inTable before table (Toml.texts (done ++ [(key, value)])))
        (textLines pairs ++ rest) entries := by
      apply ih (done ++ [(key, value)]) (fun pair member => bare pair (List.mem_cons_of_mem _ member))
      · rwa [List.append_assoc, List.singleton_append]
      · rwa [List.append_assoc, List.singleton_append]
    have split : textLines ((key, value) :: pairs) ++ rest =
        key.toList ++ ' ' :: '=' :: ' ' ::
          (stringChars value.toList ++ '\n' :: (textLines pairs ++ rest)) := by
      simp [textLines]
    rw [split]
    apply later.line
    · rw [line?_text (bare (key, value) List.mem_cons_self), put, Option.map_some, extended]
    · simp only [List.length_append, List.length_cons]
      omega

theorem foldLineEnds_eq {input : List Char} (noReturn : '\r' ∉ input) : foldLineEnds input = input := by
  induction input with
  | nil => rfl
  | cons c input ih =>
    rw [List.mem_cons, not_or] at noReturn
    rw [foldLineEnds]
    · rw [ih noReturn.2]
    · rintro later rfl
      exact absurd rfl noReturn.1

/-- A document without carriage returns and without a mark in front is read as its lines say. -/
theorem read?_of_reads {input : List Char} {entries : Entries} (reads : Reads {} input entries)
    (unmarked : input.head? ≠ some '\uFEFF') (noReturn : '\r' ∉ input) : read? input = some entries := by
  rw [read?, if_neg unmarked, foldLineEnds_eq noReturn]
  exact reads (input.length + 1) (Nat.lt_succ_self _)

end Leasehold.Toml
