import Leasehold.Proofs.Agent.Bodies
import Leasehold.Proofs.Text.Base64

/-! What an agent says of a key. A reply is read as a whole, so that each of its elements has to be a key, and
the first one is reported. Its value is decoded only if it is what some bytes are encoded as. -/
namespace Leasehold.Agent

/-- A value is a key as an agent gives it. The members may stand in any order, among others. -/
def IsKey (json : Json) (entry : RawEntry) : Prop :=
  ∃ value session modifyIndex,
    json.Gives ["Key", "Value", "Session", "ModifyIndex"]
      [some (.text entry.key), value, session, modifyIndex] ∧
    OptionalText value entry.value ∧ OptionalText session entry.session ∧
    PlainWord modifyIndex entry.modifyIndex

/-- The value of a key as an agent gives it: Base64, or nothing for no bytes. -/
def Encodes : Option String → List UInt8 → Prop
  | none, value => value = []
  | some text, value => Text.encode text = Text.Base64.encode value

section
variable {agent : Agent} {asked : String} {json : Json} {entry : RawEntry} {value : List UInt8}
variable {items : List Json} {text : List Char}

theorem rawEntry?_eq_some : rawEntry? json = some entry ↔ IsKey json entry := by
  constructor
  · intro read
    obtain ⟨found, given, read⟩ := Option.bind_eq_some_iff.mp read
    have gives := Json.fields?_eq_some.mp given
    split at read
    · simp only [Option.bind_eq_bind, Option.bind_eq_some_iff, Option.some.injEq] at read
      obtain ⟨_, rfl, key, isKey, said, isValue, holder, isSession, index, isIndex, rfl⟩ := read
      rw [text?_eq_some.mp isKey] at gives
      exact ⟨_, _, _, gives, optionalText?_eq_some.mp isValue, optionalText?_eq_some.mp isSession,
        wordOr_eq_some.mp isIndex⟩
    · cases read
  · rintro ⟨value, session, modifyIndex, gives, isValue, isSession, isIndex⟩
    have given := Json.fields?_eq_some.mpr gives
    simp [given, rawEntry?, optionalText?_eq_some.mpr isValue, optionalText?_eq_some.mpr isSession,
      wordOr_eq_some.mpr isIndex, Json.text, Json.text?]

/-- A value is decoded when it encodes some bytes. -/
theorem decode_encoded (encodes : Encodes entry.value value) :
    entry.decode = .ok ⟨entry.key, value, entry.session.filter (· ≠ ""), entry.modifyIndex⟩ := by
  rw [RawEntry.decode]
  cases said : entry.value with
  | none =>
    rw [said] at encodes
    obtain rfl : value = [] := encodes
    rfl
  | some text =>
    rw [said] at encodes
    simp only [Text.Base64.decode_eq_ok.mpr encodes]

theorem decode_accepted {found : KeyEntry} (accepted : entry.decode = .ok found) :
    Encodes entry.value found.value := by
  rw [RawEntry.decode] at accepted
  cases said : entry.value with
  | none =>
    rw [said] at accepted
    cases accepted
    rfl
  | some text =>
    simp only [said] at accepted
    split at accepted
    · rename_i value read
      cases accepted
      exact Text.Base64.decode_eq_ok.mp read
    · cases accepted

theorem decode_refused (undecodable : ∀ value, ¬ Encodes entry.value value) :
    ∃ why, entry.decode = .error (.backendRejected 200 why) := by
  cases said : entry.value with
  | none => exact absurd (by rw [said]; rfl) (undecodable [])
  | some text =>
    cases read : Text.Base64.decode (Text.encode text) with
    | ok value =>
      refine absurd ?_ (undecodable value)
      rw [said]
      exact Text.Base64.decode_eq_ok.mp read
    | error fault =>
      rw [RawEntry.decode, said]
      dsimp only
      rw [read]
      exact ⟨_, rfl⟩

theorem mapM_isKey {entries : List RawEntry} :
    items.mapM rawEntry? = some entries ↔ List.Forall₂ IsKey items entries := by
  rw [Json.mapM_eq_some]
  simp only [rawEntry?_eq_some]

/-- A key is answered from the first element, if all elements are keys. -/
theorem Heard.got {entries : List RawEntry} (heard : Heard agent (.get asked) 200)
    (spells : Json.Spells (.array items) text) (each : List.Forall₂ IsKey items (entry :: entries)) :
    (exchange agent (.get asked) (.answered 200 (Text.encode (String.ofList text)) true)).outcome =
      entry.decode.map some := by
  rw [heard.success, Agent.success, jsonOf?_spelled spells, Option.bind_some, rawEntries?,
    mapM_isKey.mpr each]
  dsimp only
  cases entry.decode <;> rfl

/-- An element that is no key spoils the reply. -/
theorem Heard.got_unreadable (heard : Heard agent (.get asked) 200)
    (spells : Json.Spells (.array items) text)
    (spoiled : ∃ item ∈ items, ∀ entry, ¬ IsKey item entry) :
    (exchange agent (.get asked) (.answered 200 (Text.encode (String.ofList text)) true)).outcome =
      .error unreadable := by
  obtain ⟨item, member, noKey⟩ := spoiled
  have unread : items.mapM rawEntry? = none := by
    cases read : items.mapM rawEntry? with
    | none => rfl
    | some entries =>
      obtain ⟨entry, isKey⟩ := Json.exists_of_forall₂ (mapM_isKey.mp read) member
      exact absurd isKey (noKey entry)
  rw [heard.success, Agent.success, jsonOf?_spelled spells, Option.bind_some, rawEntries?, unread]

/-- **A key is decoded exactly.** A reply that spells an array of keys is answered with the first of them, its
value decoded, if the value is what some bytes are encoded as, and is rejected if it is not: what is accepted
gives the encoded text back. A reply with an element that is no key is not read at all. -/
theorem key_decoded_exactly (heard : Heard agent (.get asked) 200)
    (spells : Json.Spells (.array items) text) :
    let answer := (exchange agent (.get asked)
      (.answered 200 (Text.encode (String.ofList text)) true)).outcome
    (∀ entry entries, List.Forall₂ IsKey items (entry :: entries) →
      (∀ value, Encodes entry.value value → answer =
        .ok (some ⟨entry.key, value, entry.session.filter (· ≠ ""), entry.modifyIndex⟩)) ∧
      (∀ found, answer = .ok (some found) → Encodes entry.value found.value) ∧
      ((∀ value, ¬ Encodes entry.value value) → ∃ why, answer = .error (.backendRejected 200 why))) ∧
    ((∃ item ∈ items, ∀ entry, ¬ IsKey item entry) → answer = .error unreadable) := by
  refine ⟨?_, heard.got_unreadable spells⟩
  intro entry entries each
  have first := heard.got spells each
  refine ⟨?_, ?_, ?_⟩
  · intro value encodes
    rw [first, decode_encoded encodes]
    rfl
  · intro found accepted
    rw [first] at accepted
    cases read : entry.decode with
    | error error =>
      rw [read] at accepted
      cases accepted
    | ok decoded =>
      rw [read] at accepted
      cases accepted
      exact decode_accepted read
  · intro undecodable
    obtain ⟨why, refused⟩ := decode_refused undecodable
    exact ⟨why, by rw [first, refused]; rfl⟩

end

/-- A key with a value of three bytes, which nobody holds. -/
def fooKey : Json :=
  .record [("LockIndex", .nat 0), ("Key", .text "foo"), ("Value", .text "YmFy"), ("ModifyIndex", .nat 5)]

theorem isKey_fooKey : IsKey fooKey ⟨"foo", some "YmFy", none, 5⟩ := by
  refine ⟨some (.text "YmFy"), none, some (.nat 5), .named ?_, .text "YmFy", .absent, .number (by decide)⟩
  refine .cons (.present [("LockIndex", .nat 0)] _ rfl (by decide)) (.cons ?_ (.cons ?_ (.cons ?_ .nil)))
  · exact .present [("LockIndex", .nat 0), ("Key", .text "foo")] _ rfl (by decide)
  · exact .absent (by decide)
  · exact .present [("LockIndex", .nat 0), ("Key", .text "foo"), ("Value", .text "YmFy")] [] rfl (by decide)

theorem encodes_fooKey : Encodes (some "YmFy") [98, 97, 114] := by
  change Text.encode "YmFy" = Text.Base64.encode [98, 97, 114]
  decide +kernel

theorem isSpelled_fooKey : fooKey.IsSpelled := by
  apply Json.isSpelled_record
  simp only [List.forall_mem_cons, List.not_mem_nil, false_implies, implies_true, and_true]
  exact ⟨Json.isSpelled_nat 0, .string _, .string _, Json.isSpelled_nat 5⟩

theorem heard_foo : Heard plainAgent (.get "foo") 200 := heard_of_made rfl (by decide +kernel)

theorem foo_holds_bar :
    Heard plainAgent (.get "foo") 200 ∧ Json.Spells (.array [fooKey]) (Json.array [fooKey]).chars ∧
      List.Forall₂ IsKey [fooKey] [⟨"foo", some "YmFy", none, 5⟩] ∧
      Encodes (some "YmFy") [98, 97, 114] ∧
      (exchange plainAgent (.get "foo") (.answered 200
          (Text.encode (String.ofList (Json.array [fooKey]).chars)) true)).outcome =
        .ok (some ⟨"foo", [98, 97, 114], none, 5⟩) := by
  have spells : Json.Spells (.array [fooKey]) (Json.array [fooKey]).chars :=
    (Json.IsSpelled.array (by simp [isSpelled_fooKey])).spells
  have each : List.Forall₂ IsKey [fooKey] [⟨"foo", some "YmFy", none, 5⟩] := .cons isKey_fooKey .nil
  exact ⟨heard_foo, spells, each, encodes_fooKey,
    ((key_decoded_exactly heard_foo spells).1 _ _ each).1 [98, 97, 114] encodes_fooKey⟩

/-- The first element is a key that could be reported, but the second one is no key. -/
theorem later_element_spoils_key :
    Heard plainAgent (.get "foo") 200 ∧ IsKey fooKey ⟨"foo", some "YmFy", none, 5⟩ ∧
      Encodes (some "YmFy") [98, 97, 114] ∧
      Json.Spells (.array [fooKey, .nat 5]) (Json.array [fooKey, .nat 5]).chars ∧
      (exchange plainAgent (.get "foo") (.answered 200
          (Text.encode (String.ofList (Json.array [fooKey, .nat 5]).chars)) true)).outcome =
        .error unreadable := by
  have spells : Json.Spells (.array [fooKey, .nat 5]) (Json.array [fooKey, .nat 5]).chars :=
    (Json.IsSpelled.array (by simp [isSpelled_fooKey, Json.isSpelled_nat])).spells
  have noKey (entry : RawEntry) : ¬ IsKey (.nat 5) entry := by
    rintro ⟨_, _, _, gives, -⟩
    cases gives
  exact ⟨heard_foo, isKey_fooKey, encodes_fooKey, spells,
    heard_foo.got_unreadable spells ⟨.nat 5, by simp, noKey⟩⟩

end Leasehold.Agent
