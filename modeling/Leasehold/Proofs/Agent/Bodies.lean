import Leasehold.Proofs.Agent.Loss
import Leasehold.Proofs.Json.Fields
import Leasehold.Proofs.Json.Grammar

/-! Bodies of successes that spell JSON values. The reader of a member takes a member that is absent, and one
that has the right kind, and no other. -/
namespace Leasehold.Agent

/-- A text that is given, or is null or left out. -/
inductive OptionalText : Option Json → Option String → Prop where
  | absent : OptionalText none none
  | null : OptionalText (some .null) none
  | text (value : String) : OptionalText (some (.text value)) (some value)

/-- A text that is given, or is left out when it is empty. -/
inductive PlainText : Option Json → String → Prop where
  | absent : PlainText none ""
  | text (value : String) : PlainText (some (.text value)) value

/-- A number of 64 bits that is given, or is left out when it is zero. -/
inductive PlainWord : Option Json → Nat → Prop where
  | absent : PlainWord none 0
  | number {value : Nat} (fits : value < 18446744073709551616) : PlainWord (some (.nat value)) value

section
variable {agent : Agent} {request : Backend.Request} {status : Nat} {json : Json} {text : List Char}
variable {found : Option Json}

theorem text?_eq_some {value : String} : json.text? = some value ↔ json = .text value := by
  cases json <;> simp [Json.text?, Json.text]

theorem word?_eq_some {value : Nat} :
    json.word? = some value ↔ json = .nat value ∧ value < 18446744073709551616 := by
  constructor
  · intro read
    unfold Json.word? at read
    split at read
    · split at read
      · rename_i fits
        cases read
        exact ⟨rfl, fits⟩
      · cases read
    · cases read
  · rintro ⟨rfl, fits⟩
    rw [Json.nat, Json.word?, if_pos fits]

theorem optionalText?_eq_some {said : Option String} :
    optionalText? found = some said ↔ OptionalText found said := by
  constructor
  · intro read
    unfold optionalText? at read
    split at read
    · cases read
      exact .absent
    · cases read
      exact .null
    · obtain ⟨value, text, rfl⟩ := Option.map_eq_some_iff.mp read
      rw [text?_eq_some.mp text]
      exact .text value
  · intro given
    cases given <;> rfl

theorem textOr_eq_some {value : String} : Descriptor.textOr "" found = some value ↔ PlainText found value := by
  constructor
  · intro read
    cases found with
    | none =>
      cases read
      exact .absent
    | some json =>
      rw [text?_eq_some.mp read]
      exact .text value
  · intro given
    cases given <;> rfl

theorem wordOr_eq_some {value : Nat} : Descriptor.wordOr 0 found = some value ↔ PlainWord found value := by
  constructor
  · intro read
    cases found with
    | none =>
      cases read
      exact .absent
    | some json =>
      obtain ⟨rfl, fits⟩ := word?_eq_some.mp read
      exact .number fits
  · intro given
    cases given with
    | absent => rfl
    | number fits => exact word?_eq_some.mpr ⟨rfl, fits⟩

/-- A success is answered from its body. -/
theorem Heard.success (heard : Heard agent request 200) (body : List UInt8) :
    (exchange agent request (.answered 200 body true)).outcome = Agent.success (some body) request :=
  heard.outcome

/-- A body is read as the value that it spells. -/
theorem jsonOf?_spelled (spells : Json.Spells json text) :
    jsonOf? (some (Text.encode (String.ofList text))) = some json := Json.ofBytes?_spelled spells

end

end Leasehold.Agent
