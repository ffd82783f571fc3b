import Leasehold.Proofs.Agent.Bodies

/-! Lists of leases survive the wire. Whatever spelling the list has, whatever else its elements hold, in whatever
order, and whichever empty texts and zeros are left out of them, the list is read back. -/
namespace Leasehold.Agent

/-- A value reports a lease. The members may stand in any order, among others, and all but the id may be left
out when they are empty or zero. -/
def IsReport (json : Json) (lease : Descriptor) : Prop :=
  ∃ name node ttl behavior lockDelay createIndex,
    json.Gives Descriptor.memberNames
      [some (.text lease.id), name, node, ttl, behavior, lockDelay, createIndex] ∧
    PlainText name lease.name ∧ PlainText node lease.node ∧ PlainText ttl lease.ttl ∧
    PlainText behavior lease.behavior ∧ PlainWord lockDelay lease.lockDelay ∧
    PlainWord createIndex lease.createIndex

/-- A text is a list of reports of these leases, in their order. -/
def Lists (text : List Char) (leases : List Descriptor) : Prop :=
  ∃ items, Json.Spells (.array items) text ∧ List.Forall₂ IsReport items leases

/-- The numbers of a lease fit 64 bits. -/
def Fits (lease : Descriptor) : Prop :=
  lease.lockDelay < 18446744073709551616 ∧ lease.createIndex < 18446744073709551616

section
variable {agent : Agent} {id : String} {json : Json} {lease : Descriptor} {leases : List Descriptor}
variable {text : List Char}

theorem ofJson?_eq_some : Descriptor.ofJson? json = some lease ↔ IsReport json lease := by
  constructor
  · intro read
    obtain ⟨found, given, read⟩ := Option.bind_eq_some_iff.mp read
    have gives := Json.fields?_eq_some.mp given
    split at read
    · simp only [Option.bind_eq_bind, Option.bind_eq_some_iff, Option.some.injEq] at read
      obtain ⟨_, rfl, _, isId, _, isName, _, isNode, _, isTtl, _, isBehavior, _, isDelay, _, isIndex, rfl⟩ :=
        read
      rw [text?_eq_some.mp isId] at gives
      exact ⟨_, _, _, _, _, _, gives, textOr_eq_some.mp isName, textOr_eq_some.mp isNode,
        textOr_eq_some.mp isTtl, textOr_eq_some.mp isBehavior, wordOr_eq_some.mp isDelay,
        wordOr_eq_some.mp isIndex⟩
    · cases read
  · rintro ⟨_, _, _, _, _, _, gives, isName, isNode, isTtl, isBehavior, isDelay, isIndex⟩
    have given := Json.fields?_eq_some.mpr gives
    simp [Descriptor.ofJson?, given, textOr_eq_some.mpr isName, textOr_eq_some.mpr isNode,
      textOr_eq_some.mpr isTtl, textOr_eq_some.mpr isBehavior, wordOr_eq_some.mpr isDelay,
      wordOr_eq_some.mpr isIndex, Json.text, Json.text?]

/-- A lease is reported by its own JSON value. -/
theorem isReport_toJson (fits : Fits lease) : IsReport lease.toJson lease := by
  have distinct : Descriptor.memberNames.Nodup := by decide
  exact ⟨_, _, _, _, _, _, .named (Json.once_record _ distinct), .text _, .text _, .text _, .text _,
    .number fits.1, .number fits.2⟩

theorem isSpelled_toJson (lease : Descriptor) : lease.toJson.IsSpelled := by
  apply Json.isSpelled_record
  simp only [List.forall_mem_cons, List.not_mem_nil, false_implies, implies_true, and_true]
  exact ⟨.string _, .string _, .string _, .string _, .string _, Json.isSpelled_nat _, Json.isSpelled_nat _⟩

/-- The compact text of a list of leases. -/
theorem lists_chars (fits : ∀ lease ∈ leases, Fits lease) :
    Lists (Json.array (leases.map Descriptor.toJson)).chars leases := by
  refine ⟨leases.map Descriptor.toJson, Json.IsSpelled.spells (.array ?_), ?_⟩
  · intro item member
    obtain ⟨lease, -, rfl⟩ := List.mem_map.mp member
    exact isSpelled_toJson lease
  · rw [List.forall₂_map_left_iff, List.forall₂_same]
    exact fun lease member => isReport_toJson (fits lease member)

/-- The leases of a body. -/
theorem descriptors?_listed (lists : Lists text leases) :
    (jsonOf? (some (Text.encode (String.ofList text)))).bind descriptors? = some leases := by
  obtain ⟨items, spells, each⟩ := lists
  rw [jsonOf?_spelled spells, Option.bind_some, descriptors?, Json.mapM_eq_some]
  exact each.imp fun _ _ => ofJson?_eq_some.mpr

/-- **Lists of leases survive the wire.** The JSON text of a list of leases is a list of reports of them. Every
text that is one is answered with the leases, in their order, and tells a renewal that its lease is there,
unless the list is empty. -/
theorem leases_survive_wire (asked : Heard agent .list 200) (renewed : Heard agent (.renew id) 200)
    (fits : ∀ lease ∈ leases, Fits lease) :
    Lists (Json.array (leases.map Descriptor.toJson)).chars leases ∧
      ∀ text, Lists text leases →
        (exchange agent .list (.answered 200 (Text.encode (String.ofList text)) true)).outcome =
            .ok leases ∧
          (exchange agent (.renew id) (.answered 200 (Text.encode (String.ofList text)) true)).outcome =
            if leases = [] then .error (.sessionNotFound id) else .ok () := by
  refine ⟨lists_chars fits, fun text lists => ?_⟩
  have read := descriptors?_listed lists
  constructor
  · rw [asked.success, success, read]
  · rw [renewed.success, success, read]
    cases leases with
    | nil => rfl
    | cons lease leases => rw [if_neg (by simp)]

end

/-- A lease whose name needs escapes, and whose numbers are as large as they can be. -/
def oddLease : Descriptor where
  id := "abc"
  name := "a \x22b\x22\n\u00e9"
  lockDelay := 18446744073709551615
  createIndex := 18446744073709551615

theorem odd_lease_survives :
    Heard plainAgent .list 200 ∧ Heard plainAgent (.renew "abc") 200 ∧ Fits oddLease ∧
      (exchange plainAgent .list (.answered 200
          (Text.encode (String.ofList (Json.array [oddLease.toJson]).chars)) true)).outcome =
        .ok [oddLease] ∧
      (exchange plainAgent (.renew "abc") (.answered 200
          (Text.encode (String.ofList (Json.array [oddLease.toJson]).chars)) true)).outcome = .ok () := by
  have asked : Heard plainAgent .list 200 := heard_of_made rfl (by decide +kernel)
  have renewed : Heard plainAgent (.renew "abc") 200 := heard_of_made rfl (by decide +kernel)
  have fits : Fits oddLease := ⟨by decide, by decide⟩
  have each : ∀ lease ∈ [oddLease], Fits lease := by simp [fits]
  obtain ⟨lists, answers⟩ := leases_survive_wire asked renewed each
  obtain ⟨listed, lives⟩ := answers _ lists
  exact ⟨asked, renewed, fits, listed, lives⟩

end Leasehold.Agent
