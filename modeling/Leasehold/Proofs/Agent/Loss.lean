import Leasehold.Proofs.Agent.Unavailability

/-! When an agent says that a lease is lost. Only a request that is made for a lease can be told so, and
what it is told names that lease. A failure tells it by its status or by its text, which the blanks around
the text do not change (`namesLoss_trim`); a success tells it to a renewal only, by a list of leases that
has none. -/
namespace Leasehold.Agent

/-- The text of a reply. A body that broke off has none, and with some statuses there is no body. -/
def wording (status : Nat) (body : List UInt8) (whole : Bool) : List Char :=
  if hasBody status = true ∧ whole = true then Text.lossy body else []

/-- A reply that says that the lease of a request is lost. -/
def TellsLoss (status : Nat) (body : List UInt8) (whole : Bool) : Backend.Request → Prop
  | .create _ _ | .list | .get _ => False
  | .put _ _ _ | .release _ _ => isSuccess status = false ∧ NamesLoss status (wording status body whole)
  | .destroy _ =>
    isSuccess status = false ∧ status ≠ 404 ∧ NamesLoss status (wording status body whole)
  | .renew _ =>
    isSuccess status = false ∧ NamesLoss status (wording status body whole) ∨
      isSuccess status = true ∧ hasBody status = true ∧ whole = true ∧
        (Json.ofBytes? body = some .null ∨ Json.ofBytes? body = some (.array []))

/-- The message of a request was sent, and this reply ends the exchange. -/
structure Heard (agent : Agent) (request : Backend.Request) (status : Nat) : Prop where
  made : ∃ message, Agent.message agent.settings request = .ok message
  final : isFinal status = true

section
variable {agent : Agent} {request : Backend.Request} {reply : Reply} {read : Option (List UInt8)}
variable {status : Nat} {text word : List Char} {body : List UInt8} {whole : Bool} {id : String}
variable {lease : Option String}

/-! ## Words in a text without its blanks -/

/-- A word is not lost with what stands in front of a text, if the word cannot begin there. -/
theorem infix_dropWhile {p : Char → Bool} (solid : word.head?.any p = false) :
    word <:+: text.dropWhile p ↔ word <:+: text := by
  induction text with
  | nil => rfl
  | cons c rest ih =>
    by_cases drops : p c = true
    · rw [List.dropWhile_cons_of_pos drops, ih, List.infix_cons_iff]
      refine ⟨.inr, ?_⟩
      rintro (begins | inside)
      · cases word with
        | nil => exact List.nil_infix
        | cons d _ =>
          obtain ⟨rfl, -⟩ := List.cons_prefix_cons.mp begins
          exact absurd drops (Bool.eq_false_iff.mp solid)
      · exact inside
    · rw [List.dropWhile_cons_of_neg drops]

theorem infix_trim (first : word.head?.any Text.isBlank = false)
    (last : word.getLast?.any Text.isBlank = false) : word <:+: Text.trim text ↔ word <:+: text := by
  have ends : word.reverse.head?.any Text.isBlank = false := by rwa [List.head?_reverse]
  rw [Text.trim, Text.trimStart, Text.trimStart, ← List.reverse_infix, List.reverse_reverse,
    infix_dropWhile ends, List.reverse_infix, infix_dropWhile first]

theorem toNat_toLower {c : Char} (upper : 'A'.val ≤ c.val ∧ c.val ≤ 'Z'.val) :
    c.toLower.toNat = c.toNat + 32 := by
  have below : c.toNat ≤ 90 := upper.2
  have shifted : c.toLower.val = c.val + 32 := congrArg Char.val (dif_pos upper)
  change c.toLower.val.toNat = _
  rw [shifted, UInt32.toNat_add]
  change (c.toNat + 32) % 2 ^ 32 = _
  omega

/-- No letter is blank, be it a capital or not. -/
theorem isBlank_toLower (c : Char) : Text.isBlank c.toLower = Text.isBlank c := by
  by_cases upper : 'A'.val ≤ c.val ∧ c.val ≤ 'Z'.val
  · have above : 65 ≤ c.toNat := upper.1
    have below : c.toNat ≤ 90 := upper.2
    rw [Bool.eq_iff_iff]
    simp only [Text.isBlank, Text.blankRanges, List.any_cons, List.any_nil, toNat_toLower upper,
      Bool.or_eq_true, Bool.and_eq_true, decide_eq_true_eq, Bool.false_eq_true, or_false]
    omega
  · have same : c.toLower = c := dif_neg upper
    rw [same]

theorem map_toLower_trim (text : List Char) :
    (Text.trim text).map Char.toLower = Text.trim (text.map Char.toLower) := by
  have commutes (text : List Char) :
      (text.dropWhile Text.isBlank).map Char.toLower =
        (text.map Char.toLower).dropWhile Text.isBlank := by
    rw [List.dropWhile_map]
    congr
    funext c
    exact (isBlank_toLower c).symm
  simp only [Text.trim, Text.trimStart, List.map_reverse, commutes]

/-- The blanks around a text do not matter to what it says about a lease. -/
theorem namesLoss_trim : NamesLoss status (Text.trim text) ↔ NamesLoss status text := by
  rw [NamesLoss, NamesLoss, map_toLower_trim, infix_trim (by decide) (by decide),
    infix_trim (by decide) (by decide)]

theorem explanation_eq_trim : explanation status body whole = Text.trim (wording status body whole) := by
  unfold explanation bodyRead? wording
  by_cases expected : hasBody status = true
  · cases whole <;> simp [expected, Text.trim, Text.trimStart]
  · rw [if_pos (by simpa using expected), if_neg fun read => expected read.1]
    rfl

/-! ## Replies -/

theorem classify_lost :
    classify status text lease = .sessionNotFound id ↔ lease = some id ∧ NamesLoss status text := by
  have otherwise : (if saysUnavailable status text then
      Error.backendUnavailable (statusText status ++ ": " ++ String.ofList text)
      else .backendRejected status (String.ofList text)) ≠ .sessionNotFound id := by
    split <;> nofun
  cases lease with
  | none =>
    rw [classify, Option.filter_none]
    exact iff_of_false otherwise (by rintro ⟨⟨⟩, -⟩)
  | some held =>
    by_cases unknown : saysUnknown status text = true
    · rw [classify, Option.filter_some, if_pos unknown, Error.sessionNotFound.injEq,
        Option.some.injEq, and_iff_left (saysUnknown_iff.mp unknown)]
    · rw [classify, Option.filter_some, if_neg unknown]
      exact iff_of_false otherwise fun lost => unknown (saysUnknown_iff.mpr lost.2)

/-- A list of leases that has none is either none or empty. -/
theorem descriptors_eq_nil {json : Json} :
    descriptors? json = some [] ↔ json = .null ∨ json = .array [] := by
  cases json with
  | array items =>
    cases items with
    | nil => simp [descriptors?]
    | cons item rest => simp [descriptors?, List.mapM_cons, Option.bind_eq_some_iff]
  | _ => simp [descriptors?]

/-- Among the successes, only one of a renewal can say that a lease is lost. -/
theorem success_lost :
    success read request = .error (.sessionNotFound id) ↔
      request = .renew id ∧ ∃ bytes, read = some bytes ∧
        (Json.ofBytes? bytes = some .null ∨ Json.ofBytes? bytes = some (.array [])) := by
  constructor
  · intro lost
    rcases success_error lost with ⟨_, _, rejected⟩ | ⟨held, rfl, same, without⟩
    · cases rejected
    · cases same
      obtain ⟨json, found, none⟩ := Option.bind_eq_some_iff.mp without
      obtain ⟨bytes, rfl, parsed⟩ := Option.bind_eq_some_iff.mp found
      refine ⟨rfl, bytes, rfl, ?_⟩
      rcases descriptors_eq_nil.mp none with rfl | rfl
      · exact .inl parsed
      · exact .inr parsed
  · rintro ⟨rfl, bytes, rfl, parsed | parsed⟩ <;>
      simp [success, jsonOf?, parsed, descriptors?]

/-- A body is read in full or not at all. -/
theorem exists_bodyRead? {p : List UInt8 → Prop} (filled : ¬ p []) :
    (∃ bytes, bodyRead? status body whole = some bytes ∧ p bytes) ↔
      hasBody status = true ∧ whole = true ∧ p body := by
  by_cases expected : hasBody status = true
  · cases whole <;> simp [bodyRead?, expected]
  · simp [bodyRead?, expected, filled]

/-- When a failure is an error about a lost lease. -/
theorem failure_lost (failed : isSuccess status = false) :
    answered request status body whole = .error (.sessionNotFound id) ↔
      leaseOf request = some id ∧ TellsLoss status body whole request := by
  have told : (.error (classify status (explanation status body whole) (leaseOf request)) :
      request.Outcome) = .error (.sessionNotFound id) ↔
        leaseOf request = some id ∧ NamesLoss status (wording status body whole) := by
    rw [Except.error.injEq, classify_lost, explanation_eq_trim, namesLoss_trim]
  unfold answered
  rw [if_neg (by simp [failed])]
  by_cases absent : status = 404
  · rw [if_pos absent]
    cases request with
    | destroy | get => exact iff_of_false nofun fun lost => by simp [TellsLoss, absent] at lost
    | _ => exact told.trans (by simp [TellsLoss, leaseOf, failed])
  · rw [if_neg absent, told]
    cases request <;> simp [TellsLoss, leaseOf, failed, absent]

/-- When a reply that ends an exchange is an error about a lost lease. -/
theorem answered_lost :
    answered request status body whole = .error (.sessionNotFound id) ↔
      leaseOf request = some id ∧ TellsLoss status body whole request := by
  by_cases success : isSuccess status = true
  · have nothing : ¬ (Json.ofBytes? [] = some .null ∨ Json.ofBytes? [] = some (.array [])) := by
      rintro (parsed | parsed) <;> cases parsed
    rw [answered, if_pos success, success_lost, exists_bodyRead? nothing]
    cases request <;> simp [TellsLoss, leaseOf, success]
  · exact failure_lost (Bool.eq_false_iff.mpr success)

/-! ## Exchanges -/

/-- A message that can be made is heard if the reply ends the exchange. -/
theorem heard_of_made (final : isFinal status = true)
    (made : (Agent.message agent.settings request).toOption.isSome = true) :
    Heard agent request status := by
  refine ⟨?_, final⟩
  cases known : Agent.message agent.settings request with
  | error refusal =>
    rw [known] at made
    cases made
  | ok message => exact ⟨message, rfl⟩

/-- A body that broke off and explains a failure is as good as none. -/
theorem answered_cut (failed : isSuccess status = false) :
    answered request status body false = answered request status [] true := by
  have nothing : explanation status body false = explanation status [] true := by
    simp [explanation_eq_trim, wording, Text.lossy, Text.symbols, Text.symbolsFrom]
  unfold answered
  simp only [failed, Bool.false_eq_true, ↓reduceIte, nothing]

theorem exchange_cut (failed : isSuccess status = false) :
    (exchange agent request (.answered status body false)).outcome =
      (exchange agent request (.answered status [] true)).outcome := by
  cases made : Agent.message agent.settings request with
  | error refusal => simp only [exchange, made]
  | ok message => simp only [exchange, made, outcome, answered_cut failed]

theorem Heard.outcome (heard : Heard agent request status) :
    (exchange agent request (.answered status body whole)).outcome =
      answered request status body whole := by
  obtain ⟨message, made⟩ := heard.made
  simp [exchange, made, Agent.outcome, heard.final]

/-- Without a reply that ends the exchange the agent is unavailable. -/
theorem exchange_unheard
    (unheard : ∀ status body whole, reply = .answered status body whole →
      ¬ Heard agent request status) :
    ∃ said, (exchange agent request reply).outcome = .error (.backendUnavailable said) := by
  cases made : Agent.message agent.settings request with
  | error refusal => exact ⟨_, by rw [exchange, made]⟩
  | ok message =>
    simp only [exchange, made]
    cases reply with
    | lost => exact ⟨_, rfl⟩
    | astray account => exact ⟨_, rfl⟩
    | answered status body whole =>
      have more : ¬ isFinal status = true := fun final => unheard _ _ _ rfl ⟨⟨message, made⟩, final⟩
      exact ⟨_, by rw [outcome, if_neg more, unanswered]⟩

/-- A request ends with an error about a lost lease if and only if it was made for that lease and a
reply that ends the exchange tells its loss. -/
theorem exchange_lost :
    (exchange agent request reply).outcome = .error (.sessionNotFound id) ↔
      leaseOf request = some id ∧ ∃ status body whole, Heard agent request status ∧
        reply = .answered status body whole ∧ TellsLoss status body whole request := by
  by_cases heard : ∃ status body whole, reply = .answered status body whole ∧
      Heard agent request status
  · obtain ⟨status, body, whole, rfl, heard⟩ := heard
    rw [heard.outcome, answered_lost]
    constructor
    · rintro ⟨made, tells⟩
      exact ⟨made, status, body, whole, heard, rfl, tells⟩
    · rintro ⟨made, _, _, _, -, ⟨⟩, tells⟩
      exact ⟨made, tells⟩
  · have unheard (status : Nat) (body : List UInt8) (whole : Bool)
        (same : reply = .answered status body whole) : ¬ Heard agent request status :=
      fun here => heard ⟨status, body, whole, same, here⟩
    obtain ⟨said, unavailable⟩ := exchange_unheard unheard
    rw [unavailable]
    refine iff_of_false nofun ?_
    rintro ⟨-, status, body, whole, here, same, -⟩
    exact heard ⟨status, body, whole, same, here⟩

/-- **When the loss of a lease is reported.** For every request and every reply, the request ends with the
error that a lease is lost if and only if it was made for that lease and the reply, which ends the
exchange, tells the loss. A body that broke off and explains a failure is as good as none. A reply that
tells the loss and also that the agent is out of order counts as telling the loss. -/
theorem loss_reported_exactly (agent : Agent) :
    (∀ request reply id, (exchange agent request reply).outcome = .error (.sessionNotFound id) ↔
      leaseOf request = some id ∧ ∃ status body whole, Heard agent request status ∧
        reply = .answered status body whole ∧ TellsLoss status body whole request) ∧
    (∀ request status body, isSuccess status = false →
      (exchange agent request (.answered status body false)).outcome =
        (exchange agent request (.answered status [] true)).outcome) ∧
    ∀ request status body whole id, Heard agent request status → leaseOf request = some id →
      OutOfOrder status (wording status body whole) → NamesLoss status (wording status body whole) →
      (exchange agent request (.answered status body whole)).outcome =
        .error (.sessionNotFound id) := by
  refine ⟨fun request reply id => exchange_lost, ?_, ?_⟩
  · exact fun request status body failed => exchange_cut failed
  · intro request status body whole id heard made disorder lost
    have range := disorder.serverError
    have failed : isSuccess status = false := by
      simp only [isSuccess, Bool.and_eq_false_iff, decide_eq_false_iff_not]
      omega
    have tells : TellsLoss status body whole request := by
      cases request with
      | put | release => exact ⟨failed, lost⟩
      | renew => exact .inl ⟨failed, lost⟩
      | destroy => exact ⟨failed, by omega, lost⟩
      | create | list | get => cases made
    rw [heard.outcome]
    exact answered_lost.mpr ⟨made, tells⟩

end

/-- What an agent without a leader says when it does not know a lease. -/
def muddledBody : List UInt8 :=
  Text.encode "No cluster leader, Invalid session \"abc\"\n"

/-- A put is told that its lease is lost, although the agent has no leader. -/
theorem muddled_put_lost :
    Heard plainAgent (.put "jobs/a" [1] "abc") 500 ∧
      (exchange plainAgent (.put "jobs/a" [1] "abc") (.answered 500 muddledBody true)).outcome =
        .error (.sessionNotFound "abc") := by
  have heard : Heard plainAgent (.put "jobs/a" [1] "abc") 500 := heard_of_made rfl (by decide +kernel)
  refine ⟨heard, (loss_reported_exactly plainAgent).2.2 _ 500 muddledBody true "abc" heard rfl
    (.inr (.inr (.inr ⟨by decide, .inl ?_⟩))) (.inr (.inl ?_))⟩
  · decide +kernel
  · decide +kernel

end Leasehold.Agent
