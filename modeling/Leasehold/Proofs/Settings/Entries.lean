import Leasehold.Proofs.Duration.Spelling
import Leasehold.Settings.Document

/-! Settings put back from the texts that they are written as. Every format writes a group as the same
names with the same texts (`pairs`). Each of them changes one setting of its own, so the order in which a
document gives them makes no difference. -/
namespace Leasehold

open Document

/-! ## Values -/

theorem Document.toDuration_spell (span : Duration) : toDuration (.text span.spell) = .ok span := by
  rw [toDuration, Duration.ofString?_spell]

theorem Document.toBehavior_name (format : Format) (behavior : Behavior) :
    toBehavior format (.text behavior.name) = .ok behavior := by
  rw [toBehavior, namedBehavior, Behavior.ofName?_name]

/-! ## Groups -/

/-- Names and texts as the entries of a table. -/
def Document.entries (pairs : List (String × String)) : List (String × Document) :=
  pairs.map fun (name, value) => (name, .text value)

section

variable {Group : Type} {fields : List (Document.Field Group)} {entries written : List (String × Document)}
  {put : String → Group → Group}

theorem Document.foldlM_putEntry
    (each : ∀ entry ∈ entries, ∀ group, putEntry fields group entry = .ok (put entry.1 group))
    (group : Group) :
    entries.foldlM (putEntry fields) group =
      .ok (entries.foldl (fun group entry => put entry.1 group) group) := by
  induction entries generalizing group with
  | nil => rfl
  | cons entry entries ih =>
    rw [List.foldlM_cons, each entry List.mem_cons_self]
    exact ih (fun later member => each later (List.mem_cons_of_mem _ member)) (put entry.1 group)

/-- Entries that each put a setting of their own into a group can come in any order. -/
theorem Document.foldlM_putEntry_of_perm (same : entries.Perm written)
    (each : ∀ entry ∈ written, ∀ group, putEntry fields group entry = .ok (put entry.1 group))
    (commute : ∀ first second group, put first (put second group) = put second (put first group))
    (group : Group) :
    entries.foldlM (putEntry fields) group =
      .ok (written.foldl (fun group entry => put entry.1 group) group) := by
  rw [foldlM_putEntry fun entry member => each entry (same.mem_iff.mp member)]
  congr 1
  exact same.foldl_eq' (fun first _ second _ group => commute second.1 first.1 group) group

end

/-- The text of an option by its name, if it is set. -/
def optionalPair (name : String) : Option String → List (String × String)
  | none => []
  | some value => [(name, value)]

theorem forall_mem_optionalPair {name : String} {value : Option String} {holds : String × String → Prop} :
    (∀ pair ∈ optionalPair name value, holds pair) ↔ ∀ text, value = some text → holds (name, text) := by
  cases value <;> simp [optionalPair]

/-- The settings of an agent by their names. -/
def AgentSettings.pairs (settings : AgentSettings) : List (String × String) :=
  [("address", settings.address), ("scheme", settings.scheme)]
    ++ optionalPair "datacenter" settings.datacenter
    ++ optionalPair "token" settings.token
    ++ [("request_timeout", settings.requestTimeout.spell),
        ("behavior", settings.behavior.name),
        ("lock_delay", settings.lockDelay.spell)]

theorem AgentSettings.distinct_pairs (settings : AgentSettings) : (settings.pairs.map Prod.fst).Nodup := by
  obtain ⟨address, scheme, datacenter, token, timeout, behavior, lockDelay⟩ := settings
  cases datacenter <;> cases token <;> simp [pairs, optionalPair]

/-- Puts the setting of this name into a group. -/
def AgentSettings.putInto (settings : AgentSettings) (name : String) (group : AgentSettings) :
    AgentSettings :=
  match name with
  | "address" => { group with address := settings.address }
  | "scheme" => { group with scheme := settings.scheme }
  | "datacenter" => { group with datacenter := settings.datacenter }
  | "token" => { group with token := settings.token }
  | "request_timeout" => { group with requestTimeout := settings.requestTimeout }
  | "behavior" => { group with behavior := settings.behavior }
  | "lock_delay" => { group with lockDelay := settings.lockDelay }
  | _ => group

theorem AgentSettings.putInto_comm (settings : AgentSettings) (first second : String)
    (group : AgentSettings) :
    settings.putInto first (settings.putInto second group) =
      settings.putInto second (settings.putInto first group) := by
  unfold putInto
  split <;> split <;> rfl

theorem AgentSettings.putEntry_of_mem (format : Format) (settings : AgentSettings) :
    ∀ entry ∈ Document.entries settings.pairs, ∀ group,
      putEntry (agentFields format) group entry = .ok (settings.putInto entry.1 group) := by
  have timeout := toDuration_spell settings.requestTimeout
  have behavior := toBehavior_name format settings.behavior
  have lockDelay := toDuration_spell settings.lockDelay
  simp only [Document.entries, List.forall_mem_map, pairs, List.forall_mem_append, List.forall_mem_cons,
    forall_mem_optionalPair]
  refine ⟨⟨⟨⟨?_, ?_, ?_⟩, ?_⟩, ?_⟩, ?_, ?_, ?_, ?_⟩
  · intro group
    rfl
  · intro group
    rfl
  · simp
  · rintro text set group
    simp [putEntry, agentFields, field, toOption, toText, putInto, set, Except.map]
  · rintro text set group
    simp [putEntry, agentFields, field, toOption, toText, putInto, set, Except.map]
  · intro group
    simp [putEntry, agentFields, field, timeout, putInto, Except.map]
  · intro group
    simp [putEntry, agentFields, field, behavior, putInto, Except.map]
  · intro group
    simp [putEntry, agentFields, field, lockDelay, putInto, Except.map]
  · simp

/-- What an agent's settings are written as gives the settings back, in any order. -/
theorem AgentSettings.toAgentSettings_pairs (format : Format) (settings : AgentSettings)
    {entries : List (String × Document)} (same : entries.Perm (Document.entries settings.pairs)) :
    (table entries).toAgentSettings format = .ok settings := by
  rw [toAgentSettings, toGroup,
    foldlM_putEntry_of_perm same (settings.putEntry_of_mem format) settings.putInto_comm]
  obtain ⟨address, scheme, datacenter, token, timeout, behavior, lockDelay⟩ := settings
  cases datacenter <;> cases token <;> rfl

/-- The settings of sessions by their names. -/
def SessionSettings.pairs (settings : SessionSettings) : List (String × String) :=
  [("ttl", settings.ttl.spell), ("retry_interval", settings.retryInterval.spell)]
    ++ optionalPair "renew_interval" (settings.renewInterval.map Duration.spell)

theorem SessionSettings.distinct_pairs (settings : SessionSettings) :
    (settings.pairs.map Prod.fst).Nodup := by
  obtain ⟨ttl, retryInterval, renewInterval⟩ := settings
  cases renewInterval <;> simp [pairs, optionalPair]

/-- Puts the setting of this name into a group. -/
def SessionSettings.putInto (settings : SessionSettings) (name : String) (group : SessionSettings) :
    SessionSettings :=
  match name with
  | "ttl" => { group with ttl := settings.ttl }
  | "retry_interval" => { group with retryInterval := settings.retryInterval }
  | "renew_interval" => { group with renewInterval := settings.renewInterval }
  | _ => group

theorem SessionSettings.putInto_comm (settings : SessionSettings) (first second : String)
    (group : SessionSettings) :
    settings.putInto first (settings.putInto second group) =
      settings.putInto second (settings.putInto first group) := by
  unfold putInto
  split <;> split <;> rfl

theorem SessionSettings.putEntry_of_mem (settings : SessionSettings) :
    ∀ entry ∈ Document.entries settings.pairs, ∀ group,
      putEntry sessionFields group entry = .ok (settings.putInto entry.1 group) := by
  have ttl := toDuration_spell settings.ttl
  have retryInterval := toDuration_spell settings.retryInterval
  simp only [Document.entries, List.forall_mem_map, pairs, List.forall_mem_append, List.forall_mem_cons,
    forall_mem_optionalPair]
  refine ⟨⟨?_, ?_, ?_⟩, ?_⟩
  · intro group
    simp [putEntry, sessionFields, field, ttl, putInto, Except.map]
  · intro group
    simp [putEntry, sessionFields, field, retryInterval, putInto, Except.map]
  · simp
  · rintro text spelled group
    obtain ⟨interval, set, rfl⟩ := Option.map_eq_some_iff.mp spelled
    have renewInterval := toDuration_spell interval
    simp [putEntry, sessionFields, field, toOption, renewInterval, putInto, set, Except.map]

/-- What the settings of sessions are written as gives the settings back, in any order. -/
theorem SessionSettings.toSessionSettings_pairs (format : Format) (settings : SessionSettings)
    {entries : List (String × Document)} (same : entries.Perm (Document.entries settings.pairs)) :
    (table entries).toSessionSettings format = .ok settings := by
  rw [toSessionSettings, toGroup,
    foldlM_putEntry_of_perm same settings.putEntry_of_mem settings.putInto_comm]
  obtain ⟨ttl, retryInterval, renewInterval⟩ := settings
  cases renewInterval <;> rfl

/-- Puts the group of this name into all settings. -/
def Settings.putInto (settings : Settings) (name : String) (group : Settings) : Settings :=
  match name with
  | "consul" => { group with agent := settings.agent }
  | "session" => { group with session := settings.session }
  | _ => group

theorem Settings.putInto_comm (settings : Settings) (first second : String) (group : Settings) :
    settings.putInto first (settings.putInto second group) =
      settings.putInto second (settings.putInto first group) := by
  unfold putInto
  split <;> split <;> rfl

/-- Documents that give the two groups back give all settings back, in any order. -/
theorem Settings.toSettings_groups {format : Format} {settings : Settings} {agent session : Document}
    (agentBack : agent.toAgentSettings format = .ok settings.agent)
    (sessionBack : session.toSessionSettings format = .ok settings.session)
    {entries : List (String × Document)}
    (same : entries.Perm [("consul", agent), ("session", session)]) :
    (table entries).toSettings format = .ok settings := by
  have each : ∀ entry ∈ [("consul", agent), ("session", session)], ∀ group,
      putEntry (settingsFields format) group entry = .ok (settings.putInto entry.1 group) := by
    simp only [List.forall_mem_cons]
    refine ⟨?_, ?_, ?_⟩
    · intro group
      simp [putEntry, settingsFields, field, agentBack, putInto, Except.map]
    · intro group
      simp [putEntry, settingsFields, field, sessionBack, putInto, Except.map]
    · simp
  rw [toSettings, toGroup, foldlM_putEntry_of_perm same each settings.putInto_comm]
  rfl

end Leasehold
