import Leasehold.Proofs.Json.Grammar
import Leasehold.Proofs.Settings.Entries
import Leasehold.Settings.FromJson
import Leasehold.Settings.ToJson

/-! Settings survive JSON. The members of an object come back as entries that are sorted by name, so they
are the written ones in another order. -/
namespace Leasehold

open Document

/-! ## The written value -/

/-- A record of texts. -/
def Json.texts (pairs : List (String × String)) : Json :=
  .record (pairs.map fun (name, value) => (name, .text value))

theorem AgentSettings.toJson_eq (settings : AgentSettings) : settings.toJson = .texts settings.pairs := by
  obtain ⟨address, scheme, datacenter, token, timeout, behavior, lockDelay⟩ := settings
  cases datacenter <;> cases token <;> rfl

theorem SessionSettings.toJson_eq (settings : SessionSettings) : settings.toJson = .texts settings.pairs := by
  obtain ⟨ttl, retryInterval, renewInterval⟩ := settings
  cases renewInterval <;> rfl

theorem Json.isSpelled_texts (pairs : List (String × String)) : (texts pairs).IsSpelled := by
  apply isSpelled_record
  intro member isMember
  obtain ⟨pair, -, rfl⟩ := List.mem_map.mp isMember
  exact .string (some pair.2)

theorem Settings.isSpelled_toJson (settings : Settings) : settings.toJson.IsSpelled := by
  apply Json.isSpelled_record
  rw [settings.agent.toJson_eq, settings.session.toJson_eq]
  simp [Json.isSpelled_texts]

/-! ## Objects as tables -/

theorem Document.insertSorted_perm {entry : String × Document} {entries : List (String × Document)}
    (fresh : entry.1 ∉ entries.map Prod.fst) : (insertSorted entry entries).Perm (entry :: entries) := by
  induction entries with
  | nil => exact .refl _
  | cons first entries ih =>
    rw [List.map_cons, List.mem_cons, not_or] at fresh
    rw [insertSorted, if_neg fresh.1]
    split
    · exact .refl _
    · exact ((ih fresh.2).cons first).trans (.swap entry first entries)

theorem Document.ofMembers_perm {members : List (String × Json)} {sorted : List (String × Document)}
    (distinct : (members.map Prod.fst ++ sorted.map Prod.fst).Nodup) :
    (ofMembers (members.map fun (name, value) => (some name, value)) sorted).Perm
      (members.map (fun (name, value) => (name, ofJson value)) ++ sorted) := by
  induction members generalizing sorted with
  | nil => exact .refl _
  | cons member members ih =>
    obtain ⟨name, value⟩ := member
    rw [List.map_cons, List.cons_append] at distinct
    have fresh : name ∉ sorted.map Prod.fst :=
      fun found => (List.nodup_cons.mp distinct).1 (List.mem_append_right _ found)
    have inserted : (insertSorted (name, ofJson value) sorted).Perm ((name, ofJson value) :: sorted) :=
      insertSorted_perm fresh
    have names := ((inserted.map Prod.fst).append_left (members.map Prod.fst)).trans List.perm_middle
      |>.nodup_iff.mpr distinct
    exact (ih names).trans ((inserted.append_left _).trans List.perm_middle)

/-- A record with distinct names is read as a table with its members in some order. -/
theorem Document.ofJson_record (members : List (String × Json))
    (distinct : (members.map Prod.fst).Nodup) :
    ∃ entries, ofJson (.record members) = .table entries ∧
      entries.Perm (members.map fun (name, value) => (name, ofJson value)) := by
  have same : (ofMembers (members.map fun (name, value) => (some name, value)) []).Perm
      (members.map (fun (name, value) => (name, ofJson value)) ++ []) := by
    apply ofMembers_perm
    rwa [List.map_nil, List.append_nil]
  rw [List.append_nil] at same
  exact ⟨_, by rw [Json.record, ofJson], same⟩

theorem Document.ofJson_texts {pairs : List (String × String)} (distinct : (pairs.map Prod.fst).Nodup) :
    ∃ entries, ofJson (.texts pairs) = .table entries ∧ entries.Perm (Document.entries pairs) := by
  have names : ((pairs.map fun (name, value) => (name, Json.text value)).map Prod.fst).Nodup := by
    rw [List.map_map]
    exact distinct
  obtain ⟨entries, read, same⟩ := ofJson_record _ names
  refine ⟨entries, read, ?_⟩
  rw [List.map_map] at same
  have texts : ∀ pair : String × String, ofJson (.text pair.2) = .text pair.2 := by
    intro pair
    rw [Json.text, ofJson, Option.getD_some]
  simpa [Document.entries, Function.comp_def, texts] using same

/-- Settings come back from the JSON value that holds them. -/
theorem Settings.ofJson_toJson (settings : Settings) : Settings.ofJson settings.toJson = .ok settings := by
  obtain ⟨agent, agentRead, agentSame⟩ := Document.ofJson_texts settings.agent.distinct_pairs
  obtain ⟨session, sessionRead, sessionSame⟩ := Document.ofJson_texts settings.session.distinct_pairs
  obtain ⟨groups, read, same⟩ := Document.ofJson_record
    [("consul", settings.agent.toJson), ("session", settings.session.toJson)] (by simp)
  rw [Settings.ofJson, toJson, read]
  apply toSettings_groups _ _ same
  · rw [settings.agent.toJson_eq, agentRead]
    exact settings.agent.toAgentSettings_pairs jsonFormat agentSame
  · rw [settings.session.toJson_eq, sessionRead]
    exact settings.session.toSessionSettings_pairs jsonFormat sessionSame

/-- All settings come back from their JSON text, and every span comes back from its spelled form. -/
theorem settings_survive_json :
    (∀ settings : Settings,
      (Json.ofString? settings.toJson.render).map Settings.ofJson = some (.ok settings)) ∧
    ∀ span : Duration, Duration.ofString? span.spell = some span := by
  refine ⟨?_, Duration.ofString?_spell⟩
  intro settings
  rw [Json.ofString?_render settings.isSpelled_toJson, Option.map_some, settings.ofJson_toJson]

end Leasehold
