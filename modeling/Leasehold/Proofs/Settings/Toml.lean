import Leasehold.Command.Program
import Leasehold.Proofs.Settings.Entries
import Leasehold.Proofs.Text.Utf8
import Leasehold.Proofs.Toml.Lines

/-! Settings survive being shown. What the program shows is a document of two tables with one line for each
setting, and a file with that text gives the same settings again. -/
namespace Leasehold

open Toml (Reads textLines texts IsBareKey)

/-! ## The shown text -/

theorem textLines_append (pairs others : List (String × String)) :
    textLines (pairs ++ others) = textLines pairs ++ textLines others :=
  List.flatMap_append

theorem tomlLine_eq (key value : String) : tomlLine key value = textLines [(key, value)] := by
  simp [tomlLine, textLines]

theorem tomlOption_eq (key : String) (value : Option String) :
    tomlOption key value = textLines (optionalPair key value) := by
  cases value with
  | none => rfl
  | some value => exact tomlLine_eq key value

theorem AgentSettings.tomlLines_eq (settings : AgentSettings) :
    settings.tomlLines = textLines settings.pairs := by
  simp only [tomlLines, tomlLine_eq, tomlOption_eq, pairs, ← textLines_append]
  simp

theorem SessionSettings.tomlLines_eq (settings : SessionSettings) :
    settings.tomlLines = textLines settings.pairs := by
  simp only [tomlLines, tomlLine_eq, tomlOption_eq, pairs, ← textLines_append]
  simp

theorem AgentSettings.bare_pairs (settings : AgentSettings) :
    ∀ pair ∈ settings.pairs, IsBareKey pair.1 := by
  simp only [pairs, List.forall_mem_append, List.forall_mem_cons, forall_mem_optionalPair]
  refine ⟨⟨⟨⟨?_, ?_, ?_⟩, fun _ _ => ?_⟩, fun _ _ => ?_⟩, ?_, ?_, ?_, ?_⟩
  all_goals decide

theorem SessionSettings.bare_pairs (settings : SessionSettings) :
    ∀ pair ∈ settings.pairs, IsBareKey pair.1 := by
  simp only [pairs, List.forall_mem_append, List.forall_mem_cons, forall_mem_optionalPair]
  refine ⟨⟨?_, ?_, ?_⟩, fun _ _ => ?_⟩
  all_goals decide

/-- What the program shows, character by character. -/
def Settings.shown (settings : Settings) : List Char :=
  '[' :: ("consul".toList ++ ']' :: '\n' :: (textLines settings.agent.pairs ++
    '\n' :: '[' :: ("session".toList ++ ']' :: '\n' :: (textLines settings.session.pairs ++ ['\n']))))

theorem Settings.toList_toToml (settings : Settings) :
    (settings.toToml ++ "\n").toList = settings.shown := by
  have agent : "[consul]\n".toList = '[' :: ("consul".toList ++ [']', '\n']) := rfl
  have session : "\n[session]\n".toList = '\n' :: '[' :: ("session".toList ++ [']', '\n']) := rfl
  have last : "\n".toList = ['\n'] := rfl
  unfold toToml shown
  simp only [String.toList_append, String.toList_ofList, agent, session, last,
    settings.agent.tomlLines_eq, settings.session.tomlLines_eq, List.append_assoc, List.cons_append,
    List.nil_append]

theorem not_return_textLines {pairs : List (String × String)} (bare : ∀ pair ∈ pairs, IsBareKey pair.1) :
    '\r' ∉ textLines pairs := by
  simp only [textLines, List.mem_flatMap, not_exists, not_and]
  intro pair member
  have key : '\r' ∉ pair.1.toList := by
    intro inside
    cases (bare pair member).each '\r' inside
  simp [key, Toml.stringChars_not_return]

theorem Settings.not_return_shown (settings : Settings) : '\r' ∉ settings.shown := by
  have agent := not_return_textLines settings.agent.bare_pairs
  have session := not_return_textLines settings.session.bare_pairs
  simp [shown, agent, session]

/-! ## Reading it -/

theorem Settings.reads_shown (settings : Settings) :
    Reads {} settings.shown [("consul", .table .headed (texts settings.agent.pairs)),
      ("session", .table .headed (texts settings.session.pairs))] := by
  have other : Toml.find? "session" [("consul", .table .headed (texts settings.agent.pairs))] = none := rfl
  apply Reads.header (by decide) rfl
  apply Reads.texts rfl [] settings.agent.bare_pairs settings.agent.distinct_pairs
  apply Reads.blank
  apply Reads.header (by decide) other
  apply Reads.texts other [] settings.session.bare_pairs settings.session.distinct_pairs
  apply Reads.blank
  exact Toml.reads_nil _

theorem Document.ofTomlEntries_texts (pairs : List (String × String)) :
    ofTomlEntries (texts pairs) = Document.entries pairs := by
  induction pairs with
  | nil => rfl
  | cons pair pairs ih =>
    rw [texts, List.map_cons, ofTomlEntries, ofToml, entries, List.map_cons]
    congr 1

theorem Settings.ofToml?_toToml (settings : Settings) : ofToml? (settings.toToml ++ "\n") = some settings := by
  have read := Toml.read?_of_reads settings.reads_shown (by simp [shown]) settings.not_return_shown
  have back : (Document.table (Document.ofTomlEntries
      [("consul", .table .headed (texts settings.agent.pairs)),
        ("session", .table .headed (texts settings.session.pairs))])).toSettings Document.tomlFormat =
      .ok settings := by
    simp only [Document.ofTomlEntries, Document.ofToml, Document.ofTomlEntries_texts]
    exact toSettings_groups (settings.agent.toAgentSettings_pairs _ (.refl _))
      (settings.session.toSessionSettings_pairs _ (.refl _)) (.refl _)
  rw [ofToml?, settings.toList_toToml, read]
  simp only [Option.bind_eq_bind, Option.bind_some, back, Except.toOption]

/-- What the program shows of its settings is a file with the same settings, and a program with these
settings shows the same text again. -/
theorem Command.shown_settings_reload (settings : Settings) (line : Line) :
    ∃ output, perform { line with level := .config } settings = .done { output } ∧
      (∀ path, readSettings path (.file (Text.encode output)) = .ok settings) ∧
      ∀ path, (readSettings path (.file (Text.encode output))).map
        (perform { line with level := .config }) = .ok (.done { output }) := by
  have shows : perform { line with level := .config } settings =
    .done { output := settings.toToml ++ "\n" } := rfl
  have reloads (path : String) :
      readSettings path (.file (Text.encode (settings.toToml ++ "\n"))) = .ok settings := by
    simp only [readSettings, Text.decode?_encode, String.ofList_toList, settings.ofToml?_toToml]
  refine ⟨settings.toToml ++ "\n", shows, reloads, ?_⟩
  intro path
  rw [reloads path, Except.map, shows]

end Leasehold
