import Leasehold.Command.Program

/-! Empty variables of the environment. An empty address or token overrides nothing, as if the variable were
not set. An empty name of a file is a path under which nothing is ever found: unless the command line names
another file, the run goes by the defaults, also if there is a file where one is looked for by default. -/
namespace Leasehold.Command

/-- The surroundings with this value for some variables, or without them. -/
def Surroundings.assign (surroundings : Surroundings) (names : List String) (value : Option String) :
    Surroundings :=
  { surroundings with
    valueOf? := fun name => if name ∈ names then value else surroundings.valueOf? name }

/-- The surroundings without what is found under a path. -/
def Surroundings.without (surroundings : Surroundings) (path : String) : Surroundings :=
  { surroundings with
    look := fun other => if other = path then .nothing else surroundings.look other }

/-- Surroundings in which some variables count for nothing. If one of them names the file, and the command
line names none, there is no file by default either. -/
def Surroundings.ignoring (surroundings : Surroundings) (names : List String) (named : Option String) :
    Surroundings :=
  if fileVariable ∈ names ∧ named = none then (surroundings.assign names none).without defaultFile
  else surroundings.assign names none

/-- The settings of a run whose file holds these, when all that overrides them has done so. -/
def overridden (surroundings : Surroundings) (address : Option String) (settings : Settings) : Settings :=
  let settings := override surroundings settings
  match address with
  | some address => { settings with agent := settings.agent.withAddress address }
  | none => settings

/-- The file that a command line names. -/
def namedFile? (arguments : List String) : Option String :=
  match parse arguments with
  | .line line => line.value? .config
  | _ => none

section
variable {surroundings other : Surroundings} {names : List String} {named address : Option String}

/-! ## What a run takes from its surroundings -/

theorem load_eq (surroundings : Surroundings) (named address : Option String) :
    load surroundings named address =
      (fileSettings surroundings named).map (overridden surroundings address) := by
  unfold load overridden
  cases fileSettings surroundings named with
  | error text => rfl
  | ok settings => cases address <;> rfl

/-- Surroundings count only by the settings of their file and by what overrides them. -/
theorem load_congr (sameFile : fileSettings surroundings named = fileSettings other named)
    (sameRest : override surroundings = override other) :
    load surroundings named address = load other named address := by
  rw [load_eq, load_eq, sameFile]
  unfold overridden
  rw [sameRest]

theorem task_congr {arguments : List String}
    (same : ∀ address, load surroundings (namedFile? arguments) address =
      load other (namedFile? arguments) address) :
    task surroundings arguments = task other arguments := by
  unfold namedFile? at same
  unfold task
  cases parsed : parse arguments with
  | line line =>
    rw [parsed] at same
    simp only [same]
  | version | help | misuse => rfl

/-! ## Empty variables -/

theorem filter_assign (surroundings : Surroundings) (names : List String) (name : String) :
    ((surroundings.assign names (some "")).valueOf? name).filter (· ≠ "") =
      ((surroundings.assign names none).valueOf? name).filter (· ≠ "") := by
  unfold Surroundings.assign
  by_cases emptied : name ∈ names <;> simp [emptied]

/-- Nothing is overridden by an empty variable. -/
theorem override_assign (surroundings : Surroundings) (names : List String) :
    override (surroundings.assign names (some "")) = override (surroundings.assign names none) := by
  funext settings
  unfold override
  rw [filter_assign, filter_assign]

theorem override_ignoring (surroundings : Surroundings) (names : List String) (named : Option String) :
    override (surroundings.ignoring names named) = override (surroundings.assign names none) := by
  unfold Surroundings.ignoring
  split <;> rfl

/-- No file is found under an empty name, and none by default where that one is ignored. -/
theorem fileSettings_assign (nowhere : surroundings.look "" = .nothing) :
    fileSettings (surroundings.assign names (some "")) named =
      fileSettings (surroundings.ignoring names named) named := by
  unfold Surroundings.ignoring
  cases named with
  | some path => simp [fileSettings, Surroundings.assign]
  | none =>
    by_cases emptied : fileVariable ∈ names
    · simp [fileSettings, Surroundings.assign, Surroundings.without, emptied, nowhere]
    · simp [fileSettings, Surroundings.assign, emptied]

theorem load_assign (nowhere : surroundings.look "" = .nothing) :
    load (surroundings.assign names (some "")) named address =
      load (surroundings.ignoring names named) named address :=
  load_congr (fileSettings_assign nowhere)
    ((override_assign surroundings names).trans (override_ignoring surroundings names named).symm)

/-- Whether there is a file by default makes no difference exactly if it can be read and what it says
differs from the defaults at most in what is overridden. -/
theorem load_without_default (unnamed : surroundings.valueOf? fileVariable = none) :
    load (surroundings.without defaultFile) none address = load surroundings none address ↔
      ∃ settings, fileSettings surroundings none = .ok settings ∧
        overridden surroundings address settings = overridden surroundings address {} := by
  have hidden : fileSettings (surroundings.without defaultFile) none = .ok {} := by
    simp [fileSettings, Surroundings.without, unnamed]
  have same : overridden (surroundings.without defaultFile) address = overridden surroundings address := rfl
  rw [load_eq, load_eq, hidden, same]
  cases fileSettings surroundings none with
  | error text => exact iff_of_false nofun nofun
  | ok settings => simp [Except.map, eq_comm]

/-- **Empty variables.** Nothing is found under the empty path. With some variables empty, a run gets its
settings, or fails to get them, as it does without these variables; only, if one of them names the file and
the command line names none, there is no file by default either. So it makes no difference whether they are
empty or not set, unless a file by default goes unread that cannot be read, or that says something that
differs from the defaults and is not overridden. All that the program does goes by the same surroundings. -/
theorem empty_variables (surroundings : Surroundings) (names : List String)
    (nowhere : surroundings.look "" = .nothing) :
    (∀ named address,
      load (surroundings.assign names (some "")) named address =
        load (surroundings.ignoring names named) named address ∧
      (load (surroundings.assign names (some "")) named address =
          load (surroundings.assign names none) named address ↔
        (fileVariable ∈ names → named = none →
          ∃ settings, fileSettings (surroundings.assign names none) none = .ok settings ∧
            overridden (surroundings.assign names none) address settings =
              overridden (surroundings.assign names none) address {}))) ∧
    ∀ arguments, task (surroundings.assign names (some "")) arguments =
      task (surroundings.ignoring names (namedFile? arguments)) arguments := by
  refine ⟨fun named address => ⟨load_assign nowhere, ?_⟩,
    fun arguments => task_congr fun address => load_assign nowhere⟩
  rw [load_assign nowhere, Surroundings.ignoring]
  split
  · -- The run finds no file by default, and is compared with one that may find it.
    rename_i affected
    obtain ⟨emptied, rfl⟩ := affected
    rw [load_without_default (by simp [Surroundings.assign, emptied])]
    exact ⟨fun idle _ _ => idle, fun idle => idle emptied rfl⟩
  · rename_i unaffected
    exact iff_of_true rfl fun emptied unnamed => absurd ⟨emptied, unnamed⟩ unaffected

end

/-- Surroundings with a file by default, which sets the address. -/
def furnishedSurroundings : Surroundings where
  look path :=
    if path = defaultFile then .file (Text.encode "[consul]\naddress = \"consul.test:8500\"\n") else .nothing
  valueOf? _ := none

/-- The file counts if the variable that names one is not set, and goes unread if that one is empty. -/
theorem empty_name_hides_file :
    furnishedSurroundings.look "" = .nothing ∧
      (load (furnishedSurroundings.assign [fileVariable] none) none none).toOption =
        some { agent := { address := "consul.test:8500" } } ∧
      (load (furnishedSurroundings.assign [fileVariable] (some "")) none none).toOption = some {} := by
  have nowhere : furnishedSurroundings.look "" = .nothing := rfl
  obtain ⟨loads, -⟩ := empty_variables furnishedSurroundings [fileVariable] nowhere
  obtain ⟨hidden, -⟩ := loads none none
  refine ⟨nowhere, by decide +kernel, ?_⟩
  rw [hidden]
  decide +kernel

end Leasehold.Command
