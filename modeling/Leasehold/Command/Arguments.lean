import Leasehold.Duration.Spelled
/-!
The arguments of the command line.

1. A command may have commands below it, and each level has its own options. Some options may stand at
   every level; if several levels give one, the innermost counts, but no level may give one twice.
2. A value follows its option after an equals sign or as the next argument, or directly after a short
   option. An argument that begins with a dash is no value, unless the dash is all of it.
3. After two dashes alone, all arguments are taken as they are.
4. Arguments are taken in their order: a request for the version or for help counts unless something
   before it is wrong.
-/
namespace Leasehold.Command

/-- The options. -/
inductive Switch where
  | verbose
  | config
  | address
  | value
  | name
  | ttl
  | poll
  | help
  | version
deriving DecidableEq, Repr

/-- Whether an option has a value. -/
def Switch.takesValue : Switch → Bool
  | .verbose | .help | .version => false
  | _ => true

/-- Whether an option may have this value. -/
def Switch.accepts : Switch → String → Bool
  | .config, text => text ≠ ""
  | .ttl, text | .poll, text => (Duration.ofString? text).isSome
  | _, _ => true

/-- The commands, and what stands above them. -/
inductive Level where
  | program
  | config
  | lock
  | sessions
  | list
  | destroy
deriving DecidableEq, Repr

/-- The name under which a level shows its version. -/
def Level.title : Level → String
  | .program => "tether"
  | .config => "tether-config"
  | .lock => "tether-lock"
  | .sessions => "tether-sessions"
  | .list => "tether-sessions-list"
  | .destroy => "tether-sessions-destroy"

/-- The command below a level that has this name. -/
def Level.below? : Level → String → Option Level
  | .program, "config" => some .config
  | .program, "lock" => some .lock
  | .program, "sessions" => some .sessions
  | .sessions, "list" => some .list
  | .sessions, "destroy" => some .destroy
  | _, _ => none

/-- Whether a level is nothing without a command below it. -/
def Level.isGroup : Level → Bool
  | .program | .sessions => true
  | _ => false

/-- Whether a level takes an argument of its own. -/
def Level.takesArgument : Level → Bool
  | .lock | .destroy => true
  | _ => false

/-- The option with a long name. -/
def Level.long? (level : Level) (name : String) : Option Switch :=
  match name with
  | "verbose" => some .verbose
  | "config" => some .config
  | "address" => some .address
  | "help" => some .help
  | "version" => some .version
  | "value" => if level = .lock then some .value else none
  | "name" => if level = .lock then some .name else none
  | "ttl" => if level = .lock then some .ttl else none
  | "poll" => if level = .lock then some .poll else none
  | _ => none

/-- The option with a short name. -/
def short? : Char → Option Switch
  | 'v' => some .verbose
  | 'c' => some .config
  | 'a' => some .address
  | 'h' => some .help
  | 'V' => some .version
  | _ => none

/-- What is given at a level. -/
structure Given where
  /-- Its options with their values. -/
  options : List (Switch × String) := []
  /-- Its own argument. -/
  argument : Option String := none

/-- The value of an option at a level. -/
def Given.value? (given : Given) (switch : Switch) : Option String := given.options.lookup switch

/-- What is given at all levels, the innermost first. -/
structure Line where
  /-- The innermost level. -/
  level : Level
  /-- What is given there. -/
  given : Given := {}
  /-- What is given at the levels above. -/
  outer : List Given := []

/-- How a command line ends up. -/
inductive Parsed where
  /-- A command. -/
  | line (line : Line)
  /-- The version is asked for, at a level. -/
  | version (level : Level)
  /-- Help is asked for. -/
  | help
  /-- The arguments make no sense. -/
  | misuse

/-- The end of the arguments. -/
def finish (line : Line) : Parsed :=
  if line.level.isGroup ∨ (line.level.takesArgument ∧ line.given.argument.isNone) then .misuse
  else .line line

/-- Adds an option to a level, or answers it at once. -/
def addOption (line : Line) (switch : Switch) (value : String) : Except Parsed Line :=
  match switch with
  | .help => .error .help
  | .version => .error (.version line.level)
  | switch =>
    if !switch.accepts value ∨ (line.given.value? switch).isSome then .error .misuse
    else
      .ok { line with given := { line.given with options := (switch, value) :: line.given.options } }

/-- Adds an argument that is no option and no command. -/
def addArgument (line : Line) (argument : String) : Except Parsed Line :=
  if line.level.takesArgument ∧ line.given.argument.isNone then
    .ok { line with given := { line.given with argument := some argument } }
  else .error .misuse

/-- What an argument with dashes asks for: options that are complete, and one that lacks its value. -/
structure Dashed where
  /-- The options that are complete, in their order. -/
  complete : List (Switch × String) := []
  /-- An option whose value is the next argument. -/
  open? : Option Switch := none
  /-- Whether something follows that makes no sense. -/
  isBroken : Bool := false

/-- A long option, without its dashes. -/
def longOption (level : Level) (text : List Char) : Dashed :=
  let name := text.takeWhile (· ≠ '=')
  let value := match text.drop name.length with
    | _ :: value => some (String.ofList value)
    | [] => none
  match level.long? (String.ofList name), value with
  | none, _ => { isBroken := true }
  | some switch, some value =>
    if switch.takesValue then { complete := [(switch, value)] } else { isBroken := true }
  | some switch, none =>
    if switch.takesValue then { open? := some switch } else { complete := [(switch, "")] }

/-- Short options in a row, without their dash. The first one that has a value takes the rest. -/
def shortOptions : List Char → Dashed
  | [] => {}
  | c :: rest =>
    match short? c with
    | none => { isBroken := true }
    | some switch =>
      if switch.takesValue then
        match rest with
        | [] => { open? := some switch }
        | first :: value =>
          let value := if first = '=' then value else first :: value
          { complete := [(switch, String.ofList value)] }
      else
        let others := shortOptions rest
        { others with complete := (switch, "") :: others.complete }

/-- The names of the commands that help can be asked for. -/
def isCommandPath : Level → List String → Bool
  | _, [] => true
  | level, name :: names =>
    if level.isGroup ∧ name = "help" then names.isEmpty
    else
      match level.below? name with
      | some level => isCommandPath level names
      | none => false

/-- Takes the arguments one after the other. -/
def parseFrom (line : Line) : List String → Parsed
  | [] => finish line
  | argument :: rest =>
    match argument.toList with
    | '-' :: '-' :: [] =>
      match rest.foldlM addArgument line with
      | .ok line => finish line
      | .error parsed => parsed
    | '-' :: c :: text =>
      let dashed := if c = '-' then longOption line.level text else shortOptions (c :: text)
      match dashed.complete.foldlM (fun line (switch, value) => addOption line switch value) line with
      | .error parsed => parsed
      | .ok line =>
        if dashed.isBroken then .misuse
        else
          match dashed.open?, rest with
          | none, rest => parseFrom line rest
          | some _, [] => .misuse
          | some switch, value :: rest =>
            if value.toList.head? = some '-' ∧ value ≠ "-" then .misuse
            else
              match addOption line switch value with
              | .ok line => parseFrom line rest
              | .error parsed => parsed
    | _ =>
      match line.level.below? argument with
      | some level => parseFrom ⟨level, {}, line.given :: line.outer⟩ rest
      | none =>
        if line.level.isGroup ∧ argument = "help" then
          if isCommandPath line.level rest then .help else .misuse
        else
          match addArgument line argument with
          | .ok line => parseFrom line rest
          | .error parsed => parsed

/-- Reads the arguments of the command line. -/
def parse (arguments : List String) : Parsed := parseFrom { level := .program } arguments

/-- The value of an option that may stand at every level, from the innermost level that gives it. -/
def Line.value? (line : Line) (switch : Switch) : Option String :=
  (line.given :: line.outer).findSome? (·.value? switch)

end Leasehold.Command
