import Leasehold.Backend
/-!
Scripts for the backend of a simulated session. A script says, for each kind of request, what is done
with the next requests of that kind; requests beyond the script are passed on.
-/
namespace Leasehold.Simulation

/-- The kinds of requests. -/
inductive Kind where
  | create
  | renew
  | destroy
  | list
  | put
  | release
  | get
deriving DecidableEq, Repr

/-- The kind of a request. -/
def kindOf : Backend.Request → Kind
  | .create _ _ => .create
  | .renew _ => .renew
  | .destroy _ => .destroy
  | .list => .list
  | .put _ _ _ => .put
  | .release _ _ => .release
  | .get _ => .get

/-- The name of a kind. -/
def Kind.name : Kind → String
  | .create => "create"
  | .renew => "renew"
  | .destroy => "destroy"
  | .list => "list"
  | .put => "put"
  | .release => "release"
  | .get => "get"

/-- What is done with a request. -/
inductive Action where
  /-- It is passed on. -/
  | pass
  /-- It fails at once, and is not passed on. -/
  | fail (error : Error)
  /-- It fails after a while, and is not passed on. -/
  | slowFail (error : Error) (wait : Duration)
  /-- It succeeds, and is not passed on. A new lease gets the id, and a key is locked or unlocked as
  the flag says. -/
  | succeed (id : String) (flag : Bool)
  /-- It is never answered, and not passed on. -/
  | stall
  /-- It is passed on after a while. -/
  | delay (wait : Duration)
  /-- It is passed on at once, and answered after a while. -/
  | delayAfter (wait : Duration)

/-- The answer of a request that succeeds without being passed on. -/
def succeeded (id : String) (flag : Bool) : (request : Backend.Request) → request.Answer
  | .create _ _ => id
  | .renew _ => ()
  | .destroy _ => ()
  | .list => []
  | .put _ _ _ => flag
  | .release _ _ => flag
  | .get _ => none

/-- What is done with the next requests, each action with the kind that it is for. -/
abbrev Script := List (Kind × Action)

namespace Script

/-- Replaces what is done with the next requests of a kind. -/
def set (script : Script) (kind : Kind) (actions : List Action) : Script :=
  (script.filter fun (found, _) => found ≠ kind) ++ actions.map (kind, ·)

/-- What is done with the next request of a kind, and the script after it. -/
def next (kind : Kind) : Script → Action × Script
  | [] => (.pass, [])
  | (found, action) :: script =>
    if found = kind then (action, script)
    else
      let (taken, rest) := next kind script
      (taken, (found, action) :: rest)

end Script

end Leasehold.Simulation
