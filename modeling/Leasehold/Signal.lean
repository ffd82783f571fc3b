import Leasehold.Error
/-!
The signal that tells how a session ended. Each generation of a session's lease has a signal of its
own, which settles at most once: with nothing after an orderly end, with an error when the lease was
lost. A generation that is over before its signal settled is closed, and never settles.

An observer belongs to one generation and is told what became of that one, early or late, whatever
happens to the generations after it.
-/
namespace Leasehold

/-- What became of a generation so far. -/
inductive Fate where
  /-- Nothing yet. -/
  | pending
  /-- It ended, in order or with an error. -/
  | settled (outcome : Option Error)
  /-- It is over, and it was never said how it ended. -/
  | closed
deriving DecidableEq, Repr

namespace Fate

/-- What became of a generation when it ends like this. Only a pending one takes notice. -/
def settle (outcome : Option Error) : Fate → Fate
  | .pending => .settled outcome
  | fate => fate

/-- What became of a generation when nobody can settle it any more. -/
def close : Fate → Fate
  | .pending => .closed
  | fate => fate

/-- Whether a generation can still settle. -/
def isPending : Fate → Bool
  | .pending => true
  | _ => false

end Fate

/-- The signals of all generations of a session. -/
structure Signal where
  /-- What became of the generations before the current one, the first one first. -/
  past : List Fate := []
  /-- What became of the current generation. -/
  current : Fate := .pending
deriving DecidableEq, Repr

/-- An observer of the signal of one generation. A copy of an observer is an observer of the same
generation. -/
structure Observer where
  /-- The number of the generation; the first one has number 0. -/
  generation : Nat
deriving DecidableEq, Repr

namespace Signal

/-- Settles the current generation, and says whether it had not settled before (`fire`). -/
def fire (outcome : Option Error) (signal : Signal) : Bool × Signal :=
  (signal.current.isPending, { signal with current := signal.current.settle outcome })

/-- Begins a new generation (`rearm`). -/
def rearm (signal : Signal) : Signal :=
  { past := signal.past ++ [signal.current.close], current := .pending }

/-- Ends the last generation, when its session is dropped. -/
def drop (signal : Signal) : Signal := { signal with current := signal.current.close }

/-- A new observer of the current generation (`subscribe`). -/
def subscribe (signal : Signal) : Observer := ⟨signal.past.length⟩

/-- What became of the generation with this number. -/
def fate (signal : Signal) (generation : Nat) : Fate :=
  (signal.past ++ [signal.current])[generation]?.getD .pending

end Signal

namespace Observer

/-- The outcome of the observed generation, if it has settled (`try_recv`). -/
def tryRecv (observer : Observer) (signal : Signal) : Option (Option Error) :=
  match signal.fate observer.generation with
  | .settled outcome => some outcome
  | _ => none

/-- Whether the observed generation has settled (`is_settled`). -/
def isSettled (observer : Observer) (signal : Signal) : Bool := (observer.tryRecv signal).isSome

/-- What an observer that waits is told, if it need not wait any longer (`recv`). A closed generation
counts as one that ended in order. -/
def recv (observer : Observer) (signal : Signal) : Option (Option Error) :=
  match signal.fate observer.generation with
  | .pending => none
  | .settled outcome => some outcome
  | .closed => some none

end Observer

end Leasehold
