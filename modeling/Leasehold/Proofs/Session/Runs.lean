import Leasehold.Proofs.Session.History

/-! What happens to a session from some moment on. A run continues a history, so that everything that
holds of a session at every time holds at each moment of a run. -/
namespace Leasehold.Session

/-- What becomes of a session, with all moments on the way, the latest first. -/
inductive Ran (start : Session) : List Moment → Session → Prop where
  | still : Ran start [] start
  | moved (ran : Ran start moments session)
      (stepped : session.step now event = some (next, call)) :
      Ran start (⟨now, session, event, next, call⟩ :: moments) next

/-- The history with all moments of a run. -/
def History.extend (history : History) (moments : List Moment) : History :=
  { history with moments := moments ++ history.moments }

/-- A run makes a longer history. -/
theorem Ran.lived (ran : Ran start moments session) (lived : Lived history start) :
    Lived (history.extend moments) session := by
  induction ran with
  | still => exact lived
  | moved _ stepped ih => exact .happened ih stepped

/-- The terms on which a session was made stay along a run. -/
theorem Ran.terms (ran : Ran start moments session) :
    session.name = start.name ∧ session.ttl = start.ttl ∧ session.settings = start.settings := by
  induction ran with
  | still => exact ⟨rfl, rfl, rfl⟩
  | moved _ stepped ih =>
    obtain ⟨name, ttl, settings⟩ := terms_after (transition_of_step stepped)
    exact ⟨name.trans ih.1, ttl.trans ih.2.1, settings.trans ih.2.2⟩

/-- A run that goes on after a run is a run. -/
theorem Ran.trans (front : Ran start moments middle) (rest : Ran middle later session) :
    Ran start (later ++ moments) session := by
  induction rest with
  | still => exact front
  | moved _ stepped ih => exact .moved ih stepped

/-- Each moment of a run is a step of a session that the run has reached. -/
theorem Ran.cut (ran : Ran start moments session) (member : moment ∈ moments) :
    ∃ earlier, Ran start earlier moment.before ∧
      moment.before.step moment.now moment.event = some (moment.after, moment.call) := by
  induction ran with
  | still => cases member
  | moved ran stepped ih =>
    rcases List.mem_cons.mp member with rfl | earlier
    · exact ⟨_, ran, stepped⟩
    · exact ih earlier

/-- Lets events happen one after the other, and gives the moments, the latest first. -/
def follow (session : Session) : List (Instant × Event) → Option (List Moment × Session)
  | [] => some ([], session)
  | (now, event) :: rest =>
    match session.step now event with
    | some (next, call) =>
      (follow next rest).map fun (moments, later) =>
        (moments ++ [⟨now, session, event, next, call⟩], later)
    | none => none

theorem ran_of_follow (followed : follow start events = some (moments, session)) :
    Ran start moments session := by
  induction events generalizing start moments with
  | nil => cases followed; exact .still
  | cons event rest ih =>
    simp only [follow] at followed
    split at followed
    · rename_i stepped
      obtain ⟨⟨after, later⟩, ran, same⟩ := Option.map_eq_some_iff.mp followed
      cases same
      exact (Ran.moved .still stepped).trans (ih ran)
    · cases followed

end Leasehold.Session
