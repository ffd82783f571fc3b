import Leasehold.Command.Rehearsal
import Leasehold.Proofs.Command.Runs

/-! Rehearsals are runs. What the program does before a scripted agent is one of the runs that `Ran`
describes, whatever the script, so that what holds of all runs holds of every rehearsal. -/
namespace Leasehold.Command

/-- A run that a rehearsal has come to. -/
structure Mirrors (agent : Agent) (rehearsal : Rehearsal) (run : Run) : Prop where
  asks : rehearsal.agent = agent
  hold : run.hold = rehearsal.hold
  awaited : run.awaited =
    (rehearsal.waiting.map fun waiting => (waiting.asker, waiting.request)).reverse
  /-- Whatever waits for the end of its time is not replied to. -/
  results : ∀ waiting ∈ rehearsal.waiting,
    waiting.result = (agent.exchange waiting.request .lost).outcome

section
variable {agent : Agent} {plan : HoldPlan} {moments : List Moment} {run : Run}
variable {rehearsal : Rehearsal} {hold : Hold} {awaited : List (Asker × Backend.Request)}
variable {asker : Asker} {request : Backend.Request} {rest : List (Asker × Backend.Request)}

/-- What the program does without time going by belongs to a run. -/
theorem Ran.settles (ran : Ran agent plan moments ⟨hold, awaited⟩) (now : Instant) (fuel : Nat) :
    ∃ later, Ran agent plan later ⟨hold.settleWithin now fuel, awaited⟩ := by
  induction fuel generalizing hold moments with
  | zero => exact ⟨moments, ran⟩
  | succ fuel ih =>
    unfold Hold.settleWithin
    cases goes : hold.next? now with
    | none => exact ⟨moments, ran⟩
    | some next => exact ih (ran.moved (.onward (onward_of_next? goes)))

/-- A scene answers a request as the agent does for some reply, and a request that stalls as for none. -/
theorem exchange_of_scene (scene : Scene) (agent : Agent) (request : Backend.Request) :
    ∃ reply, (scene.exchange agent request).2.1 = (agent.exchange request reply).outcome ∧
      ((scene.exchange agent request).2.2.1 = true → reply = .lost) := by
  unfold Scene.exchange
  dsimp only
  split
  · dsimp only
    exact ⟨.lost, rfl, nofun⟩
  · dsimp only
    refine ⟨_, rfl, ?_⟩
    unfold Scene.replyTo
    split
    · nofun
    · exact fun _ => rfl
    · nofun

/-- A request that the program makes before its scene belongs to a run. -/
theorem Mirrors.makes (mirrors : Mirrors agent rehearsal run) (ran : Ran agent plan moments run)
    (asked : rehearsal.hold.asked = (asker, request) :: rest) :
    ∃ later next, Ran agent plan later next ∧ Mirrors agent (rehearsal.ask asker request rest) next := by
  have first : run.hold.asked = [] ++ (asker, request) :: rest := by rw [mirrors.hold, asked]; rfl
  have made := ran.moved (.made first)
  obtain ⟨reply, outcome, stalls⟩ := exchange_of_scene rehearsal.scene agent request
  -- Unless it stalls, the request comes to an end at once.
  have latest : (asker, request) :: run.awaited = [] ++ (asker, request) :: run.awaited := rfl
  have replied := made.moved (.replied rehearsal.now latest reply)
  obtain rfl := mirrors.asks
  unfold Rehearsal.ask
  generalize rehearsal.scene.exchange rehearsal.agent request = exchange at outcome stalls
  obtain ⟨sent, ended, stalled, scene⟩ := exchange
  dsimp only at outcome stalls ⊢
  split
  · refine ⟨_, _, replied, ⟨rfl, ?_, mirrors.awaited, mirrors.results⟩⟩
    rw [outcome, ← mirrors.hold]
    rfl
  · split
    · rename_i stall
      refine ⟨_, _, made, ⟨rfl, ?_, ?_, ?_⟩⟩
      · rw [← mirrors.hold]; rfl
      · simp [mirrors.awaited]
      · intro waiting member
        rcases List.mem_append.mp member with old | new
        · exact mirrors.results waiting old
        · rw [List.mem_singleton.mp new, ← stalls stall]
          exact outcome
    · refine ⟨_, _, replied, ⟨rfl, ?_, mirrors.awaited, mirrors.results⟩⟩
      rw [outcome, ← mirrors.hold]
      rfl

/-- A request whose time is over belongs to a run. -/
theorem Mirrors.expires {expired : Waiting} (mirrors : Mirrors agent rehearsal run)
    (ran : Ran agent plan moments run)
    (found : rehearsal.waiting.find? (fun waiting => waiting.due ≤ rehearsal.now) = some expired) :
    ∃ later next, Ran agent plan later next ∧ Mirrors agent { rehearsal with
      waiting := rehearsal.waiting.eraseP fun waiting => waiting.due ≤ rehearsal.now
      hold := rehearsal.hold.answered rehearsal.now expired.asker expired.request expired.result }
      next := by
  obtain ⟨late, front, back, waiting, early⟩ := List.find?_eq_some_iff_append.mp found
  have erased : (rehearsal.waiting.eraseP fun waiting => waiting.due ≤ rehearsal.now) =
      front ++ back := by
    rw [waiting, List.eraseP_append_right _ (fun other member => by simpa using early other member)]
    exact congrArg (front ++ ·) (List.eraseP_cons_of_pos late)
  have awaited : run.awaited = (back.map fun waiting => (waiting.asker, waiting.request)).reverse ++
      (expired.asker, expired.request) ::
        (front.map fun waiting => (waiting.asker, waiting.request)).reverse := by
    simp [mirrors.awaited, waiting]
  have result := mirrors.results expired (by simp [waiting])
  refine ⟨_, _, ran.moved (.replied rehearsal.now awaited .lost),
    ⟨mirrors.asks, ?_, ?_, ?_⟩⟩
  · rw [← result, mirrors.hold]
  · simp [erased]
  · intro other member
    rw [erased] at member
    apply mirrors.results
    rw [waiting]
    exact (List.sublist_cons_self _ _).append_left front |>.subset member

/-- **Rehearsals are runs.** A rehearsal that ends has come to a run that ends like it, and shows what
that run has printed. -/
theorem Mirrors.ends {fuel : Nat} {ending : Ending} {sent : List Sent}
    (mirrors : Mirrors agent rehearsal run) (ran : Ran agent plan moments run)
    (went : Rehearsal.go fuel rehearsal = .ended ending sent) :
    ∃ later last how, Ran agent plan later last ∧ last.hold.ending? = some how ∧
      ending = held last.hold.plan.key last.hold.lines how := by
  induction fuel generalizing rehearsal run moments with
  | zero => cases went
  | succ fuel ih =>
    obtain ⟨hold, awaited⟩ := run
    obtain rfl : hold = rehearsal.hold := mirrors.hold
    obtain ⟨later, settled⟩ : ∃ later, Ran agent plan later
        ⟨rehearsal.hold.settle rehearsal.now, awaited⟩ := ran.settles rehearsal.now _
    have same : Mirrors agent { rehearsal with hold := rehearsal.hold.settle rehearsal.now }
        ⟨rehearsal.hold.settle rehearsal.now, awaited⟩ :=
      ⟨mirrors.asks, rfl, mirrors.awaited, mirrors.results⟩
    unfold Rehearsal.go at went
    dsimp only at went
    split at went
    · rename_i how ended
      cases went
      exact ⟨later, _, how, settled, ended, rfl⟩
    · rename_i asked
      obtain ⟨_, _, asking, onward⟩ := same.makes settled asked
      exact ih onward asking went
    · split at went
      · rename_i found
        obtain ⟨_, _, answered, onward⟩ := same.expires settled found
        exact ih onward answered went
      · split at went
        · have interrupted := settled.moved (.interrupted rehearsal.now)
          refine ih ?_ interrupted went
          exact ⟨mirrors.asks, rfl, mirrors.awaited, mirrors.results⟩
        · split at went
          · cases went
          · split at went
            · cases went
            · refine ih ?_ settled went
              exact ⟨mirrors.asks, rfl, mirrors.awaited, mirrors.results⟩

/-- A rehearsal of holding a lock that ends is a run. -/
theorem ran_of_rehearsal {fuel : Nat} {scene : Scene} {ending : Ending} {sent : List Sent}
    (started : Hold.start plan = .ok hold)
    (went : Rehearsal.go fuel { agent, scene, hold } = .ended ending sent) :
    ∃ moments run how, Ran agent plan moments run ∧ run.hold.ending? = some how ∧
      ending = held run.hold.plan.key run.hold.lines how :=
  Mirrors.ends ⟨rfl, rfl, rfl, fun _ => by simp⟩ (.started started) went

end

end Leasehold.Command
