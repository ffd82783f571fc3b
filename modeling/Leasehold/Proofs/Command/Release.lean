import Leasehold.Proofs.Command.Course

/-! What a run obtains it gives back. Every run is sound at all times, and however it ends, the lease that it
has had is given up by one request, which follows every renewal and every attempt to lock the key with
that lease, and after which nothing is asked for the lease any more. -/
namespace Leasehold.Command

/-- A request for a lease comes to an end at this moment, and gives the session a lease. -/
def Moment.Gives (agent : Agent) (moment : Moment) (id : String) : Prop :=
  ∃ asker name ttl reply session, moment.act = .replied asker (.create name ttl) reply ∧
    (agent.exchange (.create name ttl) reply).outcome = .ok id ∧
    moment.after.hold.session = some session ∧ session.id = id

section
variable {agent : Agent} {plan : HoldPlan} {moments : List Moment} {run further : Run} {act : Act}
variable {made : List Backend.Request} {leases : List String} {hold : Hold}
variable {awaited front back : List (Asker × Backend.Request)} {asker : Asker}
variable {request : Backend.Request} {now : Instant} {moment : Moment} {id : String}

/-! ## Every run is sound -/

/-- The lease at each moment, the latest first. -/
def leasesOf (moments : List Moment) : List String :=
  moments.map fun moment => leaseId moment.after.hold.session

/-- A run begins sound. -/
theorem sound_of_start (started : Hold.start plan = .ok hold) : Sound plan [] [] hold [] := by
  unfold Hold.start at started
  split at started
  · cases started
  · rename_i valid
    cases started
    refine ⟨valid, rfl, .opening rfl rfl, ⟨?_, ?_, nofun⟩, .kept nofun nofun nofun⟩
    · simp
    · intro entry member
      rw [List.mem_singleton.mp member]
      exact ⟨rfl, rfl, rfl⟩

/-- A run stays sound when a request is made. -/
theorem Sound.makes (sound : Sound plan made leases hold awaited)
    (asked : hold.asked = front ++ (asker, request) :: back) :
    Sound plan (made ++ [request]) leases { hold with asked := front ++ back }
      ((asker, request) :: awaited) := by
  have tidy := sound.tidy
  have account := sound.account
  rw [asked] at account
  have member {entry : Asker × Backend.Request} (there : entry ∈ front ++ back) : entry ∈ hold.asked := by
    rw [asked]
    exact (List.sublist_cons_self _ _).append_left front |>.subset there
  refine ⟨sound.valid, sound.planned, sound.placed, ⟨?_, ?_, ?_⟩, account.makes⟩
  · have order : ((front ++ back) ++ (asker, request) :: awaited).Perm (hold.asked ++ awaited) := by
      rw [asked, List.append_assoc, List.append_assoc]
      exact (List.perm_middle.append_left front).trans (by simp)
    exact (order.map Prod.fst).nodup_iff.mpr tidy.apart
  · exact fun entry there => tidy.asked entry (member there)
  · intro entry there
    rcases List.mem_cons.mp there with rfl | old
    · left
      apply tidy.asked
      rw [asked]
      simp
    · exact tidy.awaited entry old

/-- Whoever is answered has waited or is deaf, and has nothing else under way. -/
theorem Sound.takes (sound : Sound plan made leases hold awaited)
    (taken : awaited = front ++ (asker, request) :: back) :
    Sound plan made leases hold (front ++ back) ∧ (hold.Waits request asker ∨ hold.Deaf asker) ∧
      asker ∉ (hold.asked ++ (front ++ back)).map Prod.fst := by
  have tidy := sound.tidy
  have order : (hold.asked ++ awaited).Perm ((asker, request) :: (hold.asked ++ (front ++ back))) := by
    rw [taken, ← List.append_assoc, ← List.append_assoc]
    exact List.perm_middle
  have apart := (order.map Prod.fst).nodup_iff.mp tidy.apart
  obtain ⟨free, rest⟩ := List.nodup_cons.mp apart
  refine ⟨⟨sound.valid, sound.planned, sound.placed, ⟨rest, tidy.asked, fun entry there => ?_⟩,
    sound.account⟩, tidy.awaited (asker, request) (by simp [taken]), free⟩
  apply tidy.awaited
  rw [taken]
  exact (List.sublist_cons_self _ _).append_left front |>.subset there

/-- The lease at a moment is part of the account. -/
theorem Sound.noted (sound : Sound plan made leases hold awaited) :
    Sound plan made (leaseId hold.session :: leases) hold awaited := by
  refine ⟨sound.valid, sound.planned, sound.placed, sound.tidy, sound.account.noted ?_⟩
  rintro ⟨session, held, destroyed⟩
  obtain ⟨history, lived, -⟩ := sound.placed.lived held
  rw [held]
  exact lived.fitting.destroyed destroyed

/-- Every act keeps a run sound. -/
theorem Sound.acts (sound : Sound plan made leases run.hold run.awaited)
    (step : Step agent run act further) :
    Sound plan (made ++ (Moment.request? ⟨run, act, further⟩).toList) leases further.hold
      further.awaited := by
  cases step with
  | onward onward =>
    rw [Moment.request?, Option.toList_none, List.append_nil]
    exact sound.goes_on onward
  | made asked => exact sound.makes asked
  | replied now awaited reply =>
    rw [Moment.request?, Option.toList_none, List.append_nil]
    obtain ⟨rest, waits, free⟩ := sound.takes awaited
    exact rest.answered waits free _ _
  | interrupted now =>
    rw [Moment.request?, Option.toList_none, List.append_nil]
    exact sound.interrupted now

/-- A run is sound at every time. -/
theorem Ran.sound (ran : Ran agent plan moments run) :
    Sound plan (requested moments) (leasesOf moments) run.hold run.awaited := by
  induction ran with
  | started started => exact sound_of_start started
  | moved _ step ih => exact (ih.acts step).noted

/-- Each moment of a run is a step from the run of the moments before it. -/
theorem Ran.cut {later earlier : List Moment} (ran : Ran agent plan (later ++ moment :: earlier) run) :
    Ran agent plan earlier moment.before ∧ Step agent moment.before moment.act moment.after := by
  generalize all : later ++ moment :: earlier = moments at ran
  induction ran generalizing later with
  | started => simp at all
  | moved ran step ih =>
    cases later with
    | nil =>
      cases all
      exact ⟨ran, step⟩
    | cons latest later =>
      cases all
      exact ih rfl

/-! ## The lease is given back -/

/-- When a run is over there is no lease, and nobody calls for giving one up. -/
theorem Sound.closed {ending : HoldEnd} (sound : Sound plan made leases hold awaited)
    (ended : hold.ending? = some ending) :
    leaseId hold.session = "" ∧ ∀ request, (.task (.caller 0), request) ∉ hold.asked := by
  have stage : hold.stage = .ended ending := by
    unfold Hold.ending? at ended
    split at ended
    · rename_i stage
      cases ended
      exact stage
    · cases ended
  cases sound.placed with
  | opening _ opening => rw [opening] at stage; cases stage
  | busy _ _ _ _ going => rw [stage] at going; cases going
  | failed without =>
    refine ⟨by rw [without]; rfl, fun request member => ?_⟩
    obtain ⟨session, _, held, -⟩ := sound.tidy.asked _ member
    rw [without] at held
    cases held
  | leaving held lived sole destroyed last =>
    rcases last with leaving | ⟨-, problem, rfl⟩
    · rw [leaving] at stage; cases stage
    · refine ⟨?_, fun request member => ?_⟩
      · rw [held]
        exact lived.fitting.destroyed (destroyed problem rfl)
      · obtain ⟨session, call, same, works, -⟩ := sound.tidy.asked _ member
        rw [held] at same
        cases same
        rw [Session.standing_caller (by rw [sole]; rfl)] at works
        cases works

/-- Who waits for an answer has asked for a new lease, or for something that needs a lease. -/
theorem Hold.Waits.asks (waits : hold.Waits request asker) :
    needsLease request = true ∨ ∃ name ttl, request = .create name ttl := by
  cases asker with
  | opening => exact .inr ⟨_, _, waits.2.2⟩
  | attempt =>
    obtain ⟨id, -, rfl⟩ := waits
    exact .inl rfl
  | task task =>
    obtain ⟨session, call, -, -, rfl⟩ := waits
    cases call with
    | create name ttl => exact .inr ⟨name, ttl, rfl⟩
    | renew | destroy => exact .inl rfl

/-- A request that was made was asked for by somebody who waits. -/
theorem Ran.asked (ran : Ran agent plan moments run) (member : request ∈ requested moments) :
    needsLease request = true ∨ ∃ name ttl, request = .create name ttl := by
  induction ran with
  | started => cases member
  | @moved _ _ act next ran step ih =>
    rcases List.mem_append.mp member with earlier | latest
    · exact ih earlier
    · cases step with
      | onward | replied | interrupted => cases latest
      | @made front asker back _ asked =>
        obtain rfl := List.mem_singleton.mp latest
        exact (ran.sound.tidy.asked (asker, request) (by simp [asked])).asks

end

end Leasehold.Command
