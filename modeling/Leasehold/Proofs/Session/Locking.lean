import Leasehold.Proofs.Session.LeaseAccounting
import Leasehold.Proofs.Session.Runs
import Leasehold.Session.Lock

/-! Attempts to lock a key while the session goes on. An attempt is made with the lease that the session
has when it begins, and is judged when the backend answers. Only a call of `destroy` or `recreate` takes
a lease from its session, and as long as the manager makes leases with distinct ids it never comes back,
so that an attempt whose lease was taken neither succeeds nor blames another holder. The backend's own
failures come before that judgement: all but the loss of a lease are passed on as they are. -/
namespace Leasehold.Session

variable {start session next : Session} {event : Event} {call : Option Manager.Call} {now : Instant}
variable {history : History} {moments : List Moment} {moment : Moment} {id : String}

/-! ## Leases that are taken away -/

theorem liveId_eq_ok_iff :
    session.liveId = .ok id ↔ session.lease.state = .active ∧ session.lease.id = id ∧ id ≠ "" := by
  unfold liveId
  by_cases state : session.lease.state = .active
  · by_cases without : session.lease.id = ""
    · simp [state, without, eq_comm]
    · simp only [state, without, ne_eq, not_true_eq_false, or_self, ↓reduceIte, Except.ok.injEq,
        true_and, iff_self_and]
      rintro rfl
      exact without
  · simp [state]

/-- The lease of a session was made for it. -/
theorem Lived.lease_made (lived : Lived history session) (leased : session.lease.id ≠ "") :
    session.lease.id ∈ history.made := by
  induction lived with
  | opened _ opened =>
    rcases (fresh_of_opened opened).2 with rfl | ⟨without, -⟩
    · simp [History.made, Except.toOption]
    · exact absurd without leased
  | @happened history session now event next call lived stepped ih =>
    have move := leaseMove_of_outcome lived.fitting (transition_of_step stepped)
    rw [made_add]
    generalize Moment.made? ⟨now, session, event, next, call⟩ = new at move ⊢
    generalize Moment.surrendered? ⟨now, session, event, next, call⟩ = given at move
    cases move with
    | kept same =>
      rw [same] at leased ⊢
      exact List.mem_append_right _ (ih leased)
    | surrendered _ without => exact absurd without leased
    | made _ fresh => simp [fresh]

/-- Only the turn of a call takes a lease away. -/
theorem taken_by_call (fitting : session.Fitting) (outcome : Transition now session event next call)
    (held : session.lease.id ≠ "") (taken : next.lease.id ≠ session.lease.id) :
    ∃ index, event = .granted (.caller index) := by
  cases outcome
  case closed index _ _ _ _ _ => exact ⟨index, rfl⟩
  case surrendered index _ _ _ _ _ => exact ⟨index, rfl⟩
  case began =>
    apply absurd _ taken
    rw [stopMonitor_eq]
  case dropped =>
    apply absurd _ taken
    rw [stopMonitor_eq]
    rfl
  case found intent _ _ _ =>
    apply absurd _ taken
    cases intent <;> rw [stopMonitor_eq] <;> rfl
  case released intent _ _ =>
    apply absurd _ taken
    cases intent <;> rfl
  case armed waits =>
    rcases (fitting.monitor _ _ (standing_monitor waits)).2 with ⟨without, -⟩ | ⟨-, other⟩
    · exact absurd without held
    · cases other
  case recreated waits =>
    exact absurd (fitting.destroyed (fitting.caller _ _ (standing_caller waits))) held
  all_goals exact absurd rfl taken

theorem made_extend (history : History) (moment : Moment) (moments : List Moment) :
    (history.extend (moment :: moments)).made =
      moment.made?.toList ++ (history.extend moments).made :=
  made_add (history.extend moments) moment

/-- What was made before a run was made when it is over. -/
theorem made_of_extend (made : id ∈ history.made) (moments : List Moment) :
    id ∈ (history.extend moments).made := by
  induction moments with
  | nil => exact made
  | cons moment moments ih =>
    rw [made_extend]
    exact List.mem_append_right _ ih

/-- A lease that was taken away does not come back. -/
theorem Ran.never_returns (ran : Ran start moments session) (lived : Lived history start)
    (held : start.lease.id = id) (leased : id ≠ "")
    (distinct : (history.extend moments).made.Nodup) (member : moment ∈ moments)
    (taken : moment.after.lease.id ≠ id) : session.lease.id ≠ id := by
  induction ran with
  | still => cases member
  | @moved moments session now event next call ran stepped ih =>
    rcases List.mem_cons.mp member with rfl | earlier
    · exact taken
    · rw [made_extend] at distinct
      have without := ih (List.nodup_append.mp distinct).2.1 earlier
      have move := leaseMove_of_outcome (ran.lived lived).fitting (transition_of_step stepped)
      generalize Moment.made? ⟨now, session, event, next, call⟩ = new at move distinct
      generalize Moment.surrendered? ⟨now, session, event, next, call⟩ = given at move
      cases move with
      | kept same => rwa [same]
      | surrendered _ none =>
        rw [none]
        exact leased.symm
      | @made fresh _ same =>
        -- The old lease was made before, so that a fresh one has another id.
        have old : id ∈ (history.extend moments).made := by
          apply made_of_extend
          rw [← held]
          exact lived.lease_made (held ▸ leased)
        rw [same]
        rintro rfl
        exact (List.nodup_cons.mp distinct).1 old

/-! ## Leases that stay -/

/-- A lease that is live was live before, if it is none that was made just now. Nothing is given up then,
and nothing is made. -/
theorem Lived.live_before (lived : Lived history session)
    (stepped : session.step now event = some (next, call))
    (once : (history.add ⟨now, session, event, next, call⟩).made.Nodup) (made : id ∈ history.made)
    (live : next.liveId = .ok id) :
    session.liveId = .ok id ∧
      (history.add ⟨now, session, event, next, call⟩).made = history.made ∧
      (history.add ⟨now, session, event, next, call⟩).surrendered = history.surrendered := by
  have outcome := transition_of_step stepped
  obtain ⟨active, held, leased⟩ := liveId_eq_ok_iff.mp live
  have move := leaseMove_of_outcome lived.fitting outcome
  rw [made_add] at once ⊢
  rw [surrendered_add]
  generalize Moment.made? ⟨now, session, event, next, call⟩ = new at move once ⊢
  generalize Moment.surrendered? ⟨now, session, event, next, call⟩ = given at move ⊢
  cases move with
  | kept same =>
    rw [same] at held
    refine ⟨liveId_eq_ok_iff.mpr ⟨?_, held, leased⟩, rfl, rfl⟩
    rcases active_before lived.fitting outcome active with before | ⟨without, -⟩
    · exact before
    · exact absurd (held.symm.trans without) leased
  | surrendered _ without => exact absurd (held.symm.trans without) leased
  | made _ fresh =>
    rw [held] at fresh
    subst fresh
    exact absurd made (List.nodup_cons.mp once).1

/-! ## Attempts -/

/-- An answer without a failure is void unless the lease of the attempt is the session's. -/
theorem lockResult_of_stale (stale : session.liveId ≠ .ok id) (key : String) (locked : Bool) :
    session.lockResult key id (.ok locked) = .error .sessionInvalid := by
  unfold lockResult
  cases live : session.liveId with
  | error _ => rfl
  | ok held =>
    have other : held ≠ id := by
      rintro rfl
      exact stale live
    simp [other]

/-- While the lease of the attempt is the session's, an answer without a failure says whether the key is
locked. -/
theorem lockResult_of_live (live : session.liveId = .ok id) (key : String) (locked : Bool) :
    session.lockResult key id (.ok locked) =
      if locked then .ok () else .error (.lockHeldByOther key) := by
  simp [lockResult, live]

/-- An attempt that succeeds was granted to the lease that the session still has. -/
theorem lockResult_eq_ok {key : String} {result : Except Error Bool}
    (locked : session.lockResult key id result = .ok ()) :
    result = .ok true ∧ session.liveId = .ok id := by
  cases result with
  | error error => cases error <;> cases locked
  | ok acquired =>
    by_cases live : session.liveId = .ok id
    · rw [lockResult_of_live live] at locked
      cases acquired with
      | true => exact ⟨rfl, live⟩
      | false => cases locked
    · rw [lockResult_of_stale live] at locked
      cases locked

/-- An attempt that blames another holder was denied to the lease that the session still has, or the
backend has blamed one. -/
theorem lockResult_eq_held {key named : String} {result : Except Error Bool}
    (blamed : session.lockResult key id result = .error (.lockHeldByOther named)) :
    (result = .ok false ∧ named = key ∧ session.liveId = .ok id) ∨
      result = .error (.lockHeldByOther named) := by
  cases result with
  | error error =>
    cases error <;> cases blamed
    exact .inr rfl
  | ok acquired =>
    by_cases live : session.liveId = .ok id
    · rw [lockResult_of_live live] at blamed
      cases acquired with
      | true => cases blamed
      | false => cases blamed; exact .inl ⟨rfl, rfl, live⟩
    · rw [lockResult_of_stale live] at blamed
      cases blamed

/-- **Attempts whose lease was taken.** An attempt to lock a key begins with a live lease, which is then
taken from the session before the backend answers. A call of `destroy` or `recreate` has taken it, and it
is not the session's when the answer comes. The attempt fails as one without a live lease exactly if the
backend took the request, whatever it says of the lock, or does not know the lease, or says so itself.
Every other failure of the backend is passed on instead. -/
theorem stale_attempt_fails (lived : Lived history start) (began : start.liveId = .ok id)
    (ran : Ran start moments session) (distinct : (history.extend moments).made.Nodup)
    (member : moment ∈ moments) (before : moment.before.lease.id = id)
    (taken : moment.after.lease.id ≠ id) (key : String) (answer : Except Error Bool) :
    (∃ index, moment.event = .granted (.caller index)) ∧ session.liveId ≠ .ok id ∧
      (session.lockResult key id answer = .error .sessionInvalid ↔
        (∃ locked, answer = .ok locked) ∨ (∃ lease, answer = .error (.sessionNotFound lease)) ∨
          answer = .error .sessionInvalid) ∧
      ∀ error, answer = .error error → (∀ lease, error ≠ .sessionNotFound lease) →
        session.lockResult key id answer = .error error := by
  obtain ⟨-, held, leased⟩ := liveId_eq_ok_iff.mp began
  have stale : session.liveId ≠ .ok id := by
    intro live
    exact ran.never_returns lived held leased distinct member taken (liveId_eq_ok_iff.mp live).2.1
  refine ⟨?_, stale, ?_, ?_⟩
  · obtain ⟨earlier, front, stepped⟩ := ran.cut member
    apply taken_by_call (front.lived lived).fitting (transition_of_step stepped)
    · rwa [before]
    · rwa [before]
  · cases answer with
    | ok locked => simp [lockResult_of_stale stale]
    | error error => cases error <;> simp [lockResult]
  · rintro error rfl other
    cases error with
    | sessionNotFound lease => exact absurd rfl (other lease)
    | _ => rfl

/-- A session that replaces its lease. -/
def replacingLease : Option (List Moment × Session) :=
  follow opening.2
    [(0, .began .recreate), (0, .granted (.caller 0)), (5, .answered (.caller 0) (.destroyed (.ok ()))),
      (9, .answered (.caller 0) (.created (.ok "L2")))]

/-- An attempt that began with the old lease is told that the backend was out of reach, and not that its
lease is gone. -/
theorem replaced_attempt_passes_failure : ∃ moments session,
    replacingLease = some (moments, session) ∧ opening.2.liveId = .ok "L1" ∧
      (opening.1.extend moments).made.Nodup ∧
      (∃ moment ∈ moments, moment.before.lease.id = "L1" ∧ moment.after.lease.id ≠ "L1") ∧
      session.liveId = .ok "L2" ∧
      session.lockResult "foo" "L1" (.error (.backendUnavailable "connection refused")) =
        .error (.backendUnavailable "connection refused") ∧
      session.lockResult "foo" "L1" (.ok true) = .error .sessionInvalid := by
  have ran : replacingLease = some (replacingLease.get (by decide)) := (Option.some_get _).symm
  let moments := (replacingLease.get (by decide)).1
  have distinct : (opening.1.extend moments).made.Nodup := by decide
  have taken : ∃ moment ∈ moments, moment.before.lease.id = "L1" ∧ moment.after.lease.id ≠ "L1" := by
    decide
  obtain ⟨moment, member, before, gone⟩ := taken
  have live : (replacingLease.get (by decide)).2.liveId = .ok "L2" :=
    liveId_eq_ok_iff.mpr (by decide)
  have judged :=
    stale_attempt_fails lived_opening rfl (ran_of_follow ran) distinct member before gone "foo"
  obtain ⟨-, -, -, passed⟩ := judged (.error (.backendUnavailable "connection refused"))
  obtain ⟨-, -, void, -⟩ := judged (.ok true)
  exact ⟨_, _, ran, rfl, distinct, ⟨moment, member, before, gone⟩, live,
    passed _ rfl (by rintro _ ⟨⟩), void.mpr (.inl ⟨true, rfl⟩)⟩

end Leasehold.Session
