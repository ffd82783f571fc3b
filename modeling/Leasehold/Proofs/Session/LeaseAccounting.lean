import Leasehold.Proofs.Session.History

/-! Every lease that a session is given is accounted for. The task whose turn it is fits the state of
the lease (`Fitting`): a monitor works on the lease of an active session, a call on a session that is
destroyed. From this follows the account of a whole history (`Accounted`): all leases but the current
one were passed to `destroy`, the current one was made last and was not. -/
namespace Leasehold.Session

variable {session next : Session} {event : Event} {call : Option Manager.Call} {now : Instant}
variable {task : Task} {history : History} {made : Manager.Call}

/-! ## Work fits the lease -/

/-- What a working task works on is the lease as it is. -/
structure Fitting (session : Session) : Prop where
  /-- A destroyed session has no lease. -/
  destroyed : session.lease.state = .destroyed → session.lease.id = ""
  /-- A monitor works for an active session: it asks for a lease when there is none, and renews the
  lease that is there. -/
  monitor : ∀ index call, session.standing (.monitor index) = .working call →
    session.lease.state = .active ∧
      (session.lease.id = "" ∧ call = .create session.name session.ttl ∨
        session.lease.id ≠ "" ∧ call = .renew session.lease.id)
  /-- A call works on a session that is destroyed. -/
  caller : ∀ index call, session.standing (.caller index) = .working call →
    session.lease.state = .destroyed

theorem fitting_fresh (fresh : session.Fresh now) : session.Fitting := by
  refine ⟨fun destroyed => ?_, fun index call works => ?_, fun index call works => ?_⟩
  · rw [fresh.active] at destroyed; cases destroyed
  · have head := (orderly_fresh fresh).first _ _ works
    rw [fresh.queue] at head; cases head
  · have head := (orderly_fresh fresh).first _ _ works
    rw [fresh.queue] at head; cases head

/-- Who works after a step has worked before, or has just made its call. -/
theorem working_after (outcome : Transition now session event next call)
    (works : next.standing task = .working made) :
    session.standing task = .working made ∨ session.subject event = some task ∧ call = some made := by
  by_cases about : session.subject event = some task
  · cases moved_of_subject outcome about with
    | joined _ after _ => rw [after] at works; cases works
    | called _ after _ => rw [after] at works; cases works; exact .inr ⟨about, rfl⟩
    | left after _ => rw [after] at works; cases works
  · exact .inl (standing_of_other outcome about ▸ works)

/-- A step of the head of the queue leaves only the head at work, if anyone. -/
theorem working_after_head (orderly : session.Orderly)
    (outcome : Transition now session event next call) (head : session.queue.head? = some task)
    (about : session.subject event = some task) {other : Task}
    (works : next.standing other = .working made) : other = task ∧ call = some made := by
  rcases working_after outcome works with worked | ⟨found, called⟩
  · obtain rfl : task = other := Option.some.inj (head.symm.trans (orderly.first other made worked))
    cases moved_of_subject outcome about with
    | joined _ after _ => rw [after] at works; cases works
    | called _ after _ => rw [after] at works; cases works; exact ⟨rfl, rfl⟩
    | left after _ => rw [after] at works; cases works
  · exact ⟨(Option.some.inj (about.symm.trans found)).symm, called⟩

/-- A step that leaves the lease alone keeps it fitting, if a call that is made fits. -/
private theorem fitting_of_same_lease (fitting : session.Fitting)
    (outcome : Transition now session event next call) (lease : next.lease = session.lease)
    (name : next.name = session.name) (ttl : next.ttl = session.ttl)
    (monitor : ∀ index call', session.subject event = some (.monitor index) → call = some call' →
      session.lease.state = .active ∧
        (session.lease.id = "" ∧ call' = .create session.name session.ttl ∨
          session.lease.id ≠ "" ∧ call' = .renew session.lease.id))
    (caller : ∀ index call', session.subject event = some (.caller index) → call = some call' →
      session.lease.state = .destroyed) : next.Fitting := by
  refine ⟨fun destroyed => ?_, fun index made works => ?_, fun index made works => ?_⟩
  · rw [lease] at destroyed ⊢; exact fitting.destroyed destroyed
  · rw [lease, name, ttl]
    rcases working_after outcome works with worked | ⟨about, called⟩
    · exact fitting.monitor index made worked
    · exact monitor index made about called
  · rw [lease]
    rcases working_after outcome works with worked | ⟨about, called⟩
    · exact fitting.caller index made worked
    · exact caller index made about called

/-- After the turn of the head of the queue nobody works, so that only a destroyed session is held
to anything. -/
private theorem fitting_of_turn_over (orderly : session.Orderly)
    (outcome : Transition now session event next none) (head : session.queue.head? = some task)
    (about : session.subject event = some task)
    (destroyed : next.lease.state = .destroyed → next.lease.id = "") : next.Fitting := by
  refine ⟨destroyed, fun index made works => ?_, fun index made works => ?_⟩ <;>
    cases (working_after_head orderly outcome head about works).2

/-- A call that gives up the lease in its turn leaves a destroyed session, on which only it works. -/
private theorem fitting_of_teardown (orderly : session.Orderly)
    (outcome : Transition now session event next call)
    (head : session.queue.head? = some (.caller index))
    (about : session.subject event = some (.caller index))
    (lease : next.lease = { session.lease with id := "", state := .destroyed }) : next.Fitting := by
  refine ⟨fun _ => by rw [lease], fun position made works => ?_, fun _ _ _ => by rw [lease]⟩
  cases (working_after_head orderly outcome head about works).1

/-- The work of a session keeps fitting its lease. -/
theorem fitting_preserved (orderly : session.Orderly) (fitting : session.Fitting)
    (outcome : Transition now session event next call) : next.Fitting := by
  have head {task call} (held : session.standing task = .working call) :
      session.queue.head? = some task := orderly.first task call held
  have step := outcome
  cases outcome
  case began =>
    refine fitting_of_same_lease fitting step ?_ ?_ ?_ nofun nofun <;> rw [stopMonitor_eq]
  case woke | noticed | retired | ignored | postponed | refused | forgone | deserted =>
    exact fitting_of_same_lease fitting step rfl rfl rfl nofun nofun
  case dropped =>
    refine fitting_of_same_lease fitting step ?_ ?_ ?_ nofun nofun <;> rw [stopMonitor_eq] <;> rfl
  case asked first queued active without =>
    refine fitting_of_same_lease fitting step rfl rfl rfl ?_ nofun
    rintro index made _ ⟨⟩
    exact ⟨active, .inl ⟨without, rfl⟩⟩
  case renews first queued active leased =>
    refine fitting_of_same_lease fitting step rfl rfl rfl ?_ nofun
    rintro index made _ ⟨⟩
    exact ⟨active, .inr ⟨leased, rfl⟩⟩
  case found intent first queued destroyed =>
    refine fitting_of_same_lease fitting step ?_ ?_ ?_ nofun (fun _ _ _ _ => destroyed) <;>
      cases intent <;> rw [stopMonitor_eq] <;> rfl
  case released intent held waits =>
    refine fitting_of_same_lease fitting step ?_ ?_ ?_ nofun
      (fun _ _ _ _ => fitting.caller _ _ (standing_caller waits)) <;> cases intent <;> rfl
  case closed intent first queued live without =>
    refine fitting_of_teardown orderly step first rfl ?_
    cases intent <;> rfl
  case surrendered first queued live leased => exact fitting_of_teardown orderly step first rfl rfl
  case armed waits | denied waits _ | expired waits _ _ | lost waits _ =>
    exact fitting_of_turn_over orderly step (head (standing_monitor waits)) rfl nofun
  case renewed waits | failed waits _ _ =>
    exact fitting_of_turn_over orderly step (head (standing_monitor waits)) rfl fitting.destroyed
  case recreated waits =>
    refine fitting_of_turn_over orderly step (head (standing_caller waits)) rfl ?_
    rw [startMonitor_eq]
    nofun

/-- Every working task fits the lease at every time. -/
theorem Lived.fitting (lived : Lived history session) : session.Fitting := by
  induction lived with
  | opened _ opened => exact fitting_fresh (fresh_of_opened opened).1
  | happened lived stepped ih => exact fitting_preserved lived.orderly ih (transition_of_step stepped)

/-- A session that is active was active before, unless it was without a lease and a call has begun a
generation. -/
theorem active_before (fitting : session.Fitting) (outcome : Transition now session event next call)
    (active : next.lease.state = .active) :
    session.lease.state = .active ∨
      session.lease.id = "" ∧ next.err.generation = session.err.generation + 1 ∧ next.current ≠ none := by
  cases outcome
  case began | dropped => left; rw [stopMonitor_eq] at active; exact active
  case found destroyed => simp [stopMonitor_eq, destroyed] at active
  case closed => simp [fire] at active
  case surrendered => cases active
  case released waits =>
    simp [fire, fitting.caller _ _ (standing_caller waits)] at active
  case recreated waits =>
    right
    rw [recreated_eq]
    exact ⟨fitting.destroyed (fitting.caller _ _ (standing_caller waits)), List.length_append ..,
      by rintro ⟨⟩⟩
  case armed waits => exact .inl (fitting.monitor _ _ (standing_monitor waits)).1
  case denied | expired | lost => cases active
  all_goals exact .inl active

/-! ## The account of a history -/

/-- What a moment does to the lease, by the ids that were made and surrendered. -/
inductive LeaseMove (session next : Session) : Option String → Option String → Prop where
  /-- The lease stays. -/
  | kept (id : next.lease.id = session.lease.id) : LeaseMove session next none none
  /-- The lease is given up. -/
  | surrendered (leased : session.lease.id ≠ "") (id : next.lease.id = "") :
      LeaseMove session next none (some session.lease.id)
  /-- A session without a lease gets one. -/
  | made (without : session.lease.id = "") (id : next.lease.id = fresh) :
      LeaseMove session next (some fresh) none

private theorem made_ignored (told : session.monitors[index]? = some ⟨true, phase⟩) :
    Moment.made? ⟨now, session, .answered (.monitor index) reply, next, call⟩ = none := by
  unfold Moment.made?
  split
  · rename_i same; cases same; simp [heeds, told]
  · rfl

private theorem made_heeded (waits : session.monitors[index]? = some ⟨false, phase⟩) :
    Moment.made? ⟨now, session, .answered (.monitor index) (.created (.ok fresh)), next, call⟩ =
      some fresh := by
  simp [Moment.made?, heeds, waits]

theorem leaseMove_of_outcome (fitting : session.Fitting)
    (outcome : Transition now session event next call) :
    LeaseMove session next (Moment.made? ⟨now, session, event, next, call⟩)
      (Moment.surrendered? ⟨now, session, event, next, call⟩) := by
  cases outcome
  case began => exact .kept (by rw [stopMonitor_eq])
  case dropped => exact .kept (by rw [stopMonitor_eq]; rfl)
  case woke | noticed | retired | asked | renews | postponed | denied | renewed | failed | expired |
      lost | refused | forgone | deserted => exact .kept rfl
  case found intent _ _ _ => cases intent <;> exact .kept (by rw [stopMonitor_eq]; rfl)
  case closed intent _ _ _ without => cases intent <;> exact .kept without.symm
  case released intent _ _ => cases intent <;> exact .kept rfl
  case surrendered leased => exact .surrendered leased rfl
  case ignored told _ => rw [made_ignored told]; exact .kept rfl
  case armed made waits =>
    have without : session.lease.id = "" := by
      rcases (fitting.monitor _ _ (standing_monitor waits)).2 with ⟨without, _⟩ | ⟨_, other⟩
      · exact without
      · cases other
    rw [made_heeded waits]
    exact .made without rfl
  case recreated made _ waits =>
    have without := fitting.destroyed (fitting.caller _ _ (standing_caller waits))
    exact .made without (by rw [startMonitor_eq]; rfl)

/-- The account of a history: what was made is surrendered or the current lease, what was surrendered
was made, and the current lease was made last and is not surrendered. -/
structure Accounted (history : History) (session : Session) : Prop where
  made : ∀ id ∈ history.made, id ∈ history.surrendered ∨ id = session.lease.id
  owned : ∀ id ∈ history.surrendered, id ∈ history.made
  once : history.surrendered.Nodup
  kept : session.lease.id ∉ history.surrendered
  latest : session.lease.id ≠ "" → history.made.head? = some session.lease.id

/-- A moment keeps the account in order. -/
private theorem accounted_of_move (accounted : Accounted history session)
    (move : LeaseMove session next moment.made? moment.surrendered?)
    (proper : "" ∉ (history.add moment).made) (distinct : (history.add moment).made.Nodup) :
    Accounted (history.add moment) next := by
  have made := made_add history moment
  have surrendered := surrendered_add history moment
  generalize moment.made? = new at move made
  generalize moment.surrendered? = given at move surrendered
  cases move with
  | kept id =>
    replace made : (history.add moment).made = history.made := made
    replace surrendered : (history.add moment).surrendered = history.surrendered := surrendered
    refine ⟨?_, ?_, ?_, ?_, ?_⟩
    · rw [made, surrendered, id]; exact accounted.made
    · rw [made, surrendered]; exact accounted.owned
    · rw [surrendered]; exact accounted.once
    · rw [surrendered, id]; exact accounted.kept
    · rw [made, id]; exact accounted.latest
  | surrendered leased id =>
    replace made : (history.add moment).made = history.made := made
    replace surrendered : (history.add moment).surrendered =
      session.lease.id :: history.surrendered := surrendered
    have current : session.lease.id ∈ history.made := List.mem_of_mem_head? (accounted.latest leased)
    refine ⟨?_, ?_, ?_, ?_, ?_⟩
    · intro id' member
      rw [made] at member
      rw [surrendered, List.mem_cons]
      rcases accounted.made id' member with gone | same
      · exact .inl (.inr gone)
      · exact .inl (.inl same)
    · rw [surrendered, made]
      exact List.forall_mem_cons.mpr ⟨current, accounted.owned⟩
    · rw [surrendered]
      exact List.nodup_cons.mpr ⟨accounted.kept, accounted.once⟩
    · rw [surrendered, id, List.mem_cons]
      rintro (same | gone)
      · exact leased same.symm
      · exact proper (made ▸ accounted.owned "" gone)
    · intro leased'; exact absurd id leased'
  | @made fresh without id =>
    replace made : (history.add moment).made = fresh :: history.made := made
    replace surrendered : (history.add moment).surrendered = history.surrendered := surrendered
    rw [made] at proper distinct
    refine ⟨?_, ?_, ?_, ?_, ?_⟩
    · intro id' member
      rw [made, List.mem_cons] at member
      rw [surrendered, id]
      rcases member with same | earlier
      · exact .inr same
      · rcases accounted.made id' earlier with gone | same
        · exact .inl gone
        · rw [same, without] at earlier
          exact absurd (List.mem_cons_of_mem _ earlier) proper
    · intro id' member
      rw [surrendered] at member
      rw [made]
      exact List.mem_cons_of_mem _ (accounted.owned id' member)
    · rw [surrendered]; exact accounted.once
    · rw [surrendered, id]
      exact fun gone => (List.nodup_cons.mp distinct).1 (accounted.owned fresh gone)
    · intro _; rw [made, id]; rfl

/-- The account of a session's history is in order, as long as the manager answers with distinct ids
that are not empty. -/
theorem Lived.accounted (lived : Lived history session) (proper : "" ∉ history.made)
    (distinct : history.made.Nodup) : Accounted history session := by
  induction lived with
  | @opened _ _ _ first _ session _ opened =>
    have begun := (fresh_of_opened opened).2
    refine ⟨?_, nofun, .nil, List.not_mem_nil, ?_⟩ <;>
      rcases begun with rfl | ⟨without, error, rfl, _⟩ <;> simp_all [History.made, Except.toOption]
  | @happened history session now event next call lived stepped ih =>
    have move := leaseMove_of_outcome lived.fitting (transition_of_step stepped)
    have longer := made_add history ⟨now, session, event, next, call⟩
    refine accounted_of_move (ih ?_ ?_) move proper distinct
    · rw [longer, List.mem_append, not_or] at proper; exact proper.2
    · rw [longer, List.nodup_append] at distinct; exact distinct.2.1

/-! ## Calls to the manager -/

/-- What must hold when a session makes a call: it asks for a lease only when every earlier one was
passed to `destroy`; it renews only the lease that was made last, while the session is active, and
not after it was passed to `destroy`; and it gives up only leases that it was given, and not again. -/
def Due (history : History) (session : Session) : Manager.Call → Prop
  | .create _ _ => ∀ id ∈ history.made, id ∈ history.surrendered
  | .renew id => history.made.head? = some id ∧ id ∉ history.surrendered ∧
    session.lease.state = .active
  | .destroy id => id ∈ history.made ∧ id ∉ history.surrendered

/-- A session without a lease has given up all leases. -/
theorem Accounted.all_surrendered (accounted : Accounted history session) (proper : "" ∉ history.made)
    (without : session.lease.id = "") : ∀ id ∈ history.made, id ∈ history.surrendered := by
  intro id member
  rcases accounted.made id member with gone | same
  · exact gone
  · rw [same, without] at member; exact absurd member proper

/-- A call is due when it is made. -/
private theorem due_of_outcome (lived : Lived history session) (accounted : Accounted history session)
    (proper : "" ∉ history.made) (outcome : Transition now session event next (some made)) :
    Due history session made := by
  generalize held : some made = call at outcome
  cases outcome
  case asked without => cases held; exact accounted.all_surrendered proper without
  case renews active leased => cases held; exact ⟨accounted.latest leased, accounted.kept, active⟩
  case surrendered leased =>
    cases held
    exact ⟨List.mem_of_mem_head? (accounted.latest leased), accounted.kept⟩
  case found intent _ _ destroyed =>
    cases intent <;> cases held
    exact accounted.all_surrendered proper (lived.fitting.destroyed destroyed)
  case closed intent _ _ _ without =>
    cases intent <;> cases held
    exact accounted.all_surrendered proper without
  case released intent _ waits =>
    cases intent <;> cases held
    have destroyed := lived.fitting.caller _ _ (standing_caller waits)
    exact accounted.all_surrendered proper (lived.fitting.destroyed destroyed)
  all_goals cases held

/-- **Lease accounting.** At every time at most one call is in flight, every lease was given up at
most once and only if it was made, and every call that the session makes next is due. -/
theorem calls_accounted (lived : Lived history session) (proper : "" ∉ history.made)
    (distinct : history.made.Nodup) :
    history.inFlight.length ≤ 1 ∧
      (history.surrendered.Nodup ∧ ∀ id ∈ history.surrendered, id ∈ history.made) ∧
      ∀ now event next call, session.step now event = some (next, some call) →
        Due history session call := by
  have accounted := lived.accounted proper distinct
  refine ⟨lived.inFlight_length, ⟨accounted.once, accounted.owned⟩, ?_⟩
  intro now event next call stepped
  exact due_of_outcome lived accounted proper (transition_of_step stepped)

/-- A session that replaces its lease and then renews the new one. -/
def renewingReplacement : Option (History × Session) :=
  replay opening
    [(0, .began .recreate), (0, .granted (.caller 0)), (5, .answered (.caller 0) (.destroyed (.ok ()))),
      (9, .answered (.caller 0) (.created (.ok "L2"))), (10000000009, .woke 1),
      (10000000009, .granted (.monitor 1))]

theorem replacement_calls_accounted : ∃ history session,
    renewingReplacement = some (history, session) ∧ "" ∉ history.made ∧ history.made.Nodup ∧
      history.inFlight = [(.monitor 1, .renew "L2")] ∧
      history.surrendered.Nodup ∧ ∀ id ∈ history.surrendered, id ∈ history.made := by
  have ran : renewingReplacement = some (renewingReplacement.get (by decide)) :=
    (Option.some_get _).symm
  have proper : "" ∉ (renewingReplacement.get (by decide)).1.made := by decide
  have distinct : (renewingReplacement.get (by decide)).1.made.Nodup := by decide
  have accounted := calls_accounted (lived_of_replay lived_opening ran) proper distinct
  exact ⟨_, _, ran, proper, distinct, by decide, accounted.2.1⟩

end Leasehold.Session
