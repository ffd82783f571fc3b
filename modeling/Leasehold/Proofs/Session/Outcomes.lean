import Leasehold.Proofs.Session.Coherence
import Leasehold.Proofs.Session.Runs
import Leasehold.Proofs.Signal.Fates

/-! How each generation of a session ends, told by the answers of the manager and the turns of the
calls alone: with the first answer to its monitor that is final, or with nothing if a call has given up
the lease before there was one. Observers of all generations are told just that. -/
namespace Leasehold.Session

variable {initial session next : Session} {event : Event} {call : Option Manager.Call}
variable {now start : Instant} {index : Nat} {history : History} {moments : List Moment}
variable {span : Duration} {made : Option Instant} {observer : Observer} {error : Error}

/-! ## Outcomes by what has happened -/

/-- Whether a lease is made or renewed at this moment. -/
def Moment.succeeds (moment : Moment) : Bool :=
  match moment.event with
  | .answered task (.created (.ok _)) | .answered task (.renewed (.ok ())) =>
    moment.before.heeds task
  | _ => false

/-- When the lease of the observed generation was made or renewed last. `made` is when a lease was made
at the opening, if one was. -/
def succeededAt? (made : Option Instant) (observer : Observer) : List Moment → Option Instant
  | [] => if observer.generation = 0 then made else none
  | moment :: earlier =>
    if moment.after.err = observer ∧ moment.succeeds then some moment.now
    else succeededAt? made observer earlier

/-- The error that the monitor is answered at this moment, if it is final: no retry would help, or the
lease was made or renewed last at least its TTL ago. -/
def Moment.final? (span : Duration) (succeeded : Option Instant) (moment : Moment) : Option Error :=
  match moment.event with
  | .answered (.monitor index) (.created (.error error)) =>
    if moment.before.heeds (.monitor index) ∧ error.isRetryable = false then some error else none
  | .answered (.monitor index) (.renewed (.error error)) =>
    if moment.before.heeds (.monitor index) ∧
        (error.isRetryable = false ∨ succeeded.any (· + span.nanos ≤ moment.now)) then
      some error
    else none
  | _ => none

/-- The first final error that the monitor of the observed generation was answered. -/
def firstFinal? (span : Duration) (made : Option Instant) (observer : Observer) :
    List Moment → Option Error
  | [] => none
  | moment :: earlier =>
    (firstFinal? span made observer earlier).or
      (if moment.before.err = observer then
        moment.final? span (succeededAt? made observer earlier)
      else none)

/-- Whether a call is done with giving up the lease at this moment, or finds that there is none. -/
def Moment.tearsDown (moment : Moment) : Bool :=
  match moment.event with
  | .answered (.caller _) (.destroyed _) => true
  | .granted (.caller _) => moment.before.state ≠ .destroyed ∧ moment.before.id = ""
  | _ => false

/-- Whether the lease of the observed generation was given up. -/
def tornDown (observer : Observer) (moments : List Moment) : Bool :=
  moments.any fun moment => moment.before.err = observer && moment.tearsDown

/-- What observers are to be told: the first final error, or nothing after the lease was given up. -/
def ruling (span : Duration) (made : Option Instant) (observer : Observer) (moments : List Moment) :
    Option (Option Error) :=
  match firstFinal? span made observer moments with
  | some error => some (some error)
  | none => if tornDown observer moments then some none else none

/-! ## Signals go on -/

/-- What a step makes of the signal. -/
theorem signal_onward (outcome : Transition now session event next call) :
    session.signal.Onward next.signal := by
  cases outcome
  case began =>
    rw [stopMonitor_eq]
    exact .same
  case found | surrendered =>
    simp only [afterTeardown_signal, stopMonitor_eq, setCaller]
    exact .same
  case closed | released =>
    simp only [afterTeardown_signal, fire, stopMonitor_eq]
    exact .fired none
  case denied error _ _ | expired error _ _ _ _ | lost error _ _ _ => exact .fired (some error)
  case recreated =>
    rw [recreated_eq]
    exact .rearmed
  case dropped | deserted => exact .dropped
  all_goals exact .same

/-- What an observer was told it is told at every later time. -/
theorem Ran.told (ran : Ran initial moments session) (member : moment ∈ moments)
    (observer : Observer) (outcome : Option Error) :
    (observer.tryRecv moment.before.signal = some outcome →
        observer.tryRecv session.signal = some outcome) ∧
      (observer.recv moment.before.signal = some outcome →
        observer.recv session.signal = some outcome) := by
  induction ran with
  | still => cases member
  | moved ran stepped ih =>
    have onward := signal_onward (transition_of_step stepped)
    rcases List.mem_cons.mp member with rfl | earlier
    · exact ⟨Observer.tryRecv_stays onward, Observer.recv_stays onward⟩
    · obtain ⟨tried, received⟩ := ih earlier
      exact ⟨fun told => Observer.tryRecv_stays onward (tried told),
        fun told => Observer.recv_stays onward (received told)⟩

/-! ## Times of success -/

theorem ttl_after (outcome : Transition now session event next call) : next.ttl = session.ttl :=
  (terms_after outcome).2.1

theorem ttl_of_opened (opened : Session.opened start label span timing first = .ok initial) :
    initial.ttl = span := (terms_of_opened opened).2.1

/-- A TTL that is accepted is positive. -/
theorem positive_of_validate (valid : validate span timing = .ok ()) : 0 < span.nanos := by
  unfold validate at valid
  split at valid
  · cases valid
  · rename_i fitting
    rw [not_or] at fitting
    simpa [Duration.isZero, Nat.pos_iff_ne_zero] using fitting.1

/-- An answer to a monitor that was told to stop is no success. -/
theorem succeeds_ignored (told : session.monitors[index]? = some ⟨true, phase⟩) :
    Moment.succeeds ⟨now, session, .answered (.monitor index) reply, next, call⟩ = false := by
  unfold Moment.succeeds
  split
  · rename_i same; cases same; simp [heeds, told]
  · rename_i same; cases same; simp [heeds, told]
  · rfl

theorem succeededAt?_quiet (quiet : moment.succeeds = false) :
    succeededAt? made observer (moment :: moments) = succeededAt? made observer moments := by
  simp [succeededAt?, quiet]

theorem succeededAt?_success (same : moment.after.err = observer) (succeeds : moment.succeeds = true) :
    succeededAt? made observer (moment :: moments) = some moment.now := by
  simp [succeededAt?, same, succeeds]

/-- The lease that a session has was made or renewed last when the session says so. -/
def Timed (made : Option Instant) (moments : List Moment) (session : Session) : Prop :=
  session.lease.id ≠ "" → succeededAt? made session.err moments = some session.lease.renewedAt

theorem timed_opened (opened : Session.opened start label span timing first = .ok initial) :
    Timed (first.toOption.map fun _ => start) [] initial := by
  intro leased
  obtain ⟨fresh, given⟩ := fresh_of_opened opened
  have generation : initial.err.generation = 0 := by
    rw [err, fresh.signal]
    rfl
  rw [succeededAt?, if_pos generation, fresh.renewedAt]
  rcases given with rfl | ⟨without, _⟩
  · rfl
  · exact absurd without leased

private theorem timed_of_quiet (timed : Timed made moments session) (err : next.err = session.err)
    (lease : next.lease.id = "" ∨ next.lease.id = session.lease.id ∧
      next.lease.renewedAt = session.lease.renewedAt)
    (quiet : Moment.succeeds ⟨now, session, event, next, call⟩ = false) :
    Timed made (⟨now, session, event, next, call⟩ :: moments) next := by
  intro leased
  rw [succeededAt?_quiet quiet, err]
  rcases lease with without | ⟨id, renewedAt⟩
  · exact absurd without leased
  · rw [renewedAt]
    exact timed (id ▸ leased)

private theorem timed_of_success (renewedAt : next.lease.renewedAt = now)
    (succeeds : Moment.succeeds ⟨now, session, event, next, call⟩ = true) :
    Timed made (⟨now, session, event, next, call⟩ :: moments) next := by
  intro _
  rw [succeededAt?_success rfl succeeds, renewedAt]

theorem timed_preserved (timed : Timed made moments session)
    (outcome : Transition now session event next call) :
    Timed made (⟨now, session, event, next, call⟩ :: moments) next := by
  have same (signal : next.signal.past = session.signal.past) : next.err = session.err := by
    rw [err, err, Signal.subscribe, Signal.subscribe, signal]
  cases outcome
  case began =>
    refine timed_of_quiet timed (same ?_) (.inr ?_) rfl <;> rw [stopMonitor_eq]
    exact ⟨rfl, rfl⟩
  case woke | noticed | retired | asked | renews | failed | postponed | denied | expired | lost |
      refused | forgone | deserted =>
    exact timed_of_quiet timed rfl (.inr ⟨rfl, rfl⟩) rfl
  case ignored told _ =>
    exact timed_of_quiet timed rfl (.inr ⟨rfl, rfl⟩) (succeeds_ignored told)
  case found =>
    refine timed_of_quiet timed (same ?_) (.inr ?_) rfl <;> simp [stopMonitor_eq]
  case closed =>
    refine timed_of_quiet timed (same ?_) (.inl ?_) rfl <;> simp [stopMonitor_eq, fire, Signal.fire]
  case surrendered =>
    refine timed_of_quiet timed (same ?_) (.inl ?_) rfl <;> simp [stopMonitor_eq, setCaller]
  case released =>
    refine timed_of_quiet timed (same ?_) (.inr ?_) rfl <;> simp [fire, Signal.fire]
  case armed waits | renewed waits =>
    exact timed_of_success rfl (by simp [Moment.succeeds, heeds, waits])
  case recreated =>
    rw [recreated_eq]
    exact timed_of_success rfl rfl
  case dropped =>
    refine timed_of_quiet timed (same ?_) (.inr ?_) rfl <;> rw [stopMonitor_eq]
    · rfl
    · exact ⟨rfl, rfl⟩

/-! ## Rulings -/

theorem ruling_quiet (quiet : moment.before.err = observer →
      moment.final? span (succeededAt? made observer moments) = none ∧ moment.tearsDown = false) :
    ruling span made observer (moment :: moments) = ruling span made observer moments := by
  by_cases here : moment.before.err = observer
  · obtain ⟨final, tears⟩ := quiet here
    simp [ruling, firstFinal?, tornDown, final, tears]
  · simp [ruling, firstFinal?, tornDown, here]

theorem ruling_final (here : moment.before.err = observer)
    (final : moment.final? span (succeededAt? made observer moments) = some error)
    (undecided : ruling span made observer moments = none) :
    ruling span made observer (moment :: moments) = some (some error) := by
  have first : firstFinal? span made observer moments = none := by
    unfold ruling at undecided
    split at undecided
    · cases undecided
    · assumption
  simp [ruling, firstFinal?, here, final, first]

theorem ruling_tornDown (here : moment.before.err = observer)
    (final : moment.final? span (succeededAt? made observer moments) = none)
    (tears : moment.tearsDown = true) :
    ruling span made observer (moment :: moments) =
      (ruling span made observer moments).or (some none) := by
  have torn : tornDown observer (moment :: moments) = true := by simp [tornDown, here, tears]
  unfold ruling
  simp only [torn, firstFinal?, here, if_true, final, Option.or_none]
  split
  · rfl
  · cases tornDown observer moments <;> rfl

private theorem final?_ignored (told : session.monitors[index]? = some ⟨true, phase⟩)
    (succeeded : Option Instant) :
    Moment.final? span succeeded ⟨now, session, .answered (.monitor index) reply, next, call⟩ =
      none := by
  unfold Moment.final?
  split
  · rename_i same; cases same; simp [heeds, told]
  · rename_i same; cases same; simp [heeds, told]
  · rfl

/-- A session with a monitor that was not told to stop is not dropped. -/
theorem Lived.alive_of_untold (lived : Lived history session)
    (untold : session.monitors[index]? = some ⟨false, phase⟩) : session.isDropped = false := by
  rw [← Bool.not_eq_true]
  intro dropped
  obtain ⟨_, _, _, _, _, _, _, _, stopped⟩ := lived.before_drop dropped
  rw [lived.monitored.untold index phase untold] at stopped
  cases stopped

/-- A session with a call in progress is not dropped. -/
private theorem Lived.alive_of_pending (lived : Lived history session)
    (found : session.callers[index]? = some caller) (pending : caller.inProgress = true) :
    session.isDropped = false := by
  rw [← Bool.not_eq_true]
  intro dropped
  rw [lived.idle_of_dropped dropped caller (List.mem_of_getElem? found)] at pending
  cases pending

/-- The current generation of a session that was not dropped is not closed. -/
private theorem Lived.current_open (lived : Lived history session) (alive : session.isDropped = false) :
    session.signal.current ≠ .closed := by
  cases lived.settlement alive <;> simp_all

/-- Observers of all generations are told the rulings. -/
def Ruled (span : Duration) (made : Option Instant) (moments : List Moment) (session : Session) :
    Prop :=
  ∀ observer : Observer, observer.tryRecv session.signal = ruling span made observer moments

private theorem ruled_of_quiet (ruled : Ruled span made moments session)
    (told : ∀ observer : Observer, observer.tryRecv next.signal = observer.tryRecv session.signal)
    (final : Moment.final? span (succeededAt? made session.err moments)
      ⟨now, session, event, next, call⟩ = none)
    (tears : Moment.tearsDown ⟨now, session, event, next, call⟩ = false) :
    Ruled span made (⟨now, session, event, next, call⟩ :: moments) next := by
  intro observer
  rw [told, ruled, ruling_quiet]
  rintro rfl
  exact ⟨final, tears⟩

/-- A signal that settles changes what observers of the current generation are told, if that was
undecided. -/
private theorem ruled_of_fire (ruled : Ruled span made moments session)
    (open_ : session.signal.current ≠ .closed)
    (signal : next.signal = (session.signal.fire outcome).2)
    (ruling : Session.ruling span made session.err (⟨now, session, event, next, call⟩ :: moments) =
      (session.err.tryRecv session.signal).or (some outcome)) :
    Ruled span made (⟨now, session, event, next, call⟩ :: moments) next := by
  intro observer
  rw [signal, Observer.tryRecv_fire observer _ open_]
  split
  · rename_i here
    obtain rfl : observer = session.err := here
    exact ruling.symm
  · rename_i other
    rw [ruled, ruling_quiet]
    intro same
    exact absurd same.symm other

/-- The monitor of an active session is given a final answer. -/
private theorem ruled_of_loss (ruled : Ruled span made moments session) (lived : Lived history session)
    (untold : session.monitors[index]? = some ⟨false, phase⟩)
    (active : session.lease.state = .active)
    (signal : next.signal = (session.signal.fire (some error)).2)
    (final : Moment.final? span (succeededAt? made session.err moments)
      ⟨now, session, event, next, call⟩ = some error) :
    Ruled span made (⟨now, session, event, next, call⟩ :: moments) next := by
  have alive := lived.alive_of_untold untold
  have undecided : session.err.tryRecv session.signal = none := by
    cases lived.settlement alive with
    | active _ _ _ shown => exact (told_of_pending shown).1
    | lost inactive => exact absurd active inactive
    | releasing destroyed | released destroyed | interrupted destroyed =>
      rw [active] at destroyed
      cases destroyed
  refine ruled_of_fire ruled (lived.current_open alive) signal ?_
  rw [undecided, Option.none_or, ruling_final rfl final ((ruled _).symm.trans undecided)]

/-- A call is done with giving up the lease. -/
private theorem ruled_of_teardown (ruled : Ruled span made moments session)
    (lived : Lived history session) (found : session.callers[index]? = some caller)
    (pending : caller.inProgress = true) (signal : next.signal = (session.signal.fire none).2)
    (final : Moment.final? span (succeededAt? made session.err moments)
      ⟨now, session, event, next, call⟩ = none)
    (tears : Moment.tearsDown ⟨now, session, event, next, call⟩ = true) :
    Ruled span made (⟨now, session, event, next, call⟩ :: moments) next := by
  have alive := lived.alive_of_pending found pending
  refine ruled_of_fire ruled (lived.current_open alive) signal ?_
  rw [ruled, ruling_tornDown rfl final tears]

/-- A step keeps to the rulings. -/
theorem ruled_preserved (ruled : Ruled span made moments session) (lived : Lived history session)
    (timed : Timed made moments session) (ttl : session.ttl = span) (positive : 0 < span.nanos)
    (outcome : Transition now session event next call) :
    Ruled span made (⟨now, session, event, next, call⟩ :: moments) next := by
  -- A monitor that renews has a lease, and the time of its last success is known.
  have clock {index : Nat} {held : String}
      (waits : session.monitors[index]? = some ⟨false, .renewing held⟩) :
      session.lease.state = .active ∧
        succeededAt? made session.err moments = some session.lease.renewedAt := by
    obtain ⟨active, ⟨_, other⟩ | ⟨leased, _⟩⟩ := lived.fitting.monitor _ _ (standing_monitor waits)
    · cases other
    · exact ⟨active, timed leased⟩
  cases outcome
  case began | surrendered =>
    refine ruled_of_quiet ruled (fun observer => ?_) rfl ?_
    · simp only [stopMonitor_eq, setCaller]
    · simp_all [Moment.tearsDown, Session.id]
  case woke | noticed | retired | asked | renews | armed | renewed | refused | forgone =>
    exact ruled_of_quiet ruled (fun _ => rfl) rfl rfl
  case ignored told _ =>
    exact ruled_of_quiet ruled (fun _ => rfl) (final?_ignored told _) rfl
  case postponed waits retryable =>
    refine ruled_of_quiet ruled (fun _ => rfl) ?_ rfl
    simp [Moment.final?, retryable]
  case denied waits fatal =>
    have active := (lived.fitting.monitor _ _ (standing_monitor waits)).1
    refine ruled_of_loss ruled lived waits active rfl ?_
    simp [Moment.final?, heeds, waits, fatal]
  case failed waits retryable early =>
    refine ruled_of_quiet ruled (fun _ => rfl) ?_ rfl
    have before : ¬ session.lease.renewedAt + span.nanos ≤ now := by
      intro reached
      rw [ttl] at early
      exact Nat.not_le_of_lt early (Nat.le_sub_of_add_le' reached)
    simp [Moment.final?, retryable, (clock waits).2, before]
  case expired waits retryable late =>
    refine ruled_of_loss ruled lived waits (clock waits).1 rfl ?_
    have after : session.lease.renewedAt + span.nanos ≤ now := by
      rw [ttl] at late
      have passed := Nat.lt_of_sub_pos (Nat.lt_of_lt_of_le positive late)
      exact Nat.add_le_of_le_sub' (Nat.le_of_lt passed) late
    simp [Moment.final?, heeds, waits, (clock waits).2, after]
  case lost waits fatal =>
    refine ruled_of_loss ruled lived waits (clock waits).1 rfl ?_
    simp [Moment.final?, heeds, waits, fatal]
  case found destroyed =>
    refine ruled_of_quiet ruled (fun observer => ?_) rfl ?_
    · simp only [afterTeardown_signal, stopMonitor_eq]
    · simp [Moment.tearsDown, Session.state, destroyed]
  case closed first queued live without =>
    refine ruled_of_teardown ruled lived queued rfl ?_ rfl ?_
    · simp only [afterTeardown_signal, fire, stopMonitor_eq]
    · simp [Moment.tearsDown, Session.state, Session.id, live, without]
  case released waits =>
    refine ruled_of_teardown ruled lived waits rfl ?_ rfl rfl
    simp only [afterTeardown_signal, fire]
  case recreated =>
    refine ruled_of_quiet ruled (fun observer => ?_) rfl rfl
    rw [recreated_eq]
    exact Observer.tryRecv_rearm observer session.signal
  case dropped | deserted =>
    exact ruled_of_quiet ruled (fun observer => Observer.tryRecv_drop observer session.signal) rfl rfl

theorem ruled_opened (opened : Session.opened start label span timing first = .ok initial) :
    Ruled span made [] initial := by
  intro observer
  have pending : initial.signal.fate observer.generation = .pending := by
    rw [(fresh_of_opened opened).1.signal]
    rcases Nat.eq_zero_or_pos observer.generation with first | later
    · rw [first]
      rfl
    · exact Signal.fate_beyond later
  rw [Observer.tryRecv, pending]
  rfl

/-- When the lease was made at the opening, if it was. -/
def madeAt? (start : Instant) (first : Except Error String) : Option Instant :=
  first.toOption.map fun _ => start

/-- Observers are told the rulings at every time. -/
theorem Ran.ruled (ran : Ran initial moments session) (valid : validate span timing = .ok ())
    (opened : Session.opened start label span timing first = .ok initial) :
    Timed (madeAt? start first) moments session ∧
      Ruled span (madeAt? start first) moments session := by
  have lived : Lived ⟨first, []⟩ initial := .opened valid opened
  induction ran with
  | still => exact ⟨timed_opened opened, ruled_opened opened⟩
  | moved ran stepped ih =>
    obtain ⟨timed, ruled⟩ := ih
    have outcome := transition_of_step stepped
    have ttl := ran.terms.2.1.trans (ttl_of_opened opened)
    exact ⟨timed_preserved timed outcome,
      ruled_preserved ruled (ran.lived lived) timed ttl (positive_of_validate valid) outcome⟩

/-! ## Earlier generations -/

/-- A generation has settled when a call waits for the lease of the next one, if no call was dropped
before it was over. -/
theorem Lived.settled_of_creating (lived : Lived history session) (patient : history.Patient)
    (waits : session.callers[index]? = some ⟨intent, .creating⟩) :
    session.signal.current = .settled (history.loss? session.err) := by
  have works := standing_caller waits
  have destroyed := lived.fitting.caller _ _ works
  cases lived.settlement (lived.alive_of_pending waits rfl) with
  | active active => rw [active] at destroyed; cases destroyed
  | lost _ loss shown => rw [loss, shown]
  | released _ kept _ _ shown => rw [kept, shown]
  | interrupted _ _ broken => rw [patient.not_interrupted] at broken; cases broken
  | releasing _ _ _ busy =>
    -- Who gives up the lease is the head of the queue, and so is who waits for a new one.
    obtain ⟨other, held, giving⟩ := busy
    have head := lived.orderly.first _ _ giving
    rw [lived.orderly.first _ _ works] at head
    cases head
    rw [works] at giving
    cases giving

/-- A generation has settled when the next one begins, if no call was dropped before it was over. -/
private theorem Lived.settled_of_new (lived : Lived history session) (patient : history.Patient)
    (outcome : Transition now session event next call)
    (new : next.err.generation = session.err.generation + 1) :
    ∃ outcome, session.signal.current = .settled outcome := by
  cases outcome
  case recreated waits => exact ⟨_, lived.settled_of_creating patient waits⟩
  all_goals
    simp [err, Signal.subscribe, stopMonitor_eq, fire, Signal.fire, Signal.drop, setCaller,
      setMonitor, finish, leave, endMonitor, sleepAgain, arm, invalidate] at new

/-- All generations before the current one have settled, if no call was dropped before it was over. -/
theorem Lived.past_settled (lived : Lived history session) (patient : history.Patient)
    (observer : Observer) (past : observer.generation < session.err.generation) :
    ∃ outcome, observer.tryRecv session.signal = some outcome := by
  induction lived with
  | opened _ opened =>
    rw [err, (fresh_of_opened opened).1.signal] at past
    exact absurd past (Nat.not_lt_zero _)
  | @happened history session now event next call lived stepped ih =>
    have outcome := transition_of_step stepped
    have onward := signal_onward outcome
    have calm : history.Patient := fun moment member => patient moment (List.mem_cons_of_mem _ member)
    have earlier (older : observer.generation < session.err.generation) :
        ∃ outcome, observer.tryRecv next.signal = some outcome := by
      obtain ⟨outcome, told⟩ := ih calm older
      exact ⟨outcome, Observer.tryRecv_stays onward told⟩
    rcases err_after outcome with same | ⟨new, _⟩
    · exact earlier (same ▸ past)
    · rw [new] at past
      rcases Nat.lt_or_eq_of_le (Nat.le_of_lt_succ past) with older | last
      · exact earlier older
      · obtain ⟨result, settled⟩ := lived.settled_of_new calm outcome new
        have here : observer = session.err := by
          rw [← show Observer.mk observer.generation = observer from rfl, last]
        rw [here]
        exact ⟨result, Observer.tryRecv_stays onward (told_of_settled settled).1⟩

/-- Who waits is told what there is to tell, as long as no call was dropped before it was over and the
session itself was not. -/
theorem Lived.recv_eq (lived : Lived history session) (patient : history.Patient)
    (alive : session.isDropped = false) (observer : Observer) :
    observer.recv session.signal = observer.tryRecv session.signal := by
  rcases Nat.lt_trichotomy observer.generation session.err.generation with past | here | beyond
  · obtain ⟨outcome, told⟩ := lived.past_settled patient observer past
    rw [told, Observer.recv_eq_some_iff]
    exact .inl (Observer.tryRecv_eq_some_iff.mp told)
  · have open_ := lived.current_open alive
    unfold Observer.recv Observer.tryRecv
    rw [here, fate_current]
    cases fate : session.signal.current with
    | pending | settled => rfl
    | closed => exact absurd fate open_
  · unfold Observer.recv Observer.tryRecv
    rw [Signal.fate_beyond beyond]

/-- **How generations end.** What an observer of any generation was told once it is told ever after. It
is told an error exactly when that is the first final answer that the monitor of its generation was
given: one that no retry would help against, or a failed renewal at least the TTL after the last
success. It is told that all ended in order exactly when the lease was given up and there was no such
answer before. If no call was dropped before it was over, every generation but the current one has
settled, and who waits is told the same, as long as the session is not dropped. -/
theorem generations_settle (valid : validate span timing = .ok ())
    (opened : Session.opened start label span timing first = .ok initial)
    (ran : Ran initial moments session) :
    (∀ moment ∈ moments, ∀ (observer : Observer) outcome,
        (observer.tryRecv moment.before.signal = some outcome →
          observer.tryRecv session.signal = some outcome) ∧
        (observer.recv moment.before.signal = some outcome →
          observer.recv session.signal = some outcome)) ∧
      (∀ (observer : Observer) error, observer.tryRecv session.signal = some (some error) ↔
        firstFinal? span (madeAt? start first) observer moments = some error) ∧
      (∀ observer : Observer, observer.tryRecv session.signal = some none ↔
        firstFinal? span (madeAt? start first) observer moments = none ∧
          tornDown observer moments = true) ∧
      ((∀ moment ∈ moments, moment.forgoes = false) →
        (∀ observer : Observer, observer.generation < session.err.generation →
          ∃ outcome, observer.tryRecv session.signal = some outcome) ∧
        (session.isDropped = false → ∀ observer : Observer,
          observer.recv session.signal = observer.tryRecv session.signal)) := by
  have ruled := (ran.ruled valid opened).2
  have lived := ran.lived (.opened valid opened)
  refine ⟨fun moment member => ran.told member, ?_, ?_, ?_⟩
  · intro observer error
    rw [ruled, ruling]
    cases firstFinal? span (madeAt? start first) observer moments with
    | some other => simp
    | none => cases tornDown observer moments <;> simp
  · intro observer
    rw [ruled, ruling]
    cases firstFinal? span (madeAt? start first) observer moments with
    | some other => simp
    | none => cases tornDown observer moments <;> simp
  · intro calm
    have patient : (History.extend ⟨first, []⟩ moments).Patient := by
      intro moment member
      rw [History.extend, List.append_nil] at member
      exact calm moment member
    exact ⟨lived.past_settled patient, lived.recv_eq patient⟩

/-- A renewal that fails once the TTL is over, then two calls: one replaces the lease, one gives it up. -/
def lossAndReplacement : List (Instant × Event) :=
  [(10000000000, .woke 0), (10000000000, .granted (.monitor 0)),
    (20000000000, .answered (.monitor 0) (.renewed (.error (.backendUnavailable "timed out")))),
    (21000000000, .began .recreate), (21000000000, .granted (.caller 0)),
    (21000000000, .answered (.caller 0) (.destroyed (.ok ()))),
    (22000000000, .answered (.caller 0) (.created (.ok "L2"))),
    (25000000000, .began .destroy), (25000000000, .granted (.caller 1)),
    (25000000000, .answered (.caller 1) (.destroyed (.ok ())))]

theorem loss_and_replacement_settle : ∃ moments session,
    follow opening.2 lossAndReplacement = some (moments, session) ∧
      session.err.generation = 1 ∧ session.isDropped = false ∧
      (∀ moment ∈ moments, moment.forgoes = false) ∧
      Observer.tryRecv ⟨0⟩ session.signal = some (some (.backendUnavailable "timed out")) ∧
      Observer.recv ⟨0⟩ session.signal = some (some (.backendUnavailable "timed out")) ∧
      Observer.tryRecv ⟨1⟩ session.signal = some none := by
  have followed : follow opening.2 lossAndReplacement =
      some ((follow opening.2 lossAndReplacement).get (by decide)) := (Option.some_get _).symm
  have opened : Session.opened 0 "a-session" (.seconds 20) {} (.ok "L1") = .ok opening.2 := rfl
  have calm : ∀ moment ∈ ((follow opening.2 lossAndReplacement).get (by decide)).1,
      moment.forgoes = false := by decide
  have settle := generations_settle (by rfl) opened (ran_of_follow followed)
  have lost := (settle.2.1 ⟨0⟩ (.backendUnavailable "timed out")).mpr (by decide)
  have ended := (settle.2.2.1 ⟨1⟩).mpr ⟨by decide, by decide⟩
  have alive := (settle.2.2.2 calm).2 (by decide)
  exact ⟨_, _, followed, by decide, by decide, calm, lost, (alive ⟨0⟩).trans lost, ended⟩

end Leasehold.Session
