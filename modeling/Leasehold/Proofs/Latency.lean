import Mathlib.Logic.Function.Basic
import Leasehold.Proofs.Session.Stopping
import Leasehold.Proofs.Session.Tenure
import Leasehold.Proofs.Store.History
import Leasehold.Proofs.Tolerance

/-! A session and a store with calls between them that take their time. A call is under way before the
store serves its request and after that, and it may get lost before. So the session learns of a success
later than the store, and counts its TTL from then; its clock and that of the store's lease start apart
with every renewal.

What carries the argument is that the lease is due no later than the session's TTL is over, unless a
renewal was served whose answer is still to come (`Tracked.covered`). -/
namespace Leasehold.Latency

open Session (Task Transition)

/-! ## Runs -/

/-- A call to the manager that is under way. -/
structure Errand where
  /-- The call. -/
  call : Manager.Call
  /-- How its request ended, once the store has served it. -/
  result? : Option call.request.Outcome

/-- What comes back from an errand: how its request ended, or any error if it was not served. -/
inductive Errand.Replies : Errand → Manager.Reply → Prop where
  | served {call : Manager.Call} {result : call.request.Outcome} :
      Replies ⟨call, some result⟩ (call.reply result)
  | failed {call : Manager.Call} (error : Error) : Replies ⟨call, none⟩ (call.reply (.error error))

/-- The calls of a session's tasks that are under way. -/
abbrev Errands : Type := Task → Option Errand

/-- The errands after an event of the session: who was answered is done with an errand, and who makes a
call begins one. -/
def Errands.after (event : Session.Event) (call : Option Manager.Call) (errands : Errands) : Errands :=
  match event with
  | .granted task =>
    match call with
    | some call => Function.update errands task (some ⟨call, none⟩)
    | none => errands
  | .answered task _ => Function.update errands task (call.map (⟨·, none⟩))
  | _ => errands

/-- A session, its errands, the store that keeps its leases, what has happened to the store, the latest
first, and the time. -/
structure World where
  now : Instant
  session : Session
  errands : Errands
  store : Store
  past : List Store.Moment

/-- Events at which a store may renew a lease. -/
def Renews (id : String) : Store.Event → Prop
  | .requested request | .admitted request => request = .renew id
  | .switched _ | .counted | .wiped => False

/-- What can happen next, as long as nobody else renews the session's lease. -/
inductive Step : World → World → Prop where
  /-- Time goes by. -/
  | waited (later : now ≤ time) :
      Step ⟨now, session, errands, store, past⟩ ⟨time, session, errands, store, past⟩
  /-- Something happens to the session. What it is answered comes back from an errand. -/
  | moved (replies : ∀ task reply, event = .answered task reply →
        ∃ errand, errands task = some errand ∧ errand.Replies reply)
      (stepped : session.step now event = some (next, call)) :
      Step ⟨now, session, errands, store, past⟩ ⟨now, next, errands.after event call, store, past⟩
  /-- The store serves the request of an errand. -/
  | served {call : Manager.Call} {result : call.request.Outcome}
      (waits : errands task = some ⟨call, none⟩)
      (about : event = .requested call.request ∨ event = .admitted call.request)
      (happens : store.happen sweep now fresh event = (.outcome call.request result, after))
      (unused : Store.ttl? fresh past = none) :
      Step ⟨now, session, errands, store, past⟩
        ⟨now, session, Function.update errands task (some ⟨call, some result⟩), after,
          ⟨now, store, event, .outcome call.request result, after⟩ :: past⟩
  /-- Somebody else uses the store. -/
  | shared (spares : session.lease.id ≠ "" → ¬ Renews session.lease.id event)
      (happens : store.happen sweep now fresh event = (answer, after))
      (unused : Store.ttl? fresh past = none) :
      Step ⟨now, session, errands, store, past⟩
        ⟨now, session, errands, after, ⟨now, store, event, answer, after⟩ :: past⟩

/-- Worlds that come of the opening of a session. If the session was told then that it has a lease, the
store had made that lease for it. -/
inductive Reached : World → Prop where
  | opened (kept : Store.Kept past store) (order : ∀ moment ∈ past, moment.now ≤ now)
      (valid : Session.validate span timing = .ok ())
      (made : ∀ id, first = .ok id →
        ∃ moment ∈ past, moment.answer = .outcome (.create label span) (.ok id))
      (opened : Session.opened now label span timing first = .ok session) :
      Reached ⟨now, session, fun _ => none, store, past⟩
  | stepped (reached : Reached world) (step : Step world next) : Reached next

/-! ## Errands -/

/-- The lease that was made for an errand. -/
def Errand.made? : Errand → Option String
  | ⟨.create _ _, some (.ok id)⟩ => some id
  | _ => none

/-- The lease that an errand is to renew, or that was made for it. -/
def Errand.lease? : Errand → Option String
  | ⟨.renew id, _⟩ => some id
  | ⟨.create _ _, some (.ok id)⟩ => some id
  | _ => none

section
variable {session next : Session} {event : Session.Event} {call : Option Manager.Call}
variable {now : Instant} {task : Task} {errands : Errands} {errand : Errand} {id : String}
variable {past : List Store.Moment} {history : Session.History} {made : Manager.Call}

/-- A lease that was made for an errand is the one that the errand is for. -/
theorem Errand.lease_of_made (made : errand.made? = some id) : errand.lease? = some id := by
  obtain ⟨call, result?⟩ := errand
  cases call with
  | renew | destroy => cases made
  | create =>
    rcases result? with _ | _ | _
    · cases made
    · cases made
    · exact made

/-- Who is told of a new lease had an errand for which it was made. -/
theorem Errand.Replies.brings (replies : errand.Replies (.created (.ok id))) :
    errand.made? = some id := by
  generalize told : Manager.Reply.created (.ok id) = reply at replies
  cases replies with
  | @served call result =>
    cases call with
    | create => cases told; rfl
    | renew | destroy => cases told
  | @failed call error => cases call <;> cases told

theorem Errand.Replies.lease (replies : errand.Replies (.created (.ok id))) :
    errand.lease? = some id := Errand.lease_of_made replies.brings

/-- The store grants the lease that is made for an errand. -/
theorem grants_of_made {result : made.request.Outcome}
    (about : Errand.made? ⟨made, some result⟩ = some id) :
    ∃ name span, made = .create name span ∧
      Store.Answer.grants? id (.outcome made.request result) = some span := by
  cases made with
  | renew | destroy => cases about
  | create name span =>
    cases result with
    | error => cases about
    | ok new =>
      cases about
      exact ⟨name, span, rfl, if_pos rfl⟩

/-- Of the leases that errands are for, one that was made just now was made for its errand. -/
theorem lease?_served {result : made.request.Outcome}
    (about : Errand.lease? ⟨made, some result⟩ = some id) :
    Errand.lease? ⟨made, none⟩ = some id ∨
      ∃ name span, made = .create name span ∧
        Store.Answer.grants? id (.outcome made.request result) = some span := by
  cases made with
  | renew => exact .inl about
  | destroy => cases about
  | create name span =>
    cases result with
    | error => cases about
    | ok new => exact .inr (grants_of_made about)

/-- After the store served an errand, an errand is that one or was there before. -/
theorem errand_of_served {other : Task} {result : made.request.Outcome}
    (found : Function.update errands task (some ⟨made, some result⟩) other = some errand) :
    other ≠ task ∧ errands other = some errand ∨ other = task ∧ errand = ⟨made, some result⟩ := by
  by_cases same : other = task
  · subst same
    rw [Function.update_self] at found
    cases found
    exact .inr ⟨rfl, rfl⟩
  · rw [Function.update_of_ne same] at found
    exact .inl ⟨same, found⟩

/-- After the store served an errand, the lease that an errand is for was its lease before, or has
just been made for it. -/
theorem lease_of_served {other : Task} {result : made.request.Outcome}
    (waits : errands task = some ⟨made, none⟩)
    (found : Function.update errands task (some ⟨made, some result⟩) other = some errand)
    (about : errand.lease? = some id) :
    (∃ earlier, errands other = some earlier ∧ earlier.lease? = some id) ∨
      other = task ∧ ∃ name span, made = .create name span ∧
        Store.Answer.grants? id (.outcome made.request result) = some span := by
  rcases errand_of_served found with ⟨-, old⟩ | ⟨rfl, rfl⟩
  · exact .inl ⟨errand, old, about⟩
  · exact (lease?_served about).imp (fun renews => ⟨_, waits, renews⟩) fun granted => ⟨rfl, granted⟩

/-- An errand after an event was there before, or was just begun. -/
theorem errand_before (found : errands.after event call task = some errand) :
    (errands task = some errand ∧ ∀ reply, event ≠ .answered task reply) ∨
      ∃ made, call = some made ∧ errand = ⟨made, none⟩ ∧
        (event = .granted task ∨ ∃ reply, event = .answered task reply) := by
  cases event with
  | granted turn =>
    cases call with
    | none => exact .inl ⟨found, nofun⟩
    | some made =>
      by_cases same : task = turn
      · subst same
        rw [Errands.after, Function.update_self] at found
        cases found
        exact .inr ⟨made, rfl, rfl, .inl rfl⟩
      · rw [Errands.after, Function.update_of_ne same] at found
        exact .inl ⟨found, nofun⟩
  | answered turn reply =>
    by_cases same : task = turn
    · subst same
      rw [Errands.after, Function.update_self] at found
      obtain ⟨made, rfl, rfl⟩ := Option.map_eq_some_iff.mp found
      exact .inr ⟨made, rfl, rfl, .inr ⟨reply, rfl⟩⟩
    · rw [Errands.after, Function.update_of_ne same] at found
      refine .inl ⟨found, ?_⟩
      rintro _ ⟨⟩
      exact same rfl
  | _ => exact .inl ⟨found, nofun⟩

/-- An event about another task leaves an errand alone. -/
theorem errand_stays (ungranted : event ≠ .granted task)
    (unanswered : ∀ reply, event ≠ .answered task reply) :
    errands.after event call task = errands task := by
  cases event with
  | granted turn =>
    have other : task ≠ turn := by
      rintro rfl
      exact ungranted rfl
    cases call with
    | none => rfl
    | some => exact Function.update_of_ne other ..
  | answered turn reply =>
    have other : task ≠ turn := by
      rintro rfl
      exact unanswered reply rfl
    exact Function.update_of_ne other ..
  | _ => rfl

/-! ## Leases -/

/-- What is known of the leases of a session and of its errands. -/
structure Tracked (session : Session) (errands : Errands) (past : List Store.Moment) : Prop where
  /-- The session's lease was made with the session's TTL. -/
  leased : session.lease.id ≠ "" → Store.ttl? session.lease.id past = some session.ttl
  /-- Leases are asked for with that TTL. -/
  asked : ∀ task name span result?, errands task = some ⟨.create name span, result?⟩ →
    span = session.ttl
  /-- The leases that errands are for were made with that TTL. -/
  known : ∀ task errand id, errands task = some errand → errand.lease? = some id →
    Store.ttl? id past = some session.ttl
  /-- No two errands are for the same lease. -/
  apart : ∀ task other errand another id, errands task = some errand →
    errands other = some another → errand.lease? = some id → another.lease? = some id → task = other
  /-- Only the monitor of the current generation has an errand for the session's lease. -/
  own : session.lease.id ≠ "" → ∀ task errand, errands task = some errand →
    errand.lease? = some session.lease.id → task = .monitor session.signal.past.length
  /-- A monitor that was not told to stop waits for the answer to its errand. -/
  busy : ∀ index errand, errands (.monitor index) = some errand →
    ∃ monitor, session.monitors[index]? = some monitor ∧
      (monitor.cancelled = false → session.standing (.monitor index) = .working errand.call)
  /-- The lease that a monitor cares for is due no later than the session's TTL is over, unless it was
  renewed and the monitor is yet to be told. -/
  covered : session.lease.state = .active → session.lease.id ≠ "" →
    ∀ index, session.current = some index →
    ∀ due, Store.deadline? session.lease.id past = some due →
      due ≤ session.lease.renewedAt + session.ttl.nanos ∨
        errands (.monitor index) = some ⟨.renew session.lease.id, some (.ok ())⟩

/-- A monitor that works is there. -/
theorem monitor_of_working {index : Nat} (works : session.standing (.monitor index) = .working made) :
    ∃ monitor, session.monitors[index]? = some monitor := by
  cases found : session.monitors[index]? with
  | some monitor => exact ⟨monitor, rfl⟩
  | none =>
    rw [Session.standing, found] at works
    cases works

/-- Who renews the lease is the monitor of the current generation. -/
theorem renewer_of_call (lived : Session.Lived history session)
    (outcome : Transition now session event next (some (.renew id)))
    (about : event = .granted task ∨ ∃ reply, event = .answered task reply) :
    task = .monitor session.signal.past.length ∧ session.lease.id = id ∧ id ≠ "" ∧
      next.lease = session.lease := by
  obtain ⟨index, rfl, queued, same, named, lease⟩ := Session.renewal_of_call outcome
  have held := lived.monitored.untold _ _ queued
  obtain ⟨generation, -⟩ := lived.monitored.current _ held
  refine ⟨?_, same, named, lease⟩
  rcases about with turn | ⟨_, answered⟩
  · cases turn
    rw [generation]
  · cases answered

/-! ## Steps of the session -/

/-- A monitor that is not told to stop is done with its call only when it is answered. -/
private theorem not_relieved {index : Nat} {old : Session.Monitor}
    (lived : Session.Lived history session)
    (stepped : session.step now event = some (next, call))
    (unanswered : ∀ reply, event ≠ .answered (.monitor index) reply)
    (known : session.monitors[index]? = some old) (running : old.cancelled = false)
    (inside : index < next.monitors.length) (untold : next.monitors[index].cancelled = false) :
    ¬ Session.Moment.relieves ⟨now, session, event, next, call⟩ (.monitor index) = true := by
  intro relieved
  cases event with
  | answered turn reply =>
    obtain rfl : turn = .monitor index := by simpa [Session.Moment.relieves] using relieved
    exact unanswered reply rfl
  | noticed noticing =>
    obtain rfl : noticing = index := by simpa [Session.Moment.relieves] using relieved
    cases Session.transition_of_step stepped with
    | noticed told =>
      rw [known] at told
      cases told
      cases running
  | dropped =>
    have gone : next.current = none := by
      cases Session.transition_of_step stepped with
      | dropped => simp [Session.endMonitor, Session.leave, Session.setMonitor, Session.stopMonitor_eq]
      | deserted _ _ nobody => exact nobody
    have present : next.monitors[index]? = some ⟨false, next.monitors[index].phase⟩ := by
      rw [List.getElem?_eq_getElem inside, ← untold]
    rw [(lived.happened stepped).monitored.untold _ _ present] at gone
    cases gone
  | began | woke | granted | forgone => simp [Session.Moment.relieves] at relieved

/-- Whatever happens to a session, its monitors go on waiting for the answers to their errands. -/
theorem Tracked.busy_after (tracked : Tracked session errands past)
    (lived : Session.Lived history session)
    (stepped : session.step now event = some (next, call)) {index : Nat}
    (found : errands.after event call (.monitor index) = some errand) :
    ∃ monitor, next.monitors[index]? = some monitor ∧
      (monitor.cancelled = false → next.standing (.monitor index) = .working errand.call) := by
  have outcome := Session.transition_of_step stepped
  rcases errand_before found with ⟨earlier, unanswered⟩ | ⟨made, rfl, rfl, about⟩
  · obtain ⟨old, known, works⟩ := tracked.busy index errand earlier
    have inside : index < next.monitors.length :=
      Nat.lt_of_lt_of_le (List.getElem?_eq_some_iff.mp known).1
        (Session.monitors_length_after outcome)
    refine ⟨next.monitors[index], List.getElem?_eq_getElem inside, fun untold => ?_⟩
    have running : old.cancelled = false := by
      rcases Session.monitor_before outcome (List.getElem?_eq_getElem inside) with
        new | ⟨previous, same, becomes⟩
      · exact absurd (List.getElem?_eq_some_iff.mp known).1 (Nat.not_lt_of_le new)
      · rw [known] at same
        cases same
        rw [← Bool.not_eq_true]
        intro told
        rw [becomes.told told] at untold
        cases untold
    by_cases subject : session.subject event = some (.monitor index)
    · have relieved := Session.relieves_of_working outcome subject (works running)
      exact absurd relieved (not_relieved lived stepped unanswered known running inside untold)
    · rw [Session.standing_of_other outcome subject]
      exact works running
  · have subject : session.subject event = some (.monitor index) := by
      rcases about with rfl | ⟨_, rfl⟩ <;> rfl
    cases Session.moved_of_subject outcome subject with
    | called _ works _ =>
      obtain ⟨monitor, present⟩ := monitor_of_working works
      exact ⟨monitor, present, fun _ => works⟩

/-- Whatever happens to a session, its lease stays due no later than its TTL is over, unless the
monitor is yet to be told of a renewal. -/
theorem Tracked.covered_after (tracked : Tracked session errands past)
    (lived : Session.Lived history session) (order : ∀ moment ∈ past, moment.now ≤ now)
    (replies : ∀ task reply, event = .answered task reply →
      ∃ errand, errands task = some errand ∧ errand.Replies reply)
    (stepped : session.step now event = some (next, call))
    (leased : next.lease.id ≠ "" → Store.ttl? next.lease.id past = some next.ttl)
    (active : next.lease.state = .active) (named : next.lease.id ≠ "") {index : Nat}
    (current : next.current = some index) {due : Instant}
    (limit : Store.deadline? next.lease.id past = some due) :
    due ≤ next.lease.renewedAt + next.ttl.nanos ∨
      errands.after event call (.monitor index) =
        some ⟨.renew next.lease.id, some (.ok ())⟩ := by
  have outcome := Session.transition_of_step stepped
  cases Session.tenure_of_outcome lived.fitting lived.monitored outcome with
  | untended without =>
    rcases without with inactive | unnamed | nobody
    · exact absurd active inactive
    · exact absurd unnamed named
    · rw [nobody] at current
      cases current
  | renewed since =>
    rw [since]
    exact .inl (Store.deadline?_le limit (leased named) order)
  | kept wasActive id since same untold =>
    rw [id] at named limit ⊢
    rw [same] at current
    rw [since, Session.ttl_after outcome]
    refine (tracked.covered wasActive named index current due limit).imp_right fun renewed => ?_
    obtain ⟨-, phase, running⟩ := lived.monitored.current index current
    rw [errand_stays, renewed]
    · rintro rfl
      obtain ⟨monitor, present, works⟩ := tracked.busy index _ renewed
      rw [running] at present
      cases present
      have waits := Session.waiting_of_granted outcome
      rw [works rfl] at waits
      cases waits
    · rintro reply rfl
      obtain ⟨errand, waits, comes⟩ := replies _ _ rfl
      rw [renewed] at waits
      cases waits
      cases comes
      exact untold index current rfl

/-- What is known of leases stays known as the session goes on. -/
theorem Tracked.moved (tracked : Tracked session errands past)
    (lived : Session.Lived history session) (order : ∀ moment ∈ past, moment.now ≤ now)
    (replies : ∀ task reply, event = .answered task reply →
      ∃ errand, errands task = some errand ∧ errand.Replies reply)
    (stepped : session.step now event = some (next, call)) :
    Tracked next (errands.after event call) past := by
  have outcome := Session.transition_of_step stepped
  have ttl := Session.ttl_after outcome
  -- An errand that was just begun is for the lease that the session has.
  have begun {task made id} (called : call = some made)
      (about : event = .granted task ∨ ∃ reply, event = .answered task reply)
      (renews : Errand.lease? ⟨made, none⟩ = some id) :
      task = .monitor session.signal.past.length ∧ session.lease.id = id ∧ id ≠ "" ∧
        next.lease = session.lease := by
    cases made with
    | renew held =>
      cases renews
      subst called
      exact renewer_of_call lived outcome about
    | create => cases renews
    | destroy => cases renews
  have leased : next.lease.id ≠ "" → Store.ttl? next.lease.id past = some next.ttl := by
    intro named
    rw [ttl]
    rcases Session.lease_after outcome with ⟨same, -⟩ | unnamed | ⟨task, answered, -⟩
    · rw [same] at named ⊢
      exact tracked.leased named
    · exact absurd unnamed named
    · obtain ⟨errand, waits, reply⟩ := replies task _ answered
      exact tracked.known task errand _ waits reply.lease
  refine ⟨leased, ?_, ?_, ?_, ?_, fun index errand found => tracked.busy_after lived stepped found,
    fun active named index current due limit =>
      tracked.covered_after lived order replies stepped leased active named current limit⟩
  · intro task name span result? found
    rw [ttl]
    rcases errand_before found with ⟨earlier, -⟩ | ⟨made, called, same, -⟩
    · exact tracked.asked task name span result? earlier
    · cases same
      subst called
      exact (Session.creation_of_call outcome).2
  · intro task errand id found about
    rw [ttl]
    rcases errand_before found with ⟨earlier, -⟩ | ⟨made, called, rfl, by_⟩
    · exact tracked.known task errand id earlier about
    · obtain ⟨-, rfl, named, -⟩ := begun called by_ about
      exact tracked.leased named
  · intro task other errand another id found others about same
    rcases errand_before found with ⟨first, -⟩ | ⟨made, called, rfl, turn⟩
    · rcases errand_before others with ⟨second, -⟩ | ⟨made, called, rfl, turn⟩
      · exact tracked.apart task other errand another id first second about same
      · obtain ⟨rfl, rfl, named, -⟩ := begun called turn same
        exact tracked.own named task errand first about
    · obtain ⟨rfl, rfl, named, -⟩ := begun called turn about
      rcases errand_before others with ⟨second, -⟩ | ⟨made, called, rfl, turn⟩
      · exact (tracked.own named other another second same).symm
      · exact (begun called turn same).1.symm
  · intro named task errand found about
    rcases Session.lease_after outcome with ⟨same, generation⟩ | unnamed | ⟨teller, answered, quiet⟩
    · rw [generation]
      rw [same] at named about
      rcases errand_before found with ⟨earlier, -⟩ | ⟨made, called, rfl, turn⟩
      · exact tracked.own named task errand earlier about
      · exact (begun called turn about).1
    · exact absurd unnamed named
    · -- The errand for which the lease was made is over, and there is no other one for it.
      obtain ⟨errand', waits, reply⟩ := replies teller _ answered
      rcases errand_before found with ⟨earlier, unanswered⟩ | ⟨made, called, -⟩
      · obtain rfl := tracked.apart task teller _ _ _ earlier waits about reply.lease
        exact absurd answered (unanswered _)
      · rw [quiet] at called
        cases called

/-! ## Steps of the store -/

section
variable {store after : Store} {sweep : Store.Sweep} {fresh : String} {deed : Store.Event}
variable {answer : Store.Answer} {ttl : Duration}

/-- No lease is made with an id that is in use. -/
theorem not_granted (happens : store.happen sweep now fresh deed = (answer, after))
    (unused : Store.ttl? fresh past = none) (known : Store.ttl? id past = some ttl) :
    answer.grants? id = none := by
  rw [← Option.not_isSome_iff_eq_none]
  intro granted
  rw [Store.fresh_of_grants happens granted, unused] at known
  cases known

/-- A past to which an event is added tells all that happened. -/
theorem kept_on (kept : Store.Kept past store) (order : ∀ moment ∈ past, moment.now ≤ now)
    (happens : store.happen sweep now fresh deed = (answer, after))
    (unused : Store.ttl? fresh past = none) :
    Store.Kept (⟨now, store, deed, answer, after⟩ :: past) after := by
  refine kept.happened order happens fun id granted => ?_
  rw [Store.fresh_of_grants happens granted, unused]

/-- The TTL of a lease stays. -/
theorem ttl?_stays (happens : store.happen sweep now fresh deed = (answer, after))
    (unused : Store.ttl? fresh past = none) (known : Store.ttl? id past = some ttl) :
    Store.ttl? id (⟨now, store, deed, answer, after⟩ :: past) = some ttl := by
  rw [Store.ttl?_add, not_granted happens unused known, Option.none_or, known]

/-- An answer that a lease lives on is about a request to renew it. -/
theorem renews_of_answer (happens : store.happen sweep now fresh deed = (answer, after))
    (renewed : answer.renews id = true) :
    answer = .outcome (.renew id) (.ok ()) ∧ Renews id deed := by
  cases Store.course_of_happen happens with
  | declined =>
    rw [Store.renews_error] at renewed
    cases renewed
  | served about _ served =>
    cases served with
    | renewed =>
      obtain rfl := of_decide_eq_true renewed
      rcases about with rfl | rfl <;> exact ⟨rfl, rfl⟩
    | _ => cases renewed
  | switched | counted | wiped => cases renewed

/-- Somebody else uses the store. -/
theorem Tracked.shared (tracked : Tracked session errands past)
    (spares : session.lease.id ≠ "" → ¬ Renews session.lease.id deed)
    (happens : store.happen sweep now fresh deed = (answer, after))
    (unused : Store.ttl? fresh past = none) :
    Tracked session errands (⟨now, store, deed, answer, after⟩ :: past) := by
  refine { tracked with leased := ?_, known := ?_, covered := ?_ }
  · intro named
    exact ttl?_stays happens unused (tracked.leased named)
  · intro task errand id found about
    exact ttl?_stays happens unused (tracked.known task errand id found about)
  · intro active named index current due limit
    have quiet : answer.renews session.lease.id = false := by
      rw [← Bool.not_eq_true]
      exact fun renewed => spares named (renews_of_answer happens renewed).2
    rw [Store.deadline?_quiet (not_granted happens unused (tracked.leased named)) quiet] at limit
    exact tracked.covered active named index current due limit

/-- The store serves the request of an errand. -/
theorem Tracked.served {result : made.request.Outcome} (tracked : Tracked session errands past)
    (monitored : session.Monitored) (waits : errands task = some ⟨made, none⟩)
    (happens : store.happen sweep now fresh deed = (.outcome made.request result, after))
    (unused : Store.ttl? fresh past = none) :
    Tracked session (Function.update errands task (some ⟨made, some result⟩))
      (⟨now, store, deed, .outcome made.request result, after⟩ :: past) := by
  have fresh_of {id span} (granted : Store.Answer.grants? id (.outcome made.request result) =
      some span) : Store.ttl? id past ≠ some session.ttl := by
    intro known
    rw [not_granted happens unused known] at granted
    cases granted
  refine ⟨?_, ?_, ?_, ?_, ?_, ?_, ?_⟩
  · intro named
    exact ttl?_stays happens unused (tracked.leased named)
  · intro other name span result? found
    rcases errand_of_served found with ⟨-, old⟩ | ⟨rfl, same⟩
    · exact tracked.asked other name span result? old
    · cases same
      exact tracked.asked other name span none waits
  · intro other errand id found lease
    rcases lease_of_served waits found lease with ⟨earlier, old, known⟩ | ⟨rfl, name, span, rfl, granted⟩
    · exact ttl?_stays happens unused (tracked.known other earlier id old known)
    · rw [Store.ttl?_add, granted, Option.some_or, tracked.asked other name span none waits]
  · intro first second errand another id found others lease same
    rcases lease_of_served waits found lease with ⟨earlier, old, known⟩ | ⟨rfl, _, _, _, granted⟩
    · rcases lease_of_served waits others same with ⟨_, older, too⟩ | ⟨rfl, _, _, _, granted⟩
      · exact tracked.apart first second _ _ id old older known too
      · exact absurd (tracked.known first earlier id old known) (fresh_of granted)
    · rcases lease_of_served waits others same with ⟨earlier, old, known⟩ | ⟨rfl, -⟩
      · exact absurd (tracked.known second earlier id old known) (fresh_of granted)
      · rfl
  · intro named other errand found lease
    rcases lease_of_served waits found lease with ⟨earlier, old, known⟩ | ⟨rfl, _, _, _, granted⟩
    · exact tracked.own named other earlier old known
    · exact absurd (tracked.leased named) (fresh_of granted)
  · intro index errand found
    rcases errand_of_served found with ⟨-, old⟩ | ⟨rfl, rfl⟩
    · exact tracked.busy index errand old
    · obtain ⟨monitor, present, works⟩ := tracked.busy index _ waits
      exact ⟨monitor, present, works⟩
  · intro active named index current due limit
    cases renewed : Store.Answer.renews session.lease.id (.outcome made.request result) with
    | true =>
      right
      obtain ⟨rfl, -⟩ := monitored.current index current
      cases made with
      | create | destroy => cases renewed
      | renew held =>
        cases result with
        | error => cases renewed
        | ok done =>
          obtain rfl := of_decide_eq_true renewed
          obtain rfl := tracked.own named task _ waits rfl
          exact Function.update_self ..
    | false =>
      rw [Store.deadline?_quiet (not_granted happens unused (tracked.leased named)) renewed] at limit
      refine (tracked.covered active named index current due limit).imp_right fun renewed => ?_
      have other : Task.monitor index ≠ task := by
        rintro rfl
        rw [waits] at renewed
        cases renewed
      rw [Function.update_of_ne other, renewed]

end

end

/-! ## Worlds -/

/-- A world whose parts agree. -/
structure Coherent (world : World) : Prop where
  lived : ∃ history, Session.Lived history world.session
  kept : Store.Kept world.past world.store
  order : ∀ moment ∈ world.past, moment.now ≤ world.now
  tracked : Tracked world.session world.errands world.past

section
variable {world next : World} {error : Error}

theorem coherent_opened {first : Except Error String} {store : Store} {past : List Store.Moment}
    {session : Session} {now : Instant} {label : String} {span : Duration}
    {timing : SessionSettings} (kept : Store.Kept past store)
    (order : ∀ moment ∈ past, moment.now ≤ now) (valid : Session.validate span timing = .ok ())
    (made : ∀ id, first = .ok id →
      ∃ moment ∈ past, moment.answer = .outcome (.create label span) (.ok id))
    (opened : Session.opened now label span timing first = .ok session) :
    Coherent ⟨now, session, fun _ => none, store, past⟩ := by
  obtain ⟨fresh, begun⟩ := Session.fresh_of_opened opened
  have leased (named : session.lease.id ≠ "") :
      Store.ttl? session.lease.id past = some session.ttl := by
    rcases begun with first | ⟨unnamed, -⟩
    · obtain ⟨moment, member, answer⟩ := made _ first
      rw [Session.ttl_of_opened opened]
      refine kept.ttl?_of_mem member ?_
      rw [answer]
      exact if_pos rfl
    · exact absurd unnamed named
  refine ⟨⟨_, .opened valid opened⟩, kept, order, leased, ?_, ?_, ?_, ?_, ?_, ?_⟩
  · intro _ _ _ _ found
    cases found
  · intro _ _ _ found
    cases found
  · intro _ _ _ _ _ found
    cases found
  · intro _ _ _ found
    cases found
  · intro _ _ found
    cases found
  · intro _ named index _ due limit
    dsimp only at named limit ⊢
    rw [fresh.renewedAt]
    exact .inl (Store.deadline?_le limit (leased named) order)

theorem Coherent.step (coherent : Coherent world) (step : Step world next) : Coherent next := by
  obtain ⟨⟨history, lived⟩, kept, order, tracked⟩ := coherent
  cases step with
  | waited later =>
    exact ⟨⟨history, lived⟩, kept, fun moment member => Nat.le_trans (order moment member) later,
      tracked⟩
  | moved replies stepped =>
    exact ⟨⟨_, lived.happened stepped⟩, kept, order, tracked.moved lived order replies stepped⟩
  | served waits about happens unused =>
    exact ⟨⟨history, lived⟩, kept_on kept order happens unused,
      List.forall_mem_cons.mpr ⟨Nat.le_refl _, order⟩,
      tracked.served lived.monitored waits happens unused⟩
  | shared spares happens unused =>
    exact ⟨⟨history, lived⟩, kept_on kept order happens unused,
      List.forall_mem_cons.mpr ⟨Nat.le_refl _, order⟩, tracked.shared spares happens unused⟩

theorem Reached.coherent (reached : Reached world) : Coherent world := by
  induction reached with
  | opened kept order valid made opened => exact coherent_opened kept order valid made opened
  | stepped _ step ih => exact ih.step step

/-- **No live lease is given up because of an outage.** Calls take their time before and after the
store serves them, a success was served, a failure was not, and nobody else renews the lease of the
session. Then, whenever the session is invalidated with an error that is worth a retry, its lease is
not in the store any more, or its deadline is reached. -/
theorem live_lease_kept (reached : Reached world) (step : Step world next)
    (active : world.session.state = .active) (lost : next.session.state = .invalidated)
    (told : next.session.err.tryRecv next.session.signal = some (some error))
    (retryable : error.isRetryable = true) :
    next.session.id ≠ "" ∧
      ∀ lease ∈ next.store.leases, lease.id = next.session.id → lease.deadline ≤ next.now := by
  cases step with
  | waited | served | shared =>
    dsimp only at active lost
    rw [active] at lost
    cases lost
  | @moved _ errands _ _ now session _ _ replies stepped =>
    obtain ⟨⟨history, lived⟩, kept, order, tracked⟩ := reached.coherent
    dsimp only at lived kept tracked
    obtain ⟨index, rfl, current, named, same, late⟩ :=
      lived.loss_shown stepped active lost told retryable
    refine ⟨fun unnamed => named (same ▸ unnamed), fun lease member about => ?_⟩
    have due := kept.sound.due lease member
    rw [about, Session.id, same] at due
    rcases tracked.covered active named index current _ due with limit | renewed
    · have positive := kept.sound.positive _ _ (tracked.leased named)
      have begun : session.lease.renewedAt < now :=
        Nat.lt_of_sub_pos (Nat.lt_of_lt_of_le positive late)
      exact Nat.le_trans limit (Nat.add_le_of_le_sub' (Nat.le_of_lt begun) late)
    · obtain ⟨errand, waits, comes⟩ := replies _ _ rfl
      rw [renewed] at waits
      cases waits
      cases comes

end

open Tolerance (attended)

section
variable {label id : String} {span : Duration} {timing : SessionSettings} {failures : Nat}
variable {renewedAt since now time : Instant} {wait : Duration} {errands : Errands} {store : Store}
variable {past : List Store.Moment}

/-- A monitor that has slept long enough asks for the renewal of the lease. -/
private theorem renewal_begun
    (reached : Reached ⟨now, attended label span timing ⟨id, .active, renewedAt, failures⟩ []
      (.asleep since wait), errands, store, past⟩)
    (named : id ≠ "") (later : now ≤ time) (due : since + wait.nanos ≤ time) :
    Reached ⟨time, attended label span timing ⟨id, .active, renewedAt, failures⟩ [.monitor 0]
      (.renewing id), Function.update errands (.monitor 0) (some ⟨.renew id, none⟩), store, past⟩ := by
  have woken := (reached.stepped (.waited later)).stepped
    (.moved (by rintro _ _ ⟨⟩) (Tolerance.step_woken due))
  exact woken.stepped (.moved (by rintro _ _ ⟨⟩) (Tolerance.step_asks named))

/-- The request for the renewal gets lost, and the monitor learns that. -/
private theorem renewal_lost (error : Error) :
    Step ⟨now, attended label span timing ⟨id, .active, renewedAt, failures⟩ [.monitor 0]
        (.renewing id), Function.update errands (.monitor 0) (some ⟨.renew id, none⟩), store, past⟩
      ⟨now, (attended label span timing ⟨id, .active, renewedAt, failures⟩ [.monitor 0]
        (.renewing id)).monitorRenewed now 0 (.error error),
        Errands.after (.answered (.monitor 0) (.renewed (.error error))) none
          (Function.update errands (.monitor 0) (some ⟨.renew id, none⟩)), store, past⟩ := by
  refine .moved ?_ rfl
  rintro _ _ ⟨⟩
  exact ⟨⟨.renew id, none⟩, Function.update_self .., .failed error⟩

end

/-- A store with one lease, which is due at some time. -/
def keeping (deadline : Instant) : Store :=
  { leases := [⟨"L1", "a-session", .seconds 20, deadline, 1⟩], index := 1 }

theorem lease_made :
    Store.happen .oldestFirst 0 "L1" (.requested (.create "a-session" (.seconds 20))) {} =
      (.outcome (.create "a-session" (.seconds 20)) (.ok "L1"), keeping 20000000000) := rfl

private theorem lease_renewed :
    Store.happen .oldestFirst 11000000000 "" (.requested (.renew "L1")) (keeping 20000000000) =
      (.outcome (.renew "L1") (.ok ()), keeping 31000000000) := rfl

/-- The first renewal is served after eleven seconds, and its answer arrives after twelve. The next one
gets lost. When the session learns that after 32 seconds, it gives up, and its lease has been overdue
for a second. -/
theorem lost_renewal_not_live : ∃ world next error,
    (Reached world ∧ Step world next ∧ world.session.state = .active ∧
      next.session.state = .invalidated ∧
      next.session.err.tryRecv next.session.signal = some (some error) ∧
      error.isRetryable = true) ∧
    next.now = 32000000000 ∧ next.session.id = "L1" ∧
      next.store.leases.map (·.deadline) = [31000000000] ∧
      ∀ lease ∈ next.store.leases, lease.id = "L1" → lease.deadline ≤ next.now := by
  have kept := Store.Kept.happened .new (by simp) lease_made (fun _ _ => rfl)
  have opened := Reached.opened kept (by simp) (rfl : Session.validate (.seconds 20) {} = .ok ())
    (by rintro id ⟨⟩; exact ⟨_, List.mem_singleton.mpr rfl, rfl⟩)
    (rfl : Session.opened 0 "a-session" (.seconds 20) {} (.ok "L1") =
      .ok (attended "a-session" (.seconds 20) {} ⟨"L1", .active, 0, 0⟩ [] (.asleep 0 (.seconds 10))))
  have asked := renewal_begun opened (by decide) (by decide : (0 : Instant) ≤ 10000000000) (by decide)
  have served := (asked.stepped (.waited (by decide : _ ≤ 11000000000))).stepped
    (.served (Function.update_self ..) (.inl rfl) lease_renewed rfl)
  have answered := (served.stepped (.waited (by decide : _ ≤ 12000000000))).stepped
    (.moved (by rintro _ _ ⟨⟩; exact ⟨_, Function.update_self .., .served⟩)
      (Tolerance.step_renewed (by decide)))
  have again := renewal_begun answered (by decide) (by decide : _ ≤ 22000000000) (by decide)
  have late := again.stepped (.waited (by decide : _ ≤ 32000000000))
  have lost := live_lease_kept late (renewal_lost (.backendUnavailable "connection refused"))
    rfl rfl rfl rfl
  exact ⟨_, _, _, ⟨late, renewal_lost _, rfl, rfl, rfl, rfl⟩, rfl, rfl, rfl, lost.2⟩

end Leasehold.Latency
