import Leasehold.Proofs.Store.History

/-! What a store is to answer, computed from what is told of its past: when each event happened, and
what it was answered. Nothing here looks at a store, so that nothing depends on when the leases that
are overdue are pruned, or in which order. -/
namespace Leasehold.Store

/-! ## What is told of the past -/

/-- Whether the operator wipes all leases. -/
def Event.wipes : Event → Bool
  | .wiped => true
  | _ => false

/-- An answer without what depends on the pruning: the index of the last change to a key, and how many
leases a wipe has found. -/
def shown (event : Event) : Answer → Answer
  | .outcome (.get key) (.ok entry) =>
    .outcome (.get key) (.ok (entry.map fun entry => { entry with modifyIndex := 0 }))
  | .number count => if event.wipes then .nothing else .number count
  | answer => answer

/-- What is told of a moment. -/
def Moment.told (moment : Moment) : Moment :=
  { moment with before := {}, after := {}, answer := shown moment.event moment.answer }

/-- What is told of a history. -/
def account (history : List Moment) : List Moment := history.map Moment.told

/-! ## Leases -/

/-- Whether the answer is that the lease with this id was given up. -/
def Answer.gives (id : String) : Answer → Bool
  | .outcome (.destroy gone) (.ok ()) => gone = id
  | _ => false

/-- Whether a lease is given up or wiped. -/
def ends (event : Event) (answer : Answer) (id : String) : Bool := event.wipes || answer.gives id

/-- Whether a lease was made, and neither given up nor wiped since. -/
def stands (id : String) : List Moment → Bool
  | [] => false
  | moment :: earlier =>
    (moment.answer.grants? id).isSome || stands id earlier && !ends moment.event moment.answer id

/-- Whether a lease lives: it stands, and its TTL is not over since it was made or renewed last. -/
def lives (history : List Moment) (now : Instant) (id : String) : Bool :=
  stands id history && (deadline? id history).any (now < ·)

/-- What is to be reported of the lease that the answer grants. -/
def Answer.report? (index : Nat) : Answer → Option Descriptor
  | .outcome (.create name ttl) (.ok id) =>
    some
      { id, name, node := nodeName, ttl := Nat.repr ttl.secs ++ "s", behavior := Behavior.release.name
        lockDelay := 0, createIndex := index }
  | _ => none

/-- Whether the answer takes an index. That a key was not unlocked takes one, too. -/
def Answer.takesIndex : Answer → Bool
  | .outcome (.create _ _) (.ok _) | .outcome (.release _ _) (.ok _) => true
  | .outcome (.put _ _ _) (.ok locked) => locked
  | _ => false

/-- The reports of all leases that were made, the first one first. Before a lease gets its index, each
lease that has gone took one. -/
def granted : List Moment → List Descriptor
  | [] => []
  | moment :: earlier =>
    let gone := (granted earlier).countP fun lease => !lives earlier moment.now lease.id
    granted earlier ++
      (moment.answer.report? (earlier.countP (·.answer.takesIndex) + gone + 1)).toList

/-- The reports of the leases that live. -/
def living (history : List Moment) (now : Instant) : List Descriptor :=
  (granted history).filter fun lease => lives history now lease.id

/-! ## Keys -/

/-- The lease that locked a key, if that is the answer, and what it wrote. -/
def Answer.lock? (key : String) : Answer → Option (String × List UInt8)
  | .outcome (.put written value id) (.ok locked) =>
    if written = key ∧ locked = true then some (id, value) else none
  | _ => none

/-- Whether the answer is that a lease unlocked a key. -/
def Answer.unlocks (key id : String) : Answer → Bool
  | .outcome (.release released owner) (.ok unlocked) => released = key && owner = id && unlocked
  | _ => false

/-- The last lock on a key, and what was written with it. -/
def lastLock? (key : String) (history : List Moment) : Option (String × List UInt8) :=
  history.findSome? (·.answer.lock? key)

/-- The lease that locked a key last, if it has not unlocked the key since. -/
def owner? (key : String) : List Moment → Option String
  | [] => none
  | moment :: earlier =>
    match moment.answer.lock? key with
    | some (id, _) => some id
    | none => (owner? key earlier).filter fun id => !moment.answer.unlocks key id

/-- The holder of a key: the lease that locked it last, if it has not unlocked the key and lives. Then
it has lived ever since (`lives_since`). -/
def holding? (history : List Moment) (now : Instant) (key : String) : Option String :=
  (owner? key history).filter (lives history now)

/-- What is to be reported of a key, but for the index of its last change. -/
def entryOf? (history : List Moment) (now : Instant) (key : String) : Option KeyEntry :=
  (lastLock? key history).map fun (_, value) => ⟨key, value, holding? history now key, 0⟩

/-! ## Answers -/

/-- Whether the store comes back or goes out of reach, if it does either. -/
def Event.switch? : Event → Option Bool
  | .switched reachable => some reachable
  | _ => none

/-- Whether requests are served. -/
def serving (history : List Moment) : Bool := (history.findSome? (·.event.switch?)).getD true

/-- How a request ends that is served. -/
def outcomeOf (history : List Moment) (now : Instant) (fresh : String) :
    (request : Backend.Request) → request.Outcome
  | .create _ _ => .ok fresh
  | .renew id => if lives history now id then .ok () else .error (.sessionNotFound id)
  | .destroy _ => .ok ()
  | .list => .ok (living history now)
  | .put key _ id =>
    if lives history now id then .ok ((holding? history now key).all (· = id))
    else .error (.sessionNotFound id)
  | .release key id =>
    if lives history now id then .ok (holding? history now key = some id)
    else .error (.sessionNotFound id)
  | .get key => .ok (entryOf? history now key)

/-- What the store is to answer, but for what depends on the pruning. -/
def foretell (history : List Moment) (now : Instant) (fresh : String) : Event → Answer
  | .requested request =>
    match refusal? request with
    | some error => .outcome request (.error error)
    | none =>
      if serving history then .outcome request (outcomeOf history now fresh request)
      else .outcome request (.error (.backendUnavailable "in-memory backend is unreachable"))
  | .admitted request =>
    match refusal? request with
    | some error => .outcome request (.error error)
    | none => .outcome request (outcomeOf history now fresh request)
  | .counted => .number (living history now).length
  | .switched _ | .wiped => .nothing

/-! ## Calls without consequences -/

/-- Whether a call of the store is answered, rather than something done to the store. -/
def Event.isCall : Event → Bool
  | .requested _ | .admitted _ | .counted => true
  | .switched _ | .wiped => false

/-- Whether the answer tells of a failure or only reports something. -/
def Answer.idle : Answer → Bool
  | .outcome _ (.error _) | .outcome .list _ | .outcome (.get _) _ | .number _ => true
  | .outcome (.put _ _ _) (.ok locked) => !locked
  | _ => false

/-- Whether the answer tells that a key was not unlocked. -/
def Answer.misses : Answer → Bool
  | .outcome (.release _ _) (.ok unlocked) => !unlocked
  | _ => false

/-- Whether a call fails at this moment, or only reports something. -/
def Moment.idle (moment : Moment) : Bool := moment.event.isCall && moment.answer.idle

/-- Whether a lease fails to unlock a key at this moment. -/
def Moment.misses (moment : Moment) : Bool := moment.event.isCall && moment.answer.misses

/-- A report of a lease without the index at which it was created. -/
def unnumberedLease (lease : Descriptor) : Descriptor := { lease with createIndex := 0 }

/-- An answer without the indices at which leases were created. -/
def Answer.unnumbered : Answer → Answer
  | .outcome .list (.ok leases) => .outcome .list (.ok (leases.map unnumberedLease))
  | answer => answer

/-! ## Answers that make the same difference -/

/-- Two answers that make the same difference to those after them. -/
structure Answer.Matches (answer other : Answer) : Prop where
  grants : ∀ id, answer.grants? id = other.grants? id
  renews : ∀ id, answer.renews id = other.renews id
  gives : ∀ id, answer.gives id = other.gives id
  report : ∀ index, answer.report? index = other.report? index
  takesIndex : answer.takesIndex = other.takesIndex
  lock : ∀ key, answer.lock? key = other.lock? key
  unlocks : ∀ key id, answer.unlocks key id = other.unlocks key id

theorem shown_matches (event : Event) (answer : Answer) : (shown event answer).Matches answer := by
  unfold shown
  split
  case h_2 => split <;> constructor <;> intros <;> rfl
  all_goals constructor <;> intros <;> rfl

/-- An answer that neither grants, renews, locks nor unlocks anything. -/
structure Answer.Calm (answer : Answer) : Prop where
  grants : ∀ id, answer.grants? id = none
  renews : ∀ id, answer.renews id = false
  report : ∀ index, answer.report? index = none
  lock : ∀ key, answer.lock? key = none
  unlocks : ∀ key id, answer.unlocks key id = false

/-- An answer that makes no difference to those after it, except that it may take an index. -/
structure Answer.Still (answer : Answer) : Prop extends Answer.Calm answer where
  gives : ∀ id, answer.gives id = false

theorem still_of_error (request : Backend.Request) (error : Error) :
    (Answer.outcome request (.error error)).Still ∧
      (Answer.outcome request (.error error)).takesIndex = false := by
  cases request <;> exact ⟨⟨by constructor <;> intros <;> rfl, fun _ => rfl⟩, rfl⟩

theorem still_of_idle {answer : Answer} (idle : answer.idle = true) :
    answer.Still ∧ answer.takesIndex = false := by
  cases answer with
  | nothing => cases idle
  | number => exact ⟨⟨by constructor <;> intros <;> rfl, fun _ => rfl⟩, rfl⟩
  | outcome request result =>
    cases result with
    | error error => exact still_of_error request error
    | ok told =>
      cases request with
      | create | renew | destroy | release => cases idle
      | list | get => exact ⟨⟨by constructor <;> intros <;> rfl, fun _ => rfl⟩, rfl⟩
      | put =>
        obtain rfl : told = false := by simpa [Answer.idle] using idle
        refine ⟨⟨⟨fun _ => rfl, fun _ => rfl, fun _ => rfl, ?_, fun _ _ => rfl⟩, fun _ => rfl⟩, rfl⟩
        simp [Answer.lock?]

theorem still_of_misses {answer : Answer} (misses : answer.misses = true) : answer.Still := by
  cases answer with
  | nothing | number => cases misses
  | outcome request result =>
    cases request <;> rcases result with error | told
    case release.ok =>
      obtain rfl : told = false := by simpa [Answer.misses] using misses
      refine ⟨⟨fun _ => rfl, fun _ => rfl, fun _ => rfl, fun _ => rfl, ?_⟩, fun _ => rfl⟩
      simp [Answer.unlocks]
    all_goals cases misses

/-! ## Histories that tell the same -/

theorem lastLock?_add (key : String) (moment : Moment) (history : List Moment) :
    lastLock? key (moment :: history) = (moment.answer.lock? key).or (lastLock? key history) := by
  rw [lastLock?, List.findSome?_cons]
  cases moment.answer.lock? key <;> rfl

/-- Two histories that tell the same, but for the indices at which leases were created. -/
structure Alike (one two : List Moment) : Prop where
  stands : ∀ id, stands id one = stands id two
  ttl : ∀ id, ttl? id one = ttl? id two
  renewedAt : ∀ id, renewedAt? id one = renewedAt? id two
  locks : ∀ key, lastLock? key one = lastLock? key two
  owner : ∀ key, owner? key one = owner? key two
  switch : one.findSome? (·.event.switch?) = two.findSome? (·.event.switch?)
  granted : (granted one).map unnumberedLease = (granted two).map unnumberedLease

/-- Two histories that tell the same. -/
structure Same (one two : List Moment) : Prop extends Alike one two where
  numbered : Store.granted one = Store.granted two
  indices : one.countP (·.answer.takesIndex) = two.countP (·.answer.takesIndex)

section
variable {one two : List Moment} {first second moment : Moment} {now : Instant} {fresh : String}

theorem Alike.lives (alike : Alike one two) (now : Instant) (id : String) :
    lives one now id = lives two now id := by
  simp only [Store.lives, deadline?, alike.stands, alike.ttl, alike.renewedAt]

theorem Alike.refl (history : List Moment) : Alike history history := by constructor <;> intros <;> rfl

theorem Same.refl (history : List Moment) : Same history history := ⟨.refl _, rfl, rfl⟩

private theorem report_unnumbered (answer : Answer) (index other : Nat) :
    (answer.report? index).map unnumberedLease = (answer.report? other).map unnumberedLease := by
  unfold Answer.report?
  split <;> rfl

/-- Moments that make the same difference can be added to histories that tell the same. -/
theorem Alike.cons (alike : Alike one two) (event : first.event = second.event)
    (answer : first.answer.Matches second.answer) (now : first.now = second.now) :
    Alike (first :: one) (second :: two) := by
  constructor
  case stands => simp [Store.stands, ends, alike.stands, event, answer.grants, answer.gives]
  case ttl => simp [ttl?_add, alike.ttl, answer.grants]
  case renewedAt =>
    intro id
    have rest := alike.renewedAt id
    simp only [renewedAt?] at rest
    simp only [renewedAt?, List.find?_cons, answer.grants, answer.renews]
    split
    · simp [now]
    · exact rest
  case locks => simp [lastLock?_add, alike.locks, answer.lock]
  case owner => simp [owner?, alike.owner, answer.lock, answer.unlocks]
  case switch => simp only [List.findSome?_cons, event, alike.switch]
  case granted =>
    simp only [Store.granted, List.map_append, alike.granted, answer.report, ← Option.toList_map]
    rw [report_unnumbered]

/-- A moment that makes no difference can be left out. -/
theorem Alike.skip (alike : Alike one two) (event : moment.event.isCall = true)
    (still : moment.answer.Still) : Alike (moment :: one) two := by
  obtain ⟨kept, switch⟩ : moment.event.wipes = false ∧ moment.event.switch? = none := by
    cases about : moment.event with
    | switched | wiped => rw [about] at event; cases event
    | _ => exact ⟨rfl, rfl⟩
  constructor
  case stands => simp [Store.stands, ends, alike.stands, kept, still.grants, still.gives]
  case ttl => simp [ttl?_add, alike.ttl, still.grants]
  case renewedAt =>
    intro id
    have rest := alike.renewedAt id
    simp only [renewedAt?] at rest
    simp [renewedAt?, still.grants, still.renews, rest]
  case locks => simp [lastLock?_add, alike.locks, still.lock]
  case owner =>
    intro key
    cases owner : owner? key two <;> simp [owner?, still.lock, still.unlocks, alike.owner, owner]
  case switch => simp [switch, alike.switch]
  case granted => simp [Store.granted, alike.granted, still.report]

theorem Same.cons (same : Same one two) (event : first.event = second.event)
    (answer : first.answer.Matches second.answer) (now : first.now = second.now) :
    Same (first :: one) (second :: two) := by
  refine ⟨same.toAlike.cons event answer now, ?_, ?_⟩
  · simp [Store.granted, same.numbered, same.indices, same.lives, answer.report, now]
  · simp [List.countP_cons, same.indices, answer.takesIndex]

theorem Same.skip (same : Same one two) (idle : moment.idle = true) : Same (moment :: one) two := by
  obtain ⟨call, idle⟩ := (Bool.and_eq_true ..).mp idle
  obtain ⟨still, free⟩ := still_of_idle idle
  refine ⟨same.toAlike.skip call still, ?_, ?_⟩
  · simp [Store.granted, still.report, same.numbered]
  · simp [free, same.indices]

/-- What is told of a history is all that the answers depend on. -/
theorem same_account (history : List Moment) : Same (account history) history := by
  induction history with
  | nil => exact .refl []
  | cons moment history ih => exact ih.cons rfl (shown_matches ..) rfl

/-- Calls without consequences can be left out. -/
theorem same_filter {keep : Moment → Bool} {history : List Moment}
    (idle : ∀ moment ∈ history, keep moment = false → moment.idle = true) :
    Same history (history.filter keep) := by
  induction history with
  | nil => exact .refl []
  | cons moment history ih =>
    have rest := ih fun other member => idle other (List.mem_cons_of_mem _ member)
    cases kept : keep moment with
    | true =>
      rw [List.filter_cons_of_pos kept]
      exact rest.cons rfl (by constructor <;> intros <;> rfl) rfl
    | false =>
      rw [List.filter_cons_of_neg (by simp [kept])]
      exact rest.skip (idle moment List.mem_cons_self kept)

/-- So can calls that fail to unlock a key, but for the indices of later leases. -/
theorem alike_filter {keep : Moment → Bool} {history : List Moment}
    (idle : ∀ moment ∈ history, keep moment = false → moment.idle = true ∨ moment.misses = true) :
    Alike history (history.filter keep) := by
  induction history with
  | nil => exact .refl []
  | cons moment history ih =>
    have rest := ih fun other member => idle other (List.mem_cons_of_mem _ member)
    cases kept : keep moment with
    | true =>
      rw [List.filter_cons_of_pos kept]
      exact rest.cons rfl (by constructor <;> intros <;> rfl) rfl
    | false =>
      rw [List.filter_cons_of_neg (by simp [kept])]
      rcases idle moment List.mem_cons_self kept with idle | misses
      · obtain ⟨call, idle⟩ := (Bool.and_eq_true ..).mp idle
        exact rest.skip call (still_of_idle idle).1
      · obtain ⟨call, misses⟩ := (Bool.and_eq_true ..).mp misses
        exact rest.skip call (still_of_misses misses)

theorem Alike.living (alike : Alike one two) (now : Instant) :
    (living one now).map unnumberedLease = (living two now).map unnumberedLease := by
  have apart (history : List Moment) : (Store.living history now).map unnumberedLease =
      ((Store.granted history).map unnumberedLease).filter
        fun lease => Store.lives history now lease.id := by
    rw [List.filter_map]
    rfl
  rw [apart, apart, alike.granted]
  simp only [alike.lives]

theorem Alike.holding (alike : Alike one two) (now : Instant) (key : String) :
    holding? one now key = holding? two now key := by
  rw [holding?, holding?, alike.owner, funext (alike.lives now)]

private theorem outcomeOf_alike (alike : Alike one two) (request : Backend.Request)
    (other : request ≠ .list) : outcomeOf one now fresh request = outcomeOf two now fresh request := by
  cases request <;> simp only [outcomeOf, entryOf?, alike.lives, alike.holding, alike.locks]
  exact absurd rfl other

private theorem foretell_congr (view : Answer → Answer) (serving : serving one = serving two)
    (outcome : ∀ request, view (.outcome request (outcomeOf one now fresh request)) =
      view (.outcome request (outcomeOf two now fresh request)))
    (count : (living one now).length = (living two now).length) (event : Event) :
    view (foretell one now fresh event) = view (foretell two now fresh event) := by
  cases event with
  | requested request =>
    simp only [foretell, serving]
    cases refusal? request with
    | some error => rfl
    | none => cases Store.serving two <;> simp [outcome]
  | admitted request =>
    simp only [foretell]
    cases refusal? request with
    | some error => rfl
    | none => exact outcome request
  | counted => simp only [foretell, count]
  | switched | wiped => rfl

/-- Histories that tell the same foretell the same. -/
theorem Same.foretell (same : Same one two) (now : Instant) (fresh : String) (event : Event) :
    foretell one now fresh event = foretell two now fresh event := by
  have living : living one now = living two now := by
    simp only [Store.living, same.numbered, same.lives]
  refine foretell_congr (fun answer => answer) (congrArg (·.getD true) same.switch) ?_
    (congrArg List.length living) event
  intro request
  by_cases list : request = .list
  · subst list
    simp only [outcomeOf, living]
  · rw [outcomeOf_alike same.toAlike request list]

/-- Histories that tell the same, but for indices of leases, foretell the same but for those. -/
theorem Alike.foretell (alike : Alike one two) (now : Instant) (fresh : String) (event : Event) :
    (foretell one now fresh event).unnumbered = (foretell two now fresh event).unnumbered := by
  have living := alike.living now
  refine foretell_congr Answer.unnumbered (congrArg (·.getD true) alike.switch) ?_
    (by simpa using congrArg List.length living) event
  intro request
  by_cases list : request = .list
  · subst list
    simp only [outcomeOf, Answer.unnumbered, living]
  · rw [outcomeOf_alike alike request list]

end

end Leasehold.Store
