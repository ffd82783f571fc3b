import Leasehold.Proofs.Command.Askers

/-! What became of the lease of a run. The requests that were made and those that are still asked for
tell it: first the lease is kept and locks are sought with it, then one request asks to give it up, and
then that request is made (`Account`). -/
namespace Leasehold.Command

/-- The id of a session's lease, empty if there is no session or no lease. -/
def leaseId (session : Option Session) : String := (session.map Session.id).getD ""

/-- There is a session, and its lease was given up. -/
def GivenUp (session : Option Session) : Prop :=
  ∃ known, session = some known ∧ known.lease.state = .destroyed

/-- Whether a request is made for a lease. -/
def needsLease (request : Backend.Request) : Bool := (Agent.leaseOf request).isSome

/-- A request renews a lease or seeks the lock with it. -/
def Uses (plan : HoldPlan) (id : String) (request : Backend.Request) : Prop :=
  request = .renew id ∨ request = .put plan.key plan.value id

/-- The requests that are asked for and need a lease. -/
def pressing (asked : List (Asker × Backend.Request)) : List (Asker × Backend.Request) :=
  asked.filter fun entry => needsLease entry.2

/-- What became of the leases of a run, by the requests that were made and those that are asked for. -/
inductive Account (plan : HoldPlan) (session : Option Session)
    (asked : List (Asker × Backend.Request)) (made : List Backend.Request) (leases : List String) :
    Prop where
  /-- The session has had no lease but the one that it has. -/
  | kept (had : ∀ id ∈ leases, id = "" ∨ id = leaseId session)
      (used : ∀ request ∈ made, needsLease request = true →
        leaseId session ≠ "" ∧ Uses plan (leaseId session) request)
      (uses : ∀ entry ∈ pressing asked,
        leaseId session ≠ "" ∧ Uses plan (leaseId session) entry.2) :
      Account plan session asked made leases
  /-- The request to give up the lease is asked for. -/
  | surrendered {id : String} (gone : GivenUp session) (had : ∀ other ∈ leases, other = "" ∨ other = id)
      (used : ∀ request ∈ made, needsLease request = true → Uses plan id request)
      (last : pressing asked = [(.task (.caller 0), .destroy id)]) :
      Account plan session asked made leases
  /-- The request to give up the lease was made. -/
  | returned {id : String} (gone : GivenUp session) (had : ∀ other ∈ leases, other = "" ∨ other = id)
      (last : made.filter needsLease = earlier ++ [.destroy id])
      (used : ∀ request ∈ earlier, Uses plan id request) (free : pressing asked = []) :
      Account plan session asked made leases

section
variable {plan : HoldPlan} {session : Option Session} {known next : Session}
variable {asked : List (Asker × Backend.Request)} {made : List Backend.Request} {leases : List String}
variable {event : Session.Event} {call : Option Manager.Call} {now : Instant} {id : String}
variable {asker : Asker} {request : Backend.Request}

theorem mem_pressing {entry : Asker × Backend.Request} :
    entry ∈ pressing asked ↔ entry ∈ asked ∧ needsLease entry.2 = true := List.mem_filter

theorem pressing_append (front back : List (Asker × Backend.Request)) :
    pressing (front ++ back) = pressing front ++ pressing back := List.filter_append front back

theorem pressing_filter (keeps : Asker × Backend.Request → Bool) :
    pressing (asked.filter keeps) = (pressing asked).filter keeps := by
  rw [pressing, pressing, List.filter_filter, List.filter_filter]
  exact List.filter_congr fun entry _ => Bool.and_comm _ _

/-- A lease that was given up is there no more. -/
theorem not_givenUp (live : known.lease.state ≠ .destroyed) : ¬ GivenUp (some known) := by
  rintro ⟨_, ⟨⟩, destroyed⟩
  exact live destroyed

namespace Account

/-- Requests that are withdrawn leave the account in order, but for the one that gives up the lease. -/
theorem thinned (account : Account plan session asked made leases)
    (keeps : Asker × Backend.Request → Bool)
    (spared : ∀ request, keeps (.task (.caller 0), request) = true) :
    Account plan session (asked.filter keeps) made leases := by
  cases account with
  | kept had used uses =>
    refine .kept had used fun entry member => ?_
    rw [pressing_filter] at member
    exact uses entry (List.mem_filter.mp member).1
  | surrendered gone had used last =>
    refine .surrendered gone had used ?_
    rw [pressing_filter, last, List.filter_cons_of_pos (spared _), List.filter_nil]
  | returned gone had last used free =>
    refine .returned gone had last used ?_
    rw [pressing_filter, free, List.filter_nil]

/-- Where there is no session, all that is asked for may be forgotten. -/
theorem forgets (account : Account plan session asked made leases) (without : session = none) :
    Account plan session [] made leases := by
  have never : ¬ GivenUp session := by
    rintro ⟨_, held, -⟩
    rw [without] at held
    cases held
  cases account with
  | kept had used => exact .kept had used nofun
  | surrendered gone | returned gone => exact absurd gone never

/-- A request for no lease leaves the account in order. -/
theorem asks_for_none (account : Account plan session asked made leases)
    (needless : needsLease request = false) :
    Account plan session (asked ++ [(asker, request)]) made leases := by
  have same : pressing (asked ++ [(asker, request)]) = pressing asked := by
    rw [pressing_append, pressing, pressing, List.filter_cons_of_neg (by simp [needless]),
      List.filter_nil, List.append_nil]
  cases account with
  | kept had used uses => exact .kept had used (same ▸ uses)
  | surrendered gone had used last => exact .surrendered gone had used (same ▸ last)
  | returned gone had last used free => exact .returned gone had last used (same ▸ free)

/-- A request that uses the lease of a session keeps the account in order. -/
theorem asks_for_lease (account : Account plan (some known) asked made leases)
    (live : known.lease.state ≠ .destroyed) (leased : known.lease.id ≠ "")
    (uses : Uses plan known.lease.id request) :
    Account plan (some known) (asked ++ [(asker, request)]) made leases := by
  cases account with
  | kept had used earlier =>
    refine .kept had used fun entry member => ?_
    rw [pressing_append] at member
    rcases List.mem_append.mp member with old | new
    · exact earlier entry old
    · obtain rfl := List.mem_singleton.mp (mem_pressing.mp new).1
      exact ⟨leased, uses⟩
  | surrendered gone | returned gone => exact absurd gone (not_givenUp live)

/-- A session without a lease may get one. -/
theorem gained (account : Account plan session asked made leases) (without : leaseId session = "")
    (live : ¬ GivenUp session) : Account plan (some next) asked made leases := by
  cases account with
  | kept had used uses =>
    refine .kept (fun id member => ?_) (fun request member needs => ?_) fun entry member => ?_
    · rcases had id member with none | same
      · exact .inl none
      · exact .inl (same.trans without)
    · exact absurd without (used request member needs).1
    · exact absurd without (uses entry member).1
  | surrendered gone | returned gone => exact absurd gone live

/-- A lease that stays keeps the account in order. -/
theorem stayed (account : Account plan (some known) asked made leases)
    (same : next.lease.id = known.lease.id)
    (destroyed : known.lease.state = .destroyed → next.lease.state = .destroyed) :
    Account plan (some next) asked made leases := by
  have lease : leaseId (some next) = leaseId (some known) := same
  have gone : GivenUp (some known) → GivenUp (some next) := by
    rintro ⟨_, ⟨⟩, earlier⟩
    exact ⟨next, rfl, destroyed earlier⟩
  cases account with
  | kept had used uses => exact .kept (lease ▸ had) (lease ▸ used) (lease ▸ uses)
  | surrendered earlier had used last => exact .surrendered (gone earlier) had used last
  | returned earlier had last used free => exact .returned (gone earlier) had last used free

/-- The lease is given up when nothing is asked for it any more. -/
theorem surrenders (account : Account plan (some known) asked made leases)
    (live : known.lease.state ≠ .destroyed) (destroyed : next.lease.state = .destroyed)
    (free : pressing asked = []) :
    Account plan (some next) (asked ++ [(.task (.caller 0), .destroy known.lease.id)]) made leases := by
  cases account with
  | kept had used uses =>
    refine .surrendered ⟨next, rfl, destroyed⟩ had (fun request member needs => ?_) ?_
    · exact (used request member needs).2
    · rw [pressing_append, free]
      rfl
  | surrendered gone | returned gone => exact absurd gone (not_givenUp live)

/-- A request that is made goes from those that are asked for to those that were made. -/
theorem makes {front back : List (Asker × Backend.Request)}
    (account : Account plan session (front ++ (asker, request) :: back) made leases) :
    Account plan session (front ++ back) (made ++ [request]) leases := by
  have parts : pressing (front ++ (asker, request) :: back) =
      pressing front ++ pressing [(asker, request)] ++ pressing back := by
    rw [← pressing_append, ← pressing_append, List.append_assoc]
    rfl
  cases needs : needsLease request with
  | false =>
    -- A request for no lease is not in the account.
    have none : pressing [(asker, request)] = [] := List.filter_cons_of_neg (by simp [needs])
    rw [none, List.append_nil, ← pressing_append] at parts
    have filtered : (made ++ [request]).filter needsLease = made.filter needsLease := by
      rw [List.filter_append, List.filter_cons_of_neg (by simp [needs]), List.filter_nil,
        List.append_nil]
    have member {other : Backend.Request} (there : other ∈ made ++ [request])
        (needed : needsLease other = true) : other ∈ made := by
      rcases List.mem_append.mp there with old | new
      · exact old
      · rw [List.mem_singleton.mp new, needs] at needed
        cases needed
    cases account with
    | kept had used uses =>
      exact .kept had (fun other there needed => used other (member there needed) needed)
        (parts ▸ uses)
    | surrendered gone had used last =>
      exact .surrendered gone had (fun other there needed => used other (member there needed) needed)
        (parts ▸ last)
    | returned gone had last used free =>
      exact .returned gone had (filtered.trans last) used (parts ▸ free)
  | true =>
    have own : pressing [(asker, request)] = [(asker, request)] := List.filter_cons_of_pos needs
    rw [own] at parts
    cases account with
    | kept had used uses =>
      rw [parts] at uses
      refine .kept had (fun other there needed => ?_) fun entry there => ?_
      · rcases List.mem_append.mp there with old | new
        · exact used other old needed
        · rw [List.mem_singleton.mp new]
          exact uses (asker, request) (by simp)
      · rw [pressing_append] at there
        apply uses entry
        rcases List.mem_append.mp there with front | back
        · simp [front]
        · simp [back]
    | surrendered gone had used last =>
      rw [parts, List.append_assoc] at last
      -- Nothing else is asked for that needs a lease, so the request gives up the lease.
      have sole := congrArg List.length last
      simp only [List.length_append, List.length_cons, List.length_nil] at sole
      have before : pressing front = [] := List.eq_nil_of_length_eq_zero (by omega)
      have after : pressing back = [] := List.eq_nil_of_length_eq_zero (by omega)
      rw [before, after] at last
      have issued : (made ++ [request]).filter needsLease =
          made.filter needsLease ++ [request] := by
        rw [List.filter_append, List.filter_cons_of_pos needs, List.filter_nil]
      cases last
      refine .returned gone had issued (fun other there => ?_) ?_
      · obtain ⟨member, needed⟩ := List.mem_filter.mp there
        exact used other member needed
      · rw [pressing_append, before, after, List.append_nil]
    | returned gone had last used free =>
      rw [parts] at free
      simp at free

/-- The lease at the moment belongs to the account. -/
theorem noted (account : Account plan session asked made leases)
    (without : GivenUp session → leaseId session = "") :
    Account plan session asked made (leaseId session :: leases) := by
  cases account with
  | kept had used uses =>
    exact .kept (List.forall_mem_cons.mpr ⟨.inr rfl, had⟩) used uses
  | surrendered gone had used last =>
    exact .surrendered gone (List.forall_mem_cons.mpr ⟨.inl (without gone), had⟩) used last
  | returned gone had last used free =>
    exact .returned gone (List.forall_mem_cons.mpr ⟨.inl (without gone), had⟩) last used free

/-- An event of the session keeps the account in order, if nothing is asked for the lease when it is
given up. -/
theorem happened {history : Session.History} (account : Account plan (some known) asked made leases)
    (lived : Session.Lived history known) (destroys : known.OnlyDestroys)
    (outcome : Session.Transition now known event next call)
    (free : ∀ index, event = .granted (.caller index) → index = 0 ∧ pressing asked = []) :
    Account plan (some next) (asked.filter (Hold.spares event) ++ Hold.adds event call) made leases := by
  have thin : Account plan (some known) (asked.filter (Hold.spares event)) made leases := by
    apply account.thinned
    intro request
    cases event <;> simp [Hold.spares]
  cases Session.upkeep_of_outcome lived destroys outcome with
  | stays same destroyed asks =>
    cases call with
    | none =>
      rw [Hold.adds_quiet, List.append_nil]
      exact thin.stayed same destroyed
    | some made =>
      obtain ⟨task, -, added⟩ := Hold.adds_called outcome
      obtain ⟨label, span, rfl⟩ := asks made rfl
      rw [added]
      exact (thin.asks_for_none rfl).stayed same destroyed
  | gains without live =>
    rw [Hold.adds_quiet, List.append_nil]
    exact thin.gained without (not_givenUp live)
  | renews leased live lease =>
    obtain ⟨task, -, added⟩ := Hold.adds_called outcome
    rw [added]
    refine (thin.asks_for_lease live leased (.inl rfl)).stayed ?_ ?_
    · rw [lease]
    · rw [lease]
      exact fun destroyed => destroyed
  | surrenders turn leased live id destroyed =>
    obtain ⟨rfl, none⟩ := free _ turn
    subst turn
    refine thin.surrenders live destroyed ?_
    rw [pressing_filter, none, List.filter_nil]

end Account

end

end Leasehold.Command
