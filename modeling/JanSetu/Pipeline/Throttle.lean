import JanSetu.Library.Process
import JanSetu.Library.Spacing
import Mathlib.Algebra.Order.Ring.Rat

/-!
# Global rate limiting

`reserve_slot` of `throttle.py` for one provider, one process for each call and
one step for each statement.  The `INSERT` waits while another open transaction
has inserted the row, the `SELECT ... FOR UPDATE` while another holds it.  Times
and intervals are exact.
-/

namespace JanSetu.Pipeline

open Process (Program)

abbrev Seconds := ℚ

/-- The row of the provider and who is at it.  `clock` is the last time that
`utc_now` has returned to anybody; `grants` is kept for the statements about
runs and read by no step. -/
structure RateLimit where
  nextAllowedAt : Option Seconds
  held : Bool
  clock : Seconds
  grants : List (Grant Seconds)

/-- Where a call stands.  `inserted` is the row that its own transaction has
inserted, if it has. -/
inductive ReserveSlot where
  | call (minInterval : Seconds)
  | insert (minInterval nextAllowedAt : Seconds)
  | select (minInterval : Seconds) (inserted : Option Seconds)
  | update (minInterval nextAllowedAt : Seconds)
  | commit (minInterval now slot : Seconds)

/-- `utc_now`, of a clock that does not go backwards. -/
def RateLimit.utcNow (limit : RateLimit) (now : Seconds) :
    Option RateLimit :=
  if now < limit.clock then none else some { limit with clock := now }

/-- The commit of the row, and the wait that the call returns. -/
def RateLimit.commit (limit : RateLimit) (minInterval now slot : Seconds) :
    RateLimit :=
  { limit with
    nextAllowedAt := some (slot + minInterval)
    held := false
    grants :=
      { now := now, slot := slot, interval := minInterval
        wait := max 0 (slot - now) } :: limit.grants }

def ReserveSlot.resume (limit : RateLimit) (call : ReserveSlot)
    (now : Seconds) : Option (RateLimit × Option ReserveSlot) :=
  match call with
  | .call minInterval =>
      (limit.utcNow now).map fun limit =>
        (limit, some (.insert minInterval now))
  | .insert minInterval nextAllowedAt =>
      match limit.nextAllowedAt with
      | some _ => some (limit, some (.select minInterval none))
      | none =>
          if limit.held then none
          else
            some ({ limit with held := true },
              some (.select minInterval (some nextAllowedAt)))
  | .select minInterval (some inserted) =>
      some (limit, some (.update minInterval inserted))
  | .select minInterval none =>
      match limit.nextAllowedAt with
      -- `scalar_one` raises.
      | none => some (limit, none)
      | some nextAllowedAt =>
          if limit.held then none
          else
            some ({ limit with held := true },
              some (.update minInterval nextAllowedAt))
  | .update minInterval nextAllowedAt =>
      (limit.utcNow now).map fun limit =>
        (limit, some (.commit minInterval now (max now nextAllowedAt)))
  | .commit minInterval now slot =>
      some (limit.commit minInterval now slot, none)

/-- The transaction has inserted the row or locked it. -/
def ReserveSlot.holds : ReserveSlot → Bool
  | .call _ => false
  | .insert _ _ => false
  | .select _ inserted => inserted.isSome
  | .update _ _ => true
  | .commit _ _ _ => true

/-- The rollback of a call that goes away. -/
def ReserveSlot.release (limit : RateLimit) (call : ReserveSlot) :
    RateLimit :=
  if call.holds then { limit with held := false } else limit

/-- The calls for a provider that has no row yet. -/
def throttle : Program RateLimit ReserveSlot Seconds Seconds :=
  { initial := fun limit =>
      limit.nextAllowedAt = none ∧ limit.held = false ∧ limit.grants = []
    start := .call
    resume := ReserveSlot.resume
    release := ReserveSlot.release }

/-! ## What a step does -/

section

variable {limit after : RateLimit} {call : ReserveSlot} {now : Seconds}
  {next : Option ReserveSlot}

theorem RateLimit.utcNow_eq_some (read : limit.utcNow now = some after) :
    limit.clock ≤ now ∧ after = { limit with clock := now } := by
  unfold utcNow at read
  split at read
  case isTrue => cases read
  case isFalse later => exact ⟨not_lt.mp later, (Option.some.inj read).symm⟩

/-- Everything a step of a call can be. -/
inductive ReserveSlot.Steps (limit : RateLimit) (now : Seconds) :
    ReserveSlot → RateLimit → Option ReserveSlot → Prop where
  | called {minInterval : Seconds} :
      limit.clock ≤ now →
      Steps limit now (.call minInterval) { limit with clock := now }
        (some (.insert minInterval now))
  | skipped {minInterval nextAllowedAt : Seconds} :
      Steps limit now (.insert minInterval nextAllowedAt) limit
        (some (.select minInterval none))
  | inserted {minInterval nextAllowedAt : Seconds} :
      limit.nextAllowedAt = none → limit.held = false →
      Steps limit now (.insert minInterval nextAllowedAt)
        { limit with held := true }
        (some (.select minInterval (some nextAllowedAt)))
  | kept {minInterval inserted : Seconds} :
      Steps limit now (.select minInterval (some inserted)) limit
        (some (.update minInterval inserted))
  | missed {minInterval : Seconds} :
      Steps limit now (.select minInterval none) limit none
  | locked {minInterval nextAllowedAt : Seconds} :
      limit.nextAllowedAt = some nextAllowedAt → limit.held = false →
      Steps limit now (.select minInterval none) { limit with held := true }
        (some (.update minInterval nextAllowedAt))
  | updated {minInterval nextAllowedAt : Seconds} :
      limit.clock ≤ now →
      Steps limit now (.update minInterval nextAllowedAt)
        { limit with clock := now }
        (some (.commit minInterval now (max now nextAllowedAt)))
  | committed {minInterval asked slot : Seconds} :
      Steps limit now (.commit minInterval asked slot)
        (limit.commit minInterval asked slot) none

theorem ReserveSlot.resume_cases
    (resumed : call.resume limit now = some (after, next)) :
    call.Steps limit now after next := by
  unfold ReserveSlot.resume at resumed
  split at resumed
  case h_1 minInterval =>
    obtain ⟨read, clock, same⟩ := Option.map_eq_some_iff.mp resumed
    cases same
    obtain ⟨later, rfl⟩ := RateLimit.utcNow_eq_some clock
    exact .called later
  case h_2 minInterval nextAllowedAt =>
    split at resumed
    case h_1 =>
      cases resumed
      exact .skipped
    case h_2 absent =>
      split at resumed
      case isTrue => cases resumed
      case isFalse free =>
        cases resumed
        exact .inserted absent (by simpa using free)
  case h_3 minInterval inserted =>
    cases resumed
    exact .kept
  case h_4 minInterval =>
    split at resumed
    case h_1 =>
      cases resumed
      exact .missed
    case h_2 nextAllowedAt found =>
      split at resumed
      case isTrue => cases resumed
      case isFalse free =>
        cases resumed
        exact .locked found (by simpa using free)
  case h_5 minInterval nextAllowedAt =>
    obtain ⟨read, clock, same⟩ := Option.map_eq_some_iff.mp resumed
    cases same
    obtain ⟨later, rfl⟩ := RateLimit.utcNow_eq_some clock
    exact .updated later
  case h_6 minInterval asked slot =>
    cases resumed
    exact .committed

end

/-! ## The stored time -/

/-- The time that a call has read under its lock, or is to insert, is what the
next slot must not be before. -/
def RateLimit.Reads (limit : RateLimit) (now nextAllowedAt : Seconds) : Prop :=
  limit.nextAllowedAt = some nextAllowedAt ∨
    limit.nextAllowedAt = none ∧ nextAllowedAt ≤ now

def ReserveSlot.Standing (limit : RateLimit) : ReserveSlot → Prop
  | .call _ => True
  | .insert _ nextAllowedAt => nextAllowedAt ≤ limit.clock
  | .select _ none => True
  | .select _ (some inserted) =>
      limit.held = true ∧ limit.nextAllowedAt = none ∧
        inserted ≤ limit.clock
  | .update _ nextAllowedAt =>
      limit.held = true ∧ limit.Reads limit.clock nextAllowedAt
  | .commit _ now slot =>
      limit.held = true ∧
        ∃ nextAllowedAt, slot = max now nextAllowedAt ∧
          limit.Reads now nextAllowedAt

/-- The grants are spaced and the row holds the end of the last interval; one
call at a time holds the row. -/
def spacing : Process.Invariant RateLimit ReserveSlot :=
  { shared := fun limit =>
      Grant.Spaced limit.grants ∧
        limit.nextAllowedAt = Grant.upcoming limit.grants
    own := fun limit call => call.Standing limit
    pair := fun left right => ¬ (left.holds = true ∧ right.holds = true) }

section

variable {limit after : RateLimit} {call other : ReserveSlot}
  {now later nextAllowedAt : Seconds} {next : Option ReserveSlot}

theorem RateLimit.Reads.mono (reads : limit.Reads now nextAllowedAt)
    (notBefore : now ≤ later) : limit.Reads later nextAllowedAt :=
  reads.imp id fun absent => ⟨absent.1, absent.2.trans notBefore⟩

theorem ReserveSlot.Standing.held (standing : call.Standing limit)
    (holds : call.holds = true) : limit.held = true := by
  cases call with
  | call => cases holds
  | insert => cases holds
  | select _ inserted =>
      cases inserted with
      | none => cases holds
      | some => exact standing.1
  | update => exact standing.1
  | commit => exact standing.1

/-- The clock may go on, and a row may be taken that nobody holds. -/
theorem ReserveSlot.Standing.mono (standing : call.Standing limit)
    (row : after.nextAllowedAt = limit.nextAllowedAt)
    (held : limit.held = true → after.held = true)
    (clock : limit.clock ≤ after.clock) : call.Standing after := by
  have reads : ∀ now nextAllowedAt, limit.Reads now nextAllowedAt →
      after.Reads now nextAllowedAt := by
    intro now nextAllowedAt before
    unfold RateLimit.Reads
    rw [row]
    exact before
  cases call with
  | call => trivial
  | insert => exact le_trans standing clock
  | select _ inserted =>
      cases inserted with
      | none => trivial
      | some =>
          obtain ⟨holding, absent, before⟩ := standing
          exact ⟨held holding, row.trans absent, before.trans clock⟩
  | update =>
      obtain ⟨holding, before⟩ := standing
      exact ⟨held holding, reads _ _ (before.mono clock)⟩
  | commit =>
      obtain ⟨holding, read, same, before⟩ := standing
      exact ⟨held holding, read, same, reads _ _ before⟩

/-- A call that holds nothing is not concerned with the row. -/
theorem ReserveSlot.Standing.idle (standing : call.Standing limit)
    (idle : call.holds = false) (clock : limit.clock ≤ after.clock) :
    call.Standing after := by
  cases call with
  | call => trivial
  | insert => exact le_trans standing clock
  | select _ inserted =>
      cases inserted with
      | none => trivial
      | some => cases idle
  | update => cases idle
  | commit => cases idle

/-- What a step does to the row, for the others. -/
theorem ReserveSlot.Steps.frame (steps : call.Steps limit now after next) :
    limit.clock ≤ after.clock ∧
      (call.holds = true ∨
        after.nextAllowedAt = limit.nextAllowedAt ∧
          (limit.held = true → after.held = true)) ∧
      (∀ further, next = some further → further.holds = true →
        call.holds = true ∨ limit.held = false) := by
  cases steps with
  | called notBefore =>
      exact ⟨notBefore, .inr ⟨rfl, id⟩, by rintro _ ⟨⟩ holds; cases holds⟩
  | skipped =>
      exact ⟨le_rfl, .inr ⟨rfl, id⟩, by rintro _ ⟨⟩ holds; cases holds⟩
  | inserted _ free =>
      exact ⟨le_rfl, .inr ⟨rfl, fun _ => rfl⟩, fun _ _ _ => .inr free⟩
  | kept => exact ⟨le_rfl, .inl rfl, fun _ _ _ => .inl rfl⟩
  | missed => exact ⟨le_rfl, .inr ⟨rfl, id⟩, by rintro _ ⟨⟩⟩
  | locked _ free =>
      exact ⟨le_rfl, .inr ⟨rfl, fun _ => rfl⟩, fun _ _ _ => .inr free⟩
  | updated notBefore => exact ⟨notBefore, .inl rfl, fun _ _ _ => .inl rfl⟩
  | committed => exact ⟨le_rfl, .inl rfl, by rintro _ ⟨⟩⟩

/-- Where a step leads, the call stands. -/
theorem ReserveSlot.Steps.arrives (steps : call.Steps limit now after next)
    (standing : call.Standing limit) :
    ∀ further, next = some further → further.Standing after := by
  cases steps with
  | called notBefore =>
      rintro _ ⟨⟩
      exact le_refl now
  | skipped =>
      rintro _ ⟨⟩
      trivial
  | inserted absent =>
      rintro _ ⟨⟩
      exact ⟨rfl, absent, standing⟩
  | kept =>
      rintro _ ⟨⟩
      exact ⟨standing.1, .inr standing.2⟩
  | missed => rintro _ ⟨⟩
  | locked found =>
      rintro _ ⟨⟩
      exact ⟨rfl, .inl found⟩
  | updated notBefore =>
      rintro _ ⟨⟩
      exact ⟨standing.1, _, rfl, standing.2.mono notBefore⟩
  | committed => rintro _ ⟨⟩

/-- A commit adds the grant that fits, and nothing else touches the row. -/
theorem ReserveSlot.Steps.spaced (steps : call.Steps limit now after next)
    (standing : call.Standing limit) (spaced : spacing.shared limit) :
    spacing.shared after := by
  obtain ⟨grants, row⟩ := spaced
  cases steps with
  | @committed minInterval asked slot =>
      obtain ⟨_, read, rfl, reads⟩ := standing
      have remembers : Grant.Remembers limit.grants asked read := by
        unfold RateLimit.Reads at reads
        rw [row] at reads
        exact reads
      exact ⟨.cons (Grant.reserve_fits remembers) grants, rfl⟩
  | _ => exact ⟨grants, row⟩

theorem idle_of_pair (apart : spacing.pair call other)
    (holds : call.holds = true) : other.holds = false := by
  cases also : other.holds with
  | false => rfl
  | true => exact absurd ⟨holds, also⟩ apart

theorem ReserveSlot.release_clock :
    (call.release limit).clock = limit.clock ∧
      (call.release limit).nextAllowedAt = limit.nextAllowedAt ∧
      (call.release limit).grants = limit.grants := by
  unfold ReserveSlot.release
  split <;> exact ⟨rfl, rfl, rfl⟩

end

/-! ## Runs -/

theorem spacing_holds {world : World RateLimit ReserveSlot}
    (reachable : throttle.system.Reachable world) :
    spacing.Holds world := by
  refine Process.Invariant.holds ?_ ?_ ?_ ?_ reachable
  · rintro limit ⟨absent, _, none⟩
    constructor
    · rw [none]
      exact .nil
    · rw [absent, none]
      rfl
  · intro world pid minInterval _ _ _
    refine ⟨trivial, fun other right _ _ => ⟨?_, ?_⟩⟩
    · rintro ⟨holds, _⟩
      cases holds
    · rintro ⟨_, holds⟩
      cases holds
  · intro world pid now call after next _ holding _ running resumed
    have steps := ReserveSlot.resume_cases resumed
    have standing := holding.2.1 pid call running
    obtain ⟨clock, row, took⟩ := steps.frame
    refine ⟨steps.spaced standing holding.1, ?_, ?_⟩
    · intro other right different runningOther
      have before := holding.2.1 other right runningOther
      rcases row with holds | ⟨same, held⟩
      · -- Only this call holds the row.
        have apart := holding.2.2 pid other call right (Ne.symm different)
          running runningOther
        exact before.idle (idle_of_pair apart holds) clock
      · exact before.mono same held clock
    · intro further arrived
      refine ⟨steps.arrives standing further arrived, ?_⟩
      intro other right different runningOther
      have apart : ¬ (further.holds = true ∧ right.holds = true) := by
        rintro ⟨holds, otherHolds⟩
        rcases took further arrived holds with mine | free
        · exact holding.2.2 pid other call right (Ne.symm different) running
            runningOther ⟨mine, otherHolds⟩
        · have held := (holding.2.1 other right runningOther).held otherHolds
          rw [free] at held
          cases held
      exact ⟨apart, fun both => apart ⟨both.2, both.1⟩⟩
  · intro world pid call _ holding _ running
    obtain ⟨clock, row, grants⟩ :=
      @ReserveSlot.release_clock world.shared call
    constructor
    · show Grant.Spaced (call.release world.shared).grants ∧
        (call.release world.shared).nextAllowedAt =
          Grant.upcoming (call.release world.shared).grants
      rw [row, grants]
      exact holding.1
    · intro other right different runningOther
      have before := holding.2.1 other right runningOther
      by_cases holds : call.holds = true
      · have apart := holding.2.2 pid other call right (Ne.symm different)
          running runningOther
        exact before.idle (idle_of_pair apart holds) clock.ge
      · apply before.mono row _ clock.ge
        show world.shared.held = true → (call.release world.shared).held = true
        unfold ReserveSlot.release
        rw [if_neg holds]
        exact id

/-- Every granted slot is the least time that is neither before the call's own
now nor before the end of the interval of the call before it, and the call
waits for it. -/
theorem slots_spaced {world : World RateLimit ReserveSlot}
    (reachable : throttle.system.Reachable world)
    {later earlier : List (Grant Seconds)} {grant : Grant Seconds}
    (granted : world.shared.grants = later ++ grant :: earlier) :
    grant.now ≤ grant.slot ∧
      (∀ previous ∈ earlier.head?,
        previous.slot + previous.interval ≤ grant.slot) ∧
      grant.wait = grant.slot - grant.now ∧
      ∀ time, grant.now ≤ time →
        (∀ previous ∈ earlier.head?,
          previous.slot + previous.interval ≤ time) →
        grant.slot ≤ time := by
  have spaced : Grant.Spaced world.shared.grants :=
    (spacing_holds reachable).1.1
  rw [granted] at spaced
  obtain ⟨⟨⟨notBefore, follows⟩, least⟩, wait⟩ := spaced.fits
  refine ⟨notBefore, follows, wait, ?_⟩
  intro time after next
  exact least ⟨after, next⟩

/-- Two calls find no row: the one that comes second to the insertion waits,
and its slot is after the interval of the first. -/
theorem slots_spaced_race :
    ∃ world first second, throttle.system.Reachable world ∧
      world.shared.grants = [second, first] ∧
      first.slot + first.interval ≤ second.slot ∧
      second.wait = second.slot - second.now ∧ second.wait = 1 := by
  have ran : (throttle.system.run
      (World.start
        { nextAllowedAt := none, held := false, clock := 0, grants := [] })
      [.spawn 0 2, .spawn 1 5, .resume 0 0, .resume 1 1, .resume 0 1,
        .resume 0 1, .resume 0 2, .resume 0 2, .resume 1 2, .resume 1 2,
        .resume 1 3, .resume 1 3]).map (·.shared.grants) =
      some [{ now := 3, slot := 4, interval := 5, wait := 1 },
        { now := 2, slot := 2, interval := 2, wait := 0 }] := by
    decide +kernel
  have starts : throttle.system.initial (World.start
      { nextAllowedAt := none, held := false, clock := 0, grants := [] }) :=
    ⟨_, ⟨rfl, rfl, rfl⟩, rfl⟩
  obtain ⟨world, reachable, granted⟩ :=
    Transition.System.reachable_of_run_map starts ran
  obtain ⟨_, follows, wait, _⟩ :=
    @slots_spaced _ reachable [] _ _ granted
  exact ⟨world, _, _, reachable, granted, follows _ rfl, wait, rfl⟩

end JanSetu.Pipeline
