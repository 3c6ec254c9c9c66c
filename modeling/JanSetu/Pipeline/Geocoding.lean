import Mathlib.Data.Rat.Floor
import JanSetu.Library.Component
import JanSetu.Library.WriteOnce
import JanSetu.Pipeline.Evidence
import JanSetu.Pipeline.Throttle

/-!
# The cache of the geocoder

`reverse_geocode_cached`, with any number of requests at once.  A request looks
its rounded position up, and for one that is not there reserves a slot of the
provider, sleeps until then, asks, and leaves the answer in the cache unless
another request has left one since.  Coordinates and times are exact.
-/

namespace JanSetu.Pipeline

open Evidence (GeocodeStatus ReverseGeocode reverse textColumn ofText)
open Process (Program)
open Python (Json Outcome)

namespace Geocoding

structure Settings where
  geocoderProvider : String
  geocoderLanguage : String
  geocoderMinIntervalSeconds : Seconds
deriving DecidableEq

/-- The primary key of `geocode_cache`; the coordinates are counts of 0.00001
degrees. -/
structure Key where
  provider : String
  latRound : Int
  lonRound : Int
  acceptLanguage : String
deriving DecidableEq

structure Row where
  status : GeocodeStatus
  displayAddress : Option String
deriving DecidableEq

def cachePrecision : Nat := 5

/-- `round(value, CACHE_PRECISION)`, which takes the even one of two that are
equally near. -/
def roundCoordinate (value : ℚ) : Int :=
  let scaled := value * 10 ^ cachePrecision
  let below := ⌊scaled⌋
  let rest := scaled - below
  if rest < 1 / 2 then below
  else if 1 / 2 < rest then below + 1
  else if below % 2 = 0 then below
  else below + 1

def Settings.key (settings : Settings) (lat lon : ℚ) : Key :=
  { provider := settings.geocoderProvider
    latRound := roundCoordinate lat
    lonRound := roundCoordinate lon
    acceptLanguage := settings.geocoderLanguage }

/-- A request to the provider: when it was made, the slot it was made for, and
what came of it. -/
structure ProviderCall where
  time : Seconds
  slot : Seconds
  lat : ℚ
  lon : ℚ
  outcome : Outcome

/-- What a request was answered. -/
structure Answer where
  lat : ℚ
  lon : ℚ
  displayAddress : Json

/-- `calls` and `answers`, with the last one first, are read by no step. -/
structure Store where
  limit : RateLimit
  cache : Table Key Row
  calls : List ProviderCall
  answers : List Answer

/-- Where a request stands.  A position may come without a longitude. -/
inductive Handler where
  | lookup (lat : ℚ) (lon : Option ℚ)
  | reserving (lat lon : ℚ) (call : ReserveSlot)
  | sleeping (lat lon : ℚ) (waking slot : Seconds)
  | caching (lat lon : ℚ) (result : ReverseGeocode)

/-- `clock` is the time that a step reads, `response` what comes of the request
to the provider at a time. -/
inductive Choice where
  | plain
  | clock (now : Seconds)
  | response (time : Seconds) (outcome : Outcome)

/-- The end of the wait, and the slot, of the call whose commit is next. -/
def wakes : ReserveSlot → Option (Seconds × Seconds)
  | .commit _ now slot => some (now + max 0 (slot - now), slot)
  | _ => none

def Store.answer (store : Store) (lat lon : ℚ) (displayAddress : Json) :
    Store :=
  { store with
    answers :=
      { lat := lat, lon := lon, displayAddress := displayAddress } ::
        store.answers }

/-- The request to the provider, once awake. -/
def Store.ask (store : Store) (lat lon : ℚ) (time slot : Seconds)
    (outcome : Outcome) : Store × Option Handler :=
  let called :=
    { store with
      calls :=
        { time := time, slot := slot, lat := lat, lon := lon
          outcome := outcome } :: store.calls }
  match reverse outcome with
  | .error _ => (called, none)
  | .ok result =>
      if result.status = .failed then
        (called.answer lat lon result.displayAddress, none)
      else (called, some (.caching lat lon result))

/-- An exception ends a request as a crash does, with a rollback. -/
def Handler.resume (settings : Settings) (store : Store) (handler : Handler)
    (choice : Choice) : Option (Store × Option Handler) :=
  match handler, choice with
  -- A position without a longitude cannot be rounded.
  | .lookup _ none, .plain => some (store, none)
  | .lookup lat (some lon), .plain =>
      match store.cache.find (settings.key lat lon) with
      | some row =>
          some (store.answer lat lon (ofText row.displayAddress), none)
      | none =>
          some (store, some (.reserving lat lon
            (.call settings.geocoderMinIntervalSeconds)))
  | .reserving lat lon call, .clock now =>
      match call.resume store.limit now with
      | none => none
      | some (limit, some next) =>
          some ({ store with limit := limit }, some (.reserving lat lon next))
      | some (limit, none) =>
          some ({ store with limit := limit },
            (wakes call).map fun wake => .sleeping lat lon wake.1 wake.2)
  | .sleeping lat lon waking slot, .response time outcome =>
      if time < waking then none
      else some (store.ask lat lon time slot outcome)
  | .caching lat lon result, .plain =>
      match textColumn none result.displayAddress with
      | .error _ => some (store, none)
      | .ok displayAddress =>
          some
            ({ store.answer lat lon result.displayAddress with
                cache := store.cache.putNew (settings.key lat lon)
                  { status := result.status
                    displayAddress := displayAddress } }, none)
  | _, _ => none

/-- The transaction of a request that goes away. -/
def Handler.release (store : Store) : Handler → Store
  | .reserving _ _ call => { store with limit := call.release store.limit }
  | _ => store

end Geocoding

open Geocoding in
/-- Runs start with no cache and no row of the provider. -/
def geocoding (settings : Geocoding.Settings) :
    Program Geocoding.Store Geocoding.Handler (ℚ × Option ℚ)
      Geocoding.Choice :=
  { initial := fun store =>
      throttle.initial store.limit ∧ store.cache = .empty ∧
        store.calls = [] ∧ store.answers = []
    start := fun position => .lookup position.1 position.2
    resume := Handler.resume settings
    release := Handler.release }

namespace Geocoding

variable {settings : Settings} {store after : Store} {handler : Handler}
  {choice : Choice} {next : Option Handler}

/-! ## What a step does -/

/-- What the provider has answered to a call. -/
def ProviderCall.Tells (call : ProviderCall) (result : ReverseGeocode) : Prop :=
  reverse call.outcome = .ok result

/-- What comes of the request to the provider. -/
inductive Asked (store : Store) (lat lon : ℚ) (call : ProviderCall) :
    Store → Option Handler → Prop where
  | raised : Asked store lat lon call
      { store with calls := call :: store.calls } none
  | failed {result : ReverseGeocode} :
      call.Tells result →
      Asked store lat lon call
        (Store.answer { store with calls := call :: store.calls } lat lon
          result.displayAddress) none
  | told {result : ReverseGeocode} :
      call.Tells result → result.status ≠ .failed →
      Asked store lat lon call
        { store with calls := call :: store.calls }
        (some (.caching lat lon result))

theorem Store.ask_asked (store : Store) (lat lon : ℚ) (time slot : Seconds)
    (outcome : Outcome) :
    Asked store lat lon
      { time := time, slot := slot, lat := lat, lon := lon, outcome := outcome }
      (store.ask lat lon time slot outcome).1
      (store.ask lat lon time slot outcome).2 := by
  unfold Store.ask
  dsimp only
  split
  case h_1 => exact .raised
  case h_2 told =>
    split
    case isTrue => exact .failed told
    case isFalse good => exact .told told good

/-- Everything a step can be. -/
inductive Handler.Moves (settings : Settings) (store : Store) :
    Handler → Store → Option Handler → Prop where
  | ends {handler : Handler} :
      (∀ lat lon call, handler ≠ .reserving lat lon call) →
      Moves settings store handler store none
  | hits {lat lon : ℚ} {row : Row} :
      store.cache.find (settings.key lat lon) = some row →
      Moves settings store (.lookup lat (some lon))
        (store.answer lat lon (ofText row.displayAddress)) none
  | misses {lat lon : ℚ} :
      store.cache.find (settings.key lat lon) = none →
      Moves settings store (.lookup lat (some lon)) store
        (some (.reserving lat lon (.call settings.geocoderMinIntervalSeconds)))
  | reserves {lat lon : ℚ} {call : ReserveSlot} {now : Seconds}
      {limit : RateLimit} {further : Option ReserveSlot}
      {next : Option Handler} :
      call.resume store.limit now = some (limit, further) →
      (∀ later, further = some later →
        next = some (.reserving lat lon later)) →
      (further = none →
        next = (wakes call).map fun wake => .sleeping lat lon wake.1 wake.2) →
      Moves settings store (.reserving lat lon call)
        { store with limit := limit } next
  | asks {lat lon : ℚ} {waking slot time : Seconds} {outcome : Outcome}
      {after : Store} {next : Option Handler} :
      waking ≤ time →
      Asked store lat lon
        { time := time, slot := slot, lat := lat, lon := lon
          outcome := outcome } after next →
      Moves settings store (.sleeping lat lon waking slot) after next
  | caches {lat lon : ℚ} {result : ReverseGeocode}
      {displayAddress : Option String} :
      textColumn none result.displayAddress = .ok displayAddress →
      Moves settings store (.caching lat lon result)
        { store.answer lat lon result.displayAddress with
          cache := store.cache.putNew (settings.key lat lon)
            { status := result.status, displayAddress := displayAddress } }
        none

theorem Handler.resume_moves
    (resumed : handler.resume settings store choice = some (after, next)) :
    handler.Moves settings store after next := by
  unfold Handler.resume at resumed
  split at resumed
  case h_1 =>
    cases resumed
    exact .ends fun _ _ _ is => by cases is
  case h_2 =>
    split at resumed
    case h_1 found =>
      cases resumed
      exact .hits found
    case h_2 absent =>
      cases resumed
      exact .misses absent
  case h_3 =>
    split at resumed
    case h_1 => cases resumed
    case h_2 stepped =>
      cases resumed
      exact .reserves stepped (fun _ is => by cases is; rfl) fun is => by
        cases is
    case h_3 stepped =>
      cases resumed
      exact .reserves stepped (fun _ is => by cases is) fun _ => rfl
  case h_4 lat lon waking slot time outcome =>
    split at resumed
    case isTrue => cases resumed
    case isFalse awake =>
      have asked := store.ask_asked lat lon time slot outcome
      rw [Option.some.inj resumed] at asked
      exact .asks (not_lt.mp awake) asked
  case h_5 =>
    split at resumed
    case h_1 =>
      cases resumed
      exact .ends fun _ _ _ is => by cases is
    case h_2 fits =>
      cases resumed
      exact .caches fits
  case h_6 => cases resumed

theorem Handler.release_same (handler : Handler) (store : Store) :
    (handler.release store).cache = store.cache ∧
      (handler.release store).answers = store.answers ∧
      (handler.release store).calls = store.calls := by
  cases handler <;> exact ⟨rfl, rfl, rfl⟩

/-! ## The throttle within -/

def within : Handler → Option ReserveSlot
  | .reserving _ _ call => some call
  | _ => none

/-- The requests run the throttle. -/
def throttled (settings : Settings) :
    Process.Component (geocoding settings) throttle where
  inner := Store.limit
  within := within
  initially := fun _ initial => initial.1
  starts := fun _ => rfl
  outside := by
    intro store handler choice after next resumed outside
    cases Handler.resume_moves resumed with
    | ends => exact ⟨rfl, .inl rfl⟩
    | hits => exact ⟨rfl, .inl rfl⟩
    | misses => exact ⟨rfl, .inr ⟨_, rfl⟩⟩
    | reserves => cases outside
    | asks _ asked => cases asked <;> exact ⟨rfl, .inl rfl⟩
    | caches => exact ⟨rfl, .inl rfl⟩
  inside := by
    intro store handler choice after next held resumed inside
    cases Handler.resume_moves resumed with
    | ends other =>
        cases handler with
        | reserving lat lon call => exact absurd rfl (other lat lon call)
        | lookup => cases inside
        | sleeping => cases inside
        | caching => cases inside
    | hits => cases inside
    | misses => cases inside
    | @reserves lat lon call now limit further _ stepped goes wakes =>
        cases inside
        have seen : next.bind within = further := by
          cases further with
          | some later =>
              rw [goes later rfl]
              rfl
          | none =>
              rw [wakes rfl]
              cases Geocoding.wakes held <;> rfl
        refine ⟨now, ?_⟩
        rw [seen]
        exact stepped
    | asks => cases inside
    | caches => cases inside
  releases := by
    intro store handler
    cases handler <;> rfl

/-! ## Where the answers come from -/

/-- The row is what the provider has answered for a position of its key. -/
def Row.From (settings : Settings) (calls : List ProviderCall) (key : Key)
    (row : Row) : Prop :=
  ∃ call ∈ calls, settings.key call.lat call.lon = key ∧
    ∃ result, call.Tells result ∧ result.status ≠ .failed ∧
      row.status = result.status ∧
      ofText row.displayAddress = result.displayAddress

/-- The answer is what the provider has answered for a position of the same
key. -/
def Answer.From (settings : Settings) (calls : List ProviderCall)
    (answer : Answer) : Prop :=
  ∃ call ∈ calls,
    settings.key call.lat call.lon = settings.key answer.lat answer.lon ∧
    ∃ result, call.Tells result ∧
      answer.displayAddress = result.displayAddress

structure Store.Grounded (settings : Settings) (store : Store) : Prop where
  rows : ∀ key row, store.cache.find key = some row →
    row.From settings store.calls key
  answers : ∀ answer ∈ store.answers, answer.From settings store.calls

/-- The result that is about to be cached is of the request's own call. -/
def Handler.Heard (store : Store) : Handler → Prop
  | .caching lat lon result =>
      ∃ call ∈ store.calls, call.lat = lat ∧ call.lon = lon ∧
        call.Tells result ∧ result.status ≠ .failed
  | _ => True

def grounding (settings : Settings) : Process.Invariant Store Handler :=
  { shared := fun store => store.Grounded settings
    own := fun store handler => handler.Heard store
    pair := fun _ _ => True }

theorem ofText_textColumn {json : Json} {text : Option String}
    (fits : textColumn none json = .ok text) : ofText text = json := by
  unfold textColumn at fits
  split at fits
  · cases fits
    rfl
  · cases fits
    rfl
  · cases fits

theorem Row.From.later {calls more : List ProviderCall} {key : Key} {row : Row}
    (grounded : row.From settings calls key) (grows : calls ⊆ more) :
    row.From settings more key := by
  obtain ⟨call, member, told⟩ := grounded
  exact ⟨call, grows member, told⟩

theorem Answer.From.later {calls more : List ProviderCall} {answer : Answer}
    (grounded : answer.From settings calls) (grows : calls ⊆ more) :
    answer.From settings more := by
  obtain ⟨call, member, told⟩ := grounded
  exact ⟨call, grows member, told⟩

theorem Handler.Heard.later (heard : handler.Heard store)
    (grows : store.calls ⊆ after.calls) : handler.Heard after := by
  cases handler with
  | caching lat lon result =>
      obtain ⟨call, member, told⟩ := heard
      exact ⟨call, grows member, told⟩
  | lookup => trivial
  | reserving => trivial
  | sleeping => trivial

theorem Handler.Moves.calls_subset
    (moves : handler.Moves settings store after next) :
    store.calls ⊆ after.calls := by
  cases moves with
  | ends => exact List.Subset.refl _
  | hits => exact List.Subset.refl _
  | misses => exact List.Subset.refl _
  | reserves => exact List.Subset.refl _
  | asks _ asked =>
      cases asked with
      | raised => exact List.subset_cons_self _ _
      | failed => exact List.subset_cons_self _ _
      | told => exact List.subset_cons_self _ _
  | caches => exact List.Subset.refl _

/-- A store whose calls have grown, with the same rows and answers. -/
theorem Store.Grounded.later (grounded : store.Grounded settings)
    (cache : after.cache = store.cache)
    (answers : after.answers = store.answers)
    (grows : store.calls ⊆ after.calls) : after.Grounded settings := by
  constructor
  · rw [cache]
    exact fun key row found => (grounded.rows key row found).later grows
  · rw [answers]
    exact fun answer member => (grounded.answers answer member).later grows

theorem Store.Grounded.answered {lat lon : ℚ} {displayAddress : Json}
    (grounded : store.Grounded settings)
    (told : Answer.From settings store.calls
      { lat := lat, lon := lon, displayAddress := displayAddress }) :
    (store.answer lat lon displayAddress).Grounded settings := by
  refine ⟨grounded.rows, ?_⟩
  intro answer member
  rcases List.mem_cons.mp member with rfl | earlier
  · exact told
  · exact grounded.answers answer earlier

theorem Handler.Moves.grounded
    (moves : handler.Moves settings store after next)
    (heard : handler.Heard store) (grounded : store.Grounded settings) :
    after.Grounded settings := by
  cases moves with
  | ends => exact grounded
  | @hits lat lon row found =>
      apply grounded.answered
      obtain ⟨call, member, same, result, tells, _, _, address⟩ :=
        grounded.rows _ _ found
      exact ⟨call, member, same, result, tells, address⟩
  | misses => exact grounded
  | reserves => exact grounded.later rfl rfl (List.Subset.refl _)
  | @asks lat lon waking slot time outcome _ _ _ asked =>
      cases asked with
      | raised => exact grounded.later rfl rfl (List.subset_cons_self _ _)
      | told => exact grounded.later rfl rfl (List.subset_cons_self _ _)
      | failed tells =>
          apply Store.Grounded.answered
          · exact grounded.later rfl rfl (List.subset_cons_self _ _)
          · exact ⟨_, List.mem_cons_self, rfl, _, tells, rfl⟩
  | @caches lat lon result displayAddress fits =>
      obtain ⟨call, member, sameLat, sameLon, tells, good⟩ := heard
      have same : settings.key call.lat call.lon = settings.key lat lon := by
        rw [sameLat, sameLon]
      have answered : (store.answer lat lon result.displayAddress).Grounded
          settings :=
        grounded.answered ⟨call, member, same, result, tells, rfl⟩
      refine ⟨?_, answered.answers⟩
      intro key row found
      rcases Table.find_putNew found with before | ⟨rfl, rfl⟩
      · exact grounded.rows key row before
      · exact ⟨call, member, same, result, tells, good, rfl,
          ofText_textColumn fits⟩

theorem Handler.Moves.heard {later : Handler}
    (moves : handler.Moves settings store after (some later)) :
    later.Heard after := by
  cases moves with
  | misses => trivial
  | @reserves lat lon call now limit further _ _ goes wakes =>
      cases further with
      | some call =>
          cases goes call rfl
          trivial
      | none =>
          obtain ⟨wake, _, rfl⟩ := Option.map_eq_some_iff.mp (wakes rfl).symm
          trivial
  | asks _ asked =>
      cases asked with
      | told tells good => exact ⟨_, List.mem_cons_self, rfl, rfl, tells, good⟩

theorem grounding_holds {world : World Store Handler}
    (reachable : (geocoding settings).system.Reachable world) :
    (grounding settings).Holds world := by
  refine Process.Invariant.holds ?_ ?_ ?_ ?_ reachable
  · rintro store ⟨_, cache, _, answers⟩
    constructor
    · intro key row found
      rw [cache, Table.find_empty] at found
      cases found
    · intro answer member
      rw [answers] at member
      cases member
  · intro world pid position _ _ _
    exact ⟨trivial, fun _ _ _ _ => ⟨trivial, trivial⟩⟩
  · intro world pid choice handler after next _ holding _ running resumed
    obtain ⟨grounded, own, _⟩ := holding
    have moves := Handler.resume_moves resumed
    refine ⟨moves.grounded (own pid handler running) grounded, ?_, ?_⟩
    · intro other found _ runningOther
      exact (own other found runningOther).later moves.calls_subset
    · intro later is
      subst is
      exact ⟨moves.heard, fun _ _ _ _ => ⟨trivial, trivial⟩⟩
  · intro world pid handler _ holding _ _
    obtain ⟨grounded, own, _⟩ := holding
    obtain ⟨cache, answers, calls⟩ := handler.release_same world.shared
    have grows : world.shared.calls ⊆ (handler.release world.shared).calls :=
      calls ▸ List.Subset.refl _
    exact ⟨grounded.later cache answers grows,
      fun other found _ runningOther =>
        (own other found runningOther).later grows⟩

theorem abs_roundCoordinate (value : ℚ) :
    |value * 10 ^ cachePrecision - roundCoordinate value| ≤ 1 / 2 := by
  have lower := Int.floor_le (value * 10 ^ cachePrecision)
  have upper := Int.lt_floor_add_one (value * 10 ^ cachePrecision)
  unfold roundCoordinate
  dsimp only
  rw [abs_le]
  split
  case isTrue near => constructor <;> linarith
  case isFalse far =>
    split
    case isTrue => push_cast; constructor <;> linarith
    case isFalse near =>
      split
      · constructor <;> linarith
      · push_cast
        constructor <;> linarith

/-- Positions of one key are near each other. -/
theorem near_of_round {one two : ℚ}
    (same : roundCoordinate one = roundCoordinate two) :
    |one - two| ≤ 1 / 10 ^ cachePrecision := by
  have first := abs_le.mp (abs_roundCoordinate one)
  have second := abs_le.mp (abs_roundCoordinate two)
  rw [same] at first
  unfold cachePrecision at *
  rw [abs_le]
  constructor <;> linarith

/-- Every answer is what the provider has answered, once, for a position that
is no more than the precision of the cache away, and no failure is cached. -/
theorem geocode_answers_true {world : World Store Handler}
    (reachable : (geocoding settings).system.Reachable world) :
    (∀ answer ∈ world.shared.answers, ∃ call ∈ world.shared.calls,
      |call.lat - answer.lat| ≤ 1 / 10 ^ cachePrecision ∧
      |call.lon - answer.lon| ≤ 1 / 10 ^ cachePrecision ∧
      ∃ result, reverse call.outcome = .ok result ∧
        answer.displayAddress = result.displayAddress) ∧
    ∀ key row, world.shared.cache.find key = some row →
      row.status ≠ .failed := by
  have grounded := (grounding_holds reachable).1
  constructor
  · intro answer member
    obtain ⟨call, called, same, told⟩ := grounded.answers answer member
    obtain ⟨_, lat, lon, _⟩ := Key.mk.inj same
    exact ⟨call, called, near_of_round lat, near_of_round lon, told⟩
  · intro key row found
    obtain ⟨_, _, _, result, _, good, same, _⟩ := grounded.rows key row found
    rw [same]
    exact good

def defaultSettings : Settings :=
  { geocoderProvider := "nominatim", geocoderLanguage := "hi,en"
    geocoderMinIntervalSeconds := 1 }

def unasked : Store :=
  { limit := { nextAllowedAt := none, held := false, clock := 0, grants := [] }
    cache := .empty
    calls := []
    answers := [] }

theorem unasked_initial :
    (geocoding settings).initial unasked :=
  ⟨⟨rfl, rfl, rfl⟩, rfl, rfl, rfl⟩

/-- A response with an address. -/
def addressed (displayName : String) : Outcome :=
  .answered
    { status := 200
      body := .value (.object [("display_name", .string displayName)])
      content := [] }

/-- The labels of a request that misses, from its lookup until it is awake. -/
def missing (pid : Nat) (now : Seconds) :
    List (Process.Label (ℚ × Option ℚ) Choice) :=
  .resume pid .plain :: List.replicate 5 (.resume pid (.clock now))

/-- Two citizens stand at one place and a third is near: the second to leave
its answer does not replace the first. -/
theorem geocode_answers_true_race :
    ∃ world, (geocoding defaultSettings).system.Reachable world ∧
      world.shared.answers.map (·.lat) = [28000001 / 1000000, 28, 28] ∧
      world.shared.calls.length = 2 ∧
      (∀ answer ∈ world.shared.answers, ∃ call ∈ world.shared.calls,
        |call.lat - answer.lat| ≤ 1 / 10 ^ cachePrecision ∧
        |call.lon - answer.lon| ≤ 1 / 10 ^ cachePrecision ∧
        ∃ result, reverse call.outcome = .ok result ∧
          answer.displayAddress = result.displayAddress) ∧
      ∀ key row, world.shared.cache.find key = some row →
        row.status ≠ .failed := by
  have ran : ((geocoding defaultSettings).system.run
      (World.start unasked)
      ([.spawn 0 (28, some 77), .spawn 1 (28, some 77)] ++ missing 0 2 ++
        missing 1 3 ++
        [.resume 1 (.response 4 (addressed "Ward 12")),
         .resume 0 (.response 5 (addressed "Ward 13")),
         .resume 1 .plain, .resume 0 .plain,
         .spawn 2 (28000001 / 1000000, some 77), .resume 2 .plain])).map
        (fun world => (world.shared.answers.map (·.lat),
          world.shared.calls.length)) =
      some ([28000001 / 1000000, 28, 28], 2) := by
    decide +kernel
  have starts : (geocoding defaultSettings).system.initial
      (World.start unasked) := ⟨_, unasked_initial, rfl⟩
  obtain ⟨world, reachable, observed⟩ :=
    Transition.System.reachable_of_run_map starts ran
  rw [Prod.mk.injEq] at observed
  exact ⟨world, reachable, observed.1, observed.2,
    geocode_answers_true reachable⟩

end Geocoding

end JanSetu.Pipeline
