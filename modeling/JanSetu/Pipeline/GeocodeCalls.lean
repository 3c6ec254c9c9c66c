import JanSetu.Pipeline.Geocoding

/-!
# The requests to the geocoder

The provider is asked no more about a position that is known, and no more often
than its interval allows, whoever asks.
-/

namespace JanSetu.Pipeline

open Evidence (ReverseGeocode reverse textColumn ofText)
open Process (Program)
open Python (Json Outcome)

namespace Geocoding

variable {settings : Settings} {store after : Store} {handler : Handler}
  {choice : Choice} {next : Option Handler}

/-! ## A position that is known -/

/-- The request has not found the key. -/
def Handler.Missed (settings : Settings) (key : Key) : Handler → Prop
  | .lookup _ _ => False
  | .reserving lat lon _ => settings.key lat lon = key
  | .sleeping lat lon _ _ => settings.key lat lon = key
  | .caching lat lon _ => settings.key lat lon = key

/-- The key has a row, and the requests that had not found it are done. -/
structure Known (settings : Settings) (key : Key) (row : Row)
    (world : World Store Handler) : Prop where
  found : world.shared.cache.find key = some row
  none : ∀ pid handler, world.Running pid handler →
    ¬ handler.Missed settings key

/-- The provider has not been asked about the key, and who has asked for it has
been answered with the row. -/
def Served (settings : Settings) (key : Key) (row : Row)
    (store after : Store) : Prop :=
  ∃ calls answers, after.calls = calls ++ store.calls ∧
    after.answers = answers ++ store.answers ∧
    (∀ call ∈ calls, settings.key call.lat call.lon ≠ key) ∧
    ∀ answer ∈ answers, settings.key answer.lat answer.lon = key →
      answer.displayAddress = ofText row.displayAddress

section

variable {key : Key} {row : Row}

theorem Served.of_same (calls : after.calls = store.calls)
    (answers : after.answers = store.answers) :
    Served settings key row store after := by
  refine ⟨[], [], calls, answers, ?_, ?_⟩
  · intro call member
    cases member
  · intro answer member
    cases member

theorem Served.trans {later : Store}
    (first : Served settings key row store after)
    (second : Served settings key row after later) :
    Served settings key row store later := by
  obtain ⟨calls, answers, called, answered, unasked, told⟩ := first
  obtain ⟨moreCalls, moreAnswers, calledLater, answeredLater, unaskedLater,
    toldLater⟩ := second
  refine ⟨moreCalls ++ calls, moreAnswers ++ answers, ?_, ?_, ?_, ?_⟩
  · rw [calledLater, called, List.append_assoc]
  · rw [answeredLater, answered, List.append_assoc]
  · intro call member
    rcases List.mem_append.mp member with newer | older
    · exact unaskedLater call newer
    · exact unasked call older
  · intro answer member same
    rcases List.mem_append.mp member with newer | older
    · exact toldLater answer newer same
    · exact told answer older same

/-- An answer about another key, or with the row. -/
theorem Served.answer {lat lon : ℚ} {displayAddress : Json}
    (told : settings.key lat lon = key →
      displayAddress = ofText row.displayAddress) :
    Served settings key row store (store.answer lat lon displayAddress) := by
  refine ⟨[], [_], rfl, rfl, ?_, ?_⟩
  · intro call member
    cases member
  · intro answer member
    cases List.mem_singleton.mp member
    exact told

/-- A request to the provider about another key. -/
theorem Served.asked {lat lon : ℚ} {call : ProviderCall}
    (asked : Asked store lat lon call after next) (sameLat : call.lat = lat)
    (sameLon : call.lon = lon) (other : settings.key lat lon ≠ key) :
    Served settings key row store after := by
  have unasked : ∀ made ∈ [call], settings.key made.lat made.lon ≠ key := by
    intro made member
    cases List.mem_singleton.mp member
    rw [sameLat, sameLon]
    exact other
  have called : Served settings key row store
      { store with calls := call :: store.calls } :=
    ⟨[call], [], rfl, rfl, unasked, fun _ member => by cases member⟩
  cases asked with
  | raised => exact called
  | failed => exact called.trans (.answer fun same => absurd same other)
  | told => exact called

theorem Handler.Moves.served
    (moves : handler.Moves settings store after next)
    (found : store.cache.find key = some row)
    (missed : ¬ handler.Missed settings key) :
    Served settings key row store after ∧
      after.cache.find key = some row ∧
      ∀ later, next = some later → ¬ later.Missed settings key := by
  cases moves with
  | ends => exact ⟨.of_same rfl rfl, found, by intro later is; cases is⟩
  | hits is =>
      refine ⟨.answer ?_, found, by intro later is; cases is⟩
      intro same
      rw [same, found] at is
      cases is
      rfl
  | misses absent =>
      refine ⟨.of_same rfl rfl, found, ?_⟩
      rintro later ⟨⟩ same
      have sameKey : settings.key _ _ = key := same
      rw [sameKey, found] at absent
      cases absent
  | @reserves lat lon call now limit further _ _ goes wakes =>
      refine ⟨.of_same rfl rfl, found, ?_⟩
      intro later is
      cases further with
      | some call =>
          cases (goes call rfl).symm.trans is
          exact missed
      | none =>
          obtain ⟨wake, _, rfl⟩ :=
            Option.map_eq_some_iff.mp ((wakes rfl).symm.trans is)
          exact missed
  | asks _ asked =>
      refine ⟨.asked asked rfl rfl missed, ?_, ?_⟩
      · cases asked <;> exact found
      · intro later is
        cases asked with
        | raised => cases is
        | failed => cases is
        | told =>
            cases is
            exact missed
  | @caches lat lon result displayAddress _ =>
      refine ⟨?_, ?_, by intro later is; cases is⟩
      · have answered : Served settings key row store
            (store.answer lat lon result.displayAddress) :=
          .answer fun same => absurd same missed
        exact answered.trans (.of_same rfl rfl)
      · exact Table.putNew_extends _ _ _ key row found

theorem Known.put {world : World Store Handler} {shared : Store} {pid : Nat}
    {process : Option Handler} (known : Known settings key row world)
    (found : shared.cache.find key = some row)
    (missed : ∀ handler, process = some handler →
      ¬ handler.Missed settings key) :
    Known settings key row (world.put shared pid process) := by
  refine ⟨found, ?_⟩
  intro other handler running
  rcases World.running_put.mp running with ⟨_, is⟩ | ⟨_, before⟩
  · exact missed handler is
  · exact known.none other handler before

theorem Known.step {world next : World Store Handler}
    {label : Process.Label (ℚ × Option ℚ) Choice}
    (known : Known settings key row world)
    (taken : (geocoding settings).step world label = some next) :
    Known settings key row next ∧
      Served settings key row world.shared next.shared := by
  rcases Process.Program.step_cases taken with
    ⟨pid, position, rfl, _, rfl⟩ |
    ⟨pid, choice, handler, after, following, rfl, running, resumed, rfl⟩ |
    ⟨pid, handler, rfl, running, rfl⟩
  · refine ⟨known.put known.found ?_, .of_same rfl rfl⟩
    rintro handler ⟨⟩ missed
    exact missed
  · obtain ⟨served, found, missed⟩ := (Handler.resume_moves resumed).served
      known.found (known.none pid handler running)
    exact ⟨known.put found missed, served⟩
  · obtain ⟨cache, answers, calls⟩ := handler.release_same world.shared
    refine ⟨known.put ?_ (fun _ is => by cases is), .of_same calls answers⟩
    show (handler.release world.shared).cache.find key = some row
    rw [cache]
    exact known.found

/-- Once a position is known, and the requests that had missed it are done, the
provider is never asked for it again, and every request for it is answered with
the same row. -/
theorem geocode_asked_once_known {world final : World Store Handler}
    {labels : List (Process.Label (ℚ × Option ℚ) Choice)}
    (known : Known settings key row world)
    (runs : (geocoding settings).system.RunWhen Transition.System.Always world
      labels final) :
    Known settings key row final ∧
      Served settings key row world.shared final.shared := by
  induction runs with
  | nil => exact ⟨known, .of_same rfl rfl⟩
  | cons _ taken _ induction =>
      obtain ⟨still, served⟩ := known.step taken
      obtain ⟨last, rest⟩ := induction still
      exact ⟨last, served.trans rest⟩

end

/-- A citizen asks for the place of another. -/
theorem geocode_asked_once_known_twice :
    ∃ world final labels key row,
      (geocoding defaultSettings).system.Reachable world ∧
      Known defaultSettings key row world ∧
      (geocoding defaultSettings).system.RunWhen Transition.System.Always world
        labels final ∧
      final.shared.answers.length = 2 ∧
      Known defaultSettings key row final ∧
      Served defaultSettings key row world.shared final.shared := by
  have ran : ((geocoding defaultSettings).serial (fun _ _ _ => true) unasked
      [((28, some 77),
        .plain :: List.replicate 5 (.clock 2) ++
          [.response 4 (addressed "Ward 12"), .plain])]).map
        (fun store => (store.cache.find (defaultSettings.key 28 77),
          store.answers.length)) =
      some (some { status := .ok, displayAddress := some "Ward 12" }, 1) := by
    decide +kernel
  obtain ⟨world, reachable, quiet, observed⟩ :=
    Process.Program.reachable_served unasked_initial ran
  rw [Prod.mk.injEq] at observed
  obtain ⟨found, one⟩ := observed
  have known : Known defaultSettings (defaultSettings.key 28 77) _ world :=
    ⟨found, fun pid handler running => by
      rw [World.Running, quiet pid] at running
      cases running⟩
  let spawned := world.put world.shared 0 (some (.lookup 28 (some 77)))
  have spawns : (geocoding defaultSettings).system.step world
      (.spawn 0 (28, some 77)) = some spawned := by
    show (geocoding defaultSettings).step world (.spawn 0 (28, some 77)) = _
    simp only [Process.Program.step, quiet 0]
    rfl
  have running : spawned.Running 0 (.lookup 28 (some 77)) :=
    World.running_put.mpr (.inl ⟨rfl, rfl⟩)
  have answered : (geocoding defaultSettings).resume spawned.shared
      (.lookup 28 (some 77)) .plain =
      some (world.shared.answer 28 77 (ofText (some "Ward 12")), none) := by
    show Handler.resume defaultSettings world.shared (.lookup 28 (some 77))
      .plain = _
    simp only [Handler.resume, found]
  have answers : (geocoding defaultSettings).system.step spawned
      (.resume 0 .plain) = some (spawned.put _ 0 none) :=
    Process.Program.step_of_resume running answered
  have runs : (geocoding defaultSettings).system.RunWhen
      Transition.System.Always world _ _ :=
    .cons trivial spawns (.cons trivial answers (.nil _))
  obtain ⟨last, served⟩ := geocode_asked_once_known known runs
  refine ⟨world, _, _, _, _, reachable, known, runs, ?_, last, served⟩
  show world.shared.answers.length + 1 = 2
  rw [one]

/-! ## How often the provider is asked -/

def interval : ReserveSlot → Seconds
  | .call minInterval => minInterval
  | .insert minInterval _ => minInterval
  | .select minInterval _ => minInterval
  | .update minInterval _ => minInterval
  | .commit minInterval _ _ => minInterval

/-- A step of the throttle grants nothing, or ends with one grant more. -/
theorem steps_grants {limit later : RateLimit} {now : Seconds}
    {call : ReserveSlot} {further : Option ReserveSlot}
    (steps : call.Steps limit now later further) :
    (∃ next, further = some next ∧ later.grants = limit.grants ∧
      interval next = interval call) ∨
    (further = none ∧ later.grants = limit.grants ∧ wakes call = none) ∨
    ∃ grant, further = none ∧ later.grants = grant :: limit.grants ∧
      grant.interval = interval call ∧
      wakes call =
        some (grant.now + max 0 (grant.slot - grant.now), grant.slot) := by
  cases steps with
  | called => exact .inl ⟨_, rfl, rfl, rfl⟩
  | skipped => exact .inl ⟨_, rfl, rfl, rfl⟩
  | inserted => exact .inl ⟨_, rfl, rfl, rfl⟩
  | kept => exact .inl ⟨_, rfl, rfl, rfl⟩
  | missed => exact .inr (.inl ⟨rfl, rfl, rfl⟩)
  | locked => exact .inl ⟨_, rfl, rfl, rfl⟩
  | updated => exact .inl ⟨_, rfl, rfl, rfl⟩
  | committed => exact .inr (.inr ⟨_, rfl, rfl, rfl, rfl⟩)

def Granted (limit : RateLimit) (slot : Seconds) : Prop :=
  slot ∈ limit.grants.map (·.slot)

/-- Each request to the provider has a slot of its own, and is not made before
it. -/
structure Store.Slotted (settings : Settings) (store : Store) : Prop where
  intervals : ∀ grant ∈ store.limit.grants,
    grant.interval = settings.geocoderMinIntervalSeconds
  slots : (store.calls.map (·.slot)).Nodup
  granted : ∀ call ∈ store.calls,
    Granted store.limit call.slot ∧ call.slot ≤ call.time

def Handler.Waits (settings : Settings) (store : Store) : Handler → Prop
  | .reserving _ _ call => interval call = settings.geocoderMinIntervalSeconds
  | .sleeping _ _ waking slot =>
      Granted store.limit slot ∧ slot ≤ waking ∧
        slot ∉ store.calls.map (·.slot)
  | _ => True

def Handler.slot : Handler → Option Seconds
  | .sleeping _ _ _ slot => some slot
  | _ => none

def slotting (settings : Settings) : Process.Invariant Store Handler :=
  { shared := fun store => store.Slotted settings
    own := fun store handler => handler.Waits settings store
    pair := fun left right =>
      ∀ slot, ¬ (left.slot = some slot ∧ right.slot = some slot) }

/-- With a positive interval no slot is granted twice. -/
theorem slots_nodup {limit : RateLimit} (spaced : Grant.Spaced limit.grants)
    (positive : ∀ grant ∈ limit.grants, 0 < grant.interval) :
    (limit.grants.map (·.slot)).Nodup := by
  have apart := Grant.Spaced.apart spaced fun grant member =>
    (positive grant member).le
  refine List.pairwise_map.mpr (apart.imp_of_mem ?_)
  intro later earlier _ member after same
  have longer := positive earlier member
  rw [same] at after
  linarith

theorem Granted.later {limit later : RateLimit} {slot : Seconds}
    (granted : Granted limit slot)
    (grows : later.grants = limit.grants ∨
      ∃ grant, later.grants = grant :: limit.grants) : Granted later slot := by
  unfold Granted
  rcases grows with same | ⟨grant, more⟩
  · rw [same]
    exact granted
  · rw [more]
    exact List.mem_cons_of_mem _ granted

/-- What a step does to the slots. -/
inductive Handler.Spends (settings : Settings) (store : Store) :
    Handler → Store → Option Handler → Prop where
  | nothing {handler : Handler} {after : Store} {next : Option Handler} :
      after.limit.grants = store.limit.grants →
      after.calls = store.calls →
      (∀ later, next = some later → later.slot = none ∧
        (handler.Waits settings store → later.Waits settings after)) →
      Spends settings store handler after next
  | reserves {lat lon waking : ℚ} {call : ReserveSlot} {grant : Grant Seconds}
      {after : Store} :
      after.limit.grants = grant :: store.limit.grants →
      after.calls = store.calls →
      grant.interval = interval call → grant.slot ≤ waking →
      Spends settings store (.reserving lat lon call) after
        (some (.sleeping lat lon waking grant.slot))
  | asks {lat lon waking : ℚ} {call : ProviderCall} {after : Store}
      {next : Option Handler} :
      after.limit = store.limit → after.calls = call :: store.calls →
      waking ≤ call.time →
      (∀ later, next = some later → later.slot = none ∧
        later.Waits settings after) →
      Spends settings store (.sleeping lat lon waking call.slot) after next

theorem Handler.Moves.spends
    (moves : handler.Moves settings store after next) :
    handler.Spends settings store after next := by
  cases moves with
  | ends => exact .nothing rfl rfl fun _ is => by cases is
  | hits => exact .nothing rfl rfl fun _ is => by cases is
  | misses =>
      refine .nothing rfl rfl ?_
      rintro later ⟨⟩
      exact ⟨rfl, fun _ => rfl⟩
  | @reserves lat lon call now limit further _ stepped goes wakes =>
      rcases steps_grants (ReserveSlot.resume_cases stepped) with
        ⟨later, is, same, asked⟩ | ⟨is, same, nothing⟩ |
        ⟨grant, is, more, asked, wake⟩
      · refine .nothing same rfl ?_
        intro further goesOn
        cases (goes later is).symm.trans goesOn
        exact ⟨rfl, asked.trans⟩
      · refine .nothing same rfl ?_
        intro further goesOn
        rw [wakes is, nothing] at goesOn
        cases goesOn
      · rw [wakes is, wake]
        refine .reserves more rfl asked ?_
        have longer := le_max_right 0 (grant.slot - grant.now)
        show grant.slot ≤ grant.now + max 0 (grant.slot - grant.now)
        linarith
  | @asks lat lon waking slot time outcome _ _ awake asked =>
      have spends := @Handler.Spends.asks settings store lat lon waking
        { time := time, slot := slot, lat := lat, lon := lon
          outcome := outcome }
      cases asked with
      | raised => exact spends rfl rfl awake fun _ is => by cases is
      | failed => exact spends rfl rfl awake fun _ is => by cases is
      | told =>
          refine spends rfl rfl awake ?_
          rintro later ⟨⟩
          exact ⟨rfl, trivial⟩
  | caches => exact .nothing rfl rfl fun _ is => by cases is

theorem Store.Slotted.of_same (slotted : store.Slotted settings)
    (grants : after.limit.grants = store.limit.grants)
    (calls : after.calls = store.calls) : after.Slotted settings := by
  constructor
  · rw [grants]
    exact slotted.intervals
  · rw [calls]
    exact slotted.slots
  · rw [calls]
    intro call member
    obtain ⟨granted, notBefore⟩ := slotted.granted call member
    exact ⟨granted.later (.inl grants), notBefore⟩

theorem Handler.Spends.slotted
    (spends : handler.Spends settings store after next)
    (waits : handler.Waits settings store) (slotted : store.Slotted settings) :
    after.Slotted settings := by
  cases spends with
  | nothing grants calls => exact slotted.of_same grants calls
  | @reserves lat lon waking call grant _ grants calls asked _ =>
      constructor
      · rw [grants]
        intro other member
        rcases List.mem_cons.mp member with rfl | earlier
        · exact asked.trans waits
        · exact slotted.intervals other earlier
      · rw [calls]
        exact slotted.slots
      · rw [calls]
        intro other member
        obtain ⟨granted, notBefore⟩ := slotted.granted other member
        exact ⟨granted.later (.inr ⟨grant, grants⟩), notBefore⟩
  | @asks lat lon waking call _ _ limit calls awake _ =>
      obtain ⟨granted, notBefore, unspent⟩ := waits
      constructor
      · rw [limit]
        exact slotted.intervals
      · rw [calls]
        exact List.nodup_cons.mpr ⟨unspent, slotted.slots⟩
      · rw [calls, limit]
        intro other member
        rcases List.mem_cons.mp member with rfl | earlier
        · exact ⟨granted, notBefore.trans awake⟩
        · exact slotted.granted other earlier

/-- What the others wait for stays theirs. -/
theorem Handler.Waits.later {other : Handler}
    (waits : other.Waits settings store)
    (spends : handler.Spends settings store after next)
    (apart : ∀ slot, ¬ (handler.slot = some slot ∧ other.slot = some slot)) :
    other.Waits settings after := by
  cases other with
  | lookup => trivial
  | reserving => exact waits
  | caching => trivial
  | sleeping lat lon waking slot =>
      obtain ⟨granted, notBefore, unspent⟩ := waits
      cases spends with
      | nothing grants calls =>
          rw [← calls] at unspent
          exact ⟨granted.later (.inl grants), notBefore, unspent⟩
      | reserves grants calls =>
          rw [← calls] at unspent
          exact ⟨granted.later (.inr ⟨_, grants⟩), notBefore, unspent⟩
      | @asks _ _ _ call _ _ limit calls =>
          refine ⟨limit ▸ granted, notBefore, ?_⟩
          rw [calls, List.map_cons, List.mem_cons, not_or]
          refine ⟨?_, unspent⟩
          rintro rfl
          exact apart _ ⟨rfl, rfl⟩

/-- A request that arrives at a slot is the only one there. -/
theorem Handler.Spends.arrives {later : Handler}
    (spends : handler.Spends settings store after (some later))
    (waits : handler.Waits settings store) (slotted : store.Slotted settings)
    (fresh : ∀ grant, after.limit.grants = grant :: store.limit.grants →
      ¬ Granted store.limit grant.slot) :
    later.Waits settings after ∧
      ∀ slot, later.slot = some slot → ¬ Granted store.limit slot := by
  cases spends with
  | nothing _ _ idle =>
      obtain ⟨none, carries⟩ := idle later rfl
      refine ⟨carries waits, fun slot is => ?_⟩
      rw [none] at is
      cases is
  | reserves grants calls _ notBefore =>
      have free := fresh _ grants
      refine ⟨⟨?_, notBefore, ?_⟩, ?_⟩
      · unfold Granted
        rw [grants]
        exact List.mem_cons_self
      · rw [calls]
        intro member
        obtain ⟨call, made, same⟩ := List.mem_map.mp member
        rw [← same] at free
        exact free (slotted.granted call made).1
      · intro slot is
        cases is
        exact free
  | asks _ _ _ idle =>
      obtain ⟨none, waiting⟩ := idle later rfl
      refine ⟨waiting, fun slot is => ?_⟩
      rw [none] at is
      cases is

theorem spaced_of_reachable {world : World Store Handler}
    (reachable : (geocoding settings).system.Reachable world) :
    Grant.Spaced world.shared.limit.grants := by
  have viewed : throttle.system.Reachable ((throttled settings).view world) :=
    Process.Component.reachable_view reachable
  exact (spacing_holds viewed).1.1

theorem Handler.Waits.slot_granted {slot : Seconds}
    (waits : handler.Waits settings store) (is : handler.slot = some slot) :
    Granted store.limit slot := by
  cases handler with
  | sleeping =>
      cases is
      exact waits.1
  | lookup => cases is
  | reserving => cases is
  | caching => cases is

theorem slotting_holds (positive : 0 < settings.geocoderMinIntervalSeconds)
    {world : World Store Handler}
    (reachable : (geocoding settings).system.Reachable world) :
    (slotting settings).Holds world := by
  refine Process.Invariant.holds ?_ ?_ ?_ ?_ reachable
  · rintro store ⟨⟨_, _, grants⟩, _, calls, _⟩
    constructor <;> simp [grants, calls]
  · intro world pid position _ _ _
    refine ⟨trivial, fun other right _ _ => ⟨?_, ?_⟩⟩
    · rintro slot ⟨is, _⟩
      cases is
    · rintro slot ⟨_, is⟩
      cases is
  · intro world pid choice handler after next reached holding _ running resumed
    obtain ⟨slotted, own, pairs⟩ := holding
    have waits := own pid handler running
    have spends := (Handler.resume_moves resumed).spends
    have later := spends.slotted waits slotted
    -- The grants of the next world are spaced too, so a new one is new.
    have fresh : ∀ grant, after.limit.grants =
        grant :: world.shared.limit.grants →
        ¬ Granted world.shared.limit grant.slot := by
      intro grant more
      have taken : (geocoding settings).system.step world
          (.resume pid choice) = some (world.put after pid next) :=
        Process.Program.step_of_resume running resumed
      have spaced := spaced_of_reachable (reached.next trivial taken)
      have nodup := slots_nodup spaced fun other member => by
        rw [later.intervals other member]
        exact positive
      rw [World.put_shared, more] at nodup
      exact (List.nodup_cons.mp nodup).1
    refine ⟨later, ?_, ?_⟩
    · intro other found different runningOther
      exact (own other found runningOther).later spends
        (pairs pid other handler found (Ne.symm different) running runningOther)
    · intro further is
      subst is
      obtain ⟨arrives, unspent⟩ := spends.arrives waits slotted fresh
      refine ⟨arrives, ?_⟩
      intro other found _ runningOther
      have granted : ∀ slot, found.slot = some slot →
          Granted world.shared.limit slot :=
        fun slot is => (own other found runningOther).slot_granted is
      exact ⟨fun slot both => unspent slot both.1 (granted slot both.2),
        fun slot both => unspent slot both.2 (granted slot both.1)⟩
  · intro world pid handler _ holding _ running
    obtain ⟨slotted, own, pairs⟩ := holding
    obtain ⟨_, _, calls⟩ := handler.release_same world.shared
    have grants : (handler.release world.shared).limit.grants =
        world.shared.limit.grants := by
      cases handler with
      | reserving _ _ call =>
          exact (@ReserveSlot.release_clock world.shared.limit call).2.2
      | lookup => rfl
      | sleeping => rfl
      | caching => rfl
    have spends : handler.Spends settings world.shared
        (handler.release world.shared) none :=
      .nothing grants calls fun _ is => by cases is
    refine ⟨spends.slotted (own pid handler running) slotted, ?_⟩
    intro other found different runningOther
    exact (own other found runningOther).later spends
      (pairs pid other handler found (Ne.symm different) running runningOther)

/-- Requests to the provider between two times, by their slots and by when they
were made. -/
def Store.callsWithin (store : Store) (start finish : Seconds) :
    List ProviderCall :=
  store.calls.filter fun call => start ≤ call.slot && call.time ≤ finish

/-- However many requests there are, those made for a slot of some span of time
and within it are no more than one for each interval of it, and one. -/
theorem geocode_calls_spaced
    (positive : 0 < settings.geocoderMinIntervalSeconds)
    {world : World Store Handler}
    (reachable : (geocoding settings).system.Reachable world)
    (start finish : Seconds)
    (asked : world.shared.callsWithin start finish ≠ []) :
    ((world.shared.callsWithin start finish).length - 1 : ℕ) *
        settings.geocoderMinIntervalSeconds ≤ finish - start := by
  have slotted := (slotting_holds positive reachable).1
  have interval := slotted.intervals
  have apart := Grant.Spaced.apart (spaced_of_reachable reachable)
    fun grant member => (interval grant member).symm ▸ positive.le
  let calls := world.shared.callsWithin start finish
  -- The grants that the calls were made for, in the order of the grants.
  let slots := (world.shared.limit.grants.filter fun grant =>
    grant.slot ∈ calls.map (·.slot)).map (·.slot)
  have apartSlots : slots.Pairwise fun later earlier =>
      earlier + settings.geocoderMinIntervalSeconds ≤ later := by
    refine List.pairwise_map.mpr ((apart.filter _).imp_of_mem ?_)
    intro later earlier _ member after
    rwa [interval earlier (List.mem_of_mem_filter member)] at after
  have within : ∀ slot ∈ slots, start ≤ slot ∧ slot ≤ finish := by
    intro slot member
    obtain ⟨grant, chosen, rfl⟩ := List.mem_map.mp member
    obtain ⟨call, called, same⟩ :=
      List.mem_map.mp (of_decide_eq_true (List.mem_filter.mp chosen).2)
    obtain ⟨made, spans⟩ := List.mem_filter.mp called
    obtain ⟨after, before⟩ := (Bool.and_eq_true _ _).mp spans
    rw [← same]
    exact ⟨of_decide_eq_true after,
      (slotted.granted call made).2.trans (of_decide_eq_true before)⟩
  have covered : calls.map (·.slot) ⊆ slots := by
    intro slot member
    obtain ⟨call, called, same⟩ := List.mem_map.mp member
    have granted := (slotted.granted call (List.mem_of_mem_filter called)).1
    rw [same] at granted
    obtain ⟨grant, given, rfl⟩ := List.mem_map.mp granted
    exact List.mem_map_of_mem
      (List.mem_filter.mpr ⟨given, decide_eq_true member⟩)
  have nodup : (calls.map (·.slot)).Nodup :=
    slotted.slots.sublist (List.filter_sublist.map _)
  have fewer : calls.length ≤ slots.length := by
    rw [← List.length_map (·.slot)]
    exact nodup.length_le_of_subset covered
  have nonempty : slots ≠ [] := by
    intro empty
    rw [empty] at fewer
    exact asked (List.length_eq_zero_iff.mp (Nat.le_zero.mp fewer))
  have spans := Grant.span_of_apart apartSlots within nonempty
  have shorter : ((calls.length - 1 : ℕ) : ℚ) ≤ (slots.length - 1 : ℕ) :=
    Nat.cast_le.mpr (Nat.sub_le_sub_right fewer 1)
  have times := mul_le_mul_of_nonneg_right shorter positive.le
  rw [nsmul_eq_mul] at spans
  show ((calls.length - 1 : ℕ) : ℚ) * _ ≤ _
  linarith

/-- Two requests at once: the second waits for its slot. -/
theorem geocode_calls_spaced_race :
    ∃ world, (geocoding defaultSettings).system.Reachable world ∧
      (world.shared.callsWithin 2 3).map (·.time) = [3, 2] ∧
      ((world.shared.callsWithin 2 3).length - 1 : ℕ) *
        defaultSettings.geocoderMinIntervalSeconds ≤ 3 - 2 := by
  have ran : ((geocoding defaultSettings).system.run (World.start unasked)
      ([.spawn 0 (28, some 77), .spawn 1 (29, some 77)] ++ missing 0 2 ++
        missing 1 2 ++
        [.resume 0 (.response 2 (addressed "Ward 12")),
         .resume 1 (.response 3 .failed)])).map
        (fun world => (world.shared.callsWithin 2 3).map (·.time)) =
      some [3, 2] := by
    decide +kernel
  have starts : (geocoding defaultSettings).system.initial
      (World.start unasked) := ⟨_, unasked_initial, rfl⟩
  obtain ⟨world, reachable, times⟩ :=
    Transition.System.reachable_of_run_map starts ran
  have asked : world.shared.callsWithin 2 3 ≠ [] := by
    intro empty
    rw [empty] at times
    cases times
  exact ⟨world, reachable, times,
    geocode_calls_spaced (by decide +kernel) reachable 2 3 asked⟩

end Geocoding

end JanSetu.Pipeline
