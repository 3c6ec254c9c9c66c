import JanSetu.Auth.HourlyCap
import JanSetu.Officials.CodeSafety

/-!
# How often a code can be guessed

A challenge locks after five guesses, and that is no use when a new challenge
can be asked for after each five.  The cap on challenges makes it a bound on
all guesses at the codes of an email: five for each challenge of the cap, for
the challenges that were made within any one hour.
-/

namespace JanSetu.Officials

open Auth (lastCount lastCount_cons lastCount_cons_of_ne)
open Process (Label Program Recorded)

/-- The challenges at whose codes somebody has guessed, the last one first. -/
def Store.tries (store : Store) : List String :=
  store.journal.filterMap fun event =>
    match event with
    | .refused challengeId _ => some challengeId
    | .issued challengeId _ _ _ => some challengeId
    | _ => none

/-- The challenge was made for the email in the hour that starts at a time. -/
def madeInHour (emailHash : String) (start : Time)
    (row : OfficialLoginChallenge) : Bool :=
  row.emailHash = emailHash && start ≤ row.createdAt &&
    row.createdAt ≤ start + hours 1

def Store.createdInHour (store : Store) (emailHash : String) (start : Time) :
    Nat :=
  store.challenges.count fun _ row => madeInHour emailHash start row

/-- The guesses at the codes of those challenges, at whatever time. -/
def Store.guesses (store : Store) (emailHash : String) (start : Time) : Nat :=
  store.tries.countP fun challengeId =>
    (store.challenges.find challengeId).any (madeInHour emailHash start)

/-- The row that a verification is about to write. -/
def Handler.row : Handler → Option (String × OfficialLoginChallenge)
  | .refusing challengeId _ counted => some (challengeId, counted)
  | .reading challengeId _ _ _ counted => some (challengeId, counted)
  | .consuming challengeId _ _ _ counted _ => some (challengeId, counted)
  | _ => none

/-- The email of a code request, as it is stored. -/
def Handler.requester (sha256 : String → String) : Handler → Option String
  | .counting email => some (hash sha256 email)
  | .lookingUp email => some (hash sha256 email)
  | .creating email _ => some (hash sha256 email)
  | _ => none

def Handler.hasCounted : Handler → Bool
  | .lookingUp _ => true
  | .creating _ _ => true
  | _ => false

/-- The email and the time of a count. -/
def Handler.counts (sha256 : String → String) (handler : Handler)
    (choice : Choice) : Option (String × Time) :=
  match handler with
  | .counting email => some (hash sha256 email, choice.now)
  | _ => none

/-! ## Lists of guesses -/

theorem countP_cons_le {α : Type*} [DecidableEq α] (items : List α) (key : α)
    (keys : List α) :
    items.countP (fun item => item ∈ key :: keys) ≤
      items.count key + items.countP (fun item => item ∈ keys) := by
  induction items with
  | nil => simp
  | cons item items induction =>
      simp only [List.mem_cons, Bool.decide_or] at induction ⊢
      rw [List.countP_cons, List.countP_cons, List.count_cons]
      by_cases same : item = key
      · simp [same]
        omega
      · by_cases member : item ∈ keys
        · simp [same, member]
          omega
        · simp [same, member]
          omega

/-- What is counted under few keys, and not often under any, is few. -/
theorem countP_le_of_keys {α : Type*} [DecidableEq α] {items keys : List α}
    {test : α → Bool} {bound : Nat}
    (inside : ∀ item, test item = true → item ∈ keys)
    (each : ∀ key ∈ keys, items.count key ≤ bound) :
    items.countP test ≤ bound * keys.length := by
  have member : items.countP test ≤
      items.countP fun item => item ∈ keys := by
    apply List.countP_mono_left
    intro item _ passes
    simpa using inside item passes
  refine Nat.le_trans member ?_
  clear inside member
  induction keys with
  | nil => simp
  | cons key keys induction =>
      have split := countP_cons_le items key keys
      have first := each key List.mem_cons_self
      have rest := induction fun other member =>
        each other (List.mem_cons_of_mem _ member)
      rw [List.length_cons, Nat.mul_succ]
      omega

/-! ## What a step does to a row -/

section

variable {sha256 : String → String} {settings : Settings}
  {store after : Store} {choice : Choice}

/-- A step makes a challenge, locks one to try its code, writes the row that
it has locked, gives the lock up, or leaves all challenges alone. -/
inductive Handler.Touches (sha256 : String → String) (store : Store)
    (choice : Choice) : Handler → Store → Option Handler → Prop where
  | leaves {handler : Handler} {after : Store} {next : Option Handler} :
      handler.row = none →
      after.challenges = store.challenges →
      after.locked = store.locked → after.tries = store.tries →
      (∀ further, next = some further → further.row = none) →
      Touches sha256 store choice handler after next
  | creates {email challengeId : String} {officialUserId : Option String}
      {row : OfficialLoginChallenge} {after : Store} :
      store.challenges.find challengeId = none →
      row.attemptCount = 0 → row.emailHash = hash sha256 email →
      row.createdAt = choice.now →
      after.challenges = store.challenges.put challengeId row →
      after.locked = store.locked → after.tries = store.tries →
      Touches sha256 store choice (.creating email officialUserId) after none
  | locks {body : OfficialCodeVerify} {challenge : OfficialLoginChallenge}
      {further : Handler} :
      body.challengeId ∉ store.locked →
      store.challenges.find body.challengeId = some challenge →
      challenge.attemptCount < 5 →
      further.row = some (body.challengeId,
        { challenge with attemptCount := challenge.attemptCount + 1 }) →
      Touches sha256 store choice (.verifying body)
        (store.lock body.challengeId) (some further)
  | keeps {handler further : Handler} {after : Store} {challengeId : String}
      {counted : OfficialLoginChallenge} :
      handler.row = some (challengeId, counted) →
      after.challenges = store.challenges → after.locked = store.locked →
      after.tries = store.tries → further.row = handler.row →
      Touches sha256 store choice handler after (some further)
  | writes {handler : Handler} {after : Store} {challengeId : String}
      {counted row : OfficialLoginChallenge} :
      handler.row = some (challengeId, counted) →
      row.attemptCount = counted.attemptCount →
      row.emailHash = counted.emailHash → row.createdAt = counted.createdAt →
      after.challenges = store.challenges.put challengeId row →
      after.locked = store.locked.filter (· ≠ challengeId) →
      after.tries = challengeId :: store.tries →
      Touches sha256 store choice handler after none
  | gives {handler : Handler} {challengeId : String}
      {counted : OfficialLoginChallenge} :
      handler.row = some (challengeId, counted) →
      Touches sha256 store choice handler (store.unlock challengeId) none

theorem Handler.touches_none {handler : Handler}
    (rowless : handler.row = none) :
    handler.Touches sha256 store choice store none :=
  .leaves rowless rfl rfl rfl fun _ arrives => by cases arrives

theorem Store.verify_touches {body : OfficialCodeVerify}
    {next : Option Handler} (free : body.challengeId ∉ store.locked)
    (verified : store.verifyOfficialCode sha256 settings body choice.now =
      (after, next)) :
    (Handler.verifying body).Touches sha256 store choice after next := by
  unfold Store.verifyOfficialCode at verified
  split at verified
  case h_1 =>
    cases verified
    exact Handler.touches_none rfl
  case h_2 challenge found =>
    split at verified
    case isFalse =>
      cases verified
      exact Handler.touches_none rfl
    case isTrue live =>
      have few : challenge.attemptCount < 5 := by
        unfold OfficialLoginChallenge.isLive at live
        simp only [Bool.and_eq_true, decide_eq_true_eq] at live
        exact live.2
      dsimp only at verified
      split at verified
      case h_1 =>
        cases verified
        exact Handler.touches_none rfl
      case h_2 =>
        cases verified
        exact .locks free found few rfl
      case h_3 =>
        cases verified
        exact .locks free found few rfl

/-- A handler locks the row that it is about to write. -/
theorem Handler.locks_eq (handler : Handler) :
    handler.locks = handler.row.map Prod.fst := by
  cases handler <;> rfl

theorem Handler.resume_touches {handler : Handler} {next : Option Handler}
    (resumed : handler.resume sha256 settings store choice =
      some (after, next)) :
    handler.Touches sha256 store choice after next := by
  unfold Handler.resume at resumed
  split at resumed
  case h_1 =>
    split at resumed
    · cases resumed
      exact Handler.touches_none rfl
    · cases resumed
      exact .leaves rfl rfl rfl rfl (by rintro further ⟨⟩; rfl)
  case h_2 =>
    split at resumed
    · cases resumed
      exact .leaves rfl rfl rfl rfl (by rintro further ⟨⟩; rfl)
    · cases resumed
      exact .leaves rfl rfl rfl rfl (by rintro further ⟨⟩; rfl)
    · cases resumed
      exact Handler.touches_none rfl
  case h_3 =>
    split at resumed
    case isTrue fresh =>
      cases resumed
      exact .creates (Option.isNone_iff_eq_none.mp fresh.2) rfl rfl rfl rfl
        rfl rfl
    case isFalse => cases resumed
  case h_4 =>
    split at resumed
    case isTrue => cases resumed
    case isFalse free =>
      exact Store.verify_touches free (Option.some.inj resumed)
  case h_5 =>
    cases resumed
    exact .writes rfl rfl rfl rfl rfl rfl rfl
  case h_6 =>
    split at resumed
    case h_1 =>
      cases resumed
      exact .gives rfl
    case h_2 =>
      split at resumed
      case isTrue =>
        cases resumed
        exact .keeps rfl rfl rfl rfl rfl
      case isFalse =>
        cases resumed
        exact .gives rfl
  case h_7 =>
    split at resumed
    · cases resumed
      exact .gives rfl
    · cases resumed
      refine .writes rfl ?_ ?_ ?_ rfl rfl rfl
      · rfl
      · rfl
      · rfl
  case h_8 =>
    cases resumed
    exact .leaves rfl rfl rfl rfl fun _ arrives => by cases arrives
  case h_9 acting _ _ _ =>
    cases resumed
    rw [Handler.locks_eq]
    cases held : acting.row with
    | none => exact Handler.touches_none held
    | some row => exact .gives held
  case h_10 => cases resumed

/-! ## Guesses at one challenge -/

/-- A challenge is not tried more often than its row has counted, and that is
at most five times. -/
structure Tried (row : Option OfficialLoginChallenge) (tries : Nat) :
    Prop where
  unborn : row = none → tries = 0
  counted : ∀ challenge, row = some challenge → tries ≤ challenge.attemptCount
  bounded : ∀ challenge, row = some challenge → challenge.attemptCount ≤ 5

/-- The row that a handler writes is the one that it has locked, with one more
attempt. -/
def Handler.OwnsRow (store : Store) (handler : Handler) : Prop :=
  ∀ challengeId counted, handler.row = some (challengeId, counted) →
    challengeId ∈ store.locked ∧
      ∃ row, store.challenges.find challengeId = some row ∧
        row.attemptCount < 5 ∧
        counted = { row with attemptCount := row.attemptCount + 1 }

def Handler.Apart (left right : Handler) : Prop :=
  ∀ challengeId, left.locks = some challengeId →
    right.locks ≠ some challengeId

theorem Handler.locks_of_row {handler : Handler} {challengeId : String}
    {counted : OfficialLoginChallenge}
    (held : handler.row = some (challengeId, counted)) :
    handler.locks = some challengeId := by
  rw [Handler.locks_eq, held]
  rfl

theorem Handler.row_of_locks {handler : Handler} {challengeId : String}
    (locks : handler.locks = some challengeId) :
    ∃ counted, handler.row = some (challengeId, counted) := by
  rw [Handler.locks_eq] at locks
  obtain ⟨⟨_, counted⟩, held, rfl⟩ := Option.map_eq_some_iff.mp locks
  exact ⟨counted, held⟩

/-- The challenge that the handler has locked is as it was. -/
theorem Handler.OwnsRow.of_same {handler : Handler}
    (owns : handler.OwnsRow store)
    (same : ∀ challengeId, handler.locks = some challengeId →
      after.challenges.find challengeId = store.challenges.find challengeId ∧
        (challengeId ∈ store.locked → challengeId ∈ after.locked)) :
    handler.OwnsRow after := by
  intro challengeId counted held
  obtain ⟨locked, row, found, few, counts⟩ := owns challengeId counted held
  obtain ⟨rows, locks⟩ := same challengeId (Handler.locks_of_row held)
  exact ⟨locks locked, row, rows.trans found, few, counts⟩

/-- What a step leaves of a challenge that another handler has locked. -/
theorem Handler.Touches.other {handler : Handler} {next : Option Handler}
    (touches : handler.Touches sha256 store choice after next)
    {challengeId : String} (elsewhere : handler.locks ≠ some challengeId)
    (exists_ : ∃ row, store.challenges.find challengeId = some row) :
    after.challenges.find challengeId = store.challenges.find challengeId ∧
      (challengeId ∈ store.locked → challengeId ∈ after.locked) := by
  obtain ⟨row, found⟩ := exists_
  cases touches with
  | leaves _ challenges locked _ _ =>
      rw [challenges, locked]
      exact ⟨rfl, id⟩
  | @creates _ created _ _ _ fresh _ _ _ challenges locked _ =>
      have different : challengeId ≠ created := by
        intro same
        subst same
        rw [fresh] at found
        cases found
      rw [challenges, locked, Table.find_put_of_ne _ _ different]
      exact ⟨rfl, id⟩
  | locks => exact ⟨rfl, fun member => List.mem_cons_of_mem _ member⟩
  | keeps _ challenges locked _ _ =>
      rw [challenges, locked]
      exact ⟨rfl, id⟩
  | @writes _ _ written _ _ held _ _ _ challenges locked _ =>
      have different : challengeId ≠ written := by
        intro same
        subst same
        exact elsewhere (Handler.locks_of_row held)
      rw [challenges, locked, Table.find_put_of_ne _ _ different]
      refine ⟨rfl, fun member => List.mem_filter.mpr ⟨member, ?_⟩⟩
      simpa using different
  | @gives _ given _ held =>
      have different : challengeId ≠ given := by
        intro same
        subst same
        exact elsewhere (Handler.locks_of_row held)
      refine ⟨rfl, fun member => List.mem_filter.mpr ⟨member, ?_⟩⟩
      simpa using different

/-- A handler owns the row that it goes on with. -/
theorem Handler.Touches.owns {handler further : Handler}
    (touches : handler.Touches sha256 store choice after (some further))
    (owns : handler.OwnsRow store) : further.OwnsRow after := by
  cases touches with
  | leaves _ _ _ _ rowless =>
      intro challengeId counted held
      rw [rowless further rfl] at held
      cases held
  | @locks body challenge _ _ found few row =>
      intro challengeId counted held
      rw [row] at held
      cases held
      exact ⟨List.mem_cons_self, challenge, found, few, rfl⟩
  | keeps _ challenges locked _ row =>
      intro challengeId counted held
      rw [row] at held
      rw [challenges, locked]
      exact owns challengeId counted held

/-- A step of a handler that owns its row counts the guess. -/
theorem Handler.Touches.tried {handler : Handler} {next : Option Handler}
    (touches : handler.Touches sha256 store choice after next)
    (owns : handler.OwnsRow store)
    (tried : ∀ challengeId,
      Tried (store.challenges.find challengeId)
        (store.tries.count challengeId)) (challengeId : String) :
    Tried (after.challenges.find challengeId)
      (after.tries.count challengeId) := by
  cases touches with
  | leaves _ challenges _ tries _ =>
      rw [challenges, tries]
      exact tried challengeId
  | @creates _ created _ row _ fresh attempts _ _ challenges _ tries =>
      rw [challenges, tries, Table.find_put]
      split
      case isTrue same =>
        subst same
        have none := (tried challengeId).unborn fresh
        rw [none]
        constructor
        · exact fun _ => rfl
        · exact fun _ _ => Nat.zero_le _
        · intro challenge is
          cases is
          rw [attempts]
          exact Nat.zero_le 5
      case isFalse => exact tried challengeId
  | locks => exact tried challengeId
  | keeps _ challenges _ tries _ =>
      rw [challenges, tries]
      exact tried challengeId
  | @writes _ _ written counted row held attempts _ _ challenges _ tries =>
      obtain ⟨_, before, found, few, counts⟩ := owns written counted held
      rw [challenges, tries, Table.find_put]
      split
      case isTrue same =>
        subst same
        have one := (tried challengeId).counted before found
        rw [List.count_cons_self]
        subst counts
        constructor
        · intro absent
          cases absent
        · intro challenge is
          cases is
          rw [attempts]
          exact Nat.succ_le_succ one
        · intro challenge is
          cases is
          rw [attempts]
          exact few
      case isFalse different =>
        rw [List.count_cons_of_ne (Ne.symm different)]
        exact tried challengeId
  | gives => exact tried challengeId

theorem Handler.Touches.apart {handler further : Handler}
    (touches : handler.Touches sha256 store choice after (some further))
    {challengeId : String} (locks : further.locks = some challengeId) :
    handler.locks = some challengeId ∨ challengeId ∉ store.locked := by
  obtain ⟨counted, held⟩ := Handler.row_of_locks locks
  cases touches with
  | leaves _ _ _ _ rowless =>
      rw [rowless further rfl] at held
      cases held
  | locks free _ _ row =>
      rw [row] at held
      cases held
      exact .inr free
  | keeps _ _ _ _ row =>
      rw [row] at held
      exact .inl (Handler.locks_of_row held)

/-! ## The challenges of an hour -/

/-- The challenges whose email and time pass a test. -/
def Store.stamped (store : Store) (test : String → Time → Bool) : Nat :=
  store.challenges.count fun _ row => test row.emailHash row.createdAt

/-- A step makes the challenge of its request, or changes no email and no
time. -/
theorem Handler.Touches.stamped {handler : Handler} {next : Option Handler}
    (touches : handler.Touches sha256 store choice after next)
    (owns : handler.OwnsRow store) :
    (∀ test, after.stamped test = store.stamped test) ∨
      next = none ∧ ∃ email officialUserId,
        handler = .creating email officialUserId ∧
          ∀ test, after.stamped test = store.stamped test +
            (test (hash sha256 email) choice.now).toNat := by
  unfold Store.stamped
  cases touches with
  | leaves _ challenges _ _ _ =>
      left
      rw [challenges]
      exact fun _ => rfl
  | @creates email _ officialUserId row _ fresh _ emails times challenges
      _ _ =>
      right
      refine ⟨rfl, email, officialUserId, rfl, fun test => ?_⟩
      rw [challenges, Table.count_put_fresh fresh, emails, times]
  | locks => exact .inl fun _ => rfl
  | keeps _ challenges _ _ _ =>
      left
      rw [challenges]
      exact fun _ => rfl
  | @writes _ _ written counted row held _ emails times challenges _ _ =>
      left
      obtain ⟨_, before, found, _, counts⟩ := owns written counted held
      subst counts
      intro test
      rw [challenges, Table.count_put_same found]
      rw [emails, times]
  | gives => exact .inl fun _ => rfl

/-- The program with the counts of its requests. -/
def requestHistory (sha256 : String → String) (settings : Settings) :
    Program (Recorded Store (String × Time)) Handler Request Choice :=
  (loginProgram sha256 settings).recorded (Handler.counts sha256)
    fun recorded => recorded.notes = []

/-- No two code requests for an email overlap, and the clock does not go
backwards from the count of a request to its challenge. -/
def SerialRequests (sha256 : String → String)
    (world : World (Recorded Store (String × Time)) Handler)
    (label : Label Request Choice) : Prop :=
  (∀ pid request email, label = .spawn pid request →
    (Handler.start request).requester sha256 = some email →
    ∀ other handler, world.Running other handler →
      handler.requester sha256 ≠ some email) ∧
  ∀ pid choice handler email counted, label = .resume pid choice →
    world.Running pid handler → handler.requester sha256 = some email →
    handler.hasCounted = true →
    lastCount world.shared.notes email = some counted →
    counted ≤ choice.now

/-- A request that has counted found room under the cap. -/
def Handler.HasRoom (sha256 : String → String) (settings : Settings)
    (recorded : Recorded Store (String × Time)) (handler : Handler) : Prop :=
  ∀ email, handler.requester sha256 = some email →
    handler.hasCounted = true →
    ∃ time, lastCount recorded.notes email = some time ∧
      recorded.shared.recentOfficialChallengeCount email time <
        settings.officialCodeMaxPerHour

/-- The guesses at each challenge are counted, and the challenges of each hour
are within the cap. -/
def withinBudget (sha256 : String → String) (settings : Settings) :
    Process.Invariant (Recorded Store (String × Time)) Handler :=
  { shared := fun recorded =>
      (∀ challengeId, Tried (recorded.shared.challenges.find challengeId)
        (recorded.shared.tries.count challengeId)) ∧
      ∀ email start, recorded.shared.createdInHour email start ≤
        settings.officialCodeMaxPerHour
    own := fun recorded handler =>
      handler.OwnsRow recorded.shared ∧
        handler.HasRoom sha256 settings recorded
    pair := fun left right =>
      left.Apart right ∧
        ∀ email, left.requester sha256 = some email →
          right.requester sha256 ≠ some email }

theorem Store.recent_eq (store : Store) (email : String) (now : Time) :
    store.recentOfficialChallengeCount email now =
      store.stamped fun other time =>
        other = email && now - hours 1 ≤ time :=
  rfl

theorem Store.createdInHour_eq (store : Store) (email : String)
    (start : Time) :
    store.createdInHour email start =
      store.stamped fun other time =>
        other = email && start ≤ time && time ≤ start + hours 1 :=
  rfl

/-- A challenge is made under the cap. -/
theorem Store.createdInHour_le {email : String} {counted now : Time}
    (room : store.recentOfficialChallengeCount email counted <
      settings.officialCodeMaxPerHour) (forward : counted ≤ now)
    (within : ∀ email start, store.createdInHour email start ≤
      settings.officialCodeMaxPerHour)
    (stamps : ∀ test : String → Time → Bool,
      after.stamped test = store.stamped test + (test email now).toNat)
    (other : String) (start : Time) :
    after.createdInHour other start ≤ settings.officialCodeMaxPerHour := by
  have before := within other start
  rw [Store.createdInHour_eq] at before ⊢
  rw [stamps]
  cases inside :
      (decide (email = other) && decide (start ≤ now) &&
        decide (now ≤ start + hours 1)) with
  | false => exact before
  | true =>
      simp only [Bool.and_eq_true, decide_eq_true_eq] at inside
      obtain ⟨⟨rfl, _⟩, ends⟩ := inside
      have earlier : counted - hours 1 ≤ start :=
        Int.le_trans (Int.sub_le_sub_right forward _)
          (Int.sub_right_le_of_le_add ends)
      have fewer : (store.stamped fun other time =>
          other = email && start ≤ time && time ≤ start + hours 1) ≤
          store.recentOfficialChallengeCount email counted := by
        rw [Store.recent_eq]
        apply Table.count_le_of_find
        intro key passes
        obtain ⟨row, found, passed⟩ := (Option.any_eq_true _ _).mp passes
        rw [found]
        simp only [Bool.and_eq_true, decide_eq_true_eq] at passed
        simp only [Option.any_some, Bool.and_eq_true, decide_eq_true_eq]
        exact ⟨passed.1.1, Int.le_trans earlier passed.1.2⟩
      exact Nat.lt_of_le_of_lt fewer room

/-- A request goes on with the count that it has made, or has just made one. -/
theorem Handler.resume_requester {handler further : Handler} {email : String}
    (resumed : handler.resume sha256 settings store choice =
      some (after, some further))
    (requests : further.requester sha256 = some email) :
    handler.requester sha256 = some email ∧ after = store ∧
      (handler.hasCounted = true ∧ handler.counts sha256 choice = none ∨
        handler.counts sha256 choice = some (email, choice.now) ∧
          store.recentOfficialChallengeCount email choice.now <
            settings.officialCodeMaxPerHour) := by
  unfold Handler.resume at resumed
  split at resumed
  case h_1 =>
    split at resumed
    case isTrue => cases resumed
    case isFalse below =>
      cases resumed
      cases requests
      exact ⟨rfl, rfl, .inr ⟨rfl, Nat.lt_of_not_le below⟩⟩
  case h_2 =>
    split at resumed
    · cases resumed
      exact ⟨requests, rfl, .inl ⟨rfl, rfl⟩⟩
    · cases resumed
      exact ⟨requests, rfl, .inl ⟨rfl, rfl⟩⟩
    · cases resumed
  case h_3 =>
    split at resumed
    · cases resumed
    · cases resumed
  case h_4 body now =>
    split at resumed
    case isTrue => cases resumed
    case isFalse =>
      unfold Store.verifyOfficialCode at resumed
      split at resumed
      case h_1 => cases resumed
      case h_2 =>
        split at resumed
        case isFalse => cases resumed
        case isTrue =>
          dsimp only at resumed
          split at resumed
          · cases resumed
          · cases resumed
            cases requests
          · cases resumed
            cases requests
  case h_5 => cases resumed
  case h_6 =>
    split at resumed
    · cases resumed
    · split at resumed
      · cases resumed
        cases requests
      · cases resumed
  case h_7 =>
    split at resumed
    · cases resumed
    · cases resumed
  case h_8 => cases resumed
  case h_9 => cases resumed
  case h_10 => cases resumed

theorem Handler.requester_of_counts {handler : Handler} {email : String}
    {time : Time} (counts : handler.counts sha256 choice = some (email, time)) :
    handler.requester sha256 = some email := by
  cases handler with
  | counting =>
      cases counts
      rfl
  | _ => cases counts

/-- What is known of the other emails is as it was. -/
theorem Handler.Touches.otherEmail {handler : Handler} {next : Option Handler}
    {email : String} (notes : List (String × Time))
    (touches : handler.Touches sha256 store choice after next)
    (owns : handler.OwnsRow store)
    (elsewhere : handler.requester sha256 ≠ some email) :
    lastCount ((handler.counts sha256 choice).toList ++ notes) email =
        lastCount notes email ∧
      ∀ now, after.recentOfficialChallengeCount email now =
        store.recentOfficialChallengeCount email now := by
  constructor
  · cases counts : handler.counts sha256 choice with
    | none => rfl
    | some count =>
        obtain ⟨counted, time⟩ := count
        apply lastCount_cons_of_ne
        intro same
        subst same
        exact elsewhere (Handler.requester_of_counts counts)
  · intro now
    rw [Store.recent_eq, Store.recent_eq]
    rcases touches.stamped owns with
      same | ⟨_, created, officialUserId, rfl, stamps⟩
    · exact same _
    · have different : hash sha256 created ≠ email := by
        intro same
        exact elsewhere (congrArg some same)
      rw [stamps]
      simp [different]

/-! ## The obligations of the invariant -/

section

variable {world : World (Recorded Store (String × Time)) Handler} {pid : Nat}
  {handler : Handler} {choice : Choice}
  {after : Recorded Store (String × Time)} {next : Option Handler}

theorem initial_withinBudget {recorded : Recorded Store (String × Time)}
    (initial : (requestHistory sha256 settings).initial recorded) :
    (withinBudget sha256 settings).shared recorded := by
  obtain ⟨⟨empty, _, journal⟩, _⟩ := initial
  constructor
  · intro challengeId
    have nothing : recorded.shared.tries = [] := by
      unfold Store.tries
      rw [journal]
      rfl
    rw [empty, nothing, Table.find_empty]
    constructor
    · exact fun _ => rfl
    · intro challenge is
      cases is
    · intro challenge is
      cases is
  · intro email start
    unfold Store.createdInHour
    rw [empty]
    exact Nat.zero_le _

theorem spawned_withinBudget {request : Request}
    (serial : SerialRequests sha256 world (.spawn pid request)) :
    (withinBudget sha256 settings).Arrives world pid world.shared
      (Handler.start request) := by
  have rowless : (Handler.start request).row = none := by
    cases request <;> rfl
  have uncounted : (Handler.start request).hasCounted = false := by
    cases request <;> rfl
  have unlocked : (Handler.start request).locks = none := by
    rw [Handler.locks_eq, rowless]
    rfl
  refine ⟨⟨?_, ?_⟩, ?_⟩
  · intro challengeId counted held
    cases rowless.symm.trans held
  · intro email _ counted
    cases uncounted.symm.trans counted
  · intro other right _ running
    refine ⟨⟨?_, ?_⟩, ?_, ?_⟩
    · intro challengeId locks
      cases unlocked.symm.trans locks
    · exact fun email requests =>
        serial.1 pid request email rfl requests other right running
    · intro challengeId _ locks
      cases unlocked.symm.trans locks
    · intro email mine theirs
      exact serial.1 pid request email rfl theirs other right running mine

/-- A step makes a challenge under the cap only, and counts its guess. -/
theorem resumed_shared (holding : (withinBudget sha256 settings).Holds world)
    (serial : SerialRequests sha256 world (.resume pid choice))
    (running : world.Running pid handler)
    (touches : handler.Touches sha256 world.shared.shared choice
      after.shared next) :
    (withinBudget sha256 settings).shared after := by
  obtain ⟨⟨tried, within⟩, owns, _⟩ := holding
  obtain ⟨row, room⟩ := owns pid handler running
  refine ⟨touches.tried row tried, ?_⟩
  rcases touches.stamped row with
    same | ⟨_, email, officialUserId, rfl, stamps⟩
  · intro email start
    rw [Store.createdInHour_eq, same, ← Store.createdInHour_eq]
    exact within email start
  · obtain ⟨time, last, below⟩ := room _ rfl rfl
    have forward := serial.2 pid choice _ _ time rfl running rfl rfl last
    exact Store.createdInHour_le below forward within stamps

/-- The others keep the row that they have locked and the room that they have
found. -/
theorem resumed_undisturbed
    (holding : (withinBudget sha256 settings).Holds world)
    (running : world.Running pid handler)
    (touches : handler.Touches sha256 world.shared.shared choice
      after.shared next)
    (notes : after.notes = (handler.counts sha256 choice).toList ++
      world.shared.notes) :
    (withinBudget sha256 settings).Undisturbed world pid after := by
  obtain ⟨_, owns, pairs⟩ := holding
  obtain ⟨row, _⟩ := owns pid handler running
  intro other right different runningOther
  obtain ⟨apart, emails⟩ :=
    pairs pid other handler right (Ne.symm different) running runningOther
  obtain ⟨ownRow, ownRoom⟩ := owns other right runningOther
  constructor
  · apply ownRow.of_same
    intro challengeId locks
    apply touches.other
    · exact fun shares => apart challengeId shares locks
    · obtain ⟨counted, held⟩ := Handler.row_of_locks locks
      obtain ⟨_, found, here, _⟩ := ownRow challengeId counted held
      exact ⟨found, here⟩
  · intro email requests counted
    obtain ⟨time, last, below⟩ := ownRoom email requests counted
    have elsewhere : handler.requester sha256 ≠ some email :=
      fun shares => emails email shares requests
    obtain ⟨sameCount, sameRecent⟩ :=
      touches.otherEmail world.shared.notes row elsewhere
    refine ⟨time, ?_, ?_⟩
    · rw [notes, sameCount]
      exact last
    · rw [sameRecent]
      exact below

/-- The process goes on with the row that it has locked and the room that it
has found. -/
theorem resumed_own {further : Handler}
    (holding : (withinBudget sha256 settings).Holds world)
    (running : world.Running pid handler)
    (stepped : handler.resume sha256 settings world.shared.shared choice =
      some (after.shared, some further))
    (touches : handler.Touches sha256 world.shared.shared choice
      after.shared (some further))
    (notes : after.notes = (handler.counts sha256 choice).toList ++
      world.shared.notes) :
    (withinBudget sha256 settings).own after further := by
  obtain ⟨row, room⟩ := holding.2.1 pid handler running
  refine ⟨touches.owns row, ?_⟩
  intro email requests _
  obtain ⟨mine, same, ⟨counted, silent⟩ | ⟨counts, below⟩⟩ :=
    Handler.resume_requester stepped requests
  · obtain ⟨time, last, below⟩ := room email mine counted
    refine ⟨time, ?_, ?_⟩
    · rw [notes, silent]
      exact last
    · rw [same]
      exact below
  · refine ⟨choice.now, ?_, ?_⟩
    · rw [notes, counts]
      exact lastCount_cons
    · rw [same]
      exact below

/-- It locks no row of the others, and is not for their email. -/
theorem resumed_apart {further : Handler}
    (holding : (withinBudget sha256 settings).Holds world)
    (running : world.Running pid handler)
    (stepped : handler.resume sha256 settings world.shared.shared choice =
      some (after.shared, some further))
    (touches : handler.Touches sha256 world.shared.shared choice
      after.shared (some further))
    {other : Nat} {right : Handler} (different : other ≠ pid)
    (runningOther : world.Running other right) :
    (withinBudget sha256 settings).pair further right ∧
      (withinBudget sha256 settings).pair right further := by
  obtain ⟨_, owns, pairs⟩ := holding
  obtain ⟨apart, emails⟩ :=
    pairs pid other handler right (Ne.symm different) running runningOther
  have locks : further.Apart right := by
    intro challengeId mine theirs
    rcases touches.apart mine with held | free
    · exact apart challengeId held theirs
    · obtain ⟨counted, held⟩ := Handler.row_of_locks theirs
      exact free ((owns other right runningOther).1 challengeId counted held).1
  have requests : ∀ email, further.requester sha256 = some email →
      right.requester sha256 ≠ some email := fun email mine =>
    emails email (Handler.resume_requester stepped mine).1
  refine ⟨⟨locks, requests⟩, ?_, ?_⟩
  · exact fun challengeId theirs mine => locks challengeId mine theirs
  · exact fun email theirs mine => requests email mine theirs

/-- A crash frees the row of its process only. -/
theorem released_withinBudget
    (holding : (withinBudget sha256 settings).Holds world)
    (running : world.Running pid handler) :
    (withinBudget sha256 settings).shared
        ((requestHistory sha256 settings).release world.shared handler) ∧
      (withinBudget sha256 settings).Undisturbed world pid
        ((requestHistory sha256 settings).release world.shared handler) := by
  obtain ⟨shared, owns, pairs⟩ := holding
  have released : ((requestHistory sha256 settings).release world.shared
      handler).shared =
        handler.locks.elim world.shared.shared
          world.shared.shared.unlock := rfl
  have rows : ((requestHistory sha256 settings).release world.shared
      handler).shared.challenges = world.shared.shared.challenges := by
    rw [released]
    cases handler.locks <;> rfl
  have tries : ((requestHistory sha256 settings).release world.shared
      handler).shared.tries = world.shared.shared.tries := by
    rw [released]
    cases handler.locks <;> rfl
  constructor
  · obtain ⟨tried, within⟩ := shared
    constructor
    · intro challengeId
      rw [rows, tries]
      exact tried challengeId
    · intro email start
      unfold Store.createdInHour
      rw [rows]
      exact within email start
  · intro other right different runningOther
    obtain ⟨apart, _⟩ :=
      pairs pid other handler right (Ne.symm different) running runningOther
    obtain ⟨ownRow, ownRoom⟩ := owns other right runningOther
    constructor
    · apply ownRow.of_same
      intro challengeId locks
      refine ⟨by rw [rows], fun member => ?_⟩
      rw [released]
      cases held : handler.locks with
      | none => exact member
      | some locked =>
          have elsewhere : challengeId ≠ locked := by
            intro same
            subst same
            exact apart challengeId held locks
          exact List.mem_filter.mpr ⟨member, by simpa using elsewhere⟩
    · intro email requests counted
      obtain ⟨time, last, below⟩ := ownRoom email requests counted
      refine ⟨time, last, ?_⟩
      unfold Store.recentOfficialChallengeCount
      rw [rows]
      exact below

theorem withinBudget_holds
    (reachable : (requestHistory sha256 settings).system.ReachableWhen
      (SerialRequests sha256) world) :
    (withinBudget sha256 settings).Holds world := by
  apply Process.Invariant.holds _ _ _ _ reachable
  · exact fun recorded initial => initial_withinBudget initial
  · exact fun world pid request _ _ serial => spawned_withinBudget serial
  · intro world pid choice handler after next _ holding serial running resumed
    obtain ⟨stepped, notes⟩ := Program.recorded_resume resumed
    have touches : handler.Touches sha256 world.shared.shared choice
        after.shared next := Handler.resume_touches stepped
    refine ⟨resumed_shared holding serial running touches,
      resumed_undisturbed holding running touches notes, ?_⟩
    rintro further rfl
    exact ⟨resumed_own holding running stepped touches notes,
      fun other right different runningOther =>
        resumed_apart holding running stepped touches different runningOther⟩
  · exact fun world pid handler _ holding _ running =>
      released_withinBudget holding running

end

/-- Of the challenges that are made for an email within any one hour there are
no more than the cap, and nobody ever gets more than five guesses for each of
the cap. -/
theorem guesses_within_budget
    {world : World (Recorded Store (String × Time)) Handler}
    (reachable : (requestHistory sha256 settings).system.ReachableWhen
      (SerialRequests sha256) world) (emailHash : String) (start : Time) :
    world.shared.shared.createdInHour emailHash start ≤
        settings.officialCodeMaxPerHour ∧
      world.shared.shared.guesses emailHash start ≤
        5 * settings.officialCodeMaxPerHour := by
  obtain ⟨tried, within⟩ := (withinBudget_holds reachable).1
  have few := within emailHash start
  refine ⟨few, ?_⟩
  have guessed : world.shared.shared.guesses emailHash start ≤
      5 * world.shared.shared.createdInHour emailHash start := by
    apply countP_le_of_keys
    · intro challengeId passes
      obtain ⟨row, found, passed⟩ := (Option.any_eq_true _ _).mp passes
      exact Table.mem_select.mpr ⟨row, found, passed⟩
    · intro challengeId selected
      obtain ⟨row, found, _⟩ := Table.mem_select.mp selected
      exact Nat.le_trans ((tried challengeId).counted row found)
        ((tried challengeId).bounded row found)
  exact Nat.le_trans guessed (Nat.mul_le_mul_left 5 few)

end

/-! ## Two guesses -/

/-- The test of `SerialRequests` for a process that is alone. -/
def forwardClock (recorded : Recorded Store (String × Time))
    (handler : Handler) (choice : Choice) : Bool :=
  (handler.requester sampleSha256).all fun email =>
    !handler.hasCounted ||
      (lastCount recorded.notes email).all (· ≤ choice.now)

theorem serialRequests_of_alone
    {world : World (Recorded Store (String × Time)) Handler}
    {handler : Handler} {choice : Choice}
    (only : Process.OnlyRunning world 0 (some handler))
    (test : forwardClock world.shared handler choice = true) :
    SerialRequests sampleSha256 world (.resume 0 choice) := by
  constructor
  · intro pid request email same
    cases same
  · intro pid given acting email counted same running requests counts last
    cases same
    obtain ⟨_, rfl⟩ := only.eq_of_running running
    simpa [forwardClock, requests, counts, last] using test

theorem serialRequests_of_quiet
    {world : World (Recorded Store (String × Time)) Handler}
    {request : Request} (quiet : world.Quiet) :
    SerialRequests sampleSha256 world (.spawn 0 request) := by
  constructor
  · intro pid request email _ _ other handler running
    cases (quiet other).symm.trans running
  · intro pid choice handler email counted same
    cases same

theorem guesses_within_budget_two :
    ∃ world : World (Recorded Store (String × Time)) Handler,
      world.shared.shared.guesses
          (hash sampleSha256 "officer@example.gov") 0 = 2 ∧
        world.shared.shared.createdInHour
            (hash sampleSha256 "officer@example.gov") 0 ≤
          sampleSettings.officialCodeMaxPerHour ∧
        world.shared.shared.guesses
            (hash sampleSha256 "officer@example.gov") 0 ≤
          5 * sampleSettings.officialCodeMaxPerHour := by
  have ran : ((requestHistory sampleSha256 sampleSettings).serial forwardClock
      { shared :=
          { officials := Table.empty, challenges := Table.empty, audits := []
            locked := [], journal := [] }
        notes := [] } sampleLogin).map
      (·.shared.guesses (hash sampleSha256 "officer@example.gov") 0) =
        some 2 := by
    decide +kernel
  have initial : (requestHistory sampleSha256 sampleSettings).initial
      { shared :=
          { officials := Table.empty, challenges := Table.empty, audits := []
            locked := [], journal := [] }
        notes := [] } := ⟨⟨rfl, rfl, rfl⟩, rfl⟩
  obtain ⟨world, reached, _, guesses⟩ :=
    Process.Program.reachable_serial initial
      (fun _ _ quiet _ => serialRequests_of_quiet quiet)
      (fun _ _ _ => serialRequests_of_alone) ran
  exact ⟨world, guesses, guesses_within_budget reached _ _⟩

end JanSetu.Officials
