import Mathlib.Logic.Equiv.Basic
import JanSetu.Library.History
import JanSetu.Officials.Login

/-!
# Safety of one-time codes

A transaction that has locked a challenge is the only one that changes its row
and adds to its history.  Every refused code is counted in the row, and the row
is consumed by the one session.
-/

namespace JanSetu.Officials

open Process (Chronicle Label)
open Python (lower strip)

def Event.challengeId : Event → String
  | .created challengeId _ _ _ => challengeId
  | .refused challengeId _ => challengeId
  | .found challengeId _ _ => challengeId
  | .issued challengeId _ _ _ => challengeId

def Event.isRefused : Event → Bool
  | .refused _ _ => true
  | _ => false

def Event.isIssued : Event → Bool
  | .issued _ _ _ _ => true
  | _ => false

/-- What was recorded of a challenge, the newest first. -/
def Store.history (store : Store) (challengeId : String) : List Event :=
  store.journal.filter (·.challengeId = challengeId)

/-! ## What a step does to the challenges -/

section

variable {sha256 : String → String} {settings : Settings}
  {store after : Store} {choice : Choice}

inductive Handler.Moves (sha256 : String → String) (settings : Settings)
    (store : Store) (choice : Choice) :
    Handler → Store → Option Handler → Prop where
  | idle {handler : Handler} {after : Store} {next : Option Handler} :
      handler.locks = none →
      after.challenges = store.challenges →
      after.locked = store.locked →
      after.journal = store.journal →
      (∀ further, next = some further → further.locks = none) →
      Moves sha256 settings store choice handler after next
  | created {email challengeId : String} {officialUserId : Option String}
      {number : Nat} {row : OfficialLoginChallenge} :
      store.challenges.find challengeId = none →
      row.codeHash = hash sha256 (padded 6 number) →
      row.consumedAt = none →
      Moves sha256 settings store choice (.creating email officialUserId)
        ((store.setChallenge challengeId row).record
          (.created challengeId (padded 6 number) row.officialUserId
            row.expiresAt)) none
  | matched {body : OfficialCodeVerify} {challenge : OfficialLoginChallenge}
      {officialId : String} :
      body.challengeId ∉ store.locked →
      store.challenges.find body.challengeId = some challenge →
      challenge.isLive choice.now = true →
      settings.codeMatches sha256 challenge body.code = some true →
      challenge.officialUserId = some officialId →
      Moves sha256 settings store choice (.verifying body)
        (store.lock body.challengeId)
        (some (.reading body.challengeId body.code officialId choice.now
          { challenge with attemptCount := challenge.attemptCount + 1 }))
  | mismatched {body : OfficialCodeVerify}
      {challenge : OfficialLoginChallenge} :
      body.challengeId ∉ store.locked →
      store.challenges.find body.challengeId = some challenge →
      Moves sha256 settings store choice (.verifying body)
        (store.lock body.challengeId)
        (some (.refusing body.challengeId body.code
          { challenge with attemptCount := challenge.attemptCount + 1 }))
  | refused {challengeId code : String} {counted : OfficialLoginChallenge} :
      Moves sha256 settings store choice (.refusing challengeId code counted)
        (((store.setChallenge challengeId counted).record
          (.refused challengeId code)).unlock challengeId) none
  | found {challengeId code officialId : String} {checkedAt : Time}
      {counted : OfficialLoginChallenge} {official : OfficialUser} :
      store.officials.find officialId = some official →
      official.active = true →
      Moves sha256 settings store choice
        (.reading challengeId code officialId checkedAt counted)
        (store.record (.found challengeId officialId official))
        (some (.consuming challengeId code officialId checkedAt counted
          official))
  | consumed {challengeId code officialId : String} {checkedAt : Time}
      {counted : OfficialLoginChallenge} {official current : OfficialUser} :
      Moves sha256 settings store choice
        (.consuming challengeId code officialId checkedAt counted official)
        (store.consume settings challengeId code officialId checkedAt counted
          official current choice.now) none
  | rolledBack {handler : Handler} {challengeId : String} :
      handler.locks = some challengeId →
      Moves sha256 settings store choice handler (store.unlock challengeId)
        none

theorem Handler.moves_none {handler : Handler}
    (unlocked : handler.locks = none) :
    handler.Moves sha256 settings store choice store none :=
  .idle unlocked rfl rfl rfl fun _ arrives => by cases arrives

/-- What the first transaction of a verification does. -/
theorem Store.verify_moves {body : OfficialCodeVerify}
    {next : Option Handler} (free : body.challengeId ∉ store.locked)
    (verified : store.verifyOfficialCode sha256 settings body choice.now =
      (after, next)) :
    (Handler.verifying body).Moves sha256 settings store choice after
      next := by
  unfold Store.verifyOfficialCode at verified
  split at verified
  case h_1 =>
    cases verified
    exact Handler.moves_none rfl
  case h_2 challenge found =>
    split at verified
    case isFalse =>
      cases verified
      exact Handler.moves_none rfl
    case isTrue live =>
      dsimp only at verified
      split at verified
      case h_1 =>
        cases verified
        exact Handler.moves_none rfl
      case h_2 officialId codes bound =>
        cases verified
        exact .matched free found live codes bound
      case h_3 =>
        cases verified
        exact .mismatched free found

theorem Handler.resume_moves {handler : Handler} {next : Option Handler}
    (resumed : handler.resume sha256 settings store choice =
      some (after, next)) :
    handler.Moves sha256 settings store choice after next := by
  unfold Handler.resume at resumed
  split at resumed
  case h_1 =>
    split at resumed
    · cases resumed
      exact Handler.moves_none rfl
    · cases resumed
      exact .idle rfl rfl rfl rfl (by rintro further ⟨⟩; rfl)
  case h_2 =>
    split at resumed
    · cases resumed
      exact .idle rfl rfl rfl rfl (by rintro further ⟨⟩; rfl)
    · cases resumed
      exact .idle rfl rfl rfl rfl (by rintro further ⟨⟩; rfl)
    · cases resumed
      exact Handler.moves_none rfl
  case h_3 =>
    split at resumed
    case isTrue fresh =>
      cases resumed
      exact .created (Option.isNone_iff_eq_none.mp fresh.2) rfl rfl
    case isFalse => cases resumed
  case h_4 =>
    split at resumed
    case isTrue => cases resumed
    case isFalse free =>
      exact Store.verify_moves free (Option.some.inj resumed)
  case h_5 =>
    cases resumed
    exact .refused
  case h_6 =>
    split at resumed
    case h_1 =>
      cases resumed
      exact .rolledBack rfl
    case h_2 official found =>
      split at resumed
      case isTrue active =>
        cases resumed
        exact .found found active
      case isFalse =>
        cases resumed
        exact .rolledBack rfl
  case h_7 =>
    split at resumed
    · cases resumed
      exact .rolledBack rfl
    · cases resumed
      exact .consumed
  case h_8 =>
    cases resumed
    exact .idle rfl rfl rfl rfl fun _ arrives => by cases arrives
  case h_9 acting _ _ _ =>
    cases resumed
    cases locks : acting.locks with
    | none => exact Handler.moves_none locks
    | some challengeId => exact .rolledBack locks
  case h_10 => cases resumed

/-! ## Histories -/

theorem Store.history_record {event : Event} {challengeId : String}
    (here : event.challengeId = challengeId) :
    (store.record event).history challengeId =
      event :: store.history challengeId :=
  List.filter_cons_of_pos (by simpa using here)

theorem Store.history_record_of_ne {event : Event} {challengeId : String}
    (elsewhere : event.challengeId ≠ challengeId) :
    (store.record event).history challengeId = store.history challengeId :=
  List.filter_cons_of_neg (by simpa using elsewhere)

/-- The session was issued for the right code, before the challenge expired and
with fewer than five refused codes, and the transaction has just read the
official of the challenge as active. -/
structure Earned (sha256 : String → String) (challengeId code : String)
    (checkedAt : Time) (session : OfficialSession) (earlier : List Event) :
    Prop where
  challenge : ∃ number expiresAt,
    .created challengeId (padded 6 number) (some session.id) expiresAt ∈
      earlier ∧
    hash sha256 code = hash sha256 (padded 6 number) ∧
    checkedAt < expiresAt
  official : ∃ official older,
    earlier = .found challengeId session.id official :: older ∧
      official.active = true
  attempts : earlier.countP (·.isRefused) < 5

def EarnedIssue (sha256 : String → String) (challengeId : String)
    (earlier : List Event) (event : Event) : Prop :=
  ∀ code checkedAt session,
    event = .issued challengeId code checkedAt session →
    Earned sha256 challengeId code checkedAt session earlier

/-- The history of a challenge against its row. -/
structure Sound (sha256 : String → String) (challengeId : String)
    (row : Option OfficialLoginChallenge) (history : List Event) : Prop where
  unborn : row = none → history = []
  born : ∀ challenge, row = some challenge → ∃ number,
    .created challengeId (padded 6 number) challenge.officialUserId
      challenge.expiresAt ∈ history ∧
    challenge.codeHash = hash sha256 (padded 6 number)
  counted : ∀ challenge, row = some challenge →
    history.countP (·.isRefused) ≤ challenge.attemptCount
  unissued : ∀ challenge, row = some challenge →
    challenge.consumedAt = none → history.countP (·.isIssued) = 0
  once : history.countP (·.isIssued) ≤ 1
  earned : Chronicle (EarnedIssue sha256 challengeId) history

section

variable {challengeId : String} {row : OfficialLoginChallenge}
  {history : List Event}

theorem Sound.create {number : Nat}
    (sound : Sound sha256 challengeId none history)
    (hashed : row.codeHash = hash sha256 (padded 6 number)) :
    Sound sha256 challengeId (some row)
      (.created challengeId (padded 6 number) row.officialUserId
        row.expiresAt :: history) := by
  have nothing := sound.unborn rfl
  subst nothing
  constructor
  · intro absent
    cases absent
  · intro challenge same
    cases same
    exact ⟨number, List.mem_cons_self, hashed⟩
  · intro challenge _
    exact Nat.zero_le _
  · intro _ _ _
    rfl
  · exact Nat.zero_le 1
  · refine ⟨?_, trivial⟩
    intro code checkedAt session same
    cases same

theorem Sound.refuse {code : String}
    (sound : Sound sha256 challengeId (some row) history) :
    Sound sha256 challengeId
      (some { row with attemptCount := row.attemptCount + 1 })
      (.refused challengeId code :: history) := by
  constructor
  · intro absent
    cases absent
  · intro challenge same
    cases same
    obtain ⟨number, member, hashed⟩ := sound.born row rfl
    exact ⟨number, List.mem_cons_of_mem _ member, hashed⟩
  · intro challenge same
    cases same
    rw [List.countP_cons_of_pos rfl]
    exact Nat.succ_le_succ (sound.counted row rfl)
  · intro challenge same unconsumed
    cases same
    rw [List.countP_cons_of_neg (by simp [Event.isIssued])]
    exact sound.unissued row rfl unconsumed
  · rw [List.countP_cons_of_neg (by simp [Event.isIssued])]
    exact sound.once
  · refine ⟨?_, sound.earned⟩
    intro code checkedAt session same
    cases same

theorem Sound.find {officialId : String} {official : OfficialUser}
    (sound : Sound sha256 challengeId (some row) history) :
    Sound sha256 challengeId (some row)
      (.found challengeId officialId official :: history) := by
  constructor
  · intro absent
    cases absent
  · intro challenge same
    obtain ⟨number, member, hashed⟩ := sound.born challenge same
    exact ⟨number, List.mem_cons_of_mem _ member, hashed⟩
  · intro challenge same
    rw [List.countP_cons_of_neg (by simp [Event.isRefused])]
    exact sound.counted challenge same
  · intro challenge same unconsumed
    rw [List.countP_cons_of_neg (by simp [Event.isIssued])]
    exact sound.unissued challenge same unconsumed
  · rw [List.countP_cons_of_neg (by simp [Event.isIssued])]
    exact sound.once
  · refine ⟨?_, sound.earned⟩
    intro code checkedAt session same
    cases same

/-- What a verification has found out about the row that it has locked. -/
structure Authorizes (sha256 : String → String) (row : OfficialLoginChallenge)
    (code officialId : String) (checkedAt : Time) : Prop where
  unconsumed : row.consumedAt = none
  unexpired : checkedAt < row.expiresAt
  attempts : row.attemptCount < 5
  matched : row.codeHash = hash sha256 code
  bound : row.officialUserId = some officialId

theorem Sound.issue {code officialId : String} {checkedAt now : Time}
    {official : OfficialUser} {older : List Event} {session : OfficialSession}
    (sound : Sound sha256 challengeId (some row) history)
    (authorizes : Authorizes sha256 row code officialId checkedAt)
    (read : history = .found challengeId officialId official :: older)
    (active : official.active = true) (same : session.id = officialId) :
    Sound sha256 challengeId
      (some
        { row with
          attemptCount := row.attemptCount + 1, consumedAt := some now })
      (.issued challengeId code checkedAt session :: history) := by
  have none := sound.unissued row rfl authorizes.unconsumed
  constructor
  · intro absent
    cases absent
  · intro challenge is
    cases is
    obtain ⟨number, member, hashed⟩ := sound.born row rfl
    exact ⟨number, List.mem_cons_of_mem _ member, hashed⟩
  · intro challenge is
    cases is
    rw [List.countP_cons_of_neg (by simp [Event.isRefused])]
    exact Nat.le_succ_of_le (sound.counted row rfl)
  · intro challenge is unconsumed
    cases is
    cases unconsumed
  · rw [List.countP_cons_of_pos rfl, none]
  · refine ⟨?_, sound.earned⟩
    intro submitted checked issued is
    cases is
    obtain ⟨number, member, hashed⟩ := sound.born row rfl
    constructor
    · refine ⟨number, row.expiresAt, ?_, ?_, authorizes.unexpired⟩
      · rw [same, ← authorizes.bound]
        exact member
      · exact authorizes.matched.symm.trans hashed
    · rw [same]
      exact ⟨official, older, read, active⟩
    · exact Nat.lt_of_le_of_lt (sound.counted row rfl) authorizes.attempts

end

/-! ## Locks -/

def Handler.Owns (sha256 : String → String) (store : Store) :
    Handler → Prop
  | .refusing challengeId _ counted =>
      challengeId ∈ store.locked ∧
        ∃ row, store.challenges.find challengeId = some row ∧
          counted = { row with attemptCount := row.attemptCount + 1 }
  | .reading challengeId code officialId checkedAt counted =>
      challengeId ∈ store.locked ∧
        ∃ row, store.challenges.find challengeId = some row ∧
          counted = { row with attemptCount := row.attemptCount + 1 } ∧
          Authorizes sha256 row code officialId checkedAt
  | .consuming challengeId code officialId checkedAt counted official =>
      challengeId ∈ store.locked ∧
        ∃ row, store.challenges.find challengeId = some row ∧
          counted = { row with attemptCount := row.attemptCount + 1 } ∧
          Authorizes sha256 row code officialId checkedAt ∧
          official.active = true ∧
          ∃ older, store.history challengeId =
            .found challengeId officialId official :: older
  | _ => True

/-- The row and the history of the challenge are as they were, and it is locked
if it was. -/
structure Store.Keeps (store after : Store) (challengeId : String) :
    Prop where
  row : after.challenges.find challengeId =
    store.challenges.find challengeId
  history : after.history challengeId = store.history challengeId
  locked : challengeId ∈ store.locked → challengeId ∈ after.locked

theorem Handler.Owns.locked {handler : Handler} {challengeId : String}
    (owns : handler.Owns sha256 store)
    (locks : handler.locks = some challengeId) :
    challengeId ∈ store.locked ∧
      ∃ row, store.challenges.find challengeId = some row := by
  cases handler with
  | refusing =>
      cases locks
      obtain ⟨locked, row, found, _⟩ := owns
      exact ⟨locked, row, found⟩
  | reading =>
      cases locks
      obtain ⟨locked, row, found, _⟩ := owns
      exact ⟨locked, row, found⟩
  | consuming =>
      cases locks
      obtain ⟨locked, row, found, _⟩ := owns
      exact ⟨locked, row, found⟩
  | _ => cases locks

theorem Handler.Owns.keeps {handler : Handler}
    (owns : handler.Owns sha256 store)
    (keeps : ∀ challengeId, handler.locks = some challengeId →
      store.Keeps after challengeId) :
    handler.Owns sha256 after := by
  cases handler with
  | refusing challengeId =>
      obtain ⟨same, _, locked⟩ := keeps challengeId rfl
      obtain ⟨holds, row, found, rest⟩ := owns
      exact ⟨locked holds, row, same.trans found, rest⟩
  | reading challengeId =>
      obtain ⟨same, _, locked⟩ := keeps challengeId rfl
      obtain ⟨holds, row, found, rest⟩ := owns
      exact ⟨locked holds, row, same.trans found, rest⟩
  | consuming challengeId =>
      obtain ⟨same, history, locked⟩ := keeps challengeId rfl
      obtain ⟨holds, row, found, counts, authorizes, active, older, read⟩ :=
        owns
      exact ⟨locked holds, row, same.trans found, counts, authorizes, active,
        older, history.trans read⟩
  | _ => trivial

theorem Store.keeps_of_same {challengeId : String}
    (challenges : after.challenges = store.challenges)
    (journal : after.journal = store.journal)
    (locked : challengeId ∈ store.locked → challengeId ∈ after.locked) :
    store.Keeps after challengeId := by
  refine ⟨?_, ?_, locked⟩
  · rw [challenges]
  · unfold Store.history
    rw [journal]

/-- A write to one challenge leaves the others. -/
theorem Store.keeps_other {event : Event} {challengeId other : String}
    {row : OfficialLoginChallenge} (different : other ≠ challengeId)
    (challenges : after.challenges = store.challenges.put challengeId row)
    (journal : after.journal = event :: store.journal)
    (here : event.challengeId = challengeId)
    (locked : other ∈ store.locked → other ∈ after.locked) :
    store.Keeps after other := by
  refine ⟨?_, ?_, locked⟩
  · rw [challenges, Table.find_put_of_ne _ _ different]
  · have apart : event.challengeId ≠ other := by
      rw [here]
      exact Ne.symm different
    have same : after.history other = (store.record event).history other := by
      unfold Store.history
      rw [journal]
      rfl
    exact same.trans (Store.history_record_of_ne apart)

theorem Store.mem_unlock {challengeId other : String}
    (different : other ≠ challengeId) (locked : other ∈ store.locked) :
    other ∈ (store.unlock challengeId).locked :=
  List.mem_filter.mpr ⟨locked, by simpa using different⟩

/-- A step leaves every challenge that it has not locked. -/
theorem Handler.Moves.keeps {handler : Handler} {next : Option Handler}
    {challengeId : String}
    (moves : handler.Moves sha256 settings store choice after next)
    (unlocked : handler.locks ≠ some challengeId)
    (stored : ∃ row, store.challenges.find challengeId = some row) :
    store.Keeps after challengeId := by
  have apart : ∀ other, handler.locks = some other → challengeId ≠ other := by
    rintro other locks rfl
    exact unlocked locks
  cases moves with
  | idle _ challenges locked journal =>
      exact Store.keeps_of_same challenges journal fun member =>
        locked ▸ member
  | @created _ fresh _ _ _ absent =>
      have different : challengeId ≠ fresh := by
        rintro rfl
        obtain ⟨row, found⟩ := stored
        rw [absent] at found
        cases found
      exact Store.keeps_other different rfl rfl rfl id
  | matched =>
      exact Store.keeps_of_same rfl rfl (List.mem_cons_of_mem _)
  | mismatched =>
      exact Store.keeps_of_same rfl rfl (List.mem_cons_of_mem _)
  | refused =>
      have different := apart _ rfl
      exact Store.keeps_other different rfl rfl rfl
        (Store.mem_unlock different)
  | @found locked code officialId checkedAt counted official read active =>
      have different := apart _ rfl
      exact ⟨rfl, Store.history_record_of_ne (Ne.symm different), id⟩
  | consumed =>
      have different := apart _ rfl
      exact Store.keeps_other different rfl rfl rfl
        (Store.mem_unlock different)
  | rolledBack locks =>
      exact Store.keeps_of_same rfl rfl (Store.mem_unlock (apart _ locks))

/-- Without the development login code only the right hash matches. -/
theorem Settings.hash_of_matches {challenge : OfficialLoginChallenge}
    {code : String} (noDevCode : settings.officialDevLoginCode = none)
    (codes : settings.codeMatches sha256 challenge code = some true) :
    challenge.codeHash = hash sha256 code := by
  unfold Settings.codeMatches at codes
  split at codes
  case isTrue same => exact same
  case isFalse =>
    rw [noDevCode] at codes
    cases codes

theorem OfficialLoginChallenge.isLive_iff {challenge : OfficialLoginChallenge}
    {now : Time} :
    challenge.isLive now = true ↔
      challenge.consumedAt = none ∧ now < challenge.expiresAt ∧
        challenge.attemptCount < 5 := by
  simp [OfficialLoginChallenge.isLive, and_assoc]

/-- The next local state owns what it has locked. -/
theorem Handler.Moves.owns {handler further : Handler}
    {next : Option Handler} (noDevCode : settings.officialDevLoginCode = none)
    (moves : handler.Moves sha256 settings store choice after next)
    (owns : handler.Owns sha256 store) (arrives : next = some further) :
    further.Owns sha256 after := by
  cases moves with
  | idle _ _ _ _ unlocked =>
      have none := unlocked further arrives
      cases further with
      | refusing => cases none
      | reading => cases none
      | consuming => cases none
      | _ => trivial
  | created => cases arrives
  | @matched body challenge officialId _ found live codes bound =>
      cases arrives
      obtain ⟨unconsumed, unexpired, attempts⟩ :=
        OfficialLoginChallenge.isLive_iff.mp live
      refine ⟨List.mem_cons_self, challenge, found, rfl, ?_⟩
      exact {
        unconsumed := unconsumed, unexpired := unexpired
        attempts := attempts
        matched := Settings.hash_of_matches noDevCode codes
        bound := bound }
  | @mismatched body challenge _ found =>
      cases arrives
      exact ⟨List.mem_cons_self, challenge, found, rfl⟩
  | refused => cases arrives
  | @found challengeId code officialId checkedAt counted official read
      active =>
      cases arrives
      obtain ⟨locked, row, found, counts, authorizes⟩ := owns
      exact ⟨locked, row, found, counts, authorizes, active,
        store.history challengeId, Store.history_record rfl⟩
  | consumed => cases arrives
  | rolledBack => cases arrives

/-- Every history stays sound. -/
theorem Handler.Moves.sound {handler : Handler} {next : Option Handler}
    (moves : handler.Moves sha256 settings store choice after next)
    (owns : handler.Owns sha256 store)
    (sound : ∀ challengeId, Sound sha256 challengeId
      (store.challenges.find challengeId) (store.history challengeId))
    (challengeId : String) :
    Sound sha256 challengeId (after.challenges.find challengeId)
      (after.history challengeId) := by
  have kept : store.Keeps after challengeId →
      Sound sha256 challengeId (after.challenges.find challengeId)
        (after.history challengeId) := by
    intro keeps
    rw [keeps.row, keeps.history]
    exact sound challengeId
  cases moves with
  | idle _ challenges locked journal =>
      exact kept (Store.keeps_of_same challenges journal fun member =>
        locked ▸ member)
  | @created _ fresh _ number row absent hashed =>
      by_cases same : challengeId = fresh
      · subst same
        have before := sound challengeId
        rw [absent] at before
        have row' : ((store.setChallenge challengeId row).record
            (.created challengeId (padded 6 number) row.officialUserId
              row.expiresAt)).challenges.find challengeId = some row :=
          Table.find_put_self _ _ _
        have history : ((store.setChallenge challengeId row).record
            (.created challengeId (padded 6 number) row.officialUserId
              row.expiresAt)).history challengeId =
            .created challengeId (padded 6 number) row.officialUserId
              row.expiresAt :: store.history challengeId :=
          Store.history_record rfl
        rw [row', history]
        exact before.create hashed
      · exact kept (Store.keeps_other same rfl rfl rfl id)
  | matched =>
      exact kept (Store.keeps_of_same rfl rfl (List.mem_cons_of_mem _))
  | mismatched =>
      exact kept (Store.keeps_of_same rfl rfl (List.mem_cons_of_mem _))
  | @refused locked code counted =>
      by_cases same : challengeId = locked
      · subst same
        obtain ⟨_, row, found, counts⟩ := owns
        have before := sound challengeId
        rw [found] at before
        have row' : (((store.setChallenge challengeId counted).record
            (.refused challengeId code)).unlock challengeId).challenges.find
              challengeId = some counted :=
          Table.find_put_self _ _ _
        have history : (((store.setChallenge challengeId counted).record
            (.refused challengeId code)).unlock challengeId).history
              challengeId =
            .refused challengeId code :: store.history challengeId :=
          Store.history_record rfl
        rw [row', history, counts]
        exact before.refuse
      · exact kept (Store.keeps_other same rfl rfl rfl
          (Store.mem_unlock same))
  | @found locked code officialId checkedAt counted official read active =>
      by_cases same : challengeId = locked
      · subst same
        obtain ⟨_, row, found, _⟩ := owns
        have before := sound challengeId
        rw [found] at before
        have row' : (store.record
            (.found challengeId officialId official)).challenges.find
              challengeId = some row := found
        have history : (store.record
            (.found challengeId officialId official)).history challengeId =
            .found challengeId officialId official ::
              store.history challengeId :=
          Store.history_record rfl
        rw [row', history]
        exact before.find
      · exact kept ⟨rfl, Store.history_record_of_ne (Ne.symm same), id⟩
  | @consumed locked code officialId checkedAt counted official current =>
      by_cases same : challengeId = locked
      · subst same
        obtain ⟨_, row, found, counts, authorizes, active, older, read⟩ := owns
        have before := sound challengeId
        rw [found] at before
        have row' : (store.consume settings challengeId code officialId
            checkedAt counted official current choice.now).challenges.find
              challengeId =
            some { counted with consumedAt := some choice.now } :=
          Table.find_put_self _ _ _
        have history : (store.consume settings challengeId code officialId
            checkedAt counted official current choice.now).history
              challengeId =
            .issued challengeId code checkedAt
              (official.session settings officialId choice.now) ::
                store.history challengeId :=
          Store.history_record rfl
        rw [row', history, counts]
        exact before.issue authorizes read active rfl
      · exact kept (Store.keeps_other same rfl rfl rfl
          (Store.mem_unlock same))
  | rolledBack => exact sound challengeId

/-- A lock that a step takes was free. -/
theorem Handler.Moves.locks {handler further : Handler}
    {next : Option Handler} {challengeId : String}
    (moves : handler.Moves sha256 settings store choice after next)
    (arrives : next = some further)
    (locks : further.locks = some challengeId) :
    handler.locks = some challengeId ∨ challengeId ∉ store.locked := by
  cases moves with
  | idle _ _ _ _ unlocked =>
      rw [unlocked further arrives] at locks
      cases locks
  | created => cases arrives
  | matched free =>
      cases arrives
      cases locks
      exact .inr free
  | mismatched free =>
      cases arrives
      cases locks
      exact .inr free
  | refused => cases arrives
  | found =>
      cases arrives
      exact .inl locks
  | consumed => cases arrives
  | rolledBack => cases arrives

/-- Each lock is held by one transaction, which owns the row. -/
def soundChallenges (sha256 : String → String) :
    Process.Invariant Store Handler :=
  { shared := fun store => ∀ challengeId, Sound sha256 challengeId
      (store.challenges.find challengeId) (store.history challengeId)
    own := fun store handler => handler.Owns sha256 store
    pair := fun left right => ∀ challengeId,
      left.locks = some challengeId → right.locks ≠ some challengeId }

theorem soundChallenges_hold (noDevCode : settings.officialDevLoginCode = none)
    {world : World Store Handler}
    (reachable : (loginProgram sha256 settings).system.Reachable world) :
    (soundChallenges sha256).Holds world := by
  refine Process.Invariant.holds ?initially ?spawned ?resumed ?crashed reachable
  case initially =>
    intro store initial challengeId
    obtain ⟨empty, _, journal⟩ := initial
    have nothing : store.history challengeId = [] := by
      unfold Store.history
      rw [journal]
      rfl
    rw [empty, Table.find_empty, nothing]
    constructor
    · exact fun _ => rfl
    · intro challenge same
      cases same
    · intro challenge same
      cases same
    · intro challenge same
      cases same
    · exact Nat.zero_le 1
    · trivial
  case spawned =>
    intro world pid request _ _ _
    have unlocked : (Handler.start request).locks = none := by
      cases request <;> rfl
    refine ⟨?_, ?_⟩
    · cases request <;> trivial
    · intro other right _ _
      constructor
      · intro challengeId locks
        cases unlocked.symm.trans locks
      · intro challengeId _ locks
        cases unlocked.symm.trans locks
  case resumed =>
    intro world pid choice handler after next _ holding _ running resumed
    obtain ⟨sound, owns, pairs⟩ := holding
    have moves := Handler.resume_moves resumed
    refine ⟨moves.sound (owns pid handler running) sound, ?_, ?_⟩
    · intro other right different runningOther
      have owned := owns other right runningOther
      apply owned.keeps
      intro challengeId locks
      apply moves.keeps
      · intro shares
        exact pairs pid other handler right (Ne.symm different) running
          runningOther challengeId shares locks
      · exact (owned.locked locks).2
    · intro further arrives
      refine ⟨moves.owns noDevCode (owns pid handler running) arrives, ?_⟩
      intro other right different runningOther
      have apart : ∀ challengeId, further.locks = some challengeId →
          right.locks ≠ some challengeId := by
        intro challengeId locks shares
        rcases moves.locks arrives locks with held | free
        · exact pairs pid other handler right (Ne.symm different) running
            runningOther challengeId held shares
        · exact free ((owns other right runningOther).locked shares).1
      refine ⟨apart, ?_⟩
      intro challengeId shares locks
      exact apart challengeId locks shares
  case crashed =>
    intro world pid handler _ holding _ running
    obtain ⟨sound, owns, pairs⟩ := holding
    have released : (loginProgram sha256 settings).release world.shared
        handler = handler.locks.elim world.shared world.shared.unlock := rfl
    rw [released]
    cases locks : handler.locks with
    | none =>
        exact ⟨sound, fun other right _ runningOther =>
          owns other right runningOther⟩
    | some locked =>
        refine ⟨sound, ?_⟩
        intro other right different runningOther
        apply (owns other right runningOther).keeps
        intro challengeId shares
        refine ⟨rfl, rfl, ?_⟩
        apply Store.mem_unlock
        rintro rfl
        exact pairs pid other handler right (Ne.symm different) running
          runningOther challengeId locks shares

/-! ## Codes of six digits -/

/-- `_hash` leaves a code as it is. -/
theorem lower_strip_padded (width number : Nat) :
    lower (strip (padded width number)) = padded width number := by
  have bounds : ∀ char ∈ (padded width number).toList,
      48 ≤ char.toNat ∧ char.toNat ≤ 57 := by
    intro char member
    have digit := isDigit_of_mem_padded member
    simpa [Char.isDigit, UInt32.le_iff_toNat_le] using digit
  have ink : strip (padded width number) = padded width number := by
    apply Python.strip_eq_self
    intro char member
    obtain ⟨above, below⟩ := bounds char member
    have ascii : char.toNat < 128 := by omega
    have least : ¬ char.toNat ≤ 13 := by omega
    have most : ¬ char.toNat ≤ 32 := by omega
    simp [Python.isSpace, ascii, least, most]
  rw [ink]
  apply Python.lower_eq_self
  intro char member
  obtain ⟨_, below⟩ := bounds char member
  have ascii : char.toNat < 128 := by omega
  have small : ¬ (char.val ≥ 'A'.val ∧ char.val ≤ 'Z'.val) := by
    intro capital
    have above : 65 ≤ char.toNat := UInt32.le_iff_toNat_le.mp capital.1
    omega
  have same : char.toLower = char := dif_neg small
  rw [Python.lowerChar, if_pos ascii, same]

/-- At most one request issues a session for a challenge: with the right code,
checked before the challenge expired, for the official it is bound to, just read
as active, and with fewer than five codes refused before. -/
theorem official_code_safe (collisionFree : Function.Injective sha256)
    (noDevCode : settings.officialDevLoginCode = none)
    {world : World Store Handler}
    (reachable : (loginProgram sha256 settings).system.Reachable world)
    (challengeId : String) :
    (world.shared.history challengeId).countP (·.isIssued) ≤ 1 ∧
    ∀ later earlier code checkedAt session,
      world.shared.history challengeId =
        later ++ .issued challengeId code checkedAt session :: earlier →
      (∃ number expiresAt,
        .created challengeId (padded 6 number) (some session.id) expiresAt ∈
          earlier ∧
        lower (strip code) = padded 6 number ∧ checkedAt < expiresAt) ∧
      (∃ official older,
        earlier = .found challengeId session.id official :: older ∧
          official.active = true) ∧
      earlier.countP (·.isRefused) < 5 := by
  have sound := (soundChallenges_hold noDevCode reachable).1 challengeId
  refine ⟨sound.once, ?_⟩
  intro later earlier code checkedAt session split
  have earned := sound.earned
  rw [split] at earned
  obtain ⟨⟨number, expiresAt, created, hashed, unexpired⟩, official, few⟩ :=
    earned.obeyed code checkedAt session rfl
  have same := collisionFree hashed
  rw [lower_strip_padded] at same
  exact ⟨⟨number, expiresAt, created, same, unexpired⟩, official, few⟩

end

/-! ## A code that is mistyped once -/

/-- The digests of the texts that the sample hashes. -/
def sampleSha256 : String → String :=
  Equiv.swap "123456"
      "8d969eef6ecad3c29a3a629280e686cf0c3f5d5a86aff3ca12020c923adc6c92" ∘
    Equiv.swap "000000"
      "91b4d142823f7d20c5f08df69122de43f35f057a988d9619f6d3138485c9a203" ∘
    Equiv.swap "officer@example.gov"
      "507f9a5ab10bfc9d327fadfdf20875fabfbdd1eaf1c08946b1d07eec274a0130"

theorem sampleSha256_injective : Function.Injective sampleSha256 :=
  (Equiv.injective _).comp ((Equiv.injective _).comp (Equiv.injective _))

def sampleSettings : Settings :=
  { environment := .production, officialDevLoginCode := none
    officialCodeMaxPerHour := 5, accessTokenMinutes := 15 }

def sampleOfficial : OfficialUser :=
  { email := "officer@example.gov", name := "Officer"
    role := "triage_officer", jurisdictionId := "demo-ulb"
    departmentKeys := ["sanitation"], active := true, lastLoginAt := none }

def verifies (code : String) (minLength : 6 ≤ code.length)
    (maxLength : code.length ≤ 12) : Request :=
  .verifyOfficialCode ⟨"c1", code, minLength, maxLength⟩

/-- A wrong code, then the right one with a blank in front. -/
def sampleLogin : List (Request × List Choice) :=
  [(.administer "o1" sampleOfficial, [⟨0, .plain⟩]),
   (.requestOfficialCode " Officer@example.gov",
    [⟨1, .plain⟩, ⟨1, .plain⟩, ⟨1, .drawn "c1" 123456⟩]),
   (verifies "000000" (by decide) (by decide), [⟨2, .plain⟩, ⟨2, .plain⟩]),
   (verifies " 123456" (by decide) (by decide),
    [⟨3, .plain⟩, ⟨3, .plain⟩, ⟨3, .plain⟩])]

def sampleHistory : List Event :=
  [.issued "c1" " 123456" 3 (sampleOfficial.session sampleSettings "o1" 3),
   .found "c1" "o1" sampleOfficial, .refused "c1" "000000",
   .created "c1" "123456" (some "o1") (1 + minutes 10)]

theorem official_code_safe_once :
    ∃ world : World Store Handler,
      world.shared.history "c1" = sampleHistory ∧
      (world.shared.history "c1").countP (·.isIssued) ≤ 1 ∧
      (sampleHistory.drop 1).countP (·.isRefused) < 5 := by
  have ran : ((loginProgram sampleSha256 sampleSettings).serial
      (fun _ _ _ => true)
      { officials := Table.empty, challenges := Table.empty, audits := []
        locked := [], journal := [] } sampleLogin).map
      (·.history "c1") = some sampleHistory := by
    decide +kernel
  have initial : (loginProgram sampleSha256 sampleSettings).initial
      { officials := Table.empty, challenges := Table.empty, audits := []
        locked := [], journal := [] } := ⟨rfl, rfl, rfl⟩
  obtain ⟨world, reached, _, history⟩ :=
    Process.Program.reachable_served initial ran
  obtain ⟨once, earned⟩ :=
    official_code_safe sampleSha256_injective rfl reached "c1"
  have split : world.shared.history "c1" = [] ++
      .issued "c1" " 123456" 3
          (sampleOfficial.session sampleSettings "o1" 3) ::
        sampleHistory.drop 1 := history
  obtain ⟨_, _, few⟩ := earned _ _ _ _ _ split
  exact ⟨world, history, once, few⟩

end JanSetu.Officials
