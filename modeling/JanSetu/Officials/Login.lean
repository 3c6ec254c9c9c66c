import JanSetu.Db.Session
import JanSetu.Library.Process
import JanSetu.Library.Table
import JanSetu.Python.Text

/-!
# The login of officials

The two requests of `officials.py` that create and verify a one-time code.  A
verification reads its challenge with a row lock and keeps it until it commits
or rolls back; the lookup of the official and the commit are steps of their own
while it holds the lock.
-/

namespace JanSetu.Officials

open Process (Program)
open Python (lower strip)

inductive Environment where
  | development
  | test
  | staging
  | production
deriving DecidableEq

structure Settings where
  environment : Environment
  officialDevLoginCode : Option String
  officialCodeMaxPerHour : Nat
  accessTokenMinutes : Nat
deriving DecidableEq

structure OfficialUser where
  email : String
  name : String
  role : String
  jurisdictionId : String
  departmentKeys : List String
  active : Bool
  lastLoginAt : Option Time
deriving DecidableEq

structure OfficialLoginChallenge where
  officialUserId : Option String
  emailHash : String
  codeHash : String
  expiresAt : Time
  consumedAt : Option Time
  attemptCount : Nat
  createdAt : Time
deriving DecidableEq

structure OfficialAuditEvent where
  officialUserId : String
  grievanceId : Option String
  action : String
deriving DecidableEq

/-- The payload that `_official_token` signs. -/
structure OfficialToken where
  sub : String
  aud : String
  role : String
  jurisdiction : String
  iat : Int
  exp : Int
deriving DecidableEq

structure OfficialSession where
  accessToken : OfficialToken
  id : String
  name : String
  email : String
  role : String
  jurisdictionId : String
  departmentKeys : List String
deriving DecidableEq

/-- What is kept for the statements about runs and read by no operation: a
challenge with its code, a code that did not match, the official that a
verification has read as active, and a session. -/
inductive Event where
  | created (challengeId code : String) (officialUserId : Option String)
      (expiresAt : Time)
  | refused (challengeId code : String)
  | found (challengeId officialId : String) (official : OfficialUser)
  | issued (challengeId code : String) (checkedAt : Time)
      (session : OfficialSession)
deriving DecidableEq

/-- `locked` are the challenges whose rows a transaction has locked. -/
structure Store where
  officials : Table String OfficialUser
  challenges : Table String OfficialLoginChallenge
  audits : List OfficialAuditEvent
  locked : List String
  journal : List Event

structure OfficialCodeVerify where
  challengeId : String
  code : String
  minLength : 6 ≤ code.length
  maxLength : code.length ≤ 12
deriving DecidableEq

def officialTokenAudience : String :=
  "jan-setu-official"

namespace Store

def record (store : Store) (event : Event) : Store :=
  { store with journal := event :: store.journal }

def lock (store : Store) (challengeId : String) : Store :=
  { store with locked := challengeId :: store.locked }

/-- A commit or a rollback. -/
def unlock (store : Store) (challengeId : String) : Store :=
  { store with locked := store.locked.filter (· ≠ challengeId) }

def setChallenge (store : Store) (challengeId : String)
    (row : OfficialLoginChallenge) : Store :=
  { store with challenges := store.challenges.put challengeId row }

/-! ## `repositories/officials.py` -/

/-- The ids that the lookup by email finds. -/
def officialsByEmail (store : Store) (email : String) : List String :=
  store.officials.select fun _ row =>
    lower row.email = lower (strip email) && row.active

def addOfficialAudit (store : Store) (officialUserId : String)
    (grievanceId : Option String) (action : String) : Store :=
  { store with
    audits :=
      { officialUserId := officialUserId, grievanceId := grievanceId
        action := action } :: store.audits }

def recentOfficialChallengeCount (store : Store) (emailHash : String)
    (now : Time) : Nat :=
  store.challenges.count fun _ row =>
    row.emailHash = emailHash && now - hours 1 ≤ row.createdAt

end Store

/-! ## `officials.py` -/

def OfficialLoginChallenge.isLive (challenge : OfficialLoginChallenge)
    (now : Time) : Bool :=
  challenge.consumedAt.isNone && now < challenge.expiresAt &&
    challenge.attemptCount < 5

/-- `secrets.compare_digest` raises on text that is not ASCII. -/
def compareDigest (left right : String) : Option Bool :=
  if (left.toList ++ right.toList).all (·.toNat < 128) then some (left = right)
  else none

def OfficialUser.session (settings : Settings) (official : OfficialUser)
    (officialId : String) (now : Time) : OfficialSession :=
  let issuedAt := now.tdiv 1000000
  { accessToken :=
      { sub := officialId, aud := officialTokenAudience
        role := official.role, jurisdiction := official.jurisdictionId
        iat := issuedAt
        exp := issuedAt + settings.accessTokenMinutes * 60 }
    id := officialId, name := official.name, email := official.email
    role := official.role, jurisdictionId := official.jurisdictionId
    departmentKeys := official.departmentKeys }

/-- From `refusing` on a verification holds the lock of its challenge; `counted`
is the row of its session, which has not been flushed. -/
inductive Handler where
  | counting (email : String)
  | lookingUp (email : String)
  | creating (email : String) (officialUserId : Option String)
  | verifying (body : OfficialCodeVerify)
  | refusing (challengeId code : String) (counted : OfficialLoginChallenge)
  | reading (challengeId code officialId : String) (checkedAt : Time)
      (counted : OfficialLoginChallenge)
  | consuming (challengeId code officialId : String) (checkedAt : Time)
      (counted : OfficialLoginChallenge) (official : OfficialUser)
  | administering (officialId : String) (row : OfficialUser)
deriving DecidableEq

/-- The challenge whose row the handler has locked. -/
def Handler.locks : Handler → Option String
  | .refusing challengeId _ _ => some challengeId
  | .reading challengeId _ _ _ _ => some challengeId
  | .consuming challengeId _ _ _ _ _ => some challengeId
  | _ => none

/-- `administer` is any other statement that creates or changes an official. -/
inductive Request where
  | requestOfficialCode (email : String)
  | verifyOfficialCode (body : OfficialCodeVerify)
  | administer (officialId : String) (row : OfficialUser)
deriving DecidableEq

def Handler.start : Request → Handler
  | .requestOfficialCode email => .counting (lower (strip email))
  | .verifyOfficialCode body => .verifying body
  | .administer officialId row => .administering officialId row

/-- `drawn` carries the id of the new row and what `secrets.randbelow` returns;
`raises` is an exception of the statement. -/
inductive Answer where
  | plain
  | drawn (challengeId : String) (number : Nat)
  | raises
deriving DecidableEq

structure Choice where
  now : Time
  answer : Answer
deriving DecidableEq

section

variable (sha256 : String → String) (settings : Settings)

/-- `_hash`. -/
def hash (value : String) : String :=
  sha256 (lower (strip value))

/-- The comparison with the hash and, where it is configured, with the
development login code; `none` is an exception. -/
def Settings.codeMatches (challenge : OfficialLoginChallenge)
    (code : String) : Option Bool :=
  if challenge.codeHash = hash sha256 code then some true
  else
    match settings.officialDevLoginCode with
    | none => some false
    | some devCode =>
        if settings.environment = .development ∨
            settings.environment = .test then
          compareDigest devCode code
        else some false

/-- The row is locked and read, checked and compared; nothing is written. -/
def Store.verifyOfficialCode (store : Store) (body : OfficialCodeVerify)
    (now : Time) : Store × Option Handler :=
  match store.challenges.find body.challengeId with
  | none => (store, none)
  | some challenge =>
      if challenge.isLive now then
        let counted :=
          { challenge with attemptCount := challenge.attemptCount + 1 }
        match settings.codeMatches sha256 challenge body.code,
            challenge.officialUserId with
        | none, _ => (store, none)
        | some true, some officialId =>
            (store.lock body.challengeId,
              some (.reading body.challengeId body.code officialId now
                counted))
        | some _, _ =>
            (store.lock body.challengeId,
              some (.refusing body.challengeId body.code counted))
      else (store, none)

/-- The transaction that issues the session. -/
def Store.consume (store : Store) (challengeId code officialId : String)
    (checkedAt : Time) (counted : OfficialLoginChallenge)
    (official current : OfficialUser) (now : Time) : Store :=
  let written := store.setChallenge challengeId
    { counted with consumedAt := some now }
  let loggedIn :=
    { written with
      officials := written.officials.put officialId
        { current with lastLoginAt := some now } }
  ((loggedIn.addOfficialAudit officialId none "login").record
    (.issued challengeId code checkedAt
      (official.session settings officialId now))).unlock challengeId

def Handler.resume (store : Store) (handler : Handler) (choice : Choice) :
    Option (Store × Option Handler) :=
  match handler, choice.answer with
  | .counting email, .plain =>
      if settings.officialCodeMaxPerHour ≤
          store.recentOfficialChallengeCount (hash sha256 email)
            choice.now then
        some (store, none)
      else some (store, some (.lookingUp email))
  | .lookingUp email, .plain =>
      match store.officialsByEmail email with
      | [] => some (store, some (.creating email none))
      | [officialId] => some (store, some (.creating email (some officialId)))
      -- `scalar_one_or_none` raises.
      | _ => some (store, none)
  | .creating email officialUserId, .drawn challengeId number =>
      if number < 1000000 ∧ (store.challenges.find challengeId).isNone then
        let code := padded 6 number
        let expiresAt := choice.now + minutes 10
        some
          ((store.setChallenge challengeId
            { officialUserId := officialUserId
              emailHash := hash sha256 email, codeHash := hash sha256 code
              expiresAt := expiresAt, consumedAt := none, attemptCount := 0
              createdAt := choice.now }).record
            (.created challengeId code officialUserId expiresAt), none)
      else none
  | .verifying body, .plain =>
      if body.challengeId ∈ store.locked then none
      else some (store.verifyOfficialCode sha256 settings body choice.now)
  | .refusing challengeId code counted, .plain =>
      some
        (((store.setChallenge challengeId counted).record
          (.refused challengeId code)).unlock challengeId, none)
  | .reading challengeId code officialId checkedAt counted, .plain =>
      match store.officials.find officialId with
      | none => some (store.unlock challengeId, none)
      | some official =>
          if official.active then
            some
              (store.record (.found challengeId officialId official),
               some (.consuming challengeId code officialId checkedAt counted
                official))
          else some (store.unlock challengeId, none)
  | .consuming challengeId code officialId checkedAt counted official,
      .plain =>
      match store.officials.find officialId with
      -- The flush finds no row to update.
      | none => some (store.unlock challengeId, none)
      | some current =>
          some
            (store.consume settings challengeId code officialId checkedAt
              counted official current choice.now, none)
  | .administering officialId row, .plain =>
      some
        ({ store with officials := store.officials.put officialId row }, none)
  | handler, .raises =>
      some (handler.locks.elim store store.unlock, none)
  | _, _ => none

/-- A crash rolls back. -/
def Handler.release (store : Store) (handler : Handler) : Store :=
  handler.locks.elim store store.unlock

/-- Runs start from any officials, without challenges. -/
def loginProgram : Program Store Handler Request Choice :=
  { initial := fun store =>
      store.challenges = Table.empty ∧ store.locked = [] ∧
        store.journal = []
    start := Handler.start
    resume := Handler.resume sha256 settings
    release := Handler.release }

end

end JanSetu.Officials
