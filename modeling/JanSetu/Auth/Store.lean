import JanSetu.Auth.Codes
import JanSetu.Db.Session
import JanSetu.Library.Table

/-!
# The tables behind a login

The rows of `users`, `phone_verifications`, `login_approval_challenges`,
`contacts` and `whatsapp_messages` that signing in reads and writes, and the
statements of `repositories/users.py`, `repositories/login_approvals.py` and
`repositories/messages.py` on them.  Primary keys are uuids as text.  The last
fields of `Store` record what happened, for the statements about runs; no
statement of the program reads them.
-/

namespace JanSetu.Auth

structure User where
  phone : String
  contactId : Option String
deriving DecidableEq

inductive VerificationStatus where
  | pending
  | verified
  | consumed
deriving DecidableEq

structure PhoneVerification where
  phone : String
  codeHash : String
  status : VerificationStatus
  expiresAt : Time
  verifiedAt : Option Time
  userId : Option String
  createdAt : Time
deriving DecidableEq

inductive ApprovalStatus where
  | pending
  | approved
  | denied
  | superseded
  | fallback
  | consumed
deriving DecidableEq

structure LoginApprovalChallenge where
  userId : String
  contactId : String
  phone : String
  verifierHash : String
  browserNonceHash : String
  status : ApprovalStatus
  requestedAt : Time
  expiresAt : Time
  decidedAt : Option Time
  consumedAt : Option Time
  decisionMessageId : Option String
  approvalOutboundMessageId : Option String
deriving DecidableEq

inductive Direction where
  | incoming
  | outgoing
deriving DecidableEq

inductive MessageStatus where
  | received
  | pending
  | sending
  | sent
  | failed
  | blocked24h
deriving DecidableEq

inductive ReplyKind where
  | loginApproval
  | loginApprovalDecision
  | verifyCode
deriving DecidableEq

/-- A row of `whatsapp_messages`.  The messages of a login belong to no
conversation; `buttons` are the ids and titles in the payload. -/
structure WhatsAppMessage where
  contactId : String
  metaMessageId : Option String
  direction : Direction
  status : MessageStatus
  replyKind : Option ReplyKind
  textBody : Option String
  buttons : List (String × String)
  idempotencyKey : Option String
  inResponseTo : Option String
  receivedAt : Time
  lockedUntil : Option Time
  attemptCount : Nat
deriving DecidableEq

/-- The body of a `request_code`. -/
structure RequestCode where
  phone : String
  browserNonce : Option String
deriving DecidableEq

/-- An inbound WhatsApp message, as far as signing in reads it. -/
structure IncomingMessage where
  waId : String
  metaMessageId : String
  receivedAt : Time
  textBody : Option String
  replyId : Option String
  contextMessageId : Option String
deriving DecidableEq

/-- A challenge as a `request_code` opened it: the nonce of the browser that
asked, the verifier in the buttons, and the id that its prompt is stored
under. -/
structure Opening where
  userId : String
  contactId : String
  phone : String
  browserNonce : String
  verifier : String
  promptId : String
  openedAt : Time
deriving DecidableEq

/-- A decision that changed a challenge: the message that made it, what its
button id said, and the prompt it replied to. -/
structure Decision where
  challengeId : String
  approves : Bool
  verifier : String
  message : IncomingMessage
  contactId : String
  promptId : String
  prompt : WhatsAppMessage
  decidedAt : Time
deriving DecidableEq

/-- Tokens handed out to a poll of a phone verification. -/
structure VerificationIssue where
  verificationId : String
  userId : String
  issuedAt : Time
deriving DecidableEq

/-- Tokens handed out to a poll of a login approval, with the nonce the poll
presented. -/
structure ApprovalIssue where
  challengeId : String
  browserNonce : String
  userId : String
  issuedAt : Time
deriving DecidableEq

structure Store where
  contacts : Table String String
  users : Table String User
  verifications : Table String PhoneVerification
  approvals : Table String LoginApprovalChallenge
  messages : Table String WhatsAppMessage
  consumptions : List String
  /-- The contacts whose rows an open transaction has upserted. -/
  heldContacts : List String
  /-- The messages that an open transaction has leased. -/
  heldMessages : List String
  requests : List RequestCode
  /-- The codes that `create_verification` has returned. -/
  codes : Table String String
  openings : Table String Opening
  inbound : List IncomingMessage
  decisions : List Decision
  verificationIssues : List VerificationIssue
  approvalIssues : List ApprovalIssue
deriving DecidableEq

/-- The `status` of the answer to a poll. -/
inductive PollStatus where
  | pending
  | verified
  | denied
  | expired
deriving DecidableEq

/-- What `auth_status` answers before it tries to consume the row. -/
def PhoneVerification.pollStatus (verification : PhoneVerification)
    (now : Time) : Option PollStatus :=
  match verification.status with
  | .pending => if verification.expiresAt ≤ now then some .expired else some .pending
  | .verified => if verification.userId.isNone then some .expired else none
  | .consumed => some .expired

/-- What `approval_status` answers before it tries to consume the row. -/
def LoginApprovalChallenge.pollStatus (challenge : LoginApprovalChallenge)
    (now : Time) : Option PollStatus :=
  if challenge.expiresAt ≤ now ∧ challenge.status = .pending then some .expired
  else if challenge.status = .denied then some .denied
  else if challenge.status ≠ .approved then
    if challenge.status = .pending then some .pending else some .expired
  else none

structure Settings where
  verificationMaxPerHour : Nat
  verificationCodeTtlMinutes : Nat
  serviceWindowHours : Nat
deriving DecidableEq

namespace Store

/-! ## Users and verifications -/

def countRecentVerifications (store : Store) (phone : String) (since : Time) :
    Nat :=
  store.verifications.count fun _ row =>
    row.phone = phone && since ≤ row.createdAt

def createPhoneVerification (store : Store) (verificationId phone : String)
    (codeHash : String) (expiresAt now : Time) : Store :=
  { store with
    verifications := store.verifications.put verificationId
      { phone := phone, codeHash := codeHash, status := .pending
        expiresAt := expiresAt, verifiedAt := none, userId := none
        createdAt := now } }

/-- The rows that `scalar_one_or_none` then takes at most one of. -/
def findPendingVerificationByCodeHash (store : Store) (codeHash : String)
    (now : Time) : List String :=
  store.verifications.select fun _ row =>
    row.codeHash = codeHash && row.status = .pending && now < row.expiresAt

/-- `INSERT ... ON CONFLICT (phone) DO UPDATE`: the user of the phone, created
under `userId` when there is none.  `none` is the unique violation of a contact
that another user is linked to. -/
def upsertUserForVerifiedPhone (store : Store) (phone contactId : String)
    (userId : String) : Option (Store × String) :=
  let found :=
    match store.users.first fun _ user => user.phone = phone with
    | some (existing, _) => existing
    | none => userId
  let linked := store.users.first fun key user =>
    user.contactId = some contactId && key ≠ found
  match linked with
  | some _ => none
  | none =>
      some ({ store with
        users := store.users.put found
          { phone := phone, contactId := some contactId } }, found)

/-- `UPDATE ... WHERE id = :id`: the status the row has by now is not asked. -/
def markVerificationVerified (store : Store) (verificationId userId : String)
    (now : Time) : Store :=
  { store with
    verifications := store.verifications.updateWhere
      (fun key _ => key = verificationId)
      fun row =>
        { row with
          status := .verified, verifiedAt := some now, userId := some userId } }

def consumeVerification (store : Store) (verificationId : String) :
    Option Store :=
  match store.verifications.find verificationId with
  | some row =>
      if row.status = .verified then
        some { store with
          verifications := store.verifications.put verificationId
            { row with status := .consumed } }
      else none
  | none => none

/-! ## Login approvals -/

def getLinkedUserByPhone (store : Store) (phone : String) :
    Option (String × String) :=
  match store.users.first fun _ user =>
      user.phone = phone && user.contactId.isSome with
  | some (userId, user) => user.contactId.map fun contact => (userId, contact)
  | none => none

def latestInboundAt (store : Store) (contactId : String) : Option Time :=
  (store.messages.rows.entries.filterMap fun entry =>
    if entry.2.contactId = contactId ∧ entry.2.direction = .incoming then
      some entry.2.receivedAt
    else none).max?

def countRecentLoginApprovals (store : Store) (phone : String)
    (since : Time) : Nat :=
  store.approvals.count fun _ row =>
    row.phone = phone && since ≤ row.requestedAt

/-- The rows that the `UPDATE` of `create_login_approval` sees. -/
def pendingApprovalsOf (store : Store) (userId : String) : List String :=
  store.approvals.select fun _ row =>
    row.userId = userId && row.status = .pending

def supersede (store : Store) (challengeIds : List String) (now : Time) :
    Store :=
  { store with
    approvals := store.approvals.updateWhere
      (fun key row => key ∈ challengeIds && row.status = .pending)
      fun row =>
        { row with status := .superseded, decidedAt := some now } }

def insertApproval (store : Store) (challengeId : String)
    (challenge : LoginApprovalChallenge) : Store :=
  { store with approvals := store.approvals.put challengeId challenge }

def attachApprovalOutbound (store : Store)
    (challengeId messageId : String) : Store :=
  { store with
    approvals := store.approvals.updateWhere
      (fun key row => key = challengeId && row.status = .pending)
      fun row => { row with approvalOutboundMessageId := some messageId } }

/-- The prompt that the challenge was sent with, when its `wamid` is the one
the reply refers to. -/
def promptOf (store : Store) (challenge : LoginApprovalChallenge)
    (contextMessageId : String) : Option (String × WhatsAppMessage) :=
  match challenge.approvalOutboundMessageId with
  | none => none
  | some messageId =>
      match store.messages.find messageId with
      | none => none
      | some message =>
          if message.metaMessageId = some contextMessageId then
            some (messageId, message)
          else none

def decidedRow (row : LoginApprovalChallenge) (approves : Bool)
    (decisionMessageId : String) (now : Time) : LoginApprovalChallenge :=
  { row with
    status := if approves then .approved else .denied
    decidedAt := some now
    decisionMessageId := some decisionMessageId }

/-- The conditional `UPDATE` of `decide_login_approval`, or `none` when it
matches no row. -/
def decideLoginApproval (store : Store) (challengeId verifierHash : String)
    (contactId phone contextMessageId decisionMessageId : String)
    (approves : Bool) (now : Time) :
    Option (Store × String × WhatsAppMessage) :=
  match store.approvals.find challengeId with
  | none => none
  | some row =>
      match store.promptOf row contextMessageId with
      | none => none
      | some (promptId, prompt) =>
          if row.status = .pending ∧ now < row.expiresAt ∧
              row.verifierHash = verifierHash ∧
              row.contactId = contactId ∧ row.phone = phone then
            some ({ store with
              approvals := store.approvals.put challengeId
                (decidedRow row approves decisionMessageId now) },
              promptId, prompt)
          else none

def consumeLoginApproval (store : Store)
    (challengeId browserNonceHash : String) (now : Time) :
    Option (Store × String) :=
  match store.approvals.find challengeId with
  | none => none
  | some row =>
      if row.status = .approved ∧ now < row.expiresAt ∧
          row.browserNonceHash = browserNonceHash then
        some ({ store with
          approvals := store.approvals.put challengeId
            { row with status := .consumed, consumedAt := some now } },
          row.userId)
      else none

def getLoginApproval (store : Store)
    (challengeId browserNonceHash : String) : Option LoginApprovalChallenge :=
  match store.approvals.find challengeId with
  | none => none
  | some row => if row.browserNonceHash = browserNonceHash then some row else none

def markLoginApprovalFallback (store : Store) (challengeId : String)
    (now : Time) : Store :=
  { store with
    approvals := store.approvals.updateWhere
      (fun key row => key = challengeId && row.status = .pending)
      fun row => { row with status := .fallback, decidedAt := some now } }

/-- The flush of `challenge.status = "fallback"` on a row that was read before:
an `UPDATE` by primary key. -/
def overwriteApprovalFallback (store : Store) (challengeId : String)
    (now : Time) : Store :=
  { store with
    approvals := store.approvals.updateWhere
      (fun key _ => key = challengeId)
      fun row => { row with status := .fallback, decidedAt := some now } }

/-! ## Messages -/

def storeIncoming (store : Store) (contactId messageId : String)
    (message : IncomingMessage) : Store :=
  let row : WhatsAppMessage :=
    { contactId := contactId, metaMessageId := some message.metaMessageId
      direction := .incoming, status := .received, replyKind := none
      textBody := message.textBody, buttons := []
      idempotencyKey := none, inResponseTo := none
      receivedAt := message.receivedAt, lockedUntil := none
      attemptCount := 0 }
  match store.messages.first fun _ row =>
      row.metaMessageId = some message.metaMessageId with
  | some _ => store
  | none => { store with messages := store.messages.put messageId row }

/-- The row of `store_outgoing_pending`, unless one with its idempotency key
exists. -/
def storeOutgoingPending (store : Store) (messageId : String)
    (contactId : String) (replyKind : ReplyKind) (textBody : String)
    (buttons : List (String × String)) (idempotencyKey : String)
    (inResponseTo : Option String) (now : Time) : Store × Option String :=
  match store.messages.first fun _ row =>
      row.idempotencyKey = some idempotencyKey with
  | some _ => (store, none)
  | none =>
      ({ store with
        messages := store.messages.put messageId
          { contactId := contactId, metaMessageId := none
            direction := .outgoing, status := .pending
            replyKind := some replyKind, textBody := some textBody
            buttons := buttons, idempotencyKey := some idempotencyKey
            inResponseTo := inResponseTo, receivedAt := now
            lockedUntil := none, attemptCount := 0 } }, some messageId)

def setMessage (store : Store) (messageId : String)
    (message : WhatsAppMessage) : Store :=
  { store with messages := store.messages.put messageId message }

end Store

/-- A row that `claim_outbound` may lease. -/
def WhatsAppMessage.Claimable (message : WhatsAppMessage) (now : Time) :
    Prop :=
  message.direction = .outgoing ∧
    (message.status = .pending ∨
      message.status = .sending ∧
        ∃ lockedUntil ∈ message.lockedUntil, lockedUntil < now)

instance (message : WhatsAppMessage) (now : Time) :
    Decidable (message.Claimable now) :=
  inferInstanceAs (Decidable (_ ∧ (_ ∨ _ ∧ _)))

def leaseSeconds : Nat := 30

def maxSendAttempts : Nat := 5

def WhatsAppMessage.claim (message : WhatsAppMessage) (now : Time) :
    WhatsAppMessage :=
  { message with
    status := .sending
    lockedUntil := some (now + seconds leaseSeconds)
    attemptCount := message.attemptCount + 1 }

def WhatsAppMessage.mark (message : WhatsAppMessage) (status : MessageStatus) :
    WhatsAppMessage :=
  { message with status := status, lockedUntil := none }

end JanSetu.Auth
