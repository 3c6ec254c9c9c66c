import JanSetu.Auth.Store
import JanSetu.Whatsapp.Moves

/-!
# Dispatch

The senders of `dispatch.py` beside the drivers that store what they send.  A
row of `store.outgoing` is known by its idempotency key, and the columns that
sending it reads and writes are kept in a table of their own.  The transaction
that claims a row is one step, since it holds the row from the claim to the
commit; the Graph call starts and ends in later steps.
-/

namespace JanSetu.Whatsapp

open Auth (MessageStatus ApprovalStatus LoginApprovalChallenge)
open Pipeline (Geometry)
open Process (Program)

structure Delivery where
  status : MessageStatus
  lockedUntil : Option Time
  attemptCount : Nat
  metaMessageId : Option String
deriving DecidableEq

/-- The columns of a row that has just been inserted. -/
def Delivery.pending : Delivery :=
  { status := .pending, lockedUntil := none, attemptCount := 0
    metaMessageId := none }

/-- The `WHERE` of `claim_outbound` and of `fetch_sweepable_outbound`. -/
def Delivery.claimable (now : Time) (row : Delivery) : Bool :=
  row.status = .pending ||
    (row.status = .sending && row.lockedUntil.any (· < now))

def Delivery.claim (now : Time) (row : Delivery) : Delivery :=
  { row with
    status := .sending
    lockedUntil := some (now + seconds Auth.leaseSeconds)
    attemptCount := row.attemptCount + 1 }

def Delivery.mark (status : MessageStatus) (metaMessageId : Option String)
    (row : Delivery) : Delivery :=
  { row with
    status := status
    lockedUntil := none
    metaMessageId := metaMessageId.or row.metaMessageId }

/-- What is kept for the statements about runs and read by no operation: a
Graph call was started, and a row marked blocked, with the last inbound message
of the row's contact by then. -/
inductive Dispatched where
  | called (messageId : String) (lastInbound : Option Time) (now : Time)
  | blocked (messageId : String) (lastInbound : Option Time) (now : Time)
deriving DecidableEq

structure Outbox where
  store : Store
  deliveries : Table String Delivery
  approvals : Table String LoginApprovalChallenge
  journal : List Dispatched

def Store.outgoingMessage (store : Store) (messageId : String) :
    Option OutgoingMessage :=
  store.outgoing.find? (·.idempotencyKey = messageId)

def Store.latestInbound (store : Store) (contactId : String) : Option Time :=
  ((store.incoming.filter (·.contactId = contactId)).map (·.receivedAt)).max?

/-- The scalar that `send_pending` selects; a row without a conversation has
none. -/
def Store.serviceWindowExpiresAt (store : Store) (message : OutgoingMessage) :
    Option Time :=
  message.conversationId.bind fun id =>
    (store.conversations.find id).map (·.serviceWindowExpiresAt)

def insideWindow (settings : Settings) (lastInbound : Option Time)
    (now : Time) : Bool :=
  lastInbound.any fun time => now ≤ time + hours settings.serviceWindowHours

namespace Outbox

def record (outbox : Outbox) (entry : Dispatched) : Outbox :=
  { outbox with journal := entry :: outbox.journal }

def delivery (outbox : Outbox) (messageId : String) : Delivery :=
  (outbox.deliveries.find messageId).getD .pending

def setDelivery (outbox : Outbox) (messageId : String) (row : Delivery) :
    Outbox :=
  { outbox with deliveries := outbox.deliveries.put messageId row }

def lastInbound (outbox : Outbox) (messageId : String) : Option Time :=
  (outbox.store.outgoingMessage messageId).bind fun message =>
    outbox.store.latestInbound message.contactId

/-! ## `messages.py` -/

/-- The row and its columns after the claim, when this caller wins it. -/
def claimOutbound (outbox : Outbox) (messageId : String) (now : Time) :
    Option (OutgoingMessage × Delivery) :=
  match outbox.store.outgoingMessage messageId with
  | none => none
  | some message =>
      let row := outbox.delivery messageId
      if row.claimable now then some (message, row.claim now) else none

/-- An `UPDATE` by id: it asks neither for the lease nor for the status. -/
def markOutbound (outbox : Outbox) (messageId : String)
    (status : MessageStatus) (metaMessageId : Option String) : Outbox :=
  outbox.setDelivery messageId
    ((outbox.delivery messageId).mark status metaMessageId)

/-- `meta_message_id` is unique. -/
def hasMetaMessageId (outbox : Outbox) (messageId : String) :
    Option String → Bool
  | none => false
  | some metaMessageId =>
      outbox.store.incoming.any (·.metaMessageId = metaMessageId) ||
        (outbox.deliveries.first fun key row =>
          key ≠ messageId && row.metaMessageId = some metaMessageId).isSome

/-- Any of the rows that can be claimed, up to the limit, can be the oldest
ones. -/
def Sweepable (outbox : Outbox) (limit : Nat) (now : Time)
    (messageIds : List String) : Prop :=
  messageIds.Nodup ∧ messageIds.length ≤ limit ∧
    ∀ messageId ∈ messageIds,
      (outbox.claimOutbound messageId now).isSome = true

instance (outbox : Outbox) (limit : Nat) (now : Time)
    (messageIds : List String) :
    Decidable (outbox.Sweepable limit now messageIds) :=
  inferInstanceAs (Decidable (_ ∧ _ ∧ _))

/-! ## The gates of `send_pending` -/

/-- The pending challenges that the row prompts for. -/
def challengesOf (outbox : Outbox) (messageId : String) (now : Time) :
    List String :=
  outbox.approvals.select fun _ row =>
    row.approvalOutboundMessageId = some messageId &&
      row.status = .pending && now < row.expiresAt

/-- `challenge.status = "fallback"`, flushed by id. -/
def fallBack (outbox : Outbox) (challengeId : Option String) (now : Time) :
    Outbox :=
  { outbox with
    approvals := outbox.approvals.updateWhere
      (fun key _ => some key = challengeId)
      fun row => { row with status := .fallback, decidedAt := some now } }

end Outbox

/-- A row that is clear is sent; a blocked one may take its challenge along. -/
inductive Gate where
  | clear
  | failed
  | blocked (challengeId : Option String)
  | raises
deriving DecidableEq

section

variable (settings : Settings)

def Outbox.gate (outbox : Outbox) (messageId : String)
    (message : OutgoingMessage) (now : Time) : Gate :=
  if (outbox.store.serviceWindowExpiresAt message).any (· < now) then
    .blocked none
  else if message.replyKind ≠ "login_approval" then .clear
  else
    match outbox.challengesOf messageId now with
    | [] => .failed
    | [challengeId] =>
        let contact := (outbox.approvals.find challengeId).map (·.contactId)
        if insideWindow settings (contact.bind outbox.store.latestInbound) now
        then .clear
        else .blocked (some challengeId)
    -- `scalar_one_or_none` raises.
    | _ => .raises

/-! ## Senders -/

/-- `rest` is what a sweep still has to send.  A sender has claimed its row
from `posting` on: it keeps the attempt of its claim, and until the call starts
the time of the gate. -/
inductive Sender where
  | sweeping (limit : Nat)
  | claiming (messageId : String) (rest : List String)
  | posting (messageId : String) (attempt : Nat) (checkedAt : Time)
      (rest : List String)
  | calling (messageId : String) (attempt : Nat) (rest : List String)
deriving DecidableEq

def Sender.next : List String → Option Sender
  | [] => none
  | messageId :: rest => some (.claiming messageId rest)

/-- The first transaction of `send_pending`. -/
def Outbox.sendPending (outbox : Outbox) (messageId : String)
    (rest : List String) (now : Time) : Outbox × Option Sender :=
  match outbox.claimOutbound messageId now with
  | none => (outbox, Sender.next rest)
  | some (message, claimed) =>
      let failed := outbox.setDelivery messageId (claimed.mark .failed none)
      if Auth.maxSendAttempts < claimed.attemptCount then
        (failed, Sender.next rest)
      else
        match outbox.gate settings messageId message now with
        | .clear =>
            (outbox.setDelivery messageId claimed,
              some (.posting messageId claimed.attemptCount now rest))
        | .failed => (failed, Sender.next rest)
        | .blocked challengeId =>
            let blocked := outbox.setDelivery messageId
              (claimed.mark .blocked24h none)
            ((blocked.fallBack challengeId now).record
              (.blocked messageId (outbox.lastInbound messageId) now),
              Sender.next rest)
        | .raises => (outbox, none)

/-- `accepted` carries the id that `_provider_message_id` finds in the
response; `refused` is one of the exceptions that `send_pending` catches, and
`raises` any other. -/
inductive Party.Answer where
  | task (answer : Whatsapp.Answer)
  | plain
  | selected (messageIds : List String)
  | accepted (metaMessageId : Option String)
  | refused
  | raises
deriving DecidableEq

structure Party.Choice where
  now : Time
  answer : Party.Answer
deriving DecidableEq

/-- The client may refuse before it calls. -/
def Sender.resume (outbox : Outbox) (sender : Sender)
    (choice : Party.Choice) : Option (Outbox × Option Sender) :=
  match sender, choice.answer with
  | .sweeping limit, .selected messageIds =>
      if outbox.Sweepable limit choice.now messageIds then
        some (outbox, Sender.next messageIds)
      else none
  | .claiming messageId rest, .plain =>
      some (outbox.sendPending settings messageId rest choice.now)
  | .posting messageId attempt _ rest, .plain =>
      some
        (outbox.record
          (.called messageId (outbox.lastInbound messageId) choice.now),
         some (.calling messageId attempt rest))
  | .posting messageId _ _ rest, .refused =>
      some (outbox.markOutbound messageId .pending none, Sender.next rest)
  | .calling messageId _ rest, .refused =>
      some (outbox.markOutbound messageId .pending none, Sender.next rest)
  | .calling messageId _ rest, .accepted metaMessageId =>
      if outbox.hasMetaMessageId messageId metaMessageId then
        some (outbox, none)
      else
        some
          (outbox.markOutbound messageId .sent metaMessageId,
           Sender.next rest)
  | _, .raises => some (outbox, none)
  | _, _ => none

end

/-! ## Login prompts -/

/-- A challenge that `request_code` creates, and its prompt. -/
structure LoginPrompt where
  challengeId : String
  userId : String
  contactId : String
  phone : String
  verifierHash : String
  browserNonceHash : String
  expiresAt : Time
  textBody : String
  payload : Payload
deriving DecidableEq

def LoginPrompt.challenge (prompt : LoginPrompt) (now : Time)
    (approvalOutboundMessageId : Option String) : LoginApprovalChallenge :=
  { userId := prompt.userId, contactId := prompt.contactId
    phone := prompt.phone, verifierHash := prompt.verifierHash
    browserNonceHash := prompt.browserNonceHash, status := .pending
    requestedAt := now, expiresAt := prompt.expiresAt, decidedAt := none
    consumedAt := none, decisionMessageId := none
    approvalOutboundMessageId := approvalOutboundMessageId }

def LoginPrompt.message (prompt : LoginPrompt) : OutgoingMessage :=
  { contactId := prompt.contactId
    conversationId := none
    replyKind := "login_approval"
    messageType := "interactive"
    textBody := some prompt.textBody
    payload := prompt.payload
    idempotencyKey := "login-approval:" ++ prompt.challengeId
    inResponseToMessageId := none }

/-- The transaction of `request_code`: the user's pending challenges are
superseded, and the new one gets the prompt when it is a new row.  `none` is an
id that is not fresh. -/
def Outbox.requestCode (outbox : Outbox) (prompt : LoginPrompt) (now : Time) :
    Option Outbox :=
  if (outbox.approvals.find prompt.challengeId).isSome then none
  else
    let (stored, created) := outbox.store.storeOutgoingPending prompt.message
    let superseded := outbox.approvals.updateWhere
      (fun _ row => row.userId = prompt.userId && row.status = .pending)
      fun row => { row with status := .superseded, decidedAt := some now }
    let sent := if created then some prompt.message.idempotencyKey else none
    some
      { outbox with
        store := stored
        approvals :=
          superseded.put prompt.challengeId (prompt.challenge now sent) }

/-- The statements that decide, supersede, consume or give up a challenge.
Which of them applies is not asked: any status can be written at any time. -/
def Outbox.settle (outbox : Outbox) (challengeId : String)
    (status : ApprovalStatus) : Outbox :=
  { outbox with
    approvals := outbox.approvals.updateWhere (fun key _ => key = challengeId)
      fun row => { row with status := status } }

/-! ## Parties -/

inductive Party where
  | task (task : Task)
  | sender (sender : Sender)
  | prompting (prompt : LoginPrompt)
  | settling (challengeId : String) (status : ApprovalStatus)
deriving DecidableEq

inductive Party.Request where
  | task (request : Whatsapp.Request)
  | sendPending (messageId : String)
  | sweepPendingOutbound (limit : Nat)
  | requestCode (prompt : LoginPrompt)
  | settle (challengeId : String) (status : ApprovalStatus)
deriving DecidableEq

def Party.start : Party.Request → Party
  | .task request => .task (Task.start request)
  | .sendPending messageId => .sender (.claiming messageId [])
  | .sweepPendingOutbound limit => .sender (.sweeping limit)
  | .requestCode prompt => .prompting prompt
  | .settle challengeId status => .settling challengeId status

section

variable (settings : Settings) (geometry : Geometry)

def Party.resume (outbox : Outbox) (party : Party) (choice : Party.Choice) :
    Option (Outbox × Option Party) :=
  match party, choice.answer with
  | .task driver, .task answer =>
      (driver.resume settings geometry outbox.store
        { now := choice.now, answer := answer }).map fun result =>
          ({ outbox with store := result.1 }, result.2.map .task)
  | .sender sending, _ =>
      (sending.resume settings outbox choice).map fun result =>
        (result.1, result.2.map .sender)
  | .prompting prompt, .plain =>
      (outbox.requestCode prompt choice.now).map fun after => (after, none)
  | .settling challengeId status, .plain =>
      some (outbox.settle challengeId status, none)
  | _, _ => none

def Party.release (outbox : Outbox) : Party → Outbox
  | .task driver => { outbox with store := driver.release outbox.store }
  | _ => outbox

/-- Runs start from any webhook events, before the first message. -/
def dispatchProgram : Program Outbox Party Party.Request Party.Choice :=
  { initial := fun outbox =>
      outbox.store.Initial ∧ outbox.deliveries = Table.empty ∧
        outbox.approvals = Table.empty ∧ outbox.journal = []
    start := Party.start
    resume := Party.resume settings geometry
    release := Party.release }

end

/-! ## Everything a step can do -/

section

variable {settings : Settings} {geometry : Geometry} {outbox after : Outbox}
  {choice : Party.Choice}

inductive Sender.Moves (settings : Settings) (outbox : Outbox)
    (choice : Party.Choice) : Sender → Outbox → Option Sender → Prop where
  | swept {limit : Nat} {messageIds : List String} :
      Moves settings outbox choice (.sweeping limit) outbox
        (Sender.next messageIds)
  | skipped {messageId : String} {rest : List String} :
      outbox.claimOutbound messageId choice.now = none →
      Moves settings outbox choice (.claiming messageId rest) outbox
        (Sender.next rest)
  | failed {messageId : String} {rest : List String}
      {message : OutgoingMessage} {claimed : Delivery} :
      outbox.claimOutbound messageId choice.now = some (message, claimed) →
      Auth.maxSendAttempts < claimed.attemptCount ∨
        outbox.gate settings messageId message choice.now = .failed →
      Moves settings outbox choice (.claiming messageId rest)
        (outbox.setDelivery messageId (claimed.mark .failed none))
        (Sender.next rest)
  | blocked {messageId : String} {rest : List String}
      {message : OutgoingMessage} {claimed : Delivery}
      {challengeId : Option String} :
      outbox.claimOutbound messageId choice.now = some (message, claimed) →
      claimed.attemptCount ≤ Auth.maxSendAttempts →
      outbox.gate settings messageId message choice.now =
        .blocked challengeId →
      Moves settings outbox choice (.claiming messageId rest)
        (((outbox.setDelivery messageId
            (claimed.mark .blocked24h none)).fallBack challengeId
              choice.now).record
          (.blocked messageId (outbox.lastInbound messageId) choice.now))
        (Sender.next rest)
  | claimed {messageId : String} {rest : List String}
      {message : OutgoingMessage} {claimed : Delivery} :
      outbox.claimOutbound messageId choice.now = some (message, claimed) →
      claimed.attemptCount ≤ Auth.maxSendAttempts →
      outbox.gate settings messageId message choice.now = .clear →
      Moves settings outbox choice (.claiming messageId rest)
        (outbox.setDelivery messageId claimed)
        (some (.posting messageId claimed.attemptCount choice.now rest))
  | called {messageId : String} {attempt : Nat} {checkedAt : Time}
      {rest : List String} :
      choice.answer = .plain →
      Moves settings outbox choice
        (.posting messageId attempt checkedAt rest)
        (outbox.record
          (.called messageId (outbox.lastInbound messageId) choice.now))
        (some (.calling messageId attempt rest))
  | uncalled {messageId : String} {attempt : Nat} {checkedAt : Time}
      {rest : List String} :
      Moves settings outbox choice
        (.posting messageId attempt checkedAt rest)
        (outbox.markOutbound messageId .pending none) (Sender.next rest)
  | refused {messageId : String} {attempt : Nat} {rest : List String} :
      Moves settings outbox choice (.calling messageId attempt rest)
        (outbox.markOutbound messageId .pending none) (Sender.next rest)
  | accepted {messageId : String} {attempt : Nat} {rest : List String}
      {metaMessageId : Option String} :
      Moves settings outbox choice (.calling messageId attempt rest)
        (outbox.markOutbound messageId .sent metaMessageId)
        (Sender.next rest)
  | raised {sender : Sender} :
      Moves settings outbox choice sender outbox none

theorem Sender.resume_moves {sender : Sender} {next : Option Sender}
    (resumed : sender.resume settings outbox choice = some (after, next)) :
    sender.Moves settings outbox choice after next := by
  unfold Sender.resume at resumed
  split at resumed
  case h_1 =>
    split at resumed
    · cases resumed
      exact .swept
    · cases resumed
  case h_2 messageId rest _ =>
    have same := Option.some.inj resumed
    unfold Outbox.sendPending at same
    dsimp only at same
    split at same
    case h_1 unclaimed =>
      cases same
      exact .skipped unclaimed
    case h_2 message row claims =>
      split at same
      case isTrue often =>
        cases same
        exact .failed claims (.inl often)
      case isFalse few =>
        have few := Nat.le_of_not_lt few
        split at same
        case h_1 clear =>
          cases same
          exact .claimed claims few clear
        case h_2 failed =>
          cases same
          exact .failed claims (.inr failed)
        case h_3 blocked =>
          cases same
          exact .blocked claims few blocked
        case h_4 =>
          cases same
          exact .raised
  case h_3 plain =>
    cases resumed
    exact .called plain
  case h_4 =>
    cases resumed
    exact .uncalled
  case h_5 =>
    cases resumed
    exact .refused
  case h_6 =>
    split at resumed
    · cases resumed
      exact .raised
    · cases resumed
      exact .accepted
  case h_7 =>
    cases resumed
    exact .raised
  case h_8 => cases resumed

/-- A step of a driver, of a sender, or of a login. -/
theorem Party.resume_cases {party : Party} {next : Option Party}
    (resumed : party.resume settings geometry outbox choice =
      some (after, next)) :
    (∃ driver answer store further, party = .task driver ∧
      driver.resume settings geometry outbox.store
        { now := choice.now, answer := answer } = some (store, further) ∧
      after = { outbox with store := store } ∧
      next = further.map .task) ∨
    (∃ sending further, party = .sender sending ∧
      sending.Moves settings outbox choice after further ∧
      next = further.map .sender) ∨
    (∃ prompt, party = .prompting prompt ∧
      outbox.requestCode prompt choice.now = some after ∧ next = none) ∨
    (∃ challengeId status, party = .settling challengeId status ∧
      after = outbox.settle challengeId status ∧ next = none) := by
  unfold Party.resume at resumed
  split at resumed
  case h_1 driver answer _ =>
    obtain ⟨⟨store, further⟩, ran, same⟩ :=
      Option.map_eq_some_iff.mp resumed
    cases same
    exact .inl ⟨driver, answer, store, further, rfl, ran, rfl, rfl⟩
  case h_2 sending =>
    obtain ⟨⟨moved, further⟩, ran, same⟩ :=
      Option.map_eq_some_iff.mp resumed
    cases same
    exact .inr (.inl
      ⟨sending, further, rfl, Sender.resume_moves ran, rfl⟩)
  case h_3 prompt _ =>
    obtain ⟨created, ran, same⟩ := Option.map_eq_some_iff.mp resumed
    cases same
    exact .inr (.inr (.inl ⟨prompt, rfl, ran, rfl⟩))
  case h_4 challengeId status _ =>
    cases resumed
    exact .inr (.inr (.inr ⟨challengeId, status, rfl, rfl, rfl⟩))
  case h_5 => cases resumed

theorem Outbox.claimOutbound_eq {messageId : String} {now : Time}
    {message : OutgoingMessage} {claimed : Delivery}
    (claims : outbox.claimOutbound messageId now = some (message, claimed)) :
    outbox.store.outgoingMessage messageId = some message ∧
      (outbox.delivery messageId).claimable now = true ∧
      claimed = (outbox.delivery messageId).claim now := by
  unfold Outbox.claimOutbound at claims
  split at claims
  · cases claims
  case h_2 found =>
    dsimp only at claims
    split at claims
    case isTrue claimable =>
      cases claims
      exact ⟨found, claimable, rfl⟩
    case isFalse => cases claims

theorem Outbox.delivery_setDelivery (outbox : Outbox)
    (messageId other : String) (row : Delivery) :
    (outbox.setDelivery messageId row).delivery other =
      if other = messageId then row else outbox.delivery other := by
  unfold Outbox.delivery Outbox.setDelivery
  rw [Table.find_put]
  split
  · rfl
  · rfl

/-- A login changes no row's columns and starts no call. -/
theorem Outbox.requestCode_rows {prompt : LoginPrompt} {now : Time}
    (created : outbox.requestCode prompt now = some after) :
    after.deliveries = outbox.deliveries ∧ after.journal = outbox.journal := by
  unfold Outbox.requestCode at created
  split at created
  · cases created
  · cases created
    exact ⟨rfl, rfl⟩

theorem Party.release_rows (party : Party) (outbox : Outbox) :
    (party.release outbox).deliveries = outbox.deliveries ∧
      (party.release outbox).journal = outbox.journal := by
  cases party <;> exact ⟨rfl, rfl⟩

end

/-! ## A small outbox -/

def Outbox.ofEvents (events : List (String × List IncomingWhatsAppMessage)) :
    Outbox :=
  { store := .ofEvents events []
    deliveries := Table.empty
    approvals := Table.empty
    journal := [] }

theorem Outbox.ofEvents_initial {settings : Settings} {geometry : Geometry}
    {events : List (String × List IncomingWhatsAppMessage)} :
    (dispatchProgram settings geometry).initial (.ofEvents events) :=
  ⟨Store.ofEvents_initial (by simp), rfl, rfl, rfl⟩

/-- A message with a verification code, whose reply belongs to no
conversation. -/
def sampleCode : Outbox :=
  .ofEvents [("e1", [sampleText "m1" "JS-ABC123"])]

def codeReply : String :=
  "verify:m1"

/-- The steps of a driver of an event with one message, whose replies are stored
and not sent. -/
def drivesEvent (eventId : String) (now : Time) :
    Party.Request × List Party.Choice :=
  (.task (.driveEvent eventId),
    [⟨now, .task .plain⟩, ⟨now, .task .plain⟩, ⟨now, .task .plain⟩,
     ⟨now, .task .plain⟩, ⟨now, .task (.handled sampleInputs)⟩,
     ⟨now, .task .plain⟩, ⟨now, .task .plain⟩])

end JanSetu.Whatsapp
