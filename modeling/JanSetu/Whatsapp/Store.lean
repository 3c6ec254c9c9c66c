import JanSetu.Whatsapp.Turns

/-!
# Conversations in the database

The tables that the drivers of webhook events share and the statements they
run on them.  A contact is known by its WhatsApp id, which is unique.  What an
open transaction has inserted or locked and not yet committed is kept beside
the tables: the message ids it has claimed and the contacts it has locked.
-/

namespace JanSetu.Whatsapp

structure Settings where
  autoReplyEnabled : Bool
  conversationTtlHours : Nat
  serviceWindowHours : Nat
  pipeline : Pipeline.Settings
deriving DecidableEq

def eventLeaseSeconds : Nat := 60

def maxEventAttempts : Nat := 5

def stuckProcessingAfterSeconds : Nat := 300

/-- `payload` holds the messages that `iter_incoming_messages` extracts. -/
structure WebhookEvent where
  payload : List IncomingWhatsAppMessage
  attemptCount : Nat
  lockedUntil : Option Time
  processedAt : Option Time
deriving DecidableEq

structure Conversation where
  contactId : String
  state : ConversationState
  context : Context
  stateVersion : Nat
  active : Bool
  lastUserMessageAt : Time
  serviceWindowExpiresAt : Time
  expiresAt : Option Time
deriving DecidableEq

structure FsmMessageConsumption where
  inboundMessageId : String
  conversationId : Option String
  stateBefore : Option ConversationState
  stateAfter : Option ConversationState
deriving DecidableEq

/-- An incoming row of `whatsapp_messages`. -/
structure StoredMessage where
  contactId : String
  metaMessageId : String
  receivedAt : Time
deriving DecidableEq

/-- An outgoing row of `whatsapp_messages`, as it is persisted before it is
sent. -/
structure OutgoingMessage where
  contactId : String
  conversationId : Option String
  replyKind : String
  messageType : String
  textBody : Option String
  payload : Payload
  idempotencyKey : String
  inResponseToMessageId : Option String
deriving DecidableEq

/-- What is kept for the statements about runs and read by no operation: the
event was marked processed at the end of a drive, or given up after too many
attempts; a transaction that advanced the conversation for the message was
committed. -/
inductive Entry where
  | processed (eventId : String)
  | poisoned (eventId : String)
  | advanced (messageId conversationId : String)
deriving DecidableEq

/-- `outgoing` and `journal` have the newest first. -/
structure Store where
  events : Table String WebhookEvent
  incoming : List StoredMessage
  conversations : Table String Conversation
  consumptions : List FsmMessageConsumption
  outgoing : List OutgoingMessage
  pipeline : Pipeline.Store
  claiming : List String
  lockedContacts : List String
  journal : List Entry

namespace Store

def record (store : Store) (entry : Entry) : Store :=
  { store with journal := entry :: store.journal }

/-! ## Webhook events -/

/-- The event with its new lease, when this caller wins the claim. -/
def claimEvent (store : Store) (eventId : String) (now : Time) :
    Option (Store × WebhookEvent) :=
  match store.events.find eventId with
  | none => none
  | some event =>
      if event.processedAt = none ∧ event.lockedUntil.all (· < now) then
        let leased :=
          { event with
            lockedUntil := some (now + seconds eventLeaseSeconds)
            attemptCount := event.attemptCount + 1 }
        some ({ store with events := store.events.put eventId leased }, leased)
      else none

def markEventProcessed (store : Store) (eventId : String) (now : Time) :
    Store :=
  match store.events.find eventId with
  | none => store
  | some event =>
      let marked := { event with processedAt := some now, lockedUntil := none }
      { store with events := store.events.put eventId marked }

/-! ## Messages -/

def hasStored (store : Store) (messageId : String) : Bool :=
  store.incoming.any (·.metaMessageId = messageId)

/-- Insert-or-ignore by message id; the flag is `created`. -/
def storeIncomingMessage (store : Store)
    (incoming : IncomingWhatsAppMessage) : Store × Bool :=
  if store.hasStored incoming.metaMessageId then (store, false)
  else
    ({ store with
       incoming :=
         { contactId := incoming.waId
           metaMessageId := incoming.metaMessageId
           receivedAt := incoming.receivedAt } :: store.incoming }, true)

def storeIncomingMessages (store : Store) :
    List IncomingWhatsAppMessage → Store × List Bool
  | [] => (store, [])
  | incoming :: messages =>
      let (stored, created) := store.storeIncomingMessage incoming
      let (after, flags) := stored.storeIncomingMessages messages
      (after, created :: flags)

/-- Insert-or-ignore by idempotency key; the flag tells whether a new row was
inserted. -/
def storeOutgoingPending (store : Store) (message : OutgoingMessage) :
    Store × Bool :=
  if store.outgoing.any (·.idempotencyKey = message.idempotencyKey) then
    (store, false)
  else ({ store with outgoing := message :: store.outgoing }, true)

/-! ## Conversations -/

def consumed (store : Store) (messageId : String) : Bool :=
  store.consumptions.any (·.inboundMessageId = messageId)

/-- The row of `claim_inbound` with the values of `annotate_consumption`. -/
def addConsumption (store : Store) (consumption : FsmMessageConsumption) :
    Store :=
  { store with consumptions := consumption :: store.consumptions }

def activeConversation (store : Store) (contactId : String) :
    Option (String × Conversation) :=
  store.conversations.first fun _ conversation =>
    conversation.contactId = contactId && conversation.active

def putConversation (store : Store) (id : String)
    (conversation : Conversation) : Store :=
  { store with conversations := store.conversations.put id conversation }

/-- The contact's active conversation; an expired one is deactivated, and the
caller starts a fresh one. -/
def lockContactAndGetConversation (store : Store) (contactId : String)
    (now : Time) : Store × Option (String × Conversation) :=
  match store.activeConversation contactId with
  | none => (store, none)
  | some (id, conversation) =>
      if conversation.expiresAt.any (· < now) then
        (store.putConversation id { conversation with active := false }, none)
      else (store, some (id, conversation))

/-- The conversation after `upsert_conversation_state`, and its id: `fresh` is
the id of a new one. -/
def upsertedConversation (settings : Settings)
    (conversation : Option (String × Conversation)) (contactId : String)
    (state : ConversationState) (context : Context)
    (lastUserMessageAt now : Time) (fresh : String) : String × Conversation :=
  match conversation with
  | none =>
      (fresh,
        { contactId := contactId
          state := state
          context := context
          stateVersion := 0
          active := true
          lastUserMessageAt := lastUserMessageAt
          serviceWindowExpiresAt :=
            lastUserMessageAt + hours settings.serviceWindowHours
          expiresAt := some (now + hours settings.conversationTtlHours) })
  | some (id, row) =>
      (id,
        { row with
          state := state
          context := context
          stateVersion := row.stateVersion + 1
          lastUserMessageAt := lastUserMessageAt
          serviceWindowExpiresAt :=
            lastUserMessageAt + hours settings.serviceWindowHours
          expiresAt := some (now + hours settings.conversationTtlHours) })

/-! ## Draft grievances -/

def grievanceOf (store : Store) (conversationId : String) :
    Option (String × Grievance) :=
  store.pipeline.grievances.first fun _ row =>
    row.conversationId = some conversationId

/-- `create_draft_grievance` for a conversation: insert-or-ignore by
conversation id, with `fresh` as the id of a new row.  The sequence advances
in either case. -/
def createDraftGrievance (store : Store) (contactId conversationId : String)
    (userId : Option String) (context : Context) (now : Time)
    (fresh : String) : Store × String :=
  let pipeline := store.pipeline
  let counted := { pipeline with sequence := pipeline.sequence + 1 }
  match store.grievanceOf conversationId with
  | some (id, _) => ({ store with pipeline := counted }, id)
  | none =>
      let row :=
        Pipeline.draftGrievance
          (Pipeline.humanId now pipeline.sequence) contactId
          (some conversationId) userId .whatsapp context.toDraft now
      ({ store with
         pipeline :=
           { counted with
             grievances := pipeline.grievances.put fresh row } }, fresh)

/-! ## Locks -/

/-- The first statements of `_handle_inbound`: the contact's row is locked and
the message id inserted. -/
def claim (store : Store) (incoming : IncomingWhatsAppMessage) : Store :=
  { store with
    claiming := incoming.metaMessageId :: store.claiming
    lockedContacts := incoming.waId :: store.lockedContacts }

/-- Commit or rollback lets them go. -/
def release (store : Store) (incoming : IncomingWhatsAppMessage) : Store :=
  { store with
    claiming := store.claiming.erase incoming.metaMessageId
    lockedContacts := store.lockedContacts.erase incoming.waId }

end Store

end JanSetu.Whatsapp
