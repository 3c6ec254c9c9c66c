import JanSetu.Auth.Codes
import JanSetu.Pipeline.Lifecycle
import JanSetu.Whatsapp.Store
import Mathlib.Data.List.Sort

/-!
# The drivers of webhook events

`drive_event`, `_handle_inbound`, the follow-ups and the recovery sweep of
`processing.py`, in steps.  A step is one committed transaction, one external
call, or one step of the pipeline; an exception is one of the results of every
step.  `_handle_inbound` takes two steps in its transaction: one that claims
the message and locks the contact, one that commits.
-/

namespace JanSetu.Whatsapp

open Pipeline (PipelineResult Geometry)
open Process (Program)

/-! ## The follow-ups -/

inductive FollowupStage where
  | running (action : Action) (task : Pipeline.Task)
  | sending (result : PipelineResult)
  | replying (replyKind body idempotencyKey : String)
  | posting
deriving DecidableEq

/-- What is done about one grievance after the transaction that asked for
it. -/
structure Followup where
  waId : String
  grievanceId : String
  stage : FollowupStage
deriving DecidableEq

def Followup.task (grievanceId : String) : Action → Pipeline.Task
  | .startPipeline => .opened .runPipeline grievanceId
  | .recheckPhoto => .opened (.recheckImage false) grievanceId
  | .proceedWithoutPhoto => .opened (.recheckImage true) grievanceId
  | .finalize => .tapConfirm grievanceId
  | .cancel => .opened .cancel grievanceId

def Followup.start (waId grievanceId : String) (action : Action) : Followup :=
  { waId := waId
    grievanceId := grievanceId
    stage := .running action (Followup.task grievanceId action) }

/-- The values of a transaction's random ids, and the texts and the results
that other tables decide. -/
structure HandleInputs where
  conversationId : String
  grievanceId : String
  userId : Option String
  approved : Bool
  replyBody : String
deriving DecidableEq

inductive Answer where
  | plain
  | raises
  | geocoded (geocode : ReverseGeocode)
  | handled (inputs : HandleInputs)
  | uploaded (mediaId : Option String)
  | pipeline (answer : Pipeline.Answer)
  | selected (grievanceIds : List String)
deriving DecidableEq

structure Choice where
  now : Time
  answer : Answer
deriving DecidableEq

/-- How a step of a part of a process ends. -/
inductive Progress (Stage : Type) where
  | more (stage : Stage)
  | returned
  | raised
deriving DecidableEq

/-- `None` and the empty string are replaced by the default. -/
def textOr (text : Option String) (default : String) : String :=
  if Python.truthy text then text.getD default else default

def renderConfirmationSummary (grievance : Grievance) : String :=
  let category := textOr grievance.category "other"
  let department := departmentForCategory category
  let priority :=
    match grievance.priority with
    | some .priority => "priority"
    | _ => "normal"
  (categoryOrDefault grievance.category).label ++ " -> " ++
    (department.map (·.name)).getD "" ++ "\nPriority: " ++ priority ++
    "\nLocation: " ++ textOr grievance.locationAddress "unresolved" ++
    "\n\n" ++ textOr grievance.issueText "(no description)"

def statusName : GrievanceStatus → String
  | .draft => "draft"
  | .processing => "processing"
  | .photoMismatch => "photo_mismatch"
  | .awaitingConfirmation => "awaiting_confirmation"
  | .registered => "registered"
  | .pendingWindow => "pending_window"
  | .dispatching => "dispatching"
  | .submitted => "submitted"
  | .duplicate => "duplicate"
  | .cancelled => "cancelled"
  | .dispatchFailed => "dispatch_failed"

/-- The state a pipeline result leads to. -/
def followupState (result : PipelineResult) : ConversationState :=
  if result.status = .photoMismatch then .photoMismatch
  else .awaitingConfirmation

/-- The prompt of that state; the confirm card needs the grievance's row. -/
def followupIntent (followup : Followup) (result : PipelineResult)
    (grievance : Option Grievance) (mediaId : Option String) :
    Option OutboundIntent :=
  if result.status = .photoMismatch then
    some (buildMismatchIntent followup.waId none)
  else
    grievance.map fun grievance =>
      buildConfirmationIntent followup.waId followup.grievanceId mediaId
        (Copy.pdfConfirm (renderConfirmationSummary grievance))

def intentMessage (contactId : String) (conversationId : Option String)
    (intent : OutboundIntent) (idempotencyKey : String)
    (inResponseTo : Option String) : OutgoingMessage :=
  { contactId := contactId
    conversationId := conversationId
    replyKind := intent.replyKind
    messageType := intent.messageType
    textBody := intent.textBody
    payload := intent.payload
    idempotencyKey := idempotencyKey
    inResponseToMessageId := inResponseTo }

def textMessage (waId body replyKind idempotencyKey : String)
    (inResponseTo : Option String) : OutgoingMessage :=
  { contactId := waId
    conversationId := none
    replyKind := replyKind
    messageType := "text"
    textBody := some body
    payload := .text waId body
    idempotencyKey := idempotencyKey
    inResponseToMessageId := inResponseTo }

/-- The transaction of `_send_pipeline_followup_message`.  It waits for the
contact's lock; it commits nothing when the contact has no conversation. -/
def Store.sendFollowup (store : Store) (followup : Followup)
    (result : PipelineResult) (mediaId : Option String) (now : Time) :
    Option (Store × Progress FollowupStage) :=
  if followup.waId ∈ store.lockedContacts then none
  else
    match (store.lockContactAndGetConversation followup.waId now).2 with
    | none => some (store, .returned)
    | some (id, conversation) =>
        let grievance := store.pipeline.grievances.find followup.grievanceId
        match followupIntent followup result grievance mediaId with
        | none => some (store, .raised)
        | some intent =>
            let key :=
              id ++ ":pipeline:" ++ statusName result.status ++ ":" ++
                followup.grievanceId
            let moved :=
              store.putConversation id
                { conversation with state := followupState result }
            let (stored, created) :=
              moved.storeOutgoingPending
                (intentMessage followup.waId (some id) intent key none)
            some (stored, if created then .more .posting else .returned)

/-- The transaction of `_send_standalone_reply`. -/
def Store.sendStandaloneReply (store : Store)
    (waId replyKind body idempotencyKey : String) :
    Option (Store × Progress FollowupStage) :=
  if waId ∈ store.lockedContacts then none
  else
    let (stored, created) :=
      store.storeOutgoingPending
        (textMessage waId body replyKind idempotencyKey none)
    some (stored, if created then .more .posting else .returned)

def registeredFinalBody (outcome : Pipeline.FinalizeOutcome) : String :=
  let body := Copy.registeredFinal outcome.humanId
  match outcome.reportCount with
  | some (count + 1) =>
      if outcome.status = .duplicate then
        body ++ Copy.duplicateNote (toString (count + 1))
      else body
  | _ => body

/-- What follows a step of the pipeline.  `cancel_followup` alone lets an
exception through. -/
def FollowupStage.next (grievanceId : String) (action : Action) :
    Pipeline.Progress → Progress FollowupStage
  | .more task => .more (.running action task)
  | .processed result => .more (.sending result)
  | .finalized outcome =>
      .more (.replying "registered_final" (registeredFinalBody outcome)
        ("registered_final:" ++ grievanceId))
  | .finished =>
      .more (.replying "cancelled" Copy.cancelled
        ("cancelled:" ++ grievanceId))
  | .raised => if action = .cancel then .raised else .returned

section

variable (settings : Settings) (geometry : Geometry)

def Followup.resume (store : Store) (followup : Followup) (choice : Choice) :
    Option (Store × Progress FollowupStage) :=
  match followup.stage, choice.answer with
  | .running action task, .pipeline answer =>
      (task.resume settings.pipeline geometry store.pipeline
        { now := choice.now, answer := answer }).map fun result =>
          ({ store with pipeline := result.1 },
            FollowupStage.next followup.grievanceId action result.2)
  | .sending result, .uploaded mediaId =>
      store.sendFollowup followup result mediaId choice.now
  | .replying replyKind body key, .plain =>
      store.sendStandaloneReply followup.waId replyKind body key
  | .posting, .plain => some (store, .returned)
  | .sending _, .raises => some (store, .raised)
  | .replying _ _ _, .raises => some (store, .raised)
  | .posting, .raises => some (store, .raised)
  | _, _ => none

/-- What a follow-up leaves when its process ends in the middle of it. -/
def Followup.release (store : Store) (followup : Followup) : Store :=
  match followup.stage with
  | .running _ task => { store with pipeline := task.release store.pipeline }
  | _ => store

end

/-! ## `_handle_inbound` -/

inductive Handled where
  | replied
  | advanced (action : Option Action) (context : Context)
  | raised
deriving DecidableEq

/-- A message that is answered without the state machine. -/
def Store.answer (store : Store) (incoming : IncomingWhatsAppMessage)
    (replyKind keyPrefix body : String) : Store :=
  let consumed :=
    store.addConsumption
      { inboundMessageId := incoming.metaMessageId
        conversationId := none
        stateBefore := none
        stateAfter := none }
  (consumed.storeOutgoingPending
    (textMessage incoming.waId body replyKind
      (keyPrefix ++ ":" ++ incoming.metaMessageId)
      (some incoming.metaMessageId))).1

def loginReplyBody (decision : String) (approved : Bool) : String :=
  if approved then
    if decision = Auth.loginApprovalYes then
      "Sign-in approved. Return to the browser that requested it."
    else "Sign-in denied. Your Jan Setu account remains protected."
  else "This sign-in request is invalid, expired, or already used."

/-- The replies of a turn, in order. -/
def Store.storeReplies (store : Store)
    (incoming : IncomingWhatsAppMessage) (conversationId : String)
    (intents : List OutboundIntent) : Store :=
  intents.foldl
    (fun store intent =>
      let key :=
        conversationId ++ ":" ++ incoming.metaMessageId ++ ":" ++
          intent.replyKind
      (store.storeOutgoingPending
        (intentMessage incoming.waId (some conversationId) intent key
          (some incoming.metaMessageId))).1)
    store

def recheckFields (mediaId : Option String) (row : Grievance) : Grievance :=
  { row with photoMediaId := mediaId, photoPath := none }

/-- What the transaction does for the action, and the context it stores:
`none` is a wait, or an id that is not fresh; an inner `none` is an
exception. -/
def Store.performAction (store : Store) (incoming : IncomingWhatsAppMessage)
    (conversationId : String) (result : FsmResult) (inputs : HandleInputs)
    (now : Time) : Option (Store × Option Context) :=
  match result.action with
  | some .startPipeline =>
      if (store.pipeline.grievances.find inputs.grievanceId).isSome then none
      else
        let (drafted, grievanceId) :=
          store.createDraftGrievance incoming.waId conversationId
            inputs.userId result.context now inputs.grievanceId
        some (drafted, some (storedContext result grievanceId))
  | some .recheckPhoto =>
      match result.context.draft.grievanceId with
      | none => some (store, none)
      | some grievanceId =>
          match store.pipeline.grievances.find grievanceId with
          | none => some (store, none)
          | some row =>
              (store.pipeline.commit grievanceId row
                (·.set now (recheckFields result.context.photo.mediaId))).map
                fun committed =>
                  ({ store with pipeline := committed.1 },
                    some result.context)
  | _ => some (store, some result.context)

/-- The conversation, the consumption and the replies of a turn. -/
def Store.finishTurn (store : Store) (incoming : IncomingWhatsAppMessage)
    (id : String) (row : Conversation)
    (stateBefore : Option ConversationState) (result : FsmResult)
    (context : Context) : Store :=
  let upserted :=
    store.putConversation id
      { row with
        context := context
        active := row.active && !result.close }
  let annotated :=
    upserted.addConsumption
      { inboundMessageId := incoming.metaMessageId
        conversationId := some id
        stateBefore := stateBefore
        stateAfter := some result.state }
  (annotated.storeReplies incoming id result.intents).record
    (.advanced incoming.metaMessageId id)

/-- The part of the transaction that feeds the message to the state machine;
`store` is rolled back to when it raises. -/
def Store.advanceConversation (settings : Settings) (store : Store)
    (incoming : IncomingWhatsAppMessage) (geocode : Option ReverseGeocode)
    (inputs : HandleInputs) (now : Time) : Option (Store × Handled) :=
  let (locked, conversation) :=
    store.lockContactAndGetConversation incoming.waId now
  if conversation.isNone ∧ isStatusQuery incoming.textBody = true then
    some (locked.answer incoming "status_query" "status" inputs.replyBody,
      .replied)
  else
    let stateBefore := conversation.map (·.2.state)
    match advance incoming.waId stateBefore (conversation.map (·.2.context))
        incoming geocode now with
    | none => some (store, .raised)
    | some result =>
        if conversation.isNone ∧
            (store.conversations.find inputs.conversationId).isSome then none
        else
          let (id, row) :=
            Store.upsertedConversation settings conversation incoming.waId
              result.state result.context incoming.receivedAt now
              inputs.conversationId
          match locked.performAction incoming id result inputs now with
          | none => none
          | some (_, none) => some (store, .raised)
          | some (acted, some context) =>
              some
                (acted.finishTurn incoming id row stateBefore result context,
                  .advanced result.action context)

/-- A verification code short-circuits in any state. -/
def Store.decideCode (settings : Settings) (store : Store)
    (incoming : IncomingWhatsAppMessage) (geocode : Option ReverseGeocode)
    (inputs : HandleInputs) (now : Time) : Option (Store × Handled) :=
  if Auth.isVerificationCode incoming.textBody = true then
    some (store.answer incoming "verify_code" "verify" inputs.replyBody,
      .replied)
  else store.advanceConversation settings incoming geocode inputs now

/-- The transaction after the claim.  Login approvals are bound to a message
and come before codes and the state machine. -/
def Store.handleInbound (settings : Settings) (store : Store)
    (incoming : IncomingWhatsAppMessage) (geocode : Option ReverseGeocode)
    (inputs : HandleInputs) (now : Time) : Option (Store × Handled) :=
  match Auth.parseLoginApprovalId incoming.replyId with
  | some (decision, _, _) =>
      if Python.truthy incoming.contextMessageId then
        some
          (store.answer incoming "login_approval_decision" "login-decision"
            (loginReplyBody decision inputs.approved), .replied)
      else store.decideCode settings incoming geocode inputs now
  | none => store.decideCode settings incoming geocode inputs now

inductive InboundStage where
  | geocoding
  | claiming (geocode : Option ReverseGeocode)
  | transacting (geocode : Option ReverseGeocode)
  | posting (followup : Option Followup)
  | following (followup : Followup)
deriving DecidableEq

/-- Nothing is done after a turn without an action. -/
def handledFollowup (incoming : IncomingWhatsAppMessage) :
    Handled → Option Followup
  | .advanced (some action) context =>
      some (.start incoming.waId (formatted context.draft.grievanceId) action)
  | _ => none

/-- The next part of a message that has been consumed. -/
def InboundStage.afterPosting : Option Followup → Progress InboundStage
  | some followup => .more (.following followup)
  | none => .returned

def InboundStage.ofFollowup (followup : Followup) :
    Progress FollowupStage → Progress InboundStage
  | .more stage => .more (.following { followup with stage := stage })
  | .returned => .returned
  | .raised => .raised

/-- The claim waits for the contact's lock and for an open transaction that
has inserted the same message id. -/
def Store.claimInbound (store : Store) (incoming : IncomingWhatsAppMessage)
    (geocode : Option ReverseGeocode) :
    Option (Store × Progress InboundStage) :=
  if incoming.waId ∈ store.lockedContacts ∨
      incoming.metaMessageId ∈ store.claiming then none
  else if store.consumed incoming.metaMessageId then some (store, .returned)
  else some (store.claim incoming, .more (.transacting geocode))

/-- `reverse_geocode_cached` raises on a location without a longitude. -/
def InboundStage.geocode (incoming : IncomingWhatsAppMessage) :
    Answer → Option (Progress InboundStage)
  | .plain =>
      if isLocation incoming then none else some (.more (.claiming none))
  | .geocoded geocode =>
      if isLocation incoming ∧ incoming.locationLongitude.isSome then
        some (.more (.claiming (some geocode)))
      else none
  | .raises => some .raised
  | _ => none

section

variable (settings : Settings) (geometry : Geometry)

def Store.commitInbound (store : Store) (incoming : IncomingWhatsAppMessage)
    (geocode : Option ReverseGeocode) (inputs : HandleInputs) (now : Time) :
    Option (Store × Progress InboundStage) :=
  match (store.release incoming).handleInbound settings incoming geocode
      inputs now with
  | none => none
  | some (_, .raised) => some (store.release incoming, .raised)
  | some (after, handled) =>
      some (after, .more (.posting (handledFollowup incoming handled)))

def InboundStage.resume (store : Store) (incoming : IncomingWhatsAppMessage)
    (stage : InboundStage) (choice : Choice) :
    Option (Store × Progress InboundStage) :=
  match stage, choice.answer with
  | .geocoding, answer =>
      (InboundStage.geocode incoming answer).map fun progress =>
        (store, progress)
  | .claiming geocode, .plain => store.claimInbound incoming geocode
  | .claiming _, .raises => some (store, .raised)
  | .transacting geocode, .handled inputs =>
      store.commitInbound settings incoming geocode inputs choice.now
  | .transacting _, .raises => some (store.release incoming, .raised)
  | .posting followup, .plain =>
      some (store, InboundStage.afterPosting followup)
  | .posting _, .raises => some (store, .raised)
  | .following followup, _ =>
      (followup.resume settings geometry store choice).map fun result =>
        (result.1, InboundStage.ofFollowup followup result.2)
  | _, _ => none

def InboundStage.release (store : Store) (incoming : IncomingWhatsAppMessage)
    (stage : InboundStage) : Store :=
  match stage with
  | .transacting _ => store.release incoming
  | .following followup => followup.release store
  | _ => store

end

/-! ## Processes -/

/-- `handling` is at one message of an event and has the later ones still to
do; `allOk` is false once a message has raised. -/
inductive Task where
  | driving (eventId : String)
  | poisoning (eventId : String)
  | storing (eventId : String) (payload : List IncomingWhatsAppMessage)
  | handling (eventId : String) (incoming : IncomingWhatsAppMessage)
      (stage : InboundStage) (rest : List IncomingWhatsAppMessage)
      (allOk : Bool)
  | marking (eventId : String)
  | sweeping (limit : Nat)
  | recovering (followup : Followup) (rest : List (String × String))
  | web (job : Pipeline.Job)
deriving DecidableEq

/-- `web` is a request of the web application or a job of its worker. -/
inductive Request where
  | driveEvent (eventId : String)
  | sweepStuckProcessing (limit : Nat)
  | web (request : Pipeline.Request)
deriving DecidableEq

def Task.start : Request → Task
  | .driveEvent eventId => .driving eventId
  | .sweepStuckProcessing limit => .sweeping limit
  | .web request => .web (Pipeline.Job.start request)

/-- The messages that are new to this driver, in the order of their times. -/
def freshMessages (payload : List IncomingWhatsAppMessage)
    (created : List Bool) : List IncomingWhatsAppMessage :=
  ((payload.zip created).filterMap fun (incoming, isNew) =>
    if isNew then some incoming else none).insertionSort
      fun first second => first.receivedAt ≤ second.receivedAt

/-- The driver's next step; an event whose messages did not all go through is
left unprocessed. -/
def Task.nextMessage (eventId : String) (allOk : Bool) :
    List IncomingWhatsAppMessage → Option Task
  | incoming :: rest =>
      some (.handling eventId incoming .geocoding rest allOk)
  | [] => if allOk then some (.marking eventId) else none

/-- An exception is logged, and the driver goes on with the next message. -/
def Task.ofInbound (eventId : String) (incoming : IncomingWhatsAppMessage)
    (rest : List IncomingWhatsAppMessage) (allOk : Bool) :
    Progress InboundStage → Option Task
  | .more stage => some (.handling eventId incoming stage rest allOk)
  | .returned => Task.nextMessage eventId allOk rest
  | .raised => Task.nextMessage eventId false rest

def Store.driveEvent (store : Store) (eventId : String) (now : Time) :
    Store × Option Task :=
  match store.claimEvent eventId now with
  | none => (store, none)
  | some (claimed, event) =>
      (claimed,
        if maxEventAttempts < event.attemptCount then
          some (.poisoning eventId)
        else some (.storing eventId event.payload))

/-- A sweep's next grievance, with its contact. -/
def Task.nextRecovery : List (String × String) → Option Task
  | [] => none
  | (grievanceId, contactId) :: rest =>
      some (.recovering (.start contactId grievanceId .startPipeline) rest)

/-- A sweep logs what a grievance raises and goes on. -/
def Task.ofRecovery (followup : Followup) (rest : List (String × String)) :
    Progress FollowupStage → Option Task
  | .more stage => some (.recovering { followup with stage := stage } rest)
  | _ => Task.nextRecovery rest

/-- The contacts of the grievances that a sweep selected. -/
def Store.contactsOf (store : Store) (grievanceIds : List String) :
    List (String × String) :=
  grievanceIds.filterMap fun grievanceId =>
    (store.pipeline.grievances.find grievanceId).map fun row =>
      (grievanceId, row.contactId)

def Store.sweepStuckProcessing (store : Store) (limit : Nat) (now : Time)
    (grievanceIds : List String) : Option (Store × Option Task) :=
  let olderThan := now - seconds stuckProcessingAfterSeconds
  if store.pipeline.Selects (Pipeline.Store.stuckProcessing olderThan) limit
      grievanceIds then
    some (store, Task.nextRecovery (store.contactsOf grievanceIds))
  else none

section

variable (settings : Settings) (geometry : Geometry)

def Store.storeEvent (store : Store) (eventId : String)
    (payload : List IncomingWhatsAppMessage) : Store × Option Task :=
  let (stored, created) := store.storeIncomingMessages payload
  (stored,
    if settings.autoReplyEnabled then
      Task.nextMessage eventId true (freshMessages payload created)
    else some (.marking eventId))

def Task.resume (store : Store) (task : Task) (choice : Choice) :
    Option (Store × Option Task) :=
  match task, choice.answer with
  | .driving eventId, .plain => some (store.driveEvent eventId choice.now)
  | .poisoning eventId, .plain =>
      some
        ((store.markEventProcessed eventId choice.now).record
          (.poisoned eventId), none)
  | .storing eventId payload, .plain =>
      some (store.storeEvent settings eventId payload)
  | .handling eventId incoming stage rest allOk, _ =>
      (stage.resume settings geometry store incoming choice).map
        fun result =>
          (result.1, Task.ofInbound eventId incoming rest allOk result.2)
  | .marking eventId, .plain =>
      some
        ((store.markEventProcessed eventId choice.now).record
          (.processed eventId), none)
  | .sweeping limit, .selected grievanceIds =>
      store.sweepStuckProcessing limit choice.now grievanceIds
  | .recovering followup rest, _ =>
      (followup.resume settings geometry store choice).map fun result =>
        (result.1, Task.ofRecovery followup rest result.2)
  | .web job, .pipeline answer =>
      (job.resume settings.pipeline geometry store.pipeline
        { now := choice.now, answer := answer }).map fun result =>
          ({ store with pipeline := result.1 }, result.2.map .web)
  | .driving _, .raises => some (store, none)
  | .poisoning _, .raises => some (store, none)
  | .storing _ _, .raises => some (store, none)
  | .marking _, .raises => some (store, none)
  | .sweeping _, .raises => some (store, none)
  | _, _ => none

end

def Task.release (store : Store) : Task → Store
  | .handling _ incoming stage _ _ => stage.release store incoming
  | .recovering followup _ => followup.release store
  | .web job => { store with pipeline := job.release store.pipeline }
  | _ => store

/-- Runs start from any webhook events and any grievances filed on the web,
before the first message. -/
structure Store.Initial (store : Store) : Prop where
  incoming : store.incoming = []
  conversations : store.conversations = Table.empty
  consumptions : store.consumptions = []
  outgoing : store.outgoing = []
  claiming : store.claiming = []
  lockedContacts : store.lockedContacts = []
  journal : store.journal = []
  locked : store.pipeline.locked = []
  grievances : ∀ id row, store.pipeline.grievances.find id = some row →
    row.conversationId = none

def program (settings : Settings) (geometry : Geometry) :
    Program Store Task Request Choice :=
  { initial := Store.Initial
    start := Task.start
    resume := Task.resume settings geometry
    release := Task.release }

/-! ## Small stores -/

/-- The defaults of `config.py`, with the auto-reply switched on. -/
def repliesOn : Settings :=
  { autoReplyEnabled := true, conversationTtlHours := 168
    serviceWindowHours := 24, pipeline := Pipeline.defaultSettings }

/-- Events that are stored and not driven yet, and grievances filed on the
web. -/
def Store.ofEvents (events : List (String × List IncomingWhatsAppMessage))
    (filed : List (String × Grievance)) : Store :=
  { events := Table.ofList (events.map fun event =>
      (event.1,
        { payload := event.2, attemptCount := 0, lockedUntil := none
          processedAt := none }))
    incoming := []
    conversations := Table.empty
    consumptions := []
    outgoing := []
    pipeline :=
      { grievances := Table.ofList filed, routes := [], events := []
        sequence := 1, locked := [], journal := [] }
    claiming := []
    lockedContacts := []
    journal := [] }

theorem Store.ofEvents_initial
    {events : List (String × List IncomingWhatsAppMessage)}
    {filed : List (String × Grievance)}
    (web : ∀ entry ∈ filed, entry.2.conversationId = none) :
    (Store.ofEvents events filed).Initial := by
  constructor
  case grievances =>
    intro id row found
    exact web _ (Table.mem_of_find_ofList found)
  all_goals rfl

def sampleInputs : HandleInputs :=
  { conversationId := "c1", grievanceId := "g1", userId := none
    approved := false, replyBody := "" }

/-- A complaint from the first message to the start of the pipeline. -/
def sampleComplaint : List IncomingWhatsAppMessage :=
  [sampleText "m1" "hello", sampleLocation "m2" 28 77,
    sampleTap "m3" "loc_confirm_yes:m2", sampleText "m4" "no water",
    sampleTap "m5" "issue_done", sampleTap "m6" "photo_skip"]

/-- The steps of one message, up to the sending of its replies. -/
def sampleTurn (geocoding : Answer) : List Choice :=
  [⟨0, geocoding⟩, ⟨0, .plain⟩, ⟨0, .handled sampleInputs⟩, ⟨0, .plain⟩]

/-- The steps of a driver that has an event with that complaint, up to the
follow-up. -/
def sampleDrive : List Choice :=
  [⟨0, .plain⟩, ⟨0, .plain⟩] ++ sampleTurn .plain ++
    sampleTurn (.geocoded { status := "ok", displayAddress := none }) ++
    sampleTurn .plain ++ sampleTurn .plain ++ sampleTurn .plain ++
    sampleTurn .plain

end JanSetu.Whatsapp
