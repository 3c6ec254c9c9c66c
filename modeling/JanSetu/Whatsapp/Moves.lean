import JanSetu.Whatsapp.Processing
import JanSetu.Pipeline.Invariant

/-!
# Everything a step of a driver can do

One inversion for each part of a process: what a follow-up, a message and a
driver can do to the store.  The invariants are proved by cases on them.
-/

namespace JanSetu.Whatsapp

open Pipeline (PipelineResult Geometry)

/-! ## Statements -/

/-- The outgoing rows after an insert-or-ignore by idempotency key. -/
def addOutgoing (outgoing : List OutgoingMessage)
    (message : OutgoingMessage) : List OutgoingMessage :=
  if outgoing.any (·.idempotencyKey = message.idempotencyKey) then outgoing
  else message :: outgoing

theorem addOutgoing_cases (outgoing : List OutgoingMessage)
    (message : OutgoingMessage) :
    addOutgoing outgoing message = outgoing ∨
      addOutgoing outgoing message = message :: outgoing := by
  unfold addOutgoing
  split
  · exact .inl rfl
  · exact .inr rfl

theorem Store.storeOutgoingPending_fst (store : Store)
    (message : OutgoingMessage) :
    (store.storeOutgoingPending message).1 =
      { store with outgoing := addOutgoing store.outgoing message } := by
  unfold Store.storeOutgoingPending addOutgoing
  split
  · rfl
  · rfl

theorem Store.storeReplies_eq (store : Store)
    (incoming : IncomingWhatsAppMessage) (conversationId : String)
    (intents : List OutboundIntent) :
    store.storeReplies incoming conversationId intents =
      { store with
        outgoing := intents.foldl
          (fun outgoing intent =>
            addOutgoing outgoing
              (intentMessage incoming.waId (some conversationId) intent
                (conversationId ++ ":" ++ incoming.metaMessageId ++ ":" ++
                  intent.replyKind)
                (some incoming.metaMessageId)))
          store.outgoing } := by
  unfold Store.storeReplies
  induction intents generalizing store with
  | nil => rfl
  | cons intent intents induction =>
      rw [List.foldl_cons, induction]
      simp only [Store.storeOutgoingPending_fst, List.foldl_cons]

theorem Store.answer_eq (store : Store) (incoming : IncomingWhatsAppMessage)
    (replyKind keyPrefix body : String) :
    store.answer incoming replyKind keyPrefix body =
      { store with
        consumptions :=
          { inboundMessageId := incoming.metaMessageId
            conversationId := none
            stateBefore := none
            stateAfter := none } :: store.consumptions
        outgoing := addOutgoing store.outgoing
          (textMessage incoming.waId body replyKind
            (keyPrefix ++ ":" ++ incoming.metaMessageId)
            (some incoming.metaMessageId)) } := by
  unfold Store.answer
  dsimp only
  rw [Store.storeOutgoingPending_fst]
  rfl

/-- What is left behind by a turn with at most one reply. -/
theorem Store.finishTurn_eq (store : Store)
    (incoming : IncomingWhatsAppMessage) (id : String) (row : Conversation)
    (stateBefore : Option ConversationState) (result : FsmResult)
    (context : Context) (few : result.intents.length ≤ 1) :
    ∃ outgoing, (store.finishTurn incoming id row stateBefore result
        context) =
      { store with
        conversations := store.conversations.put id
          { row with
            context := context
            active := row.active && !result.close }
        consumptions :=
          { inboundMessageId := incoming.metaMessageId
            conversationId := some id
            stateBefore := stateBefore
            stateAfter := some result.state } :: store.consumptions
        outgoing := outgoing
        journal := .advanced incoming.metaMessageId id :: store.journal } ∧
      (outgoing = store.outgoing ∨ ∃ message,
        message.inResponseToMessageId = some incoming.metaMessageId ∧
        outgoing = addOutgoing store.outgoing message) := by
  unfold Store.finishTurn
  dsimp only
  rw [Store.storeReplies_eq]
  refine ⟨_, rfl, ?_⟩
  match result.intents, few with
  | [], _ => exact .inl rfl
  | [intent], _ => exact .inr ⟨_, rfl, rfl⟩

theorem Store.markEventProcessed_eq (store : Store) (eventId : String)
    (now : Time) :
    ∃ events, store.markEventProcessed eventId now =
      { store with events := events } := by
  unfold Store.markEventProcessed
  split
  · exact ⟨store.events, rfl⟩
  · exact ⟨_, rfl⟩

theorem Store.storeIncomingMessages_eq (store : Store)
    (messages : List IncomingWhatsAppMessage) :
    ∃ incoming, (store.storeIncomingMessages messages).1 =
      { store with incoming := incoming } := by
  induction messages generalizing store with
  | nil => exact ⟨store.incoming, rfl⟩
  | cons incoming messages induction =>
      unfold Store.storeIncomingMessages
      dsimp only
      unfold Store.storeIncomingMessage
      split
      · exact induction store
      · obtain ⟨_, same⟩ := induction _
        exact ⟨_, same⟩

/-- What the lock finds: no active conversation, an expired one that it
deactivates, or the one it returns. -/
inductive Store.Locks (store : Store) (contactId : String) (now : Time) :
    Store → Option (String × Conversation) → Prop where
  | free :
      store.activeConversation contactId = none →
      Locks store contactId now store none
  | expired {id : String} {conversation : Conversation} :
      store.activeConversation contactId = some (id, conversation) →
      conversation.expiresAt.any (· < now) = true →
      Locks store contactId now
        (store.putConversation id { conversation with active := false }) none
  | found {id : String} {conversation : Conversation} :
      store.activeConversation contactId = some (id, conversation) →
      conversation.expiresAt.any (· < now) = false →
      Locks store contactId now store (some (id, conversation))

theorem Store.lockContactAndGetConversation_locks (store : Store)
    (contactId : String) (now : Time) :
    store.Locks contactId now
      (store.lockContactAndGetConversation contactId now).1
      (store.lockContactAndGetConversation contactId now).2 := by
  unfold Store.lockContactAndGetConversation
  split
  case h_1 none => exact .free none
  case h_2 id conversation active =>
    split
    case isTrue expired => exact .expired active expired
    case isFalse current => exact .found active (by simpa using current)

theorem Store.Locks.current {store locked : Store} {contactId id : String}
    {now : Time} {conversation : Conversation}
    (locks : store.Locks contactId now locked (some (id, conversation))) :
    store.activeConversation contactId = some (id, conversation) ∧
      conversation.expiresAt.any (· < now) = false := by
  cases locks with
  | found active current => exact ⟨active, current⟩

/-- The active conversation is one of the contact's. -/
theorem Store.activeConversation_eq {store : Store} {contactId id : String}
    {conversation : Conversation}
    (active : store.activeConversation contactId = some (id, conversation)) :
    store.conversations.find id = some conversation ∧
      conversation.contactId = contactId ∧ conversation.active = true := by
  obtain ⟨found, passes⟩ := Table.first_eq_some active
  simp only [Bool.and_eq_true, decide_eq_true_eq] at passes
  exact ⟨found, passes⟩

theorem Store.activeConversation_none {store : Store} {contactId id : String}
    {conversation : Conversation}
    (none : store.activeConversation contactId = none)
    (found : store.conversations.find id = some conversation)
    (own : conversation.contactId = contactId) :
    conversation.active = false := by
  have refused := Table.first_eq_none none found
  simpa [own] using refused

/-- What the transaction of a turn does to the grievances. -/
inductive Store.Acts (store : Store) (incoming : IncomingWhatsAppMessage)
    (conversationId : String) (result : FsmResult) (inputs : HandleInputs)
    (now : Time) : Store → Context → Prop where
  | drafted {after : Store} {row : Grievance} {humanId : String} :
      result.action = some .startPipeline →
      store.grievanceOf conversationId = none →
      store.pipeline.grievances.find inputs.grievanceId = none →
      row = Pipeline.draftGrievance humanId incoming.waId
        (some conversationId) inputs.userId .whatsapp result.context.toDraft
        now →
      after.pipeline.grievances =
        store.pipeline.grievances.put inputs.grievanceId row →
      after = { store with pipeline := after.pipeline } →
      Acts store incoming conversationId result inputs now after
        (storedContext result inputs.grievanceId)
  | redrafted {after : Store} {grievanceId : String} {row : Grievance} :
      result.action = some .startPipeline →
      store.grievanceOf conversationId = some (grievanceId, row) →
      after.pipeline.grievances = store.pipeline.grievances →
      after = { store with pipeline := after.pipeline } →
      Acts store incoming conversationId result inputs now after
        (storedContext result grievanceId)
  | rephotographed {after : Store} {grievanceId : String}
      {current : Grievance} :
      result.action = some .recheckPhoto →
      result.context.draft.grievanceId = some grievanceId →
      store.pipeline.Wrote after.pipeline grievanceId current current
        (·.set now (recheckFields result.context.photo.mediaId)) →
      after = { store with pipeline := after.pipeline } →
      Acts store incoming conversationId result inputs now after
        result.context
  | nothing :
      result.action ≠ some .startPipeline →
      result.action ≠ some .recheckPhoto →
      Acts store incoming conversationId result inputs now store
        result.context

theorem Store.performAction_acts {store after : Store}
    {incoming : IncomingWhatsAppMessage} {conversationId : String}
    {result : FsmResult} {inputs : HandleInputs} {now : Time}
    {context : Context}
    (acted : store.performAction incoming conversationId result inputs now =
      some (after, some context)) :
    store.Acts incoming conversationId result inputs now after context := by
  unfold Store.performAction at acted
  split at acted
  case h_1 starts =>
    split at acted
    · cases acted
    case isFalse fresh =>
      have absent : store.pipeline.grievances.find inputs.grievanceId =
          none := by simpa using fresh
      unfold Store.createDraftGrievance at acted
      dsimp only at acted
      split at acted
      case h_1 grievanceId row existing =>
        cases acted
        exact .redrafted starts existing rfl rfl
      case h_2 none =>
        cases acted
        exact .drafted starts none absent rfl rfl rfl
  case h_2 rechecks =>
    split at acted
    · cases acted
    case h_2 grievanceId draft =>
      split at acted
      · cases acted
      case h_2 row found =>
        obtain ⟨⟨pipeline, knows⟩, committed, same⟩ :=
          Option.map_eq_some_iff.mp acted
        cases same
        obtain ⟨current, wrote, _⟩ := Pipeline.Store.commit_wrote committed
        have is : current = row :=
          Option.some.inj (wrote.found.symm.trans found)
        subst is
        exact .rephotographed rechecks draft wrote rfl
  case h_3 notStart notRecheck =>
    cases acted
    exact .nothing notStart notRecheck

/-! ## The transaction of a message -/

inductive Store.Handles (settings : Settings) (store : Store)
    (incoming : IncomingWhatsAppMessage) (geocode : Option ReverseGeocode)
    (inputs : HandleInputs) (now : Time) : Store → Handled → Prop where
  | answered {locked : Store} {replyKind keyPrefix body : String} :
      locked = store ∨ store.Locks incoming.waId now locked none →
      Handles settings store incoming geocode inputs now
        (locked.answer incoming replyKind keyPrefix body) .replied
  | advanced {locked acted : Store}
      {found : Option (String × Conversation)} {id : String}
      {row : Conversation} {result : FsmResult} {context : Context} :
      store.Locks incoming.waId now locked found →
      advance incoming.waId (found.map (·.2.state))
        (found.map (·.2.context)) incoming geocode now = some result →
      (found = none → store.conversations.find inputs.conversationId = none) →
      Store.upsertedConversation settings found incoming.waId result.state
        result.context incoming.receivedAt now inputs.conversationId =
        (id, row) →
      locked.Acts incoming id result inputs now acted context →
      Handles settings store incoming geocode inputs now
        (acted.finishTurn incoming id row (found.map (·.2.state)) result
          context)
        (.advanced result.action context)

section

variable {settings : Settings} {geometry : Geometry} {store after : Store}
  {incoming : IncomingWhatsAppMessage} {geocode : Option ReverseGeocode}
  {inputs : HandleInputs} {now : Time}

theorem Store.advanceConversation_handles {handled : Handled}
    (ran : store.advanceConversation settings incoming geocode inputs now =
      some (after, handled)) (committed : handled ≠ .raised) :
    store.Handles settings incoming geocode inputs now after handled := by
  unfold Store.advanceConversation at ran
  have locks :=
    store.lockContactAndGetConversation_locks incoming.waId now
  generalize store.lockContactAndGetConversation incoming.waId now = locked
    at ran locks
  obtain ⟨locked, found⟩ := locked
  simp only at ran locks
  split at ran
  case isTrue query =>
    cases ran
    obtain rfl : found = none := by simpa using query.1
    exact .answered (.inr locks)
  case isFalse =>
    split at ran
    · cases ran
      exact absurd rfl committed
    case h_2 result advanced =>
      split at ran
      · cases ran
      case isFalse fresh =>
        generalize upserts : Store.upsertedConversation settings found
          incoming.waId result.state result.context incoming.receivedAt now
          inputs.conversationId = upserted at ran
        obtain ⟨id, row⟩ := upserted
        simp only at ran
        split at ran
        · cases ran
        · cases ran
          exact absurd rfl committed
        case h_3 acted context acts =>
          cases ran
          refine .advanced locks advanced ?_ upserts
            (Store.performAction_acts acts)
          rintro rfl
          simpa using fresh

theorem Store.handleInbound_handles {handled : Handled}
    (ran : store.handleInbound settings incoming geocode inputs now =
      some (after, handled)) (committed : handled ≠ .raised) :
    store.Handles settings incoming geocode inputs now after handled := by
  have code : store.decideCode settings incoming geocode inputs now =
      some (after, handled) →
      store.Handles settings incoming geocode inputs now after handled := by
    intro decided
    unfold Store.decideCode at decided
    split at decided
    · cases decided
      exact .answered (.inl rfl)
    · exact Store.advanceConversation_handles decided committed
  unfold Store.handleInbound at ran
  split at ran
  · split at ran
    · cases ran
      exact .answered (.inl rfl)
    · exact code ran
  · exact code ran

end

/-! ## Follow-ups -/

inductive Followup.Moves (settings : Settings) (geometry : Geometry)
    (store : Store) (followup : Followup) (choice : Choice) :
    Store → Progress FollowupStage → Prop where
  | ran {action : Action} {task : Pipeline.Task} {answer : Pipeline.Answer}
      {pipeline : Pipeline.Store} {progress : Pipeline.Progress} :
      followup.stage = .running action task →
      choice.answer = .pipeline answer →
      task.resume settings.pipeline geometry store.pipeline
        { now := choice.now, answer := answer } = some (pipeline, progress) →
      Moves settings geometry store followup choice
        { store with pipeline := pipeline }
        (FollowupStage.next followup.grievanceId action progress)
  -- The contact has no conversation, or an expired one.
  | unsent {result : PipelineResult} {locked : Store} :
      followup.stage = .sending result →
      store.Locks followup.waId choice.now locked none →
      Moves settings geometry store followup choice store .returned
  | sent {result : PipelineResult} {id : String}
      {conversation : Conversation} {intent : OutboundIntent} {key : String}
      {progress : Progress FollowupStage} {mediaId : Option String} :
      followup.stage = .sending result →
      followup.waId ∉ store.lockedContacts →
      store.Locks followup.waId choice.now store (some (id, conversation)) →
      followupIntent followup result
        (store.pipeline.grievances.find followup.grievanceId) mediaId =
        some intent →
      progress = .more .posting ∨ progress = .returned →
      Moves settings geometry store followup choice
        { store.putConversation id
            { conversation with state := followupState result } with
          outgoing := addOutgoing store.outgoing
            (intentMessage followup.waId (some id) intent key none) }
        progress
  | replied {replyKind body key : String}
      {progress : Progress FollowupStage} :
      followup.stage = .replying replyKind body key →
      progress = .more .posting ∨ progress = .returned →
      Moves settings geometry store followup choice
        { store with
          outgoing := addOutgoing store.outgoing
            (textMessage followup.waId body replyKind key none) }
        progress
  | posted :
      followup.stage = .posting →
      Moves settings geometry store followup choice store .returned
  -- The summary of a grievance that is not there raises.
  | raised :
      (choice.answer = .raises ∨ ∃ result,
        followup.stage = .sending result ∧
        store.pipeline.grievances.find followup.grievanceId = none) →
      Moves settings geometry store followup choice store .raised

section

variable {settings : Settings} {geometry : Geometry} {store after : Store}
  {choice : Choice}

theorem Followup.resume_moves {followup : Followup}
    {progress : Progress FollowupStage}
    (resumed : followup.resume settings geometry store choice =
      some (after, progress)) :
    followup.Moves settings geometry store choice after progress := by
  unfold Followup.resume at resumed
  split at resumed
  case h_1 action task answer stage given =>
    obtain ⟨⟨pipeline, moved⟩, ran, same⟩ :=
      Option.map_eq_some_iff.mp resumed
    cases same
    exact .ran stage given ran
  case h_2 result mediaId stage _ =>
    unfold Store.sendFollowup at resumed
    split at resumed
    · cases resumed
    case isFalse unlocked =>
      have locks := store.lockContactAndGetConversation_locks followup.waId
        choice.now
      generalize store.lockContactAndGetConversation followup.waId
        choice.now = locked at resumed locks
      obtain ⟨locked, found⟩ := locked
      simp only at resumed locks
      split at resumed
      · cases resumed
        exact .unsent stage locks
      case h_2 id conversation =>
        split at resumed
        case h_1 unbuilt =>
          cases resumed
          refine .raised (.inr ⟨result, stage, ?_⟩)
          unfold followupIntent at unbuilt
          split at unbuilt
          · cases unbuilt
          · exact Option.map_eq_none_iff.mp unbuilt
        case h_2 intent built =>
          obtain ⟨rfl, rfl⟩ := Prod.mk.inj (Option.some.inj resumed)
          rw [Store.storeOutgoingPending_fst]
          have same : locked = store := by
            cases locks
            rfl
          subst same
          refine .sent stage unlocked locks built ?_
          split
          · exact .inl rfl
          · exact .inr rfl
  case h_3 replyKind body key stage _ =>
    unfold Store.sendStandaloneReply at resumed
    split at resumed
    · cases resumed
    case isFalse unlocked =>
      have shape := store.storeOutgoingPending_fst
        (textMessage followup.waId body replyKind key none)
      generalize store.storeOutgoingPending
        (textMessage followup.waId body replyKind key none) = outcome
        at resumed shape
      obtain ⟨stored, created⟩ := outcome
      simp only at shape
      subst shape
      cases created
      · cases resumed
        exact .replied stage (.inr rfl)
      · cases resumed
        exact .replied stage (.inl rfl)
  case h_4 stage _ =>
    cases resumed
    exact .posted stage
  case h_5 raises =>
    cases resumed
    exact .raised (.inl raises)
  case h_6 raises =>
    cases resumed
    exact .raised (.inl raises)
  case h_7 raises =>
    cases resumed
    exact .raised (.inl raises)
  case h_8 => cases resumed

end

/-! ## Messages -/

inductive InboundStage.Moves (settings : Settings) (geometry : Geometry)
    (store : Store) (incoming : IncomingWhatsAppMessage) (choice : Choice) :
    InboundStage → Store → Progress InboundStage → Prop where
  | geocoded {geocode : Option ReverseGeocode} :
      Moves settings geometry store incoming choice .geocoding store
        (.more (.claiming geocode))
  | consumed {geocode : Option ReverseGeocode} :
      store.consumed incoming.metaMessageId = true →
      Moves settings geometry store incoming choice (.claiming geocode) store
        .returned
  | claimed {geocode : Option ReverseGeocode} :
      incoming.waId ∉ store.lockedContacts →
      incoming.metaMessageId ∉ store.claiming →
      store.consumed incoming.metaMessageId = false →
      Moves settings geometry store incoming choice (.claiming geocode)
        (store.claim incoming) (.more (.transacting geocode))
  | committed {geocode : Option ReverseGeocode} {inputs : HandleInputs}
      {after : Store} {handled : Handled} :
      (store.release incoming).Handles settings incoming geocode inputs
        choice.now after handled →
      Moves settings geometry store incoming choice (.transacting geocode)
        after (.more (.posting (handledFollowup incoming handled)))
  | rolledBack {geocode : Option ReverseGeocode} :
      Moves settings geometry store incoming choice (.transacting geocode)
        (store.release incoming) .raised
  | posted {followup : Option Followup} :
      Moves settings geometry store incoming choice (.posting followup) store
        (InboundStage.afterPosting followup)
  | followed {followup : Followup} {after : Store}
      {progress : Progress FollowupStage} :
      followup.Moves settings geometry store choice after progress →
      Moves settings geometry store incoming choice (.following followup)
        after (InboundStage.ofFollowup followup progress)
  | raised {stage : InboundStage} :
      (stage = .geocoding ∨ (∃ geocode, stage = .claiming geocode) ∨
        ∃ followup, stage = .posting followup) →
      choice.answer = .raises →
      Moves settings geometry store incoming choice stage store .raised

section

variable {settings : Settings} {geometry : Geometry} {store after : Store}
  {choice : Choice} {incoming : IncomingWhatsAppMessage}

theorem InboundStage.resume_moves {stage : InboundStage}
    {progress : Progress InboundStage}
    (resumed : stage.resume settings geometry store incoming choice =
      some (after, progress)) :
    stage.Moves settings geometry store incoming choice after progress := by
  unfold InboundStage.resume at resumed
  split at resumed
  case h_1 =>
    obtain ⟨moved, geocoded, same⟩ := Option.map_eq_some_iff.mp resumed
    cases same
    unfold InboundStage.geocode at geocoded
    split at geocoded
    · split at geocoded
      · cases geocoded
      · cases geocoded
        exact .geocoded
    · split at geocoded
      · cases geocoded
        exact .geocoded
      · cases geocoded
    case h_3 given =>
      cases geocoded
      exact .raised (.inl rfl) given
    · cases geocoded
  case h_2 geocode _ =>
    unfold Store.claimInbound at resumed
    split at resumed
    · cases resumed
    case isFalse unlocked =>
      rw [not_or] at unlocked
      split at resumed
      case isTrue consumed =>
        cases resumed
        exact .consumed consumed
      case isFalse fresh =>
        cases resumed
        exact .claimed unlocked.1 unlocked.2 (by simpa using fresh)
  case h_3 geocode given =>
    cases resumed
    exact .raised (.inr (.inl ⟨geocode, rfl⟩)) given
  case h_4 geocode inputs _ =>
    unfold Store.commitInbound at resumed
    split at resumed
    · cases resumed
    · cases resumed
      exact .rolledBack
    case h_3 final handled committed ran =>
      cases resumed
      refine .committed (Store.handleInbound_handles ran ?_)
      rintro rfl
      exact committed rfl
  case h_5 geocode _ =>
    cases resumed
    exact .rolledBack
  case h_6 followup _ =>
    cases resumed
    exact .posted
  case h_7 followup given =>
    cases resumed
    exact .raised (.inr (.inr ⟨followup, rfl⟩)) given
  case h_8 followup =>
    obtain ⟨⟨middle, moved⟩, ran, same⟩ := Option.map_eq_some_iff.mp resumed
    cases same
    exact .followed (Followup.resume_moves ran)
  case h_9 => cases resumed

end

/-! ## Processes -/

inductive Task.Moves (settings : Settings) (geometry : Geometry)
    (store : Store) (choice : Choice) :
    Task → Store → Option Task → Prop where
  | refused {eventId : String} :
      Moves settings geometry store choice (.driving eventId) store none
  | claimed {eventId : String} {event leased : WebhookEvent} {next : Task} :
      store.events.find eventId = some event →
      leased.payload = event.payload →
      next = .poisoning eventId ∨ next = .storing eventId event.payload →
      Moves settings geometry store choice (.driving eventId)
        { store with events := store.events.put eventId leased } (some next)
  | poisoned {eventId : String} :
      Moves settings geometry store choice (.poisoning eventId)
        ((store.markEventProcessed eventId choice.now).record
          (.poisoned eventId)) none
  | stored {eventId : String} {payload : List IncomingWhatsAppMessage} :
      Moves settings geometry store choice (.storing eventId payload)
        (store.storeEvent settings eventId payload).1
        (store.storeEvent settings eventId payload).2
  | handled {eventId : String} {incoming : IncomingWhatsAppMessage}
      {stage : InboundStage} {rest : List IncomingWhatsAppMessage}
      {allOk : Bool} {after : Store} {progress : Progress InboundStage} :
      stage.Moves settings geometry store incoming choice after progress →
      Moves settings geometry store choice
        (.handling eventId incoming stage rest allOk) after
        (Task.ofInbound eventId incoming rest allOk progress)
  | marked {eventId : String} :
      Moves settings geometry store choice (.marking eventId)
        ((store.markEventProcessed eventId choice.now).record
          (.processed eventId)) none
  | selected {limit : Nat} {grievanceIds : List String} :
      store.pipeline.Selects
        (Pipeline.Store.stuckProcessing
          (choice.now - seconds stuckProcessingAfterSeconds))
        limit grievanceIds →
      Moves settings geometry store choice (.sweeping limit) store
        (Task.nextRecovery (store.contactsOf grievanceIds))
  | recovered {followup : Followup} {rest : List (String × String)}
      {after : Store} {progress : Progress FollowupStage} :
      followup.Moves settings geometry store choice after progress →
      Moves settings geometry store choice (.recovering followup rest) after
        (Task.ofRecovery followup rest progress)
  | web {job : Pipeline.Job} {answer : Pipeline.Answer}
      {pipeline : Pipeline.Store} {next : Option Pipeline.Job} :
      job.resume settings.pipeline geometry store.pipeline
        { now := choice.now, answer := answer } = some (pipeline, next) →
      Moves settings geometry store choice (.web job)
        { store with pipeline := pipeline } (next.map .web)
  | raised {task : Task} :
      (∀ eventId incoming stage rest allOk,
        task ≠ .handling eventId incoming stage rest allOk) →
      (∀ followup rest, task ≠ .recovering followup rest) →
      Moves settings geometry store choice task store none

section

variable {settings : Settings} {geometry : Geometry} {store after : Store}
  {choice : Choice}

theorem Store.claimEvent_eq {eventId : String} {now : Time}
    {leased : WebhookEvent}
    (claimed : store.claimEvent eventId now = some (after, leased)) :
    ∃ event, store.events.find eventId = some event ∧
      leased.payload = event.payload ∧
      after = { store with events := store.events.put eventId leased } := by
  unfold Store.claimEvent at claimed
  split at claimed
  · cases claimed
  case h_2 event found =>
    split at claimed
    · cases claimed
      exact ⟨event, found, rfl, rfl⟩
    · cases claimed

/-- Everything a step of a process can be. -/
theorem Task.resume_moves {task : Task} {next : Option Task}
    (resumed : task.resume settings geometry store choice =
      some (after, next)) :
    task.Moves settings geometry store choice after next := by
  unfold Task.resume at resumed
  split at resumed
  case h_1 eventId _ =>
    unfold Store.driveEvent at resumed
    split at resumed
    · cases resumed
      exact .refused
    case h_2 claimed leased claims =>
      obtain ⟨event, found, payload, rfl⟩ := Store.claimEvent_eq claims
      cases resumed
      split
      · exact .claimed found payload (.inl rfl)
      · exact .claimed found payload (.inr (by rw [payload]))
  case h_2 eventId _ =>
    cases resumed
    exact .poisoned
  case h_3 eventId payload _ =>
    have same := Prod.mk.inj (Option.some.inj resumed)
    rw [← same.1, ← same.2]
    exact .stored
  case h_4 eventId incoming stage rest allOk =>
    obtain ⟨⟨middle, progress⟩, ran, same⟩ := Option.map_eq_some_iff.mp resumed
    have moves := InboundStage.resume_moves ran
    obtain ⟨rfl, rfl⟩ := Prod.mk.inj same
    exact .handled moves
  case h_5 eventId _ =>
    cases resumed
    exact .marked
  case h_6 limit grievanceIds _ =>
    unfold Store.sweepStuckProcessing at resumed
    dsimp only at resumed
    split at resumed
    case isTrue selects =>
      cases resumed
      exact .selected selects
    · cases resumed
  case h_7 followup rest =>
    obtain ⟨⟨middle, progress⟩, ran, same⟩ := Option.map_eq_some_iff.mp resumed
    have moves := Followup.resume_moves ran
    obtain ⟨rfl, rfl⟩ := Prod.mk.inj same
    exact .recovered moves
  case h_8 job answer _ =>
    obtain ⟨⟨pipeline, moved⟩, ran, same⟩ := Option.map_eq_some_iff.mp resumed
    cases same
    exact .web ran
  case h_14 => cases resumed
  all_goals
    cases resumed
    exact .raised (by simp) (by simp)

/-- A step is one of a message, of a follow-up or of the web application.  Any
other touches neither conversations nor grievances, nor what is sent. -/
inductive Task.Steps (settings : Settings) (geometry : Geometry)
    (store : Store) (choice : Choice) :
    Task → Store → Option Task → Prop where
  | handled {eventId : String} {incoming : IncomingWhatsAppMessage}
      {stage : InboundStage} {rest : List IncomingWhatsAppMessage}
      {allOk : Bool} {after : Store} {progress : Progress InboundStage} :
      stage.Moves settings geometry store incoming choice after progress →
      Steps settings geometry store choice
        (.handling eventId incoming stage rest allOk) after
        (Task.ofInbound eventId incoming rest allOk progress)
  | recovered {followup : Followup} {rest : List (String × String)}
      {after : Store} {progress : Progress FollowupStage} :
      followup.Moves settings geometry store choice after progress →
      Steps settings geometry store choice (.recovering followup rest) after
        (Task.ofRecovery followup rest progress)
  | web {job : Pipeline.Job} {answer : Pipeline.Answer}
      {pipeline : Pipeline.Store} {next : Option Pipeline.Job} :
      job.resume settings.pipeline geometry store.pipeline
        { now := choice.now, answer := answer } = some (pipeline, next) →
      Steps settings geometry store choice (.web job)
        { store with pipeline := pipeline } (next.map .web)
  | kept {task : Task} {next : Option Task}
      (events : Table String WebhookEvent)
      (incoming : List StoredMessage) (journal : List Entry) :
      (∀ eventId message stage rest allOk,
        task ≠ .handling eventId message stage rest allOk) →
      (∀ followup rest, task ≠ .recovering followup rest) →
      Steps settings geometry store choice task
        { store with
          events := events
          incoming := incoming
          journal := journal } next

theorem Task.resume_steps {task : Task} {next : Option Task}
    (resumed : task.resume settings geometry store choice =
      some (after, next)) :
    task.Steps settings geometry store choice after next := by
  cases Task.resume_moves resumed with
  | handled moves => exact .handled moves
  | recovered moves => exact .recovered moves
  | web moved => exact .web moved
  | raised unhandled unrecovering =>
      exact .kept _ _ _ unhandled unrecovering
  | @poisoned eventId =>
      obtain ⟨_, marked⟩ := store.markEventProcessed_eq eventId choice.now
      rw [marked]
      exact .kept _ _ _ (by simp) (by simp)
  | @marked eventId =>
      obtain ⟨_, marked⟩ := store.markEventProcessed_eq eventId choice.now
      rw [marked]
      exact .kept _ _ _ (by simp) (by simp)
  | @stored eventId payload =>
      obtain ⟨incoming, stored⟩ := store.storeIncomingMessages_eq payload
      have shape : (store.storeEvent settings eventId payload).1 =
          { store with incoming := incoming } := stored
      rw [shape]
      exact .kept _ _ _ (by simp) (by simp)
  | _ => exact .kept _ _ _ (by simp) (by simp)

end

/-! ## Processes that end -/

theorem Followup.release_eq (store : Store) (followup : Followup) :
    ∃ pipeline, followup.release store =
        { store with pipeline := pipeline } ∧
      pipeline.grievances = store.pipeline.grievances := by
  unfold Followup.release
  split
  case h_1 action task _ =>
    have same := task.release_sameRows store.pipeline
    exact ⟨_, rfl, same.1⟩
  case h_2 => exact ⟨store.pipeline, rfl, rfl⟩

/-- A process that ends gives back claims and locks. -/
theorem Task.release_eq (store : Store) (task : Task) :
    ∃ claiming lockedContacts pipeline, task.release store =
        { store with
          claiming := claiming
          lockedContacts := lockedContacts
          pipeline := pipeline } ∧
      pipeline.grievances = store.pipeline.grievances := by
  have followed : ∀ followup : Followup,
      ∃ claiming lockedContacts pipeline, followup.release store =
          { store with
            claiming := claiming
            lockedContacts := lockedContacts
            pipeline := pipeline } ∧
        pipeline.grievances = store.pipeline.grievances := by
    intro followup
    obtain ⟨pipeline, shape, same⟩ := followup.release_eq store
    exact ⟨store.claiming, store.lockedContacts, pipeline, shape, same⟩
  cases task with
  | handling eventId incoming stage rest allOk =>
      cases stage with
      | following followup => exact followed followup
      | _ => exact ⟨_, _, _, rfl, rfl⟩
  | recovering followup rest => exact followed followup
  | web job =>
      have same := job.release_sameRows store.pipeline
      exact ⟨_, _, _, rfl, same.1⟩
  | _ => exact ⟨_, _, _, rfl, rfl⟩

end JanSetu.Whatsapp
