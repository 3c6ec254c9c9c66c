import JanSetu.Whatsapp.Drafts
import JanSetu.Whatsapp.StaleTaps

/-!
# A message is consumed once

Any number of events can carry the same message, and any number of drivers can
be at it.  The transaction that answers a message inserts its consumption row
first, and a second transaction that inserts the same row waits for it; so at
most one of them commits with the message unconsumed before.
-/

namespace JanSetu.Whatsapp

open Pipeline (Geometry)
open Process (Label)

def Entry.advances (messageId : String) : Entry → Bool
  | .advanced id _ => id = messageId
  | _ => false

def OutgoingMessage.answers (messageId replyKind : String)
    (message : OutgoingMessage) : Bool :=
  message.inResponseToMessageId = some messageId ∧
    message.replyKind = replyKind

/-- How many committed transactions advanced a conversation for the
message. -/
def Store.advances (store : Store) (messageId : String) : Nat :=
  store.journal.countP (·.advances messageId)

def Store.replies (store : Store) (messageId replyKind : String) : Nat :=
  store.outgoing.countP (·.answers messageId replyKind)

/-! ## One message -/

/-- At most one of everything, and nothing before the consumption. -/
structure Store.Once (store : Store) (messageId : String) : Prop where
  advances : store.advances messageId ≤ 1
  replies : ∀ replyKind, store.replies messageId replyKind ≤ 1
  unadvanced : store.consumed messageId = false →
    store.advances messageId = 0
  unanswered : store.consumed messageId = false →
    ∀ replyKind, store.replies messageId replyKind = 0

/-- The step has nothing to do with the message. -/
structure Store.SameMessage (store after : Store) (messageId : String) :
    Prop where
  consumed : after.consumed messageId = store.consumed messageId
  advances : after.advances messageId = store.advances messageId
  replies : ∀ replyKind,
    after.replies messageId replyKind = store.replies messageId replyKind

/-- The step is the transaction that consumes the message. -/
structure Store.Consumes (store after : Store) (messageId : String) :
    Prop where
  consumed : after.consumed messageId = true
  advances : after.advances messageId ≤ store.advances messageId + 1
  replies : ∀ replyKind,
    after.replies messageId replyKind ≤ store.replies messageId replyKind + 1

section

variable {store middle after : Store} {messageId : String}

theorem Store.SameMessage.once (same : store.SameMessage after messageId)
    (once : store.Once messageId) : after.Once messageId := by
  constructor
  · rw [same.advances]
    exact once.advances
  · intro replyKind
    rw [same.replies]
    exact once.replies replyKind
  · intro unconsumed
    rw [same.consumed] at unconsumed
    rw [same.advances]
    exact once.unadvanced unconsumed
  · intro unconsumed replyKind
    rw [same.consumed] at unconsumed
    rw [same.replies]
    exact once.unanswered unconsumed replyKind

theorem Store.Consumes.once (consumes : store.Consumes after messageId)
    (fresh : store.consumed messageId = false)
    (once : store.Once messageId) : after.Once messageId := by
  constructor
  · have none := once.unadvanced fresh
    have most := consumes.advances
    omega
  · intro replyKind
    have none := once.unanswered fresh replyKind
    have most := consumes.replies replyKind
    omega
  · intro unconsumed
    rw [consumes.consumed] at unconsumed
    cases unconsumed
  · intro unconsumed
    rw [consumes.consumed] at unconsumed
    cases unconsumed

theorem Store.SameMessage.trans (first : store.SameMessage middle messageId)
    (second : middle.SameMessage after messageId) :
    store.SameMessage after messageId := by
  constructor
  · rw [second.consumed, first.consumed]
  · rw [second.advances, first.advances]
  · intro replyKind
    rw [second.replies, first.replies]

end

/-! ## Statements -/

/-- Nothing but what the messages leave behind is the same. -/
structure Store.SameLog (store after : Store) : Prop where
  consumptions : after.consumptions = store.consumptions
  outgoing : after.outgoing = store.outgoing
  journal : after.journal = store.journal
  claiming : after.claiming = store.claiming

section

variable {settings : Settings} {geometry : Geometry}
  {store middle after : Store} {messageId : String} {choice : Choice}

theorem Store.SameLog.refl (store : Store) : store.SameLog store :=
  ⟨rfl, rfl, rfl, rfl⟩

theorem Store.SameLog.of_pipeline (store : Store)
    (pipeline : Pipeline.Store) :
    store.SameLog { store with pipeline := pipeline } :=
  ⟨rfl, rfl, rfl, rfl⟩

theorem Store.SameLog.trans (first : store.SameLog middle)
    (second : middle.SameLog after) : store.SameLog after := by
  constructor
  · rw [second.consumptions, first.consumptions]
  · rw [second.outgoing, first.outgoing]
  · rw [second.journal, first.journal]
  · rw [second.claiming, first.claiming]

theorem Store.SameLog.sameMessage (same : store.SameLog after)
    (messageId : String) : store.SameMessage after messageId := by
  constructor
  · simp only [Store.consumed, same.consumptions]
  · simp only [Store.advances, same.journal]
  · intro replyKind
    simp only [Store.replies, same.outgoing]

theorem Store.Locks.sameLog {contactId : String} {now : Time}
    {found : Option (String × Conversation)}
    (locks : store.Locks contactId now after found) :
    store.SameLog after := by
  cases locks with
  | free => exact .refl store
  | expired => exact ⟨rfl, rfl, rfl, rfl⟩
  | found => exact .refl store

theorem Store.sameLog_of_locked {contactId : String} {now : Time}
    (locks : after = store ∨ store.Locks contactId now after none) :
    store.SameLog after := by
  rcases locks with rfl | locks
  · exact .refl after
  · exact locks.sameLog

theorem Store.Acts.sameLog {incoming : IncomingWhatsAppMessage}
    {conversationId : String} {result : FsmResult} {inputs : HandleInputs}
    {now : Time} {context : Context}
    (acts : store.Acts incoming conversationId result inputs now after
      context) : store.SameLog after := by
  cases acts with
  | drafted _ _ _ _ _ same =>
      rw [same]
      exact .of_pipeline store _
  | redrafted _ _ _ same =>
      rw [same]
      exact .of_pipeline store _
  | rephotographed _ _ _ same =>
      rw [same]
      exact .of_pipeline store _
  | nothing => exact .refl store

theorem countP_addOutgoing_le (outgoing : List OutgoingMessage)
    (message : OutgoingMessage) (test : OutgoingMessage → Bool) :
    (addOutgoing outgoing message).countP test ≤
      outgoing.countP test + 1 := by
  rcases addOutgoing_cases outgoing message with same | added
  · rw [same]
    omega
  · rw [added, List.countP_cons]
    split
    · omega
    · omega

theorem countP_addOutgoing_of_not {outgoing : List OutgoingMessage}
    {message : OutgoingMessage} {test : OutgoingMessage → Bool}
    (other : test message = false) :
    (addOutgoing outgoing message).countP test = outgoing.countP test := by
  rcases addOutgoing_cases outgoing message with same | added
  · rw [same]
  · rw [added, List.countP_cons_of_neg]
    simp [other]

/-- A message that answers no inbound one. -/
theorem Store.sameMessage_of_outgoing {message : OutgoingMessage}
    (unasked : message.inResponseToMessageId ≠ some messageId)
    (consumptions : after.consumptions = store.consumptions)
    (outgoing : after.outgoing = addOutgoing store.outgoing message)
    (journal : after.journal = store.journal) :
    store.SameMessage after messageId := by
  constructor
  · simp only [Store.consumed, consumptions]
  · simp only [Store.advances, journal]
  · intro replyKind
    unfold Store.replies
    rw [outgoing, countP_addOutgoing_of_not]
    simp [OutgoingMessage.answers, unasked]

theorem Followup.Moves.sameMessage {followup : Followup}
    {progress : Progress FollowupStage}
    (moves : followup.Moves settings geometry store choice after progress)
    (messageId : String) : store.SameMessage after messageId := by
  cases moves with
  | ran => exact (Store.SameLog.of_pipeline store _).sameMessage messageId
  | unsent => exact (Store.SameLog.refl store).sameMessage messageId
  | sent =>
      exact Store.sameMessage_of_outgoing (Option.some_ne_none _).symm
        rfl rfl rfl
  | replied =>
      exact Store.sameMessage_of_outgoing (Option.some_ne_none _).symm
        rfl rfl rfl
  | posted => exact (Store.SameLog.refl store).sameMessage messageId
  | raised => exact (Store.SameLog.refl store).sameMessage messageId

/-! ## The transaction -/

theorem Store.answer_consumes (store : Store)
    (incoming : IncomingWhatsAppMessage)
    (replyKind keyPrefix body : String) :
    store.Consumes (store.answer incoming replyKind keyPrefix body)
      incoming.metaMessageId := by
  rw [Store.answer_eq]
  constructor
  · simp [Store.consumed]
  · simp [Store.advances]
  · intro kind
    exact countP_addOutgoing_le _ _ _

theorem Store.answer_sameMessage (store : Store)
    {incoming : IncomingWhatsAppMessage}
    (other : messageId ≠ incoming.metaMessageId)
    (replyKind keyPrefix body : String) :
    store.SameMessage (store.answer incoming replyKind keyPrefix body)
      messageId := by
  have different : incoming.metaMessageId ≠ messageId := Ne.symm other
  rw [Store.answer_eq]
  constructor
  · simp [Store.consumed, different]
  · rfl
  · intro kind
    refine countP_addOutgoing_of_not ?_
    simp [OutgoingMessage.answers, textMessage, different]

theorem Store.finishTurn_consumes (store : Store)
    (incoming : IncomingWhatsAppMessage) (id : String) (row : Conversation)
    (stateBefore : Option ConversationState) (result : FsmResult)
    (context : Context) (few : result.intents.length ≤ 1) :
    store.Consumes
      (store.finishTurn incoming id row stateBefore result context)
      incoming.metaMessageId := by
  obtain ⟨outgoing, shape, replies⟩ :=
    store.finishTurn_eq incoming id row stateBefore result context few
  rw [shape]
  constructor
  · simp [Store.consumed]
  · simp [Store.advances, Entry.advances]
  · intro replyKind
    rcases replies with rfl | ⟨message, _, rfl⟩
    · exact Nat.le_succ _
    · exact countP_addOutgoing_le _ _ _

theorem Store.finishTurn_sameMessage (store : Store)
    {incoming : IncomingWhatsAppMessage}
    (other : messageId ≠ incoming.metaMessageId) (id : String)
    (row : Conversation) (stateBefore : Option ConversationState)
    (result : FsmResult) (context : Context)
    (few : result.intents.length ≤ 1) :
    store.SameMessage
      (store.finishTurn incoming id row stateBefore result context)
      messageId := by
  have different : incoming.metaMessageId ≠ messageId := Ne.symm other
  obtain ⟨outgoing, shape, replies⟩ :=
    store.finishTurn_eq incoming id row stateBefore result context few
  rw [shape]
  constructor
  · simp [Store.consumed, different]
  · simp [Store.advances, Entry.advances, different]
  · intro replyKind
    rcases replies with rfl | ⟨message, inResponse, rfl⟩
    · rfl
    · refine countP_addOutgoing_of_not ?_
      simp [OutgoingMessage.answers, inResponse, different]

theorem Store.Handles.claiming {incoming : IncomingWhatsAppMessage}
    {geocode : Option ReverseGeocode} {inputs : HandleInputs} {now : Time}
    {handled : Handled}
    (handles : store.Handles settings incoming geocode inputs now after
      handled) : after.claiming = store.claiming := by
  cases handles with
  | answered locks =>
      rw [Store.answer_eq]
      exact (Store.sameLog_of_locked locks).claiming
  | advanced locks advanced _ _ acts =>
      have few := (advance_prompts advanced).atMostOne
      obtain ⟨_, shape, _⟩ := Store.finishTurn_eq _ _ _ _ _ _ _ few
      rw [shape]
      exact (locks.sameLog.trans acts.sameLog).claiming

theorem Store.Handles.consumes {incoming : IncomingWhatsAppMessage}
    {geocode : Option ReverseGeocode} {inputs : HandleInputs} {now : Time}
    {handled : Handled}
    (handles : store.Handles settings incoming geocode inputs now after
      handled) :
    store.Consumes after incoming.metaMessageId ∧
      ∀ messageId, messageId ≠ incoming.metaMessageId →
        store.SameMessage after messageId := by
  have moved : ∀ {locked final : Store}, store.SameLog locked →
      locked.Consumes final incoming.metaMessageId →
      store.Consumes final incoming.metaMessageId := by
    intro locked final same consumes
    have unmoved := same.sameMessage incoming.metaMessageId
    constructor
    · exact consumes.consumed
    · rw [← unmoved.advances]
      exact consumes.advances
    · intro replyKind
      rw [← unmoved.replies]
      exact consumes.replies replyKind
  cases handles with
  | answered locks =>
      have same := Store.sameLog_of_locked locks
      refine ⟨moved same (Store.answer_consumes _ _ _ _ _), ?_⟩
      intro messageId other
      exact (same.sameMessage messageId).trans
        (Store.answer_sameMessage _ other _ _ _)
  | advanced locks advanced _ _ acts =>
      have few := (advance_prompts advanced).atMostOne
      have same := locks.sameLog.trans acts.sameLog
      refine ⟨moved same (Store.finishTurn_consumes _ _ _ _ _ _ _ few), ?_⟩
      intro messageId other
      exact (same.sameMessage messageId).trans
        (Store.finishTurn_sameMessage _ other _ _ _ _ _ few)

end

/-! ## Steps of a driver -/

/-- The message whose transaction is open. -/
def Task.claims : Task → Option String
  | .handling _ incoming (.transacting _) _ _ => some incoming.metaMessageId
  | _ => none

/-- What a step does about the messages and the open transactions. -/
inductive Task.Settles (store : Store) (task : Task) (after : Store)
    (next : Option Task) : Prop where
  | rested :
      task.claims = none →
      next.bind Task.claims = none →
      after.claiming = store.claiming →
      (∀ messageId, store.SameMessage after messageId) →
      Settles store task after next
  | claimed {messageId : String} :
      task.claims = none →
      next.bind Task.claims = some messageId →
      messageId ∉ store.claiming →
      store.consumed messageId = false →
      after.claiming = messageId :: store.claiming →
      (∀ messageId, store.SameMessage after messageId) →
      Settles store task after next
  | closed {messageId : String} :
      task.claims = some messageId →
      next.bind Task.claims = none →
      after.claiming = store.claiming.erase messageId →
      store.SameMessage after messageId ∨ store.Consumes after messageId →
      (∀ other, other ≠ messageId → store.SameMessage after other) →
      Settles store task after next

section

variable {settings : Settings} {geometry : Geometry} {store after : Store}
  {choice : Choice} {task : Task} {next : Option Task}

theorem Task.nextMessage_claims (eventId : String) (allOk : Bool)
    (messages : List IncomingWhatsAppMessage) :
    (Task.nextMessage eventId allOk messages).bind Task.claims = none := by
  unfold Task.nextMessage
  cases messages with
  | nil => cases allOk <;> rfl
  | cons incoming rest => rfl

theorem Task.nextRecovery_claims (selected : List (String × String)) :
    (Task.nextRecovery selected).bind Task.claims = none := by
  cases selected <;> rfl

theorem Task.ofRecovery_claims (followup : Followup)
    (rest : List (String × String)) (progress : Progress FollowupStage) :
    (Task.ofRecovery followup rest progress).bind Task.claims = none := by
  cases progress with
  | more => rfl
  | _ => exact Task.nextRecovery_claims rest

theorem Task.ofInbound_claims {eventId : String}
    {incoming : IncomingWhatsAppMessage}
    {rest : List IncomingWhatsAppMessage} {allOk : Bool}
    {progress : Progress InboundStage}
    (idle : ∀ geocode, progress ≠ .more (.transacting geocode)) :
    (Task.ofInbound eventId incoming rest allOk progress).bind Task.claims =
      none := by
  cases progress with
  | more stage =>
      cases stage with
      | transacting geocode => exact absurd rfl (idle geocode)
      | _ => rfl
  | returned => exact Task.nextMessage_claims eventId allOk rest
  | raised => exact Task.nextMessage_claims eventId false rest

theorem InboundStage.Moves.settles {eventId : String}
    {incoming : IncomingWhatsAppMessage} {stage : InboundStage}
    {rest : List IncomingWhatsAppMessage} {allOk : Bool}
    {progress : Progress InboundStage}
    (moves : stage.Moves settings geometry store incoming choice after
      progress) :
    Task.Settles store (.handling eventId incoming stage rest allOk) after
      (Task.ofInbound eventId incoming rest allOk progress) := by
  have same : ∀ messageId, store.SameMessage store messageId :=
    (Store.SameLog.refl store).sameMessage
  cases moves with
  | geocoded => exact .rested rfl (Task.ofInbound_claims (by simp)) rfl same
  | consumed => exact .rested rfl (Task.ofInbound_claims (by simp)) rfl same
  | claimed _ unclaimed unconsumed =>
      refine .claimed rfl rfl unclaimed unconsumed rfl ?_
      intro messageId
      exact ⟨rfl, rfl, fun _ => rfl⟩
  | committed handles =>
      obtain ⟨consumes, others⟩ := handles.consumes
      refine .closed rfl (Task.ofInbound_claims (by simp)) handles.claiming
        (.inr ⟨consumes.consumed, consumes.advances, consumes.replies⟩) ?_
      intro other different
      have unmoved := others other different
      exact ⟨unmoved.consumed, unmoved.advances, unmoved.replies⟩
  | rolledBack =>
      have back : ∀ messageId,
          store.SameMessage (store.release incoming) messageId := by
        intro messageId
        exact ⟨rfl, rfl, fun _ => rfl⟩
      exact .closed rfl (Task.ofInbound_claims (by simp)) rfl
        (.inl (back _)) fun other _ => back other
  | @posted followup =>
      refine .rested rfl (Task.ofInbound_claims ?_) rfl same
      cases followup <;> simp [InboundStage.afterPosting]
  | @followed followup _ moved moves =>
      refine .rested rfl (Task.ofInbound_claims ?_) ?_ moves.sameMessage
      · cases moved <;> simp [InboundStage.ofFollowup]
      · cases moves <;> rfl
  | raised which =>
      refine .rested ?_ (Task.ofInbound_claims (by simp)) rfl same
      rcases which with rfl | ⟨_, rfl⟩ | ⟨_, rfl⟩ <;> rfl

theorem Task.resume_settles
    (resumed : task.resume settings geometry store choice =
      some (after, next)) : task.Settles store after next := by
  have same : ∀ messageId, store.SameMessage store messageId :=
    (Store.SameLog.refl store).sameMessage
  cases Task.resume_moves resumed with
  | refused => exact .rested rfl rfl rfl same
  | claimed _ _ which =>
      refine .rested rfl ?_ rfl fun messageId => ⟨rfl, rfl, fun _ => rfl⟩
      rcases which with rfl | rfl <;> rfl
  | @poisoned eventId =>
      obtain ⟨_, marked⟩ := store.markEventProcessed_eq eventId choice.now
      rw [marked]
      refine .rested rfl rfl rfl fun messageId => ⟨rfl, ?_, fun _ => rfl⟩
      exact List.countP_cons_of_neg (by simp [Entry.advances])
  | @stored eventId payload =>
      obtain ⟨incoming, stored⟩ := store.storeIncomingMessages_eq payload
      have shape : (store.storeEvent settings eventId payload).1 =
          { store with incoming := incoming } := stored
      rw [shape]
      refine .rested rfl ?_ rfl fun messageId => ⟨rfl, rfl, fun _ => rfl⟩
      unfold Store.storeEvent
      dsimp only
      split
      · exact Task.nextMessage_claims _ _ _
      · rfl
  | handled moves => exact moves.settles
  | @marked eventId =>
      obtain ⟨_, marked⟩ := store.markEventProcessed_eq eventId choice.now
      rw [marked]
      refine .rested rfl rfl rfl fun messageId => ⟨rfl, ?_, fun _ => rfl⟩
      exact List.countP_cons_of_neg (by simp [Entry.advances])
  | selected => exact .rested rfl (Task.nextRecovery_claims _) rfl same
  | recovered moves =>
      refine .rested rfl (Task.ofRecovery_claims _ _ _) ?_ moves.sameMessage
      cases moves <;> rfl
  | @web job _ pipeline moved =>
      refine .rested rfl ?_ rfl
        (Store.SameLog.of_pipeline store pipeline).sameMessage
      cases moved <;> rfl
  | raised other =>
      refine .rested ?_ rfl rfl same
      cases task with
      | handling => exact absurd rfl (other _ _ _ _ _)
      | _ => rfl

/-- A crash rolls an open transaction back. -/
theorem Task.release_settles (store : Store) (task : Task) :
    task.Settles store (task.release store) none := by
  have same : ∀ messageId, store.SameMessage store messageId :=
    (Store.SameLog.refl store).sameMessage
  have followed : ∀ followup : Followup,
      store.SameLog (followup.release store) := by
    intro followup
    obtain ⟨pipeline, shape, _⟩ := followup.release_eq store
    rw [shape]
    exact .of_pipeline store pipeline
  cases task with
  | handling eventId incoming stage rest allOk =>
      cases stage with
      | transacting geocode =>
          have back : ∀ messageId,
              store.SameMessage (store.release incoming) messageId := by
            intro messageId
            exact ⟨rfl, rfl, fun _ => rfl⟩
          exact .closed rfl rfl rfl (.inl (back _)) fun other _ => back other
      | following followup =>
          exact .rested rfl rfl (followed followup).claiming
            (followed followup).sameMessage
      | _ => exact .rested rfl rfl rfl same
  | recovering followup rest =>
      exact .rested rfl rfl (followed followup).claiming
        (followed followup).sameMessage
  | web job =>
      exact .rested rfl rfl rfl
        (Store.SameLog.of_pipeline store _).sameMessage
  | _ => exact .rested rfl rfl rfl same

end

/-! ## Every interleaving -/

/-- No two processes have the transaction of one message open, and the message
of an open transaction is not consumed. -/
def consumption : Process.Invariant Store Task :=
  { shared := fun store =>
      (∀ messageId, store.Once messageId) ∧ store.OneDraft
    own := fun store task => ∀ messageId, task.claims = some messageId →
      messageId ∈ store.claiming ∧ store.consumed messageId = false
    pair := fun first second => ∀ messageId,
      first.claims = some messageId → second.claims ≠ some messageId }

theorem consumption_arrives {world : World Store Task} {pid : Nat}
    {after : Store} {process : Task} (idle : process.claims = none) :
    consumption.Arrives world pid after process := by
  constructor
  · intro messageId claims
    rw [idle] at claims
    cases claims
  · intro other right _ _
    constructor
    · intro messageId claims
      rw [idle] at claims
      cases claims
    · intro messageId _
      rw [idle]
      exact (Option.some_ne_none _).symm

theorem Task.Settles.kept {world : World Store Task} {pid : Nat}
    {task : Task} {after : Store} {next : Option Task}
    (settles : task.Settles world.shared after next)
    (running : world.Running pid task) (holds : consumption.Holds world)
    (drafts : world.shared.Drafts after) :
    consumption.shared after ∧
      consumption.Undisturbed world pid after ∧
      ∀ process, next = some process →
        consumption.Arrives world pid after process := by
  obtain ⟨⟨once, oneDraft⟩, own, pairs⟩ := holds
  have oneDraft := drafts.oneDraft oneDraft
  cases settles with
  | rested idle idleNext claiming same =>
      refine ⟨⟨fun messageId => (same messageId).once (once messageId),
        oneDraft⟩, ?_, ?_⟩
      · intro other process _ found messageId claims
        rw [claiming, (same messageId).consumed]
        exact own other process found messageId claims
      · rintro process rfl
        exact consumption_arrives idleNext
  | @claimed messageId _ claims unclaimed unconsumed claiming unmoved =>
      refine ⟨⟨fun messageId => (unmoved messageId).once (once messageId),
        oneDraft⟩, ?_, ?_⟩
      · intro other process _ found claimed claims
        obtain ⟨member, fresh⟩ := own other process found claimed claims
        rw [claiming, (unmoved claimed).consumed]
        exact ⟨List.mem_cons_of_mem _ member, fresh⟩
      · rintro process rfl
        have claims : process.claims = some messageId := claims
        -- Another process with the message would have it in the table.
        have alone : ∀ other right, world.Running other right →
            right.claims ≠ some messageId := by
          intro other right found same
          exact unclaimed (own other right found messageId same).1
        constructor
        · intro claimed same
          rw [claims] at same
          cases same
          rw [claiming, (unmoved messageId).consumed]
          exact ⟨List.mem_cons_self, unconsumed⟩
        · intro other right _ found
          constructor
          · intro claimed same
            rw [claims] at same
            cases same
            exact alone other right found
          · intro claimed same
            rw [claims]
            rintro ⟨⟩
            exact alone other right found same
  | @closed messageId claims idle claiming settled others =>
      obtain ⟨member, fresh⟩ := own pid task running messageId claims
      refine ⟨⟨?_, oneDraft⟩, ?_, ?_⟩
      · intro other
        by_cases is : other = messageId
        · subst is
          rcases settled with same | consumes
          · exact same.once (once other)
          · exact consumes.once fresh (once other)
        · exact (others other is).once (once other)
      · intro other process different found claimed claims'
        have is : claimed ≠ messageId := by
          rintro rfl
          exact pairs pid other task process (Ne.symm different) running
            found claimed claims claims'
        obtain ⟨member, fresh⟩ := own other process found claimed claims'
        rw [claiming, (others claimed is).consumed]
        exact ⟨(List.mem_erase_of_ne is).mpr member, fresh⟩
      · rintro process rfl
        exact consumption_arrives idle

theorem consumption_holds {settings : Settings} {geometry : Geometry}
    {world : World Store Task}
    (reachable : (program settings geometry).system.Reachable world) :
    consumption.Holds world := by
  refine Process.Invariant.holds ?_ ?_ ?_ ?_ reachable
  · intro store initial
    have noConsumption : store.consumptions = [] := initial.consumptions
    have noReply : store.outgoing = [] := initial.outgoing
    have noEntry : store.journal = [] := initial.journal
    constructor
    · intro messageId
      have advances : store.advances messageId = 0 := by
        simp [Store.advances, noEntry]
      have replies : ∀ replyKind, store.replies messageId replyKind = 0 := by
        simp [Store.replies, noReply]
      constructor
      · omega
      · intro replyKind
        rw [replies]
        omega
      · exact fun _ => advances
      · exact fun _ => replies
    · rintro conversationId first second ⟨row, found, own⟩ _
      rw [initial.grievances first row found] at own
      cases own
  · intro world pid request _ _ _
    refine consumption_arrives ?_
    cases request <;> rfl
  · intro world pid choice process store after _ holds _ running resumed
    exact (Task.resume_settles resumed).kept running holds
      (Task.resume_drafts resumed)
  · intro world pid process _ holds _ running
    obtain ⟨kept, undisturbed, _⟩ :=
      (Task.release_settles world.shared process).kept running holds
        (process.release_drafts world.shared)
    exact ⟨kept, undisturbed⟩

/-- Of all the events that carry a message and all the drivers that are at it,
at most one transaction advances a conversation for it; each kind of reply is
stored at most once for it, and a conversation has at most one grievance. -/
theorem consumed_at_most_once {settings : Settings} {geometry : Geometry}
    {world : World Store Task}
    (reachable : (program settings geometry).system.Reachable world)
    (messageId : String) :
    world.shared.advances messageId ≤ 1 ∧
      (∀ replyKind, world.shared.replies messageId replyKind ≤ 1) ∧
      world.shared.OneDraft := by
  obtain ⟨⟨once, oneDraft⟩, _, _⟩ := consumption_holds reachable
  exact ⟨(once messageId).advances, (once messageId).replies, oneDraft⟩

/-- Two events carry the first message of a conversation. -/
theorem consumed_at_most_once_redelivered :
    ∃ world, (program repliesOn Pipeline.flatMap).system.Reachable world ∧
      world.shared.advances "m1" ≤ 1 ∧
      (world.shared.advances "m1", world.shared.journal) =
        (1, [.processed "e2", .processed "e1", .advanced "m1" "c1"]) := by
  have ran : ((program repliesOn Pipeline.flatMap).serial
      (fun _ _ _ => true)
      (.ofEvents [("e1", [sampleText "m1" "hello"]),
        ("e2", [sampleText "m1" "hello"])] [])
      [(.driveEvent "e1",
        [⟨0, .plain⟩, ⟨0, .plain⟩, ⟨0, .plain⟩, ⟨0, .plain⟩,
         ⟨0, .handled sampleInputs⟩, ⟨0, .plain⟩, ⟨0, .plain⟩]),
       (.driveEvent "e2",
        [⟨1, .plain⟩, ⟨1, .plain⟩, ⟨1, .plain⟩])]).map
      (fun store => (store.advances "m1", store.journal)) =
      some (1, [.processed "e2", .processed "e1", .advanced "m1" "c1"]) := by
    decide +kernel
  have initial : (program repliesOn Pipeline.flatMap).initial
      (.ofEvents [("e1", [sampleText "m1" "hello"]),
        ("e2", [sampleText "m1" "hello"])] []) :=
    Store.ofEvents_initial (by simp)
  obtain ⟨world, reachable, _, once⟩ :=
    Process.Program.reachable_served initial ran
  exact ⟨world, reachable, (consumed_at_most_once reachable "m1").1, once⟩

end JanSetu.Whatsapp
