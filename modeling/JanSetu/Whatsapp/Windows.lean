import JanSetu.Whatsapp.Dispatch
import JanSetu.Whatsapp.Followups

/-!
# Stored windows

A conversation's service window is overwritten with that of each message it
consumes, in whatever order they are consumed.  So it is always the window of
some inbound message of the contact, and never ends later than the window of
the last one; it may end earlier.
-/

namespace JanSetu.Whatsapp

open Pipeline (Geometry)

def IncomingWhatsAppMessage.stored (incoming : IncomingWhatsAppMessage) :
    StoredMessage :=
  { contactId := incoming.waId
    metaMessageId := incoming.metaMessageId
    receivedAt := incoming.receivedAt }

/-- A conversation's window is that of an inbound message of its contact, and
the conversation of a row is one of the row's contact. -/
structure Store.Windowed (settings : Settings) (store : Store) : Prop where
  conversations : ∀ id row, store.conversations.find id = some row →
    ∃ message ∈ store.incoming, message.contactId = row.contactId ∧
      row.serviceWindowExpiresAt =
        message.receivedAt + hours settings.serviceWindowHours
  outgoing : ∀ message ∈ store.outgoing, ∀ id,
    message.conversationId = some id →
    ∃ row, store.conversations.find id = some row ∧
      row.contactId = message.contactId

/-- Inbound messages and outgoing rows are kept, and so are the windows. -/
structure Store.Continues (settings : Settings) (store after : Store) :
    Prop where
  incoming : ∀ message ∈ store.incoming, message ∈ after.incoming
  outgoing : ∀ messageId message,
    store.outgoingMessage messageId = some message →
    after.outgoingMessage messageId = some message
  windowed : store.Windowed settings → after.Windowed settings

section

variable {settings : Settings} {geometry : Geometry}
  {store middle after : Store} {choice : Choice}
  {incoming : IncomingWhatsAppMessage}

/-! ## The drivers -/

theorem Store.Continues.grown
    (messages : ∀ message ∈ store.incoming, message ∈ after.incoming)
    (conversations : after.conversations = store.conversations)
    (rows : after.outgoing = store.outgoing) :
    store.Continues settings after := by
  constructor
  · exact messages
  · intro messageId message found
    simpa only [Store.outgoingMessage, rows] using found
  · intro windowed
    constructor
    · rw [conversations]
      intro id row found
      obtain ⟨message, member, window⟩ :=
        windowed.conversations id row found
      exact ⟨message, messages message member, window⟩
    · rw [conversations, rows]
      exact windowed.outgoing

theorem Store.Continues.of_same
    (messages : after.incoming = store.incoming)
    (conversations : after.conversations = store.conversations)
    (rows : after.outgoing = store.outgoing) :
    store.Continues settings after := by
  apply Store.Continues.grown _ conversations rows
  intro message member
  rw [messages]
  exact member

theorem Store.Continues.refl (store : Store) :
    store.Continues settings store :=
  .of_same rfl rfl rfl

theorem Store.Continues.trans (first : store.Continues settings middle)
    (second : middle.Continues settings after) :
    store.Continues settings after := by
  constructor
  · intro message member
    exact second.incoming message (first.incoming message member)
  · intro messageId message found
    exact second.outgoing messageId message
      (first.outgoing messageId message found)
  · intro windowed
    exact second.windowed (first.windowed windowed)

theorem outgoingMessage_addOutgoing {message added : OutgoingMessage}
    {messageId : String}
    (rows : after.outgoing = addOutgoing store.outgoing added)
    (found : store.outgoingMessage messageId = some message) :
    after.outgoingMessage messageId = some message := by
  unfold Store.outgoingMessage at found ⊢
  rw [rows]
  unfold addOutgoing
  split
  case isTrue => exact found
  case isFalse absent =>
    rw [List.find?_cons_of_neg _, found]
    intro same
    apply absurd _ absent
    rw [List.any_eq_true]
    have keyed := List.find?_some found
    refine ⟨message, List.mem_of_find?_eq_some found, ?_⟩
    simp only [decide_eq_true_eq] at same keyed ⊢
    rw [keyed, same]

/-- A new row belongs to no conversation, or to one of its contact. -/
theorem Store.Continues.added {message : OutgoingMessage}
    (messages : after.incoming = store.incoming)
    (conversations : after.conversations = store.conversations)
    (rows : after.outgoing = addOutgoing store.outgoing message)
    (own : ∀ id, message.conversationId = some id →
      ∃ row, store.conversations.find id = some row ∧
        row.contactId = message.contactId) :
    store.Continues settings after := by
  constructor
  · intro stored member
    rw [messages]
    exact member
  · intro messageId found
    exact outgoingMessage_addOutgoing rows
  · intro windowed
    constructor
    · rw [conversations, messages]
      exact windowed.conversations
    · rw [conversations, rows]
      intro row member
      rcases addOutgoing_cases store.outgoing message with same | more
      · rw [same] at member
        exact windowed.outgoing row member
      · rw [more] at member
        rcases List.mem_cons.mp member with rfl | before
        · exact own
        · exact windowed.outgoing row before

/-- A conversation stays one of its contact. -/
theorem Store.Continues.put {id : String} {row : Conversation}
    (messages : after.incoming = store.incoming)
    (conversations : after.conversations = store.conversations.put id row)
    (rows : after.outgoing = store.outgoing)
    (same : ∀ before, store.conversations.find id = some before →
      before.contactId = row.contactId)
    (window : store.Windowed settings →
      ∃ message ∈ store.incoming, message.contactId = row.contactId ∧
        row.serviceWindowExpiresAt =
          message.receivedAt + hours settings.serviceWindowHours) :
    store.Continues settings after := by
  constructor
  · intro stored member
    rw [messages]
    exact member
  · intro messageId message found
    simpa only [Store.outgoingMessage, rows] using found
  · intro windowed
    constructor
    · rw [conversations, messages]
      intro other found stored
      by_cases here : other = id
      · subst here
        rw [Table.find_put_self] at stored
        cases stored
        exact window windowed
      · rw [Table.find_put_of_ne _ _ here] at stored
        exact windowed.conversations other found stored
    · rw [conversations, rows]
      intro message member other belongs
      obtain ⟨before, stored, contact⟩ :=
        windowed.outgoing message member other belongs
      by_cases here : other = id
      · subst here
        refine ⟨row, Table.find_put_self _ _ _, ?_⟩
        rw [← same before stored]
        exact contact
      · exact ⟨before, by rw [Table.find_put_of_ne _ _ here, stored],
          contact⟩

/-- A conversation is written back with its contact and its window. -/
theorem Store.Continues.rewrite {id : String} {before row : Conversation}
    (found : store.conversations.find id = some before)
    (messages : after.incoming = store.incoming)
    (conversations : after.conversations = store.conversations.put id row)
    (rows : after.outgoing = store.outgoing)
    (contact : row.contactId = before.contactId)
    (window : row.serviceWindowExpiresAt = before.serviceWindowExpiresAt) :
    store.Continues settings after := by
  apply Store.Continues.put messages conversations rows
  · intro other stored
    rw [found] at stored
    cases stored
    exact contact.symm
  · intro windowed
    rw [contact, window]
    exact windowed.conversations id before found

theorem Store.Locks.continues {contactId : String} {now : Time}
    {found : Option (String × Conversation)}
    (locks : store.Locks contactId now after found) :
    store.Continues settings after := by
  cases locks with
  | free => exact .refl store
  | expired active _ =>
      obtain ⟨stored, _⟩ := Store.activeConversation_eq active
      exact .rewrite stored rfl rfl rfl rfl rfl
  | found => exact .refl store

theorem Store.Acts.continues {conversationId : String} {result : FsmResult}
    {inputs : HandleInputs} {now : Time} {context : Context}
    (acts : store.Acts incoming conversationId result inputs now after
      context) : store.Continues settings after := by
  cases acts with
  | drafted _ _ _ _ _ same =>
      rw [same]
      exact .of_same rfl rfl rfl
  | redrafted _ _ _ same =>
      rw [same]
      exact .of_same rfl rfl rfl
  | rephotographed _ _ _ same =>
      rw [same]
      exact .of_same rfl rfl rfl
  | nothing => exact .refl store

theorem Store.answer_continues (store : Store)
    (incoming : IncomingWhatsAppMessage)
    (replyKind keyPrefix body : String) :
    store.Continues settings
      (store.answer incoming replyKind keyPrefix body) := by
  rw [Store.answer_eq]
  refine .added rfl rfl rfl ?_
  intro id belongs
  cases belongs

theorem Store.storeReplies_continues {id : String} {row : Conversation}
    (found : store.conversations.find id = some row)
    (own : row.contactId = incoming.waId) (intents : List OutboundIntent) :
    store.Continues settings (store.storeReplies incoming id intents) := by
  induction intents generalizing store with
  | nil => exact .refl store
  | cons intent intents induction =>
      unfold Store.storeReplies
      rw [List.foldl_cons, Store.storeOutgoingPending_fst]
      refine .trans ?_ (induction found)
      refine .added rfl rfl rfl ?_
      rintro _ ⟨⟩
      exact ⟨row, found, own⟩

theorem Store.finishTurn_continues {id : String} {row : Conversation}
    {stateBefore : Option ConversationState} {result : FsmResult}
    {context : Context} (own : row.contactId = incoming.waId)
    (same : ∀ before, store.conversations.find id = some before →
      before.contactId = incoming.waId)
    (stored : incoming.stored ∈ store.incoming)
    (window : row.serviceWindowExpiresAt =
      incoming.receivedAt + hours settings.serviceWindowHours) :
    store.Continues settings
      (store.finishTurn incoming id row stateBefore result context) := by
  unfold Store.finishTurn
  dsimp only
  generalize turned : { row with
    context := context
    active := row.active && !result.close } = closed
  have contact : closed.contactId = incoming.waId := by
    rw [← turned]
    exact own
  have upserts : store.Continues settings
      ((store.putConversation id closed).addConsumption
        { inboundMessageId := incoming.metaMessageId
          conversationId := some id
          stateBefore := stateBefore
          stateAfter := some result.state }) := by
    refine .put rfl rfl rfl ?_ ?_
    · intro before found
      exact (same before found).trans contact.symm
    · intro _
      refine ⟨incoming.stored, stored, contact.symm, ?_⟩
      rw [← turned]
      exact window
  apply upserts.trans
  refine .trans (Store.storeReplies_continues ?_ contact _)
    (.of_same rfl rfl rfl)
  exact Table.find_put_self _ _ _

theorem Store.Handles.continues {geocode : Option ReverseGeocode}
    {inputs : HandleInputs} {now : Time} {handled : Handled}
    (handles : store.Handles settings incoming geocode inputs now after
      handled) (stored : incoming.stored ∈ store.incoming) :
    store.Continues settings after := by
  cases handles with
  | @answered locked _ _ _ locks =>
      have before : store.Continues settings locked := by
        rcases locks with rfl | locks
        · exact .refl locked
        · exact locks.continues
      exact before.trans (Store.answer_continues locked _ _ _ _)
  | @advanced locked acted found id row result context locks _ fresh upserts
      acts =>
      have before : store.Continues settings acted :=
        locks.continues.trans acts.continues
      apply before.trans
      have kept := acts.conversations
      cases found with
      | none =>
          cases upserts
          apply Store.finishTurn_continues
          · rfl
          · intro row found
            rw [kept, locks.find_fresh (fresh rfl)] at found
            cases found
          · exact before.incoming _ stored
          · rfl
      | some entry =>
          obtain ⟨_, conversation⟩ := entry
          cases locks with
          | found active _ =>
              obtain ⟨found, own, _⟩ := Store.activeConversation_eq active
              cases upserts
              apply Store.finishTurn_continues
              · exact own
              · intro row stored
                rw [kept, found] at stored
                cases stored
                exact own
              · exact before.incoming _ stored
              · rfl

theorem Followup.Moves.continues {followup : Followup}
    {progress : Progress FollowupStage}
    (moves : followup.Moves settings geometry store choice after progress) :
    store.Continues settings after := by
  cases moves with
  | ran => exact .of_same rfl rfl rfl
  | unsent => exact .refl store
  | @sent result id conversation _ _ _ _ _ _ locks =>
      obtain ⟨active, _⟩ := locks.current
      obtain ⟨found, own, _⟩ := Store.activeConversation_eq active
      have moved : store.Continues settings
          (store.putConversation id
            { conversation with state := followupState result }) :=
        .rewrite found rfl rfl rfl rfl rfl
      refine moved.trans (.added rfl rfl rfl ?_)
      rintro _ ⟨⟩
      exact ⟨_, Table.find_put_self _ _ _, own⟩
  | replied =>
      refine .added rfl rfl rfl ?_
      intro id belongs
      cases belongs
  | posted => exact .refl store
  | raised => exact .refl store

theorem InboundStage.Moves.continues {stage : InboundStage}
    {progress : Progress InboundStage}
    (moves : stage.Moves settings geometry store incoming choice after
      progress) (stored : incoming.stored ∈ store.incoming) :
    store.Continues settings after := by
  cases moves with
  | committed handles =>
      apply Store.Continues.trans _ (handles.continues stored)
      exact .of_same rfl rfl rfl
  | followed moves => exact moves.continues
  | _ => exact .of_same rfl rfl rfl

theorem Store.storeIncomingMessage_stores (store : Store)
    (incoming : IncomingWhatsAppMessage) :
    (∀ message ∈ store.incoming,
      message ∈ (store.storeIncomingMessage incoming).1.incoming) ∧
    ((store.storeIncomingMessage incoming).2 = true →
      incoming.stored ∈ (store.storeIncomingMessage incoming).1.incoming) := by
  unfold Store.storeIncomingMessage
  split
  · simp
  · constructor
    · intro message member
      exact List.mem_cons_of_mem _ member
    · intro _
      exact List.mem_cons_self

/-- The messages that a driver inserts are stored. -/
theorem Store.storeIncomingMessages_stores (store : Store)
    (payload : List IncomingWhatsAppMessage) :
    (∀ message ∈ store.incoming,
      message ∈ (store.storeIncomingMessages payload).1.incoming) ∧
    ∀ inserted,
      (inserted, true) ∈
        payload.zip (store.storeIncomingMessages payload).2 →
      inserted.stored ∈ (store.storeIncomingMessages payload).1.incoming := by
  induction payload generalizing store with
  | nil => simp [Store.storeIncomingMessages]
  | cons incoming payload induction =>
      unfold Store.storeIncomingMessages
      dsimp only
      obtain ⟨kept, created⟩ := store.storeIncomingMessage_stores incoming
      obtain ⟨later, inserts⟩ :=
        induction (store.storeIncomingMessage incoming).1
      constructor
      · intro message member
        exact later message (kept message member)
      · intro inserted zipped
        rw [List.zip_cons_cons] at zipped
        rcases List.mem_cons.mp zipped with same | further
        · obtain ⟨rfl, flag⟩ := Prod.mk.inj same
          exact later _ (created flag.symm)
        · exact inserts inserted further

theorem mem_zip_of_freshMessages {payload : List IncomingWhatsAppMessage}
    {created : List Bool} (fresh : incoming ∈ freshMessages payload created) :
    (incoming, true) ∈ payload.zip created := by
  unfold freshMessages at fresh
  rw [List.mem_insertionSort, List.mem_filterMap] at fresh
  obtain ⟨⟨message, isNew⟩, member, kept⟩ := fresh
  cases isNew with
  | false => cases kept
  | true =>
      cases kept
      exact member

/-- The messages that a driver has inserted and not handled to the end. -/
def Task.unhandled : Task → List IncomingWhatsAppMessage
  | .handling _ incoming _ rest _ => incoming :: rest
  | _ => []

theorem Task.unhandled_nextMessage {eventId : String} {allOk : Bool}
    {messages : List IncomingWhatsAppMessage} {task : Task}
    (arrives : Task.nextMessage eventId allOk messages = some task) :
    ∀ message ∈ task.unhandled, message ∈ messages := by
  intro message member
  unfold Task.nextMessage at arrives
  split at arrives
  · cases arrives
    exact member
  · split at arrives
    · cases arrives
      cases member
    · cases arrives

theorem Task.unhandled_ofInbound {eventId : String}
    {rest : List IncomingWhatsAppMessage} {allOk : Bool}
    {progress : Progress InboundStage} {task : Task}
    (arrives : Task.ofInbound eventId incoming rest allOk progress =
      some task) :
    ∀ message ∈ task.unhandled, message ∈ incoming :: rest := by
  intro message member
  unfold Task.ofInbound at arrives
  split at arrives
  · cases arrives
    exact member
  · have inside := Task.unhandled_nextMessage arrives message member
    exact List.mem_cons_of_mem _ inside
  · have inside := Task.unhandled_nextMessage arrives message member
    exact List.mem_cons_of_mem _ inside

theorem Task.unhandled_nextRecovery {selected : List (String × String)}
    {task : Task} (arrives : Task.nextRecovery selected = some task) :
    task.unhandled = [] := by
  cases selected with
  | nil => cases arrives
  | cons entry selected =>
      cases arrives
      rfl

/-- A driver continues the store, and the messages that it still has to handle
stay stored. -/
theorem Task.resume_continues {task : Task} {next : Option Task}
    (resumed : task.resume settings geometry store choice =
      some (after, next))
    (stored : ∀ message ∈ task.unhandled,
      message.stored ∈ store.incoming) :
    store.Continues settings after ∧
      ∀ further, next = some further → ∀ message ∈ further.unhandled,
        message.stored ∈ after.incoming := by
  cases Task.resume_moves resumed with
  | refused => exact ⟨.refl store, by simp⟩
  | claimed _ _ which =>
      refine ⟨.of_same rfl rfl rfl, ?_⟩
      rintro further ⟨⟩ message member
      rcases which with rfl | rfl <;> cases member
  | @poisoned eventId =>
      obtain ⟨_, marked⟩ := store.markEventProcessed_eq eventId choice.now
      rw [marked]
      exact ⟨.of_same rfl rfl rfl, by simp⟩
  | @stored eventId payload =>
      obtain ⟨messages, shape⟩ := store.storeIncomingMessages_eq payload
      obtain ⟨kept, inserts⟩ := store.storeIncomingMessages_stores payload
      unfold Store.storeEvent
      dsimp only
      constructor
      · rw [shape] at kept ⊢
        exact .grown kept rfl rfl
      · intro further arrives message member
        split at arrives
        · apply inserts
          apply mem_zip_of_freshMessages
          exact Task.unhandled_nextMessage arrives message member
        · cases arrives
          cases member
  | handled moves =>
      have head := stored _ List.mem_cons_self
      have continues := moves.continues head
      refine ⟨continues, ?_⟩
      intro further arrives message member
      apply continues.incoming
      apply stored
      exact Task.unhandled_ofInbound arrives message member
  | @marked eventId =>
      obtain ⟨_, marked⟩ := store.markEventProcessed_eq eventId choice.now
      rw [marked]
      exact ⟨.of_same rfl rfl rfl, by simp⟩
  | selected =>
      refine ⟨.refl store, ?_⟩
      intro further arrives message member
      rw [Task.unhandled_nextRecovery arrives] at member
      cases member
  | @recovered followup rest _ progress moves =>
      refine ⟨moves.continues, ?_⟩
      intro further arrives message member
      have nothing : further.unhandled = [] := by
        unfold Task.ofRecovery at arrives
        split at arrives
        · cases arrives
          rfl
        · exact Task.unhandled_nextRecovery arrives
      rw [nothing] at member
      cases member
  | web =>
      refine ⟨.of_same rfl rfl rfl, ?_⟩
      intro further arrives message member
      obtain ⟨_, _, rfl⟩ := Option.map_eq_some_iff.mp arrives
      cases member
  | raised => exact ⟨.refl store, by simp⟩

theorem Task.release_continues (store : Store) (task : Task) :
    store.Continues settings (task.release store) := by
  obtain ⟨_, _, _, shape, _⟩ := task.release_eq store
  rw [shape]
  exact .of_same rfl rfl rfl

/-! ## Windows -/

theorem insideWindow_iff {contactId : String} {now : Time} :
    insideWindow settings (store.latestInbound contactId) now = true ↔
      ∃ message ∈ store.incoming, message.contactId = contactId ∧
        now ≤ message.receivedAt + hours settings.serviceWindowHours := by
  unfold insideWindow Store.latestInbound
  constructor
  · intro inside
    obtain ⟨time, latest, within⟩ := (Option.any_eq_true _ _).mp inside
    obtain ⟨message, member, same⟩ :=
      List.mem_map.mp (List.max?_mem latest)
    obtain ⟨stored, own⟩ := List.mem_filter.mp member
    subst same
    simp only [decide_eq_true_eq] at own within
    exact ⟨message, stored, own, within⟩
  · intro inside
    obtain ⟨message, stored, own, within⟩ := inside
    have member : message.receivedAt ∈
        (store.incoming.filter (·.contactId = contactId)).map
          (·.receivedAt) := by
      apply List.mem_map_of_mem
      simp [stored, own]
    cases latest : ((store.incoming.filter (·.contactId = contactId)).map
        (·.receivedAt)).max? with
    | none =>
        rw [List.max?_eq_none_iff] at latest
        rw [latest] at member
        cases member
    | some time =>
        have last : message.receivedAt ≤ time :=
          (List.max?_le_iff latest).mp (Int.le_refl time) _ member
        simp only [Option.any_some, decide_eq_true_eq]
        exact Int.le_trans within (Int.add_le_add_right last _)

theorem insideWindow_of_continues {contactId : String} {now : Time}
    (continues : store.Continues settings after)
    (inside : insideWindow settings (store.latestInbound contactId) now =
      true) :
    insideWindow settings (after.latestInbound contactId) now = true := by
  rw [insideWindow_iff] at inside ⊢
  obtain ⟨message, member, window⟩ := inside
  exact ⟨message, continues.incoming message member, window⟩

/-- The stored window of a row ends no later than that of its contact. -/
theorem Store.Windowed.inside {messageId : String}
    {message : OutgoingMessage} {now expiry : Time}
    (windowed : store.Windowed settings)
    (found : store.outgoingMessage messageId = some message)
    (window : store.serviceWindowExpiresAt message = some expiry)
    (current : now ≤ expiry) :
    insideWindow settings (store.latestInbound message.contactId) now =
      true := by
  obtain ⟨id, belongs, expires⟩ := Option.bind_eq_some_iff.mp window
  obtain ⟨row, stored, same⟩ := Option.map_eq_some_iff.mp expires
  obtain ⟨row', stored', own⟩ :=
    windowed.outgoing message (List.mem_of_find?_eq_some found) id belongs
  rw [stored] at stored'
  cases stored'
  obtain ⟨inbound, member, contact, ends⟩ :=
    windowed.conversations id row stored
  rw [insideWindow_iff]
  refine ⟨inbound, member, contact.trans own, ?_⟩
  rw [← ends, same]
  exact current

end

end JanSetu.Whatsapp
