import JanSetu.Whatsapp.Consumption

/-!
# Lost turns

A driver hands on the messages that it has itself inserted.  A message that an
earlier driver inserted is skipped, whether or not that driver went on to
consume it; so a retry after an exception or a crash marks the event processed
with the message unanswered.  As long as every message that is skipped has been
consumed, an event that is marked processed has all its messages consumed.
-/

namespace JanSetu.Whatsapp

open Pipeline (Geometry)
open Process (Label)

/-- Whenever a driver stores the messages of an event, those that are already
stored are consumed. -/
def SkipsConsumed (world : World Store Task)
    (label : Label Request Choice) : Prop :=
  ∀ pid choice eventId payload, label = .resume pid choice →
    world.Running pid (.storing eventId payload) →
    ∀ incoming ∈ payload,
      world.shared.hasStored incoming.metaMessageId = true →
      world.shared.consumed incoming.metaMessageId = true

/-- Every message of the event is consumed, or among those that are still to
be done. -/
def Store.Accounts (store : Store) (eventId : String)
    (pending : List String) : Prop :=
  ∀ event, store.events.find eventId = some event →
    ∀ incoming ∈ event.payload,
      store.consumed incoming.metaMessageId = true ∨
        incoming.metaMessageId ∈ pending

/-- The transaction of the message is committed. -/
def InboundStage.committed : InboundStage → Bool
  | .posting _ => true
  | .following _ => true
  | _ => false

/-- Where a driver stands with the messages of its event. -/
def Task.Accounts (store : Store) : Task → Prop
  | .storing eventId payload =>
      ∀ event, store.events.find eventId = some event →
        event.payload = payload
  | .handling eventId incoming stage rest allOk =>
      (allOk = true →
        store.Accounts eventId
          (incoming.metaMessageId :: rest.map (·.metaMessageId))) ∧
      (stage.committed = true →
        store.consumed incoming.metaMessageId = true)
  | .marking eventId => store.Accounts eventId []
  | _ => True

/-! ## What was consumed stays consumed -/

/-- The events keep their messages, and the consumptions are kept. -/
structure Store.Extends (store after : Store) : Prop where
  consumed : ∀ messageId, store.consumed messageId = true →
    after.consumed messageId = true
  payload : ∀ eventId event, after.events.find eventId = some event →
    ∃ before, store.events.find eventId = some before ∧
      before.payload = event.payload

section

variable {settings : Settings} {geometry : Geometry} {store after : Store}
  {choice : Choice} {task : Task} {next : Option Task} {eventId : String}

theorem Store.Extends.accounts (extend : store.Extends after)
    {pending : List String} (accounts : store.Accounts eventId pending) :
    after.Accounts eventId pending := by
  intro event found incoming member
  obtain ⟨before, stored, same⟩ := extend.payload eventId event found
  rcases accounts before stored incoming (same ▸ member) with
    consumed | waits
  · exact .inl (extend.consumed _ consumed)
  · exact .inr waits

theorem Store.Extends.keeps (extend : store.Extends after)
    (accounts : task.Accounts store) : task.Accounts after := by
  cases task with
  | storing eventId payload =>
      intro event found
      obtain ⟨before, stored, same⟩ := extend.payload eventId event found
      rw [← same]
      exact accounts before stored
  | handling eventId incoming stage rest allOk =>
      obtain ⟨waits, done⟩ := accounts
      constructor
      · exact fun ok => extend.accounts (waits ok)
      · exact fun committed => extend.consumed _ (done committed)
  | marking eventId => exact extend.accounts accounts
  | _ => trivial

theorem Task.Settles.consumed {messageId : String}
    (settles : task.Settles store after next)
    (before : store.consumed messageId = true) :
    after.consumed messageId = true := by
  cases settles with
  | rested _ _ _ same =>
      rw [(same messageId).consumed]
      exact before
  | claimed _ _ _ _ _ same =>
      rw [(same messageId).consumed]
      exact before
  | @closed closing _ _ _ settled others =>
      by_cases is : messageId = closing
      · subst is
        rcases settled with same | consumes
        · rw [same.consumed]
          exact before
        · exact consumes.consumed
      · rw [(others messageId is).consumed]
        exact before

/-! ## Events -/

theorem Store.events_put {leased before : WebhookEvent}
    (found : store.events.find eventId = some before)
    (payload : leased.payload = before.payload)
    (events : after.events = store.events.put eventId leased)
    {other : String} {event : WebhookEvent}
    (later : after.events.find other = some event) :
    ∃ before, store.events.find other = some before ∧
      before.payload = event.payload := by
  rw [events, Table.find_put] at later
  split at later
  case isTrue same =>
    cases later
    subst same
    exact ⟨before, found, payload.symm⟩
  case isFalse => exact ⟨event, later, rfl⟩

theorem Store.markEventProcessed_payload (store : Store) (marking : String)
    (now : Time) {event : WebhookEvent}
    (found : (store.markEventProcessed marking now).events.find eventId =
      some event) :
    ∃ before, store.events.find eventId = some before ∧
      before.payload = event.payload := by
  unfold Store.markEventProcessed at found
  split at found
  · exact ⟨event, found, rfl⟩
  case h_2 before stored =>
    have same : ({ before with
        processedAt := some now, lockedUntil := none } :
        WebhookEvent).payload = before.payload := rfl
    exact Store.events_put stored same rfl found

theorem Followup.Moves.events {followup : Followup}
    {progress : Progress FollowupStage}
    (moves : followup.Moves settings geometry store choice after progress) :
    after.events = store.events := by
  cases moves <;> rfl

theorem Store.Locks.events {contactId : String} {now : Time}
    {found : Option (String × Conversation)}
    (locks : store.Locks contactId now after found) :
    after.events = store.events := by
  cases locks <;> rfl

theorem Store.Acts.events {incoming : IncomingWhatsAppMessage}
    {conversationId : String} {result : FsmResult} {inputs : HandleInputs}
    {now : Time} {context : Context}
    (acts : store.Acts incoming conversationId result inputs now after
      context) : after.events = store.events := by
  cases acts with
  | drafted _ _ _ _ _ same => rw [same]
  | redrafted _ _ _ same => rw [same]
  | rephotographed _ _ _ same => rw [same]
  | nothing => rfl

theorem Store.Handles.events {incoming : IncomingWhatsAppMessage}
    {geocode : Option ReverseGeocode} {inputs : HandleInputs} {now : Time}
    {handled : Handled}
    (handles : store.Handles settings incoming geocode inputs now after
      handled) : after.events = store.events := by
  cases handles with
  | answered locks =>
      rw [Store.answer_eq]
      rcases locks with rfl | locks
      · rfl
      · exact locks.events
  | advanced locks advanced _ _ acts =>
      have few := (advance_prompts advanced).atMostOne
      obtain ⟨_, shape, _⟩ := Store.finishTurn_eq _ _ _ _ _ _ _ few
      rw [shape]
      exact acts.events.trans locks.events

theorem InboundStage.Moves.events {incoming : IncomingWhatsAppMessage}
    {stage : InboundStage} {progress : Progress InboundStage}
    (moves : stage.Moves settings geometry store incoming choice after
      progress) : after.events = store.events := by
  cases moves with
  | committed handles => exact handles.events
  | followed moves => exact moves.events
  | _ => rfl

theorem Task.resume_extends
    (resumed : task.resume settings geometry store choice =
      some (after, next)) : store.Extends after := by
  refine ⟨fun messageId => (Task.resume_settles resumed).consumed, ?_⟩
  intro other event found
  have kept : after.events = store.events →
      ∃ before, store.events.find other = some before ∧
        before.payload = event.payload := by
    intro same
    rw [same] at found
    exact ⟨event, found, rfl⟩
  cases Task.resume_moves resumed with
  | claimed stored payload _ =>
      exact Store.events_put stored payload rfl found
  | poisoned => exact store.markEventProcessed_payload _ _ found
  | marked => exact store.markEventProcessed_payload _ _ found
  | @stored eventId payload =>
      obtain ⟨incoming, stores⟩ := store.storeIncomingMessages_eq payload
      have shape : (store.storeEvent settings eventId payload).1 =
          { store with incoming := incoming } := stores
      exact kept (congrArg (·.events) shape)
  | handled moves => exact kept moves.events
  | recovered moves => exact kept moves.events
  | _ => exact kept rfl

theorem Task.release_extends (store : Store) (task : Task) :
    store.Extends (task.release store) := by
  refine ⟨fun messageId => (task.release_settles store).consumed, ?_⟩
  obtain ⟨_, _, _, shape, _⟩ := task.release_eq store
  have same : (task.release store).events = store.events := by rw [shape]
  intro eventId event found
  rw [same] at found
  exact ⟨event, found, rfl⟩

/-! ## What a driver still has to do -/

theorem Store.storeIncomingMessage_created (store : Store)
    (incoming : IncomingWhatsAppMessage) :
    store.hasStored incoming.metaMessageId = true ∨
      (store.storeIncomingMessage incoming).2 = true := by
  unfold Store.storeIncomingMessage
  split
  case isTrue stored => exact .inl stored
  case isFalse => exact .inr rfl

theorem Store.hasStored_storeIncomingMessage
    {incoming : IncomingWhatsAppMessage} {messageId : String}
    (stored : (store.storeIncomingMessage incoming).1.hasStored messageId =
      true) :
    store.hasStored messageId = true ∨
      (store.storeIncomingMessage incoming).2 = true ∧
        incoming.metaMessageId = messageId := by
  unfold Store.storeIncomingMessage at stored ⊢
  split at stored
  case isTrue => exact .inl stored
  case isFalse absent =>
    rw [if_neg absent]
    simp only [Store.hasStored, List.any_cons, Bool.or_eq_true,
      decide_eq_true_eq] at stored
    rcases stored with same | before
    · exact .inr ⟨rfl, same⟩
    · exact .inl before

/-- A message was stored before, or this driver inserts one with its id. -/
theorem Store.storeIncomingMessages_created
    {payload : List IncomingWhatsAppMessage}
    {incoming : IncomingWhatsAppMessage} (member : incoming ∈ payload) :
    store.hasStored incoming.metaMessageId = true ∨
      ∃ inserted, (inserted, true) ∈
          payload.zip (store.storeIncomingMessages payload).2 ∧
        inserted.metaMessageId = incoming.metaMessageId := by
  induction payload generalizing store with
  | nil => cases member
  | cons head payload induction =>
      unfold Store.storeIncomingMessages
      dsimp only
      rw [List.zip_cons_cons]
      rcases List.mem_cons.mp member with rfl | later
      · rcases store.storeIncomingMessage_created incoming with
          stored | created
        · exact .inl stored
        · rw [created]
          exact .inr ⟨incoming, List.mem_cons_self, rfl⟩
      · rcases induction later with stored | ⟨inserted, zipped, same⟩
        · rcases Store.hasStored_storeIncomingMessage stored with
            before | ⟨created, same⟩
          · exact .inl before
          · rw [created]
            exact .inr ⟨head, List.mem_cons_self, same⟩
        · exact .inr ⟨inserted, List.mem_cons_of_mem _ zipped, same⟩

theorem mem_freshMessages {payload : List IncomingWhatsAppMessage}
    {created : List Bool} {inserted : IncomingWhatsAppMessage}
    (zipped : (inserted, true) ∈ payload.zip created) :
    inserted ∈ freshMessages payload created := by
  unfold freshMessages
  rw [List.mem_insertionSort, List.mem_filterMap]
  exact ⟨(inserted, true), zipped, rfl⟩

/-- The next message, or the end of the event. -/
theorem Task.accounts_nextMessage {allOk : Bool}
    {messages : List IncomingWhatsAppMessage}
    (accounts : allOk = true →
      store.Accounts eventId (messages.map (·.metaMessageId)))
    (arrived : Task.nextMessage eventId allOk messages = some task) :
    task.Accounts store := by
  unfold Task.nextMessage at arrived
  split at arrived
  case h_1 incoming rest =>
    cases arrived
    exact ⟨accounts, fun committed => by cases committed⟩
  case h_2 =>
    split at arrived
    case isTrue ok =>
      cases arrived
      exact accounts ok
    · cases arrived

theorem Store.Accounts.done {messageId : String} {pending : List String}
    (accounts : store.Accounts eventId (messageId :: pending))
    (consumed : store.consumed messageId = true) :
    store.Accounts eventId pending := by
  intro event found incoming member
  rcases accounts event found incoming member with settled | waits
  · exact .inl settled
  · rcases List.mem_cons.mp waits with same | later
    · exact .inl (same ▸ consumed)
    · exact .inr later

theorem Task.accounts_ofInbound {incoming : IncomingWhatsAppMessage}
    {rest : List IncomingWhatsAppMessage} {allOk : Bool}
    {progress : Progress InboundStage}
    (accounts : allOk = true →
      store.Accounts eventId
        (incoming.metaMessageId :: rest.map (·.metaMessageId)))
    (further : ∀ stage, progress = .more stage → stage.committed = true →
      store.consumed incoming.metaMessageId = true)
    (returned : progress = .returned →
      store.consumed incoming.metaMessageId = true)
    (arrived : Task.ofInbound eventId incoming rest allOk progress =
      some task) : task.Accounts store := by
  cases progress with
  | more stage =>
      cases arrived
      exact ⟨accounts, further stage rfl⟩
  | returned =>
      exact Task.accounts_nextMessage
        (fun ok => (accounts ok).done (returned rfl)) arrived
  | raised =>
      have failed : false = true →
          store.Accounts eventId (rest.map (·.metaMessageId)) := by
        intro ok
        cases ok
      exact Task.accounts_nextMessage failed arrived

/-- A message that a driver is done with, or has committed, is consumed. -/
theorem InboundStage.Moves.consumption {incoming : IncomingWhatsAppMessage}
    {stage : InboundStage} {progress : Progress InboundStage}
    (moves : stage.Moves settings geometry store incoming choice after
      progress)
    (before : stage.committed = true →
      store.consumed incoming.metaMessageId = true) :
    (∀ next, progress = .more next → next.committed = true →
      after.consumed incoming.metaMessageId = true) ∧
    (progress = .returned →
      after.consumed incoming.metaMessageId = true) := by
  cases moves with
  | geocoded =>
      refine ⟨?_, by simp⟩
      rintro _ ⟨⟩ committed
      cases committed
  | consumed consumed => exact ⟨by simp, fun _ => consumed⟩
  | claimed =>
      refine ⟨?_, by simp⟩
      rintro _ ⟨⟩ committed
      cases committed
  | committed handles =>
      have consumed := handles.consumes.1.consumed
      exact ⟨fun _ _ _ => consumed, fun _ => consumed⟩
  | rolledBack => exact ⟨by simp, by simp⟩
  | posted => exact ⟨fun _ _ _ => before rfl, fun _ => before rfl⟩
  | followed moves =>
      have kept : after.consumed incoming.metaMessageId = true := by
        rw [(moves.sameMessage _).consumed]
        exact before rfl
      exact ⟨fun _ _ _ => kept, fun _ => kept⟩
  | raised => exact ⟨by simp, by simp⟩

end

/-! ## Runs -/

def accounting : Process.Invariant Store Task :=
  { shared := fun store => ∀ eventId, .processed eventId ∈ store.journal →
      store.Accounts eventId []
    own := fun store task => task.Accounts store
    pair := fun _ _ => True }

section

variable {settings : Settings} {geometry : Geometry}
  {world : World Store Task} {pid : Nat} {choice : Choice} {task : Task}
  {after : Store}

/-- Where a driver arrives by a step. -/
theorem Task.resume_accounts {next : Option Task}
    (enabled : settings.autoReplyEnabled = true)
    (permitted : SkipsConsumed world (.resume pid choice))
    (running : world.Running pid task)
    (accounts : task.Accounts world.shared)
    (resumed : task.resume settings geometry world.shared choice =
      some (after, next)) :
    ∀ process, next = some process → process.Accounts after := by
  intro process arrived
  have extend := Task.resume_extends resumed
  cases Task.resume_moves resumed with
  | refused => cases arrived
  | claimed found payload which =>
      cases arrived
      rcases which with rfl | rfl
      · trivial
      · intro event later
        rw [Table.find_put_self] at later
        rw [← Option.some.inj later, payload]
  | poisoned => cases arrived
  | @stored eventId payload =>
      unfold Store.storeEvent at arrived extend ⊢
      dsimp only at arrived extend ⊢
      rw [if_pos enabled] at arrived
      refine Task.accounts_nextMessage (fun _ => ?_) arrived
      intro event found incoming member
      obtain ⟨before, stored, same⟩ := extend.payload eventId event found
      rw [← same, accounts before stored] at member
      -- What this driver has not inserted was stored, so it is consumed.
      rcases world.shared.storeIncomingMessages_created member with
        already | ⟨inserted, zipped, same⟩
      · have consumed := permitted pid choice eventId payload rfl running
          incoming member already
        exact .inl (extend.consumed _ consumed)
      · exact .inr (List.mem_map.mpr
          ⟨inserted, mem_freshMessages zipped, same⟩)
  | handled moves =>
      obtain ⟨waits, done⟩ := accounts
      obtain ⟨further, returned⟩ := moves.consumption done
      exact Task.accounts_ofInbound (fun ok => extend.accounts (waits ok))
        further returned arrived
  | marked => cases arrived
  | @selected _ grievanceIds =>
      cases selected : world.shared.contactsOf grievanceIds with
      | nil =>
          rw [selected] at arrived
          cases arrived
      | cons entry rest =>
          rw [selected] at arrived
          cases arrived
          trivial
  | @recovered followup rest _ progress _ =>
      cases progress with
      | more =>
          cases arrived
          trivial
      | _ =>
          cases rest with
          | nil => cases arrived
          | cons =>
              cases arrived
              trivial
  | @web _ _ _ moved _ =>
      cases moved with
      | none => cases arrived
      | some =>
          cases arrived
          trivial
  | raised => cases arrived

/-- An event is marked processed by a driver that has accounted for it. -/
theorem Task.resume_processed {next : Option Task} {eventId : String}
    (resumed : task.resume settings geometry world.shared choice =
      some (after, next))
    (marked : .processed eventId ∈ after.journal) :
    .processed eventId ∈ world.shared.journal ∨
      task = .marking eventId := by
  have kept : after.journal = world.shared.journal →
      .processed eventId ∈ world.shared.journal ∨
        task = .marking eventId := by
    intro same
    exact .inl (same ▸ marked)
  cases Task.resume_moves resumed with
  | @poisoned poisoned =>
      obtain ⟨_, shape⟩ :=
        world.shared.markEventProcessed_eq poisoned choice.now
      rw [shape] at marked
      exact .inl (by simpa [Store.record] using marked)
  | @stored eventId payload =>
      obtain ⟨incoming, stores⟩ :=
        world.shared.storeIncomingMessages_eq payload
      have shape : (world.shared.storeEvent settings eventId payload).1 =
          { world.shared with incoming := incoming } := stores
      exact kept (congrArg (·.journal) shape)
  | handled moves =>
      cases moves with
      | committed handles =>
          cases handles with
          | answered locks =>
              refine kept ?_
              rw [Store.answer_eq]
              exact (Store.sameLog_of_locked locks).journal
          | advanced locks advanced _ _ acts =>
              have few := (advance_prompts advanced).atMostOne
              obtain ⟨_, shape, _⟩ := Store.finishTurn_eq _ _ _ _ _ _ _ few
              rw [shape] at marked
              have same := (locks.sameLog.trans acts.sameLog).journal
              left
              simpa [same, Store.release] using marked
      | followed moves =>
          refine kept ?_
          cases moves <;> rfl
      | _ => exact kept rfl
  | @marked marking =>
      obtain ⟨_, shape⟩ :=
        world.shared.markEventProcessed_eq marking choice.now
      rw [shape] at marked
      rcases List.mem_cons.mp marked with same | before
      · cases same
        exact .inr rfl
      · exact .inl before
  | recovered moves =>
      refine kept ?_
      cases moves <;> rfl
  | _ => exact kept rfl

theorem accounting_holds (enabled : settings.autoReplyEnabled = true)
    (reachable : (program settings geometry).system.ReachableWhen
      SkipsConsumed world) : accounting.Holds world := by
  refine Process.Invariant.holds ?_ ?_ ?_ ?_ reachable
  · intro store initial eventId marked
    have noEntry : store.journal = [] := initial.journal
    rw [noEntry] at marked
    cases marked
  · intro world pid request _ _ _
    refine ⟨?_, fun _ _ _ _ => ⟨trivial, trivial⟩⟩
    cases request <;> trivial
  · intro world pid choice task after next _ holds permitted running resumed
    obtain ⟨processed, own, _⟩ := holds
    have extend := Task.resume_extends resumed
    refine ⟨?_, ?_, ?_⟩
    · intro eventId marked
      rcases Task.resume_processed resumed marked with before | rfl
      · exact extend.accounts (processed eventId before)
      · exact extend.accounts (own pid _ running)
    · intro other process _ found
      exact extend.keeps (own other process found)
    · intro process arrived
      refine ⟨?_, fun _ _ _ _ => ⟨trivial, trivial⟩⟩
      exact Task.resume_accounts enabled permitted running
        (own pid task running) resumed process arrived
  · intro world pid task _ holds _ _
    obtain ⟨processed, own, _⟩ := holds
    have extend := Task.release_extends world.shared task
    refine ⟨?_, ?_⟩
    · intro eventId marked
      obtain ⟨_, _, _, shape, _⟩ := task.release_eq world.shared
      refine extend.accounts (processed eventId ?_)
      have released : .processed eventId ∈
          (task.release world.shared).journal := marked
      rw [shape] at released
      exact released
    · intro other process _ found
      exact extend.keeps (own other process found)

/-- While no driver skips a message that is not consumed, an event that is
marked processed has every message consumed. -/
theorem processed_consumed (enabled : settings.autoReplyEnabled = true)
    (reachable : (program settings geometry).system.ReachableWhen
      SkipsConsumed world) {eventId : String} {event : WebhookEvent}
    (marked : .processed eventId ∈ world.shared.journal)
    (found : world.shared.events.find eventId = some event)
    {incoming : IncomingWhatsAppMessage} (member : incoming ∈ event.payload) :
    world.shared.consumed incoming.metaMessageId = true := by
  obtain ⟨processed, _, _⟩ := accounting_holds enabled reachable
  rcases processed eventId marked event found incoming member with
    consumed | waits
  · exact consumed
  · cases waits

end

/-! ## A redelivery, and a retry -/

def skipsConsumed (store : Store) (task : Task) (_ : Choice) : Bool :=
  match task with
  | .storing _ payload =>
      payload.all fun incoming =>
        !store.hasStored incoming.metaMessageId ||
          store.consumed incoming.metaMessageId
  | _ => true

theorem skipsConsumed_of_alone {world : World Store Task} {task : Task}
    {choice : Choice} (only : Process.OnlyRunning world 0 (some task))
    (test : skipsConsumed world.shared task choice = true) :
    SkipsConsumed world (.resume 0 choice) := by
  intro pid again eventId payload same running incoming member stored
  cases same
  obtain ⟨-, rfl⟩ := only.eq_of_running running
  have passes := List.all_eq_true.mp test incoming member
  simpa [stored] using passes

theorem processed_consumed_redelivered :
    ∃ world event, (program repliesOn Pipeline.flatMap).system.ReachableWhen
        SkipsConsumed world ∧
      .processed "e2" ∈ world.shared.journal ∧
      world.shared.events.find "e2" = some event ∧
      sampleText "m1" "hello" ∈ event.payload ∧
      world.shared.consumed "m1" = true := by
  have ran : ((program repliesOn Pipeline.flatMap).serial skipsConsumed
      (.ofEvents [("e1", [sampleText "m1" "hello"]),
        ("e2", [sampleText "m1" "hello"])] [])
      [(.driveEvent "e1",
        [⟨0, .plain⟩, ⟨0, .plain⟩, ⟨0, .plain⟩, ⟨0, .plain⟩,
         ⟨0, .handled sampleInputs⟩, ⟨0, .plain⟩, ⟨0, .plain⟩]),
       (.driveEvent "e2",
        [⟨1, .plain⟩, ⟨1, .plain⟩, ⟨1, .plain⟩])]).map
      (fun store => (decide (.processed "e2" ∈ store.journal),
        (store.events.find "e2").map (·.payload))) =
      some (true, some [sampleText "m1" "hello"]) := by
    decide +kernel
  have initial : (program repliesOn Pipeline.flatMap).initial
      (.ofEvents [("e1", [sampleText "m1" "hello"]),
        ("e2", [sampleText "m1" "hello"])] []) :=
    Store.ofEvents_initial (by simp)
  have begins : ∀ (world : World Store Task) (request : Request),
      SkipsConsumed world (.spawn 0 request) := by
    intro world request pid choice eventId payload same
    cases same
  obtain ⟨world, reachable, _, observed⟩ :=
    Process.Program.reachable_serial initial
      (fun world request _ _ => begins world request)
      (fun _ _ _ => skipsConsumed_of_alone) ran
  simp only [Prod.mk.injEq, decide_eq_true_eq] at observed
  obtain ⟨marked, stored⟩ := observed
  obtain ⟨event, found, payload⟩ := Option.map_eq_some_iff.mp stored
  have member : sampleText "m1" "hello" ∈ event.payload := by
    rw [payload]
    exact List.mem_cons_self
  exact ⟨world, event, reachable, marked, found, member,
    processed_consumed rfl reachable marked found member⟩

/-- The transaction of the message raises; the retry finds the message stored,
has nothing to do, and marks the event processed. -/
theorem turn_lost :
    ∃ world event, (program repliesOn Pipeline.flatMap).system.Reachable
        world ∧
      .processed "e1" ∈ world.shared.journal ∧
      .poisoned "e1" ∉ world.shared.journal ∧
      world.shared.events.find "e1" = some event ∧
      ∃ incoming ∈ event.payload,
        world.shared.consumed incoming.metaMessageId = false := by
  have ran : ((program repliesOn Pipeline.flatMap).serial
      (fun _ _ _ => true)
      (.ofEvents [("e1", [sampleText "m1" "hello"])] [])
      [(.driveEvent "e1",
        [⟨0, .plain⟩, ⟨0, .plain⟩, ⟨0, .plain⟩, ⟨0, .plain⟩,
         ⟨0, .raises⟩]),
       (.driveEvent "e1",
        [⟨seconds 61, .plain⟩, ⟨seconds 61, .plain⟩,
         ⟨seconds 61, .plain⟩])]).map
      (fun store => (store.journal,
        (store.events.find "e1").map (·.payload), store.consumed "m1")) =
      some ([.processed "e1"], some [sampleText "m1" "hello"], false) := by
    decide +kernel
  have initial : (program repliesOn Pipeline.flatMap).initial
      (.ofEvents [("e1", [sampleText "m1" "hello"])] []) :=
    Store.ofEvents_initial (by simp)
  obtain ⟨world, reachable, _, observed⟩ :=
    Process.Program.reachable_served initial ran
  simp only [Prod.mk.injEq] at observed
  obtain ⟨journal, stored, unconsumed⟩ := observed
  obtain ⟨event, found, payload⟩ := Option.map_eq_some_iff.mp stored
  refine ⟨world, event, reachable, ?_, ?_, found,
    sampleText "m1" "hello", ?_, unconsumed⟩
  · simp [journal]
  · simp [journal]
  · rw [payload]
    exact List.mem_cons_self

end JanSetu.Whatsapp
