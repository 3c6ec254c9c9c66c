import JanSetu.Whatsapp.Consumption
import JanSetu.Whatsapp.Stranded

/-!
# The outcomes of the pipeline, and their prompts

A follow-up stores its prompt under a key of the conversation, the outcome and
the grievance, and a key that is taken stores nothing.  While no outcome comes
a second time, every end of `run_pipeline` and of `recheck_image` is told by a
new row, and a conversation that asks for a photo or a confirmation has been
asked to.  A second mismatch moves the conversation and tells the citizen
nothing.
-/

namespace JanSetu.Pipeline

/-- The grievance of the task's next step. -/
def Task.target : Task → Option String
  | .opened _ id => some id
  | .loaded _ id _ => some id
  | _ => none

def Operation.replaces : Operation → Bool
  | .replacePhoto _ _ => true
  | _ => false

/-- The operation that the task is at. -/
def Task.operation : Task → Option Operation
  | .opened operation _ => some operation
  | .loaded operation _ _ => some operation
  | _ => none

/-- The tasks of a follow-up: they replace no photo, and a run of the pipeline
or a recheck among them is about the grievance. -/
structure Task.Follows (id : String) (task : Task) : Prop where
  keepsPhoto : ∀ operation, task.operation = some operation →
    operation.replaces = false
  own : task.processes = true → task.target = some id

section

variable {settings : Settings} {geometry : Geometry} {store after : Store}
  {id target : String} {known : Grievance} {now : Time} {answer : Answer}
  {operation : Operation} {progress : Progress} {task next : Task}
  {choice : Choice} {result : PipelineResult}

/-- A task goes on with its operation, with a new one that is no run of the
pipeline, or past its operation. -/
theorem Task.Moves.follows
    (moves : task.Moves settings geometry store now answer after
      (.more next)) (follows : task.Follows id) : next.Follows id := by
  have idle : ∀ operation target,
      operation = .acceptPhotoMismatch ∨ operation = .finalize ∨
        operation = .dispatch →
      (Task.opened operation target).Follows id := by
    intro operation target which
    constructor
    · intro other same
      cases same
      rcases which with rfl | rfl | rfl <;> rfl
    · intro processes
      rcases which with rfl | rfl | rfl <;> cases processes
  have past : next.operation = none → next.processes = false →
      next.Follows id := by
    intro none other
    constructor
    · intro operation same
      rw [none] at same
      cases same
    · intro processes
      rw [other] at processes
      cases processes
  generalize more : Progress.more next = progress at moves
  cases moves with
  | created =>
      cases more
      constructor
      · rintro operation ⟨⟩
        rfl
      · intro processes
        cases processes
  | tapped =>
      cases more
      exact idle _ _ (.inr (.inl rfl))
  | @loaded operation target row found =>
      cases more
      constructor
      · intro other same
        exact follows.keepsPhoto other same
      · intro processes
        apply follows.own
        cases operation <;> first | rfl | cases processes
  | missing _ returned =>
      rw [← more] at returned
      cases returned
  | returned _ returned =>
      rw [← more] at returned
      cases returned
  | confirming which =>
      cases more
      rcases which with ⟨same, _⟩ | ⟨same, _⟩
      · exact idle _ _ (.inl same)
      · exact idle _ _ (.inr (.inl same))
  | skipped =>
      cases more
      exact idle _ _ (.inr (.inl rfl))
  | wrote writes =>
      cases writes with
      | acceptPhotoMismatch =>
          cases more
          exact idle _ _ (.inr (.inl rfl))
      | replacePhoto =>
          have keeps := follows.keepsPhoto _ rfl
          cases keeps
      | dispatching =>
          cases more
          exact past rfl rfl
      | _ => cases more
  | confirmed confirms =>
      cases confirms with
      | priority =>
          cases more
          exact idle _ _ (.inr (.inr rfl))
      | _ => cases more
  | searched =>
      cases more
      exact past rfl rfl
  | called =>
      cases more
      exact past rfl rfl
  | accepted =>
      cases more
      exact past rfl rfl
  | refused =>
      cases more
      exact past rfl rfl
  | _ => cases more

theorem Task.resume_follows
    (resumed : task.resume settings geometry store choice =
      some (after, .more next)) (follows : task.Follows id) :
    next.Follows id := by
  rcases Task.resume_cases resumed with ⟨_, _, same⟩ | ⟨_, moves⟩
  · cases same
  · exact moves.follows follows

/-- Only `run_pipeline` and `recheck_image` have an outcome, and they have
written the row. -/
theorem Operation.run_processed
    (ran : operation.run settings geometry store target known now answer =
      some (after, .processed result)) :
    (Task.loaded operation target known).processes = true ∧
      after.Has target fun _ => True := by
  have written : ∀ {before : Store} {fields : Grievance → Grievance}
      {event : Option (GrievanceStatus × Option String)}
      {next : Grievance → Progress},
      before.write target known now fields event next =
        some (after, .processed result) →
      after.Has target (fun _ => True) ∧
        ∃ knows, Progress.processed result = next knows := by
    intro before fields event next wrote
    obtain ⟨current, wrote, same⟩ := Store.write_wrote wrote
    exact ⟨⟨_, wrote.find_self, trivial⟩, _, same⟩
  unfold Operation.run at ran
  split at ran
  case h_1 =>
    obtain ⟨_, _, same⟩ := written ran
    cases same
  case h_2 =>
    unfold Store.runPipeline at ran
    split at ran
    · cases ran
    · exact ⟨rfl, (written ran).1⟩
  case h_3 =>
    unfold Store.acceptPhotoMismatch at ran
    split at ran
    · cases ran
    · obtain ⟨_, _, same⟩ := written ran
      cases same
  case h_4 =>
    unfold Store.recheckImage at ran
    exact ⟨rfl, (written ran).1⟩
  case h_5 =>
    unfold Store.reextract at ran
    split at ran
    · cases ran
    · obtain ⟨_, _, same⟩ := written ran
      cases same
  case h_6 =>
    unfold Store.updateReview at ran
    split at ran
    · cases ran
    · split at ran
      · cases ran
      · obtain ⟨_, _, same⟩ := written ran
        cases same
  case h_7 =>
    unfold Store.officialAction at ran
    split at ran
    · cases ran
    · obtain ⟨_, _, same⟩ := written ran
      cases same
  case h_8 =>
    unfold Store.replacePhoto at ran
    split at ran
    · cases ran
    · obtain ⟨_, _, same⟩ := written ran
      cases same
  case h_9 =>
    unfold Store.confirmDraft at ran
    split at ran
    · cases ran
    · split at ran
      · cases ran
      · split at ran <;> cases ran
  case h_10 =>
    unfold Store.finalize Store.searchDuplicates at ran
    split at ran
    · obtain ⟨_, _, same⟩ := written ran
      cases same
    · split at ran
      · obtain ⟨_, _, same⟩ := written ran
        cases same
      · split at ran
        · obtain ⟨_, _, same⟩ := written ran
          cases same
        · split at ran <;> cases ran
  case h_11 =>
    obtain ⟨_, _, same⟩ := written ran
    cases same
  case h_12 =>
    unfold Store.dispatch at ran
    split at ran
    · obtain ⟨_, _, same⟩ := written ran
      cases same
    · obtain ⟨_, _, same⟩ := written ran
      cases same
  case h_13 => cases ran

/-- The row of a run that has its outcome is there. -/
theorem Task.resume_processed
    (resumed : task.resume settings geometry store choice =
      some (after, .processed result)) (follows : task.Follows id) :
    after.Has id fun _ => True := by
  have plain : choice.answer ≠ .raises := by
    intro raises
    rcases Task.resume_cases resumed with ⟨_, _, same⟩ | ⟨plain, _⟩
    · cases same
    · exact plain raises
  have final : ∀ {before : Store} {target : String} {known : Grievance}
      {fields : Grievance → Grievance}
      {event : Option (GrievanceStatus × Option String)}
      {outcome : Grievance → FinalizeOutcome},
      before.write target known choice.now fields event
        (fun knows => .finalized (outcome knows)) =
          some (after, .processed result) → False := by
    intro before target known fields event outcome wrote
    obtain ⟨_, _, same⟩ := Store.write_wrote wrote
    cases same
  unfold Task.resume at resumed
  rw [if_neg plain] at resumed
  split at resumed
  case h_1 =>
    unfold Store.createDraft at resumed
    split at resumed <;> cases resumed
  case h_2 => cases resumed
  case h_3 =>
    unfold Store.load at resumed
    split at resumed
    · cases resumed
    · split at resumed <;> cases resumed
  case h_4 operation target known _ =>
    obtain ⟨processes, has⟩ := Operation.run_processed resumed
    have own := follows.own processes
    cases own
    exact has
  case h_5 =>
    unfold Store.openWindow at resumed
    dsimp only at resumed
    split at resumed <;> cases resumed
  case h_6 =>
    unfold Store.mergeDuplicate at resumed
    dsimp only at resumed
    split at resumed
    · cases resumed
    · split at resumed <;> cases resumed
  case h_7 =>
    obtain ⟨_, _, same⟩ := Option.map_eq_some_iff.mp resumed
    cases same
  case h_8 => cases resumed
  case h_9 => cases resumed
  case h_10 => exact (final resumed).elim
  case h_11 => exact (final resumed).elim
  case h_12 => cases resumed

end

end JanSetu.Pipeline

namespace JanSetu.Whatsapp

open Pipeline (PipelineResult Geometry)
open Process (Label)

/-! ## Prompts of outcomes -/

/-- The key under which the prompt of an outcome is stored. -/
def followupKey (id : String) (result : PipelineResult)
    (grievanceId : String) : String :=
  id ++ ":pipeline:" ++ statusName result.status ++ ":" ++ grievanceId

/-- The contact has a conversation, and it has no prompt of that outcome of the
grievance yet. -/
structure Followup.First (store : Store) (followup : Followup)
    (result : PipelineResult) (choice : Choice) : Prop where
  goesOn : choice.answer ≠ .raises
  fresh : ∃ id conversation,
    store.activeConversation followup.waId = some (id, conversation) ∧
      conversation.expiresAt.any (· < choice.now) = false ∧
      ∀ message ∈ store.outgoing,
        message.idempotencyKey ≠
          followupKey id result followup.grievanceId

/-- The conversation is moved to the state of the outcome, and its prompt is a
new row. -/
inductive Followup.Sends (store : Store) (followup : Followup)
    (result : PipelineResult) : Store → Prop where
  | sent {id : String} {conversation : Conversation}
      {grievance : Grievance} {mediaId : Option String}
      {intent : OutboundIntent} :
      followupIntent followup result (some grievance) mediaId =
        some intent →
      Sends store followup result
        { store.putConversation id
            { conversation with state := followupState result } with
          outgoing :=
            intentMessage followup.waId (some id) intent
              (followupKey id result followup.grievanceId) none ::
              store.outgoing }

/-- The message is the mismatch prompt of the outcome, or its confirmation
card. -/
structure Followup.Tells (followup : Followup) (result : PipelineResult)
    (message : OutgoingMessage) : Prop where
  mismatch : result.status = .photoMismatch →
    ∃ id, message =
      intentMessage followup.waId (some id)
        (buildMismatchIntent followup.waId none)
        (followupKey id result followup.grievanceId) none
  confirmation : result.status ≠ .photoMismatch →
    ∃ id mediaId grievance, message =
      intentMessage followup.waId (some id)
        (buildConfirmationIntent followup.waId followup.grievanceId mediaId
          (Copy.pdfConfirm (renderConfirmationSummary grievance)))
        (followupKey id result followup.grievanceId) none

/-- The kind of the prompt that a state follows. -/
def promptKind : ConversationState → Option String
  | .photoMismatch => some "image_mismatch"
  | .awaitingConfirmation => some "pdf_confirm"
  | _ => none

section

variable {settings : Settings} {geometry : Geometry} {store after : Store}
  {choice : Choice} {followup : Followup} {result : PipelineResult}
  {mediaId : Option String} {progress : Progress FollowupStage}

theorem addOutgoing_fresh {outgoing : List OutgoingMessage}
    {message : OutgoingMessage}
    (fresh : ∀ other ∈ outgoing,
      other.idempotencyKey ≠ message.idempotencyKey) :
    addOutgoing outgoing message = message :: outgoing := by
  unfold addOutgoing
  apply if_neg
  simpa using fresh

theorem followupIntent_tells {id : String} {grievance : Grievance}
    {intent : OutboundIntent}
    (built : followupIntent followup result (some grievance) mediaId =
      some intent) :
    followup.Tells result
      (intentMessage followup.waId (some id) intent
        (followupKey id result followup.grievanceId) none) := by
  unfold followupIntent at built
  split at built
  case isTrue mismatch =>
    cases built
    constructor
    · intro _
      exact ⟨id, rfl⟩
    · intro other
      exact absurd mismatch other
  case isFalse other =>
    cases built
    constructor
    · intro mismatch
      exact absurd mismatch other
    · intro _
      exact ⟨id, mediaId, grievance, rfl⟩

theorem followupIntent_kind {grievance : Option Grievance}
    {intent : OutboundIntent}
    (built : followupIntent followup result grievance mediaId =
      some intent) :
    promptKind (followupState result) = some intent.replyKind := by
  unfold followupIntent at built
  unfold followupState
  split at built
  case isTrue mismatch =>
    cases built
    rw [if_pos mismatch]
    rfl
  case isFalse other =>
    obtain ⟨_, _, rfl⟩ := Option.map_eq_some_iff.mp built
    rw [if_neg other]
    cases mediaId <;> rfl

/-- The follow-up of a first outcome moves the conversation and stores its
prompt. -/
theorem Store.sendFollowup_first {grievance : Grievance}
    (first : followup.First store result choice)
    (known : store.pipeline.grievances.find followup.grievanceId =
      some grievance)
    (sent : store.sendFollowup followup result mediaId choice.now =
      some (after, progress)) :
    followup.Sends store result after := by
  obtain ⟨id, conversation, active, current, fresh⟩ := first.fresh
  have locked : (store.lockContactAndGetConversation followup.waId
      choice.now).2 = some (id, conversation) := by
    unfold Store.lockContactAndGetConversation
    simp [active, current]
  unfold Store.sendFollowup at sent
  rw [locked, known] at sent
  split at sent
  · cases sent
  case isFalse =>
    dsimp only at sent
    cases built : followupIntent followup result (some grievance)
        mediaId with
    | none =>
        unfold followupIntent at built
        split at built <;> cases built
    | some intent =>
        rw [built] at sent
        have stored := (Prod.mk.inj (Option.some.inj sent)).1
        rw [Store.storeOutgoingPending_fst] at stored
        have sends := @Followup.Sends.sent store followup result id
          conversation grievance mediaId intent built
        rw [← addOutgoing_fresh fresh] at sends
        exact stored ▸ sends

theorem Followup.resume_first
    (stage : followup.stage = .sending result)
    (first : followup.First store result choice)
    (known : store.pipeline.Has followup.grievanceId fun _ => True)
    (resumed : followup.resume settings geometry store choice =
      some (after, progress)) :
    followup.Sends store result after := by
  obtain ⟨grievance, found, _⟩ := known
  unfold Followup.resume at resumed
  rw [stage] at resumed
  split at resumed
  case h_2 same given =>
    cases same
    exact Store.sendFollowup_first first found resumed
  case h_5 raises => exact absurd raises first.goesOn
  all_goals contradiction

theorem Followup.resume_tells
    (stage : followup.stage = .sending result)
    (first : followup.First store result choice)
    (known : store.pipeline.Has followup.grievanceId fun _ => True)
    (resumed : followup.resume settings geometry store choice =
      some (after, progress)) :
    ∃ message, followup.Tells result message ∧
      after.outgoing = message :: store.outgoing := by
  cases Followup.resume_first stage first known resumed with
  | sent built => exact ⟨_, followupIntent_tells built, rfl⟩

/-! ## Rows are only added -/

theorem suffix_addOutgoing (outgoing : List OutgoingMessage)
    (message : OutgoingMessage) :
    outgoing <:+ addOutgoing outgoing message := by
  unfold addOutgoing
  split
  · exact List.suffix_rfl
  · exact List.suffix_cons message outgoing

theorem Store.Handles.adds {incoming : IncomingWhatsAppMessage}
    {geocode : Option ReverseGeocode} {inputs : HandleInputs} {now : Time}
    {handled : Handled}
    (handles : store.Handles settings incoming geocode inputs now after
      handled) : store.outgoing <:+ after.outgoing := by
  cases handles with
  | answered locks =>
      rw [Store.answer_eq, ← (Store.sameLog_of_locked locks).outgoing]
      apply suffix_addOutgoing
  | @advanced locked acted found id row result context locks advanced _ _
      acts =>
      have few := (advance_prompts advanced).atMostOne
      obtain ⟨outgoing, shape, replies⟩ := acted.finishTurn_eq incoming id
        row (found.map (·.2.state)) result context few
      rw [shape, ← locks.sameLog.outgoing, ← acts.sameLog.outgoing]
      rcases replies with rfl | ⟨message, _, rfl⟩
      · exact List.suffix_rfl
      · apply suffix_addOutgoing

theorem Followup.Moves.adds
    (moves : followup.Moves settings geometry store choice after progress) :
    store.outgoing <:+ after.outgoing := by
  cases moves with
  | sent => apply suffix_addOutgoing
  | replied => apply suffix_addOutgoing
  | _ => exact List.suffix_rfl

/-- No step takes a row of the outbox back. -/
theorem Task.resume_adds {task : Task} {next : Option Task}
    (resumed : task.resume settings geometry store choice =
      some (after, next)) : store.outgoing <:+ after.outgoing := by
  cases Task.resume_steps resumed with
  | handled moves =>
      cases moves with
      | committed handles => exact handles.adds
      | followed moves => exact moves.adds
      | _ => exact List.suffix_rfl
  | recovered moves => exact moves.adds
  | _ => exact List.suffix_rfl

theorem Task.release_outgoing (store : Store) (task : Task) :
    (task.release store).outgoing = store.outgoing := by
  obtain ⟨_, _, _, shape, _⟩ := task.release_eq store
  rw [shape]

/-! ## Prompted conversations -/

/-- A conversation that asks for a photo or a confirmation has a row that asks
for it. -/
def Store.Prompted (store : Store) : Prop :=
  ∀ id row kind, store.conversations.find id = some row →
    promptKind row.state = some kind →
    ∃ message ∈ store.outgoing,
      message.conversationId = some id ∧ message.replyKind = kind

theorem Store.Prompted.of_same (prompted : store.Prompted)
    (conversations : after.conversations = store.conversations)
    (adds : store.outgoing <:+ after.outgoing) : after.Prompted := by
  intro id row kind found asks
  rw [conversations] at found
  obtain ⟨message, stored, own⟩ := prompted id row kind found asks
  exact ⟨message, adds.subset stored, own⟩

theorem Store.Prompted.put {id : String} {row : Conversation}
    (prompted : store.Prompted)
    (conversations : after.conversations = store.conversations.put id row)
    (adds : store.outgoing <:+ after.outgoing)
    (own : ∀ kind, promptKind row.state = some kind →
      ∃ message ∈ after.outgoing,
        message.conversationId = some id ∧ message.replyKind = kind) :
    after.Prompted := by
  intro other found kind stored asks
  rw [conversations, Table.find_put] at stored
  split at stored
  case isTrue same =>
    cases stored
    subst same
    exact own kind asks
  case isFalse =>
    obtain ⟨message, before, tells⟩ := prompted other found kind stored asks
    exact ⟨message, adds.subset before, tells⟩

/-- No message brings a conversation to where it asks for a photo or a
confirmation. -/
theorem Turn.asks {inbound : IncomingWhatsAppMessage}
    {geocode : Option ReverseGeocode} {now : Time}
    {state : Option ConversationState} {context next : Context}
    {reached : ConversationState} {action : Option Action} {kind : String}
    (turn : Turn inbound geocode now state context reached next action)
    (asks : promptKind reached = some kind) : state = some reached := by
  cases turn with
  | stayed => rfl
  | _ => cases asks

theorem Store.Locks.prompted {contactId : String} {now : Time}
    {found : Option (String × Conversation)}
    (locks : store.Locks contactId now after found)
    (prompted : store.Prompted) : after.Prompted := by
  cases locks with
  | free => exact prompted
  | found => exact prompted
  | expired active _ =>
      obtain ⟨stored, _⟩ := Store.activeConversation_eq active
      refine prompted.put rfl List.suffix_rfl ?_
      intro kind asks
      exact prompted _ _ kind stored asks

theorem Store.Handles.prompted {incoming : IncomingWhatsAppMessage}
    {geocode : Option ReverseGeocode} {inputs : HandleInputs} {now : Time}
    {handled : Handled}
    (handles : store.Handles settings incoming geocode inputs now after
      handled) (prompted : store.Prompted) : after.Prompted := by
  have adds := handles.adds
  cases handles with
  | @answered locked _ _ _ locks =>
      have before : locked.Prompted := by
        rcases locks with rfl | locks
        · exact prompted
        · exact locks.prompted prompted
      rw [Store.answer_eq]
      exact before.of_same rfl (suffix_addOutgoing _ _)
  | @advanced locked acted found id row result context locks advanced fresh
      upserts acts =>
      have before : locked.Prompted := locks.prompted prompted
      have few := (advance_prompts advanced).atMostOne
      obtain ⟨turn, _⟩ := advance_turn advanced
      obtain ⟨_, shape, _⟩ := acted.finishTurn_eq incoming id row
        (found.map (·.2.state)) result context few
      rw [acts.conversations] at shape
      rw [← locks.sameLog.outgoing] at adds
      rw [shape] at adds ⊢
      refine before.put rfl adds ?_
      intro kind asks
      cases found with
      | none =>
          cases upserts
          cases turn.asks asks
      | some entry =>
          obtain ⟨_, stored⟩ := entry
          cases locks with
          | found active _ =>
              obtain ⟨found, _⟩ := Store.activeConversation_eq active
              cases upserts
              have same : stored.state = result.state :=
                Option.some.inj (turn.asks asks)
              have waits : promptKind stored.state = some kind := by
                rw [same]
                exact asks
              obtain ⟨message, sent, own⟩ :=
                before _ _ kind found waits
              exact ⟨message, adds.subset sent, own⟩

theorem Followup.resume_prompted
    (first : ∀ result, followup.stage = .sending result →
      followup.First store result choice)
    (known : ∀ result, followup.stage = .sending result →
      store.pipeline.Has followup.grievanceId fun _ => True)
    (resumed : followup.resume settings geometry store choice =
      some (after, progress)) (prompted : store.Prompted) :
    after.Prompted := by
  by_cases sends : ∃ result, followup.stage = .sending result
  · obtain ⟨result, stage⟩ := sends
    cases Followup.resume_first stage (first result stage)
      (known result stage) resumed with
    | sent built =>
        refine prompted.put rfl (List.suffix_cons _ _) ?_
        intro kind asks
        have same : promptKind (followupState result) = some kind := asks
        rw [followupIntent_kind built] at same
        exact ⟨_, List.mem_cons_self, rfl, Option.some.inj same⟩
  · have moves := Followup.resume_moves resumed
    have adds := moves.adds
    cases moves with
    | sent stage => exact absurd ⟨_, stage⟩ sends
    | _ => exact prompted.of_same rfl adds

/-! ## Follow-ups with their grievance -/

/-- A run of the follow-up is about its grievance, and an outcome that is to be
told has the grievance's row. -/
structure Followup.Grounded (store : Store) (followup : Followup) : Prop where
  follows : ∀ action run, followup.stage = .running action run →
    run.Follows followup.grievanceId
  known : ∀ result, followup.stage = .sending result →
    store.pipeline.Has followup.grievanceId fun _ => True

theorem Followup.start_grounded (store : Store)
    (waId grievanceId : String) (action : Action) :
    (Followup.start waId grievanceId action).Grounded store := by
  constructor
  · intro _ run same
    cases same
    constructor
    · intro operation doing
      cases action <;> cases doing <;> rfl
    · intro processes
      cases action <;> first | rfl | cases processes
  · intro result same
    cases same

theorem Store.Drafts.kept (drafts : store.Drafts after) {id : String}
    (has : store.pipeline.Has id fun _ => True) :
    after.pipeline.Has id fun _ => True := by
  obtain ⟨row, found, _⟩ := has
  cases drafts with
  | same same =>
      exact (same.kept id row found).mono fun _ _ => trivial
  | @drafted _ grievanceId _ _ absent grievances _ =>
      refine ⟨row, ?_, trivial⟩
      rw [grievances, Table.find_put_of_ne, found]
      rintro rfl
      rw [absent] at found
      cases found

theorem Followup.Grounded.drafts (grounded : followup.Grounded store)
    (drafts : store.Drafts after) : followup.Grounded after :=
  ⟨grounded.follows, fun result stage =>
    drafts.kept (grounded.known result stage)⟩

/-- A step of a follow-up leads to a grounded one. -/
theorem Followup.Moves.grounded {stage : FollowupStage}
    (moves : followup.Moves settings geometry store choice after
      (.more stage)) (grounded : followup.Grounded store) :
    Followup.Grounded after { followup with stage := stage } := by
  have past : (∀ action run, stage ≠ .running action run) →
      (∀ result, stage ≠ .sending result) →
      Followup.Grounded after { followup with stage := stage } := by
    intro idle done
    constructor
    · intro action run same
      exact absurd same (idle action run)
    · intro result same
      exact absurd same (done result)
  generalize more : Progress.more stage = progress at moves
  cases moves with
  | @ran action task _ pipeline progress was _ ran =>
      have follows := grounded.follows action task was
      cases progress with
      | more next =>
          cases more
          constructor
          · intro _ run same
            cases same
            exact Pipeline.Task.resume_follows ran follows
          · intro result same
            cases same
      | processed result =>
          cases more
          constructor
          · intro _ run same
            cases same
          · intro _ _
            exact Pipeline.Task.resume_processed ran follows
      | finalized outcome =>
          cases more
          apply past <;> simp
      | finished =>
          cases more
          apply past <;> simp
      | raised =>
          simp only [FollowupStage.next] at more
          split at more <;> cases more
  | sent _ _ _ _ which =>
      rcases which with rfl | rfl
      · cases more
        apply past <;> simp
      · cases more
  | replied _ which =>
      rcases which with rfl | rfl
      · cases more
        apply past <;> simp
      · cases more
  | _ => cases more

/-! ## Processes -/

/-- The step of a process at a follow-up is the follow-up's. -/
theorem Task.resume_at {task : Task} {next : Option Task}
    (at_ : task.followup = some followup)
    (resumed : task.resume settings geometry store choice =
      some (after, next)) :
    ∃ progress,
      followup.resume settings geometry store choice =
        some (after, progress) ∧
      ∀ stage, progress = .more stage →
        ∃ moved, next = some moved ∧
          moved.followup = some { followup with stage := stage } := by
  have inbound : ∀ {incoming : IncomingWhatsAppMessage}
      {progress : Progress InboundStage},
      (InboundStage.following followup).resume settings geometry store
        incoming choice = some (after, progress) →
      ∃ own, followup.resume settings geometry store choice =
        some (after, own) ∧
        progress = InboundStage.ofFollowup followup own := by
    intro incoming progress moved
    unfold InboundStage.resume at moved
    obtain ⟨⟨_, own⟩, ran, same⟩ := Option.map_eq_some_iff.mp moved
    cases same
    exact ⟨own, ran, rfl⟩
  unfold Task.followup at at_
  split at at_
  case h_1 =>
    cases at_
    unfold Task.resume at resumed
    obtain ⟨⟨_, progress⟩, ran, same⟩ := Option.map_eq_some_iff.mp resumed
    cases same
    obtain ⟨own, ran, rfl⟩ := inbound ran
    refine ⟨own, ran, ?_⟩
    rintro stage rfl
    exact ⟨_, rfl, rfl⟩
  case h_2 =>
    cases at_
    unfold Task.resume at resumed
    obtain ⟨⟨_, progress⟩, ran, same⟩ := Option.map_eq_some_iff.mp resumed
    cases same
    refine ⟨progress, ran, ?_⟩
    rintro stage rfl
    exact ⟨_, rfl, rfl⟩
  case h_3 => cases at_

/-- Whatever follow-up a process is at or comes to is grounded. -/
def Task.Grounded (store : Store) (task : Task) : Prop :=
  ∀ followup, task.underway = some followup → followup.Grounded store

theorem Task.nextMessage_grounded {eventId : String} {allOk : Bool}
    {rest : List IncomingWhatsAppMessage} {task : Task}
    (next : Task.nextMessage eventId allOk rest = some task) :
    task.Grounded store := by
  intro followup underway
  unfold Task.nextMessage at next
  split at next
  · cases next
    cases underway
  · split at next
    · cases next
      cases underway
    · cases next

theorem Task.nextRecovery_grounded {rest : List (String × String)}
    {task : Task} (next : Task.nextRecovery rest = some task) :
    task.Grounded store := by
  intro followup underway
  unfold Task.nextRecovery at next
  split at next
  · cases next
  · cases next
    cases underway
    apply Followup.start_grounded

theorem Task.ofInbound_grounded {eventId : String}
    {incoming : IncomingWhatsAppMessage}
    {rest : List IncomingWhatsAppMessage} {allOk : Bool}
    {progress : Progress InboundStage} {task : Task}
    (next : Task.ofInbound eventId incoming rest allOk progress = some task)
    (own : ∀ stage, progress = .more stage →
      (Task.handling eventId incoming stage rest allOk).Grounded store) :
    task.Grounded store := by
  cases progress with
  | more stage =>
      cases next
      exact own stage rfl
  | returned => exact Task.nextMessage_grounded next
  | raised => exact Task.nextMessage_grounded next

/-- A process comes only to grounded follow-ups. -/
theorem Task.resume_grounded {task next : Task}
    (resumed : task.resume settings geometry store choice =
      some (after, some next)) (grounded : task.Grounded store) :
    next.Grounded after := by
  have moved := Task.resume_moves resumed
  generalize is : some next = found at moved
  cases moved with
  | claimed _ _ which =>
      cases is
      intro followup underway
      rcases which with rfl | rfl <;> cases underway
  | stored =>
      unfold Store.storeEvent at is
      dsimp only at is
      split at is
      · exact Task.nextMessage_grounded is.symm
      · cases is
        intro followup underway
        cases underway
  | handled moves =>
      refine Task.ofInbound_grounded is.symm ?_
      intro stage more followup underway
      cases moves with
      | @committed _ _ _ handled _ =>
          cases more
          have begun : handledFollowup _ handled = some followup := underway
          unfold handledFollowup at begun
          split at begun
          · cases begun
            apply Followup.start_grounded
          · cases begun
      | @posted due =>
          cases due with
          | none => cases more
          | some due =>
              cases more
              exact grounded followup underway
      | @followed due _ progress moves =>
          cases progress with
          | more stage =>
              cases more
              cases underway
              exact moves.grounded (grounded due rfl)
          | returned => cases more
          | raised => cases more
      | geocoded =>
          cases more
          cases underway
      | claimed =>
          cases more
          cases underway
      | _ => cases more
  | selected => exact Task.nextRecovery_grounded is.symm
  | @recovered due rest _ progress moves =>
      cases progress with
      | more stage =>
          cases is
          intro followup underway
          cases underway
          exact moves.grounded (grounded due rfl)
      | returned => exact Task.nextRecovery_grounded is.symm
      | raised => exact Task.nextRecovery_grounded is.symm
  | web =>
      obtain ⟨_, _, rfl⟩ := Option.map_eq_some_iff.mp is.symm
      intro followup underway
      cases underway
  | _ => cases is

theorem Task.Grounded.drafts {task : Task} (grounded : task.Grounded store)
    (drafts : store.Drafts after) : task.Grounded after :=
  fun followup underway => (grounded followup underway).drafts drafts

theorem Task.underway_of_followup {task : Task}
    (at_ : task.followup = some followup) :
    task.underway = some followup := by
  unfold Task.followup at at_
  split at at_
  · exact at_
  · exact at_
  · cases at_

theorem Task.resume_prompted {task : Task} {next : Option Task}
    (first : ∀ followup result, task.followup = some followup →
      followup.stage = .sending result →
      followup.First store result choice)
    (grounded : task.Grounded store)
    (resumed : task.resume settings geometry store choice =
      some (after, next)) (prompted : store.Prompted) : after.Prompted := by
  have followed : ∀ followup, task.followup = some followup →
      after.Prompted := by
    intro followup at_
    obtain ⟨_, ran, _⟩ := Task.resume_at at_ resumed
    have own := grounded followup (Task.underway_of_followup at_)
    exact Followup.resume_prompted
      (fun result => first followup result at_) own.known ran prompted
  cases Task.resume_steps resumed with
  | handled moves =>
      cases moves with
      | committed handles =>
          exact handles.prompted (prompted.of_same rfl List.suffix_rfl)
      | followed => exact followed _ rfl
      | _ => exact prompted.of_same rfl List.suffix_rfl
  | recovered => exact followed _ rfl
  | _ => exact prompted.of_same rfl List.suffix_rfl

end

/-! ## Runs -/

/-- Each follow-up that is to tell an outcome goes on to do so, and it is the
first outcome of its kind for the grievance in the conversation. -/
structure FirstOutcomes (world : World Store Task)
    (label : Label Request Choice) : Prop where
  survives : ∀ pid task followup result, label = .crash pid →
    world.Running pid task → task.followup = some followup →
    followup.stage ≠ .sending result
  first : ∀ pid choice task followup result, label = .resume pid choice →
    world.Running pid task → task.followup = some followup →
    followup.stage = .sending result →
    followup.First world.shared result choice

/-- Conversations are prompted, and processes have the grievances of their
follow-ups. -/
def promptedInvariant : Process.Invariant Store Task :=
  { shared := Store.Prompted
    own := fun store task => task.Grounded store
    pair := fun _ _ => True }

section

variable {settings : Settings} {geometry : Geometry}
  {world : World Store Task}

theorem promptedInvariant_holds
    (reachable : (program settings geometry).system.ReachableWhen
      FirstOutcomes world) : promptedInvariant.Holds world := by
  refine Process.Invariant.holds ?initially ?spawned ?resumed ?crashed reachable
  case initially =>
    intro store initial id row kind found
    have noConversation : store.conversations = Table.empty :=
      initial.conversations
    rw [noConversation, Table.find_empty] at found
    cases found
  case spawned =>
    intro world pid request _ _ _
    constructor
    · intro followup underway
      cases request <;> cases underway
    · intro _ _ _ _
      exact ⟨trivial, trivial⟩
  case resumed =>
    intro world pid choice task store after _ holds permitted running resumed
    obtain ⟨prompted, grounded, _⟩ := holds
    refine ⟨?_, ?_, ?_⟩
    · apply Task.resume_prompted _ (grounded pid task running) resumed prompted
      intro followup result
      exact permitted.first pid choice task followup result rfl running
    · intro other process _ found
      exact (grounded other process found).drafts (Task.resume_drafts resumed)
    · rintro next rfl
      constructor
      · exact Task.resume_grounded resumed (grounded pid task running)
      · intro _ _ _ _
        exact ⟨trivial, trivial⟩
  case crashed =>
    intro world pid task _ holds _ _
    obtain ⟨prompted, grounded, _⟩ := holds
    constructor
    · obtain ⟨_, _, _, shape, _⟩ := task.release_eq world.shared
      have released : (task.release world.shared).Prompted := by
        rw [shape]
        exact prompted.of_same rfl List.suffix_rfl
      exact released
    · intro other process _ found
      exact (grounded other process found).drafts
        (task.release_drafts world.shared)

theorem step_adds {next : World Store Task} {label : Label Request Choice}
    (taken : (program settings geometry).system.step world label =
      some next) : world.shared.outgoing <:+ next.shared.outgoing := by
  rcases Process.Program.step_cases taken with
    ⟨_, _, _, _, rfl⟩ |
    ⟨_, _, task, store, _, _, _, resumed, rfl⟩ |
    ⟨_, task, _, _, rfl⟩
  · exact List.suffix_rfl
  · exact Task.resume_adds resumed
  · have released : (task.release world.shared).outgoing =
        world.shared.outgoing := task.release_outgoing world.shared
    exact ⟨[], released.symm⟩

/-- The process has the outcome and is yet to tell it. -/
def Telling (pid : Nat) (followup : Followup) (result : PipelineResult)
    (world : World Store Task) : Prop :=
  ∃ task, world.Running pid task ∧
    task.followup = some { followup with stage := .sending result }

/-- A row that tells the outcome has been added. -/
def Followup.Told (followup : Followup) (result : PipelineResult)
    (before after : Store) : Prop :=
  ∃ added message, after.outgoing = added ++ before.outgoing ∧
    message ∈ added ∧ followup.Tells result message

theorem Followup.Told.earlier {followup : Followup}
    {result : PipelineResult} {first middle final : Store}
    (told : followup.Told result middle final)
    (adds : first.outgoing <:+ middle.outgoing) :
    followup.Told result first final := by
  obtain ⟨added, message, shape, member, tells⟩ := told
  obtain ⟨earlier, stored⟩ := adds
  refine ⟨added ++ earlier, message, ?_, List.mem_append_left _ member,
    tells⟩
  rw [shape, ← stored, List.append_assoc]

/-- The follow-up of a process, and the outcome with which the choice ends its
run of the pipeline or its recheck. -/
def Task.outcome (settings : Settings) (geometry : Geometry)
    (store : Store) (task : Task) (choice : Choice) :
    Option (Followup × PipelineResult) :=
  task.followup.bind fun followup =>
    match followup.stage, choice.answer with
    | .running _ run, .pipeline answer =>
        match run.resume settings.pipeline geometry store.pipeline
            { now := choice.now, answer := answer } with
        | some (_, .processed result) => some (followup, result)
        | _ => none
    | _, _ => none

theorem Task.outcome_eq {store : Store} {task : Task} {choice : Choice}
    {followup : Followup} {result : PipelineResult}
    (ends : task.outcome settings geometry store choice =
      some (followup, result)) :
    task.followup = some followup ∧
      ∃ action run answer pipeline,
        followup.stage = .running action run ∧
        choice.answer = .pipeline answer ∧
        run.resume settings.pipeline geometry store.pipeline
          { now := choice.now, answer := answer } =
          some (pipeline, .processed result) := by
  obtain ⟨found, at_, ends⟩ := Option.bind_eq_some_iff.mp ends
  split at ends
  case h_1 action run answer stage given =>
    split at ends
    case h_1 pipeline result ended =>
      cases ends
      exact ⟨at_, action, run, answer, pipeline, stage, given, ended⟩
    case h_2 => cases ends
  case h_2 => cases ends

theorem telling_of_ends {pid : Nat} {choice : Choice} {task : Task}
    {followup : Followup} {result : PipelineResult}
    {next : World Store Task} (running : world.Running pid task)
    (ends : task.outcome settings geometry world.shared choice =
      some (followup, result))
    (taken : (program settings geometry).system.step world
      (.resume pid choice) = some next) :
    Telling pid followup result next := by
  obtain ⟨at_, action, run, answer, pipeline, stage, given, ended⟩ :=
    Task.outcome_eq ends
  have processed : followup.resume settings geometry world.shared choice =
      some ({ world.shared with pipeline := pipeline },
        .more (.sending result)) := by
    unfold Followup.resume
    rw [stage, given]
    simp only [ended, Option.map_some]
    rfl
  have stepped : (program settings geometry).step world
      (.resume pid choice) = some next := taken
  rcases Process.Program.step_cases stepped with
    ⟨_, _, same, _, _⟩ |
    ⟨_, _, process, store, after, same, doing, resumed, rfl⟩ |
    ⟨_, _, same, _, _⟩
  · cases same
  · cases same
    cases running.symm.trans doing
    obtain ⟨progress, ran, leads⟩ := Task.resume_at at_ resumed
    cases processed.symm.trans ran
    obtain ⟨moved, rfl, sends⟩ := leads _ rfl
    exact ⟨moved, World.running_put.mpr (.inl ⟨rfl, rfl⟩), sends⟩
  · cases same

/-- An outcome that is to be told stays so until it is. -/
theorem telling_step {pid : Nat} {followup : Followup}
    {result : PipelineResult} {next : World Store Task}
    {label : Label Request Choice}
    (reachable : (program settings geometry).system.ReachableWhen
      FirstOutcomes world) (permitted : FirstOutcomes world label)
    (taken : (program settings geometry).system.step world label =
      some next) (telling : Telling pid followup result world) :
    Telling pid followup result next ∨
      ∃ message, followup.Tells result message ∧
        next.shared.outgoing = message :: world.shared.outgoing := by
  obtain ⟨task, running, at_⟩ := telling
  have elsewhere : ∀ {other : Nat} {shared : Store} {process : Option Task},
      pid ≠ other →
      Telling pid followup result (world.put shared other process) := by
    intro other shared process different
    exact ⟨task, World.running_put.mpr (.inr ⟨different, running⟩), at_⟩
  rcases Process.Program.step_cases taken with
    ⟨other, _, rfl, free, rfl⟩ |
    ⟨other, choice, process, store, after, rfl, doing, resumed, rfl⟩ |
    ⟨other, process, rfl, doing, rfl⟩
  · left
    apply elsewhere
    rintro rfl
    rw [running] at free
    cases free
  · by_cases same : pid = other
    · subst same
      cases running.symm.trans doing
      obtain ⟨_, grounded, _⟩ := promptedInvariant_holds reachable
      have own := grounded pid task running _ (Task.underway_of_followup at_)
      have first := permitted.first pid choice task _ result rfl running at_
        rfl
      obtain ⟨_, ran, _⟩ := Task.resume_at at_ resumed
      obtain ⟨message, tells, added⟩ :=
        Followup.resume_tells rfl first (own.known result rfl) ran
      exact .inr ⟨message, ⟨tells.mismatch, tells.confirmation⟩, added⟩
    · exact .inl (elsewhere same)
  · left
    apply elsewhere
    rintro rfl
    cases running.symm.trans doing
    exact permitted.survives pid task _ result rfl running at_ rfl

theorem told_of_telling {pid : Nat} {followup : Followup}
    {result : PipelineResult} {final : World Store Task}
    {labels : List (Label Request Choice)}
    (reachable : (program settings geometry).system.ReachableWhen
      FirstOutcomes world)
    (runs : (program settings geometry).system.RunWhen FirstOutcomes world
      labels final) (telling : Telling pid followup result world) :
    Telling pid followup result final ∨
      followup.Told result world.shared final.shared := by
  induction runs with
  | nil => exact .inl telling
  | @cons world next final label labels permitted taken rest induction =>
      have later := reachable.next permitted taken
      rcases telling_step reachable permitted taken telling with
        still | ⟨message, tells, sent⟩
      · rcases induction later still with still | told
        · exact .inl still
        · exact .inr (told.earlier (step_adds taken))
      · right
        have adds : next.shared.outgoing <:+ final.shared.outgoing := by
          refine rest.preserves
            (fun world => next.shared.outgoing <:+ world.shared.outgoing)
            ?_ List.suffix_rfl
          intro _ _ _ before _ taken
          exact before.trans (step_adds taken)
        obtain ⟨added, stored⟩ := adds
        refine ⟨added ++ [message], message, ?_, by simp, tells⟩
        rw [← stored, sent]
        simp

/-- While every outcome is the first of its kind and no follow-up is cut off
before it tells it, each end of the pipeline or of a recheck is told by a new
row, and a conversation that asks for a photo or a confirmation has a row that
asks for it. -/
theorem outcomes_told
    (reachable : (program settings geometry).system.ReachableWhen
      FirstOutcomes world) :
    world.shared.Prompted ∧
    ∀ pid choice task followup result next labels final,
      world.Running pid task →
      task.outcome settings geometry world.shared choice =
        some (followup, result) →
      (program settings geometry).system.step world (.resume pid choice) =
        some next →
      (program settings geometry).system.RunWhen FirstOutcomes next labels
        final →
      Telling pid followup result final ∨
        followup.Told result world.shared final.shared := by
  constructor
  · exact (promptedInvariant_holds reachable).1
  · intro pid choice task followup result next labels final running ends
      taken runs
    obtain ⟨at_, _, _, _, _, stage, _⟩ := Task.outcome_eq ends
    have permitted : FirstOutcomes world (.resume pid choice) := by
      constructor
      · intro _ _ _ _ same
        cases same
      · intro _ _ _ other _ same again doing sends
        cases same
        cases running.symm.trans again
        cases at_.symm.trans doing
        rw [stage] at sends
        cases sends
    have telling := telling_of_ends running ends taken
    rcases told_of_telling (reachable.next permitted taken) runs telling with
      still | told
    · exact .inl still
    · exact .inr (told.earlier (step_adds taken))

end

/-! ## A second photo -/

/-- `FirstOutcomes` for a process that is alone. -/
def firstOutcomes (store : Store) (task : Task) (choice : Choice) : Bool :=
  match task.followup with
  | some { waId := waId, grievanceId := grievanceId,
           stage := .sending result } =>
      choice.answer ≠ .raises &&
        (store.activeConversation waId).any fun entry =>
          !entry.2.expiresAt.any (· < choice.now) &&
            store.outgoing.all
              (·.idempotencyKey ≠ followupKey entry.1 result grievanceId)
  | _ => true

theorem firstOutcomes_of_alone {world : World Store Task} {task : Task}
    {choice : Choice} (only : Process.OnlyRunning world 0 (some task))
    (test : firstOutcomes world.shared task choice = true) :
    FirstOutcomes world (.resume 0 choice) := by
  constructor
  · intro _ _ _ _ same
    cases same
  · intro pid again found followup result same running at_ sends
    cases same
    obtain ⟨-, rfl⟩ := only.eq_of_running running
    obtain ⟨waId, grievanceId, stage⟩ := followup
    subst sends
    unfold firstOutcomes at test
    rw [at_] at test
    obtain ⟨goesOn, fresh⟩ := Bool.and_eq_true_iff.mp test
    obtain ⟨⟨id, conversation⟩, active, passes⟩ :=
      (Option.any_eq_true _ _).mp fresh
    obtain ⟨current, unused⟩ := Bool.and_eq_true_iff.mp passes
    refine ⟨of_decide_eq_true goesOn, id, conversation, active, ?_, ?_⟩
    · simpa using current
    · intro message stored
      exact of_decide_eq_true (List.all_eq_true.mp unused message stored)

theorem firstOutcomes_spawn (world : World Store Task) (request : Request) :
    FirstOutcomes world (.spawn 0 request) := by
  constructor
  · intro _ _ _ _ same
    cases same
  · intro _ _ _ _ _ same
    cases same

/-- A complaint with a photo, and a second photo after the first does not
match. -/
def samplePhotos : List IncomingWhatsAppMessage :=
  sampleComplaint.dropLast ++
    [sampleImage "m6" "photo1", sampleImage "m7" "photo2"]

def mismatchedWork : Pipeline.PipelineWork :=
  { Pipeline.streetlightWork with
    photoRead := true
    extraction :=
      { Pipeline.streetlightExtraction with
        contradictions := ["The photo shows a road."] } }

/-- The steps up to the check of the second photo. -/
def samplePhotosDrive : List Choice :=
  sampleDrive ++
    [⟨0, .pipeline .plain⟩, ⟨0, .pipeline (.work mismatchedWork)⟩,
      ⟨0, .uploaded none⟩, ⟨0, .plain⟩] ++
    sampleTurn .plain ++ [⟨0, .pipeline .plain⟩]

/-- The check of the second photo. -/
def sampleCheck (isMatch : Bool) : Choice :=
  ⟨0, .pipeline (.photo (.compared isMatch))⟩

/-- The second photo matches, and its confirmation card is a new row. -/
theorem outcomes_told_matching :
    ∃ world task followup result next labels final,
      (program repliesOn Pipeline.flatMap).system.ReachableWhen
        FirstOutcomes world ∧
      world.Running 0 task ∧
      task.outcome repliesOn Pipeline.flatMap world.shared
        (sampleCheck true) = some (followup, result) ∧
      result.status = .awaitingConfirmation ∧
      (program repliesOn Pipeline.flatMap).system.step world
        (.resume 0 (sampleCheck true)) = some next ∧
      (program repliesOn Pipeline.flatMap).system.RunWhen FirstOutcomes next
        labels final ∧
      followup.Told result world.shared final.shared := by
  have ran : (program repliesOn Pipeline.flatMap).watch firstOutcomes
      (.ofEvents [("e1", samplePhotos)] []) (.driveEvent "e1")
      samplePhotosDrive
      [sampleCheck true, ⟨0, .uploaded none⟩, ⟨0, .plain⟩, ⟨0, .plain⟩]
      (fun store task _ =>
        (task.outcome repliesOn Pipeline.flatMap store
          (sampleCheck true)).map (·.2.status)) =
      some (some .awaitingConfirmation) := by
    decide +kernel
  have initial : (program repliesOn Pipeline.flatMap).initial
      (.ofEvents [("e1", samplePhotos)] []) :=
    Store.ofEvents_initial (by simp)
  obtain ⟨world, task, final, reachable, running, runs, quiet, observed⟩ :=
    Process.Program.runs_alone initial (firstOutcomes_spawn _ _)
      (fun _ _ _ => firstOutcomes_of_alone) ran
  obtain ⟨⟨followup, result⟩, ends, status⟩ :=
    Option.map_eq_some_iff.mp observed
  cases runs with
  | @cons _ next _ _ labels permitted taken rest =>
      refine ⟨world, task, followup, result, next, _, final, reachable,
        running, ends, status, taken, rest, ?_⟩
      rcases (outcomes_told reachable).2 0 (sampleCheck true) task followup
        result next _ final running ends taken rest with
        ⟨_, still, _⟩ | told
      · rw [World.Running, quiet 0] at still
        cases still
      · exact told

/-- The second photo does not match either: the conversation waits for a third
one, and the citizen is told nothing. -/
theorem second_mismatch_untold :
    ∃ world task followup result next labels final row,
      (program repliesOn Pipeline.flatMap).system.Reachable world ∧
      world.Running 0 task ∧
      task.outcome repliesOn Pipeline.flatMap world.shared
        (sampleCheck false) = some (followup, result) ∧
      result.status = .photoMismatch ∧
      (program repliesOn Pipeline.flatMap).system.step world
        (.resume 0 (sampleCheck false)) = some next ∧
      (program repliesOn Pipeline.flatMap).system.RunWhen
        Transition.System.Always next labels final ∧
      final.Quiet ∧
      final.shared.conversations.find "c1" = some row ∧
      row.active = true ∧ row.state = .photoMismatch ∧
      ¬ followup.Told result world.shared final.shared := by
  have ran : (program repliesOn Pipeline.flatMap).watch
      (fun _ _ _ => true) (.ofEvents [("e1", samplePhotos)] [])
      (.driveEvent "e1") samplePhotosDrive
      [sampleCheck false, ⟨0, .uploaded none⟩, ⟨0, .plain⟩]
      (fun store task final =>
        ((task.outcome repliesOn Pipeline.flatMap store
            (sampleCheck false)).map (·.2.status),
          (final.conversations.find "c1").map
            fun row => (row.active, row.state),
          decide (final.outgoing.length = store.outgoing.length))) =
      some (some .photoMismatch, some (true, .photoMismatch), true) := by
    decide +kernel
  have initial : (program repliesOn Pipeline.flatMap).initial
      (.ofEvents [("e1", samplePhotos)] []) :=
    Store.ofEvents_initial (by simp)
  have free : ∀ (world : World Store Task) (label : Label Request Choice),
      Transition.System.Always world label :=
    fun _ _ => trivial
  obtain ⟨world, task, final, reachable, running, runs, quiet, observed⟩ :=
    Process.Program.runs_alone initial (free _ _)
      (fun _ _ _ _ _ => free _ _) ran
  simp only [Prod.mk.injEq, decide_eq_true_eq] at observed
  obtain ⟨outcome, conversation, length⟩ := observed
  obtain ⟨⟨followup, result⟩, ends, status⟩ :=
    Option.map_eq_some_iff.mp outcome
  obtain ⟨row, found, same⟩ := Option.map_eq_some_iff.mp conversation
  simp only [Prod.mk.injEq] at same
  obtain ⟨active, state⟩ := same
  cases runs with
  | @cons _ next _ _ labels permitted taken rest =>
      refine ⟨world, task, followup, result, next, _, final, row, reachable,
        running, ends, status, taken, rest, quiet, found, active, state, ?_⟩
      rintro ⟨added, message, shape, member, _⟩
      rw [shape, List.length_append] at length
      have none : added.length = 0 := by omega
      rw [List.length_eq_zero_iff.mp none] at member
      cases member

end JanSetu.Whatsapp
