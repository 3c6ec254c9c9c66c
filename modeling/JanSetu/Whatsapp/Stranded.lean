import JanSetu.Whatsapp.Followups

/-!
# Conversations left in `processing`

The pipeline commits the grievance's status, and the follow-up the
conversation's state, in two transactions.  Between the two the sweep does not
select the grievance any more, so that only the process that is between them
can bring the conversation out of `processing`; a recheck is in this position
from its first transaction on.
-/

namespace JanSetu.Pipeline

/-- What `fetch_stuck_processing` selects. -/
def Recoverable (row : Grievance) : Prop :=
  row.status = .draft ∨ row.status = .processing

def Operation.setsStatus : Operation → Bool
  | .runPipeline => true
  | .acceptPhotoMismatch => true
  | .recheckImage _ => true
  | .finalize => true
  | .cancel => true
  | .dispatch => true
  | _ => false

/-- The task's next step can take the grievance out of `draft` and
`processing`. -/
def Task.setsStatus (id : String) : Task → Bool
  | .loaded operation target _ => operation.setsStatus ∧ target = id
  | .searched target _ _ _ => target = id
  | .accepted target _ _ => target = id
  | .refused target _ => target = id
  | _ => false

/-- A run of `run_pipeline` or `recheck_image`. -/
def Task.processes : Task → Bool
  | .opened .runPipeline _ => true
  | .opened (.recheckImage _) _ => true
  | .loaded .runPipeline _ _ => true
  | .loaded (.recheckImage _) _ _ => true
  | _ => false

section

variable {settings : Settings} {geometry : Geometry} {store after : Store}
  {id : String} {now : Time} {answer : Answer} {progress : Progress}
  {task : Task}

theorem Task.Moves.recoverable
    (moves : task.Moves settings geometry store now answer after progress)
    (unset : task.setsStatus id = false)
    (before : store.Has id Recoverable) : after.Has id Recoverable := by
  have isColumn := RowSession.status_isColumn
  refine moves.has ?_ before
  intro known writes current touches _ holds
  have kept : ∀ {fields : Grievance → Grievance},
      (fields known).status = known.status →
      Recoverable (RowSession.set { known := known, current := current } now
        fields).current := by
    intro fields same
    unfold Recoverable
    rw [isColumn.set_same _ _ same]
    exact holds
  cases touches with
  | wrote writes _ =>
      cases writes with
      | storeUploads form =>
          rcases isColumn.set_cases
            { known := known, current := current } now with same | same
          · unfold Recoverable
            rw [same]
            exact holds
          · exact .inr same
      | reextract => exact kept rfl
      | updateReview => exact kept rfl
      | officialAction => exact kept rfl
      | replacePhoto => exact kept rfl
      | _ => simp [Task.setsStatus, Operation.setsStatus] at unset
  | reported => exact kept rfl
  | _ => simp [Task.setsStatus, Operation.setsStatus] at unset

theorem Task.resume_recoverable {choice : Choice}
    (resumed : task.resume settings geometry store choice =
      some (after, progress)) (unset : task.setsStatus id = false)
    (before : store.Has id Recoverable) : after.Has id Recoverable := by
  rcases Task.resume_cases resumed with ⟨_, rfl, _⟩ | ⟨_, moves⟩
  · obtain ⟨row, found, holds⟩ := before
    exact ⟨row, by rw [(task.release_sameRows store).1, found], holds⟩
  · exact moves.recoverable unset before

theorem Job.resume_recoverable {job : Job} {choice : Choice}
    {next : Option Job}
    (resumed : job.resume settings geometry store choice =
      some (after, next))
    (unset : ∀ task, job.task = some task → task.setsStatus id = false)
    (before : store.Has id Recoverable) : after.Has id Recoverable := by
  rcases Job.resume_cases resumed with
    ⟨task, _, doing, moved, _⟩ | ⟨rfl, _⟩
  · exact Task.resume_recoverable moved (unset task doing) before
  · exact before

/-- What interrupts a run: an exception, a grievance that is not there, or a
text message without a text. -/
def Task.Interrupted (store : Store) (task : Task) (answer : Answer) : Prop :=
  answer = .raises ∨
    (∃ operation id, task = .opened operation id ∧
      store.grievances.find id = none) ∨
    ∃ id known, task = .loaded .runPipeline id known ∧
      originalText known.issueMessages = none

/-- A run goes on, has its result, or is interrupted and has written
nothing. -/
theorem Task.resume_processes {choice : Choice}
    (processes : task.processes = true)
    (resumed : task.resume settings geometry store choice =
      some (after, progress)) :
    (∃ next, progress = .more next ∧ next.processes = true) ∨
      (∃ result, progress = .processed result) ∨
      progress = .raised ∧ after.grievances = store.grievances ∧
        task.Interrupted store choice.answer := by
  have written : ∀ {id : String} {known : Grievance}
      {fields : Grievance → Grievance}
      {event : Option (GrievanceStatus × Option String)}
      {result : Grievance → PipelineResult},
      store.write id known choice.now fields event
        (fun knows => .processed (result knows)) = some (after, progress) →
      ∃ result, progress = .processed result := by
    intro id known fields event result wrote
    obtain ⟨_, _, rfl⟩ := Store.write_wrote wrote
    exact ⟨_, rfl⟩
  unfold Task.resume at resumed
  split at resumed
  case isTrue raises =>
    cases resumed
    exact .inr (.inr ⟨rfl, (task.release_sameRows store).1, .inl raises⟩)
  case isFalse =>
    split at resumed
    case h_3 operation id answer =>
      unfold Store.load at resumed
      cases found : store.grievances.find id with
      | some row =>
          rw [found] at resumed
          cases resumed
          left
          refine ⟨_, rfl, ?_⟩
          cases operation <;> exact processes
      | none =>
          rw [found] at resumed
          have other : operation ≠ .reextract := by
            rintro rfl
            cases processes
          dsimp only at resumed
          rw [if_neg other] at resumed
          cases resumed
          exact .inr (.inr ⟨rfl, rfl, .inr (.inl ⟨_, _, rfl, found⟩)⟩)
    case h_4 operation id known answer =>
      unfold Operation.run at resumed
      split at resumed
      case h_2 work =>
        unfold Store.runPipeline at resumed
        split at resumed
        case h_1 none =>
          cases resumed
          exact .inr (.inr ⟨rfl, rfl, .inr (.inr ⟨_, _, rfl, none⟩)⟩)
        case h_2 => exact .inr (.inl (written resumed))
      case h_4 proceed check =>
        unfold Store.recheckImage at resumed
        exact .inr (.inl (written resumed))
      case h_13 => cases resumed
      all_goals cases processes
    case h_12 => cases resumed
    all_goals cases processes

end

end JanSetu.Pipeline

namespace JanSetu.Whatsapp

open Pipeline (Geometry Recoverable)
open Process (Label)

/-! ## One active conversation -/

/-- The conversation is an active one of the contact. -/
def Store.ActiveAt (store : Store) (contactId id : String) : Prop :=
  ∃ row, store.conversations.find id = some row ∧
    row.contactId = contactId ∧ row.active = true

def Store.OneActive (store : Store) : Prop :=
  ∀ contactId first second, store.ActiveAt contactId first →
    store.ActiveAt contactId second → first = second

section

variable {settings : Settings} {geometry : Geometry} {store after : Store}
  {choice : Choice}

theorem Store.OneActive.put {id : String} {row : Conversation}
    (one : store.OneActive)
    (conversations : after.conversations = store.conversations.put id row)
    (only : row.active = true → ∀ other,
      store.ActiveAt row.contactId other → other = id) : after.OneActive := by
  have which : ∀ contactId other, after.ActiveAt contactId other →
      other = id ∧ row.contactId = contactId ∧ row.active = true ∨
        other ≠ id ∧ store.ActiveAt contactId other := by
    rintro contactId other ⟨found, stored, own, active⟩
    rw [conversations, Table.find_put] at stored
    split at stored
    case isTrue same =>
      cases stored
      exact .inl ⟨same, own, active⟩
    case isFalse different => exact .inr ⟨different, found, stored, own, active⟩
  intro contactId first second firstActive secondActive
  rcases which contactId first firstActive with
    ⟨rfl, rfl, active⟩ | ⟨differs, before⟩
  · rcases which _ second secondActive with ⟨rfl, _, _⟩ | ⟨_, later⟩
    · rfl
    · exact (only active second later).symm
  · rcases which contactId second secondActive with
      ⟨rfl, rfl, active⟩ | ⟨_, later⟩
    · exact only active first before
    · exact one contactId first second before later

theorem Store.OneActive.of_same (one : store.OneActive)
    (same : after.conversations = store.conversations) : after.OneActive := by
  intro contactId first second
  unfold Store.ActiveAt
  rw [same]
  exact one contactId first second

theorem Store.activeAt_of_active {contactId id : String}
    {conversation : Conversation}
    (active : store.activeConversation contactId =
      some (id, conversation)) : store.ActiveAt contactId id :=
  ⟨conversation, Store.activeConversation_eq active⟩

theorem Store.Locks.oneActive {contactId : String} {now : Time}
    {found : Option (String × Conversation)}
    (locks : store.Locks contactId now after found)
    (one : store.OneActive) : after.OneActive := by
  cases locks with
  | free => exact one
  | found => exact one
  | expired => exact one.put rfl fun active => by cases active

/-- A contact for whom the lock finds nothing has no active conversation
then. -/
theorem Store.Locks.inactive {contactId : String} {now : Time}
    (locks : store.Locks contactId now after none) (one : store.OneActive)
    (id : String) : ¬ after.ActiveAt contactId id := by
  rintro ⟨row, stored, own, active⟩
  generalize none : (none : Option (String × Conversation)) = found at locks
  cases locks with
  | free free =>
      have idle := Store.activeConversation_none free stored own
      rw [active] at idle
      cases idle
  | @expired expired _ was _ =>
      unfold Store.putConversation at stored
      rw [Table.find_put] at stored
      split at stored
      case isTrue =>
        cases stored
        cases active
      case isFalse different =>
        exact different (one contactId id expired ⟨row, stored, own, active⟩
          (Store.activeAt_of_active was))
  | found => cases none

theorem Store.Handles.oneActive {incoming : IncomingWhatsAppMessage}
    {geocode : Option ReverseGeocode} {inputs : HandleInputs} {now : Time}
    {handled : Handled}
    (handles : store.Handles settings incoming geocode inputs now after
      handled) (one : store.OneActive) : after.OneActive := by
  cases handles with
  | @answered locked _ _ _ locks =>
      have before : locked.OneActive := by
        rcases locks with rfl | locks
        · exact one
        · exact locks.oneActive one
      rw [Store.answer_eq]
      exact before.of_same rfl
  | @advanced locked acted found id row result context locks advanced fresh
      upserts acts =>
      have before : locked.OneActive := locks.oneActive one
      have few := (advance_prompts advanced).atMostOne
      obtain ⟨_, shape, _⟩ := acted.finishTurn_eq incoming id row
        (found.map (·.2.state)) result context few
      rw [acts.conversations] at shape
      rw [shape]
      refine before.put rfl fun _ other activeOther => ?_
      cases found with
      | none =>
          cases upserts
          exact absurd activeOther (locks.inactive one other)
      | some entry =>
          obtain ⟨_, stored⟩ := entry
          cases locks with
          | found active _ =>
              cases upserts
              have at_ := Store.activeAt_of_active active
              obtain ⟨_, own, _⟩ := Store.activeConversation_eq active
              exact one _ other _ activeOther (own ▸ at_)

theorem Followup.Moves.oneActive {followup : Followup}
    {progress : Progress FollowupStage}
    (moves : followup.Moves settings geometry store choice after progress)
    (one : store.OneActive) : after.OneActive := by
  cases moves with
  | sent _ _ locks _ _ =>
      obtain ⟨active, _⟩ := locks.current
      refine one.put rfl fun _ other activeOther => ?_
      have at_ := Store.activeAt_of_active active
      obtain ⟨_, own, _⟩ := Store.activeConversation_eq active
      exact one _ other _ activeOther (own ▸ at_)
  | _ => exact one.of_same rfl

theorem Task.resume_oneActive {task : Task} {next : Option Task}
    (resumed : task.resume settings geometry store choice =
      some (after, next)) (one : store.OneActive) : after.OneActive := by
  cases Task.resume_steps resumed with
  | handled moves =>
      cases moves with
      | committed handles => exact handles.oneActive (one.of_same rfl)
      | followed moves => exact moves.oneActive one
      | _ => exact one.of_same rfl
  | recovered moves => exact moves.oneActive one
  | _ => exact one.of_same rfl

end

/-! ## What is stranded, and who carries it -/

/-- An active conversation in `processing` whose grievance the sweep does not
select. -/
structure Store.Strands (store : Store) (id : String) (row : Conversation) :
    Prop where
  found : store.conversations.find id = some row
  active : row.active = true
  state : row.state = .processing
  unselected : ∀ grievanceId,
    row.context.draft.grievanceId = some grievanceId →
    ¬ store.pipeline.Has grievanceId Recoverable

def Store.Stranded (store : Store) (contactId : String) : Prop :=
  ∃ id row, store.Strands id row ∧ row.contactId = contactId

/-- The follow-up will bring the contact's conversation out of
`processing`. -/
def Followup.Carries (followup : Followup) (contactId : String) : Prop :=
  followup.waId = contactId ∧
    ((∃ action task, followup.stage = .running action task ∧
      task.processes = true) ∨
    ∃ result, followup.stage = .sending result)

/-- The follow-up that a process is at or comes to next. -/
def Task.underway : Task → Option Followup
  | .handling _ _ (.posting followup) _ _ => followup
  | .handling _ _ (.following followup) _ _ => some followup
  | .recovering followup _ => some followup
  | _ => none

def Task.Carries (task : Task) (contactId : String) : Prop :=
  ∃ followup, task.underway = some followup ∧ followup.Carries contactId

def Followup.run (followup : Followup) : Option Pipeline.Task :=
  match followup.stage with
  | .running _ task => some task
  | _ => none

/-- The operation of the pipeline that a process is in. -/
def Task.run : Task → Option Pipeline.Task
  | .web job => job.task
  | task => task.followup.bind Followup.run

/-- What ends a follow-up before its message is stored: an exception, or a
conversation that has expired. -/
def Followup.Interrupted (store : Store) (followup : Followup)
    (choice : Choice) : Prop :=
  choice.answer = .raises ∨
    (∃ action task answer, followup.stage = .running action task ∧
      choice.answer = .pipeline answer ∧
      task.Interrupted store.pipeline answer) ∨
    ∃ result, followup.stage = .sending result ∧
      (store.pipeline.grievances.find followup.grievanceId = none ∨
        ∃ id conversation,
          store.activeConversation followup.waId = some (id, conversation) ∧
          conversation.expiresAt.any (· < choice.now) = true)

/-- The next step of the process takes the conversation's grievance out of
what the sweep selects. -/
structure Task.Withdraws (store : Store) (task : Task) (id : String)
    (row : Conversation) : Prop where
  found : store.conversations.find id = some row
  active : row.active = true
  state : row.state = .processing
  sets : ∃ run grievanceId, task.run = some run ∧
    row.context.draft.grievanceId = some grievanceId ∧
    store.pipeline.Has grievanceId Recoverable ∧
    run.setsStatus grievanceId = true

section

variable {settings : Settings} {geometry : Geometry} {store after : Store}
  {choice : Choice} {id : String} {row : Conversation}

/-- Nothing has become less recoverable, and the conversation was there. -/
theorem Store.Strands.back (due : after.Strands id row)
    (found : store.conversations.find id = some row)
    (kept : ∀ grievanceId, store.pipeline.Has grievanceId Recoverable →
      after.pipeline.Has grievanceId Recoverable) : store.Strands id row :=
  ⟨found, due.active, due.state, fun grievanceId draft has =>
    due.unselected grievanceId draft (kept grievanceId has)⟩

theorem Store.Strands.of_same (due : after.Strands id row)
    (conversations : after.conversations = store.conversations)
    (grievances : after.pipeline.grievances = store.pipeline.grievances) :
    store.Strands id row := by
  refine due.back (conversations ▸ due.found) ?_
  rintro grievanceId ⟨found, stored, holds⟩
  exact ⟨found, by rw [grievances, stored], holds⟩

/-! ## Follow-ups -/

theorem FollowupStage.next_carries {followup : Followup}
    {action : Action} {contactId : String} {progress : Pipeline.Progress}
    (own : followup.waId = contactId)
    (goesOn : (∃ next, progress = .more next ∧ next.processes = true) ∨
      ∃ result, progress = .processed result) :
    ∃ stage, FollowupStage.next followup.grievanceId action progress =
        .more stage ∧
      Followup.Carries { followup with stage := stage } contactId := by
  rcases goesOn with ⟨next, rfl, processes⟩ | ⟨result, rfl⟩
  · exact ⟨_, rfl, own, .inl ⟨action, next, rfl, processes⟩⟩
  · exact ⟨_, rfl, own, .inr ⟨result, rfl⟩⟩

/-- A step of a follow-up after which a conversation is stranded. -/
theorem Followup.Moves.strands {followup : Followup}
    {progress : Progress FollowupStage} (one : store.OneActive)
    (moves : followup.Moves settings geometry store choice after progress)
    (due : after.Strands id row) :
    (∃ stage, progress = .more stage ∧
      Followup.Carries { followup with stage := stage } row.contactId) ∨
    (store.Strands id row ∧
      (followup.Carries row.contactId →
        followup.Interrupted store choice)) ∨
    (¬ followup.Carries row.contactId ∧
      store.conversations.find id = some row ∧
      ∃ run grievanceId, followup.run = some run ∧
        row.context.draft.grievanceId = some grievanceId ∧
        store.pipeline.Has grievanceId Recoverable ∧
        run.setsStatus grievanceId = true) := by
  cases moves with
  | @ran action task answer pipeline moved stage given ran =>
      by_cases carries : followup.Carries row.contactId
      · have processes : task.processes = true := by
          rcases carries.2 with ⟨_, _, same, processes⟩ | ⟨_, same⟩
          · rw [stage] at same
            cases same
            exact processes
          · rw [stage] at same
            cases same
        rcases Pipeline.Task.resume_processes processes ran with
          more | result | ⟨_, grievances, interrupted⟩
        · exact .inl (FollowupStage.next_carries carries.1 (.inl more))
        · exact .inl (FollowupStage.next_carries carries.1 (.inr result))
        · refine .inr (.inl ⟨due.of_same rfl grievances, fun _ => ?_⟩)
          exact .inr (.inl ⟨action, task, answer, stage, given, interrupted⟩)
      · by_cases sets : ∃ grievanceId,
            row.context.draft.grievanceId = some grievanceId ∧
            store.pipeline.Has grievanceId Recoverable ∧
            task.setsStatus grievanceId = true
        · obtain ⟨grievanceId, draft, has, sets⟩ := sets
          refine .inr (.inr ⟨carries, due.found, task, grievanceId, ?_, draft,
            has, sets⟩)
          rw [Followup.run, stage]
        · refine .inr (.inl ⟨⟨due.found, due.active, due.state, ?_⟩,
            fun own => absurd own carries⟩)
          intro grievanceId draft has
          have unset : task.setsStatus grievanceId = false := by
            by_contra other
            rw [Bool.not_eq_false] at other
            exact sets ⟨grievanceId, draft, has, other⟩
          exact due.unselected grievanceId draft
            (Pipeline.Task.resume_recoverable ran unset has)
  | @unsent result locked stage locks =>
      refine .inr (.inl ⟨due, fun carries => .inr (.inr ⟨result, stage, ?_⟩)⟩)
      generalize none : (none : Option (String × Conversation)) = nothing
        at locks
      cases locks with
      | free free =>
          have idle := Store.activeConversation_none free due.found
            carries.1.symm
          rw [due.active] at idle
          cases idle
      | expired active expired => exact .inr ⟨_, _, active, expired⟩
      | found => cases none
  | @sent result other conversation _ _ _ _ stage _ locks _ _ =>
      obtain ⟨active, _⟩ := locks.current
      have found := due.found
      simp only [Store.putConversation] at found
      rw [Table.find_put] at found
      split at found
      case isTrue =>
        cases found
        have state : followupState result = .processing := due.state
        unfold followupState at state
        split at state <;> cases state
      case isFalse different =>
        refine .inr (.inl ⟨⟨found, due.active, due.state, due.unselected⟩,
          fun carries => ?_⟩)
        have at_ := Store.activeAt_of_active active
        exact absurd (one row.contactId id other
          ⟨row, found, rfl, due.active⟩ (carries.1 ▸ at_)) different
  | replied stage _ =>
      refine .inr (.inl ⟨due.of_same rfl rfl, fun carries => ?_⟩)
      rcases carries.2 with ⟨_, _, same, _⟩ | ⟨_, same⟩ <;>
        rw [stage] at same <;> cases same
  | posted stage =>
      refine .inr (.inl ⟨due, fun carries => ?_⟩)
      rcases carries.2 with ⟨_, _, same, _⟩ | ⟨_, same⟩ <;>
        rw [stage] at same <;> cases same
  | raised why =>
      refine .inr (.inl ⟨due, fun _ => ?_⟩)
      rcases why with raises | ⟨result, stage, missing⟩
      · exact .inl raises
      · exact .inr (.inr ⟨result, stage, .inl missing⟩)

/-! ## Messages -/

/-- The actions whose follow-up ends in a message about the pipeline's
result. -/
def Action.notifies : Action → Bool
  | .startPipeline => true
  | .recheckPhoto => true
  | .proceedWithoutPhoto => true
  | _ => false

/-- `processing` is entered with such an action, and is otherwise left to the
follow-up. -/
theorem Turn.processing {inbound : IncomingWhatsAppMessage}
    {geocode : Option ReverseGeocode} {now : Time}
    {state : Option ConversationState} {context next : Context}
    {reached : ConversationState} {action : Option Action}
    (turn : Turn inbound geocode now state context reached next action)
    (processing : reached = .processing) :
    (∃ asked, action = some asked ∧ asked.notifies = true) ∨
      state = some .processing ∧ next = context ∧ action = none := by
  cases turn with
  | photoShared => exact .inl ⟨_, rfl, rfl⟩
  | photoSkipped => exact .inl ⟨_, rfl, rfl⟩
  | photoReplaced => exact .inl ⟨_, rfl, rfl⟩
  | photoWaived => exact .inl ⟨_, rfl, rfl⟩
  | stayed => exact .inr ⟨by rw [processing], rfl, rfl⟩
  | _ => cases processing

theorem Followup.start_carries {waId grievanceId : String}
    {action : Action} (notifies : action.notifies = true) :
    (Followup.start waId grievanceId action).Carries waId := by
  refine ⟨rfl, .inl ⟨action, Followup.task grievanceId action, rfl, ?_⟩⟩
  cases action with
  | startPipeline => rfl
  | recheckPhoto => rfl
  | proceedWithoutPhoto => rfl
  | finalize => cases notifies
  | cancel => cases notifies

theorem Store.Acts.recoverable {incoming : IncomingWhatsAppMessage}
    {conversationId grievanceId : String} {result : FsmResult}
    {inputs : HandleInputs} {now : Time} {context : Context}
    (acts : store.Acts incoming conversationId result inputs now after
      context)
    (has : store.pipeline.Has grievanceId Recoverable) :
    after.pipeline.Has grievanceId Recoverable := by
  have same : after.pipeline.grievances = store.pipeline.grievances →
      after.pipeline.Has grievanceId Recoverable := by
    intro same
    obtain ⟨row, found, holds⟩ := has
    exact ⟨row, by rw [same, found], holds⟩
  cases acts with
  | drafted _ _ absent _ grievances _ =>
      obtain ⟨row, found, holds⟩ := has
      refine ⟨row, ?_, holds⟩
      rw [grievances, Table.find_put_of_ne, found]
      rintro rfl
      rw [absent] at found
      cases found
  | redrafted _ _ grievances _ => exact same grievances
  | rephotographed _ _ wrote _ =>
      refine wrote.has ?_ has
      intro _ holds
      unfold Recoverable
      rw [RowSession.status_isColumn.set_same]
      · exact holds
      · rfl
  | nothing => exact same rfl

theorem Store.Locks.strands {contactId : String} {now : Time}
    {found : Option (String × Conversation)}
    (locks : store.Locks contactId now after found)
    (due : after.Strands id row) : store.Strands id row := by
  cases locks with
  | free => exact due
  | found => exact due
  | expired =>
      refine due.back ?_ fun _ has => has
      have stored := due.found
      simp only [Store.putConversation] at stored
      rw [Table.find_put] at stored
      split at stored
      case isTrue =>
        cases stored
        cases due.active
      case isFalse => exact stored

/-- A message after which a conversation is stranded. -/
theorem Store.Handles.strands {incoming : IncomingWhatsAppMessage}
    {geocode : Option ReverseGeocode} {inputs : HandleInputs} {now : Time}
    {handled : Handled}
    (handles : store.Handles settings incoming geocode inputs now after
      handled) (due : after.Strands id row) :
    store.Stranded row.contactId ∨
      ∃ followup, handledFollowup incoming handled = some followup ∧
        followup.Carries row.contactId := by
  cases handles with
  | @answered locked _ _ _ locks =>
      rw [Store.answer_eq] at due
      have before : locked.Strands id row := due.of_same rfl rfl
      rcases locks with rfl | locks
      · exact .inl ⟨id, row, before, rfl⟩
      · exact .inl ⟨id, row, locks.strands before, rfl⟩
  | @advanced locked acted found written upserted result context locks
      advanced fresh upserts acts =>
      have few := (advance_prompts advanced).atMostOne
      obtain ⟨turn, _⟩ := advance_turn advanced
      obtain ⟨_, shape, _⟩ := acted.finishTurn_eq incoming written upserted
        (found.map (·.2.state)) result context few
      rw [acts.conversations] at shape
      rw [shape] at due
      have stored := due.found
      rw [Table.find_put] at stored
      split at stored
      case isFalse =>
        have unwritten : locked.Strands id row :=
          due.back stored fun _ has => acts.recoverable has
        exact .inl ⟨id, row, locks.strands unwritten, rfl⟩
      case isTrue same =>
        cases stored
        subst same
        -- The conversation is the one of the message.
        have reached : result.state = .processing ∧
            upserted.contactId = incoming.waId := by
          cases found with
          | none =>
              cases upserts
              exact ⟨due.state, rfl⟩
          | some entry =>
              obtain ⟨active, _⟩ := locks.current
              obtain ⟨_, own, _⟩ := Store.activeConversation_eq active
              cases upserts
              exact ⟨due.state, own⟩
        rcases turn.processing reached.1 with
          ⟨asked, action, notifies⟩ | ⟨before, kept, silent⟩
        · right
          refine ⟨.start incoming.waId
            (formatted context.draft.grievanceId) asked, ?_, ?_⟩
          · rw [action]
            rfl
          · show Followup.Carries _ upserted.contactId
            rw [reached.2]
            exact Followup.start_carries notifies
        · left
          cases found with
          | none => cases before
          | some entry =>
              obtain ⟨_, stays⟩ := entry
              obtain ⟨active, _⟩ := locks.current
              obtain ⟨found, own, activeBefore⟩ :=
                Store.activeConversation_eq active
              refine ⟨id, stays, ⟨?_, activeBefore, ?_, ?_⟩, ?_⟩
              · cases upserts
                exact found
              · exact Option.some.inj before
              · intro grievanceId draft has
                have unstarted : context = result.context := by
                  rcases acts.context with ⟨_, starts, _⟩ | ⟨_, same, _⟩
                  · rw [silent] at starts
                    cases starts
                  · exact same
                have same : context.draft.grievanceId = some grievanceId := by
                  rw [unstarted, kept]
                  exact draft
                exact due.unselected grievanceId same
                  (acts.recoverable (locks.pipeline ▸ has))
              · rw [own]
                exact reached.2.symm

/-! ## Processes -/

theorem Task.ofInbound_carries {eventId : String}
    {incoming : IncomingWhatsAppMessage}
    {rest : List IncomingWhatsAppMessage} {allOk : Bool}
    {followup : Followup} {contactId : String}
    {progress : Progress InboundStage}
    (further : progress = .more (.posting (some followup)) ∨
      progress = .more (.following followup))
    (carries : followup.Carries contactId) :
    ∃ process, Task.ofInbound eventId incoming rest allOk progress =
      some process ∧ process.Carries contactId := by
  rcases further with rfl | rfl
  · exact ⟨_, rfl, followup, rfl, carries⟩
  · exact ⟨_, rfl, followup, rfl, carries⟩

/-- A step of a process after which a conversation is stranded. -/
theorem Task.resume_strands {task : Task} {next : Option Task}
    (one : store.OneActive)
    (resumed : task.resume settings geometry store choice =
      some (after, next)) (due : after.Strands id row) :
    (∃ process, next = some process ∧ process.Carries row.contactId) ∨
    (store.Stranded row.contactId ∧
      ∀ followup, task.underway = some followup →
        followup.Carries row.contactId →
        followup.Interrupted store choice) ∨
    (¬ task.Carries row.contactId ∧ task.Withdraws store id row) := by
  have idle : task.underway = none → store.Strands id row →
      store.Stranded row.contactId ∧
        ∀ followup, task.underway = some followup →
          followup.Carries row.contactId →
          followup.Interrupted store choice := by
    intro none before
    refine ⟨⟨id, row, before, rfl⟩, fun followup underway => ?_⟩
    rw [none] at underway
    cases underway
  cases Task.resume_steps resumed with
  | @handled eventId incoming stage rest allOk _ progress moves =>
      cases moves with
      | geocoded => exact .inr (.inl (idle rfl due))
      | consumed => exact .inr (.inl (idle rfl due))
      | claimed => exact .inr (.inl (idle rfl (due.of_same rfl rfl)))
      | rolledBack => exact .inr (.inl (idle rfl (due.of_same rfl rfl)))
      | committed handles =>
          rcases handles.strands due with
            ⟨id, row, before, own⟩ | ⟨followup, same, carries⟩
          · refine .inr (.inl ⟨?_, fun _ underway => by cases underway⟩)
            have unmoved : store.Strands id row := before.of_same rfl rfl
            exact ⟨id, row, unmoved, own⟩
          · left
            rw [same]
            exact Task.ofInbound_carries (.inl rfl) carries
      | @posted followup =>
          cases followup with
          | none => exact .inr (.inl (idle rfl due))
          | some followup =>
              by_cases carries : followup.Carries row.contactId
              · left
                exact Task.ofInbound_carries (.inr rfl) carries
              · refine .inr (.inl ⟨⟨id, row, due, rfl⟩, ?_⟩)
                intro other underway own
                cases underway
                exact absurd own carries
      | @followed followup _ moved moves =>
          rcases moves.strands one due with
            ⟨stage, rfl, carries⟩ | ⟨before, dropped⟩ |
            ⟨other, found, run, grievanceId, doing, draft, has, sets⟩
          · exact .inl (Task.ofInbound_carries (.inr rfl) carries)
          · refine .inr (.inl ⟨⟨id, row, before, rfl⟩, ?_⟩)
            intro underway same own
            cases same
            exact dropped own
          · refine .inr (.inr ⟨?_, found, due.active, due.state, run,
              grievanceId, doing, draft, has, sets⟩)
            rintro ⟨_, same, own⟩
            cases same
            exact other own
      | raised which raises =>
          refine .inr (.inl ⟨⟨id, row, due, rfl⟩, ?_⟩)
          intro followup underway _
          exact .inl raises
  | @recovered followup rest _ moved moves =>
      rcases moves.strands one due with
        ⟨stage, rfl, carries⟩ | ⟨before, dropped⟩ |
        ⟨other, found, run, grievanceId, doing, draft, has, sets⟩
      · exact .inl ⟨_, rfl, _, rfl, carries⟩
      · refine .inr (.inl ⟨⟨id, row, before, rfl⟩, ?_⟩)
        intro underway same own
        cases same
        exact dropped own
      · refine .inr (.inr ⟨?_, found, due.active, due.state, run,
          grievanceId, doing, draft, has, sets⟩)
        rintro ⟨_, same, own⟩
        cases same
        exact other own
  | @web job _ pipeline _ moved =>
      by_cases sets : ∃ run grievanceId, job.task = some run ∧
          row.context.draft.grievanceId = some grievanceId ∧
          store.pipeline.Has grievanceId Recoverable ∧
          run.setsStatus grievanceId = true
      · refine .inr (.inr ⟨?_, due.found, due.active, due.state, sets⟩)
        rintro ⟨_, same, _⟩
        cases same
      · refine .inr (.inl (idle rfl ⟨due.found, due.active, due.state, ?_⟩))
        intro grievanceId draft has
        refine due.unselected grievanceId draft
          (Pipeline.Job.resume_recoverable moved ?_ has)
        intro run doing
        by_contra other
        rw [Bool.not_eq_false] at other
        exact sets ⟨run, grievanceId, doing, draft, has, other⟩
  | kept _ _ _ unhandled unrecovering =>
      refine .inr (.inl (idle ?_ (due.of_same rfl rfl)))
      cases task with
      | handling => exact absurd rfl (unhandled _ _ _ _ _)
      | recovering => exact absurd rfl (unrecovering _ _)
      | _ => rfl

end

/-! ## Runs -/

/-- No follow-up ends while the contact's conversation needs it, and no other
operation takes the grievance of a conversation in `processing` from the sweep;
either may happen while another follow-up for the contact is under way. -/
structure CarriesOn (world : World Store Task) (label : Label Request Choice) :
    Prop where
  crashes : ∀ pid task contactId, label = .crash pid →
    world.Running pid task → task.Carries contactId →
    world.shared.Stranded contactId →
    Process.CarriedByOther Task.Carries world pid contactId
  goesOn : ∀ pid choice task followup contactId,
    label = .resume pid choice → world.Running pid task →
    task.underway = some followup → followup.Carries contactId →
    world.shared.Stranded contactId →
    followup.Interrupted world.shared choice →
    Process.CarriedByOther Task.Carries world pid contactId
  leaves : ∀ pid choice task id row, label = .resume pid choice →
    world.Running pid task → task.Withdraws world.shared id row →
    task.Carries row.contactId ∨
      Process.CarriedByOther Task.Carries world pid row.contactId

def OneActiveEach (world : World Store Task) : Prop :=
  world.shared.OneActive

section

variable {settings : Settings} {geometry : Geometry}
  {world : World Store Task}

theorem oneActiveEach
    (reachable : (program settings geometry).system.ReachableWhen CarriesOn
      world) : OneActiveEach world := by
  refine reachable.invariant ?_ ?_
  · rintro _ ⟨store, initial, rfl⟩
    rintro contactId first _ ⟨row, found, _⟩
    have noConversation : store.conversations = Table.empty :=
      initial.conversations
    have stored : store.conversations.find first = some row := found
    rw [noConversation, Table.find_empty] at stored
    cases stored
  · intro world label next _ one _ taken
    have stepped : (program settings geometry).step world label =
        some next := taken
    rcases Process.Program.step_cases stepped with
      ⟨_, _, _, _, rfl⟩ |
      ⟨_, _, task, store, _, _, _, resumed, rfl⟩ |
      ⟨_, task, _, _, rfl⟩
    · exact one
    · exact Task.resume_oneActive resumed one
    · obtain ⟨_, _, _, shape, _⟩ := task.release_eq world.shared
      have released : (task.release world.shared).OneActive := by
        rw [shape]
        exact one.of_same rfl
      exact released

theorem stranded_carried
    (reachable : (program settings geometry).system.ReachableWhen CarriesOn
      world) :
    Process.Carried Store.Stranded Task.Carries world := by
  refine Process.due_carried ?initially ?resumed ?crashed reachable
  case initially =>
    rintro store initial contactId ⟨id, row, strands, _⟩
    have noConversation : store.conversations = Table.empty :=
      initial.conversations
    have found := strands.found
    rw [noConversation, Table.find_empty] at found
    cases found
  case resumed =>
    rintro world pid choice task store next _ reached permitted running
      resumed ⟨id, row, due, rfl⟩
    rcases Task.resume_strands (oneActiveEach reached) resumed due with
      carried | ⟨before, dropped⟩ | ⟨idle, withdraws⟩
    · exact .inl carried
    · by_cases carries : task.Carries row.contactId
      · obtain ⟨followup, underway, own⟩ := carries
        exact .inr (.inl (permitted.goesOn pid choice task followup _ rfl
          running underway own before (dropped followup underway own)))
      · exact .inr (.inr ⟨before, carries⟩)
    · rcases permitted.leaves pid choice task id row rfl running withdraws
        with carries | other
      · exact absurd carries idle
      · exact .inr (.inl other)
  case crashed =>
    rintro world pid task _ _ permitted running ⟨id, row, due, rfl⟩
    obtain ⟨_, _, _, shape, same⟩ := task.release_eq world.shared
    have released : (task.release world.shared).Strands id row := due
    rw [shape] at released
    have before : world.shared.Strands id row := released.of_same rfl same
    have stranded : world.shared.Stranded row.contactId :=
      ⟨id, row, before, rfl⟩
    exact ⟨stranded, fun carries =>
      permitted.crashes pid task _ rfl running carries stranded⟩

/-- When no step is in progress, every active conversation in `processing` has
a grievance that the sweep selects. -/
theorem no_conversation_stranded
    (reachable : (program settings geometry).system.ReachableWhen CarriesOn
      world) (quiet : world.Quiet) {id : String} {row : Conversation}
    (found : world.shared.conversations.find id = some row)
    (active : row.active = true) (processing : row.state = .processing) :
    ∃ grievanceId, row.context.draft.grievanceId = some grievanceId ∧
      world.shared.pipeline.Has grievanceId
        fun grievance => grievance.status = .draft ∨
          grievance.status = .processing := by
  by_contra none
  have strands : world.shared.Strands id row := by
    refine ⟨found, active, processing, ?_⟩
    intro grievanceId draft has
    exact none ⟨grievanceId, draft, has⟩
  exact (stranded_carried reachable).none_due quiet row.contactId
    ⟨id, row, strands, rfl⟩

end

/-! ## A pipeline that raises, and a message that does -/

/-- The grievance of the conversation is selected by the sweep. -/
def Store.selects (store : Store) (conversation : Conversation) : Bool :=
  conversation.context.draft.grievanceId.any fun grievanceId =>
    (store.pipeline.grievances.find grievanceId).any fun row =>
      row.status = .draft ∨ row.status = .processing

/-- `CarriesOn` for a process that is alone, as long as nothing is stranded and
no run of the pipeline has loaded its grievance. -/
def carriesOn (store : Store) (task : Task) (_ : Choice) : Bool :=
  (store.conversations.rows.entries.all fun entry =>
    !entry.2.active || entry.2.state ≠ .processing ||
      store.selects entry.2) &&
  task.run.all fun run =>
    match run with
    | .opened _ _ => true
    | _ => false

theorem not_stranded_of_selects {store : Store} {contactId : String}
    (all : (store.conversations.rows.entries.all fun entry =>
      !entry.2.active || entry.2.state ≠ .processing ||
        store.selects entry.2) = true) : ¬ store.Stranded contactId := by
  rintro ⟨id, row, strands, _⟩
  have passes := List.all_eq_true.mp all ⟨id, row⟩
    (Table.mem_entries_iff.mpr strands.found)
  simp only [strands.active, strands.state, Bool.not_true, Bool.false_or,
    ne_eq, not_true_eq_false, decide_false] at passes
  obtain ⟨grievanceId, draft, found⟩ := (Option.any_eq_true _ _).mp passes
  obtain ⟨grievance, stored, status⟩ := (Option.any_eq_true _ _).mp found
  have recoverable : grievance.status = .draft ∨
      grievance.status = .processing := of_decide_eq_true status
  exact strands.unselected grievanceId draft
    ⟨grievance, stored, recoverable⟩

theorem carriesOn_of_alone {world : World Store Task} {task : Task}
    {choice : Choice} (only : Process.OnlyRunning world 0 (some task))
    (test : carriesOn world.shared task choice = true) :
    CarriesOn world (.resume 0 choice) := by
  obtain ⟨selects, opened⟩ := Bool.and_eq_true_iff.mp test
  constructor
  · intro pid found contactId same
    cases same
  · intro pid again found followup contactId _ _ _ _ stranded
    exact absurd stranded (not_stranded_of_selects selects)
  · intro pid again found id row same running withdraws
    cases same
    obtain ⟨-, rfl⟩ := only.eq_of_running running
    obtain ⟨run, grievanceId, doing, _, _, sets⟩ := withdraws.sets
    rw [doing, Option.all_some] at opened
    cases run with
    | opened => cases sets
    | _ => cases opened

theorem carriesOn_spawn (world : World Store Task) (request : Request) :
    CarriesOn world (.spawn 0 request) := by
  constructor
  · intro pid task contactId same
    cases same
  · intro pid choice task followup contactId same
    cases same
  · intro pid choice task id row same
    cases same

/-- The first run of the pipeline raises: the conversation stays in
`processing`, and its grievance is still a draft. -/
theorem no_conversation_stranded_raised :
    ∃ world row, (program repliesOn Pipeline.flatMap).system.ReachableWhen
        CarriesOn world ∧ world.Quiet ∧
      world.shared.conversations.find "c1" = some row ∧
      row.active = true ∧ row.state = .processing ∧
      ∃ grievanceId, row.context.draft.grievanceId = some grievanceId ∧
        world.shared.pipeline.Has grievanceId
          fun grievance => grievance.status = .draft ∨
            grievance.status = .processing := by
  have ran : ((program repliesOn Pipeline.flatMap).serial carriesOn
      (.ofEvents [("e1", sampleComplaint)] [])
      [(.driveEvent "e1", sampleDrive ++
        [⟨0, .pipeline .raises⟩, ⟨0, .plain⟩])]).map
      (fun store => (store.conversations.find "c1").map
        fun row => (row.active, row.state)) =
      some (some (true, .processing)) := by
    decide +kernel
  have initial : (program repliesOn Pipeline.flatMap).initial
      (.ofEvents [("e1", sampleComplaint)] []) :=
    Store.ofEvents_initial (by simp)
  obtain ⟨world, reachable, quiet, observed⟩ :=
    Process.Program.reachable_serial initial
      (fun world request _ _ => carriesOn_spawn world request)
      (fun _ _ _ => carriesOn_of_alone) ran
  obtain ⟨row, found, same⟩ := Option.map_eq_some_iff.mp observed
  simp only [Prod.mk.injEq] at same
  obtain ⟨active, processing⟩ := same
  exact ⟨world, row, reachable, quiet, found, active, processing,
    no_conversation_stranded reachable quiet found active processing⟩

/-- The pipeline has committed, and the transaction of its message raises. -/
theorem conversation_stranded :
    ∃ world row, (program repliesOn Pipeline.flatMap).system.Reachable
        world ∧ world.Quiet ∧
      world.shared.conversations.find "c1" = some row ∧
      row.active = true ∧ row.state = .processing ∧
      row.context.draft.grievanceId = some "g1" ∧
      world.shared.pipeline.statusOf "g1" = some .awaitingConfirmation := by
  have ran : ((program repliesOn Pipeline.flatMap).serial
      (fun _ _ _ => true) (.ofEvents [("e1", sampleComplaint)] [])
      [(.driveEvent "e1", sampleDrive ++
        [⟨0, .pipeline .plain⟩,
         ⟨0, .pipeline (.work Pipeline.streetlightWork)⟩,
         ⟨0, .raises⟩])]).map
      (fun store => (((store.conversations.find "c1").map
        fun row => (row.active, row.state, row.context.draft.grievanceId)),
        store.pipeline.statusOf "g1")) =
      some (some (true, .processing, some "g1"),
        some .awaitingConfirmation) := by
    decide +kernel
  have initial : (program repliesOn Pipeline.flatMap).initial
      (.ofEvents [("e1", sampleComplaint)] []) :=
    Store.ofEvents_initial (by simp)
  obtain ⟨world, reachable, quiet, observed⟩ :=
    Process.Program.reachable_served initial ran
  simp only [Prod.mk.injEq] at observed
  obtain ⟨conversation, status⟩ := observed
  obtain ⟨row, found, same⟩ := Option.map_eq_some_iff.mp conversation
  simp only [Prod.mk.injEq] at same
  obtain ⟨active, processing, draft⟩ := same
  exact ⟨world, row, reachable, quiet, found, active, processing, draft,
    status⟩

end JanSetu.Whatsapp
