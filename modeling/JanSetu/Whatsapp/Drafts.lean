import JanSetu.Whatsapp.Moves

/-!
# Drafts of a conversation

A grievance keeps the conversation it was drafted for, and a conversation gets
a draft only while it has none.
-/

namespace JanSetu.Whatsapp

open Pipeline (Geometry)

/-- What a step does about the grievances of conversations. -/
inductive Store.Drafts (store after : Store) : Prop where
  | same :
      store.pipeline.SameConversations after.pipeline →
      Drafts store after
  | drafted {conversationId grievanceId : String} {row : Grievance} :
      store.grievanceOf conversationId = none →
      store.pipeline.grievances.find grievanceId = none →
      after.pipeline.grievances =
        store.pipeline.grievances.put grievanceId row →
      row.conversationId = some conversationId →
      Drafts store after

/-- At most one grievance for a conversation. -/
def Store.OneDraft (store : Store) : Prop :=
  ∀ conversationId first second,
    store.pipeline.Has first (·.conversationId = some conversationId) →
    store.pipeline.Has second (·.conversationId = some conversationId) →
    first = second

section

variable {settings : Settings} {geometry : Geometry} {store after : Store}
  {choice : Choice}

theorem Store.grievanceOf_none {conversationId : String}
    (none : store.grievanceOf conversationId = none) (id : String) :
    ¬ store.pipeline.Has id (·.conversationId = some conversationId) := by
  rintro ⟨row, found, own⟩
  have refused := Table.first_eq_none none found
  simp [own] at refused

theorem Store.grievanceOf_some {conversationId id : String}
    {row : Grievance}
    (found : store.grievanceOf conversationId = some (id, row)) :
    store.pipeline.Has id (·.conversationId = some conversationId) := by
  obtain ⟨stored, passes⟩ := Table.first_eq_some found
  exact ⟨row, stored, by simpa using passes⟩

theorem Store.Drafts.oneDraft (drafts : store.Drafts after)
    (one : store.OneDraft) : after.OneDraft := by
  intro conversationId first second hasFirst hasSecond
  cases drafts with
  | same same =>
      obtain ⟨_, foundFirst, ownFirst⟩ := hasFirst
      obtain ⟨_, foundSecond, ownSecond⟩ := hasSecond
      exact one conversationId first second
        (same.back foundFirst ownFirst) (same.back foundSecond ownSecond)
  | @drafted drafting grievanceId row none absent grievances own =>
      -- A grievance of the conversation is the new one, or one from before.
      have which : ∀ id,
          after.pipeline.Has id (·.conversationId = some conversationId) →
          id = grievanceId ∧ conversationId = drafting ∨
            store.pipeline.Has id
              (·.conversationId = some conversationId) := by
        rintro id ⟨found, stored, belongs⟩
        rw [grievances, Table.find_put] at stored
        split at stored
        case isTrue same =>
          cases stored
          rw [own] at belongs
          exact .inl ⟨same, (Option.some.inj belongs).symm⟩
        case isFalse => exact .inr ⟨found, stored, belongs⟩
      rcases which first hasFirst with ⟨rfl, rfl⟩ | before
      · rcases which second hasSecond with ⟨rfl, _⟩ | before
        · rfl
        · exact absurd before (Store.grievanceOf_none none second)
      · rcases which second hasSecond with ⟨rfl, rfl⟩ | later
        · exact absurd before (Store.grievanceOf_none none first)
        · exact one conversationId first second before later

/-! ## Steps -/

theorem Store.Drafts.of_same
    (same : after.pipeline.grievances = store.pipeline.grievances) :
    store.Drafts after :=
  .same (.of_same same)

theorem Store.Locks.pipeline {contactId : String} {now : Time}
    {found : Option (String × Conversation)}
    (locks : store.Locks contactId now after found) :
    after.pipeline = store.pipeline := by
  cases locks <;> rfl

/-- A new photo leaves the grievance to its conversation. -/
theorem rephotographed_same {pipeline reached : Pipeline.Store} {id : String}
    {current : Grievance} {now : Time} {mediaId : Option String}
    (wrote : pipeline.Wrote reached id current current
      (·.set now (recheckFields mediaId))) :
    pipeline.SameConversations reached := by
  constructor
  · intro other before found
    refine wrote.has ?_ ⟨before, found, rfl⟩
    intro _ own
    rw [RowSession.conversationId_isColumn.set_same]
    · exact own
    · rfl
  · intro other row absent found
    rcases wrote.find_cases found with ⟨rfl, _⟩ | ⟨_, stored⟩
    · have found := wrote.found
      rw [absent] at found
      cases found
    · rw [absent] at stored
      cases stored

/-- The grievances after the transaction's action: those of before, or a new
one for the conversation. -/
theorem Store.Acts.grievances {incoming : IncomingWhatsAppMessage}
    {conversationId : String} {result : FsmResult} {inputs : HandleInputs}
    {now : Time} {context : Context}
    (acts : store.Acts incoming conversationId result inputs now after
      context) :
    store.pipeline.SameConversations after.pipeline ∨
      ∃ row, store.grievanceOf conversationId = none ∧
        store.pipeline.grievances.find inputs.grievanceId = none ∧
        after.pipeline.grievances =
          store.pipeline.grievances.put inputs.grievanceId row ∧
        row.conversationId = some conversationId := by
  cases acts with
  | drafted _ none absent draft grievances _ =>
      exact .inr ⟨_, none, absent, grievances, draft ▸ rfl⟩
  | redrafted _ _ grievances _ => exact .inl (.of_same grievances)
  | rephotographed _ _ wrote _ => exact .inl (rephotographed_same wrote)
  | nothing => exact .inl (.of_same rfl)

theorem Store.Acts.drafts {incoming : IncomingWhatsAppMessage}
    {conversationId : String} {result : FsmResult} {inputs : HandleInputs}
    {now : Time} {context : Context}
    (acts : store.Acts incoming conversationId result inputs now after
      context) : store.Drafts after := by
  rcases acts.grievances with same | ⟨_, none, absent, grievances, own⟩
  · exact .same same
  · exact .drafted none absent grievances own

theorem Store.Acts.conversations {incoming : IncomingWhatsAppMessage}
    {conversationId : String} {result : FsmResult} {inputs : HandleInputs}
    {now : Time} {context : Context}
    (acts : store.Acts incoming conversationId result inputs now after
      context) : after.conversations = store.conversations := by
  cases acts with
  | drafted _ _ _ _ _ same => rw [same]
  | redrafted _ _ _ same => rw [same]
  | rephotographed _ _ _ same => rw [same]
  | nothing => rfl

/-- The context that the transaction stores. -/
theorem Store.Acts.context {incoming : IncomingWhatsAppMessage}
    {conversationId : String} {result : FsmResult} {inputs : HandleInputs}
    {now : Time} {context : Context}
    (acts : store.Acts incoming conversationId result inputs now after
      context) :
    (∃ grievanceId, result.action = some .startPipeline ∧
      context = storedContext result grievanceId ∧
      after.pipeline.Has grievanceId
        (·.conversationId = some conversationId)) ∨
      result.action ≠ some .startPipeline ∧ context = result.context ∧
        store.pipeline.SameConversations after.pipeline := by
  cases acts with
  | drafted starts _ _ draft grievances _ =>
      refine .inl ⟨inputs.grievanceId, starts, rfl, ?_⟩
      unfold Pipeline.Store.Has
      rw [grievances, Table.find_put_self, draft]
      exact ⟨_, rfl, rfl⟩
  | redrafted starts existing grievances _ =>
      obtain ⟨row, found, own⟩ := Store.grievanceOf_some existing
      exact .inl ⟨_, starts, rfl, row, by rw [grievances, found], own⟩
  | rephotographed rechecks _ wrote _ =>
      refine .inr ⟨?_, rfl, rephotographed_same wrote⟩
      rw [rechecks]
      decide
  | nothing notStart _ => exact .inr ⟨notStart, rfl, .of_same rfl⟩

theorem Store.answer_pipeline (store : Store)
    (incoming : IncomingWhatsAppMessage)
    (replyKind keyPrefix body : String) :
    (store.answer incoming replyKind keyPrefix body).pipeline =
      store.pipeline := by
  unfold Store.answer
  dsimp only
  rw [Store.storeOutgoingPending_fst]
  rfl

theorem Store.finishTurn_pipeline (store : Store)
    (incoming : IncomingWhatsAppMessage) (id : String) (row : Conversation)
    (stateBefore : Option ConversationState) (result : FsmResult)
    (context : Context) :
    (store.finishTurn incoming id row stateBefore result context).pipeline =
      store.pipeline := by
  unfold Store.finishTurn
  dsimp only
  rw [Store.storeReplies_eq]
  rfl

theorem Store.Drafts.congr {middle final : Store}
    (drafts : middle.Drafts final)
    (before : middle.pipeline = store.pipeline)
    (later : after.pipeline = final.pipeline) : store.Drafts after := by
  cases drafts with
  | same same =>
      rw [before, ← later] at same
      exact .same same
  | drafted none absent grievances own =>
      unfold Store.grievanceOf at none
      rw [before] at none absent grievances
      rw [← later] at grievances
      exact .drafted none absent grievances own

theorem Store.Handles.drafts {incoming : IncomingWhatsAppMessage}
    {geocode : Option ReverseGeocode} {inputs : HandleInputs} {now : Time}
    {handled : Handled}
    (handles : store.Handles settings incoming geocode inputs now after
      handled) : store.Drafts after := by
  cases handles with
  | answered locks =>
      refine .of_same ?_
      rw [Store.answer_pipeline]
      rcases locks with rfl | locks
      · rfl
      · rw [locks.pipeline]
  | advanced locks _ _ _ acts =>
      exact acts.drafts.congr locks.pipeline (Store.finishTurn_pipeline ..)

theorem Followup.Moves.drafts {followup : Followup}
    {progress : Progress FollowupStage}
    (moves : followup.Moves settings geometry store choice after progress) :
    store.Drafts after := by
  cases moves with
  | ran _ _ ran =>
      have same := Pipeline.Task.resume_sameConversations ran
      exact .same same
  | _ => exact .of_same rfl

theorem InboundStage.Moves.drafts {incoming : IncomingWhatsAppMessage}
    {stage : InboundStage} {progress : Progress InboundStage}
    (moves : stage.Moves settings geometry store incoming choice after
      progress) : store.Drafts after := by
  cases moves with
  | committed handles => exact handles.drafts.congr rfl rfl
  | followed moves => exact moves.drafts
  | _ => exact .of_same rfl

theorem Task.resume_drafts {task : Task} {next : Option Task}
    (resumed : task.resume settings geometry store choice =
      some (after, next)) : store.Drafts after := by
  cases Task.resume_steps resumed with
  | handled moves => exact moves.drafts
  | recovered moves => exact moves.drafts
  | web moved =>
      have same := Pipeline.Job.resume_sameConversations moved
      exact .same same
  | kept => exact .of_same rfl

theorem Task.release_drafts (store : Store) (task : Task) :
    store.Drafts (task.release store) := by
  obtain ⟨_, _, _, shape, same⟩ := task.release_eq store
  rw [shape]
  exact .of_same same

end

end JanSetu.Whatsapp
