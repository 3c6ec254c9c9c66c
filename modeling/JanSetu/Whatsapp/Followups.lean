import JanSetu.Pipeline.Policy
import JanSetu.Whatsapp.Drafts
import JanSetu.Whatsapp.StaleTaps

/-!
# Follow-ups and their conversation

A follow-up looks its conversation up by the contact, and not by the grievance
it is about.  A grievance that was filed on the web, or whose conversation has
expired and been replaced, so moves a conversation that collects another one.
As long as the conversation that is found is the grievance's own, every
conversation that asks for a photo or a confirmation does so about a grievance
of its own.
-/

namespace JanSetu.Whatsapp

open Pipeline (Geometry)
open Process (Label)

/-- The states in which the conversation has its draft. -/
def ConversationState.isDrafted : ConversationState → Bool
  | .processing => true
  | .photoMismatch => true
  | .awaitingConfirmation => true
  | _ => false

/-- Conversations and grievances refer to one another. -/
structure Store.Belongs (store : Store) : Prop where
  owns : ∀ id row grievanceId, store.conversations.find id = some row →
    row.context.draft.grievanceId = some grievanceId →
    store.pipeline.Has grievanceId (·.conversationId = some id)
  drafted : ∀ id row, store.conversations.find id = some row →
    row.state.isDrafted = true → row.context.draft.grievanceId ≠ none
  linked : ∀ id grievanceId,
    store.pipeline.Has grievanceId (·.conversationId = some id) →
    ∃ row, store.conversations.find id = some row ∧
      row.context.draft.grievanceId ≠ none

section

variable {settings : Settings} {geometry : Geometry} {store after : Store}
  {choice : Choice}

/-- A conversation is written, and at most it gets a grievance. -/
theorem Store.Belongs.put {id : String} {row : Conversation}
    (belongs : store.Belongs)
    (conversations : after.conversations = store.conversations.put id row)
    (kept : ∀ grievanceId other,
      store.pipeline.Has grievanceId (·.conversationId = some other) →
      after.pipeline.Has grievanceId (·.conversationId = some other))
    (back : ∀ grievanceId other,
      after.pipeline.Has grievanceId (·.conversationId = some other) →
      store.pipeline.Has grievanceId (·.conversationId = some other) ∨
        other = id)
    (owns : ∀ grievanceId, row.context.draft.grievanceId = some grievanceId →
      after.pipeline.Has grievanceId (·.conversationId = some id))
    (drafted : row.state.isDrafted = true →
      row.context.draft.grievanceId ≠ none)
    (linked : ∀ grievanceId,
      after.pipeline.Has grievanceId (·.conversationId = some id) →
      row.context.draft.grievanceId ≠ none) : after.Belongs := by
  constructor
  · intro other found grievanceId stored draft
    rw [conversations, Table.find_put] at stored
    split at stored
    case isTrue same =>
      cases stored
      subst same
      exact owns grievanceId draft
    case isFalse =>
      exact kept grievanceId other
        (belongs.owns other found grievanceId stored draft)
  · intro other found stored
    rw [conversations, Table.find_put] at stored
    split at stored
    case isTrue =>
      cases stored
      exact drafted
    case isFalse => exact belongs.drafted other found stored
  · intro other grievanceId has
    rw [conversations, Table.find_put]
    split
    case isTrue same =>
      subst same
      exact ⟨row, rfl, linked grievanceId has⟩
    case isFalse different =>
      rcases back grievanceId other has with before | same
      · exact belongs.linked other grievanceId before
      · exact absurd same different

/-- Conversations stay as they are, and grievances keep theirs. -/
theorem Store.Belongs.of_same (belongs : store.Belongs)
    (conversations : after.conversations = store.conversations)
    (same : store.pipeline.SameConversations after.pipeline) :
    after.Belongs := by
  constructor
  · intro id row grievanceId found draft
    rw [conversations] at found
    obtain ⟨before, stored, own⟩ := belongs.owns id row grievanceId found draft
    exact (same.kept grievanceId before stored).mono fun _ kept =>
      kept.trans own
  · intro id row found
    rw [conversations] at found
    exact belongs.drafted id row found
  · intro id grievanceId has
    obtain ⟨_, found, own⟩ := has
    rw [conversations]
    exact belongs.linked id grievanceId (same.back found own)

/-- A conversation is written that keeps its draft. -/
theorem Store.Belongs.rewrite {id : String} {before row : Conversation}
    (belongs : store.Belongs)
    (found : store.conversations.find id = some before)
    (conversations : after.conversations = store.conversations.put id row)
    (same : store.pipeline.SameConversations after.pipeline)
    (draft : row.context.draft.grievanceId =
      before.context.draft.grievanceId)
    (drafted : row.state.isDrafted = true →
      before.context.draft.grievanceId ≠ none) : after.Belongs := by
  have kept : ∀ grievanceId other,
      store.pipeline.Has grievanceId (·.conversationId = some other) →
      after.pipeline.Has grievanceId (·.conversationId = some other) := by
    rintro grievanceId other ⟨row, stored, own⟩
    exact (same.kept grievanceId row stored).mono fun _ kept =>
      kept.trans own
  have back : ∀ grievanceId other,
      after.pipeline.Has grievanceId (·.conversationId = some other) →
      store.pipeline.Has grievanceId (·.conversationId = some other) := by
    rintro grievanceId other ⟨row, stored, own⟩
    exact same.back stored own
  refine belongs.put conversations kept
    (fun grievanceId other has => .inl (back grievanceId other has)) ?_ ?_ ?_
  · intro grievanceId own
    rw [draft] at own
    exact kept grievanceId id (belongs.owns id before grievanceId found own)
  · rw [draft]
    exact drafted
  · intro grievanceId has
    obtain ⟨stored, is, some⟩ :=
      belongs.linked id grievanceId (back grievanceId id has)
    rw [found] at is
    cases is
    rw [draft]
    exact some

/-! ## Turns -/

/-- Only the start of the pipeline gives a conversation another draft. -/
theorem Turn.draft {inbound : IncomingWhatsAppMessage}
    {geocode : Option ReverseGeocode} {now : Time}
    {state : Option ConversationState} {context next : Context}
    {reached : ConversationState} {action : Option Action}
    (turn : Turn inbound geocode now state context reached next action) :
    next.draft.grievanceId = context.draft.grievanceId := by
  cases turn <;> rfl

theorem Turn.opening {inbound : IncomingWhatsAppMessage}
    {geocode : Option ReverseGeocode} {now : Time} {context next : Context}
    {reached : ConversationState} {action : Option Action}
    (turn : Turn inbound geocode now none context reached next action) :
    action = none := by
  cases turn <;> rfl

/-- A draft state is entered from another one, or with the pipeline. -/
theorem Turn.isDrafted {inbound : IncomingWhatsAppMessage}
    {geocode : Option ReverseGeocode} {now : Time}
    {state : Option ConversationState} {context next : Context}
    {reached : ConversationState} {action : Option Action}
    (turn : Turn inbound geocode now state context reached next action)
    (drafted : reached.isDrafted = true) :
    action = some .startPipeline ∨
      ∃ before, state = some before ∧ before.isDrafted = true := by
  cases turn with
  | photoShared => exact .inl rfl
  | photoSkipped => exact .inl rfl
  | photoReplaced => exact .inr ⟨_, rfl, rfl⟩
  | photoWaived => exact .inr ⟨_, rfl, rfl⟩
  | stayed => exact .inr ⟨_, rfl, drafted⟩
  | _ => cases drafted

theorem Store.Locks.belongs {contactId : String} {now : Time}
    {found : Option (String × Conversation)}
    (locks : store.Locks contactId now after found)
    (belongs : store.Belongs) : after.Belongs := by
  cases locks with
  | free => exact belongs
  | found => exact belongs
  | expired active _ =>
      obtain ⟨stored, _⟩ := Store.activeConversation_eq active
      refine belongs.rewrite stored rfl (.of_same rfl) rfl ?_
      exact fun drafted => belongs.drafted _ _ stored drafted

/-- A message of a conversation that is there. -/
theorem Store.Belongs.turned {acted : Store}
    {incoming : IncomingWhatsAppMessage} {geocode : Option ReverseGeocode}
    {inputs : HandleInputs} {now : Time} {id : String}
    {before row : Conversation} {result : FsmResult} {context : Context}
    (belongs : store.Belongs)
    (found : store.conversations.find id = some before)
    (turn : Turn incoming geocode now (some before.state) before.context
      result.state result.context result.action)
    (acts : store.Acts incoming id result inputs now acted context)
    (state : row.state = result.state) (stored : row.context = context)
    (conversations : after.conversations = store.conversations.put id row)
    (pipeline : after.pipeline = acted.pipeline) : after.Belongs := by
  rcases acts.context with
    ⟨grievanceId, starts, same, own⟩ | ⟨other, same, unchanged⟩
  · -- The conversation has a draft now, whether it is new or not.
    have draft : row.context.draft.grievanceId = some grievanceId := by
      rw [stored, same, storedContext, if_pos starts]
    have present : row.context.draft.grievanceId ≠ none := by
      rw [draft]
      exact Option.some_ne_none grievanceId
    have owns : ∀ other, row.context.draft.grievanceId = some other →
        after.pipeline.Has other (·.conversationId = some id) := by
      intro other is
      rw [draft] at is
      cases is
      rw [pipeline]
      exact own
    rcases acts.grievances with same | ⟨new, none, absent, grievances, of⟩
    · refine belongs.put conversations ?_ ?_ owns (fun _ => present)
        (fun _ _ => present)
      · rintro grievanceId other ⟨row, stored, own⟩
        rw [pipeline]
        exact (same.kept grievanceId row stored).mono fun _ kept =>
          kept.trans own
      · rintro grievanceId other ⟨row, stored, own⟩
        rw [pipeline] at stored
        exact .inl (same.back stored own)
    · refine belongs.put conversations ?_ ?_ owns (fun _ => present)
        (fun _ _ => present)
      · rintro grievanceId other ⟨row, stored, own⟩
        refine ⟨row, ?_, own⟩
        rw [pipeline, grievances, Table.find_put_of_ne, stored]
        rintro rfl
        rw [absent] at stored
        cases stored
      · rintro grievanceId other ⟨row, stored, own⟩
        rw [pipeline, grievances, Table.find_put] at stored
        split at stored
        case isTrue =>
          cases stored
          rw [of] at own
          exact .inr (Option.some.inj own).symm
        case isFalse => exact .inl ⟨row, stored, own⟩
  · have unchanged : store.pipeline.SameConversations after.pipeline := by
      rw [pipeline]
      exact unchanged
    refine belongs.rewrite found conversations unchanged ?_ ?_
    · rw [stored, same]
      exact turn.draft
    · intro drafted
      rw [state] at drafted
      rcases turn.isDrafted drafted with starts | ⟨_, is, before⟩
      · exact absurd starts other
      · cases is
        exact belongs.drafted id _ found before

/-- The first message of a conversation. -/
theorem Store.Belongs.opened {id : String} {row : Conversation}
    (belongs : store.Belongs)
    (fresh : store.conversations.find id = none)
    (conversations : after.conversations = store.conversations.put id row)
    (same : store.pipeline.SameConversations after.pipeline)
    (undrafted : row.state.isDrafted = false)
    (draft : row.context.draft.grievanceId = none) : after.Belongs := by
  have back : ∀ grievanceId other,
      after.pipeline.Has grievanceId (·.conversationId = some other) →
      store.pipeline.Has grievanceId (·.conversationId = some other) := by
    rintro grievanceId other ⟨row, stored, own⟩
    exact same.back stored own
  refine belongs.put conversations ?_
    (fun grievanceId other has => .inl (back grievanceId other has)) ?_ ?_ ?_
  · rintro grievanceId other ⟨row, stored, own⟩
    exact (same.kept grievanceId row stored).mono fun _ kept =>
      kept.trans own
  · intro grievanceId own
    rw [draft] at own
    cases own
  · intro drafted
    rw [undrafted] at drafted
    cases drafted
  · intro grievanceId has
    obtain ⟨_, found, _⟩ := belongs.linked id grievanceId
      (back grievanceId id has)
    rw [fresh] at found
    cases found

theorem Store.Locks.find_fresh {contactId id : String} {now : Time}
    {found : Option (String × Conversation)}
    (locks : store.Locks contactId now after found)
    (fresh : store.conversations.find id = none) :
    after.conversations.find id = none := by
  cases locks with
  | free => exact fresh
  | found => exact fresh
  | expired active _ =>
      obtain ⟨stored, _⟩ := Store.activeConversation_eq active
      refine (Table.find_put_of_ne _ _ ?_).trans fresh
      rintro rfl
      rw [fresh] at stored
      cases stored

theorem Store.Handles.belongs {incoming : IncomingWhatsAppMessage}
    {geocode : Option ReverseGeocode} {inputs : HandleInputs} {now : Time}
    {handled : Handled}
    (handles : store.Handles settings incoming geocode inputs now after
      handled) (belongs : store.Belongs) : after.Belongs := by
  cases handles with
  | @answered locked _ _ _ locks =>
      have before : locked.Belongs := by
        rcases locks with rfl | locks
        · exact belongs
        · exact locks.belongs belongs
      rw [Store.answer_eq]
      exact before.of_same rfl (.of_same rfl)
  | @advanced locked acted found id row result context locks advanced fresh
      upserts acts =>
      have before : locked.Belongs := locks.belongs belongs
      have few := (advance_prompts advanced).atMostOne
      obtain ⟨turn, _⟩ := advance_turn advanced
      obtain ⟨_, shape, _⟩ := acted.finishTurn_eq incoming id row
        (found.map (·.2.state)) result context few
      rw [acts.conversations] at shape
      rw [shape]
      cases found with
      | none =>
          cases upserts
          have action : result.action ≠ some .startPipeline := by
            rw [turn.opening]
            exact (Option.some_ne_none _).symm
          rcases acts.context with
            ⟨_, starts, _⟩ | ⟨_, same, unchanged⟩
          · exact absurd starts action
          · refine before.opened (locks.find_fresh (fresh rfl))
              rfl unchanged ?_ ?_
            · by_contra drafted
              rw [Bool.not_eq_false] at drafted
              rcases turn.isDrafted drafted with starts | ⟨_, is, _⟩
              · exact action starts
              · cases is
            · rw [same]
              exact turn.draft
      | some entry =>
          obtain ⟨_, stored⟩ := entry
          cases locks with
          | found active _ =>
              obtain ⟨found, _⟩ := Store.activeConversation_eq active
              cases upserts
              exact before.turned found turn acts rfl rfl rfl rfl

end

/-! ## Follow-ups -/

/-- The follow-up that a process is at. -/
def Task.followup : Task → Option Followup
  | .handling _ _ (.following followup) _ _ => some followup
  | .recovering followup _ => some followup
  | _ => none

/-- The contact's current conversation is that of the grievance, or already in
the state that the result leads to. -/
def Followup.Reaches (store : Store) (followup : Followup) (now : Time) :
    Prop :=
  ∀ result id conversation, followup.stage = .sending result →
    store.activeConversation followup.waId = some (id, conversation) →
    conversation.expiresAt.any (· < now) = false →
    store.pipeline.Has followup.grievanceId
        (·.conversationId = some id) ∨
      conversation.state = followupState result

/-- Every follow-up that is sent reaches its own conversation. -/
def OwnFollowups (world : World Store Task) (label : Label Request Choice) :
    Prop :=
  ∀ pid choice task followup, label = .resume pid choice →
    world.Running pid task → task.followup = some followup →
    followup.Reaches world.shared choice.now

theorem followupState_isDrafted (result : Pipeline.PipelineResult) :
    (followupState result).isDrafted = true := by
  unfold followupState
  split
  · rfl
  · rfl

section

variable {settings : Settings} {geometry : Geometry} {store after : Store}
  {choice : Choice} {task : Task} {next : Option Task}
  {followup : Followup}

theorem Followup.Moves.belongs {progress : Progress FollowupStage}
    (reaches : followup.Reaches store choice.now)
    (moves : followup.Moves settings geometry store choice after progress)
    (belongs : store.Belongs) : after.Belongs := by
  cases moves with
  | ran _ _ ran =>
      have same := Pipeline.Task.resume_sameConversations ran
      exact belongs.of_same rfl same
  | sent stage _ locks _ _ =>
      obtain ⟨active, current⟩ := locks.current
      obtain ⟨found, _⟩ := Store.activeConversation_eq active
      refine belongs.rewrite found rfl (.of_same rfl) rfl fun _ => ?_
      rcases reaches _ _ _ stage active current with own | already
      · obtain ⟨stored, is, drafted⟩ := belongs.linked _ _ own
        rw [found] at is
        cases is
        exact drafted
      · apply belongs.drafted _ _ found
        rw [already]
        exact followupState_isDrafted _
  | _ => exact belongs.of_same rfl (.of_same rfl)

theorem Task.resume_belongs
    (reaches : ∀ followup, task.followup = some followup →
      followup.Reaches store choice.now)
    (resumed : task.resume settings geometry store choice =
      some (after, next)) (belongs : store.Belongs) : after.Belongs := by
  cases Task.resume_steps resumed with
  | handled moves =>
      cases moves with
      | committed handles =>
          exact handles.belongs (belongs.of_same rfl (.of_same rfl))
      | followed moves => exact moves.belongs (reaches _ rfl) belongs
      | _ => exact belongs.of_same rfl (.of_same rfl)
  | recovered moves => exact moves.belongs (reaches _ rfl) belongs
  | web moved =>
      have same := Pipeline.Job.resume_sameConversations moved
      exact belongs.of_same rfl same
  | kept => exact belongs.of_same rfl (.of_same rfl)

/-- What a follow-up does to a conversation. -/
theorem Followup.Moves.conversation {progress : Progress FollowupStage}
    (moves : followup.Moves settings geometry store choice after progress)
    {id : String} {row : Conversation}
    (found : store.conversations.find id = some row) :
    after.conversations.find id = some row ∨
      ∃ result, followup.stage = .sending result ∧
        store.activeConversation followup.waId = some (id, row) ∧
        row.expiresAt.any (· < choice.now) = false ∧
        after.conversations.find id =
          some { row with state := followupState result } := by
  cases moves with
  | @sent result other conversation _ _ _ _ stage _ locks _ _ =>
      obtain ⟨active, current⟩ := locks.current
      by_cases same : id = other
      · subst same
        obtain ⟨stored, _⟩ := Store.activeConversation_eq active
        obtain rfl := Option.some.inj (found.symm.trans stored)
        exact .inr ⟨result, stage, active, current,
          Table.find_put_self _ _ _⟩
      · exact .inl ((Table.find_put_of_ne _ _ same).trans found)
  | _ => exact .inl found

theorem Task.resume_followup
    (at_ : task.followup = some followup)
    (resumed : task.resume settings geometry store choice =
      some (after, next)) :
    ∃ progress, followup.Moves settings geometry store choice after
      progress := by
  cases Task.resume_moves resumed with
  | handled moves =>
      cases moves with
      | followed moves =>
          cases at_
          exact ⟨_, moves⟩
      | raised which =>
          rcases which with rfl | ⟨_, rfl⟩ | ⟨_, rfl⟩ <;> cases at_
      | _ => cases at_
  | recovered moves =>
      cases at_
      exact ⟨_, moves⟩
  | raised unhandled unrecovering =>
      cases task with
      | handling => exact absurd rfl (unhandled _ _ _ _ _)
      | recovering => exact absurd rfl (unrecovering _ _)
      | _ => cases at_
  | _ => cases at_

end

/-! ## Runs -/

def Linked (world : World Store Task) : Prop :=
  world.shared.Belongs ∧ world.shared.OneDraft

section

variable {settings : Settings} {geometry : Geometry}
  {world : World Store Task}

theorem linked (reachable : (program settings geometry).system.ReachableWhen
      OwnFollowups world) : Linked world := by
  refine reachable.invariant ?_ ?_
  · rintro _ ⟨store, initial, rfl⟩
    have noConversation : store.conversations = Table.empty :=
      initial.conversations
    have unlinked : ∀ id grievanceId,
        ¬ store.pipeline.Has grievanceId (·.conversationId = some id) := by
      rintro id grievanceId ⟨row, found, own⟩
      rw [initial.grievances grievanceId row found] at own
      cases own
    have nobody : ∀ id row,
        store.conversations.find id ≠ some row := by
      intro id row found
      rw [noConversation, Table.find_empty] at found
      cases found
    constructor
    · constructor
      · exact fun id row _ found => absurd found (nobody id row)
      · exact fun id row found => absurd found (nobody id row)
      · exact fun id grievanceId has =>
          absurd has (unlinked id grievanceId)
    · exact fun id first _ has _ => absurd has (unlinked id first)
  · intro world label next _ linked permitted taken
    have stepped : (program settings geometry).step world label =
        some next := taken
    rcases Process.Program.step_cases stepped with
      ⟨_, _, _, _, rfl⟩ |
      ⟨pid, choice, task, store, after, rfl, running, resumed, rfl⟩ |
      ⟨_, task, _, _, rfl⟩
    · exact linked
    · refine ⟨Task.resume_belongs ?_ resumed linked.1,
        (Task.resume_drafts resumed).oneDraft linked.2⟩
      intro followup doing
      exact permitted pid choice task followup rfl running doing
    · refine ⟨?_, (task.release_drafts world.shared).oneDraft linked.2⟩
      obtain ⟨_, _, _, shape, same⟩ := task.release_eq world.shared
      have released : (task.release world.shared).Belongs := by
        rw [shape]
        exact linked.1.of_same rfl (.of_same same)
      exact released

/-- While every follow-up reaches its own conversation, a conversation that
asks for a photo or a confirmation has a grievance of its own; and a follow-up
changes at most the state of the conversation whose draft is its grievance. -/
theorem followups_reach_own
    (reachable : (program settings geometry).system.ReachableWhen
      OwnFollowups world) {id : String} {row : Conversation}
    (found : world.shared.conversations.find id = some row) :
    (row.active = true →
      row.state = .photoMismatch ∨ row.state = .awaitingConfirmation →
      ∃ grievanceId, row.context.draft.grievanceId = some grievanceId ∧
        world.shared.pipeline.Has grievanceId
          (·.conversationId = some id)) ∧
    ∀ pid choice task followup after next, world.Running pid task →
      task.followup = some followup →
      OwnFollowups world (.resume pid choice) →
      task.resume settings geometry world.shared choice =
        some (after, next) →
      after.conversations.find id = some row ∨
        row.context.draft.grievanceId = some followup.grievanceId ∧
          ∃ state, after.conversations.find id =
            some { row with state := state } := by
  obtain ⟨belongs, oneDraft⟩ := linked reachable
  constructor
  · intro _ asks
    have drafted : row.state.isDrafted = true := by
      rcases asks with same | same <;> rw [same] <;> rfl
    obtain ⟨grievanceId, draft⟩ :=
      Option.ne_none_iff_exists'.mp (belongs.drafted id row found drafted)
    exact ⟨grievanceId, draft, belongs.owns id row grievanceId found draft⟩
  · intro pid choice task followup after next running doing permitted resumed
    obtain ⟨progress, moves⟩ := Task.resume_followup doing resumed
    rcases moves.conversation found with
      same | ⟨result, stage, active, current, written⟩
    · exact .inl same
    · rcases permitted pid choice task followup rfl running doing result id
          row stage active current with own | already
      · obtain ⟨stored, is, present⟩ := belongs.linked id _ own
        obtain rfl := Option.some.inj (found.symm.trans is)
        obtain ⟨grievanceId, draft⟩ :=
          Option.ne_none_iff_exists'.mp present
        have drafted := belongs.owns id row grievanceId found draft
        have same : grievanceId = followup.grievanceId :=
          oneDraft id grievanceId followup.grievanceId drafted own
        exact .inr ⟨same ▸ draft, _, written⟩
      · rw [← already] at written
        exact .inl written

end

/-! ## A complaint, and a grievance from the web -/

/-- `OwnFollowups` for a process that is alone. -/
def ownFollowups (store : Store) (task : Task) (choice : Choice) : Bool :=
  match task.followup with
  | some { waId := waId, grievanceId := grievanceId,
           stage := .sending result } =>
      match store.activeConversation waId with
      | none => true
      | some (id, conversation) =>
          conversation.expiresAt.any (· < choice.now) ||
            (store.pipeline.grievances.find grievanceId).any
              (·.conversationId = some id) ||
            conversation.state = followupState result
  | _ => true

theorem ownFollowups_of_alone {world : World Store Task} {task : Task}
    {choice : Choice} (only : Process.OnlyRunning world 0 (some task))
    (test : ownFollowups world.shared task choice = true) :
    OwnFollowups world (.resume 0 choice) := by
  intro pid again found followup same running doing
  cases same
  obtain ⟨-, rfl⟩ := only.eq_of_running running
  intro result id conversation stage active current
  obtain ⟨waId, grievanceId, stage⟩ := followup
  subst stage
  unfold ownFollowups at test
  rw [doing] at test
  dsimp only at test active
  rw [active] at test
  simp only [current, Bool.false_or, Bool.or_eq_true,
    decide_eq_true_eq] at test
  rcases test with own | already
  · obtain ⟨row, found, belongs⟩ := (Option.any_eq_true _ _).mp own
    exact .inl ⟨row, found, of_decide_eq_true belongs⟩
  · exact .inr already

theorem followups_reach_own_complaint :
    ∃ world row, (program repliesOn Pipeline.flatMap).system.ReachableWhen
        OwnFollowups world ∧
      world.shared.conversations.find "c1" = some row ∧
      row.state = .awaitingConfirmation ∧
      ∃ grievanceId, row.context.draft.grievanceId = some grievanceId ∧
        world.shared.pipeline.Has grievanceId
          (·.conversationId = some "c1") := by
  have ran : ((program repliesOn Pipeline.flatMap).serial ownFollowups
      (.ofEvents [("e1", sampleComplaint)] [])
      [(.driveEvent "e1", sampleDrive ++
        [⟨0, .pipeline .plain⟩,
         ⟨0, .pipeline (.work Pipeline.streetlightWork)⟩,
         ⟨0, .uploaded none⟩, ⟨0, .plain⟩, ⟨0, .plain⟩])]).map
      (fun store => (store.conversations.find "c1").map
        fun row => (row.active, row.state)) =
      some (some (true, .awaitingConfirmation)) := by
    decide +kernel
  have initial : (program repliesOn Pipeline.flatMap).initial
      (.ofEvents [("e1", sampleComplaint)] []) :=
    Store.ofEvents_initial (by simp)
  have begins : ∀ (world : World Store Task) (request : Request),
      OwnFollowups world (.spawn 0 request) := by
    intro world request pid choice task followup same
    cases same
  obtain ⟨world, reachable, _, observed⟩ :=
    Process.Program.reachable_serial initial
      (fun world request _ _ => begins world request)
      (fun _ _ _ => ownFollowups_of_alone) ran
  obtain ⟨row, found, same⟩ := Option.map_eq_some_iff.mp observed
  simp only [Prod.mk.injEq] at same
  obtain ⟨active, state⟩ := same
  exact ⟨world, row, reachable, found, state,
    (followups_reach_own reachable found).1 active (.inr state)⟩

/-- The sweep recovers a grievance from the web while its citizen is at the
first step of a conversation: the conversation awaits a confirmation, of
nothing. -/
theorem followup_reaches_another :
    ∃ world row, (program repliesOn Pipeline.flatMap).system.Reachable
        world ∧
      world.shared.conversations.find "c1" = some row ∧
      row.active = true ∧ row.state = .awaitingConfirmation ∧
      row.context.draft.grievanceId = none := by
  have ran : ((program repliesOn Pipeline.flatMap).serial
      (fun _ _ _ => true)
      (.ofEvents [("e1", [sampleText "m1" "hello"])]
        [("g2", { Pipeline.draftedGrievance with
          contactId := "919876543210", status := .processing })])
      [(.driveEvent "e1",
        [⟨0, .plain⟩, ⟨0, .plain⟩, ⟨0, .plain⟩, ⟨0, .plain⟩,
         ⟨0, .handled sampleInputs⟩, ⟨0, .plain⟩, ⟨0, .plain⟩]),
       (.sweepStuckProcessing 20,
        [⟨seconds 1000, .selected ["g2"]⟩,
         ⟨seconds 1000, .pipeline .plain⟩,
         ⟨seconds 1001, .pipeline (.work Pipeline.streetlightWork)⟩,
         ⟨seconds 1002, .uploaded none⟩, ⟨seconds 1003, .plain⟩])]).map
      (fun store => (store.conversations.find "c1").map
        fun row => (row.active, row.state, row.context.draft.grievanceId)) =
      some (some (true, .awaitingConfirmation, none)) := by
    decide +kernel
  have initial : (program repliesOn Pipeline.flatMap).initial
      (.ofEvents [("e1", [sampleText "m1" "hello"])]
        [("g2", { Pipeline.draftedGrievance with
          contactId := "919876543210", status := .processing })]) :=
    Store.ofEvents_initial (by simp [Pipeline.draftedGrievance,
      Pipeline.draftGrievance])
  obtain ⟨world, reachable, _, observed⟩ :=
    Process.Program.reachable_served initial ran
  obtain ⟨row, found, same⟩ := Option.map_eq_some_iff.mp observed
  simp only [Prod.mk.injEq] at same
  exact ⟨world, row, reachable, found, same⟩

end JanSetu.Whatsapp
