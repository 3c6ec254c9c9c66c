import JanSetu.Pipeline.TicketNumbers
import JanSetu.Whatsapp.Drafts

/-!
# Ticket numbers of both channels

Complaints come in by message and on the web, and any number of drivers,
requests, workers and sweeps run at once.  Each step draws at most one number,
so that no two complaints ever have the same and none is ever changed.
-/

namespace JanSetu.Whatsapp

open Pipeline (Geometry humanId)
open Transition.System (Always)
open Process (Label)

/-- The step of a message or of another process as the numbers see it. -/
def Store.Draws (store after : Store) : Prop :=
  Allocation.Step humanId store.pipeline.tickets after.pipeline.tickets

section

variable {settings : Settings} {geometry : Geometry} {store after : Store}
  {incoming : IncomingWhatsAppMessage} {geocode : Option ReverseGeocode}
  {inputs : HandleInputs} {now : Time}

theorem Store.Draws.of_same
    (same : after.pipeline.tickets = store.pipeline.tickets) :
    store.Draws after := by
  unfold Store.Draws
  rw [same]
  exact .of_same rfl rfl

/-- Insert-or-ignore: the number of a conversation that has its complaint
already is drawn and not used. -/
theorem Store.createDraftGrievance_draws {contactId conversationId : String}
    {userId : Option String} {context : Context} {fresh : String}
    (absent : store.pipeline.grievances.find fresh = none) :
    store.Draws (store.createDraftGrievance contactId conversationId userId
      context now fresh).1 := by
  unfold Store.createDraftGrievance
  dsimp only
  split
  · apply Allocation.Step.kept
    · exact Nat.le_succ _
    · intro holder
      rfl
  · apply Allocation.Step.drew fresh now
    · simp [Pipeline.Store.tickets, absent]
    · rfl
    · simp [Pipeline.Store.tickets, Table.find_put_self,
        Pipeline.draftGrievance]
    · intro other different
      simp [Pipeline.Store.tickets, Table.find_put_of_ne _ _ different]

theorem Store.performAction_draws {conversationId : String}
    {result : FsmResult} {context : Context}
    (acted : store.performAction incoming conversationId result inputs now =
      some (after, some context)) :
    store.Draws after := by
  unfold Store.performAction at acted
  split at acted
  case h_1 =>
    split at acted
    · cases acted
    case isFalse fresh =>
      have absent : store.pipeline.grievances.find inputs.grievanceId =
          none := by simpa using fresh
      cases acted
      exact Store.createDraftGrievance_draws absent
  case h_2 =>
    split at acted
    · cases acted
    case h_2 grievanceId _ =>
      split at acted
      · cases acted
      case h_2 row _ =>
        obtain ⟨⟨pipeline, knows⟩, committed, same⟩ :=
          Option.map_eq_some_iff.mp acted
        cases same
        apply Store.Draws.of_same
        exact Pipeline.Store.commit_tickets committed
          (Pipeline.Store.set_keeps fun _ => rfl)
  case h_3 =>
    cases acted
    exact .of_same rfl

theorem Store.advanceConversation_draws {handled : Handled}
    (ran : store.advanceConversation settings incoming geocode inputs now =
      some (after, handled)) : store.Draws after := by
  unfold Store.advanceConversation at ran
  have locks :=
    (store.lockContactAndGetConversation_locks incoming.waId now).pipeline
  generalize store.lockContactAndGetConversation incoming.waId now = locked
    at ran locks
  obtain ⟨locked, found⟩ := locked
  simp only at ran locks
  split at ran
  · cases ran
    apply Store.Draws.of_same
    rw [Store.answer_pipeline, locks]
  · split at ran
    · cases ran
      exact .of_same rfl
    · split at ran
      · cases ran
      · split at ran
        · cases ran
        · cases ran
          exact .of_same rfl
        case h_3 acted context acts =>
          cases ran
          have drawn := Store.performAction_draws acts
          unfold Store.Draws at *
          rwa [Store.finishTurn_pipeline, ← locks]

theorem Store.handleInbound_draws {handled : Handled}
    (ran : store.handleInbound settings incoming geocode inputs now =
      some (after, handled)) : store.Draws after := by
  have code : store.decideCode settings incoming geocode inputs now =
      some (after, handled) → store.Draws after := by
    intro decided
    unfold Store.decideCode at decided
    split at decided
    · cases decided
      apply Store.Draws.of_same
      rw [Store.answer_pipeline]
    · exact Store.advanceConversation_draws decided
  unfold Store.handleInbound at ran
  split at ran
  · split at ran
    · cases ran
      apply Store.Draws.of_same
      rw [Store.answer_pipeline]
    · exact code ran
  · exact code ran

/-! ## Steps -/

theorem Followup.Moves.draws {followup : Followup} {choice : Choice}
    {progress : Progress FollowupStage}
    (moves : followup.Moves settings geometry store choice after progress) :
    store.Draws after := by
  cases moves with
  | ran _ _ ran => exact Pipeline.Task.resume_tickets ran
  | _ => exact .of_same rfl

theorem Store.commitInbound_draws {progress : Progress InboundStage}
    (committed : store.commitInbound settings incoming geocode inputs now =
      some (after, progress)) : store.Draws after := by
  unfold Store.commitInbound at committed
  split at committed
  · cases committed
  · cases committed
    exact .of_same rfl
  case h_3 final handled _ ran =>
    cases committed
    have drawn : (store.release incoming).Draws after :=
      Store.handleInbound_draws ran
    exact drawn

theorem InboundStage.resume_draws {stage : InboundStage} {choice : Choice}
    {progress : Progress InboundStage}
    (resumed : stage.resume settings geometry store incoming choice =
      some (after, progress)) : store.Draws after := by
  cases InboundStage.resume_moves resumed with
  | committed _ =>
      cases answered : choice.answer with
      | handled inputs =>
          simp only [InboundStage.resume, answered] at resumed
          exact Store.commitInbound_draws resumed
      | _ => simp [InboundStage.resume, answered] at resumed
  | followed moves => exact moves.draws
  | _ => exact .of_same rfl

theorem Task.resume_draws {task : Task} {next : Option Task}
    {choice : Choice}
    (resumed : task.resume settings geometry store choice =
      some (after, next)) : store.Draws after := by
  cases Task.resume_steps resumed with
  | handled _ =>
      obtain ⟨⟨middle, progress⟩, ran, same⟩ :=
        Option.map_eq_some_iff.mp resumed
      obtain ⟨rfl, _⟩ := Prod.mk.inj same
      exact InboundStage.resume_draws ran
  | recovered moves => exact moves.draws
  | web moved => exact Pipeline.Job.resume_tickets moved
  | kept => exact .of_same rfl

/-- A process that ends gives back locks and no number. -/
theorem Task.release_draws (store : Store) (task : Task) :
    store.Draws (task.release store) := by
  have followed : ∀ followup : Followup,
      store.Draws (followup.release store) := by
    intro followup
    unfold Followup.release
    split
    · exact .of_same (Pipeline.Task.release_tickets _)
    · exact .of_same rfl
  cases task with
  | handling eventId incoming stage rest allOk =>
      cases stage with
      | following followup => exact followed followup
      | _ => exact .of_same rfl
  | recovering followup rest => exact followed followup
  | web job => exact .of_same job.release_tickets
  | _ => exact .of_same rfl

theorem draws_of_step {world next : World Store Task}
    {label : Label Request Choice}
    (taken : (program settings geometry).system.step world label =
      some next) :
    world.shared.Draws next.shared := by
  obtain ⟨pid, request, _, _, rfl⟩ |
    ⟨pid, choice, task, shared, after, _, _, resumed, rfl⟩ |
    ⟨pid, task, _, _, rfl⟩ := Process.Program.step_cases taken
  · exact .of_same rfl
  · exact Task.resume_draws resumed
  · exact Task.release_draws world.shared task

/-! ## Runs -/

/-- Of complaints that have been numbered from the sequence, however they were
filed and whatever runs and crashes, no two ever have the same number, and each
keeps the one it has. -/
theorem tickets_unique_and_kept {world final : World Store Task}
    {labels : List (Label Request Choice)}
    (numbered : Allocation.Sound humanId world.shared.pipeline.tickets)
    (runs : (program settings geometry).system.RunWhen Always world labels
      final) :
    (∀ id other row otherRow,
      final.shared.pipeline.grievances.find id = some row →
      final.shared.pipeline.grievances.find other = some otherRow →
      row.humanId = otherRow.humanId → id = other) ∧
    ∀ id row, world.shared.pipeline.grievances.find id = some row →
      ∃ later, final.shared.pipeline.grievances.find id = some later ∧
        later.humanId = row.humanId := by
  have both : Allocation.Sound humanId final.shared.pipeline.tickets ∧
      Allocation.Extends humanId world.shared.pipeline.tickets
        final.shared.pipeline.tickets := by
    induction runs with
    | nil => exact ⟨numbered, .refl _⟩
    | cons _ taken _ induction =>
        have draws := draws_of_step taken
        obtain ⟨sound, rest⟩ :=
          induction (draws.sound (fun _ _ _ _ => Pipeline.humanId_inj)
            numbered)
        exact ⟨sound, draws.extends.trans rest⟩
  obtain ⟨sound, kept⟩ := both
  constructor
  · intro id other row otherRow found alsoFound same
    apply sound.unique id other row.humanId
    · simp [Pipeline.Store.tickets, found]
    · simp [Pipeline.Store.tickets, alsoFound, same]
  · intro id row found
    have named := kept.stays id row.humanId
      (by simp [Pipeline.Store.tickets, found])
    exact Option.map_eq_some_iff.mp named

end

/-- A form with a text alone. -/
def sampleForm : Pipeline.DraftForm :=
  { contactId := "15550000002", userId := "u2", lat := 28, lon := 77
    textMessages :=
      [{ type := "text", text := some "Garbage", mediaId := none
         mimeType := none, localPath := none, recordingId := none
         segmentIndex := none }]
    audioMessages := [], photoPath := none }

/-- A complaint is filed on the web while another one comes in by message. -/
theorem tickets_unique_and_kept_both :
    ∃ final labels,
      (program repliesOn Pipeline.flatMap).system.RunWhen Always
        (World.start (.ofEvents [("e1", sampleComplaint)] [])) labels final ∧
      (final.shared.pipeline.tickets.named "g1" =
          some "JS-19700101-00002" ∧
        final.shared.pipeline.tickets.named "g2" =
          some "JS-19700101-00001") ∧
      ∀ id other row otherRow,
        final.shared.pipeline.grievances.find id = some row →
        final.shared.pipeline.grievances.find other = some otherRow →
        row.humanId = otherRow.humanId → id = other := by
  have ran : ((program repliesOn Pipeline.flatMap).system.run
      (World.start (.ofEvents [("e1", sampleComplaint)] []))
      ([.spawn 0 (.driveEvent "e1"), .spawn 1 (.web (.createDraft sampleForm)),
        .resume 1 ⟨0, .pipeline (.inserted "g2")⟩] ++
        sampleDrive.map (.resume 0))).map
      (fun final => (final.shared.pipeline.tickets.named "g1",
        final.shared.pipeline.tickets.named "g2")) =
      some (some "JS-19700101-00002", some "JS-19700101-00001") := by
    decide +kernel
  obtain ⟨final, runs, same⟩ := Option.map_eq_some_iff.mp ran
  have run : (program repliesOn Pipeline.flatMap).system.RunWhen Always _ _
      final := Transition.System.runWhen_of_run (fun _ _ _ => trivial) runs
  refine ⟨final, _, run, Prod.mk.inj same, (tickets_unique_and_kept ?_ run).1⟩
  constructor
  · intro id given named
    cases named
  · intro id other given named
    cases named

end JanSetu.Whatsapp
