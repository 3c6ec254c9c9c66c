import JanSetu.Library.Allocation
import JanSetu.Library.Numerals
import JanSetu.Pipeline.Lifecycle

/-!
# Ticket numbers

The number of a complaint is drawn from a sequence of the database and printed
with the day.  A step of the pipeline draws one for a new draft, and otherwise
neither draws a number nor changes one.
-/

namespace JanSetu.Pipeline

/-- The digits behind the last dash are those of the sequence. -/
theorem humanId_inj {now later : Time} {first second : Nat}
    (same : humanId now first = humanId later second) : first = second := by
  have dashFree : ∀ number, '-' ∉ (padded 5 number).toList := by
    intro number member
    have digit := isDigit_of_mem_padded member
    revert digit
    decide
  have dashed : ∀ now number, (humanId now number).toList =
      ("JS-" ++ yyyymmdd now).toList ++
        '-' :: (padded 5 number).toList := by
    intro now number
    simp [humanId]
  have chars := congrArg String.toList same
  rw [dashed, dashed] at chars
  obtain ⟨_, numbers⟩ :=
    Numerals.append_mark_inj (dashFree first) (dashFree second) chars
  exact padded_inj (String.toList_inj.mp numbers)

namespace Store

/-- The numbers of the complaints on record. -/
def tickets (store : Store) : Allocation String String :=
  { next := store.sequence
    named := fun id => (store.grievances.find id).map (·.humanId) }

variable {store after : Store} {id : String} {known knows : Grievance}
  {writes : RowSession → RowSession} {now : Time}
  {fields : Grievance → Grievance} {progress : Progress}

theorem commit_tickets
    (committed : store.commit id known writes = some (after, knows))
    (keeps : ∀ session, (writes session).current.humanId =
      session.current.humanId) :
    after.tickets = store.tickets := by
  obtain ⟨current, found, rfl, _⟩ := commit_eq committed
  unfold tickets
  congr 1
  funext other
  dsimp only
  by_cases same : other = id
  · rw [same, Table.find_put_self, found, Option.map_some, Option.map_some,
      keeps]
  · rw [Table.find_put_of_ne _ _ same]

/-- A flush of fields among which the number is not. -/
theorem set_keeps (keeps : ∀ row, (fields row).humanId = row.humanId)
    (session : RowSession) :
    (session.set now fields).current.humanId = session.current.humanId :=
  RowSession.humanId_isColumn.set_same session now (keeps _)

/-- A flush after that of a confirmation. -/
theorem registered_keeps {confirmedAt : Time}
    (keeps : ∀ row, (fields row).humanId = row.humanId)
    (session : RowSession) :
    ((session.set confirmedAt (registeredFields confirmedAt)).set now
      fields).current.humanId = session.current.humanId := by
  rw [set_keeps keeps, set_keeps]
  intro row
  rfl

theorem write_tickets {event : Option (GrievanceStatus × Option String)}
    {next : Grievance → Progress}
    (written : store.write id known now fields event next =
      some (after, progress))
    (keeps : ∀ row, (fields row).humanId = row.humanId) :
    after.tickets = store.tickets := by
  obtain ⟨⟨middle, knows⟩, committed, same⟩ :=
    Option.map_eq_some_iff.mp written
  have kept := commit_tickets committed (set_keeps keeps)
  obtain ⟨rfl, _⟩ := Prod.mk.inj same
  cases event with
  | none => exact kept
  | some event => exact kept

theorem withReceipt_keeps {settings : Settings} {status : GrievanceStatus}
    (keeps : ∀ row, (fields row).humanId = row.humanId) (row : Grievance) :
    (withReceipt settings id status fields row).humanId = row.humanId := by
  unfold withReceipt
  split
  · exact keeps row
  · exact keeps row

end Store

/-! ## Operations -/

section

variable {settings : Settings} {geometry : Geometry} {store after : Store}
  {id : String} {known : Grievance} {now : Time} {progress : Progress}

theorem Store.runPipeline_tickets {work : PipelineWork}
    (ran : store.runPipeline settings id known work now =
      some (after, progress)) :
    after.tickets = store.tickets := by
  unfold Store.runPipeline at ran
  split at ran
  · cases ran
    rfl
  · exact Store.write_tickets ran (Store.withReceipt_keeps fun _ => rfl)

theorem Store.acceptPhotoMismatch_tickets
    (ran : store.acceptPhotoMismatch settings id known now =
      some (after, progress)) :
    after.tickets = store.tickets := by
  unfold Store.acceptPhotoMismatch at ran
  split at ran
  · cases ran
    rfl
  · exact Store.write_tickets ran fun _ => rfl

theorem Store.reextract_tickets {extraction : StructuredExtraction}
    (ran : store.reextract id known extraction now = some (after, progress)) :
    after.tickets = store.tickets := by
  unfold Store.reextract at ran
  split at ran
  · cases ran
    rfl
  · exact Store.write_tickets ran fun _ => rfl

theorem Store.updateReview_tickets {userId : String} {body : ReviewPatch}
    (ran : store.updateReview id known userId body now =
      some (after, progress)) :
    after.tickets = store.tickets := by
  unfold Store.updateReview at ran
  split at ran
  · cases ran
    rfl
  · split at ran
    · cases ran
      rfl
    · exact Store.write_tickets ran fun _ => rfl

theorem Store.officialAction_tickets {official : OfficialUser}
    {body : OfficialAction}
    (ran : store.officialAction id known official body now =
      some (after, progress)) :
    after.tickets = store.tickets := by
  unfold Store.officialAction at ran
  split at ran
  · cases ran
    rfl
  · exact Store.write_tickets ran fun _ => rfl

theorem Store.replacePhoto_tickets {userId path : String}
    (ran : store.replacePhoto id known userId path now =
      some (after, progress)) :
    after.tickets = store.tickets := by
  unfold Store.replacePhoto at ran
  split at ran
  · cases ran
    rfl
  · exact Store.write_tickets ran fun _ => rfl

theorem Store.confirmDraft_tickets {userId : String}
    (ran : store.confirmDraft id known userId = some (after, progress)) :
    after.tickets = store.tickets := by
  unfold Store.confirmDraft at ran
  split at ran
  · cases ran
    rfl
  · split at ran
    · cases ran
      rfl
    · split at ran
      · cases ran
        rfl
      · cases ran
        rfl

theorem Store.finalize_tickets
    (ran : store.finalize settings geometry id known now =
      some (after, progress)) :
    after.tickets = store.tickets := by
  unfold Store.finalize at ran
  split at ran
  · have kept := Store.write_tickets ran fun _ => rfl
    exact kept
  · split at ran
    · have kept := Store.write_tickets ran fun _ => rfl
      exact kept
    · split at ran
      · have kept := Store.write_tickets ran fun _ => rfl
        exact kept
      · unfold Store.searchDuplicates at ran
        split at ran
        · cases ran
        · cases ran
          rfl

theorem Store.dispatch_tickets
    (ran : store.dispatch id known now = some (after, progress)) :
    after.tickets = store.tickets := by
  unfold Store.dispatch at ran
  split at ran
  · exact Store.write_tickets ran fun _ => rfl
  · exact Store.write_tickets ran fun _ => rfl

theorem Operation.run_tickets {operation : Operation} {answer : Answer}
    (ran : operation.run settings geometry store id known now answer =
      some (after, progress)) :
    after.tickets = store.tickets := by
  unfold Operation.run at ran
  split at ran
  case h_1 form => exact Store.write_tickets ran fun _ => rfl
  case h_2 work => exact Store.runPipeline_tickets ran
  case h_3 => exact Store.acceptPhotoMismatch_tickets ran
  case h_4 proceed check =>
    unfold Store.recheckImage at ran
    exact Store.write_tickets ran (Store.withReceipt_keeps fun _ => rfl)
  case h_5 extraction => exact Store.reextract_tickets ran
  case h_6 userId body => exact Store.updateReview_tickets ran
  case h_7 official body => exact Store.officialAction_tickets ran
  case h_8 userId path => exact Store.replacePhoto_tickets ran
  case h_9 userId => exact Store.confirmDraft_tickets ran
  case h_10 => exact Store.finalize_tickets ran
  case h_11 => exact Store.write_tickets ran fun _ => rfl
  case h_12 => exact Store.dispatch_tickets ran
  case h_13 => cases ran

theorem Store.openWindow_tickets {confirmedAt : Time}
    (ran : store.openWindow settings id known confirmedAt now =
      some (after, progress)) :
    after.tickets = store.tickets := by
  unfold Store.openWindow at ran
  dsimp only at ran
  split at ran
  · cases ran
  case h_2 middle knows committed =>
    cases ran
    have kept := Store.commit_tickets committed
      (Store.registered_keeps fun _ => rfl)
    exact kept

theorem Store.mergeDuplicate_tickets {confirmedAt : Time}
    {masterId : String} {master : Grievance}
    (ran : store.mergeDuplicate id known confirmedAt masterId master now =
      some (after, progress)) :
    after.tickets = store.tickets := by
  unfold Store.mergeDuplicate at ran
  dsimp only at ran
  split at ran
  · cases ran
  case h_2 middle knows committed =>
    split at ran
    · cases ran
    case h_2 last _ reported =>
      cases ran
      have kept := Store.commit_tickets committed
        (Store.registered_keeps fun _ => rfl)
      have counted := Store.commit_tickets reported
        (Store.set_keeps fun _ => rfl)
      exact counted.trans kept

theorem Store.createDraft_tickets {form : DraftForm}
    (ran : store.createDraft form id now = some (after, progress)) :
    Allocation.Step humanId store.tickets after.tickets := by
  unfold Store.createDraft at ran
  split at ran
  · cases ran
  case h_2 absent =>
    cases ran
    apply Allocation.Step.drew id now
    · simp [Store.tickets, absent]
    · rfl
    · simp [Store.tickets, Table.find_put_self, draftGrievance]
    · intro other different
      simp [Store.tickets, Table.find_put_of_ne _ _ different]

/-! ## Steps -/

theorem Task.release_tickets (task : Task) :
    (task.release store).tickets = store.tickets := by
  unfold Task.release
  split
  · rfl
  · rfl

theorem Task.resume_tickets {task : Task} {choice : Choice}
    (resumed : task.resume settings geometry store choice =
      some (after, progress)) :
    Allocation.Step humanId store.tickets after.tickets := by
  have same : after.tickets = store.tickets →
      Allocation.Step humanId store.tickets after.tickets := by
    intro kept
    rw [kept]
    exact .of_same rfl rfl
  unfold Task.resume at resumed
  split at resumed
  · cases resumed
    exact same task.release_tickets
  · split at resumed
    case h_1 form id _ => exact Store.createDraft_tickets resumed
    case h_2 id _ =>
      cases resumed
      exact same rfl
    case h_3 operation id _ =>
      cases resumed
      exact same rfl
    case h_4 operation id known =>
      exact same (Operation.run_tickets resumed)
    case h_5 id known confirmedAt _ =>
      exact same (Store.openWindow_tickets resumed)
    case h_6 id known confirmedAt masterId master _ =>
      exact same (Store.mergeDuplicate_tickets resumed)
    case h_7 id known _ =>
      obtain ⟨stored, _, moved⟩ := Option.map_eq_some_iff.mp resumed
      cases moved
      exact same rfl
    case h_8 id known ref _ =>
      cases resumed
      exact same rfl
    case h_9 id known _ =>
      cases resumed
      exact same rfl
    case h_10 id known ref _ =>
      exact same (Store.write_tickets resumed fun _ => rfl)
    case h_11 id known _ =>
      exact same (Store.write_tickets resumed fun _ => rfl)
    case h_12 => cases resumed

theorem Job.release_tickets (job : Job) :
    (job.release store).tickets = store.tickets := by
  unfold Job.release
  cases job.task with
  | none => rfl
  | some task => exact task.release_tickets

theorem Job.resume_tickets {job : Job} {next : Option Job} {choice : Choice}
    (resumed : job.resume settings geometry store choice =
      some (after, next)) :
    Allocation.Step humanId store.tickets after.tickets := by
  have swept : ∀ {test : Grievance → Bool} {limit : Nat} {answer : Answer},
      Job.select store test limit answer = some (after, next) →
      Allocation.Step humanId store.tickets after.tickets := by
    intro test limit answer selected
    unfold Job.select at selected
    split at selected
    · split at selected
      · cases selected
        exact .of_same rfl rfl
      · cases selected
    · cases selected
      exact .of_same rfl rfl
    · cases selected
  unfold Job.resume at resumed
  split at resumed
  case h_1 limit => exact swept resumed
  case h_2 limit => exact swept resumed
  case h_3 task =>
    obtain ⟨⟨middle, progress⟩, ran, moved⟩ :=
      Option.map_eq_some_iff.mp resumed
    cases moved
    exact Task.resume_tickets ran
  case h_4 task rest =>
    obtain ⟨⟨middle, progress⟩, ran, moved⟩ :=
      Option.map_eq_some_iff.mp resumed
    cases moved
    exact Task.resume_tickets ran

end

end JanSetu.Pipeline
