import JanSetu.Pipeline.Decision

/-!
# The history of a grievance

Every call site writes the status by one call and the event by another.  A
transaction tells of the status it leaves, except where a draft is inserted,
where the uploads of a web form are stored and where `dispatch_grievance` marks
the grievance before it calls the dispatcher; and except where the status that
is told is one the session has loaded, so that it is not written.
-/

namespace JanSetu.Pipeline

open Process (Label)
open Transition.System (Always)

/-- The history of a grievance, with the newest first. -/
def Store.eventsOf (store : Store) (id : String) : List GrievanceEvent :=
  store.events.filter (·.grievanceId = id)

/-- The status at the last change of a history. -/
def lastChange : List GrievanceStatus → Option GrievanceStatus
  | [] => none
  | [status] => some status
  | status :: before :: rest =>
      if status = before then lastChange (before :: rest) else some status

theorem lastChange_cons (status : GrievanceStatus)
    (rest : List GrievanceStatus) :
    lastChange (status :: rest) = some status := by
  induction rest generalizing status with
  | nil => rfl
  | cons before rest induction =>
      unfold lastChange
      split
      case isTrue same => rw [induction before, same]
      case isFalse => rfl

/-- The last event with a change of status carries the stored status. -/
def Store.Audited (store : Store) (id : String) : Prop :=
  store.Every id fun row =>
    lastChange ((store.eventsOf id).map (·.status)) = some row.status

/-- The transaction leaves the status, or appends an event with the new
one. -/
def Store.Records (store after : Store) (id : String) : Prop :=
  after.statusOf id = store.statusOf id ∧
      after.eventsOf id = store.eventsOf id ∨
    ∃ event events,
      after.eventsOf id = event :: (events ++ store.eventsOf id) ∧
        after.statusOf id = some event.status

theorem Store.Records.refl (store : Store) (id : String) :
    store.Records store id :=
  .inl ⟨rfl, rfl⟩

theorem Store.Records.of_same {store after : Store}
    (grievances : after.grievances = store.grievances)
    (events : after.events = store.events) (id : String) :
    store.Records after id := by
  left
  unfold Store.statusOf Store.eventsOf
  rw [grievances, events]
  exact ⟨rfl, rfl⟩

theorem Store.Records.audited {store after : Store} {id : String}
    (records : store.Records after id) (before : store.Audited id) :
    after.Audited id := by
  intro row found
  have status : after.statusOf id = some row.status := by
    unfold Store.statusOf
    rw [found, Option.map_some]
  rcases records with ⟨same, events⟩ | ⟨event, events, appended, told⟩
  · rw [events]
    rw [same] at status
    obtain ⟨row', found', is⟩ := Option.map_eq_some_iff.mp status
    rw [before row' found', is]
  · rw [appended, List.map_cons, lastChange_cons]
    rw [told] at status
    exact status

/-! ## What a transaction tells -/

/-- The status that a transaction sets, or repeats from the row it has loaded,
and whether it appends an event with it.  The uploads of a form and the mark
before a dispatch append none. -/
def Operation.assigns (known : Grievance) :
    Operation → Answer → Option (GrievanceStatus × Bool)
  | .storeUploads _, _ => some (.processing, false)
  | .runPipeline, .work work =>
      (originalText known.issueMessages).map fun _ =>
        (RunPipeline.nextStatus known work, true)
  | .acceptPhotoMismatch, _ =>
      if known.status = .photoMismatch then some (.awaitingConfirmation, true)
      else none
  | .recheckImage proceed, .photo check =>
      some (RecheckImage.nextStatus
        (RecheckImage.imageMatchStatus known proceed check), true)
  | .reextract, .extraction extraction =>
      if Python.truthy known.issueText && !extraction.degraded then
        some (known.status, true)
      else none
  | .finalize, _ =>
      if known.reviewStatus = some .pendingOfficial || needsDisposition known ||
          known.priority = some .priority then
        some (.registered, true)
      else none
  | .cancel, _ => some (.cancelled, true)
  | .dispatch, _ =>
      if dispatchDisabled known then some (.registered, true)
      else some (.dispatching, false)
  | _, _ => none

def Task.assigns : Task → Answer →
    Option (String × Grievance × GrievanceStatus × Bool)
  | .loaded operation id known, answer =>
      (operation.assigns known answer).map fun assigned =>
        (id, known, assigned)
  | .accepted id known _, _ => some (id, known, .submitted, true)
  | .refused id known, _ =>
      some (id, known, refusedStatus known,
        refusedStatus known = .dispatchFailed)
  | _, _ => none

/-- A status that is told is not one that was loaded and is stored no more; one
that is not told was loaded, or is stored already. -/
def Told (known row : Grievance) (status : GrievanceStatus) (told : Bool) :
    Prop :=
  if told then known.status = status → row.status = status
  else known.status = status ∨ row.status = status

theorem Told.write {known row : Grievance} {status : GrievanceStatus}
    {told : Bool} (tells : Told known row status told) :
    Column.write known.status row.status status =
      if told then status else row.status := by
  cases told with
  | true =>
      by_cases same : status = known.status
      · have stored : row.status = status := tells same.symm
        rw [same, Column.write_known, if_pos rfl, stored, same]
      · exact Column.write_of_ne same
  | false =>
      rcases tells with same | stored
      · rw [← same, Column.write_known]
        rfl
      · rw [← stored]
        rcases Column.write_cases known.status row.status row.status with
          same | same <;> exact same

/-! ## Transactions -/

section

variable {store after : Store} {id : String} {known : Grievance} {now : Time}
  {fields : Grievance → Grievance} {progress : Progress}
  {event : Option (GrievanceStatus × Option String)}
  {next : Grievance → Progress}

/-- One row is written and its events are appended: none when its status
stays, and last of all one with its status. -/
theorem Store.Records.of_put {current row : Grievance}
    (new : List GrievanceEvent)
    (found : store.grievances.find id = some current)
    (grievances : after.grievances = store.grievances.put id row)
    (events : after.events = new ++ store.events)
    (own : ∀ event ∈ new, event.grievanceId = id)
    (other : String)
    (last : other = id →
      (new.head?.map (·.status)).getD current.status = row.status) :
    store.Records after other := by
  by_cases same : other = id
  · have ends := last same
    subst same
    have status : after.statusOf other = some row.status := by
      unfold Store.statusOf
      rw [grievances, Table.find_put_self, Option.map_some]
    have history : after.eventsOf other = new ++ store.eventsOf other := by
      unfold Store.eventsOf
      rw [events, List.filter_append]
      have all : new.filter (·.grievanceId = other) = new :=
        List.filter_eq_self.mpr fun event member =>
          decide_eq_true (own event member)
      rw [all]
    cases new with
    | nil =>
        left
        refine ⟨?_, history⟩
        have before : store.statusOf other = some current.status := by
          unfold Store.statusOf
          rw [found, Option.map_some]
        rw [status, before]
        exact congrArg some ends.symm
    | cons event rest =>
        right
        refine ⟨event, rest, history, ?_⟩
        rw [status]
        exact congrArg some ends.symm
  · left
    constructor
    · unfold Store.statusOf
      rw [grievances, Table.find_put_of_ne _ _ same]
    · unfold Store.eventsOf
      rw [events, List.filter_append]
      have none : new.filter (·.grievanceId = other) = [] := by
        apply List.filter_eq_nil_iff.mpr
        intro event member is
        rw [decide_eq_true_eq, own event member] at is
        exact same is.symm
      rw [none, List.nil_append]

/-- A transaction of one write and at most one event. -/
theorem Store.write_records
    (written : store.write id known now fields event next =
      some (after, progress)) (other : String)
    (status : other = id →
      ∀ current, store.grievances.find id = some current →
        Column.write known.status current.status (fields known).status =
          event.elim current.status (·.1)) :
    store.Records after other := by
  obtain ⟨⟨middle, knows⟩, committed, same⟩ :=
    Option.map_eq_some_iff.mp written
  obtain ⟨current, found, rfl, rfl⟩ := Store.commit_eq committed
  have is := (congrArg Prod.fst same).symm
  have stored : other = id →
      event.elim current.status (·.1) =
        (RowSession.set { known := known, current := current } now
          fields).current.status := by
    intro same
    rw [RowSession.status_isColumn.set_current]
    exact (status same current found).symm
  cases event with
  | none =>
      have grievances : after.grievances = _ := congrArg (·.grievances) is
      have events : after.events = [] ++ store.events :=
        congrArg (·.events) is
      refine .of_put [] found grievances events ?_ other stored
      intro event member
      cases member
  | some told =>
      have grievances : after.grievances = _ := congrArg (·.grievances) is
      have events : after.events =
          [{ grievanceId := id, status := told.1, note := told.2
             createdAt := now }] ++ store.events :=
        congrArg (·.events) is
      refine .of_put _ found grievances events ?_ other stored
      intro event member
      rw [List.mem_singleton.mp member]

/-- A transaction that assigns a status which was not loaded out of date. -/
theorem Store.write_told {status : GrievanceStatus} {note : Option String}
    (told : Bool)
    (written : store.write id known now fields
      (if told then some (status, note) else none) next =
        some (after, progress))
    (sets : (fields known).status = status) (other : String)
    (tells : other = id → store.Every id (Told known · status told)) :
    store.Records after other := by
  refine Store.write_records written other ?_
  intro same current found
  rw [sets, (tells same current found).write]
  cases told <;> rfl

/-- A transaction that neither sets a status nor tells of one. -/
theorem Store.write_silent
    (written : store.write id known now fields none next =
      some (after, progress))
    (keeps : (fields known).status = known.status) (other : String) :
    store.Records after other := by
  refine Store.write_records written other ?_
  intro _ current _
  rw [keeps, Column.write_known]
  rfl

/-- A step after which status and history are as they were after another. -/
theorem Store.Records.onward {middle : Store} {other : String}
    (records : store.Records middle other)
    (status : after.statusOf other = middle.statusOf other)
    (events : after.eventsOf other = middle.eventsOf other) :
    store.Records after other := by
  unfold Store.Records
  rw [status, events]
  exact records

section

variable {settings : Settings} {geometry : Geometry} {confirmedAt : Time}

theorem Store.openWindow_records
    (opened : store.openWindow settings id known confirmedAt now =
      some (after, progress)) (other : String) :
    store.Records after other := by
  unfold Store.openWindow at opened
  dsimp only at opened
  split at opened
  · cases opened
  case h_2 middle knows committed =>
    obtain ⟨current, found, rfl, _⟩ := Store.commit_eq committed
    have is := (congrArg Prod.fst (Option.some.inj opened)).symm
    have status : (registeredThen { known := known, current := current }
        confirmedAt now (pendingWindowFields
          (now + hours settings.dedupWindowHours))).current.status =
        .pendingWindow :=
      registeredThen_status .pendingWindow (fun _ => rfl) nofun
    have grievances : after.grievances = store.grievances.put id
        (registeredThen { known := known, current := current } confirmedAt
          now (pendingWindowFields
            (now + hours settings.dedupWindowHours))).current :=
      congrArg (·.grievances) is
    have events : after.events =
        [{ grievanceId := id, status := .pendingWindow, note := none
           createdAt := now },
         { grievanceId := id, status := .registered, note := none
           createdAt := confirmedAt }] ++ store.events :=
      congrArg (·.events) is
    have stored : store.grievances.find id = some current := found
    refine .of_put _ stored grievances events ?_ other fun _ => status.symm
    intro event member
    simp only [List.mem_cons, List.not_mem_nil, or_false] at member
    rcases member with rfl | rfl <;> rfl

theorem Store.mergeDuplicate_records {masterId : String}
    {master : Grievance}
    (merged : store.mergeDuplicate id known confirmedAt masterId master now =
      some (after, progress)) (other : String) :
    store.Records after other := by
  unfold Store.mergeDuplicate at merged
  dsimp only at merged
  split at merged
  · cases merged
  case h_2 middle knows committed =>
    split at merged
    · cases merged
    case h_2 final knows' reported =>
      obtain ⟨current, found, rfl, _⟩ := Store.commit_eq committed
      obtain ⟨currentMaster, foundMaster, rfl, _⟩ := Store.commit_eq reported
      have is := (congrArg Prod.fst (Option.some.inj merged)).symm
      have status : (registeredThen { known := known, current := current }
          confirmedAt now (duplicateFields masterId)).current.status =
          .duplicate :=
        registeredThen_status .duplicate (fun _ => rfl) nofun
      -- The duplicate's row and both events, before the count of the master.
      let filed : Store :=
        { store with
          grievances := store.grievances.put id
            (registeredThen { known := known, current := current }
              confirmedAt now (duplicateFields masterId)).current
          events := after.events }
      have records : store.Records filed other := by
        have events : filed.events =
            [{ grievanceId := id, status := .duplicate
               note := some ("duplicate of " ++ master.humanId)
               createdAt := now },
             { grievanceId := id, status := .registered, note := none
               createdAt := confirmedAt }] ++ store.events :=
          congrArg (·.events) is
        have stored : store.grievances.find id = some current := found
        have grievances : filed.grievances = store.grievances.put id
            (registeredThen { known := known, current := current }
              confirmedAt now (duplicateFields masterId)).current := rfl
        refine .of_put _ stored grievances events ?_ other
          fun _ => status.symm
        intro event member
        simp only [List.mem_cons, List.not_mem_nil, or_false] at member
        rcases member with rfl | rfl <;> rfl
      refine records.onward ?_ rfl
      have same := RowSession.status_isColumn.set_same
        { known := master, current := currentMaster } now
        (rfl : (reportedFields (master.reportCount + 1) master).status =
          master.status)
      have reported : after.grievances = filed.grievances.put masterId
          (RowSession.set { known := master, current := currentMaster } now
            (reportedFields (master.reportCount + 1))).current :=
        congrArg (·.grievances) is
      unfold Store.statusOf
      rw [reported, Table.find_put]
      split
      case isTrue isMaster =>
        subst isMaster
        have before : filed.grievances.find other = some currentMaster :=
          foundMaster
        rw [before, Option.map_some, Option.map_some]
        exact congrArg some same
      case isFalse => rfl

theorem Store.finalize_records {answer : Answer}
    (ran : store.finalize settings geometry id known now =
      some (after, progress))
    (other : String)
    (tells : other = id → ∀ status,
      Operation.assigns known .finalize answer = some (status, true) →
      store.Every id (Told known · status true)) :
    store.Records after other := by
  have confirmed : ∀ {fields : Grievance → Grievance}
      {note : Option String} {next : Grievance → Progress},
      (store.record (.confirmed id)).write id known now fields
        (some (.registered, note)) next = some (after, progress) →
      (fields known).status = .registered →
      Operation.assigns known .finalize answer = some (.registered, true) →
      store.Records after other := by
    intro fields note next written sets assigns
    exact Store.write_told true written sets other
      fun same => tells same .registered assigns
  unfold Store.finalize at ran
  split at ran
  case isTrue reviewed =>
    exact confirmed ran rfl (by simp [Operation.assigns, reviewed])
  case isFalse unreviewed =>
    split at ran
    case isTrue disposed =>
      exact confirmed ran rfl (by simp [Operation.assigns, disposed])
    case isFalse =>
      split at ran
      case isTrue priority =>
        exact confirmed ran rfl (by simp [Operation.assigns, priority])
      case isFalse =>
        unfold Store.searchDuplicates at ran
        split at ran
        · cases ran
        · cases ran
          exact .of_same rfl rfl other

theorem Store.retryOrFail_records
    (ran : store.retryOrFail id known now = some (after, progress))
    (other : String)
    (tells : other = id → store.Every id (Told known · (refusedStatus known)
      (refusedStatus known = .dispatchFailed))) :
    store.Records after other := by
  have written : store.write id known now refusedFields
      (if decide (refusedStatus known = .dispatchFailed) then
        some (refusedStatus known, none) else none)
      (fun knows => .finalized (finalizeOutcome (refusedStatus known) knows)) =
        some (after, progress) := by
    refine Eq.trans ?_ ran
    unfold Store.retryOrFail
    by_cases failed : refusedStatus known = .dispatchFailed
    · simp [failed]
    · simp [failed]
  exact Store.write_told _ written rfl other tells

theorem Operation.run_records {operation : Operation} {answer : Answer}
    (ran : operation.run settings geometry store id known now answer =
      some (after, progress))
    (other : String)
    (tells : other = id → ∀ status told,
      operation.assigns known answer = some (status, told) →
      store.Every id (Told known · status told)) :
    store.Records after other := by
  unfold Operation.run at ran
  split at ran
  case h_1 form =>
    have written : store.write id known now (storeUploadsFields form)
        (if false then some (.processing, none) else none)
        (fun _ => .finished) = some (after, progress) := ran
    exact Store.write_told false written rfl other fun same =>
      tells same _ _ rfl
  case h_2 work =>
    unfold Store.runPipeline at ran
    split at ran
    · cases ran
      exact .refl store other
    case h_2 text texts =>
      have assigned : Operation.assigns known .runPipeline (.work work) =
          some (RunPipeline.nextStatus known work, true) := by
        simp [Operation.assigns, texts]
      exact Store.write_told true ran (withReceipt_status _ _ _ _ _) other
        fun same => tells same _ _ assigned
  case h_3 =>
    unfold Store.acceptPhotoMismatch at ran
    split at ran
    · cases ran
      exact .refl store other
    case isFalse mismatch =>
      have assigned : Operation.assigns known .acceptPhotoMismatch .plain =
          some (.awaitingConfirmation, true) := by
        simp only [Operation.assigns, if_pos (not_not.mp mismatch)]
      exact Store.write_told true ran rfl other fun same =>
        tells same _ _ assigned
  case h_4 proceed check =>
    have assigned : Operation.assigns known (.recheckImage proceed)
        (.photo check) = some (RecheckImage.nextStatus
          (RecheckImage.imageMatchStatus known proceed check), true) := rfl
    unfold Store.recheckImage at ran
    exact Store.write_told true ran (withReceipt_status _ _ _ _ _) other
      fun same => tells same _ _ assigned
  case h_5 extraction =>
    unfold Store.reextract at ran
    split at ran
    · cases ran
      exact .refl store other
    case isFalse usable =>
      have assigned : Operation.assigns known .reextract
          (.extraction extraction) = some (known.status, true) := by
        have both : (Python.truthy known.issueText && !extraction.degraded) =
            true := by
          simpa using usable
        simp only [Operation.assigns, if_pos both]
      exact Store.write_told true ran rfl other fun same =>
        tells same _ _ assigned
  case h_6 userId body =>
    unfold Store.updateReview at ran
    split at ran
    · cases ran
      exact .refl store other
    · split at ran
      · cases ran
        exact .refl store other
      · exact Store.write_silent ran rfl other
  case h_7 official body =>
    unfold Store.officialAction at ran
    split at ran
    · cases ran
      exact .refl store other
    · exact Store.write_silent ran rfl other
  case h_8 userId path =>
    unfold Store.replacePhoto at ran
    split at ran
    · cases ran
      exact .refl store other
    · exact Store.write_silent ran rfl other
  case h_9 userId =>
    unfold Store.confirmDraft at ran
    split at ran
    · cases ran
      exact .refl store other
    · split at ran
      · cases ran
        exact .refl store other
      · split at ran <;> cases ran <;> exact .refl store other
  case h_10 =>
    exact Store.finalize_records ran other fun same status =>
      tells same status true
  case h_11 =>
    exact Store.write_told true ran rfl other fun same => tells same _ _ rfl
  case h_12 =>
    unfold Store.dispatch at ran
    split at ran
    case isTrue disabled =>
      have assigned : Operation.assigns known .dispatch .plain =
          some (.registered, true) := by
        simp only [Operation.assigns, if_pos disabled]
      exact Store.write_told true ran rfl other fun same =>
        tells same _ _ assigned
    case isFalse enabled =>
      have assigned : Operation.assigns known .dispatch .plain =
          some (.dispatching, false) := by
        simp only [Operation.assigns, if_neg enabled]
      have written : store.write id known now dispatchingFields
          (if false then some (.dispatching, none) else none)
          (fun knows => .more (.dispatching id knows)) =
            some (after, progress) := ran
      exact Store.write_told false written rfl other fun same =>
        tells same _ _ assigned
  case h_13 => cases ran

/-- What is asked of a transaction on a grievance.  Four kinds of them write a
status without an event: one that inserts the draft is ruled out, and one of
the uploads, one that marks a dispatch and one after a refused dispatch that is
to be retried find their status loaded or stored already. -/
def Store.Tells (store : Store) (id : String) (task : Task)
    (answer : Answer) : Prop :=
  (∀ form, task = .createDraft form → answer ≠ .inserted id) ∧
    ∀ known status told,
      task.assigns answer = some (id, known, status, told) →
      store.Every id (Told known · status told)

theorem Store.createDraft_records {form : DraftForm}
    (created : store.createDraft form id now = some (after, progress))
    {other : String} (different : other ≠ id) :
    store.Records after other := by
  unfold Store.createDraft at created
  split at created
  · cases created
  · cases created
    left
    refine ⟨?_, rfl⟩
    unfold Store.statusOf
    rw [Table.find_put_of_ne _ _ different]

theorem Task.resume_records {task : Task} {choice : Choice}
    (resumed : task.resume settings geometry store choice =
      some (after, progress))
    {other : String}
    (tells : choice.answer ≠ .raises →
      store.Tells other task choice.answer) :
    store.Records after other := by
  unfold Task.resume at resumed
  split at resumed
  case isTrue =>
    cases resumed
    have released : (task.release store).grievances = store.grievances ∧
        (task.release store).events = store.events := by
      cases task <;> exact ⟨rfl, rfl⟩
    exact .of_same released.1 released.2 other
  case isFalse plain =>
    obtain ⟨inserts, tells⟩ := tells plain
    split at resumed
    case h_1 =>
      apply Store.createDraft_records resumed
      rintro rfl
      exact inserts _ rfl ‹_›
    case h_2 => cases resumed; exact .of_same rfl rfl other
    case h_3 => cases resumed; exact .refl store other
    case h_4 operation id known _ =>
      refine Operation.run_records resumed other ?_
      rintro rfl status told assigned
      apply tells known status told
      simp only [Task.assigns, assigned, Option.map_some]
    case h_5 => exact Store.openWindow_records resumed other
    case h_6 => exact Store.mergeDuplicate_records resumed other
    case h_7 =>
      obtain ⟨stored, _, same⟩ := Option.map_eq_some_iff.mp resumed
      cases same
      exact .of_same rfl rfl other
    case h_8 => cases resumed; exact .of_same rfl rfl other
    case h_9 => cases resumed; exact .refl store other
    case h_10 =>
      refine Store.write_told true resumed rfl other ?_
      rintro rfl
      exact tells _ _ _ rfl
    case h_11 =>
      refine Store.retryOrFail_records resumed other ?_
      rintro rfl
      exact tells _ _ _ rfl
    case h_12 => cases resumed

end

end

/-! ## Runs -/

/-- Every transaction on the grievance tells of the status it leaves. -/
def Tells (id : String) (world : World Store Job)
    (label : Label Request Choice) : Prop :=
  ∀ pid choice task, label = .resume pid choice →
    choice.answer ≠ .raises → Runs world pid task →
    world.shared.Tells id task choice.answer

section

variable {settings : Settings} {geometry : Geometry}
  {admissible : Grievance → Prop}

theorem step_records {world next : World Store Job}
    {label : Label Request Choice} {id : String}
    (taken : (program settings geometry admissible).system.step world label =
      some next)
    (tells : Tells id world label) :
    world.shared.Records next.shared id := by
  have stepped : (program settings geometry admissible).step world label =
      some next := taken
  rcases Process.Program.step_cases stepped with
    ⟨pid, request, rfl, _, rfl⟩ |
    ⟨pid, choice, job, shared, after, rfl, running, resumed, rfl⟩ |
    ⟨pid, job, rfl, running, rfl⟩
  · exact .refl _ id
  · rcases Job.resume_cases resumed with
      ⟨task, progress, doing, moving, _⟩ | ⟨rfl, _⟩
    · apply Task.resume_records moving
      intro plain
      exact tells pid choice task rfl plain ⟨job, running, doing⟩
    · exact .refl _ id
  · have released : (job.release world.shared).grievances =
        world.shared.grievances ∧
        (job.release world.shared).events = world.shared.events := by
      unfold Job.release
      cases job.task with
      | none => exact ⟨rfl, rfl⟩
      | some task => cases task <;> exact ⟨rfl, rfl⟩
    exact .of_same released.1 released.2 id

/-- As long as every transaction on a grievance tells of the status it leaves,
every change of its status appends an event, and the last change of its history
is the one to the stored status. -/
theorem history_complete {world final : World Store Job}
    {labels : List (Label Request Choice)} {id : String}
    (runs : (program settings geometry admissible).system.RunWhen
      (Tells id) world labels final)
    (before : world.shared.Audited id) :
    final.shared.Audited id ∧
      ∀ label next,
        (program settings geometry admissible).system.step final label =
          some next →
        Tells id final label → next.shared.statusOf id ≠ final.shared.statusOf id →
        ∃ event events, next.shared.eventsOf id =
            event :: (events ++ final.shared.eventsOf id) ∧
          next.shared.statusOf id = some event.status := by
  constructor
  · refine Transition.System.RunWhen.preserves
      (fun world => world.shared.Audited id) ?_ runs before
    intro world label next audited tells taken
    exact (step_records taken tells).audited audited
  · intro label next taken tells changed
    rcases step_records taken tells with ⟨same, _⟩ | appended
    · exact absurd same changed
    · exact appended

end

/-! ## A complete history, and a silent change -/

theorem Store.audited_iff {store : Store} {id : String}
    {status : GrievanceStatus} (stored : store.statusOf id = some status) :
    store.Audited id ↔
      lastChange ((store.eventsOf id).map (·.status)) = some status := by
  obtain ⟨row, found, rfl⟩ := Option.map_eq_some_iff.mp stored
  constructor
  · exact fun audited => audited row found
  · intro last row' found'
    have is : row' = row := Option.some.inj (found'.symm.trans found)
    rw [is]
    exact last

def Store.historyOf (store : Store) (id : String) :
    Option GrievanceStatus × List GrievanceStatus :=
  (store.statusOf id, (store.eventsOf id).map (·.status))

/-- The receipt has been shown. -/
def shownReceipt : Store :=
  { Store.single "g" reviewedGrievance with
    events :=
      [{ grievanceId := "g", status := .awaitingConfirmation, note := none
         createdAt := 0 }] }

theorem shownReceipt_initial :
    (program defaultSettings flatMap fun _ => True).initial shownReceipt := by
  refine ⟨rfl, rfl, ?_⟩
  exact fun _ _ _ => trivial

instance (known row : Grievance) (status : GrievanceStatus) (told : Bool) :
    Decidable (Told known row status told) :=
  inferInstanceAs (Decidable (if told then _ else _))

/-- A process that is alone and tells of the status it leaves. -/
def tellsAlone (store : Store) (job : Job) (choice : Choice) : Bool :=
  match job.task with
  | none => true
  | some (.createDraft _) => false
  | some task =>
      (task.assigns choice.answer).all fun (id, known, status, told) =>
        (store.grievances.find id).all fun row =>
          decide (Told known row status told)

theorem tells_of_alone {id : String} {world : World Store Job} {job : Job}
    {choice : Choice} (only : Process.OnlyRunning world 0 (some job))
    (test : tellsAlone world.shared job choice = true) :
    Tells id world (.resume 0 choice) := by
  rintro pid _ task ⟨⟩ _ runs
  have doing := task_of_alone only runs
  constructor
  · rintro form rfl
    simp only [tellsAlone, doing] at test
    cases test
  · intro known status told assigned row found
    unfold tellsAlone at test
    rw [doing] at test
    cases task with
    | createDraft form => cases test
    | _ => simpa [assigned, found] using test

/-- The citizen confirms and cancels. -/
theorem history_complete_cancelled :
    ∃ final : World Store Job, final.Quiet ∧ final.shared.Audited "g" ∧
      final.shared.historyOf "g" =
        (some .cancelled,
          [.cancelled, .pendingWindow, .registered,
            .awaitingConfirmation]) := by
  have ran : ((program defaultSettings flatMap fun _ => True).serial
      tellsAlone shownReceipt
      [(.confirmDraft "g" "citizen",
        [⟨1, .plain⟩, ⟨1, .plain⟩, ⟨1, .plain⟩, ⟨1, .plain⟩, ⟨2, .plain⟩]),
       (.cancel "g", [⟨3, .plain⟩, ⟨3, .plain⟩])]).map
      (·.historyOf "g") =
      some (some .cancelled,
        [.cancelled, .pendingWindow, .registered,
          .awaitingConfirmation]) := by
    decide +kernel
  obtain ⟨shared, served, observed⟩ := Option.map_eq_some_iff.mp ran
  have idle : (World.start shownReceipt : World Store Job).Quiet :=
    fun _ => rfl
  obtain ⟨labels, final, runs, rfl, quiet⟩ :=
    Process.Program.runWhen_serial
      (fun _ _ _ _ _ _ _ same => by cases same)
      (fun _ _ _ => tells_of_alone) idle served
  have start : shownReceipt.Audited "g" :=
    (Store.audited_iff rfl).mpr (by decide)
  exact ⟨final, quiet, (history_complete runs start).1, observed⟩

/-- The sweep marks a grievance before it calls the dispatcher. -/
theorem history_incomplete :
    ∃ world final : World Store Job,
      (program defaultSettings flatMap fun _ => True).system.Reachable world ∧
      (program defaultSettings flatMap fun _ => True).system.RunWhen Always
        world [.resume 1 ⟨days 1 + 3, .plain⟩] final ∧
      world.shared.Audited "g" ∧ ¬ final.shared.Audited "g" ∧
      world.shared.historyOf "g" =
        (some .pendingWindow,
          [.pendingWindow, .registered, .awaitingConfirmation]) ∧
      final.shared.historyOf "g" =
        (some .dispatching,
          [.pendingWindow, .registered, .awaitingConfirmation]) := by
  have ran : (((program defaultSettings flatMap fun _ => True).system.run
      (World.start shownReceipt)
      [.spawn 0 (.confirmDraft "g" "citizen"),
       .resume 0 ⟨1, .plain⟩, .resume 0 ⟨1, .plain⟩, .resume 0 ⟨1, .plain⟩,
       .resume 0 ⟨1, .plain⟩, .resume 0 ⟨2, .plain⟩,
       .spawn 1 (.sweepExpiredWindows 20),
       .resume 1 ⟨days 1 + 2, .selected ["g"]⟩,
       .resume 1 ⟨days 1 + 3, .plain⟩]).bind fun middle =>
      ((program defaultSettings flatMap fun _ => True).system.run middle
        [.resume 1 ⟨days 1 + 3, .plain⟩]).map fun final =>
        (middle.shared.historyOf "g", final.shared.historyOf "g")) =
      some ((some .pendingWindow,
          [.pendingWindow, .registered, .awaitingConfirmation]),
        (some .dispatching,
          [.pendingWindow, .registered, .awaitingConfirmation])) := by
    decide +kernel
  have initial : (program defaultSettings flatMap fun _ => True).system.initial
      (World.start shownReceipt) := ⟨_, shownReceipt_initial, rfl⟩
  obtain ⟨world, final, reached, runs, before, after⟩ :=
    Transition.System.runs_of_run_map initial ran
  obtain ⟨waiting, history⟩ := Prod.mk.inj before
  obtain ⟨dispatching, same⟩ := Prod.mk.inj after
  refine ⟨world, final, reached, runs, ?_, ?_, before, after⟩
  · rw [Store.audited_iff waiting, history]
    decide
  · rw [Store.audited_iff dispatching, same]
    decide

end JanSetu.Pipeline
