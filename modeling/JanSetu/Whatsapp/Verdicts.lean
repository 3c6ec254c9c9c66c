import JanSetu.Library.History
import JanSetu.Whatsapp.Stranded

/-!
# Photos and their verdicts

A replacement commits the new photo, and the check of it commits the verdict,
in two transactions.  The verdict of the old photo stays on the row in between,
and stays there if the check does not commit.  A check that was overtaken by a
replacement writes the verdict of a photo that is not on record any more.
-/

namespace JanSetu.Pipeline

inductive Photo where
  | path (path : String)
  | media (mediaId : String)
deriving DecidableEq

/-- The photo that `_fetch_photo` reads. -/
def photoOf (row : Grievance) : Option Photo :=
  if Python.truthy row.photoPath then row.photoPath.map .path
  else if Python.truthy row.photoMediaId then row.photoMediaId.map .media
  else none

/-- The verdicts that are about a photo. -/
def isOfPhoto : ImageMatchStatus → Bool
  | .matched => true
  | .mismatched => true
  | .unverified => true
  | _ => false

/-- A verdict that a transaction committed, with the photo that the run had
loaded. -/
structure Check where
  grievanceId : String
  photo : Photo
  verdict : ImageMatchStatus
deriving DecidableEq

/-! ## Runs that check -/

/-- `run_pipeline` and `recheck_image`. -/
def Operation.checks : Operation → Bool
  | .runPipeline => true
  | .recheckImage _ => true
  | _ => false

/-- The verdict that the transaction of a run sets. -/
def Operation.verdict (known : Grievance) :
    Operation → Answer → Option ImageMatchStatus
  | .runPipeline, .work work =>
      if (originalText known.issueMessages).isSome then
        some (RunPipeline.imageMatchStatus known work)
      else none
  | .recheckImage proceed, .photo check =>
      some (RecheckImage.imageMatchStatus known proceed check)
  | _, _ => none

/-- The run has read a photo. -/
def Operation.readsPhoto (known : Grievance) : Operation → Answer → Bool
  | .runPipeline, .work work => fetchPhoto known work.photoRead
  | .recheckImage proceed, .photo check =>
      !proceed && fetchPhoto known (check ≠ .unread)
  | _, _ => false

/-- The check that a step commits. -/
def Task.check : Task → Answer → Option Check
  | .loaded operation id known, answer =>
      (operation.verdict known answer).bind fun verdict =>
        (photoOf known).map fun photo =>
          { grievanceId := id, photo := photo, verdict := verdict }
  | _, _ => none

/-- The task is a run that will set the verdict of the grievance. -/
def Task.Checks (id : String) : Task → Prop
  | .opened operation target => operation.checks = true ∧ target = id
  | .loaded operation target _ => operation.checks = true ∧ target = id
  | _ => False

/-! ## Rows that have been checked -/

/-- A verdict about a photo is one of the photo that the row points to. -/
def FromPhoto (checks : List Check) (id : String) (row : Grievance) : Prop :=
  ∀ verdict, row.imageMatchStatus = some verdict → isOfPhoto verdict = true →
    ∃ photo, photoOf row = some photo ∧
      { grievanceId := id, photo := photo, verdict := verdict } ∈ checks

def Store.Unchecked (store : Store) (checks : List Check) (id : String) :
    Prop :=
  ¬ store.Every id (FromPhoto checks id)

/-- The ways in which a step can leave a row unchecked. -/
inductive Task.Misses (store : Store) (checks : List Check)
    (answer : Answer) (id : String) : Task → Prop where
  | interrupted {task : Task} :
      task.Checks id →
      store.Unchecked checks id →
      task.Interrupted store answer →
      Misses store checks answer id task
  -- The photo has been replaced since the run loaded the row.
  | outdated {operation : Operation} {known current : Grievance} :
      operation.readsPhoto known answer = true →
      store.grievances.find id = some current →
      photoOf known ≠ photoOf current →
      Misses store checks answer id (.loaded operation id known)
  -- A flush that sets the verdict that the session knows writes nothing.
  | unaware {operation : Operation} {known current : Grievance} :
      operation.checks = true →
      store.Unchecked checks id →
      store.grievances.find id = some current →
      known.imageMatchStatus ≠ current.imageMatchStatus →
      Misses store checks answer id (.loaded operation id known)
  -- The draft has got a verdict before its uploads.
  | uploaded {form : DraftForm} {known current : Grievance}
      {verdict : ImageMatchStatus} :
      store.grievances.find id = some current →
      current.imageMatchStatus = some verdict →
      isOfPhoto verdict = true →
      form.photoPath ≠ known.photoPath →
      Misses store checks answer id (.loaded (.storeUploads form) id known)

section

variable {settings : Settings} {geometry : Geometry} {store after : Store}
  {checks : List Check} {id : String} {known : Grievance} {answer : Answer}
  {operation : Operation} {task : Task} {progress : Progress}
  {choice : Choice} {verdict : ImageMatchStatus}

theorem photoOf_of_fetchPhoto {row : Grievance} {photoRead : Bool}
    (fetched : fetchPhoto row photoRead = true) :
    ∃ photo, photoOf row = some photo := by
  have given : ∀ text, Python.truthy text = true →
      ∃ value, text = some value := by
    intro text truthy
    cases text with
    | none => cases truthy
    | some value => exact ⟨value, rfl⟩
  unfold fetchPhoto at fetched
  unfold photoOf
  by_cases path : Python.truthy row.photoPath = true
  · obtain ⟨value, same⟩ := given _ path
    rw [if_pos path, same]
    exact ⟨.path value, rfl⟩
  · have media : Python.truthy row.photoMediaId = true := by
      simpa [path] using (Bool.and_eq_true_iff.mp fetched).1
    obtain ⟨value, same⟩ := given _ media
    rw [if_neg path, if_pos media, same]
    exact ⟨.media value, rfl⟩

/-- A verdict about a photo comes from a run that has read one. -/
theorem Operation.readsPhoto_of_verdict
    (sets : operation.verdict known answer = some verdict)
    (about : isOfPhoto verdict = true) :
    operation.readsPhoto known answer = true := by
  unfold Operation.verdict at sets
  split at sets
  case h_1 work =>
    split at sets
    · cases sets
      unfold RunPipeline.imageMatchStatus at about
      split at about
      case isTrue fetched => exact fetched
      case isFalse => cases about
    · cases sets
  case h_2 proceed check =>
    cases sets
    unfold RecheckImage.imageMatchStatus at about
    split at about
    case isTrue => cases about
    case isFalse reads =>
      rw [not_or, not_not] at reads
      unfold Operation.readsPhoto
      cases check with
      | unread => cases about
      | _ => simpa using reads
  case h_3 => cases sets

theorem Operation.photoOf_of_readsPhoto
    (reads : operation.readsPhoto known answer = true) :
    ∃ photo, photoOf known = some photo := by
  unfold Operation.readsPhoto at reads
  split at reads
  · exact photoOf_of_fetchPhoto reads
  · exact photoOf_of_fetchPhoto (Bool.and_eq_true_iff.mp reads).2
  · cases reads

/-- A verdict about a photo is noted with the photo. -/
theorem Task.check_of_verdict
    (sets : operation.verdict known answer = some verdict)
    (about : isOfPhoto verdict = true) :
    ∃ photo, photoOf known = some photo ∧
      Task.check (.loaded operation id known) answer =
        some { grievanceId := id, photo := photo, verdict := verdict } := by
  obtain ⟨photo, points⟩ := Operation.photoOf_of_readsPhoto
    (Operation.readsPhoto_of_verdict sets about)
  refine ⟨photo, points, ?_⟩
  simp [Task.check, sets, points]

theorem FromPhoto.mono {row : Grievance} {more : List Check}
    (belongs : FromPhoto checks id row)
    (kept : ∀ check ∈ checks, check ∈ more) : FromPhoto more id row := by
  intro verdict judged about
  obtain ⟨photo, points, member⟩ := belongs verdict judged about
  exact ⟨photo, points, kept _ member⟩

/-- Neither of the columns has changed. -/
theorem FromPhoto.of_same {row other : Grievance}
    (belongs : FromPhoto checks id row)
    (judged : other.imageMatchStatus = row.imageMatchStatus)
    (points : photoOf other = photoOf row) : FromPhoto checks id other := by
  unfold FromPhoto
  rw [judged, points]
  exact belongs

theorem FromPhoto.unjudged {row : Grievance}
    (none : ∀ verdict, row.imageMatchStatus = some verdict →
      isOfPhoto verdict = false) : FromPhoto checks id row := by
  intro verdict judged about
  rw [none verdict judged] at about
  cases about

theorem photoOf_set_same {session : RowSession} {now : Time}
    {fields : Grievance → Grievance}
    (path : (fields session.known).photoPath = session.known.photoPath)
    (media : (fields session.known).photoMediaId =
      session.known.photoMediaId) :
    photoOf (session.set now fields).current = photoOf session.current := by
  unfold photoOf
  rw [RowSession.photoPath_isColumn.set_same session now path,
    RowSession.photoMediaId_isColumn.set_same session now media]

theorem Store.Every.mono {property other : Grievance → Prop}
    (every : store.Every id property)
    (implies : ∀ row, property row → other row) : store.Every id other :=
  fun row found => implies row (every row found)

theorem Store.Every.of_same {property : Grievance → Prop}
    (every : store.Every id property)
    (same : after.grievances = store.grievances) :
    after.Every id property := by
  intro row found
  apply every
  rw [← same]
  exact found

/-! ## A run that commits, and one that does not -/

/-- A run sets its verdict and leaves the photo alone, or it is interrupted and
sets nothing. -/
theorem Task.resume_checks (checks : operation.checks = true)
    (resumed : Task.resume settings geometry store
      (.loaded operation id known) choice = some (after, progress)) :
    (after.grievances = store.grievances ∧
      operation.verdict known choice.answer = none ∧
      (Task.loaded operation id known).Interrupted store choice.answer) ∨
    ∃ current fields verdict,
      store.Wrote after id known current (·.set choice.now fields) ∧
      operation.verdict known choice.answer = some verdict ∧
      (fields known).imageMatchStatus = some verdict ∧
      (fields known).photoPath = known.photoPath ∧
      (fields known).photoMediaId = known.photoMediaId := by
  rcases Task.resume_cases resumed with ⟨raises, rfl, _⟩ | ⟨plain, _⟩
  · left
    refine ⟨rfl, ?_, .inl raises⟩
    rw [raises]
    cases operation <;> rfl
  unfold Task.resume at resumed
  rw [if_neg plain] at resumed
  dsimp only at resumed
  unfold Operation.run at resumed
  split at resumed
  case h_2 work given _ =>
    unfold Store.runPipeline at resumed
    split at resumed
    case h_1 none =>
      cases resumed
      left
      refine ⟨rfl, ?_, .inr (.inr ⟨id, known, rfl, none⟩)⟩
      simp [Operation.verdict, given, none]
    case h_2 text texts =>
      obtain ⟨current, wrote, _⟩ := Store.write_wrote resumed
      right
      refine ⟨current, _, RunPipeline.imageMatchStatus known work, wrote, ?_,
        ?_, ?_, ?_⟩
      · simp [Operation.verdict, given, texts]
      · exact withReceipt_column settings (fun _ => rfl) _ _ known
      · exact withReceipt_column settings (fun _ => rfl) _ _ known
      · exact withReceipt_column settings (fun _ => rfl) _ _ known
  case h_4 proceed check given _ =>
    unfold Store.recheckImage at resumed
    obtain ⟨current, wrote, _⟩ := Store.write_wrote resumed
    right
    refine ⟨current, _,
      RecheckImage.imageMatchStatus known proceed check, wrote, ?_, ?_, ?_,
      ?_⟩
    · rw [given]
      rfl
    · exact withReceipt_column settings (fun _ => rfl) _ _ known
    · exact withReceipt_column settings (fun _ => rfl) _ _ known
    · exact withReceipt_column settings (fun _ => rfl) _ _ known
  case h_13 => cases resumed
  all_goals cases checks

/-- After a run that has committed, the verdict is one of the photo on record,
unless the run was overtaken. -/
theorem Store.Wrote.fromPhoto {current : Grievance} {now : Time}
    {fields : Grievance → Grievance}
    (wrote : store.Wrote after id known current (·.set now fields))
    (checks' : operation.checks = true)
    (sets : operation.verdict known answer = some verdict)
    (judges : (fields known).imageMatchStatus = some verdict)
    (path : (fields known).photoPath = known.photoPath)
    (media : (fields known).photoMediaId = known.photoMediaId)
    (kept : ¬ Task.Misses store checks answer id
      (.loaded operation id known)) :
    after.Every id (FromPhoto
      ((Task.check (.loaded operation id known) answer).toList ++ checks)
      id) := by
  intro row found
  obtain rfl := Option.some.inj (wrote.find_self.symm.trans found)
  have points : photoOf (RowSession.set
      { known := known, current := current } now fields).current =
      photoOf current := photoOf_set_same path media
  have column := RowSession.imageMatchStatus_isColumn
  -- The run's verdict is on record now.
  have own : (RowSession.set { known := known, current := current } now
      fields).current.imageMatchStatus = some verdict →
      FromPhoto ((Task.check (.loaded operation id known) answer).toList ++
        checks) id (RowSession.set { known := known, current := current } now
          fields).current := by
    intro judged found' same about
    obtain rfl := Option.some.inj (judged.symm.trans same)
    obtain ⟨photo, loaded, noted⟩ := Task.check_of_verdict sets about
    refine ⟨photo, ?_, ?_⟩
    · rw [points, ← loaded]
      by_contra other
      exact kept (.outdated (Operation.readsPhoto_of_verdict sets about)
        wrote.found (Ne.symm other))
    · rw [noted]
      simp
  by_cases aware : known.imageMatchStatus = current.imageMatchStatus
  · apply own
    rw [column.set_current]
    simp [aware, judges]
  · have before : store.Every id (FromPhoto checks id) := by
      by_contra unchecked
      exact kept (.unaware checks' unchecked wrote.found aware)
    rcases column.set_cases { known := known, current := current } now with
      same | same
    · have belongs := (before current wrote.found).of_same same points
      exact belongs.mono fun check member => List.mem_append_right _ member
    · exact own (same.trans judges)

/-! ## Everybody else -/

theorem FromPhoto.draft {humanId contactId userId : String}
    {context : DraftContext} {now : Time} :
    FromPhoto checks id
      (draftGrievance humanId contactId none (some userId) .web context
        now) := by
  apply FromPhoto.unjudged
  intro verdict judged
  cases judged

/-- A step of a task that is no run for the grievance. -/
theorem Task.Moves.fromPhoto {now : Time}
    (moves : task.Moves settings geometry store now answer after progress)
    (idle : ¬ task.Checks id)
    (kept : ¬ task.Misses store checks answer id)
    (before : store.Every id (FromPhoto checks id)) :
    after.Every id (FromPhoto checks id) ∨
      ∃ next, progress = .more next ∧ next.Checks id := by
  by_cases replaces : ∃ userId path known,
      task = .loaded (.replacePhoto userId path) id known
  · obtain ⟨userId, path, known, rfl⟩ := replaces
    cases moves with
    | returned => exact .inl before
    | wrote writes =>
        cases writes with
        | replacePhoto => exact .inr ⟨_, rfl, rfl, rfl⟩
  left
  refine moves.every ?_ ?_ before
  · intro humanId contactId userId context now
    exact FromPhoto.draft
  intro known writes current touches stored belongs
  -- Most writes set neither the verdict nor the photo.
  have unchanged : ∀ session : RowSession, FromPhoto checks id session.current →
      ∀ time fields,
      (fields session.known).imageMatchStatus =
        session.known.imageMatchStatus →
      (fields session.known).photoPath = session.known.photoPath →
      (fields session.known).photoMediaId = session.known.photoMediaId →
      FromPhoto checks id (session.set time fields).current := by
    intro session belongs time fields verdict path media
    exact belongs.of_same
      (RowSession.imageMatchStatus_isColumn.set_same session time verdict)
      (photoOf_set_same path media)
  cases touches with
  | wrote writes =>
      cases writes with
      | runPipeline => exact absurd ⟨rfl, rfl⟩ idle
      | recheckImage => exact absurd ⟨rfl, rfl⟩ idle
      | replacePhoto => exact absurd ⟨_, _, _, rfl⟩ replaces
      | storeUploads form =>
          by_cases same : form.photoPath = known.photoPath
          · exact unchanged _ belongs _ _ rfl same rfl
          · apply FromPhoto.unjudged
            intro verdict judged
            have found : store.grievances.find id = some current := by
              simpa [Task.merges] using stored
            have before : current.imageMatchStatus = some verdict := by
              rw [← judged]
              apply Eq.symm
              apply RowSession.imageMatchStatus_isColumn.set_same
              rfl
            by_contra about
            rw [Bool.not_eq_false] at about
            exact kept (.uploaded found before about same)
      | _ => exact unchanged _ belongs _ _ rfl rfl rfl
  | confirmed confirms =>
      cases confirms <;> exact unchanged _ belongs _ _ rfl rfl rfl
  | openedWindow =>
      apply unchanged _ _ _ _ rfl rfl rfl
      exact unchanged _ belongs _ _ rfl rfl rfl
  | merged =>
      apply unchanged _ _ _ _ rfl rfl rfl
      exact unchanged _ belongs _ _ rfl rfl rfl
  | reported => exact unchanged _ belongs _ _ rfl rfl rfl
  | submitted => exact unchanged _ belongs _ _ rfl rfl rfl
  | retried => exact unchanged _ belongs _ _ rfl rfl rfl

/-- A step after which the verdict of a grievance is not one of its photo. -/
theorem Task.resume_unchecked
    (resumed : task.resume settings geometry store choice =
      some (after, progress))
    (due : after.Unchecked ((task.check choice.answer).toList ++ checks)
      id) :
    (∃ next, progress = .more next ∧ next.Checks id) ∨
    (store.Unchecked checks id ∧ ¬ task.Checks id) ∨
    task.Misses store checks choice.answer id := by
  by_cases missed : task.Misses store checks choice.answer id
  · exact .inr (.inr missed)
  have more : ∀ row, FromPhoto checks id row →
      FromPhoto ((task.check choice.answer).toList ++ checks) id row :=
    fun row belongs => belongs.mono fun check member =>
      List.mem_append_right _ member
  -- Rows that have not changed were unchecked before.
  have before : after.grievances = store.grievances →
      store.Unchecked checks id := by
    intro same every
    exact due ((every.mono more).of_same same)
  by_cases carries : task.Checks id
  · cases task with
    | opened operation target =>
        rcases Task.resume_cases resumed with ⟨raises, rfl, _⟩ | ⟨_, moves⟩
        · have unchecked := before rfl
          exact absurd (.interrupted carries unchecked (.inl raises)) missed
        · cases moves with
          | loaded => exact .inl ⟨_, rfl, carries⟩
          | missing absent =>
              obtain ⟨_, rfl⟩ := carries
              refine absurd ?_ due
              intro row found
              rw [absent] at found
              cases found
    | loaded operation target known =>
        obtain ⟨checks', rfl⟩ := carries
        rcases Task.resume_checks checks' resumed with
          ⟨same, _, interrupted⟩ |
          ⟨current, fields, verdict, wrote, sets, judges, path, media⟩
        · have unchecked := before same
          exact absurd (.interrupted ⟨checks', rfl⟩ unchecked interrupted)
            missed
        · exact absurd
            (wrote.fromPhoto checks' sets judges path media missed) due
    | _ => cases carries
  · by_cases unchecked : store.Unchecked checks id
    · exact .inr (.inl ⟨unchecked, carries⟩)
    have every : store.Every id (FromPhoto checks id) := not_not.mp unchecked
    rcases Task.resume_cases resumed with ⟨_, rfl, _⟩ | ⟨_, moves⟩
    · exact absurd (before (task.release_sameRows store).1) unchecked
    · rcases moves.fromPhoto carries missed every with belongs | arrives
      · exact absurd (belongs.mono more) due
      · exact .inl arrives

theorem Job.resume_unchecked {job : Job} {next : Option Job}
    (resumed : job.resume settings geometry store choice =
      some (after, next))
    (due : after.Unchecked
      ((job.task.bind (·.check choice.answer)).toList ++ checks) id) :
    (∃ further run, next = some further ∧ further.task = some run ∧
      run.Checks id) ∨
    (store.Unchecked checks id ∧
      ∀ run, job.task = some run → ¬ run.Checks id) ∨
    ∃ run, job.task = some run ∧
      run.Misses store checks choice.answer id := by
  rcases Job.resume_cases resumed with
    ⟨task, progress, doing, moved, rfl⟩ | ⟨rfl, none, _⟩
  · rw [doing] at due
    rcases Task.resume_unchecked moved due with
      ⟨run, rfl, carries⟩ | ⟨before, idle⟩ | missed
    · obtain ⟨further, same, runs⟩ := job.next_more run
      exact .inl ⟨further, run, same, runs, carries⟩
    · refine .inr (.inl ⟨before, fun run same => ?_⟩)
      rw [doing] at same
      cases same
      exact idle
    · exact .inr (.inr ⟨task, doing, missed⟩)
  · rw [none] at due
    refine .inr (.inl ⟨due, fun run same => ?_⟩)
    rw [none] at same
    cases same

end

end JanSetu.Pipeline

namespace JanSetu.Whatsapp

open Pipeline (Geometry Check Photo FromPhoto photoOf isOfPhoto)
open Process (Label Program Recorded)

/-! ## Processes -/

/-- The run of the pipeline that a process is in or comes to next. -/
def Task.coming : Task → Option Pipeline.Task
  | .web job => job.task
  | task => task.underway.bind Followup.run

/-- The process will set the verdict of the grievance. -/
def Task.Rechecks (task : Task) (id : String) : Prop :=
  ∃ run, task.coming = some run ∧ run.Checks id

/-- The check that a step of a process commits. -/
def Task.check (task : Task) (choice : Choice) : Option Check :=
  match choice.answer with
  | .pipeline answer => task.run.bind (·.check answer)
  | _ => none

/-- The ways in which a step of a process can leave a grievance with a verdict
that is not one of its photo. -/
inductive Task.Misses (store : Store) (checks : List Check)
    (choice : Choice) (id : String) : Task → Prop where
  | ran {task : Task} {run : Pipeline.Task} {answer : Pipeline.Answer} :
      task.run = some run →
      choice.answer = .pipeline answer →
      run.Misses store.pipeline checks answer id →
      Misses store checks choice id task
  -- The replies, which come before the check, raise.
  | raised {task : Task} :
      task.Rechecks id →
      store.pipeline.Unchecked checks id →
      choice.answer = .raises →
      Misses store checks choice id task

section

variable {settings : Settings} {geometry : Geometry} {store after : Store}
  {choice : Choice} {checks : List Check} {id : String}

theorem Store.Acts.unchecked {incoming : IncomingWhatsAppMessage}
    {conversationId : String} {result : FsmResult} {inputs : HandleInputs}
    {now : Time} {context : Context}
    (acts : store.Acts incoming conversationId result inputs now after
      context) (due : after.pipeline.Unchecked checks id) :
    store.pipeline.Unchecked checks id ∨
      result.action = some .recheckPhoto ∧
        context.draft.grievanceId = some id := by
  by_cases unchecked : store.pipeline.Unchecked checks id
  · exact .inl unchecked
  have before : store.pipeline.Every id (FromPhoto checks id) :=
    not_not.mp unchecked
  cases acts with
  | drafted _ _ _ draft grievances _ =>
      refine absurd ?_ due
      intro row found
      rw [grievances, Table.find_put] at found
      split at found
      · cases found
        apply FromPhoto.unjudged
        intro verdict judged
        rw [draft] at judged
        cases judged
      · exact before row found
  | redrafted _ _ grievances _ =>
      exact absurd (before.of_same grievances) due
  | @rephotographed _ grievanceId _ rechecks draft wrote _ =>
      by_cases same : id = grievanceId
      · subst same
        exact .inr ⟨rechecks, draft⟩
      · refine absurd ?_ due
        intro row found
        rw [wrote.find_other same] at found
        exact before row found
  | nothing => exact .inl due

/-- A replacement is followed by a check of it. -/
theorem Store.Handles.unchecked {incoming : IncomingWhatsAppMessage}
    {geocode : Option ReverseGeocode} {inputs : HandleInputs} {now : Time}
    {handled : Handled}
    (handles : store.Handles settings incoming geocode inputs now after
      handled) (due : after.pipeline.Unchecked checks id) :
    store.pipeline.Unchecked checks id ∨
      ∃ followup run, handledFollowup incoming handled = some followup ∧
        followup.run = some run ∧ run.Checks id := by
  cases handles with
  | @answered locked _ _ _ locks =>
      rw [Store.answer_eq] at due
      have same : locked.pipeline = store.pipeline := by
        rcases locks with rfl | locks
        · rfl
        · exact locks.pipeline
      rw [← same]
      exact .inl due
  | @advanced locked acted found written upserted result context locks _ _ _
      acts =>
      rw [Store.finishTurn_pipeline] at due
      rcases acts.unchecked due with before | ⟨rechecks, draft⟩
      · rw [locks.pipeline] at before
        exact .inl before
      · right
        refine ⟨.start incoming.waId id .recheckPhoto,
          .opened (.recheckImage false) id, ?_, rfl, rfl, rfl⟩
        rw [rechecks]
        simp [handledFollowup, draft, formatted]

/-- A process that is at a follow-up is in the run of it. -/
theorem Task.run_of_followup {task : Task} {followup : Followup}
    (doing : task.followup = some followup) :
    task.run = followup.run ∧ task.coming = followup.run := by
  cases task with
  | handling eventId incoming stage rest allOk =>
      cases stage with
      | following other =>
          cases doing
          exact ⟨rfl, rfl⟩
      | _ => cases doing
  | recovering other rest =>
      cases doing
      exact ⟨rfl, rfl⟩
  | _ => cases doing

/-- A step that commits no check, and after which the grievances are the same,
leaves nothing unchecked that was not so before. -/
theorem Task.unchecked_of_same {task : Task}
    (none : task.check choice = none)
    (same : after.pipeline = store.pipeline)
    (due : after.pipeline.Unchecked
      ((task.check choice).toList ++ checks) id) :
    store.pipeline.Unchecked checks id := by
  rw [none, same] at due
  exact due

theorem Followup.Moves.unchecked {task : Task} {followup : Followup}
    {progress : Progress FollowupStage}
    (moves : followup.Moves settings geometry store choice after progress)
    (doing : task.followup = some followup)
    (due : after.pipeline.Unchecked
      ((task.check choice).toList ++ checks) id) :
    (∃ stage run, progress = .more stage ∧
      Followup.run { followup with stage := stage } = some run ∧
      run.Checks id) ∨
    (store.pipeline.Unchecked checks id ∧ ¬ task.Rechecks id) ∨
    task.Misses store checks choice id := by
  obtain ⟨runs, comes⟩ := Task.run_of_followup doing
  -- A follow-up that is past its run has nothing to check.
  have past : followup.run = none → after.pipeline = store.pipeline →
      store.pipeline.Unchecked checks id ∧ ¬ task.Rechecks id := by
    intro none same
    have silent : task.check choice = Option.none := by
      unfold Task.check
      rw [runs, none]
      cases choice.answer <;> rfl
    refine ⟨Task.unchecked_of_same silent same due, ?_⟩
    rintro ⟨run, coming, _⟩
    rw [comes, none] at coming
    cases coming
  cases moves with
  | @ran action run answer pipeline moved stage given ran =>
      have running : followup.run = some run := by
        rw [Followup.run, stage]
      have noted : task.check choice = run.check answer := by
        rw [Task.check, given, runs, running]
        rfl
      rw [noted] at due
      rcases Pipeline.Task.resume_unchecked ran due with
        ⟨next, rfl, carries⟩ | ⟨before, idle⟩ | missed
      · exact .inl ⟨.running action next, next, rfl, rfl, carries⟩
      · refine .inr (.inl ⟨before, ?_⟩)
        rintro ⟨other, coming, carries⟩
        rw [comes, running] at coming
        cases coming
        exact idle carries
      · exact .inr (.inr (.ran (runs.trans running) given missed))
  | unsent stage locks =>
      exact .inr (.inl (past (by rw [Followup.run, stage]) rfl))
  | sent stage =>
      exact .inr (.inl (past (by rw [Followup.run, stage]) rfl))
  | replied stage =>
      exact .inr (.inl (past (by rw [Followup.run, stage]) rfl))
  | posted stage =>
      exact .inr (.inl (past (by rw [Followup.run, stage]) rfl))
  | raised why =>
      rcases why with raises | ⟨result, stage, _⟩
      · have silent : task.check choice = none := by
          rw [Task.check, raises]
        have before := Task.unchecked_of_same silent rfl due
        by_cases carries : task.Rechecks id
        · exact .inr (.inr (.raised carries before raises))
        · exact .inr (.inl ⟨before, carries⟩)
      · exact .inr (.inl (past (by rw [Followup.run, stage]) rfl))

theorem Task.resume_web {job : Pipeline.Job} {next : Option Task}
    (resumed : Task.resume settings geometry store (.web job) choice =
      some (after, next)) :
    ∃ answer pipeline further, choice.answer = .pipeline answer ∧
      job.resume settings.pipeline geometry store.pipeline
        { now := choice.now, answer := answer } = some (pipeline, further) ∧
      after = { store with pipeline := pipeline } ∧
      next = further.map .web := by
  cases given : choice.answer with
  | pipeline answer =>
      simp only [Task.resume, given] at resumed
      obtain ⟨⟨pipeline, further⟩, moved, same⟩ :=
        Option.map_eq_some_iff.mp resumed
      cases same
      exact ⟨answer, pipeline, further, rfl, moved, rfl, rfl⟩
  | _ => simp [Task.resume, given] at resumed

theorem Task.web_unchecked {job : Pipeline.Job} {next : Option Task}
    (resumed : Task.resume settings geometry store (.web job) choice =
      some (after, next))
    (due : after.pipeline.Unchecked
      ((Task.check (.web job) choice).toList ++ checks) id) :
    (∃ process, next = some process ∧ process.Rechecks id) ∨
    (store.pipeline.Unchecked checks id ∧
      ¬ Task.Rechecks (.web job) id) ∨
    Task.Misses store checks choice id (.web job) := by
  obtain ⟨answer, pipeline, further, given, moved, rfl, rfl⟩ :=
    Task.resume_web resumed
  have noted : Task.check (.web job) choice =
      job.task.bind (·.check answer) := by
    rw [Task.check, given]
    rfl
  rw [noted] at due
  rcases Pipeline.Job.resume_unchecked moved due with
    ⟨process, run, rfl, runs, carries⟩ | ⟨before, idle⟩ |
    ⟨run, runs, missed⟩
  · exact .inl ⟨.web process, rfl, run, runs, carries⟩
  · refine .inr (.inl ⟨before, ?_⟩)
    rintro ⟨run, coming, carries⟩
    exact idle run coming carries
  · exact .inr (.inr (.ran runs given missed))

/-- A step of a process after which the verdict of a grievance is not one of
its photo. -/
theorem Task.resume_unchecked {task : Task} {next : Option Task}
    (resumed : task.resume settings geometry store choice =
      some (after, next))
    (due : after.pipeline.Unchecked
      ((task.check choice).toList ++ checks) id) :
    (∃ process, next = some process ∧ process.Rechecks id) ∨
    (store.pipeline.Unchecked checks id ∧ ¬ task.Rechecks id) ∨
    task.Misses store checks choice id := by
  by_cases web : ∃ job, task = .web job
  · obtain ⟨job, rfl⟩ := web
    exact Task.web_unchecked resumed due
  -- A process that is not at the pipeline.
  have silent : task.run = none → task.check choice = none := by
    intro none
    unfold Task.check
    rw [none]
    cases choice.answer <;> rfl
  have idle : task.run = none → task.coming = none →
      after.pipeline = store.pipeline →
      store.pipeline.Unchecked checks id ∧ ¬ task.Rechecks id := by
    intro away none same
    refine ⟨Task.unchecked_of_same (silent away) same due, ?_⟩
    rintro ⟨run, coming, _⟩
    rw [none] at coming
    cases coming
  cases Task.resume_steps resumed with
  | @handled eventId incoming stage rest allOk _ progress moves =>
      cases moves with
      | geocoded => exact .inr (.inl (idle rfl rfl rfl))
      | consumed => exact .inr (.inl (idle rfl rfl rfl))
      | claimed => exact .inr (.inl (idle rfl rfl rfl))
      | rolledBack => exact .inr (.inl (idle rfl rfl rfl))
      | committed handles =>
          have here : after.pipeline.Unchecked checks id := by
            rw [silent rfl] at due
            exact due
          rcases handles.unchecked here with
            before | ⟨followup, run, same, runs, carries⟩
          · refine .inr (.inl ⟨before, ?_⟩)
            rintro ⟨run, coming, _⟩
            cases coming
          · left
            rw [same]
            exact ⟨_, rfl, run, runs, carries⟩
      | @posted followup =>
          have before := Task.unchecked_of_same (silent rfl) rfl due
          cases followup with
          | none => exact .inr (.inl (idle rfl rfl rfl))
          | some followup =>
              by_cases carries : ∃ run, followup.run = some run ∧
                  run.Checks id
              · obtain ⟨run, runs, checks'⟩ := carries
                exact .inl ⟨_, rfl, run, runs, checks'⟩
              · exact .inr (.inl ⟨before, carries⟩)
      | followed moves =>
          rcases moves.unchecked rfl due with
            ⟨stage, run, rfl, runs, carries⟩ | before | missed
          · exact .inl ⟨_, rfl, run, runs, carries⟩
          · exact .inr (.inl before)
          · exact .inr (.inr missed)
      | raised which raises =>
          have none : Task.check
              (.handling eventId incoming stage rest allOk) choice =
              none := by
            rw [Task.check, raises]
          have before := Task.unchecked_of_same none rfl due
          by_cases carries : Task.Rechecks
              (.handling eventId incoming stage rest allOk) id
          · exact .inr (.inr (.raised carries before raises))
          · exact .inr (.inl ⟨before, carries⟩)
  | recovered moves =>
      rcases moves.unchecked rfl due with
        ⟨stage, run, rfl, runs, carries⟩ | before | missed
      · exact .inl ⟨_, rfl, run, runs, carries⟩
      · exact .inr (.inl before)
      · exact .inr (.inr missed)
  | @web job => exact absurd ⟨job, rfl⟩ web
  | kept _ _ _ unhandled unrecovering =>
      cases task with
      | handling => exact absurd rfl (unhandled _ _ _ _ _)
      | recovering => exact absurd rfl (unrecovering _ _)
      | web job => exact absurd ⟨job, rfl⟩ web
      | _ => exact .inr (.inl (idle rfl rfl rfl))

end

/-! ## Runs -/

/-- The verdict of the grievance is not one of the photo it points to. -/
def Outdated (recorded : Recorded Store Check) (id : String) : Prop :=
  recorded.shared.pipeline.Unchecked recorded.notes id

/-- The drivers and the web application, with the checks that have been
committed.  The verdicts that are there at the start have been checked. -/
def checkedProgram (settings : Settings) (geometry : Geometry) :
    Program (Recorded Store Check) Task Request Choice :=
  (program settings geometry).recorded Task.check fun recorded =>
    ∀ id, ¬ Outdated recorded id

/-- No run ends without its verdict, and none commits after it was overtaken,
while the grievance has no other run under way that will check it. -/
structure Rechecked (world : World (Recorded Store Check) Task)
    (label : Label Request Choice) : Prop where
  crashes : ∀ pid task id, label = .crash pid → world.Running pid task →
    task.Rechecks id → Outdated world.shared id →
    Process.CarriedByOther Task.Rechecks world pid id
  steps : ∀ pid choice task id, label = .resume pid choice →
    world.Running pid task →
    task.Misses world.shared.shared world.shared.notes choice id →
    Process.CarriedByOther Task.Rechecks world pid id

section

variable {settings : Settings} {geometry : Geometry}

/-- A run with its checks is a run. -/
theorem checked_forgets {world : World (Recorded Store Check) Task}
    (reachable :
      (checkedProgram settings geometry).system.Reachable world) :
    (program settings geometry).system.Reachable (Process.forget world) := by
  obtain ⟨_, labels, ⟨recorded, initial, rfl⟩, runs⟩ := reachable
  exact ⟨_, labels, ⟨recorded.shared, initial.1, rfl⟩,
    Program.recorded_forgets runs⟩

/-- The checks that the verdicts of the grievances would come from. -/
def Store.initialChecks (store : Store) : List Check :=
  store.pipeline.grievances.rows.entries.filterMap fun entry =>
    entry.2.imageMatchStatus.bind fun verdict =>
      (photoOf entry.2).map fun photo =>
        { grievanceId := entry.1, photo := photo, verdict := verdict }

/-- A run has checks, if the grievances whose verdict is about a photo have one
at the start. -/
theorem checked_lifts {store : Store} {labels : List (Label Request Choice)}
    {world : World Store Task}
    (initial : (program settings geometry).initial store)
    (pictured : ∀ id row verdict,
      store.pipeline.grievances.find id = some row →
      row.imageMatchStatus = some verdict → isOfPhoto verdict = true →
      ∃ photo, photoOf row = some photo)
    (runs : (program settings geometry).system.RunWhen
      Transition.System.Always (World.start store) labels world) :
    ∃ checked, (checkedProgram settings geometry).system.Reachable checked ∧
      Process.forget checked = world := by
  have initially : ∀ id,
      ¬ Outdated { shared := store, notes := store.initialChecks } id := by
    intro id due
    apply due
    intro row found verdict judged about
    obtain ⟨photo, points⟩ := pictured id row verdict found judged about
    refine ⟨photo, points, ?_⟩
    apply List.mem_filterMap.mpr
    exact ⟨⟨id, row⟩, Table.mem_entries_iff.mpr found,
      by simp [judged, points]⟩
  have lifted : ∃ further,
      (checkedProgram settings geometry).system.RunWhen
        Transition.System.Always
        (World.start { shared := store, notes := store.initialChecks })
        labels further ∧ Process.forget further = world :=
    Program.recorded_lifts runs
  obtain ⟨checked, recorded, same⟩ := lifted
  exact ⟨checked, ⟨_, labels, ⟨_, ⟨initial, initially⟩, rfl⟩, recorded⟩,
    same⟩

variable {world : World (Recorded Store Check) Task}

theorem outdated_carried
    (reachable : (checkedProgram settings geometry).system.ReachableWhen
      Rechecked world) :
    Process.Carried Outdated Task.Rechecks world := by
  refine Process.due_carried ?initially ?resumed ?crashed reachable
  case initially =>
    intro recorded initial id
    exact initial.2 id
  case resumed =>
    intro world pid choice task after next id _ permitted running resumed due
    obtain ⟨stepped, notes⟩ := Program.recorded_resume resumed
    unfold Outdated at due
    rw [notes] at due
    rcases Task.resume_unchecked stepped due with carried | before | missed
    · exact .inl carried
    · exact .inr (.inr before)
    · exact .inr (.inl (permitted.steps pid choice task id rfl running
        missed))
  case crashed =>
    intro world pid task id _ permitted running due
    have before : Outdated world.shared id := by
      intro every
      obtain ⟨_, _, _, shape, same⟩ := task.release_eq world.shared.shared
      apply due
      apply every.of_same
      show (task.release world.shared.shared).pipeline.grievances = _
      rw [shape]
      exact same
    refine ⟨before, fun carries => ?_⟩
    exact permitted.crashes pid task id rfl running carries before

/-- When no step is in progress, a verdict about a photo has been computed from
the photo that the grievance points to. -/
theorem verdict_of_photo_on_record
    (reachable : (checkedProgram settings geometry).system.ReachableWhen
      Rechecked world) (quiet : world.Quiet) {id : String} {row : Grievance}
    {verdict : ImageMatchStatus}
    (found : world.shared.shared.pipeline.grievances.find id = some row)
    (judged : row.imageMatchStatus = some verdict)
    (about : verdict = .matched ∨ verdict = .mismatched ∨
      verdict = .unverified) :
    ∃ photo, photoOf row = some photo ∧
      { grievanceId := id, photo := photo, verdict := verdict } ∈
        world.shared.notes := by
  by_contra none
  apply (outdated_carried reachable).none_due quiet id
  intro every
  apply none
  apply every row found verdict judged
  rcases about with rfl | rfl | rfl <;> rfl

end

/-! ## A replacement that is checked, and one that is not -/

/-- The step of a run that has loaded the row as it is stored. -/
def upToDate (store : Pipeline.Store) : Pipeline.Task → Bool
  | .opened _ id => (store.grievances.find id).isSome
  | .loaded (.storeUploads _) _ _ => false
  | .loaded _ id known =>
      decide (store.grievances.find id = some known) &&
        (Pipeline.originalText known.issueMessages).isSome
  | _ => true

/-- A process that is alone, at a run that does not raise. -/
def checksUpToDate (recorded : Recorded Store Check) (task : Task)
    (choice : Choice) : Bool :=
  match task.run, choice.answer with
  | some run, .pipeline answer =>
      decide (answer ≠ .raises) && upToDate recorded.shared.pipeline run
  | _, _ => false

theorem not_misses_of_upToDate {store : Pipeline.Store}
    {checks : List Check} {answer : Pipeline.Answer} {id : String}
    {run : Pipeline.Task} (plain : answer ≠ .raises)
    (test : upToDate store run = true) :
    ¬ run.Misses store checks answer id := by
  intro misses
  cases misses with
  | interrupted carries _ interrupted =>
      rcases interrupted with raises | ⟨operation, target, rfl, absent⟩ |
        ⟨target, known, rfl, none⟩
      · exact plain raises
      · simp [upToDate, absent] at test
      · simp [upToDate, none] at test
  | @outdated operation known current reads found other =>
      cases operation with
      | storeUploads => cases test
      | _ =>
          simp [upToDate, found] at test
          exact other (congrArg photoOf test.1.symm)
  | @unaware operation known current _ _ found other =>
      cases operation with
      | storeUploads => cases test
      | _ =>
          simp [upToDate, found] at test
          exact other (congrArg (·.imageMatchStatus) test.1.symm)
  | uploaded => cases test

theorem rechecked_of_alone {world : World (Recorded Store Check) Task}
    {task : Task} {choice : Choice}
    (only : Process.OnlyRunning world 0 (some task))
    (test : checksUpToDate world.shared task choice = true) :
    Rechecked world (.resume 0 choice) := by
  constructor
  · intro pid found id same
    cases same
  · intro pid again found id same running misses
    cases same
    obtain ⟨-, rfl⟩ := only.eq_of_running running
    unfold checksUpToDate at test
    cases misses with
    | ran runs given missed =>
        rw [runs, given] at test
        simp only [Bool.and_eq_true, decide_eq_true_eq] at test
        exact absurd missed (not_misses_of_upToDate test.1 test.2)
    | raised _ _ raises =>
        simp [raises] at test

theorem rechecked_spawn (world : World (Recorded Store Check) Task)
    (request : Request) : Rechecked world (.spawn 0 request) := by
  constructor
  · intro pid task id same
    cases same
  · intro pid choice task id same
    cases same

/-- A grievance with a photo that nothing has looked at yet. -/
def photographed : Grievance :=
  { Pipeline.reviewedGrievance with photoPath := some "first.jpg" }

def photographedStore : Recorded Store Check :=
  { shared := .ofEvents [] [("g1", photographed)], notes := [] }

theorem photographed_initial :
    (checkedProgram repliesOn Pipeline.flatMap).initial
      photographedStore := by
  refine ⟨Store.ofEvents_initial (by simp [photographed,
    Pipeline.reviewedGrievance, Pipeline.draftGrievance]), ?_⟩
  intro id due
  apply due
  intro row found
  have member := Table.mem_of_find_ofList found
  simp only [List.mem_singleton, Prod.mk.injEq] at member
  obtain ⟨_, rfl⟩ := member
  apply FromPhoto.unjudged
  intro verdict judged
  cases judged

/-- The pipeline compares the first photo, and the citizen replaces it. -/
def replacesPhoto (recheck : Pipeline.Answer) :
    List (Request × List Choice) :=
  [(.web (.runPipeline "g1"),
    [⟨1, .pipeline .plain⟩,
     ⟨1, .pipeline (.work
       { Pipeline.streetlightWork with photoRead := true })⟩]),
   (.web (.replacePhoto "g1" "citizen" "second.jpg"),
    [⟨2, .pipeline .plain⟩, ⟨2, .pipeline .plain⟩, ⟨2, .pipeline .plain⟩,
     ⟨2, .pipeline recheck⟩])]

/-- The verdict and the photo of that grievance, and the checks. -/
def Observed (recorded : Recorded Store Check) :
    Option (Option ImageMatchStatus × Option Photo) × List Check :=
  ((recorded.shared.pipeline.grievances.find "g1").map
    fun row => (row.imageMatchStatus, photoOf row), recorded.notes)

theorem verdict_of_photo_on_record_replaced :
    ∃ world row, (checkedProgram repliesOn
        Pipeline.flatMap).system.ReachableWhen Rechecked world ∧
      world.Quiet ∧
      world.shared.shared.pipeline.grievances.find "g1" = some row ∧
      row.imageMatchStatus = some .mismatched ∧
      ∃ photo, photoOf row = some photo ∧
        { grievanceId := "g1", photo := photo, verdict := .mismatched } ∈
          world.shared.notes := by
  have ran : ((checkedProgram repliesOn Pipeline.flatMap).serial
      checksUpToDate photographedStore
      (replacesPhoto (.photo (.compared false)))).map
      (fun recorded => (Observed recorded).1) =
      some (some (some .mismatched, some (.path "second.jpg"))) := by
    decide +kernel
  obtain ⟨world, reachable, quiet, observed⟩ :=
    Program.reachable_serial photographed_initial
      (fun world request _ _ => rechecked_spawn world request)
      (fun _ _ _ => rechecked_of_alone) ran
  obtain ⟨row, found, same⟩ := Option.map_eq_some_iff.mp observed
  simp only [Prod.mk.injEq] at same
  exact ⟨world, row, reachable, quiet, found, same.1,
    verdict_of_photo_on_record reachable quiet found same.1
      (.inr (.inl rfl))⟩

/-- The check of the second photo raises: the grievance points to it with the
verdict of the first. -/
theorem verdict_of_another_photo :
    ∃ world row, (checkedProgram repliesOn
        Pipeline.flatMap).system.Reachable world ∧ world.Quiet ∧
      world.shared.shared.pipeline.grievances.find "g1" = some row ∧
      row.imageMatchStatus = some .matched ∧
      photoOf row = some (.path "second.jpg") ∧
      ∀ check ∈ world.shared.notes, check.photo = .path "first.jpg" := by
  have ran : ((checkedProgram repliesOn Pipeline.flatMap).serial
      (fun _ _ _ => true) photographedStore (replacesPhoto .raises)).map
      Observed =
      some (some (some .matched, some (.path "second.jpg")),
        [{ grievanceId := "g1", photo := .path "first.jpg"
           verdict := .matched }]) := by
    decide +kernel
  obtain ⟨world, reachable, quiet, observed⟩ :=
    Program.reachable_served photographed_initial ran
  obtain ⟨stored, notes⟩ := Prod.mk.inj observed
  obtain ⟨row, found, same⟩ := Option.map_eq_some_iff.mp stored
  simp only [Prod.mk.injEq] at same
  refine ⟨world, row, reachable, quiet, found, same.1, same.2, ?_⟩
  simp [notes]

end JanSetu.Whatsapp
