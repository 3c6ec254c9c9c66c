import JanSetu.Web.Saving

/-!
# What is left of a web draft

`create_draft` commits a row, writes the uploads and commits again.  While no
request fails or is cut off between its two commits, and no run of the pipeline
begins on a row that is between them, every row that was committed for a
request references all of its evidence and has a job.  A request that fails in
between leaves a row that the sweep takes for a whole one.
-/

namespace JanSetu.Web

open Pipeline
open Process (Label Recorded)
open Transition.System (Always)

/-! ## The condition -/

/-- Nothing is uploaded. -/
def DraftRequest.textOnly (request : DraftRequest) : Prop :=
  request.audioClips = [] ∧ request.hasPhoto = false

/-- The grievance on which a request or a sweep begins the pipeline. -/
def Actor.begins : Actor → Option String
  | .party (.request job) => job.task.bind opensPipeline
  | .recovering task _ => opensPipeline task
  | _ => none

/-- No request fails or crashes between its two commits, and no request and no
sweep begins the pipeline on a row whose uploads are being saved. -/
def Uninterrupted (world : World (Recorded Backend Note) Actor) :
    Label Ask Choice → Prop
  | .spawn _ _ => True
  | .crash pid => ∀ actor, world.Running pid actor → actor.draft = none
  | .resume pid choice => ∀ actor, world.Running pid actor →
      (choice.answer = .pipeline .raises → actor.draft = none) ∧
      ∀ id, actor.begins = some id → choice.answer ≠ .pipeline .raises →
        ∀ other busy draft, world.Running other busy →
          busy.draft = some draft → draft.id = id → draft.request.textOnly

section

variable {settings : Pipeline.Settings} {geometry : Geometry}
  {admissible : Grievance → Prop}
  {world : World (Recorded Backend Note) Actor}
  {before after : Recorded Backend Note} {actor : Actor} {choice : Choice}
  {next : Option Actor} {request : DraftRequest} {id : String}

/-! ## Rows whose evidence is still to come -/

/-- The evidence of the row has not been committed. -/
def Due (recorded : Recorded Backend Note) (id : String) : Prop :=
  (∃ request, .drafted id request ∈ recorded.notes) ∧
    .stored id ∉ recorded.notes

def Actor.Carries (actor : Actor) (id : String) : Prop :=
  ∃ draft, actor.draft = some draft ∧ draft.id = id

/-- What is noted in a step other than a commit is no commit. -/
theorem due_of_notes {note : Note} (notes : after.notes = note :: before.notes)
    (other : note.commits = false) (due : Due after id) : Due before id := by
  obtain ⟨⟨request, drafted⟩, unstored⟩ := due
  rw [notes] at drafted unstored
  refine ⟨⟨request, ?_⟩, fun stored => unstored (.tail _ stored)⟩
  rcases List.mem_cons.mp drafted with rfl | earlier
  · cases other
  · exact earlier

theorem due_of_other (other : actor.isOther = true)
    (notes : after.notes =
      (Actor.note settings actor choice).toList ++ before.notes)
    (due : Due after id) : Due before id := by
  obtain ⟨⟨request, drafted⟩, unstored⟩ := due
  rw [notes] at drafted unstored
  refine ⟨⟨request, ?_⟩,
    fun stored => unstored (List.mem_append_right _ stored)⟩
  rcases List.mem_append.mp drafted with new | earlier
  · cases Actor.note_other other new
  · exact earlier

theorem due_carries
    (reachable : (recordedDrafting settings geometry admissible).system.ReachableWhen
      Uninterrupted world) :
    Process.Carried Due Actor.Carries world := by
  refine Process.due_carried ?_ ?_ ?_ reachable
  · intro recorded initial id due
    obtain ⟨⟨request, drafted⟩, _⟩ := due
    rw [initial.2] at drafted
    cases drafted
  · intro world pid choice actor after next id _ permitted running resumed due
    have moves := Actor.resume_cases resumed
    cases moves with
    | @drafted request other row after _ _ _ _ _ notes =>
        by_cases same : other = id
        · exact .inl ⟨_, rfl, _, Draft.nextClip_draft _ _, same⟩
        · refine .inr (.inr ⟨?_, ?_⟩)
          · obtain ⟨⟨request, drafted⟩, unstored⟩ := due
            rw [notes] at drafted unstored
            refine ⟨⟨request, ?_⟩, fun stored => unstored (.tail _ stored)⟩
            rcases List.mem_cons.mp drafted with is | earlier
            · cases is
              exact absurd rfl same
            · exact earlier
          · rintro ⟨draft, drafting, _⟩
            cases drafting
    | @saved draft clip rest path after _ notes =>
        by_cases same : draft.id = id
        · exact .inl ⟨_, rfl, _, Draft.nextClip_draft _ _, same⟩
        · refine .inr (.inr ⟨due_of_notes notes rfl due, ?_⟩)
          rintro ⟨other, drafting, is⟩
          cases drafting
          exact same is
    | @savedPhoto draft path after _ notes =>
        by_cases same : draft.id = id
        · exact .inl ⟨_, rfl, _, rfl, same⟩
        · refine .inr (.inr ⟨due_of_notes notes rfl due, ?_⟩)
          rintro ⟨other, drafting, is⟩
          cases drafting
          exact same is
    | @stored draft current after _ _ notes =>
        obtain ⟨⟨request, drafted⟩, unstored⟩ := due
        rw [notes] at drafted unstored
        refine .inr (.inr ⟨⟨⟨request, ?_⟩,
          fun stored => unstored (.tail _ stored)⟩, ?_⟩)
        · rcases List.mem_cons.mp drafted with is | earlier
          · cases is
          · exact earlier
        · rintro ⟨other, drafting, rfl⟩
          cases drafting
          exact unstored (.head _)
    | party _ _ notes =>
        refine .inr (.inr ⟨due_of_other rfl notes due, ?_⟩)
        rintro ⟨draft, drafting, _⟩
        cases drafting
    | recovering _ _ _ notes =>
        refine .inr (.inr ⟨due_of_other rfl notes due, ?_⟩)
        rintro ⟨draft, drafting, _⟩
        cases drafting
    | selected _ notes =>
        unfold Due at due ⊢
        rw [notes] at due
        refine .inr (.inr ⟨due, ?_⟩)
        rintro ⟨draft, drafting, _⟩
        cases drafting
    | raised raises _ notes =>
        unfold Due at due ⊢
        rw [notes] at due
        refine .inr (.inr ⟨due, ?_⟩)
        rintro ⟨draft, drafting, _⟩
        have none := (permitted actor running).1 raises
        rw [drafting] at none
        cases none
  · intro world pid actor id _ permitted running due
    refine ⟨due, ?_⟩
    rintro ⟨draft, drafting, _⟩
    have none := permitted actor running
    rw [drafting] at none
    cases none

/-! ## Where a process arrives -/

/-- The pipeline may begin on the row. -/
def Ready (recorded : Recorded Backend Note) (id : String) : Prop :=
  ∀ request, .drafted id request ∈ recorded.notes →
    recorded.shared.store.Has id (References recorded.notes request id)

theorem Consistent.ready (consistent : Consistent before)
    (stored : .stored id ∈ before.notes) : Ready before id := by
  intro request drafted
  exact (consistent.whole id request drafted stored).1

/-- A row that nobody is saving is whole, and so is one without uploads. -/
theorem Consistent.ready_of_begins {pid : Nat} {label : Choice}
    (consistent : Consistent world.shared)
    (pending : ∀ other busy draft, world.Running other busy →
      busy.draft = some draft → draft.Pending world.shared.notes)
    (carried : Process.Carried Due Actor.Carries world)
    (permitted : Uninterrupted world (.resume pid label))
    (running : world.Running pid actor)
    (begun : actor.begins = some id)
    (answers : label.answer ≠ .pipeline .raises) :
    Ready world.shared id := by
  intro request drafted
  by_cases stored : .stored id ∈ world.shared.notes
  · exact (consistent.whole id request drafted stored).1
  · obtain ⟨other, busy, saving, draft, drafting, same⟩ :=
      carried id ⟨⟨request, drafted⟩, stored⟩
    obtain ⟨silent, blind⟩ := (permitted actor running).2 id begun answers
      other busy draft saving drafting same
    have drafted' := (pending other busy draft saving drafting).drafted
    rw [same] at drafted'
    have is := consistent.unique id _ _ drafted drafted'
    refine (consistent.pending id request drafted stored).mono
      fun row texts => ?_
    rw [← is] at silent blind
    constructor
    · refine ⟨[], ?_, ?_⟩
      · unfold Heard
        rw [silent]
        exact .nil
      · rw [List.append_nil]
        exact texts
    · intro pictured
      rw [blind] at pictured
      cases pictured

/-- The row with which a run of the pipeline goes on. -/
theorem loaded_references {task : Task} {choice : Pipeline.Choice}
    {known : Grievance}
    (resumed : task.resume settings geometry before.shared.store choice =
      some (after.shared.store, .more (.loaded .runPipeline id known)))
    (grows : Grows before after)
    (ready : opensPipeline task = some id → choice.answer ≠ .raises →
      Ready before id) :
    Filed after id ∧
      ∀ request, .drafted id request ∈ after.notes →
        References after.notes request id known := by
  rcases Task.resume_cases resumed with ⟨_, _, same⟩ | ⟨answers, moves⟩
  · cases same
  · have leads := moves.leads
    generalize after.shared.store = store at leads
    cases leads with
    | loaded found =>
        refine ⟨grows.rows id (.of_found found), ?_⟩
        intro request drafted
        rcases grows.fresh id request drafted with earlier | absent
        · obtain ⟨row, there, references⟩ := ready rfl answers request earlier
          have same : known = row :=
            Option.some.inj (found.symm.trans there)
          exact same ▸ references.mono grows.notes
        · rw [absent] at found
          cases found

theorem resume_more {task further : Task} {store : Store}
    {choice : Pipeline.Choice}
    (resumed : task.resume settings geometry before.shared.store choice =
      some (store, .more further))
    (idle : filesUploads task = false) :
    filesUploads further = false ∧ opensPipeline further = none := by
  rcases Task.resume_cases resumed with ⟨_, _, same⟩ | ⟨_, moves⟩
  · cases same
  · exact ⟨filesUploads_leads moves.leads idle,
      opensPipeline_leads moves.leads⟩

theorem claim_task_opens {claim : Claim}
    (opens : opensPipeline claim.task = some id) :
    claim.job.stage ≠ "reextract" ∧ claim.job.grievanceId = id := by
  unfold Claim.task at opens
  split at opens
  case isTrue => cases opens
  case isFalse other =>
    cases opens
    exact ⟨other, rfl⟩

theorem claim_task_idle (claim : Claim) : filesUploads claim.task = false := by
  unfold Claim.task
  split <;> rfl

/-- The jobs that a worker holds are those that it held, or it has just
claimed them. -/
theorem party_claims {running further : Party} {choice : Pipeline.Choice}
    {backend : Backend}
    (resumed : running.resume settings geometry before.shared choice =
      some (backend, some further))
    (consistent : Consistent before)
    (claims : ∀ claim ∈ running.held, claim.job.stage ≠ "reextract" →
      .stored claim.job.grievanceId ∈ before.notes) :
    ∀ claim ∈ further.held, claim.job.stage ≠ "reextract" →
      .stored claim.job.grievanceId ∈ before.notes := by
  intro claim member recheck
  rcases Party.resume_cases resumed with
    ⟨_, _, _, _, _, _, same⟩ | ⟨worker, next, rfl, moves, same⟩
  · obtain ⟨next, _, rfl⟩ := Option.map_eq_some_iff.mp same.symm
    cases member
  · obtain ⟨arrived, is, rfl⟩ := Option.map_eq_some_iff.mp same.symm
    have held : claim ∈ arrived.held := member
    rcases moves.held_cases is with
      ⟨_, _, _, _, _, claimed, _, same⟩ | ⟨dropped, same, _⟩
    · rw [same] at held
      obtain ⟨_, job, found, _, is⟩ := JobQueue.mem_claims claimed held
      rw [is] at recheck ⊢
      exact consistent.jobs claim.key job found recheck
    · apply claims claim ?_ recheck
      show claim ∈ worker.held
      rw [same]
      exact List.mem_append_right _ held

theorem party_sound {running further : Party} {answer : Pipeline.Answer}
    (answered : choice.answer = .pipeline answer)
    (resumed : running.resume settings geometry before.shared
      { now := choice.now, answer := answer } =
        some (after.shared, some further))
    (grows : Grows before after) (consistent : Consistent before)
    (sound : (Actor.party running).Sound before)
    (ready : ∀ id, (Actor.party running).begins = some id →
      choice.answer ≠ .pipeline .raises → Ready before id) :
    (Actor.party further).Sound after := by
  constructor
  · intro draft drafting
    cases drafting
  · trivial
  · intro task doing
    have does : further.task = some task := doing
    rcases party_task_cases resumed does with
      ⟨earlier, was, stepped⟩ | ⟨_, rfl⟩ | ⟨claim, _, _, rfl⟩
    · exact (resume_more stepped (sound.idle earlier was)).1
    · rfl
    · exact claim_task_idle claim
  · intro id known doing
    have does : further.task = some (.loaded .runPipeline id known) := doing
    rcases party_task_cases resumed does with
      ⟨earlier, was, stepped⟩ | ⟨_, same⟩ | ⟨claim, _, _, same⟩
    · refine loaded_references stepped grows ?_
      intro opens answers
      have answers : choice.answer ≠ .pipeline .raises := by
        intro raises
        rw [answered] at raises
        cases raises
        exact answers rfl
      cases running with
      | request job =>
          refine ready id ?_ answers
          show job.task.bind opensPipeline = some id
          have was : job.task = some earlier := was
          rw [was]
          exact opens
      | worker worker =>
          cases worker with
          | running claim task rest =>
              cases was
              exact consistent.ready (sound.picks id opens)
          | _ => cases was
    · cases same
    · unfold Claim.task at same
      split at same <;> cases same
  · intro claim member recheck
    exact grows.notes
      (party_claims resumed consistent sound.claims claim member recheck)
  · intro id picks
    cases further with
    | request => cases picks
    | worker worker =>
        cases worker with
        | running claim task rest =>
            have opens : opensPipeline task = some id := picks
            rcases party_task_cases resumed rfl with
              ⟨earlier, was, stepped⟩ | ⟨_, rfl⟩ | ⟨begun, rest, rfl, rfl⟩
            · rw [(resume_more stepped (sound.idle earlier was)).2] at opens
              cases opens
            · cases opens
            · obtain ⟨recheck, rfl⟩ := claim_task_opens opens
              exact grows.notes (sound.claims begun (.head _) recheck)
        | _ => cases picks

theorem recovering_sound {task : Task} {rest : List String}
    (idle : filesUploads task = false) (fresh : ∀ id known,
      task = .loaded .runPipeline id known → Filed after id ∧
        ∀ request, .drafted id request ∈ after.notes →
          References after.notes request id known) :
    (Actor.recovering task rest).Sound after := by
  constructor
  · intro draft drafting
    cases drafting
  · trivial
  · intro other doing
    cases doing
    exact idle
  · intro id known doing
    cases doing
    exact fresh id known rfl
  · intro claim member
    cases member
  · intro id picks
    cases picks

/-- The next grievance of a sweep. -/
theorem recoverNext_sound {ids : List String} {process : Actor}
    (arrived : Actor.recoverNext ids = some process) :
    process.Sound after ∧ process.draft = none := by
  cases ids with
  | nil => cases arrived
  | cons id rest =>
      cases arrived
      refine ⟨recovering_sound rfl ?_, rfl⟩
      intro other known same
      cases same

theorem recovered_sound {task : Task} {rest : List String}
    {progress : Progress} {answer : Pipeline.Answer} {process : Actor}
    (answered : choice.answer = .pipeline answer)
    (stepped : task.resume settings geometry before.shared.store
      { now := choice.now, answer := answer } =
        some (after.shared.store, progress))
    (arrived : Actor.recovered rest progress = some process)
    (grows : Grows before after)
    (sound : (Actor.recovering task rest).Sound before)
    (ready : ∀ id, (Actor.recovering task rest).begins = some id →
      choice.answer ≠ .pipeline .raises → Ready before id) :
    process.Sound after ∧ process.draft = none := by
  cases progress with
  | more further =>
      cases arrived
      have idle := sound.idle task rfl
      refine ⟨recovering_sound (resume_more stepped idle).1 ?_, rfl⟩
      rintro id known rfl
      refine loaded_references stepped grows ?_
      intro opens answers
      apply ready id opens
      intro raises
      rw [answered] at raises
      cases raises
      exact answers rfl
  | _ => exact recoverNext_sound arrived

theorem start_sound (ask : Ask) :
    (Actor.start ask).Sound before ∧ (Actor.start ask).draft = none := by
  have task : ∀ task, (Actor.start ask).task = some task →
      filesUploads task = false ∧
        ∀ id known, task ≠ .loaded .runPipeline id known := by
    intro task doing
    cases ask with
    | createDraft => cases doing
    | sweepStuckProcessing => cases doing
    | call call other =>
        cases call with
        | worker => cases doing
        | request asked =>
            cases asked with
            | createDraft => cases other
            | sweepExpiredWindows => cases doing
            | sweepStuckDispatching => cases doing
            | _ =>
                cases doing
                refine ⟨rfl, ?_⟩
                intro id known same
                cases same
  have draft : (Actor.start ask).draft = none := by
    cases ask <;> rfl
  refine ⟨⟨?_, ?_, ?_, ?_, ?_, ?_⟩, draft⟩
  · intro other drafting
    rw [draft] at drafting
    cases drafting
  · cases ask <;> trivial
  · intro other doing
    exact (task other doing).1
  · intro id known doing
    exact absurd rfl ((task _ doing).2 id known)
  · intro claim member
    cases ask with
    | call call other => cases call <;> cases member
    | _ => cases member
  · intro id picks
    cases ask with
    | call call other => cases call <;> cases picks
    | _ => cases picks

/-! ## Runs -/

theorem Leaves.of_silent (same : SameTables before after)
    (notes : after.notes = before.notes) : Leaves before after := by
  refine Leaves.of_same same ?_ ?_
  · rw [notes]
    exact List.Subset.refl _
  · intro note member _
    exact notes ▸ member

theorem Leaves.of_upload {path : String} (same : SameTables before after)
    (notes : after.notes = .uploaded path :: before.notes) :
    Leaves before after := by
  refine Leaves.of_same same ?_ ?_
  · rw [notes]
    exact List.subset_cons_self _ _
  · intro note member commits
    rw [notes] at member
    rcases List.mem_cons.mp member with rfl | earlier
    · cases commits
    · exact earlier

theorem Draft.Pending.leave {draft : Draft}
    (pending : draft.Pending before.notes) (leaves : Leaves before after) :
    draft.Pending after.notes := by
  refine ⟨leaves.notes pending.drafted, ?_, pending.messages, pending.photo⟩
  intro stored
  exact pending.unstored (leaves.stored stored)

theorem Heard.append {notes : List Note} {clips : List AudioClip}
    {messages : List IssueMessage} {clip : AudioClip} {message : IssueMessage}
    (heard : Heard notes clips messages)
    (last : ∃ path, .uploaded path ∈ notes ∧ message = clip.message path) :
    Heard notes (clips ++ [clip]) (messages ++ [message]) :=
  List.rel_append heard (.cons last .nil)

/-- A crash touches no row and no job. -/
theorem Actor.release_tables (actor : Actor) (backend : Backend) :
    (actor.release backend).store.grievances = backend.store.grievances ∧
      (actor.release backend).queue.jobs = backend.queue.jobs := by
  cases actor with
  | party running =>
      exact ⟨running.release_grievances backend,
        congrArg JobQueue.jobs (running.release_queue backend)⟩
  | recovering task rest =>
      exact ⟨task.release_grievances backend.store, rfl⟩
  | _ => exact ⟨rfl, rfl⟩

/-- A step that is no commit keeps everything, wherever its process goes. -/
theorem Leaves.drafts {pid : Nat} (leaves : Leaves before after)
    (same : before = world.shared) (holds : drafts.Holds world)
    (arrives : ∀ process, next = some process → process.Sound after ∧
      ∀ draft, process.draft = some draft → ∃ earlier,
        actor.draft = some earlier ∧ earlier.id = draft.id)
    (running : world.Running pid actor) :
    drafts.shared after ∧ drafts.Undisturbed world pid after ∧
      ∀ process, next = some process →
        drafts.Arrives world pid after process := by
  subst same
  obtain ⟨consistent, sound, apart⟩ := holds
  refine ⟨leaves.consistent consistent, ?_, ?_⟩
  · intro other process _ found
    refine (sound other process found).grow leaves.grows ?_
    intro draft _ stored
    exact leaves.stored stored
  · intro process arrived
    obtain ⟨own, drafting⟩ := arrives process arrived
    refine ⟨own, ?_⟩
    intro other right different found
    constructor
    · intro first second left right'
      obtain ⟨earlier, was, is⟩ := drafting first left
      rw [← is]
      exact apart pid other actor right different.symm running found earlier
        second was right'
    · intro first second left right'
      obtain ⟨earlier, was, is⟩ := drafting second right'
      rw [← is]
      exact apart other pid right actor different found running first
        earlier left was

theorem Consistent.initial
    (jobs : before.shared.queue.jobs = Table.empty)
    (notes : before.notes = []) : Consistent before := by
  have none : ∀ note, note ∉ before.notes := by
    intro note member
    rw [notes] at member
    cases member
  constructor
  · intro id request other first
    exact absurd first (none _)
  · intro id stored
    exact absurd stored (none _)
  · intro id request drafted
    exact absurd drafted (none _)
  · intro id request drafted
    exact absurd drafted (none _)
  · intro key job found
    rw [jobs, Table.find_empty] at found
    cases found

/-- The first commit of a request: its row is nobody else's. -/
theorem drafts_drafted {pid : Nat} {row : Grievance}
    (holds : drafts.Holds world)
    (absent : world.shared.shared.store.grievances.find id = none)
    (texts : row.issueMessages = request.textMessages)
    (photo : row.photoPath = none)
    (grievances : after.shared.store.grievances =
      world.shared.shared.store.grievances.put id row)
    (jobs : after.shared.queue.jobs = world.shared.shared.queue.jobs)
    (notes : after.notes = .drafted id request :: world.shared.notes) :
    drafts.shared after ∧ drafts.Undisturbed world pid after ∧
      drafts.Arrives world pid after
        (Draft.nextClip
          { request := request, id := id, known := row, messages := []
            photoPath := none } request.audioClips) := by
  obtain ⟨consistent, sound, _⟩ := holds
  have storedBefore : ∀ other, .stored other ∈ after.notes →
      .stored other ∈ world.shared.notes := by
    intro other stored
    rw [notes] at stored
    rcases List.mem_cons.mp stored with is | earlier
    · cases is
    · exact earlier
  refine ⟨consistent.after_drafted absent texts grievances jobs notes,
    ?_, ?_, ?_⟩
  · intro other process _ found
    have grows := drafted_grows absent grievances notes
    exact (sound other process found).grow grows
      fun draft _ => storedBefore draft.id
  · refine Draft.nextClip_sound ⟨?_, ?_, texts, photo⟩ rfl .nil
    · rw [notes]
      exact .head _
    · intro stored
      obtain ⟨_, drafted⟩ :=
        consistent.drafted id (storedBefore id stored)
      exact consistent.undrafted absent drafted
  · intro other right _ found
    have new : ∀ draft, right.draft = some draft → draft.id ≠ id := by
      rintro draft drafting rfl
      exact consistent.undrafted absent
        ((sound other right found).draft draft drafting).drafted
    constructor
    · intro first second left right'
      rw [Draft.nextClip_draft] at left
      cases left
      exact (new second right').symm
    · intro first second left right'
      rw [Draft.nextClip_draft] at right'
      cases right'
      exact new first left

/-- The second commit of a request: the others save uploads of other rows. -/
theorem drafts_stored {pid : Nat} {draft : Draft} {current : Grievance}
    (holds : drafts.Holds world)
    (running : world.Running pid (.storing draft))
    (wrote : world.shared.shared.store.Wrote after.shared.store draft.id
      draft.known current (·.set choice.now (storeUploadsFields
        (draft.request.form draft.messages draft.photoPath))))
    (jobs : after.shared.queue.jobs =
      (world.shared.shared.queue.enqueuePipelineJob draft.id "intelligence" ""
        choice.now).jobs)
    (notes : after.notes = .stored draft.id :: world.shared.notes) :
    drafts.shared after ∧ drafts.Undisturbed world pid after := by
  obtain ⟨consistent, sound, apart⟩ := holds
  have own := sound pid _ running
  constructor
  · exact consistent.after_stored (own.draft draft rfl) own.saved wrote jobs
      notes
  · intro other process different found
    refine (sound other process found).grow (stored_grows wrote notes) ?_
    intro another drafting stored
    rw [notes] at stored
    rcases List.mem_cons.mp stored with is | earlier
    · have distinct := apart other pid process _ different found running
        another draft drafting rfl
      exact absurd (Note.stored.inj is) distinct
    · exact earlier

/-- An upload is written, and the request goes on to the next one. -/
theorem Actor.Sound.saved_next {draft : Draft} {clip : AudioClip}
    {rest : List AudioClip} {path : String}
    (sound : (Actor.saving draft clip rest).Sound before)
    (leaves : Leaves before after)
    (notes : after.notes = .uploaded path :: before.notes) :
    (Draft.nextClip
      { draft with messages := draft.messages ++ [clip.message path] }
      rest).Sound after := by
  obtain ⟨done, split, heard⟩ := sound.saved
  have pending := (sound.draft draft rfl).leave leaves
  have heard : Heard after.notes (done ++ [clip])
      (draft.messages ++ [clip.message path]) := by
    refine (heard.mono leaves.notes).append ?_
    rw [notes]
    exact ⟨path, .head _, rfl⟩
  refine Draft.nextClip_sound ⟨pending.drafted, pending.unstored,
    pending.messages, pending.photo⟩ ?_ heard
  rw [List.append_assoc]
  exact split

theorem Actor.Sound.savedPhoto_next {draft : Draft} {path : String}
    (sound : (Actor.savingPhoto draft).Sound before)
    (leaves : Leaves before after)
    (notes : after.notes = .uploaded path :: before.notes) :
    (Actor.storing { draft with photoPath := some path }).Sound after := by
  have pending := (sound.draft draft rfl).leave leaves
  have heard : Heard _ draft.request.audioClips draft.messages := sound.saved
  refine Actor.Sound.of_draft rfl ⟨pending.drafted, pending.unstored,
    pending.messages, pending.photo⟩ ⟨heard.mono leaves.notes, ?_⟩
  intro _
  rw [notes]
  exact ⟨path, .head _, rfl⟩

theorem drafts_hold
    (reachable : (recordedDrafting settings geometry
      admissible).system.ReachableWhen Uninterrupted world) :
    drafts.Holds world := by
  refine Process.Invariant.holds ?initially ?spawned ?resumed ?crashed reachable
  case initially =>
    intro recorded initial
    obtain ⟨⟨_, jobs, _⟩, notes⟩ := initial
    exact .initial jobs notes
  case spawned =>
    intro world pid ask _ _ _
    obtain ⟨own, idle⟩ := start_sound ask
    refine ⟨own, ?_⟩
    intro other right _ _
    constructor
    · intro first second left
      rw [show (recordedDrafting settings geometry admissible).start ask =
        Actor.start ask from rfl, idle] at left
      cases left
    · intro first second _ right
      rw [show (recordedDrafting settings geometry admissible).start ask =
        Actor.start ask from rfl, idle] at right
      cases right
  case resumed =>
    intro world pid choice actor after next reached holds permitted running
      resumed
    have ready : ∀ id, actor.begins = some id →
        choice.answer ≠ .pipeline .raises → Ready world.shared id := by
      intro id begun answers
      have pending := fun other busy draft found =>
        (holds.2.1 other busy found).draft draft
      exact holds.1.ready_of_begins pending (due_carries reached) permitted
        running begun answers
    have moves := Actor.resume_cases resumed
    have sound := holds.2.1 pid actor running
    cases moves with
    | drafted absent texts photo grievances jobs notes =>
        obtain ⟨kept, undisturbed, arrives⟩ :=
          drafts_drafted holds absent texts photo grievances jobs notes
        refine ⟨kept, undisturbed, ?_⟩
        rintro process ⟨⟩
        exact arrives
    | @saved draft clip rest path after same notes =>
        have leaves := Leaves.of_upload same notes
        refine leaves.drafts rfl holds ?_ running
        rintro process ⟨⟩
        refine ⟨sound.saved_next leaves notes, ?_⟩
        intro other drafting
        rw [Draft.nextClip_draft] at drafting
        cases drafting
        exact ⟨draft, rfl, rfl⟩
    | @savedPhoto draft path after same notes =>
        have leaves := Leaves.of_upload same notes
        refine leaves.drafts rfl holds ?_ running
        rintro process ⟨⟩
        refine ⟨sound.savedPhoto_next leaves notes, ?_⟩
        rintro other ⟨⟩
        exact ⟨draft, rfl, rfl⟩
    | stored wrote jobs notes =>
        obtain ⟨kept, undisturbed⟩ :=
          drafts_stored holds running wrote jobs notes
        exact ⟨kept, undisturbed, by simp⟩
    | party answered moved notes =>
        have leaves := Leaves.of_party answered moved notes sound.idle
        refine leaves.drafts rfl holds ?_ running
        intro process arrived
        obtain ⟨further, rfl, rfl⟩ := Option.map_eq_some_iff.mp arrived
        refine ⟨party_sound answered moved leaves.grows holds.1 sound ready,
          ?_⟩
        intro draft drafting
        cases drafting
    | selected same notes =>
        have leaves := Leaves.of_silent same notes
        refine leaves.drafts rfl holds ?_ running
        intro process arrived
        obtain ⟨own, idle⟩ := recoverNext_sound arrived
        refine ⟨own, ?_⟩
        intro draft drafting
        rw [idle] at drafting
        cases drafting
    | @recovering task rest answer progress after answered stepped jobs
        notes =>
        have leaves := Leaves.of_recovering answered stepped jobs notes
          (sound.idle task rfl)
        refine leaves.drafts rfl holds ?_ running
        intro process arrived
        obtain ⟨own, idle⟩ := recovered_sound answered stepped arrived
          leaves.grows sound ready
        refine ⟨own, ?_⟩
        intro draft drafting
        rw [idle] at drafting
        cases drafting
    | raised raises same notes =>
        have leaves := Leaves.of_silent same notes
        exact leaves.drafts rfl holds (by simp) running
  case crashed =>
    intro world pid actor _ holds _ running
    have leaves : Leaves world.shared
        ((recordedDrafting settings geometry admissible).release world.shared
          actor) :=
      Leaves.of_silent (actor.release_tables world.shared.shared) rfl
    obtain ⟨kept, undisturbed, _⟩ :=
      leaves.drafts rfl holds (fun process (none : none = some process) =>
        by cases none) running
    exact ⟨kept, undisturbed⟩

end

/-! ## A draft that is completed, and one that is not -/

def emptyBackend : Backend :=
  { store :=
      { grievances := Table.empty, routes := [], events := [], sequence := 1
        locked := [], journal := [] }
    queue := { jobs := Table.empty, clock := 0, started := [] } }

/-- A text, a voice clip and a photo. -/
def voicedRequest : DraftRequest :=
  { contactId := "contact", userId := "citizen", lat := 28, lon := 77
    textMessages :=
      [{ type := "text", text := some "The light is out", mediaId := none
         mimeType := none, localPath := none, recordingId := none
         segmentIndex := none }]
    audioClips :=
      [{ mimeType := "audio/webm", recordingId := "r", segmentIndex := 0 }]
    hasPhoto := true }

abbrev draftingRuns :
    Process.Program (Recorded Backend Note) Actor Ask Choice :=
  recordedDrafting defaultSettings flatMap fun _ => True

theorem drafting_initial :
    draftingRuns.initial { shared := emptyBackend, notes := [] } := by
  refine ⟨⟨⟨rfl, rfl, ?_⟩, rfl, rfl⟩, rfl⟩
  intro id row _
  trivial

/-- A process that is alone and does not fail between its commits. -/
def completes (_ : Recorded Backend Note) (actor : Actor) (choice : Choice) :
    Bool :=
  decide (choice.answer = .pipeline .raises → actor.draft = none)

theorem uninterrupted_of_alone
    {world : World (Recorded Backend Note) Actor} {actor : Actor}
    {choice : Choice}
    (only : Process.OnlyRunning world 0 (some actor))
    (test : completes world.shared actor choice = true) :
    Uninterrupted world (.resume 0 choice) := by
  intro found running
  obtain ⟨_, rfl⟩ := only.eq_of_running running
  refine ⟨of_decide_eq_true test, ?_⟩
  intro id begun _ other busy draft running' drafting _
  -- Whoever begins the pipeline is no `create_draft`.
  obtain ⟨_, rfl⟩ := only.eq_of_running running'
  cases busy <;> first | cases begun | cases drafting

/-- The request is served. -/
theorem voiced_served :
    ∃ world : World (Recorded Backend Note) Actor,
      draftingRuns.system.ReachableWhen Uninterrupted world ∧ world.Quiet ∧
      world.shared.notes =
        [.stored "g", .uploaded (uploadPath defaultSettings "g" "b.jpg"),
          .uploaded (uploadPath defaultSettings "g" "a.webm"),
          .drafted "g" voicedRequest] := by
  have ran : (draftingRuns.serial completes
      { shared := emptyBackend, notes := [] }
      [(.createDraft voicedRequest,
        [⟨0, .pipeline (.inserted "g")⟩, ⟨1, .saved "a.webm"⟩,
         ⟨2, .saved "b.jpg"⟩, ⟨3, .pipeline .plain⟩])]).map
      (·.notes) =
      some [.stored "g", .uploaded (uploadPath defaultSettings "g" "b.jpg"),
        .uploaded (uploadPath defaultSettings "g" "a.webm"),
        .drafted "g" voicedRequest] := by
    decide +kernel
  exact Process.Program.reachable_serial drafting_initial
    (fun _ _ _ _ => trivial) (fun _ _ _ => uninterrupted_of_alone) ran

end JanSetu.Web
