import JanSetu.Library.History
import JanSetu.Pipeline.Corrections
import JanSetu.Whatsapp.Store

/-!
# Web drafts and the sweep of stuck grievances

`create_draft` in the steps between which it can fail or crash: the commit of
the row, the write of every upload, the commit of the evidence and the job.
Beside it run the requests and workers of `Jobs` and the sweep that runs the
pipeline again on grievances that are stuck in `draft` or `processing`.
-/

namespace JanSetu.Web

open Pipeline
open Process (Program Recorded)

/-! ## Requests -/

/-- A voice clip that has been read and validated. -/
structure AudioClip where
  mimeType : String
  recordingId : String
  segmentIndex : Int
deriving DecidableEq

def AudioClip.message (clip : AudioClip) (path : String) : IssueMessage :=
  { type := "audio"
    text := none
    mediaId := none
    mimeType := some clip.mimeType
    localPath := some path
    recordingId := some clip.recordingId
    segmentIndex := some clip.segmentIndex }

/-- An accepted request, when its first transaction begins. -/
structure DraftRequest where
  contactId : String
  userId : String
  lat : ℚ
  lon : ℚ
  textMessages : List IssueMessage
  audioClips : List AudioClip
  hasPhoto : Bool
deriving DecidableEq

def DraftRequest.form (request : DraftRequest)
    (audioMessages : List IssueMessage) (photoPath : Option String) :
    DraftForm :=
  { contactId := request.contactId
    userId := request.userId
    lat := request.lat
    lon := request.lon
    textMessages := request.textMessages
    audioMessages := audioMessages
    photoPath := photoPath }

/-- A request whose row is committed: what it knows of the row, and the
messages and the path of the uploads that it has saved so far. -/
structure Draft where
  request : DraftRequest
  id : String
  known : Grievance
  messages : List IssueMessage
  photoPath : Option String
deriving DecidableEq

/-- Calls that file no draft; `create_draft` has its own. -/
def filesNoDraft : Call → Bool
  | .request (.createDraft _) => false
  | _ => true

inductive Actor where
  | creating (request : DraftRequest)
  | saving (draft : Draft) (clip : AudioClip) (rest : List AudioClip)
  | savingPhoto (draft : Draft)
  | storing (draft : Draft)
  | party (party : Party)
  | sweepStuckProcessing (limit : Nat)
  | recovering (task : Task) (rest : List String)
deriving DecidableEq

inductive Ask where
  | createDraft (request : DraftRequest)
  | call (call : Call) (other : filesNoDraft call = true)
  | sweepStuckProcessing (limit : Nat)

inductive Answer where
  | pipeline (answer : Pipeline.Answer)
  | saved (name : String)
deriving DecidableEq

structure Choice where
  now : Time
  answer : Answer
deriving DecidableEq

def Actor.start : Ask → Actor
  | .createDraft request => .creating request
  | .call call _ => .party (Party.start call)
  | .sweepStuckProcessing limit => .sweepStuckProcessing limit

/-- What comes after the clips. -/
def Draft.afterClips (draft : Draft) : Actor :=
  if draft.request.hasPhoto then .savingPhoto draft else .storing draft

def Draft.nextClip (draft : Draft) : List AudioClip → Actor
  | [] => draft.afterClips
  | clip :: rest => .saving draft clip rest

/-- `save_upload`. -/
def uploadPath (settings : Pipeline.Settings) (id name : String) : String :=
  settings.uploadDir ++ "/" ++ id ++ "/" ++ name

def Actor.recoverNext : List String → Option Actor
  | [] => none
  | id :: rest => some (.recovering (.opened .runPipeline id) rest)

/-- A sweep logs what one grievance raises and goes on. -/
def Actor.recovered (rest : List String) : Progress → Option Actor
  | .more task => some (.recovering task rest)
  | _ => Actor.recoverNext rest

/-- The draft that is between the two commits of its request. -/
def Actor.draft : Actor → Option Draft
  | .saving draft _ _ => some draft
  | .savingPhoto draft => some draft
  | .storing draft => some draft
  | _ => none

section

variable (settings : Pipeline.Settings) (geometry : Geometry)

def resumeCreating (backend : Backend) (request : DraftRequest) (id : String)
    (now : Time) : Option (Backend × Option Actor) :=
  match backend.store.createDraft (request.form [] none) id now with
  | some (store, .more (.loaded _ _ row)) =>
      let draft : Draft :=
        { request := request, id := id, known := row, messages := []
          photoPath := none }
      some
        (Backend.read { backend with store := store } now,
         some (draft.nextClip request.audioClips))
  | _ => none

/-- The second transaction: the evidence, the status and the job. -/
def resumeStoring (backend : Backend) (draft : Draft) (now : Time) :
    Option (Backend × Option Actor) :=
  let form := draft.request.form draft.messages draft.photoPath
  (backend.store.storeUploads form draft.id draft.known now).map fun result =>
    (Backend.read
      { store := result.1
        queue :=
          backend.queue.enqueuePipelineJob draft.id "intelligence" "" now }
      now, none)

def Actor.resume (backend : Backend) (actor : Actor) (choice : Choice) :
    Option (Backend × Option Actor) :=
  match actor, choice.answer with
  | .creating request, .pipeline (.inserted id) =>
      resumeCreating backend request id choice.now
  | .saving draft clip rest, .saved name =>
      let path := uploadPath settings draft.id name
      let saved :=
        { draft with messages := draft.messages ++ [clip.message path] }
      some (backend.read choice.now, some (saved.nextClip rest))
  | .savingPhoto draft, .saved name =>
      let path := uploadPath settings draft.id name
      some
        (backend.read choice.now,
         some (.storing { draft with photoPath := some path }))
  | .storing draft, .pipeline .plain =>
      resumeStoring backend draft choice.now
  | .party running, .pipeline answer =>
      (running.resume settings geometry backend
          { now := choice.now, answer := answer }).map fun result =>
        (result.1, result.2.map .party)
  | .sweepStuckProcessing limit, .pipeline (.selected ids) =>
      let olderThan :=
        choice.now - seconds Whatsapp.stuckProcessingAfterSeconds
      if backend.store.Selects (Store.stuckProcessing olderThan) limit ids then
        some (backend.read choice.now, Actor.recoverNext ids)
      else none
  | .recovering task rest, .pipeline answer =>
      (task.resume settings geometry backend.store
          { now := choice.now, answer := answer }).map fun result =>
        (Backend.read { backend with store := result.1 } choice.now,
         Actor.recovered rest result.2)
  | _, .pipeline .raises => some (backend.read choice.now, none)
  | _, _ => none

/-- What is rolled back of a process that crashes. -/
def Actor.release (backend : Backend) : Actor → Backend
  | .party running => running.release backend
  | .recovering task _ => { backend with store := task.release backend.store }
  | _ => backend

/-- Runs start without jobs. -/
def drafting (admissible : Grievance → Prop) :
    Program Backend Actor Ask Choice :=
  { initial := (jobProgram settings geometry admissible).initial
    start := Actor.start
    resume := Actor.resume settings geometry
    release := Actor.release }

end

/-! ## History -/

/-- A row was committed for a request, an upload was written, the evidence of a
row was committed, a citizen has replaced a photo. -/
inductive Note where
  | drafted (id : String) (request : DraftRequest)
  | uploaded (path : String)
  | stored (id : String)
  | replaced (id : String)
deriving DecidableEq

/-- The task of a process that is no `create_draft`. -/
def Actor.task : Actor → Option Task
  | .party running => running.task
  | .recovering task _ => some task
  | _ => none

/-- The grievance whose photo a task is about to replace. -/
def replaces : Task → Option String
  | .loaded (.replacePhoto userId _) id known =>
      if known.userId = some userId then some id else none
  | _ => none

def Actor.note (settings : Pipeline.Settings) (actor : Actor)
    (choice : Choice) : Option Note :=
  match actor, choice.answer with
  | .creating request, .pipeline (.inserted id) => some (.drafted id request)
  | .saving draft _ _, .saved name =>
      some (.uploaded (uploadPath settings draft.id name))
  | .savingPhoto draft, .saved name =>
      some (.uploaded (uploadPath settings draft.id name))
  | .storing draft, .pipeline .plain => some (.stored draft.id)
  | actor, .pipeline .plain =>
      (actor.task.bind replaces).map Note.replaced
  | _, _ => none

/-- The runs with their history, which starts empty. -/
def recordedDrafting (settings : Pipeline.Settings) (geometry : Geometry)
    (admissible : Grievance → Prop) :
    Program (Recorded Backend Note) Actor Ask Choice :=
  (drafting settings geometry admissible).recorded (Actor.note settings)
    fun recorded => recorded.notes = []

/-! ## What is asked of a draft -/

/-- The messages of the clips, whose files have been written. -/
def Heard (notes : List Note) (clips : List AudioClip)
    (messages : List IssueMessage) : Prop :=
  List.Forall₂
    (fun clip message =>
      ∃ path, .uploaded path ∈ notes ∧ message = clip.message path)
    clips messages

/-- The row references all the evidence of the request: its texts, a written
file for each of its clips, and a written photo, which the citizen may have
replaced since. -/
structure References (notes : List Note) (request : DraftRequest)
    (id : String) (row : Grievance) : Prop where
  messages : ∃ audio, Heard notes request.audioClips audio ∧
    row.issueMessages = request.textMessages ++ audio
  photo : request.hasPhoto = true →
    (∃ path, .uploaded path ∈ notes ∧ row.photoPath = some path) ∨
      .replaced id ∈ notes

/-- A job for the pipeline of the grievance is in the table. -/
def Queued (queue : JobQueue) (id : String) : Prop :=
  ∃ job, queue.jobs.find (idempotencyKey id "intelligence" "") = some job

/-! ## Everything a step can do -/

/-- No row and no job is touched. -/
def SameTables (before after : Recorded Backend Note) : Prop :=
  after.shared.store.grievances = before.shared.store.grievances ∧
    after.shared.queue.jobs = before.shared.queue.jobs

inductive Actor.Moves (settings : Pipeline.Settings) (geometry : Geometry)
    (before : Recorded Backend Note) (choice : Choice) :
    Actor → Recorded Backend Note → Option Actor → Prop where
  | drafted {request : DraftRequest} {id : String} {row : Grievance}
      {after : Recorded Backend Note} :
      before.shared.store.grievances.find id = none →
      row.issueMessages = request.textMessages →
      row.photoPath = none →
      after.shared.store.grievances =
        before.shared.store.grievances.put id row →
      after.shared.queue.jobs = before.shared.queue.jobs →
      after.notes = .drafted id request :: before.notes →
      Moves settings geometry before choice (.creating request) after
        (some (Draft.nextClip
          { request := request, id := id, known := row, messages := []
            photoPath := none } request.audioClips))
  | saved {draft : Draft} {clip : AudioClip} {rest : List AudioClip}
      {path : String} {after : Recorded Backend Note} :
      SameTables before after →
      after.notes = .uploaded path :: before.notes →
      Moves settings geometry before choice (.saving draft clip rest) after
        (some (Draft.nextClip
          { draft with messages := draft.messages ++ [clip.message path] }
          rest))
  | savedPhoto {draft : Draft} {path : String}
      {after : Recorded Backend Note} :
      SameTables before after →
      after.notes = .uploaded path :: before.notes →
      Moves settings geometry before choice (.savingPhoto draft) after
        (some (.storing { draft with photoPath := some path }))
  | stored {draft : Draft} {current : Grievance}
      {after : Recorded Backend Note} :
      before.shared.store.Wrote after.shared.store draft.id draft.known
        current (·.set choice.now (storeUploadsFields
          (draft.request.form draft.messages draft.photoPath))) →
      after.shared.queue.jobs =
        (before.shared.queue.enqueuePipelineJob draft.id "intelligence" ""
          choice.now).jobs →
      after.notes = .stored draft.id :: before.notes →
      Moves settings geometry before choice (.storing draft) after none
  | party {running : Party} {answer : Pipeline.Answer} {next : Option Party}
      {after : Recorded Backend Note} :
      choice.answer = .pipeline answer →
      running.resume settings geometry before.shared
        { now := choice.now, answer := answer } =
          some (after.shared, next) →
      after.notes =
        (Actor.note settings (.party running) choice).toList ++
          before.notes →
      Moves settings geometry before choice (.party running) after
        (next.map .party)
  | selected {limit : Nat} {ids : List String}
      {after : Recorded Backend Note} :
      SameTables before after →
      after.notes = before.notes →
      Moves settings geometry before choice (.sweepStuckProcessing limit)
        after (Actor.recoverNext ids)
  | recovering {task : Task} {rest : List String}
      {answer : Pipeline.Answer} {progress : Progress}
      {after : Recorded Backend Note} :
      choice.answer = .pipeline answer →
      task.resume settings geometry before.shared.store
        { now := choice.now, answer := answer } =
          some (after.shared.store, progress) →
      after.shared.queue.jobs = before.shared.queue.jobs →
      after.notes =
        (Actor.note settings (.recovering task rest) choice).toList ++
          before.notes →
      Moves settings geometry before choice (.recovering task rest) after
        (Actor.recovered rest progress)
  | raised {actor : Actor} {after : Recorded Backend Note} :
      choice.answer = .pipeline .raises →
      SameTables before after →
      after.notes = before.notes →
      Moves settings geometry before choice actor after none

section

variable {settings : Pipeline.Settings} {geometry : Geometry}
  {admissible : Grievance → Prop} {before after : Recorded Backend Note}
  {actor : Actor} {choice : Choice} {next : Option Actor}

/-- What `create_draft` inserts. -/
theorem resumeCreating_eq {backend further : Backend}
    {request : DraftRequest} {id : String} {now : Time}
    (resumed : resumeCreating backend request id now = some (further, next)) :
    backend.store.grievances.find id = none ∧
      ∃ row, row.issueMessages = request.textMessages ∧
        row.photoPath = none ∧
        further.store.grievances = backend.store.grievances.put id row ∧
        further.queue.jobs = backend.queue.jobs ∧
        next = some (Draft.nextClip
          { request := request, id := id, known := row, messages := []
            photoPath := none } request.audioClips) := by
  cases found : backend.store.grievances.find id with
  | some row =>
      simp only [resumeCreating, Store.createDraft, found] at resumed
      cases resumed
  | none =>
      simp only [resumeCreating, Store.createDraft, found] at resumed
      cases resumed
      exact ⟨rfl, _, rfl, rfl, rfl, rfl, rfl⟩

theorem Actor.resume_cases
    (resumed : (recordedDrafting settings geometry admissible).resume before
      actor choice = some (after, next)) :
    actor.Moves settings geometry before choice after next := by
  obtain ⟨ran, notes⟩ := Process.Program.recorded_resume resumed
  replace ran : actor.resume settings geometry before.shared choice =
      some (after.shared, next) := ran
  unfold Actor.resume at ran
  dsimp only at ran
  split at ran
  case h_1 request id answered =>
    obtain ⟨absent, row, messages, photo, rows, jobs, rfl⟩ :=
      resumeCreating_eq ran
    refine .drafted absent messages photo rows jobs ?_
    have noted : Actor.note settings (.creating request) choice =
        some (.drafted id request) := by
      unfold Actor.note
      rw [answered]
    rw [notes, noted]
    rfl
  case h_2 draft clip rest name answered =>
    obtain ⟨same, rfl⟩ := Prod.mk.inj (Option.some.inj ran)
    refine .saved (by rw [SameTables, ← same]; exact ⟨rfl, rfl⟩) ?_
    have noted : Actor.note settings (.saving draft clip rest) choice =
        some (.uploaded (uploadPath settings draft.id name)) := by
      unfold Actor.note
      rw [answered]
    rw [notes, noted]
    rfl
  case h_3 draft name answered =>
    obtain ⟨same, rfl⟩ := Prod.mk.inj (Option.some.inj ran)
    refine .savedPhoto (by rw [SameTables, ← same]; exact ⟨rfl, rfl⟩) ?_
    have noted : Actor.note settings (.savingPhoto draft) choice =
        some (.uploaded (uploadPath settings draft.id name)) := by
      unfold Actor.note
      rw [answered]
    rw [notes, noted]
    rfl
  case h_4 draft answered =>
    obtain ⟨⟨store, progress⟩, wrote, same⟩ := Option.map_eq_some_iff.mp ran
    obtain ⟨shared, rfl⟩ := Prod.mk.inj same
    obtain ⟨current, wrote, _⟩ := Store.write_wrote wrote
    have committed : store = after.shared.store :=
      congrArg Backend.store shared
    refine .stored (committed ▸ wrote) ?_ ?_
    · rw [← shared]
      rfl
    · have noted : Actor.note settings (.storing draft) choice =
          some (.stored draft.id) := by
        unfold Actor.note
        rw [answered]
      rw [notes, noted]
      rfl
  case h_5 running answer answered =>
    obtain ⟨⟨backend, further⟩, moved, same⟩ :=
      Option.map_eq_some_iff.mp ran
    obtain ⟨shared, rfl⟩ := Prod.mk.inj same
    exact .party answered (shared ▸ moved) notes
  case h_6 limit ids answered =>
    split at ran
    case isFalse => cases ran
    case isTrue =>
      obtain ⟨same, rfl⟩ := Prod.mk.inj (Option.some.inj ran)
      refine .selected (by rw [SameTables, ← same]; exact ⟨rfl, rfl⟩) ?_
      have noted : Actor.note settings (.sweepStuckProcessing limit) choice =
          none := by
        unfold Actor.note
        rw [answered]
      rw [notes, noted]
      rfl
  case h_7 task rest answer answered =>
    obtain ⟨⟨store, progress⟩, moved, same⟩ := Option.map_eq_some_iff.mp ran
    obtain ⟨shared, rfl⟩ := Prod.mk.inj same
    refine .recovering answered ?_ ?_ notes
    · rw [← shared]
      exact moved
    · rw [← shared]
      rfl
  case h_8 actor _ _ _ _ answered =>
    obtain ⟨same, rfl⟩ := Prod.mk.inj (Option.some.inj ran)
    refine .raised answered (by rw [SameTables, ← same]; exact ⟨rfl, rfl⟩) ?_
    have noted : Actor.note settings actor choice = none := by
      unfold Actor.note
      rw [answered]
      cases actor <;> rfl
    rw [notes, noted]
    rfl
  case h_9 => cases ran

end

end JanSetu.Web
