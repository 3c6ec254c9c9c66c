import JanSetu.Web.Drafting

/-!
# The rows of web drafts from step to step

What holds of a row between the two commits of its request and after them, and
what each kind of step leaves alone.  Only the second commit writes the
messages, and no process but the citizen's takes the photo away.
-/

namespace JanSetu.Web

open Pipeline
open Process (Recorded)

/-! ## Tasks of others -/

/-- The steps of `create_draft` as a task. -/
def filesUploads : Task → Bool
  | .createDraft _ => true
  | .opened (.storeUploads _) _ => true
  | .loaded (.storeUploads _) _ _ => true
  | _ => false

/-- The grievance on which the next step begins the pipeline. -/
def opensPipeline : Task → Option String
  | .opened .runPipeline id => some id
  | _ => none

section

variable {settings : Pipeline.Settings} {geometry : Geometry}
  {store after : Store} {task next : Task} {id : String}
  {choice : Pipeline.Choice} {progress : Progress}

theorem filesUploads_leads {now : Time}
    (leads : task.Leads settings geometry store now after next)
    (idle : filesUploads task = false) : filesUploads next = false := by
  cases leads with
  | created => cases idle
  | @loaded operation =>
      cases operation with
      | storeUploads => cases idle
      | _ => rfl
  | passed which =>
      rcases which with rfl | rfl | rfl
      · rfl
      · rfl
      · rfl
  | _ => rfl

/-- No task begins the pipeline on its way. -/
theorem opensPipeline_leads {now : Time}
    (leads : task.Leads settings geometry store now after next) :
    opensPipeline next = none := by
  cases leads with
  | passed which =>
      rcases which with rfl | rfl | rfl
      · rfl
      · rfl
      · rfl
  | _ => rfl

theorem replacePhoto_refused {userId path : String} {known : Grievance}
    (resumed : (Task.loaded (.replacePhoto userId path) id known).resume
      settings geometry store choice = some (after, progress))
    (foreign : known.userId ≠ some userId) : after = store := by
  rcases Task.resume_cases resumed with ⟨_, released, _⟩ | ⟨plain, _⟩
  · exact released
  · have ran := Task.resume_loaded resumed plain
    unfold Operation.run at ran
    split at ran <;> first | contradiction | skip
    case h_8 userId' path' same _ =>
      cases same
      unfold Store.replacePhoto at ran
      rw [if_pos foreign] at ran
      cases ran
      rfl

/-- Only the second commit of `create_draft` writes the messages. -/
theorem messages_kept {messages : List IssueMessage}
    (resumed : task.resume settings geometry store choice =
      some (after, progress))
    (idle : filesUploads task = false)
    (before : store.Has id (·.issueMessages = messages)) :
    after.Has id (·.issueMessages = messages) := by
  rcases Task.resume_cases resumed with ⟨_, rfl, _⟩ | ⟨_, moves⟩
  · exact before.of_same (task.release_grievances store)
  · refine moves.keeps_column RowSession.issueMessages_isColumn ?_ ?_ ?_ before
    · intro fields row concludes
      cases concludes <;> rfl
    · intro operation known fields next doing writes _
      generalize choice.answer = answer at writes
      cases writes with
      | storeUploads =>
          rw [doing] at idle
          cases idle
      | runPipeline =>
          exact withReceipt_column settings (fun _ => rfl) _ _ known
      | recheckImage =>
          exact withReceipt_column settings (fun _ => rfl) _ _ known
      | _ => rfl
    · intro known fields next _ confirms
      cases confirms <;> rfl

/-- A photo is there until the citizen replaces it. -/
theorem photo_kept {path : String}
    (resumed : task.resume settings geometry store choice =
      some (after, progress))
    (idle : filesUploads task = false)
    (before : store.Has id (·.photoPath = some path)) :
    after.Has id (·.photoPath = some path) ∨
      choice.answer = .plain ∧ replaces task = some id := by
  by_cases refused : ∃ userId path known,
      task = .loaded (.replacePhoto userId path) id known ∧
        known.userId ≠ some userId
  · obtain ⟨userId, path, known, rfl, foreign⟩ := refused
    left
    rw [replacePhoto_refused resumed foreign]
    exact before
  by_cases replacing : choice.answer = .plain ∧ replaces task = some id
  · exact .inr replacing
  left
  rcases Task.resume_cases resumed with ⟨_, rfl, _⟩ | ⟨_, moves⟩
  · exact before.of_same (task.release_grievances store)
  · refine moves.keeps_column RowSession.photoPath_isColumn ?_ ?_ ?_ before
    · intro fields row concludes
      cases concludes <;> rfl
    · intro operation known fields next doing writes _
      generalize answered : choice.answer = answer at writes
      cases writes with
      | storeUploads =>
          rw [doing] at idle
          cases idle
      | replacePhoto userId path =>
          by_cases own : known.userId = some userId
          · refine absurd ⟨answered, ?_⟩ replacing
            rw [doing]
            exact if_pos own
          · exact absurd ⟨userId, path, known, doing, own⟩ refused
      | runPipeline =>
          exact withReceipt_column settings (fun _ => rfl) _ _ known
      | recheckImage =>
          exact withReceipt_column settings (fun _ => rfl) _ _ known
      | _ => rfl
    · intro known fields next _ confirms
      cases confirms <;> rfl

end

/-! ## Jobs of others -/

/-- Jobs stay in the table, and no job for the pipeline is new. -/
structure KeepsJobs (queue after : JobQueue) : Prop where
  kept : ∀ key job, queue.jobs.find key = some job →
    ∃ later, after.jobs.find key = some later
  origin : ∀ key job, after.jobs.find key = some job →
    job.stage ≠ "reextract" →
    ∃ key earlier, queue.jobs.find key = some earlier ∧
      earlier.grievanceId = job.grievanceId ∧ earlier.stage = job.stage

theorem KeepsJobs.of_same {queue after : JobQueue}
    (same : after.jobs = queue.jobs) : KeepsJobs queue after := by
  constructor
  · intro key job found
    exact ⟨job, same ▸ found⟩
  · intro key job found _
    exact ⟨key, job, same ▸ found, rfl, rfl⟩

theorem enqueues_reextract {operation : Operation} {id stage suffix : String}
    {known : Grievance}
    (asked : operation.enqueues known = some (stage, suffix))
    (idle : filesUploads (.loaded operation id known) = false) :
    stage = "reextract" := by
  rcases Operation.enqueues_cases asked with
    ⟨rfl, rfl⟩ | ⟨_, _, _, _, same, _⟩
  · cases operation with
    | storeUploads => cases idle
    | updateReview userId body =>
        unfold Operation.enqueues at asked
        dsimp only at asked
        split at asked <;> simp at asked
    | _ => cases asked
  · exact same

section

variable {settings : Pipeline.Settings} {geometry : Geometry}
  {backend after : Backend} {party : Party} {choice : Pipeline.Choice}
  {next : Option Party}

theorem worker_keepsJobs {worker : Worker} {further : Option Worker}
    (moves : worker.Moves settings geometry backend choice after further) :
    KeepsJobs backend.queue after.queue := by
  cases moves with
  | @claimed limit keys queue claims claimed =>
      constructor
      · intro key job found
        have later := JobQueue.claim_find claimed key
        rw [found, Option.map_some] at later
        exact ⟨_, later⟩
      · intro key job found _
        obtain ⟨earlier, before, rfl⟩ := Option.map_eq_some_iff.mp
          ((JobQueue.claim_find claimed key).symm.trans found)
        refine ⟨key, earlier, before, ?_⟩
        split
        · exact ⟨rfl, rfl⟩
        · exact ⟨rfl, rfl⟩
  | started jobs => exact .of_same jobs
  | @reported claim failed rest known current queue stored jobs _ =>
      have after : ∀ key, queue.jobs.find key =
          if key = claim.key then
            some (known.writeBack (reportJob failed choice.now known) current)
          else backend.queue.jobs.find key := by
        intro key
        rw [jobs, Table.find_put]
      constructor
      · intro key job found
        by_cases same : key = claim.key
        · exact ⟨_, (after key).trans (if_pos same)⟩
        · exact ⟨job, ((after key).trans (if_neg same)).trans found⟩
      · intro key job found _
        have found := (after key).symm.trans found
        split at found
        case isTrue =>
          cases found
          exact ⟨claim.key, current, stored, rfl, rfl⟩
        case isFalse => exact ⟨key, job, found, rfl, rfl⟩
  | _ => exact .of_same rfl

theorem party_keepsJobs
    (resumed : party.resume settings geometry backend choice =
      some (after, next))
    (idle : ∀ task, party.task = some task → filesUploads task = false) :
    KeepsJobs backend.queue after.queue := by
  rcases Party.resume_cases resumed with
    ⟨job, store, _, rfl, _, rfl, _⟩ | ⟨worker, _, rfl, moves, _⟩
  · constructor
    · intro key row found
      exact ⟨row, JobQueue.enqueues_keeps found⟩
    · intro key row found recheck
      have found : (backend.queue.enqueues job.task choice).jobs.find key =
          some row := found
      rcases backend.queue.enqueues_cases job.task choice with
        same | ⟨operation, id, known, stage, suffix, doing, asked, _, _,
          inserted⟩
      · rw [same] at found
        exact ⟨key, row, found, rfl, rfl⟩
      · rw [inserted, Table.find_put] at found
        split at found
        case isTrue =>
          cases found
          exact absurd (enqueues_reextract asked (idle _ doing)) recheck
        case isFalse => exact ⟨key, row, found, rfl, rfl⟩
  · exact worker_keepsJobs moves

/-- A task of a process goes on from its own step, or is one that a sweep or a
worker has begun. -/
theorem party_task_cases {running : Party} {task : Task}
    (resumed : party.resume settings geometry backend choice =
      some (after, some running))
    (doing : running.task = some task) :
    (∃ earlier, party.task = some earlier ∧
      earlier.resume settings geometry backend.store choice =
        some (after.store, .more task)) ∨
    (∃ id, task = .opened .dispatch id) ∨
    ∃ claim rest, party = .worker (.waiting claim rest) ∧
      task = claim.task := by
  have swept : ∀ ids job, Job.sweepNext ids = some job →
      job.task = some task → ∃ id, task = .opened .dispatch id := by
    intro ids job next doing
    cases ids with
    | nil => cases next
    | cons id rest =>
        cases next
        cases doing
        exact ⟨id, rfl⟩
  rcases Party.resume_cases resumed with
    ⟨job, store, further, rfl, moved, rfl, same⟩ |
    ⟨worker, further, rfl, moves, same⟩
  · obtain ⟨next, rfl, rfl⟩ := Option.map_eq_some_iff.mp same.symm
    rcases Job.resume_cases moved with
      ⟨earlier, progress, was, stepped, arrived⟩ |
      ⟨_, _, _, _, ids, arrived, _, _⟩
    · cases progress with
      | more further =>
          obtain ⟨next', onward, does⟩ := Job.next_more job further
          have is : next' = next :=
            Option.some.inj (onward.symm.trans arrived.symm)
          subst is
          have same : further = task :=
            Option.some.inj (does.symm.trans doing)
          subst same
          exact .inl ⟨earlier, was, stepped⟩
      | _ => exact .inr (.inl (swept _ next arrived.symm doing))
    · exact .inr (.inl (swept _ next arrived.symm doing))
  · obtain ⟨next, rfl, rfl⟩ := Option.map_eq_some_iff.mp same.symm
    have idle : ∀ claims, Worker.next claims = some next → False := by
      intro claims arrived
      cases claims with
      | nil => cases arrived
      | cons claim rest =>
          cases arrived
          cases doing
    generalize arrived : some next = further at moves
    cases moves with
    | claimed => exact (idle _ arrived.symm).elim
    | idle => cases arrived
    | @started claim rest =>
        cases arrived
        cases doing
        exact .inr (.inr ⟨claim, rest, rfl, rfl⟩)
    | @ran claim earlier rest store progress stepped =>
        cases arrived
        cases progress with
        | more further =>
            cases doing
            exact .inl ⟨earlier, rfl, stepped⟩
        | _ => cases doing
    | missing => exact (idle _ arrived.symm).elim
    | loaded =>
        cases arrived
        cases doing
    | reported => exact (idle _ arrived.symm).elim

end

/-! ## What holds between the steps -/

/-- The row is in the table. -/
def Filed (recorded : Recorded Backend Note) (id : String) : Prop :=
  recorded.shared.store.Has id fun _ => True

/-- Every row that was committed for a request has its texts, and once the
evidence is committed it references all of it and has a job; every job for the
pipeline is one of these. -/
structure Consistent (recorded : Recorded Backend Note) : Prop where
  unique : ∀ id request other, .drafted id request ∈ recorded.notes →
    .drafted id other ∈ recorded.notes → request = other
  drafted : ∀ id, .stored id ∈ recorded.notes →
    ∃ request, .drafted id request ∈ recorded.notes
  pending : ∀ id request, .drafted id request ∈ recorded.notes →
    .stored id ∉ recorded.notes →
    recorded.shared.store.Has id (·.issueMessages = request.textMessages)
  whole : ∀ id request, .drafted id request ∈ recorded.notes →
    .stored id ∈ recorded.notes →
    recorded.shared.store.Has id (References recorded.notes request id) ∧
      Queued recorded.shared.queue id
  jobs : ∀ key job, recorded.shared.queue.jobs.find key = some job →
    job.stage ≠ "reextract" → .stored job.grievanceId ∈ recorded.notes

/-- The evidence of the row is still to be committed. -/
structure Draft.Pending (notes : List Note) (draft : Draft) : Prop where
  drafted : .drafted draft.id draft.request ∈ notes
  unstored : .stored draft.id ∉ notes
  messages : draft.known.issueMessages = draft.request.textMessages
  photo : draft.known.photoPath = none

/-- The uploads up to where the request is have been written. -/
def Actor.Saved (notes : List Note) : Actor → Prop
  | .saving draft clip rest =>
      ∃ done, draft.request.audioClips = done ++ clip :: rest ∧
        Heard notes done draft.messages
  | .savingPhoto draft =>
      Heard notes draft.request.audioClips draft.messages
  | .storing draft =>
      Heard notes draft.request.audioClips draft.messages ∧
        (draft.request.hasPhoto = true →
          ∃ path, .uploaded path ∈ notes ∧ draft.photoPath = some path)
  | _ => True

/-- The jobs that a worker has claimed and not yet reported. -/
def Actor.held : Actor → List Claim
  | .party running => running.held
  | _ => []

/-- The grievance on which a worker is about to begin the pipeline. -/
def Actor.picks : Actor → Option String
  | .party (.worker (.running _ task _)) => opensPipeline task
  | _ => none

structure Actor.Sound (recorded : Recorded Backend Note) (actor : Actor) :
    Prop where
  draft : ∀ draft, actor.draft = some draft → draft.Pending recorded.notes
  saved : actor.Saved recorded.notes
  idle : ∀ task, actor.task = some task → filesUploads task = false
  loaded : ∀ id known, actor.task = some (.loaded .runPipeline id known) →
    Filed recorded id ∧
      ∀ request, .drafted id request ∈ recorded.notes →
        References recorded.notes request id known
  claims : ∀ claim ∈ actor.held, claim.job.stage ≠ "reextract" →
    .stored claim.job.grievanceId ∈ recorded.notes
  picks : ∀ id, actor.picks = some id → .stored id ∈ recorded.notes

def drafts : Process.Invariant (Recorded Backend Note) Actor :=
  { shared := Consistent
    own := fun recorded actor => actor.Sound recorded
    pair := fun left right => ∀ first second, left.draft = some first →
      right.draft = some second → first.id ≠ second.id }

/-! ## What a step leaves alone -/

/-- What others rely on: notes and rows stay, and a row is committed for a
request only under a new id. -/
structure Grows (before after : Recorded Backend Note) : Prop where
  notes : before.notes ⊆ after.notes
  rows : ∀ id, Filed before id → Filed after id
  fresh : ∀ id request, .drafted id request ∈ after.notes →
    .drafted id request ∈ before.notes ∨
      before.shared.store.grievances.find id = none

def Note.commits : Note → Bool
  | .drafted _ _ => true
  | .stored _ => true
  | _ => false

/-- A step that is no commit of `create_draft`. -/
structure Leaves (before after : Recorded Backend Note) : Prop where
  notes : before.notes ⊆ after.notes
  commits : ∀ note ∈ after.notes, note.commits = true → note ∈ before.notes
  messages : ∀ id texts,
    before.shared.store.Has id (·.issueMessages = texts) →
    after.shared.store.Has id (·.issueMessages = texts)
  photo : ∀ id path, before.shared.store.Has id (·.photoPath = some path) →
    after.shared.store.Has id (·.photoPath = some path) ∨
      .replaced id ∈ after.notes
  jobs : KeepsJobs before.shared.queue after.shared.queue

section

variable {before after : Recorded Backend Note} {notes later : List Note}
  {request : DraftRequest} {id : String} {row : Grievance} {actor : Actor}

theorem Filed.of_found
    (found : before.shared.store.grievances.find id = some row) :
    Filed before id :=
  ⟨row, found, trivial⟩

theorem Heard.mono {clips : List AudioClip} {messages : List IssueMessage}
    (heard : Heard notes clips messages) (grows : notes ⊆ later) :
    Heard later clips messages := by
  refine List.Forall₂.imp ?_ heard
  intro clip message written
  obtain ⟨path, uploaded, same⟩ := written
  exact ⟨path, grows uploaded, same⟩

theorem References.mono (references : References notes request id row)
    (grows : notes ⊆ later) : References later request id row := by
  constructor
  · obtain ⟨audio, heard, same⟩ := references.messages
    exact ⟨audio, heard.mono grows, same⟩
  · intro pictured
    rcases references.photo pictured with ⟨path, uploaded, same⟩ | replaced
    · exact .inl ⟨path, grows uploaded, same⟩
    · exact .inr (grows replaced)

theorem Actor.Saved.mono (saved : actor.Saved notes)
    (grows : notes ⊆ later) : actor.Saved later := by
  cases actor with
  | saving draft clip rest =>
      obtain ⟨done, split, heard⟩ := saved
      exact ⟨done, split, heard.mono grows⟩
  | savingPhoto draft =>
      have heard : Heard notes draft.request.audioClips draft.messages :=
        saved
      exact heard.mono grows
  | storing draft =>
      obtain ⟨heard, photo⟩ := saved
      refine ⟨heard.mono grows, ?_⟩
      intro pictured
      obtain ⟨path, uploaded, same⟩ := photo pictured
      exact ⟨path, grows uploaded, same⟩
  | _ => trivial

/-- A process is as it was after a step of another. -/
theorem Actor.Sound.grow (sound : actor.Sound before)
    (grows : Grows before after)
    (apart : ∀ draft, actor.draft = some draft →
      .stored draft.id ∈ after.notes → .stored draft.id ∈ before.notes) :
    actor.Sound after := by
  constructor
  · intro draft drafting
    have pending := sound.draft draft drafting
    refine ⟨grows.notes pending.drafted, ?_, pending.messages,
      pending.photo⟩
    intro stored
    exact pending.unstored (apart draft drafting stored)
  · exact sound.saved.mono grows.notes
  · exact sound.idle
  · intro id known doing
    obtain ⟨filed, references⟩ := sound.loaded id known doing
    refine ⟨grows.rows id filed, ?_⟩
    intro request drafted
    rcases grows.fresh id request drafted with earlier | absent
    · exact (references request earlier).mono grows.notes
    · obtain ⟨row, found, _⟩ := filed
      rw [absent] at found
      cases found
  · intro claim member recheck
    exact grows.notes (sound.claims claim member recheck)
  · intro id picks
    exact grows.notes (sound.picks id picks)

theorem Leaves.drafted (leaves : Leaves before after)
    (drafted : .drafted id request ∈ after.notes) :
    .drafted id request ∈ before.notes :=
  leaves.commits _ drafted rfl

theorem Leaves.stored (leaves : Leaves before after)
    (stored : .stored id ∈ after.notes) : .stored id ∈ before.notes :=
  leaves.commits _ stored rfl

theorem Leaves.grows (leaves : Leaves before after) : Grows before after := by
  refine ⟨leaves.notes, ?_, ?_⟩
  · intro id filed
    obtain ⟨row, found, _⟩ := filed
    exact (leaves.messages id row.issueMessages ⟨row, found, rfl⟩).mono
      fun _ _ => trivial
  · intro id request drafted
    exact .inl (leaves.drafted drafted)

theorem Leaves.references (leaves : Leaves before after)
    (before' : before.shared.store.Has id
      (References before.notes request id)) :
    after.shared.store.Has id (References after.notes request id) := by
  obtain ⟨row, found, references⟩ := before'
  obtain ⟨audio, heard, same⟩ := references.messages
  obtain ⟨kept, lookup, messages⟩ :=
    leaves.messages id row.issueMessages ⟨row, found, rfl⟩
  refine ⟨kept, lookup, ⟨audio, heard.mono leaves.notes,
    messages.trans same⟩, ?_⟩
  intro pictured
  rcases references.photo pictured with ⟨path, uploaded, photo⟩ | replaced
  · rcases leaves.photo id path ⟨row, found, photo⟩ with
      ⟨kept', lookup', photo⟩ | replaced
    · have same : kept' = kept :=
        Option.some.inj (lookup'.symm.trans lookup)
      exact .inl ⟨path, leaves.notes uploaded, same ▸ photo⟩
    · exact .inr replaced
  · exact .inr (leaves.notes replaced)

theorem Leaves.consistent (leaves : Leaves before after)
    (consistent : Consistent before) : Consistent after := by
  constructor
  · intro id request other first second
    exact consistent.unique id request other (leaves.drafted first)
      (leaves.drafted second)
  · intro id stored
    obtain ⟨request, drafted⟩ :=
      consistent.drafted id (leaves.stored stored)
    exact ⟨request, leaves.notes drafted⟩
  · intro id request drafted unstored
    apply leaves.messages
    refine consistent.pending id request (leaves.drafted drafted) ?_
    intro stored
    exact unstored (leaves.notes stored)
  · intro id request drafted stored
    obtain ⟨references, job, found⟩ := consistent.whole id request
      (leaves.drafted drafted) (leaves.stored stored)
    exact ⟨leaves.references references, leaves.jobs.kept _ job found⟩
  · intro key job found recheck
    obtain ⟨key', earlier, before, grievance, stage⟩ :=
      leaves.jobs.origin key job found recheck
    have stored := consistent.jobs key' earlier before (stage ▸ recheck)
    exact leaves.notes (grievance ▸ stored)

theorem Leaves.of_same (same : SameTables before after)
    (notes : before.notes ⊆ after.notes)
    (commits : ∀ note ∈ after.notes, note.commits = true →
      note ∈ before.notes) : Leaves before after := by
  refine ⟨notes, commits, ?_, ?_, .of_same same.2⟩
  · intro id texts has
    exact has.of_same same.1
  · intro id path has
    exact .inl (has.of_same same.1)

end

/-! ## Steps of others -/

section

variable {settings : Pipeline.Settings} {geometry : Geometry}
  {before after : Recorded Backend Note} {actor : Actor} {choice : Choice}

/-- A process that is no `create_draft` and selects nothing. -/
def Actor.isOther : Actor → Bool
  | .party _ => true
  | .recovering _ _ => true
  | _ => false

theorem Actor.note_other (other : actor.isOther = true) {note : Note}
    (member : note ∈ (Actor.note settings actor choice).toList) :
    note.commits = false := by
  have is : actor.note settings choice = some note :=
    Option.mem_toList.mp member
  unfold Actor.note at is
  split at is
  case h_5 =>
    obtain ⟨id, _, rfl⟩ := Option.map_eq_some_iff.mp is
    rfl
  case h_6 => cases is
  all_goals cases other

theorem Actor.note_replaced (other : actor.isOther = true) {id : String}
    (plain : choice.answer = .pipeline .plain)
    (replacing : actor.task.bind replaces = some id) :
    .replaced id ∈ (Actor.note settings actor choice).toList := by
  have is : actor.note settings choice = some (.replaced id) := by
    unfold Actor.note
    rw [plain]
    cases actor with
    | party running => exact congrArg (Option.map _) replacing
    | recovering task rest => exact congrArg (Option.map _) replacing
    | _ => cases other
  rw [is]
  exact List.mem_singleton_self _

theorem Leaves.of_other (other : actor.isOther = true)
    (notes : after.notes =
      (Actor.note settings actor choice).toList ++ before.notes)
    (messages : ∀ id texts,
      before.shared.store.Has id (·.issueMessages = texts) →
      after.shared.store.Has id (·.issueMessages = texts))
    (photo : ∀ id path,
      before.shared.store.Has id (·.photoPath = some path) →
      after.shared.store.Has id (·.photoPath = some path) ∨
        choice.answer = .pipeline .plain ∧
          actor.task.bind replaces = some id)
    (jobs : KeepsJobs before.shared.queue after.shared.queue) :
    Leaves before after := by
  constructor
  · intro note member
    rw [notes]
    exact List.mem_append_right _ member
  · intro note member commits
    rw [notes] at member
    rcases List.mem_append.mp member with new | old
    · rw [Actor.note_other other new] at commits
      cases commits
    · exact old
  · exact messages
  · intro id path has
    rcases photo id path has with kept | ⟨plain, replacing⟩
    · exact .inl kept
    · right
      rw [notes]
      exact List.mem_append_left _
        (Actor.note_replaced other plain replacing)
  · exact jobs

theorem Leaves.of_party {running : Party} {answer : Pipeline.Answer}
    {next : Option Party}
    (answered : choice.answer = .pipeline answer)
    (resumed : running.resume settings geometry before.shared
      { now := choice.now, answer := answer } = some (after.shared, next))
    (notes : after.notes =
      (Actor.note settings (.party running) choice).toList ++ before.notes)
    (idle : ∀ task, running.task = some task → filesUploads task = false) :
    Leaves before after := by
  rcases Party.resume_store resumed with
    same | ⟨task, progress, doing, stepped⟩
  · refine Leaves.of_other rfl notes ?_ ?_ (party_keepsJobs resumed idle)
    · intro id texts has
      exact has.of_same same
    · intro id path has
      exact .inl (has.of_same same)
  · refine Leaves.of_other rfl notes ?_ ?_ (party_keepsJobs resumed idle)
    · intro id texts has
      exact messages_kept stepped (idle task doing) has
    · intro id path has
      rcases photo_kept stepped (idle task doing) has with
        kept | ⟨plain, replacing⟩
      · exact .inl kept
      · have plain : answer = .plain := plain
        have same : (Actor.party running).task = some task := doing
        rw [answered, plain, same]
        exact .inr ⟨rfl, replacing⟩

theorem Leaves.of_recovering {task : Task} {rest : List String}
    {answer : Pipeline.Answer} {progress : Progress}
    (answered : choice.answer = .pipeline answer)
    (stepped : task.resume settings geometry before.shared.store
      { now := choice.now, answer := answer } =
        some (after.shared.store, progress))
    (jobs : after.shared.queue.jobs = before.shared.queue.jobs)
    (notes : after.notes =
      (Actor.note settings (.recovering task rest) choice).toList ++
        before.notes)
    (idle : filesUploads task = false) : Leaves before after := by
  refine Leaves.of_other rfl notes ?_ ?_ (.of_same jobs)
  · intro id texts has
    exact messages_kept stepped idle has
  · intro id path has
    rcases photo_kept stepped idle has with kept | ⟨plain, replacing⟩
    · exact .inl kept
    · have plain : answer = .plain := plain
      rw [answered, plain]
      exact .inr ⟨rfl, replacing⟩

end

/-! ## The two commits -/

section

variable {before after : Recorded Backend Note} {draft : Draft}
  {request : DraftRequest} {id : String} {row : Grievance}

/-- A request goes on with its next clip, its photo or its second commit. -/
theorem Draft.nextClip_cases (draft : Draft) (clips : List AudioClip) :
    (∃ clip rest, clips = clip :: rest ∧
      draft.nextClip clips = .saving draft clip rest) ∨
    clips = [] ∧ draft.request.hasPhoto = true ∧
      draft.nextClip clips = .savingPhoto draft ∨
    clips = [] ∧ draft.request.hasPhoto = false ∧
      draft.nextClip clips = .storing draft := by
  cases clips with
  | cons clip rest => exact .inl ⟨clip, rest, rfl, rfl⟩
  | nil =>
      cases pictured : draft.request.hasPhoto with
      | true =>
          refine .inr (.inl ⟨rfl, rfl, ?_⟩)
          simp [Draft.nextClip, Draft.afterClips, pictured]
      | false =>
          refine .inr (.inr ⟨rfl, rfl, ?_⟩)
          simp [Draft.nextClip, Draft.afterClips, pictured]

theorem Draft.nextClip_draft (draft : Draft) (clips : List AudioClip) :
    (draft.nextClip clips).draft = some draft := by
  rcases draft.nextClip_cases clips with
    ⟨clip, rest, _, same⟩ | ⟨_, _, same⟩ | ⟨_, _, same⟩
  · rw [same]
    rfl
  · rw [same]
    rfl
  · rw [same]
    rfl

theorem Actor.draft_alone {actor : Actor}
    (drafting : actor.draft = some draft) :
    actor.task = none ∧ actor.held = [] ∧ actor.picks = none := by
  cases actor with
  | saving => exact ⟨rfl, rfl, rfl⟩
  | savingPhoto => exact ⟨rfl, rfl, rfl⟩
  | storing => exact ⟨rfl, rfl, rfl⟩
  | _ => cases drafting

/-- All that is asked of a request between its two commits. -/
theorem Actor.Sound.of_draft {actor : Actor}
    (drafting : actor.draft = some draft)
    (pending : draft.Pending after.notes)
    (saved : actor.Saved after.notes) : actor.Sound after := by
  obtain ⟨idle, free, waits⟩ := Actor.draft_alone drafting
  refine ⟨?_, saved, ?_, ?_, ?_, ?_⟩
  · intro other same
    rw [drafting] at same
    cases same
    exact pending
  · intro task doing
    rw [idle] at doing
    cases doing
  · intro id known doing
    rw [idle] at doing
    cases doing
  · intro claim member
    rw [free] at member
    cases member
  · intro id picks
    rw [waits] at picks
    cases picks

theorem Draft.nextClip_sound {done rest : List AudioClip}
    (pending : draft.Pending after.notes)
    (split : draft.request.audioClips = done ++ rest)
    (heard : Heard after.notes done draft.messages) :
    (draft.nextClip rest).Sound after := by
  apply Actor.Sound.of_draft (draft.nextClip_draft rest) pending
  rcases draft.nextClip_cases rest with
    ⟨clip, later, rfl, same⟩ | ⟨rfl, _, same⟩ | ⟨rfl, silent, same⟩
  · rw [same]
    exact ⟨done, split, heard⟩
  · rw [same]
    rw [List.append_nil] at split
    show Heard _ _ _
    rw [split]
    exact heard
  · rw [same]
    rw [List.append_nil] at split
    refine ⟨split ▸ heard, ?_⟩
    intro pictured
    rw [silent] at pictured
    cases pictured

/-- What is found in the table after the first commit was there before it. -/
theorem drafted_find {other : String} {property : Grievance → Prop}
    (absent : before.shared.store.grievances.find id = none)
    (grievances : after.shared.store.grievances =
      before.shared.store.grievances.put id row)
    (has : before.shared.store.Has other property) :
    after.shared.store.Has other property := by
  obtain ⟨row, found, holds⟩ := has
  refine ⟨row, ?_, holds⟩
  rw [grievances, Table.find_put_of_ne, found]
  rintro rfl
  rw [absent] at found
  cases found

theorem drafted_grows
    (absent : before.shared.store.grievances.find id = none)
    (grievances : after.shared.store.grievances =
      before.shared.store.grievances.put id row)
    (notes : after.notes = .drafted id request :: before.notes) :
    Grows before after := by
  constructor
  · rw [notes]
    exact List.subset_cons_self _ _
  · intro other filed
    exact drafted_find absent grievances filed
  · intro other request drafted
    rw [notes] at drafted
    rcases List.mem_cons.mp drafted with same | earlier
    · cases same
      exact .inr absent
    · exact .inl earlier

/-- The row of a request is there. -/
theorem Consistent.filed (consistent : Consistent before)
    (drafted : .drafted id request ∈ before.notes) : Filed before id := by
  by_cases stored : .stored id ∈ before.notes
  · exact (consistent.whole id request drafted stored).1.mono
      fun _ _ => trivial
  · exact (consistent.pending id request drafted stored).mono
      fun _ _ => trivial

theorem Consistent.undrafted (consistent : Consistent before)
    (absent : before.shared.store.grievances.find id = none) :
    .drafted id request ∉ before.notes := by
  intro drafted
  obtain ⟨row, found, _⟩ := consistent.filed drafted
  rw [absent] at found
  cases found

theorem Consistent.after_drafted (consistent : Consistent before)
    (absent : before.shared.store.grievances.find id = none)
    (texts : row.issueMessages = request.textMessages)
    (grievances : after.shared.store.grievances =
      before.shared.store.grievances.put id row)
    (jobs : after.shared.queue.jobs = before.shared.queue.jobs)
    (notes : after.notes = .drafted id request :: before.notes) :
    Consistent after := by
  have grows := drafted_grows absent grievances notes
  -- The only new note is the one of the new row.
  have earlier : ∀ other request',
      .drafted other request' ∈ after.notes →
      other = id ∧ request' = request ∨
        .drafted other request' ∈ before.notes := by
    intro other request' drafted
    rw [notes] at drafted
    rcases List.mem_cons.mp drafted with same | earlier
    · cases same
      exact .inl ⟨rfl, rfl⟩
    · exact .inr earlier
  have storedBefore : ∀ other, .stored other ∈ after.notes →
      .stored other ∈ before.notes := by
    intro other stored
    rw [notes] at stored
    rcases List.mem_cons.mp stored with same | earlier
    · cases same
    · exact earlier
  constructor
  · intro other first second left right
    rcases earlier other first left with ⟨rfl, rfl⟩ | left
    · rcases earlier other second right with ⟨_, rfl⟩ | right
      · rfl
      · exact absurd right (consistent.undrafted absent)
    · rcases earlier other second right with ⟨rfl, rfl⟩ | right
      · exact absurd left (consistent.undrafted absent)
      · exact consistent.unique other first second left right
  · intro other stored
    obtain ⟨request, drafted⟩ :=
      consistent.drafted other (storedBefore other stored)
    exact ⟨request, grows.notes drafted⟩
  · intro other request' drafted unstored
    rcases earlier other request' drafted with ⟨rfl, rfl⟩ | drafted
    · refine ⟨row, ?_, texts⟩
      rw [grievances, Table.find_put_self]
    · refine drafted_find absent grievances
        (consistent.pending other request' drafted ?_)
      intro stored
      exact unstored (grows.notes stored)
  · intro other request' drafted stored
    have stored := storedBefore other stored
    rcases earlier other request' drafted with ⟨rfl, rfl⟩ | drafted
    · obtain ⟨request, drafted⟩ := consistent.drafted other stored
      exact absurd drafted (consistent.undrafted absent)
    · obtain ⟨references, job, found⟩ :=
        consistent.whole other request' drafted stored
      have references := drafted_find absent grievances references
      exact ⟨references.mono fun _ holds => holds.mono grows.notes, job,
        jobs ▸ found⟩
  · intro key job found recheck
    rw [jobs] at found
    exact grows.notes (consistent.jobs key job found recheck)

/-- A table of jobs with the job of the second commit. -/
theorem enqueued_find (queue : JobQueue) (id key : String) (now : Time) :
    (queue.enqueuePipelineJob id "intelligence" "" now).jobs.find key =
        queue.jobs.find key ∧
      (key = idempotencyKey id "intelligence" "" →
        ∃ job, queue.jobs.find key = some job) ∨
    key = idempotencyKey id "intelligence" "" ∧
      (queue.enqueuePipelineJob id "intelligence" "" now).jobs.find key =
        some
          { grievanceId := id, stage := "intelligence", status := .pending
            attemptCount := 0, maxAttempts := 5, nextAttemptAt := now
            lockedUntil := none } := by
  cases found : queue.jobs.find (idempotencyKey id "intelligence" "") with
  | some job =>
      left
      simp only [JobQueue.enqueuePipelineJob, found]
      refine ⟨trivial, ?_⟩
      rintro rfl
      exact ⟨job, found⟩
  | none =>
      simp only [JobQueue.enqueuePipelineJob, found]
      by_cases same : key = idempotencyKey id "intelligence" ""
      · right
        exact ⟨same, by rw [same, Table.find_put_self]⟩
      · left
        refine ⟨Table.find_put_of_ne _ _ same, ?_⟩
        intro is
        exact absurd is same

/-- The row that the second commit leaves. -/
theorem Draft.Pending.references {notes later : List Note}
    {current : Grievance} {now : Time} (pending : draft.Pending notes)
    (saved : (Actor.storing draft).Saved notes)
    (texts : current.issueMessages = draft.request.textMessages)
    (grows : notes ⊆ later) :
    References later draft.request draft.id
      (RowSession.set { known := draft.known, current := current } now
        (storeUploadsFields
          (draft.request.form draft.messages draft.photoPath))).current := by
  obtain ⟨heard, photo⟩ := saved
  constructor
  · refine ⟨draft.messages, heard.mono grows, ?_⟩
    rw [RowSession.issueMessages_isColumn.set_current]
    show Column.write draft.known.issueMessages current.issueMessages
      (draft.request.textMessages ++ draft.messages) = _
    rw [texts, pending.messages]
    exact Column.write_self _ _
  · intro pictured
    obtain ⟨path, uploaded, same⟩ := photo pictured
    refine .inl ⟨path, grows uploaded, ?_⟩
    rw [RowSession.photoPath_isColumn.set_current]
    show Column.write draft.known.photoPath current.photoPath
      draft.photoPath = some path
    rw [same, pending.photo]
    exact Column.write_of_ne (by simp)

section

variable {current : Grievance} {now : Time} {fields : Grievance → Grievance}

theorem stored_grows
    (wrote : before.shared.store.Wrote after.shared.store draft.id
      draft.known current (·.set now fields))
    (notes : after.notes = .stored draft.id :: before.notes) :
    Grows before after := by
  constructor
  · rw [notes]
    exact List.subset_cons_self _ _
  · intro id filed
    exact wrote.has (fun _ _ => trivial) filed
  · intro id request drafted
    rw [notes] at drafted
    rcases List.mem_cons.mp drafted with same | earlier
    · cases same
    · exact .inl earlier

theorem Consistent.after_stored (consistent : Consistent before)
    (pending : draft.Pending before.notes)
    (saved : (Actor.storing draft).Saved before.notes)
    (wrote : before.shared.store.Wrote after.shared.store draft.id
      draft.known current (·.set now (storeUploadsFields
        (draft.request.form draft.messages draft.photoPath))))
    (jobs : after.shared.queue.jobs =
      (before.shared.queue.enqueuePipelineJob draft.id "intelligence" ""
        now).jobs)
    (notes : after.notes = .stored draft.id :: before.notes) :
    Consistent after := by
  have grows := stored_grows wrote notes
  have draftedBefore : ∀ id request, .drafted id request ∈ after.notes →
      .drafted id request ∈ before.notes := by
    intro id request drafted
    rw [notes] at drafted
    rcases List.mem_cons.mp drafted with same | earlier
    · cases same
    · exact earlier
  have earlier : ∀ id, .stored id ∈ after.notes →
      id = draft.id ∨ .stored id ∈ before.notes := by
    intro id stored
    rw [notes] at stored
    rcases List.mem_cons.mp stored with same | earlier
    · cases same
      exact .inl rfl
    · exact .inr earlier
  have own : .stored draft.id ∈ after.notes := by
    rw [notes]
    exact .head _
  constructor
  · intro id request other first second
    exact consistent.unique id request other (draftedBefore _ _ first)
      (draftedBefore _ _ second)
  · intro id stored
    rcases earlier id stored with rfl | stored
    · exact ⟨draft.request, grows.notes pending.drafted⟩
    · obtain ⟨request, drafted⟩ := consistent.drafted id stored
      exact ⟨request, grows.notes drafted⟩
  · intro id request drafted unstored
    have different : id ≠ draft.id := by
      rintro rfl
      exact unstored own
    have has := consistent.pending id request (draftedBefore _ _ drafted)
      fun stored => unstored (grows.notes stored)
    exact wrote.has (fun same => absurd same different) has
  · intro id request drafted stored
    have drafted := draftedBefore id request drafted
    rcases earlier id stored with rfl | stored
    · have same := consistent.unique _ _ _ drafted pending.drafted
      subst same
      constructor
      · obtain ⟨row, found, texts⟩ :=
          consistent.pending _ _ pending.drafted pending.unstored
        have is : current = row :=
          Option.some.inj (wrote.found.symm.trans found)
        exact ⟨_, wrote.find_self,
          pending.references saved (is ▸ texts) grows.notes⟩
      · unfold Queued
        rw [jobs]
        rcases enqueued_find before.shared.queue draft.id
          (idempotencyKey draft.id "intelligence" "") now with
          ⟨same, there⟩ | ⟨_, inserted⟩
        · rw [same]
          exact there rfl
        · exact ⟨_, inserted⟩
    · have different : id ≠ draft.id := by
        rintro rfl
        exact pending.unstored stored
      obtain ⟨references, job, found⟩ :=
        consistent.whole id request drafted stored
      have references := wrote.has (fun same => absurd same different)
        references
      refine ⟨references.mono fun _ holds => holds.mono grows.notes, ?_⟩
      unfold Queued
      rw [jobs]
      rcases enqueued_find before.shared.queue draft.id
        (idempotencyKey id "intelligence" "") now with
        ⟨same, _⟩ | ⟨_, inserted⟩
      · exact ⟨job, same.trans found⟩
      · exact ⟨_, inserted⟩
  · intro key job found recheck
    rw [jobs] at found
    rcases enqueued_find before.shared.queue draft.id key now with
      ⟨same, _⟩ | ⟨_, inserted⟩
    · exact grows.notes (consistent.jobs key job (same ▸ found) recheck)
    · cases inserted.symm.trans found
      exact own

end

end

end JanSetu.Web
