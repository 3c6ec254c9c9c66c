import JanSetu.Pipeline.Steps
import Mathlib.Algebra.Group.Nat.Defs

/-!
# Pipeline jobs

The table of jobs, the requests that enqueue them and the workers that claim
them.  A lease is taken for a whole batch, whose jobs run one after the other.
A worker that reports loads the row again and writes it back: it checks neither
its lease nor the attempt nor the status.
-/

namespace JanSetu.Pipeline

open Process (Program)

inductive JobStatus where
  | pending
  | processing
  | retry
  | completed
  | deadLetter
deriving DecidableEq

def JobStatus.finished : JobStatus → Bool
  | .completed => true
  | .deadLetter => true
  | _ => false

structure PipelineJob where
  grievanceId : String
  stage : String
  status : JobStatus
  attemptCount : Nat
  maxAttempts : Nat
  nextAttemptAt : Time
  lockedUntil : Option Time
deriving DecidableEq

/-- The table is keyed by the unique column `idempotency_key`.  The clock is the
one that was read last; the keys of the jobs that workers have started are for
the proofs. -/
structure JobQueue where
  jobs : Table String PipelineJob
  clock : Time
  started : List String

def idempotencyKey (grievanceId stage keySuffix : String) : String :=
  "grievance:" ++ grievanceId ++ ":" ++ stage ++
    if keySuffix = "" then "" else ":" ++ keySuffix

/-- `on_conflict_do_nothing`. -/
def JobQueue.enqueuePipelineJob (queue : JobQueue)
    (grievanceId stage keySuffix : String) (now : Time) : JobQueue :=
  let key := idempotencyKey grievanceId stage keySuffix
  match queue.jobs.find key with
  | some _ => queue
  | none =>
      { queue with
        jobs := queue.jobs.put key
          { grievanceId := grievanceId, stage := stage, status := .pending
            attemptCount := 0, maxAttempts := 5, nextAttemptAt := now
            lockedUntil := none } }

/-! ## Claims -/

/-- The `WHERE` of `claim_pipeline_jobs`. -/
def PipelineJob.claimable (now : Time) (job : PipelineJob) : Bool :=
  (job.status = .pending || job.status = .retry ||
      job.status = .processing) &&
    decide (job.nextAttemptAt ≤ now) &&
    job.lockedUntil.all (· < now) &&
    decide (job.attemptCount < job.maxAttempts)

def leaseSeconds : Nat :=
  120

def PipelineJob.claim (now : Time) (job : PipelineJob) : PipelineJob :=
  { job with
    status := .processing
    lockedUntil := some (now + seconds leaseSeconds)
    attemptCount := job.attemptCount + 1 }

/-- A row as the worker's session has claimed it. -/
structure Claim where
  key : String
  job : PipelineJob
deriving DecidableEq

/-- Rows that another claim has locked are skipped, so that any claimable rows
up to the limit can be the ones. -/
def JobQueue.claimPipelineJobs (queue : JobQueue) (limit : Nat) (now : Time)
    (keys : List String) : Option (JobQueue × List Claim) :=
  if keys.Nodup ∧ keys.length ≤ limit ∧
      ∀ key ∈ keys, (queue.jobs.find key).any (·.claimable now) = true then
    let jobs :=
      queue.jobs.updateWhere (fun key _ => key ∈ keys) (·.claim now)
    some
      ({ queue with jobs := jobs },
       keys.filterMap fun key =>
         (jobs.find key).map fun job => { key := key, job := job })
  else none

/-! ## Reports -/

def completePipelineJob (job : PipelineJob) : PipelineJob :=
  { job with status := .completed, lockedUntil := none }

def failPipelineJob (now : Time) (job : PipelineJob) : PipelineJob :=
  if job.maxAttempts ≤ job.attemptCount then
    { job with status := .deadLetter, lockedUntil := none }
  else
    { job with
      status := .retry, lockedUntil := none
      nextAttemptAt := now + seconds (min 300 (2 ^ job.attemptCount)) }

def reportJob (failed : Bool) (now : Time) (job : PipelineJob) :
    PipelineJob :=
  if failed then failPipelineJob now job else completePipelineJob job

/-- A flush: the columns that a report changes. -/
def PipelineJob.writeBack (known new current : PipelineJob) : PipelineJob :=
  { current with
    status := Column.write known.status current.status new.status
    nextAttemptAt :=
      Column.write known.nextAttemptAt current.nextAttemptAt new.nextAttemptAt
    lockedUntil :=
      Column.write known.lockedUntil current.lockedUntil new.lockedUntil }

/-! ## Workers -/

/-- A worker claims a batch, runs the jobs of the batch one by one, and reports
each of them in two steps. -/
inductive Worker where
  | polling (limit : Nat)
  | waiting (claim : Claim) (rest : List Claim)
  | running (claim : Claim) (task : Task) (rest : List Claim)
  | returned (claim : Claim) (failed : Bool) (rest : List Claim)
  | reporting (claim : Claim) (failed : Bool) (known : PipelineJob)
      (rest : List Claim)
deriving DecidableEq

structure Backend where
  store : Store
  queue : JobQueue

def Worker.next : List Claim → Option Worker
  | [] => none
  | claim :: rest => some (.waiting claim rest)

def Claim.task (claim : Claim) : Task :=
  if claim.job.stage = "reextract" then
    .opened .reextract claim.job.grievanceId
  else .opened .runPipeline claim.job.grievanceId

def Worker.ran (claim : Claim) (rest : List Claim) : Progress → Worker
  | .more task => .running claim task rest
  | .raised => .returned claim true rest
  | _ => .returned claim false rest

section

variable (settings : Settings) (geometry : Geometry)

def Worker.resume (backend : Backend) (worker : Worker) (choice : Choice) :
    Option (Backend × Option Worker) :=
  match worker, choice.answer with
  | .polling limit, .selected keys =>
      (backend.queue.claimPipelineJobs limit choice.now keys).map fun result =>
        ({ backend with queue := result.1 }, Worker.next result.2)
  | .polling _, .raises => some (backend, none)
  | .waiting claim rest, .plain =>
      let queue :=
        { backend.queue with started := claim.key :: backend.queue.started }
      some
        ({ backend with queue := queue },
         some (.running claim claim.task rest))
  | .running claim task rest, _ =>
      (task.resume settings geometry backend.store choice).map fun result =>
        ({ backend with store := result.1 },
         some (Worker.ran claim rest result.2))
  | .returned claim failed rest, .plain =>
      match backend.queue.jobs.find claim.key with
      | none => some (backend, Worker.next rest)
      | some known => some (backend, some (.reporting claim failed known rest))
  | .reporting claim failed known rest, .plain =>
      (backend.queue.jobs.find claim.key).map fun current =>
        let jobs := backend.queue.jobs.put claim.key
          (known.writeBack (reportJob failed choice.now known) current)
        ({ backend with queue := { backend.queue with jobs := jobs } },
         Worker.next rest)
  | _, _ => none

/-! ## Requests -/

/-- The stage and the suffix of the job that a transaction enqueues.
`update_review` takes the suffix from the row after it has set its fields. -/
def Operation.enqueues (known : Grievance) :
    Operation → Option (String × String)
  | .storeUploads _ => some ("intelligence", "")
  | .updateReview userId body =>
      if known.userId = some userId ∧
          (UpdateReview.accepted body known).isSome ∧
          (Python.truthy body.categoryId ∨
            Python.truthy body.clarificationAnswer) then
        some ("reextract", toString (known.stateVersion + 1 + 1))
      else none
  | _ => none

def JobQueue.enqueues (queue : JobQueue) (task : Option Task)
    (choice : Choice) : JobQueue :=
  match task, choice.answer with
  | some (.loaded operation id known), .plain =>
      match operation.enqueues known with
      | none => queue
      | some (stage, suffix) =>
          queue.enqueuePipelineJob id stage suffix choice.now
  | _, _ => queue

inductive Party where
  | request (job : Job)
  | worker (worker : Worker)
deriving DecidableEq

inductive Call where
  | request (request : Request)
  | worker (batchSize : Nat)
deriving DecidableEq

def Party.start : Call → Party
  | .request asked => .request (Job.start asked)
  | .worker batchSize => .worker (.polling batchSize)

def Backend.read (backend : Backend) (now : Time) : Backend :=
  { backend with queue := { backend.queue with clock := now } }

def Party.resume (backend : Backend) (party : Party) (choice : Choice) :
    Option (Backend × Option Party) :=
  match party with
  | .request job =>
      (job.resume settings geometry backend.store choice).map fun result =>
        (Backend.read
          { store := result.1
            queue := backend.queue.enqueues job.task choice } choice.now,
         result.2.map .request)
  | .worker running =>
      (running.resume settings geometry backend choice).map fun result =>
        (result.1.read choice.now, result.2.map .worker)

def Party.release (backend : Backend) : Party → Backend
  | .request job => { backend with store := job.release backend.store }
  | .worker (.running _ task _) =>
      { backend with store := task.release backend.store }
  | .worker _ => backend

/-- Runs start without jobs. -/
def jobProgram (admissible : Grievance → Prop) :
    Program Backend Party Call Choice :=
  { initial := fun backend =>
      (program settings geometry admissible).initial backend.store ∧
        backend.queue.jobs = Table.empty ∧ backend.queue.started = []
    start := Party.start
    resume := Party.resume settings geometry
    release := Party.release }

end

/-! ## Everything a step can do -/

section

variable {settings : Settings} {geometry : Geometry}
  {backend after : Backend} {choice : Choice}

inductive Worker.Moves (settings : Settings) (geometry : Geometry)
    (backend : Backend) (choice : Choice) :
    Worker → Backend → Option Worker → Prop where
  | claimed {limit : Nat} {keys : List String} {queue : JobQueue}
      {claims : List Claim} :
      backend.queue.claimPipelineJobs limit choice.now keys =
        some (queue, claims) →
      Moves settings geometry backend choice (.polling limit)
        (Backend.read { backend with queue := queue } choice.now)
        (Worker.next claims)
  | idle {limit : Nat} :
      Moves settings geometry backend choice (.polling limit)
        (backend.read choice.now) none
  | started {claim : Claim} {rest : List Claim} {queue : JobQueue} :
      queue.jobs = backend.queue.jobs →
      queue.started = claim.key :: backend.queue.started →
      Moves settings geometry backend choice (.waiting claim rest)
        (Backend.read { backend with queue := queue } choice.now)
        (some (.running claim claim.task rest))
  | ran {claim : Claim} {task : Task} {rest : List Claim} {store : Store}
      {progress : Progress} :
      task.resume settings geometry backend.store choice =
        some (store, progress) →
      Moves settings geometry backend choice (.running claim task rest)
        (Backend.read { backend with store := store } choice.now)
        (some (Worker.ran claim rest progress))
  | missing {claim : Claim} {failed : Bool} {rest : List Claim} :
      backend.queue.jobs.find claim.key = none →
      Moves settings geometry backend choice (.returned claim failed rest)
        (backend.read choice.now) (Worker.next rest)
  | loaded {claim : Claim} {failed : Bool} {rest : List Claim}
      {known : PipelineJob} :
      backend.queue.jobs.find claim.key = some known →
      Moves settings geometry backend choice (.returned claim failed rest)
        (backend.read choice.now)
        (some (.reporting claim failed known rest))
  | reported {claim : Claim} {failed : Bool} {rest : List Claim}
      {known current : PipelineJob} {queue : JobQueue} :
      backend.queue.jobs.find claim.key = some current →
      queue.jobs = backend.queue.jobs.put claim.key
        (known.writeBack (reportJob failed choice.now known) current) →
      queue.started = backend.queue.started →
      Moves settings geometry backend choice
        (.reporting claim failed known rest)
        (Backend.read { backend with queue := queue } choice.now)
        (Worker.next rest)

theorem Worker.resume_cases {worker : Worker} {next : Option Worker}
    (resumed : worker.resume settings geometry backend choice =
      some (after, next)) :
    worker.Moves settings geometry backend choice (after.read choice.now)
      next := by
  unfold Worker.resume at resumed
  dsimp only at resumed
  split at resumed
  case h_1 limit keys _ =>
    obtain ⟨⟨queue, claims⟩, claimed, same⟩ :=
      Option.map_eq_some_iff.mp resumed
    cases same
    exact .claimed claimed
  case h_2 => cases resumed; exact .idle
  case h_3 => cases resumed; exact .started rfl rfl
  case h_4 =>
    obtain ⟨⟨store, progress⟩, moving, same⟩ :=
      Option.map_eq_some_iff.mp resumed
    cases same
    exact .ran moving
  case h_5 =>
    split at resumed
    case h_1 absent => cases resumed; exact .missing absent
    case h_2 known found => cases resumed; exact .loaded found
  case h_6 =>
    obtain ⟨current, found, same⟩ := Option.map_eq_some_iff.mp resumed
    cases same
    exact .reported found rfl rfl
  case h_7 => cases resumed

/-- A step of a request, or of a worker. -/
theorem Party.resume_cases {party : Party} {next : Option Party}
    (resumed : party.resume settings geometry backend choice =
      some (after, next)) :
    (∃ job store further, party = .request job ∧
      job.resume settings geometry backend.store choice =
        some (store, further) ∧
      after = Backend.read
        { store := store
          queue := backend.queue.enqueues job.task choice } choice.now ∧
      next = further.map .request) ∨
    (∃ worker further, party = .worker worker ∧
      worker.Moves settings geometry backend choice after further ∧
      next = further.map .worker) := by
  unfold Party.resume at resumed
  cases party with
  | request job =>
      obtain ⟨⟨store, further⟩, moving, same⟩ :=
        Option.map_eq_some_iff.mp resumed
      cases same
      exact .inl ⟨job, store, further, rfl, moving, rfl, rfl⟩
  | worker worker =>
      obtain ⟨⟨moved, further⟩, moving, same⟩ :=
        Option.map_eq_some_iff.mp resumed
      cases same
      exact .inr ⟨worker, further, rfl, Worker.resume_cases moving, rfl⟩

/-- A crash leaves the jobs as they are. -/
theorem Party.release_queue (party : Party) (backend : Backend) :
    (party.release backend).queue = backend.queue := by
  cases party with
  | request job => rfl
  | worker running => cases running <;> rfl

/-! ## Claims and rows -/

/-- The jobs that a worker has claimed and not yet reported. -/
def Worker.held : Worker → List Claim
  | .polling _ => []
  | .waiting claim rest => claim :: rest
  | .running claim _ rest => claim :: rest
  | .returned claim _ rest => claim :: rest
  | .reporting claim _ _ rest => claim :: rest

def Party.held : Party → List Claim
  | .request _ => []
  | .worker running => running.held

@[simp] theorem Worker.held_ran (claim : Claim) (rest : List Claim)
    (progress : Progress) :
    (Worker.ran claim rest progress).held = claim :: rest := by
  cases progress <;> rfl

theorem Worker.held_next {claims : List Claim} {worker : Worker}
    (next : Worker.next claims = some worker) : worker.held = claims := by
  cases claims with
  | nil => cases next
  | cons claim rest =>
      cases next
      rfl

/-- The claim that the next step of a worker reports. -/
def Worker.reports : Worker → Option Claim
  | .reporting claim _ _ _ => some claim
  | _ => none

/-- What a worker holds after a step: the claims it has just made, or what it
held before, without the claim it has reported. -/
theorem Worker.Moves.held_cases {worker further : Worker}
    {next : Option Worker}
    (moves : worker.Moves settings geometry backend choice after next)
    (arrives : next = some further) :
    (∃ limit keys queue claims, worker = .polling limit ∧
      backend.queue.claimPipelineJobs limit choice.now keys =
        some (queue, claims) ∧
      after.queue.jobs = queue.jobs ∧ further.held = claims) ∨
    ∃ dropped, worker.held = dropped ++ further.held ∧
      ∀ claim, worker.reports = some claim → dropped = [claim] := by
  cases moves with
  | claimed claimed =>
      exact .inl ⟨_, _, _, _, rfl, claimed, rfl, Worker.held_next arrives⟩
  | idle => cases arrives
  | started =>
      cases arrives
      refine .inr ⟨[], rfl, ?_⟩
      intro _ reports
      cases reports
  | ran =>
      cases arrives
      refine .inr ⟨[], ?_, ?_⟩
      · rw [Worker.held_ran]
        rfl
      · intro _ reports
        cases reports
  | @missing claim failed rest =>
      refine .inr ⟨[claim], ?_, ?_⟩
      · rw [Worker.held_next arrives]
        rfl
      · intro _ reports
        cases reports
  | loaded =>
      cases arrives
      refine .inr ⟨[], rfl, ?_⟩
      intro _ reports
      cases reports
  | @reported claim failed rest known =>
      refine .inr ⟨[claim], ?_, ?_⟩
      · rw [Worker.held_next arrives]
        rfl
      · intro _ reports
        cases reports
        rfl

theorem PipelineJob.claimable_iff {now : Time} {job : PipelineJob} :
    job.claimable now = true ↔
      job.status.finished = false ∧ job.nextAttemptAt ≤ now ∧
        job.lockedUntil.all (· < now) = true ∧
        job.attemptCount < job.maxAttempts := by
  cases job with
  | mk _ _ status => cases status <;>
      simp [claimable, JobStatus.finished, and_assoc]

variable {queue : JobQueue} {limit : Nat} {now : Time} {keys : List String}
  {claims : List Claim}

/-- A claim changes the rows it returns and no others. -/
theorem JobQueue.claim_find
    (claimed : backend.queue.claimPipelineJobs limit now keys =
      some (queue, claims)) (key : String) :
    queue.jobs.find key =
      (backend.queue.jobs.find key).map fun job =>
        if key ∈ keys then job.claim now else job := by
  unfold JobQueue.claimPipelineJobs at claimed
  split at claimed
  case isFalse => cases claimed
  case isTrue =>
    cases claimed
    rw [Table.find_updateWhere]
    simp only [decide_eq_true_eq]

theorem JobQueue.claim_started
    (claimed : backend.queue.claimPipelineJobs limit now keys =
      some (queue, claims)) : queue.started = backend.queue.started := by
  unfold JobQueue.claimPipelineJobs at claimed
  split at claimed <;> cases claimed
  rfl

/-- A row that is claimed was claimable. -/
theorem JobQueue.claim_claimable
    (claimed : backend.queue.claimPipelineJobs limit now keys =
      some (queue, claims)) {key : String} (member : key ∈ keys) :
    ∃ job, backend.queue.jobs.find key = some job ∧
      job.claimable now = true := by
  unfold JobQueue.claimPipelineJobs at claimed
  split at claimed
  case isFalse => cases claimed
  case isTrue chosen =>
    exact (Option.any_eq_true _ _).mp (chosen.2.2 key member)

theorem JobQueue.mem_claims
    (claimed : backend.queue.claimPipelineJobs limit now keys =
      some (queue, claims)) {claim : Claim} (member : claim ∈ claims) :
    claim.key ∈ keys ∧
      ∃ job, backend.queue.jobs.find claim.key = some job ∧
        job.claimable now = true ∧ claim.job = job.claim now := by
  have find := JobQueue.claim_find claimed claim.key
  have claimable := fun inside : claim.key ∈ keys =>
    JobQueue.claim_claimable claimed inside
  unfold JobQueue.claimPipelineJobs at claimed
  split at claimed
  case isFalse => cases claimed
  case isTrue =>
    cases claimed
    obtain ⟨key, inside, named⟩ := List.mem_filterMap.mp member
    obtain ⟨row, found, rfl⟩ := Option.map_eq_some_iff.mp named
    obtain ⟨job, before, passes⟩ := claimable inside
    have after := find.symm.trans found
    rw [before, Option.map_some, if_pos inside] at after
    exact ⟨inside, job, before, passes, (Option.some.inj after).symm⟩

theorem JobQueue.claims_mem
    (claimed : backend.queue.claimPipelineJobs limit now keys =
      some (queue, claims)) {key : String} {job : PipelineJob}
    (member : key ∈ keys) (found : queue.jobs.find key = some job) :
    { key := key, job := job } ∈ claims := by
  unfold JobQueue.claimPipelineJobs at claimed
  split at claimed
  case isFalse => cases claimed
  case isTrue =>
    cases claimed
    refine List.mem_filterMap.mpr ⟨key, member, ?_⟩
    exact congrArg (Option.map _) found

/-- No row is claimed twice. -/
theorem JobQueue.claims_distinct
    (claimed : backend.queue.claimPipelineJobs limit now keys =
      some (queue, claims)) :
    claims.Pairwise fun first second => first.key ≠ second.key := by
  unfold JobQueue.claimPipelineJobs at claimed
  split at claimed
  case isFalse => cases claimed
  case isTrue chosen =>
    cases claimed
    rw [List.pairwise_filterMap]
    refine List.Pairwise.imp ?_ chosen.1
    intro first second different left named right named'
    obtain ⟨_, _, rfl⟩ := Option.map_eq_some_iff.mp named
    obtain ⟨_, _, rfl⟩ := Option.map_eq_some_iff.mp named'
    exact different

/-- A worker inserts no job. -/
theorem Worker.Moves.absent {worker : Worker} {next : Option Worker}
    {key : String}
    (moves : worker.Moves settings geometry backend choice after next)
    (missing : backend.queue.jobs.find key = none) :
    after.queue.jobs.find key = none := by
  cases moves with
  | @claimed limit keys queue claims claimed =>
      have find := JobQueue.claim_find claimed key
      rw [missing] at find
      exact find
  | idle => exact missing
  | started jobs =>
      exact (congrArg (Table.find · key) jobs).trans missing
  | ran => exact missing
  | missing => exact missing
  | loaded => exact missing
  | @reported claim failed rest known current queue stored jobs =>
      have different : key ≠ claim.key := by
        rintro rfl
        rw [missing] at stored
        cases stored
      have find : queue.jobs.find key = _ :=
        (congrArg (Table.find · key) jobs).trans
          (Table.find_put_of_ne _ _ different)
      exact find.trans missing

/-- What a request does to the table: it may insert one job. -/
theorem JobQueue.enqueues_cases (queue : JobQueue) (task : Option Task)
    (choice : Choice) :
    queue.enqueues task choice = queue ∨
      ∃ operation id known stage suffix,
        task = some (.loaded operation id known) ∧
        operation.enqueues known = some (stage, suffix) ∧
        choice.answer = .plain ∧
        queue.jobs.find (idempotencyKey id stage suffix) = none ∧
        queue.enqueues task choice =
          { queue with
            jobs := queue.jobs.put (idempotencyKey id stage suffix)
              { grievanceId := id, stage := stage, status := .pending
                attemptCount := 0, maxAttempts := 5
                nextAttemptAt := choice.now, lockedUntil := none } } := by
  unfold JobQueue.enqueues
  split
  case h_2 => exact .inl rfl
  case h_1 operation id known answered =>
    cases asked : operation.enqueues known with
    | none => exact .inl rfl
    | some named =>
        obtain ⟨stage, suffix⟩ := named
        cases found : queue.jobs.find (idempotencyKey id stage suffix) with
        | some row =>
            left
            simp only [JobQueue.enqueuePipelineJob, found]
        | none =>
            right
            refine ⟨operation, id, known, stage, suffix, rfl, asked, answered,
              found, ?_⟩
            simp only [JobQueue.enqueuePipelineJob, found]

/-- A request leaves the rows that are there, and starts nothing. -/
theorem JobQueue.enqueues_keeps {queue : JobQueue} {task : Option Task}
    {choice : Choice} {key : String} {row : PipelineJob}
    (found : queue.jobs.find key = some row) :
    (queue.enqueues task choice).jobs.find key = some row := by
  rcases queue.enqueues_cases task choice with
    same | ⟨_, id, _, stage, suffix, _, _, _, absent, inserted⟩
  · rw [same, found]
  · have different : key ≠ idempotencyKey id stage suffix := by
      rintro rfl
      rw [absent] at found
      cases found
    rw [inserted, Table.find_put_of_ne _ _ different, found]

/-- A row after a request was there before, or nobody has claimed it. -/
theorem JobQueue.find_enqueues {queue : JobQueue} {task : Option Task}
    {choice : Choice} {key : String} {row : PipelineJob}
    (found : (queue.enqueues task choice).jobs.find key = some row) :
    queue.jobs.find key = some row ∨
      row.attemptCount = 0 ∧ row.maxAttempts = 5 := by
  rcases queue.enqueues_cases task choice with
    same | ⟨_, id, _, stage, suffix, _, _, _, _, inserted⟩
  · rw [same] at found
    exact .inl found
  · rw [inserted, Table.find_put] at found
    split at found
    case isTrue => cases found; exact .inr ⟨rfl, rfl⟩
    case isFalse => exact .inl found

theorem JobQueue.enqueues_started (queue : JobQueue) (task : Option Task)
    (choice : Choice) :
    (queue.enqueues task choice).started = queue.started := by
  rcases queue.enqueues_cases task choice with
    same | ⟨_, _, _, _, _, _, _, _, _, inserted⟩
  · rw [same]
  · rw [inserted]

end

/-! ## A small backend -/

def JobQueue.statusOf (queue : JobQueue) (key : String) : Option JobStatus :=
  (queue.jobs.find key).map (·.status)

def Backend.single (row : Grievance) : Backend :=
  { store := .single "g" row
    queue := { jobs := Table.empty, clock := 0, started := [] } }

theorem Backend.single_initial {settings : Settings} {geometry : Geometry}
    {admissible : Grievance → Prop} {row : Grievance}
    (admits : admissible row) :
    (jobProgram settings geometry admissible).initial (.single row) :=
  ⟨Store.single_initial admits, rfl, rfl⟩

/-- The citizen of the reviewed grievance corrects its category. -/
def correctsCategory : Call :=
  .request (.updateReview "g" "citizen"
    { categoryId := some "pothole_surface_damage", assetScope := none
      summary := none, clarificationAnswer := none })

/-- The job of the first correction. -/
def correctionKey : String :=
  idempotencyKey "g" "reextract" "2"

/-- A worker that is alone runs the job of the correction to its end. -/
def rechecks (now : Time) (answer : Answer) : List Choice :=
  [⟨now, .selected [correctionKey]⟩, ⟨now, .plain⟩, ⟨now, .plain⟩,
    ⟨now, answer⟩, ⟨now, .plain⟩, ⟨now, .plain⟩]

end JanSetu.Pipeline
