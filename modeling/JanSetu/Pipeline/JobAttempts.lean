import JanSetu.Library.History
import JanSetu.Library.Tickets
import JanSetu.Pipeline.Jobs

/-!
# Attempts of jobs

What the workers have claimed, started and reported, in the order of the steps.
Each claim hands out one attempt, so that a job is not started more often than
its counter says.  A claim waits for the lease of the one before, and for the
delay after a failure.
-/

namespace JanSetu.Pipeline

open Process (Label Program Recorded Chronicle Tickets)

/-- A report is noted with the attempt counter of the row. -/
inductive JobNote where
  | claimed (keys : List String) (now : Time)
  | started (key : String) (attempt : Nat)
  | reported (key : String) (failed : Bool) (counter : Nat) (now : Time)
deriving DecidableEq

def Worker.note (choice : Choice) : Worker → Option JobNote
  | .polling _ =>
      match choice.answer with
      | .selected keys => some (.claimed keys choice.now)
      | _ => none
  | .waiting claim _ => some (.started claim.key claim.job.attemptCount)
  | .reporting claim failed known _ =>
      some (.reported claim.key failed known.attemptCount choice.now)
  | _ => none

def Party.note (party : Party) (choice : Choice) : Option JobNote :=
  match party with
  | .request _ => none
  | .worker running => running.note choice

/-- The attempt that a start uses. -/
def JobNote.attempt : JobNote → Option (String × Nat)
  | .started key attempt => some (key, attempt)
  | _ => none

/-- The note says that a job with the key was started. -/
def JobNote.starts (key : String) (note : JobNote) : Bool :=
  note.attempt.any fun attempt => attempt.1 = key

def jobHistory (settings : Settings) (geometry : Geometry)
    (admissible : Grievance → Prop) :
    Program (Recorded Backend JobNote) Party Call Choice :=
  (jobProgram settings geometry admissible).recorded Party.note
    fun recorded => recorded.notes = []

/-- The clock does not go backwards, and nothing comes between the two steps of
a report. -/
def AtomicReports (world : World (Recorded Backend JobNote) Party)
    (label : Label Call Choice) : Prop :=
  ∀ pid choice, label = .resume pid choice →
    world.shared.shared.queue.clock ≤ choice.now ∧
      ∀ other worker, world.Running other (.worker worker) →
        worker.reports.isSome → other = pid

/-! ## What a step does to the jobs and to the notes -/

section

variable {settings : Settings} {geometry : Geometry}
  {admissible : Grievance → Prop} {backend after : Backend}
  {choice : Choice}

inductive Party.Noted (backend : Backend) (choice : Choice)
    (after : Backend) : Party → Option Party → Option JobNote → Prop where
  | asked {job : Job} {further : Option Job} {task : Option Task} :
      after.queue.jobs = (backend.queue.enqueues task choice).jobs →
      Noted backend choice after (.request job) (further.map .request) none
  | claimed {limit : Nat} {keys : List String} {queue : JobQueue}
      {claims : List Claim} :
      backend.queue.claimPipelineJobs limit choice.now keys =
        some (queue, claims) →
      after.queue.jobs = queue.jobs →
      Noted backend choice after (.worker (.polling limit))
        ((Worker.next claims).map .worker)
        (some (.claimed keys choice.now))
  | idle {limit : Nat} :
      after.queue.jobs = backend.queue.jobs →
      Noted backend choice after (.worker (.polling limit)) none none
  | started {claim : Claim} {rest : List Claim} :
      after.queue.jobs = backend.queue.jobs →
      Noted backend choice after (.worker (.waiting claim rest))
        (some (.worker (.running claim claim.task rest)))
        (some (.started claim.key claim.job.attemptCount))
  | ran {claim : Claim} {task : Task} {rest : List Claim}
      {progress : Progress} :
      after.queue.jobs = backend.queue.jobs →
      Noted backend choice after (.worker (.running claim task rest))
        (some (.worker (Worker.ran claim rest progress))) none
  | missing {claim : Claim} {failed : Bool} {rest : List Claim} :
      after.queue.jobs = backend.queue.jobs →
      Noted backend choice after (.worker (.returned claim failed rest))
        ((Worker.next rest).map .worker) none
  | loaded {claim : Claim} {failed : Bool} {rest : List Claim}
      {known : PipelineJob} :
      after.queue.jobs = backend.queue.jobs →
      backend.queue.jobs.find claim.key = some known →
      Noted backend choice after (.worker (.returned claim failed rest))
        (some (.worker (.reporting claim failed known rest))) none
  | reported {claim : Claim} {failed : Bool} {rest : List Claim}
      {known current : PipelineJob} :
      backend.queue.jobs.find claim.key = some current →
      after.queue.jobs = backend.queue.jobs.put claim.key
        (known.writeBack (reportJob failed choice.now known) current) →
      Noted backend choice after
        (.worker (.reporting claim failed known rest))
        ((Worker.next rest).map .worker)
        (some (.reported claim.key failed known.attemptCount choice.now))

theorem Worker.polled {limit : Nat} {next : Option Worker}
    (resumed : (Worker.polling limit).resume settings geometry backend choice =
      some (after, next)) :
    (∃ keys queue claims, choice.answer = .selected keys ∧
      backend.queue.claimPipelineJobs limit choice.now keys =
        some (queue, claims) ∧
      after = { backend with queue := queue } ∧
      next = Worker.next claims) ∨
    choice.answer = .raises ∧ after = backend ∧ next = none := by
  unfold Worker.resume at resumed
  dsimp only at resumed
  split at resumed
  case h_1 limit keys polls answered =>
    cases polls
    obtain ⟨⟨queue, claims⟩, claimed, same⟩ :=
      Option.map_eq_some_iff.mp resumed
    cases same
    exact .inl ⟨keys, queue, claims, answered, claimed, rfl, rfl⟩
  case h_2 answered =>
    cases resumed
    exact .inr ⟨answered, rfl, rfl⟩
  all_goals contradiction

theorem Party.noted {party : Party} {next : Option Party}
    (resumed : party.resume settings geometry backend choice =
      some (after, next)) :
    party.Noted backend choice after next (party.note choice) := by
  unfold Party.resume at resumed
  cases party with
  | request job =>
      obtain ⟨⟨store, further⟩, _, same⟩ := Option.map_eq_some_iff.mp resumed
      cases same
      have jobs : (Backend.read
          { store := store
            queue := backend.queue.enqueues job.task choice }
          choice.now).queue.jobs =
            (backend.queue.enqueues job.task choice).jobs := rfl
      exact .asked jobs
  | worker running =>
      obtain ⟨⟨moved, further⟩, moving, same⟩ :=
        Option.map_eq_some_iff.mp resumed
      obtain ⟨arrived, rfl⟩ := Prod.mk.inj same
      have moves := Worker.resume_cases moving
      rw [show moved.read choice.now = after from arrived] at moves
      cases running with
      | polling limit =>
          rcases Worker.polled moving with
            ⟨keys, queue, claims, answered, claimed, rfl, rfl⟩ |
            ⟨answered, rfl, rfl⟩
          · have noted : Party.note (.worker (.polling limit)) choice =
                some (.claimed keys choice.now) := by
              simp only [Party.note, Worker.note, answered]
            rw [noted, ← arrived]
            exact .claimed claimed rfl
          · have noted :
                Party.note (.worker (.polling limit)) choice = none := by
              simp only [Party.note, Worker.note, answered]
            rw [noted, ← arrived]
            exact .idle rfl
      | waiting claim rest =>
          cases moves with
          | started jobs => exact .started jobs
      | running claim task rest =>
          cases moves with
          | ran => exact .ran rfl
      | returned claim failed rest =>
          cases moves with
          | missing => exact .missing rfl
          | loaded found => exact .loaded rfl found
      | reporting claim failed known rest =>
          cases moves with
          | reported found jobs => exact .reported found jobs

/-! ## Starts -/

/-- The claims whose jobs a worker has still to start. -/
def Worker.unstarted : Worker → List Claim
  | .polling _ => []
  | .waiting claim rest => claim :: rest
  | .running _ _ rest => rest
  | .returned _ _ rest => rest
  | .reporting _ _ _ rest => rest

def Party.unstarted : Party → List Claim
  | .request _ => []
  | .worker running => running.unstarted

def Claim.attempt (claim : Claim) : String × Nat :=
  (claim.key, claim.job.attemptCount)

def JobQueue.attempts (queue : JobQueue) (key : String) : Nat :=
  (queue.jobs.find key).elim 0 (·.attemptCount)

/-- A claim hands out the next attempt of a job, and a start uses it. -/
def jobAttempts : Tickets (Recorded Backend JobNote) Party String :=
  { last := fun recorded => recorded.shared.queue.attempts
    used := fun recorded => recorded.notes.filterMap JobNote.attempt
    held := fun party => party.unstarted.map Claim.attempt }

theorem Worker.unstarted_next {claims : List Claim} {worker : Worker}
    (next : Worker.next claims = some worker) : worker.unstarted = claims := by
  cases claims with
  | nil => cases next
  | cons claim rest =>
      cases next
      rfl

@[simp] theorem Worker.unstarted_ran (claim : Claim) (rest : List Claim)
    (progress : Progress) :
    (Worker.ran claim rest progress).unstarted = rest := by
  cases progress <;> rfl

theorem JobQueue.attempts_of_jobs {queue other : JobQueue}
    (jobs : other.jobs = queue.jobs) : other.attempts = queue.attempts := by
  funext key
  unfold JobQueue.attempts
  rw [jobs]

/-- A job that is new has no attempts. -/
theorem JobQueue.attempts_enqueues (queue : JobQueue) (task : Option Task)
    (choice : Choice) :
    (queue.enqueues task choice).attempts = queue.attempts := by
  funext key
  rcases queue.enqueues_cases task choice with
    same | ⟨_, id, _, stage, suffix, _, _, _, absent, inserted⟩
  · rw [same]
  · unfold JobQueue.attempts
    rw [inserted]
    by_cases same : key = idempotencyKey id stage suffix
    · subst same
      rw [Table.find_put_self, absent]
      rfl
    · rw [Table.find_put_of_ne _ _ same]

theorem JobQueue.attempts_reported {queue other : JobQueue} {key : String}
    {known new current : PipelineJob}
    (found : queue.jobs.find key = some current)
    (jobs : other.jobs = queue.jobs.put key (known.writeBack new current)) :
    other.attempts = queue.attempts := by
  funext job
  unfold JobQueue.attempts
  rw [jobs]
  by_cases same : job = key
  · subst same
    rw [Table.find_put_self, found]
    rfl
  · rw [Table.find_put_of_ne _ _ same]

theorem JobQueue.attempts_claimed {limit : Nat} {now : Time}
    {keys : List String} {queue : JobQueue} {claims : List Claim}
    (claimed : backend.queue.claimPipelineJobs limit now keys =
      some (queue, claims)) (key : String) :
    backend.queue.attempts key ≤ queue.attempts key := by
  unfold JobQueue.attempts
  rw [JobQueue.claim_find claimed key]
  cases backend.queue.jobs.find key with
  | none => exact Nat.le_refl 0
  | some job =>
      by_cases member : key ∈ keys
      · simp only [Option.map_some, if_pos member, Option.elim_some]
        exact Nat.le_succ job.attemptCount
      · simp [member]

/-- What a claim returns are the next attempts of the jobs. -/
theorem JobQueue.attempts_new {limit : Nat} {now : Time}
    {keys : List String} {queue : JobQueue} {claims : List Claim}
    (claimed : backend.queue.claimPipelineJobs limit now keys =
      some (queue, claims)) {claim : Claim} (member : claim ∈ claims) :
    backend.queue.attempts claim.key < claim.job.attemptCount ∧
      claim.job.attemptCount ≤ queue.attempts claim.key := by
  obtain ⟨inside, row, found, _, same⟩ := JobQueue.mem_claims claimed member
  have find := JobQueue.claim_find claimed claim.key
  rw [found, Option.map_some, if_pos inside] at find
  unfold JobQueue.attempts
  rw [find, found, same]
  exact ⟨Nat.lt_succ_self row.attemptCount, Nat.le_refl _⟩

/-- A step that makes no claim and starts no job. -/
theorem jobAttempts_unspent {party : Party} {next : Option Party}
    {note : Option JobNote} {notes : List JobNote}
    (attempts : after.queue.attempts = backend.queue.attempts)
    (nothing : note.bind JobNote.attempt = none)
    (fewer : ∀ further, next = some further →
      further.unstarted.Sublist party.unstarted)
    (distinct : (jobAttempts.held party).Nodup) :
    jobAttempts.Spends { shared := backend, notes := notes } party
      { shared := after, notes := note.toList ++ notes } next := by
  refine Tickets.Spends.of_same attempts ?_ ?_ distinct
  · show (note.toList ++ notes).filterMap JobNote.attempt =
      notes.filterMap JobNote.attempt
    cases note with
    | none => rfl
    | some note => exact List.filterMap_cons_none nothing
  · intro further arrives
    exact (fewer further arrives).map Claim.attempt

theorem Party.Noted.spends {party : Party} {next : Option Party}
    {note : Option JobNote}
    (noted : party.Noted backend choice after next note)
    (notes : List JobNote) (distinct : (jobAttempts.held party).Nodup) :
    jobAttempts.Spends { shared := backend, notes := notes } party
      { shared := after, notes := note.toList ++ notes } next := by
  cases noted with
  | @asked job further task jobs =>
      apply jobAttempts_unspent ?_ rfl ?_ distinct
      · exact (JobQueue.attempts_of_jobs jobs).trans
          (backend.queue.attempts_enqueues task choice)
      · intro party arrives
        obtain ⟨job, _, rfl⟩ := Option.map_eq_some_iff.mp arrives
        exact List.Sublist.refl _
  | @claimed limit keys queue claims claimed jobs =>
      have attempts : after.queue.attempts = queue.attempts :=
        JobQueue.attempts_of_jobs jobs
      constructor
      · intro key
        show backend.queue.attempts key ≤ after.queue.attempts key
        rw [attempts]
        exact JobQueue.attempts_claimed claimed key
      · exact .inl rfl
      · intro party arrives
        obtain ⟨worker, found, rfl⟩ := Option.map_eq_some_iff.mp arrives
        have held : jobAttempts.held (.worker worker) =
            claims.map Claim.attempt :=
          congrArg (List.map Claim.attempt) (Worker.unstarted_next found)
        rw [held]
        constructor
        · rw [List.Nodup, List.pairwise_map]
          apply (JobQueue.claims_distinct claimed).imp
          intro first second different same
          exact different (congrArg Prod.fst same)
        · intro ticket member
          obtain ⟨claim, inside, rfl⟩ := List.mem_map.mp member
          obtain ⟨above, bound⟩ := JobQueue.attempts_new claimed inside
          right
          refine ⟨above, ?_⟩
          show claim.job.attemptCount ≤ after.queue.attempts claim.key
          rw [attempts]
          exact bound
  | idle jobs =>
      apply jobAttempts_unspent (JobQueue.attempts_of_jobs jobs) rfl ?_ distinct
      intro party arrives
      cases arrives
  | @started claim rest jobs =>
      have attempts : after.queue.attempts = backend.queue.attempts :=
        JobQueue.attempts_of_jobs jobs
      constructor
      · intro key
        exact Nat.le_of_eq (congrFun attempts key).symm
      · right
        refine ⟨claim.attempt, List.mem_cons_self, rfl, ?_⟩
        intro party arrives
        cases arrives
        exact (List.nodup_cons.mp distinct).1
      · intro party arrives
        cases arrives
        refine ⟨(List.nodup_cons.mp distinct).2, ?_⟩
        intro ticket member
        exact .inl (List.mem_cons_of_mem _ member)
  | @ran claim task rest progress jobs =>
      apply jobAttempts_unspent (JobQueue.attempts_of_jobs jobs) rfl ?_ distinct
      intro party arrives
      cases arrives
      show (Worker.ran claim rest progress).unstarted.Sublist rest
      rw [Worker.unstarted_ran]
  | missing jobs =>
      apply jobAttempts_unspent (JobQueue.attempts_of_jobs jobs) rfl ?_ distinct
      intro party arrives
      obtain ⟨worker, found, rfl⟩ := Option.map_eq_some_iff.mp arrives
      exact Worker.unstarted_next found ▸ List.Sublist.refl _
  | loaded jobs =>
      apply jobAttempts_unspent (JobQueue.attempts_of_jobs jobs) rfl ?_ distinct
      intro party arrives
      cases arrives
      exact List.Sublist.refl _
  | reported found jobs =>
      apply jobAttempts_unspent (JobQueue.attempts_reported found jobs) rfl ?_
        distinct
      intro party arrives
      obtain ⟨worker, found, rfl⟩ := Option.map_eq_some_iff.mp arrives
      exact Worker.unstarted_next found ▸ List.Sublist.refl _

theorem attempts_handed_out {allowed : World (Recorded Backend JobNote) Party →
      Label Call Choice → Prop}
    {world : World (Recorded Backend JobNote) Party}
    (reachable : (jobHistory settings geometry admissible).system.ReachableWhen
      allowed world) :
    jobAttempts.handedOut.Holds world := by
  apply Tickets.handedOut_holds ?_ ?_ ?_ ?_ reachable
  · intro recorded initial
    have nothing : recorded.notes = [] := initial.2
    show recorded.notes.filterMap JobNote.attempt = []
    rw [nothing]
    rfl
  · intro call
    cases call <;> rfl
  · intro world pid choice party recorded next _ holding _ running resumed
    obtain ⟨ran, notes⟩ := Program.recorded_resume resumed
    have noted := Party.noted ran
    have spends := noted.spends world.shared.notes
      (holding.2.1 pid party running).1
    rw [← notes] at spends
    exact spends
  · intro recorded party
    have same := party.release_queue recorded.shared
    exact ⟨congrArg JobQueue.attempts same, rfl⟩

/-! ## Leases and delays -/

/-- The times of the claims of a job of which nothing was reported since. -/
def openClaims (key : String) : List JobNote → List Time
  | [] => []
  | .claimed keys now :: earlier =>
      if key ∈ keys then now :: openClaims key earlier
      else openClaims key earlier
  | .started _ _ :: earlier => openClaims key earlier
  | .reported other _ _ _ :: earlier =>
      if other = key then [] else openClaims key earlier

theorem mem_openClaims {key : String} {keys : List String} {now : Time}
    {between earlier : List JobNote} (member : key ∈ keys)
    (unreported : ∀ failed counter time,
      JobNote.reported key failed counter time ∉ between) :
    now ∈ openClaims key (between ++ .claimed keys now :: earlier) := by
  induction between with
  | nil =>
      show now ∈ openClaims key (.claimed keys now :: earlier)
      rw [openClaims, if_pos member]
      exact List.mem_cons_self
  | cons note between induction =>
      have still := induction fun failed counter time inside =>
        unreported failed counter time (List.mem_cons_of_mem _ inside)
      cases note with
      | claimed others time =>
          rw [List.cons_append, openClaims]
          split
          · exact List.mem_cons_of_mem _ still
          · exact still
      | started other attempt => exact still
      | reported other failed counter time =>
          have different : other ≠ key := by
            rintro rfl
            exact unreported failed counter time List.mem_cons_self
          rw [List.cons_append, openClaims, if_neg different]
          exact still

def retryDelay (counter : Nat) : Time :=
  seconds (min 300 (2 ^ counter))

theorem retryDelay_mono {counter later : Nat} (before : counter ≤ later) :
    retryDelay counter ≤ retryDelay later := by
  have power : 2 ^ counter ≤ 2 ^ later :=
    Nat.pow_le_pow_right (by decide) before
  have bound : min 300 (2 ^ counter) ≤ min 300 (2 ^ later) :=
    min_le_min_left 300 power
  exact Int.mul_le_mul_of_nonneg_right (Int.ofNat_le.mpr bound) (by decide)

/-- A claim made at the time still has its lease. -/
def JobQueue.Leased (queue : JobQueue) (key : String) (first : Time) :
    Prop :=
  ∃ row expires, queue.jobs.find key = some row ∧
    row.lockedUntil = some expires ∧
    first + seconds leaseSeconds ≤ expires

/-- A failure reported at the time still delays the job. -/
def JobQueue.Delayed (queue : JobQueue) (key : String) (counter : Nat)
    (first : Time) : Prop :=
  ∃ row, queue.jobs.find key = some row ∧ counter ≤ row.attemptCount ∧
    (counter < row.maxAttempts →
      first + retryDelay counter ≤ row.nextAttemptAt)

/-- What a claim of a job has waited for. -/
def JobQueue.Waited (queue : JobQueue) (key : String) (second : Time)
    (earlier : List JobNote) : Prop :=
  (∀ first ∈ openClaims key earlier,
    first + seconds leaseSeconds ≤ second) ∧
  ∀ counter first, .reported key true counter first ∈ earlier →
    ∃ row, queue.jobs.find key = some row ∧ counter < row.maxAttempts ∧
      first + retryDelay counter ≤ second

def JobQueue.ClaimWaited (queue : JobQueue) (earlier : List JobNote)
    (note : JobNote) : Prop :=
  ∀ keys now, note = .claimed keys now →
    ∀ key ∈ keys, queue.Waited key now earlier

structure Paced (queue : JobQueue) (notes : List JobNote) : Prop where
  counted : ∀ key row, queue.jobs.find key = some row →
    row.attemptCount ≤ row.maxAttempts
  leased : ∀ key, ∀ first ∈ openClaims key notes, queue.Leased key first
  delayed : ∀ key counter first,
    .reported key true counter first ∈ notes →
    first ≤ queue.clock ∧ queue.Delayed key counter first
  waited : Chronicle queue.ClaimWaited notes

theorem JobQueue.ClaimWaited.mono {queue other : JobQueue}
    {earlier : List JobNote} {note : JobNote}
    (rows : ∀ key row, queue.jobs.find key = some row →
      ∃ row', other.jobs.find key = some row' ∧
        row'.maxAttempts = row.maxAttempts)
    (waited : queue.ClaimWaited earlier note) :
    other.ClaimWaited earlier note := by
  intro keys now same key member
  obtain ⟨leases, delays⟩ := waited keys now same key member
  refine ⟨leases, ?_⟩
  intro counter first failed
  obtain ⟨row, found, below, delay⟩ := delays counter first failed
  obtain ⟨row', found', maximum⟩ := rows key row found
  exact ⟨row', found', maximum ▸ below, delay⟩

section

variable {queue other : JobQueue} {notes : List JobNote}

/-- Rows that are kept, and perhaps a new one. -/
theorem Paced.kept (paced : Paced queue notes)
    (clock : queue.clock ≤ other.clock)
    (rows : ∀ key row, queue.jobs.find key = some row →
      other.jobs.find key = some row)
    (new : ∀ key row, other.jobs.find key = some row →
      queue.jobs.find key = some row ∨ row.attemptCount ≤ row.maxAttempts) :
    Paced other notes := by
  constructor
  · intro key row found
    rcases new key row found with before | bound
    · exact paced.counted key row before
    · exact bound
  · intro key first member
    obtain ⟨row, expires, found, locked, bound⟩ :=
      paced.leased key first member
    exact ⟨row, expires, rows key row found, locked, bound⟩
  · intro key counter first member
    obtain ⟨past, row, found, attempts, delay⟩ :=
      paced.delayed key counter first member
    exact ⟨Int.le_trans past clock, row, rows key row found, attempts, delay⟩
  · apply paced.waited.mono
    intro earlier note waited
    exact waited.mono fun key row found => ⟨row, rows key row found, rfl⟩

theorem Paced.started (paced : Paced queue notes) (key : String)
    (attempt : Nat) : Paced queue (.started key attempt :: notes) := by
  refine ⟨paced.counted, paced.leased, ?_, ?_, paced.waited⟩
  · intro other counter first member
    rcases List.mem_cons.mp member with same | before
    · cases same
    · exact paced.delayed other counter first before
  · intro keys now same
    cases same

/-- A claim finds a row whose lease and whose delay have passed. -/
theorem Paced.waits (paced : Paced queue notes) {key : String}
    {row : PipelineJob} {now : Time} (found : queue.jobs.find key = some row)
    (claimable : row.claimable now = true) : queue.Waited key now notes := by
  obtain ⟨_, due, unlocked, attempts⟩ :=
    PipelineJob.claimable_iff.mp claimable
  constructor
  · intro first member
    obtain ⟨row', expires, found', locked, bound⟩ :=
      paced.leased key first member
    have is : row' = row := Option.some.inj (found'.symm.trans found)
    subst is
    rw [locked, Option.all_some, decide_eq_true_eq] at unlocked
    exact Int.le_of_lt (Int.lt_of_le_of_lt bound unlocked)
  · intro counter first member
    obtain ⟨_, row', found', below, delay⟩ :=
      paced.delayed key counter first member
    have is : row' = row := Option.some.inj (found'.symm.trans found)
    subst is
    have further := Nat.lt_of_le_of_lt below attempts
    exact ⟨row', found, further, Int.le_trans (delay further) due⟩

theorem Paced.claimed {limit : Nat} {keys : List String}
    {claims : List Claim} {now : Time} (paced : Paced backend.queue notes)
    (clock : backend.queue.clock ≤ now)
    (claimed : backend.queue.claimPipelineJobs limit now keys =
      some (queue, claims))
    (jobs : other.jobs = queue.jobs) (time : other.clock = now) :
    Paced other (.claimed keys now :: notes) := by
  have find : ∀ key, other.jobs.find key =
      (backend.queue.jobs.find key).map fun job =>
        if key ∈ keys then job.claim now else job := by
    intro key
    rw [jobs]
    exact JobQueue.claim_find claimed key
  have rows : ∀ key row, backend.queue.jobs.find key = some row →
      ∃ row', other.jobs.find key = some row' ∧
        row'.maxAttempts = row.maxAttempts := by
    intro key row found
    have there := find key
    rw [found, Option.map_some] at there
    refine ⟨_, there, ?_⟩
    split <;> rfl
  refine ⟨?_, ?_, ?_, ?_, ?_⟩
  · intro key row there
    rw [find key] at there
    obtain ⟨job, found, same⟩ := Option.map_eq_some_iff.mp there
    subst same
    split
    case isTrue member =>
      obtain ⟨job', found', claimable⟩ :=
        JobQueue.claim_claimable claimed member
      have is : job' = job := Option.some.inj (found'.symm.trans found)
      subst is
      exact (PipelineJob.claimable_iff.mp claimable).2.2.2
    case isFalse => exact paced.counted key job found
  · intro key first member
    by_cases inside : key ∈ keys
    · obtain ⟨job, found, claimable⟩ :=
        JobQueue.claim_claimable claimed inside
      have there := find key
      rw [found, Option.map_some, if_pos inside] at there
      refine ⟨_, _, there, rfl, ?_⟩
      rw [openClaims, if_pos inside] at member
      rcases List.mem_cons.mp member with rfl | before
      · exact Int.le_refl _
      · -- The lease of the earlier claim ended before this one began.
        have ended := (paced.waits found claimable).1 first before
        exact Int.le_trans ended (Int.le_add_of_nonneg_right (by decide))
    · rw [openClaims, if_neg inside] at member
      obtain ⟨row, expires, found, locked, bound⟩ :=
        paced.leased key first member
      have there := find key
      rw [found, Option.map_some, if_neg inside] at there
      exact ⟨row, expires, there, locked, bound⟩
  · intro key counter first member
    rcases List.mem_cons.mp member with same | before
    · cases same
    · obtain ⟨past, row, found, attempts, delay⟩ :=
        paced.delayed key counter first before
      have there := find key
      rw [found, Option.map_some] at there
      refine ⟨?_, _, there, ?_, ?_⟩
      · rw [time]
        exact Int.le_trans past clock
      · split
        case isTrue => exact Nat.le_succ_of_le attempts
        case isFalse => exact attempts
      · split <;> exact delay
  · intro others time same key member
    cases same
    obtain ⟨job, found, claimable⟩ := JobQueue.claim_claimable claimed member
    have waits : backend.queue.ClaimWaited notes (.claimed keys now) := by
      intro _ _ same key member
      cases same
      obtain ⟨job, found, claimable⟩ :=
        JobQueue.claim_claimable claimed member
      exact paced.waits found claimable
    exact waits.mono rows keys now rfl key member
  · exact paced.waited.mono fun earlier note waited => waited.mono rows

/-- A report writes the row that it has loaded. -/
theorem PipelineJob.writeBack_self (row new : PipelineJob) :
    row.writeBack new row =
      { row with
        status := new.status, nextAttemptAt := new.nextAttemptAt
        lockedUntil := new.lockedUntil } := by
  unfold PipelineJob.writeBack
  rw [Column.write_self, Column.write_self, Column.write_self]

theorem failPipelineJob_delay {row : PipelineJob} {now : Time}
    (left : row.attemptCount < row.maxAttempts) :
    (failPipelineJob now row).nextAttemptAt =
      now + retryDelay row.attemptCount := by
  rw [failPipelineJob, if_neg (Nat.not_le_of_gt left)]
  rfl

/-- A report delays a job at least as long as the reports before it. -/
theorem reportJob_delay {row : PipelineJob} {failed : Bool} {now first : Time}
    {counter : Nat} (below : counter ≤ row.attemptCount) (past : first ≤ now)
    (delay : first + retryDelay counter ≤ row.nextAttemptAt) :
    first + retryDelay counter ≤ (reportJob failed now row).nextAttemptAt := by
  cases failed with
  | false => exact delay
  | true =>
      show first + retryDelay counter ≤ (failPipelineJob now row).nextAttemptAt
      by_cases left : row.attemptCount < row.maxAttempts
      · rw [failPipelineJob_delay left]
        exact Int.add_le_add past (retryDelay_mono below)
      · rw [failPipelineJob, if_pos (Nat.le_of_not_lt left)]
        exact delay

theorem Paced.reported {key : String} {row : PipelineJob} {failed : Bool}
    {now : Time} (paced : Paced queue notes) (clock : queue.clock ≤ now)
    (found : queue.jobs.find key = some row)
    (jobs : other.jobs = queue.jobs.put key
      (row.writeBack (reportJob failed now row) row))
    (time : other.clock = now) :
    Paced other (.reported key failed row.attemptCount now :: notes) := by
  have same : other.jobs.find key =
      some (row.writeBack (reportJob failed now row) row) := by
    rw [jobs, Table.find_put_self]
  have kept : ∀ job, job ≠ key →
      other.jobs.find job = queue.jobs.find job := by
    intro job different
    rw [jobs, Table.find_put_of_ne _ _ different]
  have rows : ∀ job stored, queue.jobs.find job = some stored →
      ∃ row', other.jobs.find job = some row' ∧
        row'.maxAttempts = stored.maxAttempts := by
    intro job stored there
    by_cases is : job = key
    · subst is
      cases there.symm.trans found
      exact ⟨_, same, rfl⟩
    · exact ⟨stored, (kept job is).trans there, rfl⟩
  refine ⟨?_, ?_, ?_, ?_, ?_⟩
  · intro job stored there
    by_cases is : job = key
    · subst is
      cases same.symm.trans there
      exact paced.counted job row found
    · rw [kept job is] at there
      exact paced.counted job stored there
  · intro job first member
    by_cases is : key = job
    · rw [openClaims, if_pos is] at member
      cases member
    · rw [openClaims, if_neg is] at member
      obtain ⟨stored, expires, there, locked, bound⟩ :=
        paced.leased job first member
      exact ⟨stored, expires, (kept job (Ne.symm is)).trans there, locked,
        bound⟩
  · intro job counter first member
    rcases List.mem_cons.mp member with is | before
    · cases is
      refine ⟨Int.le_of_eq time.symm, _, same, Nat.le_refl _, ?_⟩
      intro below
      rw [PipelineJob.writeBack_self, reportJob, if_pos rfl,
        failPipelineJob_delay below]
    · obtain ⟨past, stored, there, below, delay⟩ :=
        paced.delayed job counter first before
      refine ⟨time ▸ Int.le_trans past clock, ?_⟩
      by_cases is : job = key
      · subst is
        cases there.symm.trans found
        refine ⟨_, same, below, ?_⟩
        intro left
        rw [PipelineJob.writeBack_self]
        exact reportJob_delay below (Int.le_trans past clock) (delay left)
      · exact ⟨stored, (kept job is).trans there, below, delay⟩
  · intro keys second is
    cases is
  · exact paced.waited.mono fun earlier note waited => waited.mono rows

end

theorem Party.Noted.paced {party : Party} {next : Option Party}
    {note : Option JobNote} {notes : List JobNote}
    (noted : party.Noted backend choice after next note)
    (paced : Paced backend.queue notes)
    (clock : backend.queue.clock ≤ choice.now)
    (time : after.queue.clock = choice.now)
    (loaded : ∀ claim failed known rest,
      party = .worker (.reporting claim failed known rest) →
      backend.queue.jobs.find claim.key = some known) :
    Paced after.queue (note.toList ++ notes) := by
  have later : backend.queue.clock ≤ after.queue.clock := by
    rw [time]
    exact clock
  have same : after.queue.jobs = backend.queue.jobs →
      Paced after.queue notes := by
    intro jobs
    apply paced.kept later
    · intro key row found
      rw [jobs, found]
    · intro key row found
      rw [jobs] at found
      exact .inl found
  cases noted with
  | asked jobs =>
      apply paced.kept later
      · intro key row found
        rw [jobs]
        exact JobQueue.enqueues_keeps found
      · intro key row found
        rw [jobs] at found
        rcases JobQueue.find_enqueues found with before | ⟨none, maximum⟩
        · exact .inl before
        · right
          rw [none]
          exact Nat.zero_le _
  | claimed claimed jobs => exact paced.claimed clock claimed jobs time
  | idle jobs => exact same jobs
  | started jobs => exact (same jobs).started _ _
  | ran jobs => exact same jobs
  | missing jobs => exact same jobs
  | loaded jobs => exact same jobs
  | reported found jobs =>
      have stored := loaded _ _ _ _ rfl
      cases stored.symm.trans found
      exact paced.reported clock found jobs time

/-- A worker that reports has loaded the row that is stored. -/
def pacedJobs : Process.Invariant (Recorded Backend JobNote) Party :=
  { shared := fun recorded => Paced recorded.shared.queue recorded.notes
    own := fun recorded party => ∀ claim failed known rest,
      party = .worker (.reporting claim failed known rest) →
      recorded.shared.queue.jobs.find claim.key = some known
    pair := fun _ _ => True }

theorem Party.resume_clock {party : Party} {next : Option Party}
    (resumed : party.resume settings geometry backend choice =
      some (after, next)) : after.queue.clock = choice.now := by
  unfold Party.resume at resumed
  cases party with
  | request job =>
      obtain ⟨_, _, same⟩ := Option.map_eq_some_iff.mp resumed
      cases same
      rfl
  | worker running =>
      obtain ⟨_, _, same⟩ := Option.map_eq_some_iff.mp resumed
      cases same
      rfl

theorem Worker.next_reports {claims : List Claim} {worker : Worker}
    (next : Worker.next claims = some worker) : worker.reports = none := by
  cases claims with
  | nil => cases next
  | cons claim rest =>
      cases next
      rfl

/-- Only the step that loads a row leads to a report. -/
theorem Party.Noted.loads {party : Party} {note : Option JobNote}
    {claim : Claim} {failed : Bool} {known : PipelineJob} {rest : List Claim}
    (noted : party.Noted backend choice after
      (some (.worker (.reporting claim failed known rest))) note) :
    after.queue.jobs.find claim.key = some known := by
  generalize arrives :
    some (Party.worker (.reporting claim failed known rest)) = next at noted
  have absurdNext : ∀ claims, some (Party.worker (.reporting claim failed known
      rest)) ≠ (Worker.next claims).map .worker := by
    intro claims same
    obtain ⟨worker, found, is⟩ := Option.map_eq_some_iff.mp same.symm
    cases is
    cases Worker.next_reports found
  cases noted with
  | asked =>
      obtain ⟨_, _, is⟩ := Option.map_eq_some_iff.mp arrives.symm
      cases is
  | claimed => exact absurd arrives (absurdNext _)
  | idle => cases arrives
  | started => cases arrives
  | @ran _ _ _ progress =>
      cases progress <;> cases arrives
  | missing => exact absurd arrives (absurdNext _)
  | loaded jobs found =>
      cases arrives
      rw [jobs]
      exact found
  | reported => exact absurd arrives (absurdNext _)

theorem paced_holds {world : World (Recorded Backend JobNote) Party}
    (reachable : (jobHistory settings geometry admissible).system.ReachableWhen
      AtomicReports world) : pacedJobs.Holds world := by
  refine Process.Invariant.holds ?initially ?spawned ?resumed ?crashed reachable
  case initially =>
    intro recorded initial
    obtain ⟨⟨_, empty, _⟩, nothing⟩ := initial
    have none : ∀ key row,
        recorded.shared.queue.jobs.find key = some row → False := by
      intro key row found
      rw [empty, Table.find_empty] at found
      cases found
    show Paced recorded.shared.queue recorded.notes
    rw [nothing]
    constructor
    · intro key row found
      exact absurd found (none key row)
    · intro key first member
      cases member
    · intro key counter first member
      cases member
    · trivial
  case spawned =>
    intro world pid call _ _ _
    refine ⟨?_, fun _ _ _ _ => ⟨trivial, trivial⟩⟩
    intro claim failed known rest same
    cases call <;> cases same
  case resumed =>
    intro world pid choice party recorded next _ holding permitted running
      resumed
    obtain ⟨clock, alone⟩ := permitted pid choice rfl
    obtain ⟨ran, notes⟩ := Program.recorded_resume resumed
    have noted := Party.noted ran
    refine ⟨?_, ?_, ?_⟩
    · show Paced recorded.shared.queue recorded.notes
      rw [notes]
      apply noted.paced holding.1 clock (Party.resume_clock ran)
      intro claim failed known rest same
      exact holding.2.1 pid party running claim failed known rest same
    · intro other right different runningOther claim failed known rest same
      subst same
      exact absurd (alone other _ runningOther rfl) different
    · intro further arrives
      refine ⟨?_, fun _ _ _ _ => ⟨trivial, trivial⟩⟩
      intro claim failed known rest same
      subst same
      rw [arrives] at noted
      exact noted.loads
  case crashed =>
    intro world pid party _ holding _ _
    have same : ((jobHistory settings geometry admissible).release world.shared
        party).shared.queue = world.shared.shared.queue :=
      party.release_queue world.shared.shared
    refine ⟨?_, ?_⟩
    · show Paced _ world.shared.notes
      rw [same]
      exact holding.1
    · intro other right _ runningOther claim failed known rest is
      rw [same]
      exact holding.2.1 other right runningOther claim failed known rest is

/-- A job is started at most `max_attempts` times.  Two claims of it are a
lease apart, unless a report came in between; a claim after a failure has waited
for its delay, and there is none once the attempts are used up. -/
theorem job_attempts_bounded
    {world : World (Recorded Backend JobNote) Party}
    (reachable : (jobHistory settings geometry admissible).system.ReachableWhen
      AtomicReports world) :
    (∀ key row, world.shared.shared.queue.jobs.find key = some row →
      world.shared.notes.countP (JobNote.starts key) ≤ row.maxAttempts) ∧
    (∀ later between earlier keys others key first second,
      world.shared.notes = later ++ .claimed keys second ::
        (between ++ .claimed others first :: earlier) →
      key ∈ keys → key ∈ others →
      (∀ failed counter time,
        JobNote.reported key failed counter time ∉ between) →
      first + seconds leaseSeconds ≤ second) ∧
    (∀ later earlier keys key counter first second,
      world.shared.notes = later ++ .claimed keys second :: earlier →
      key ∈ keys → .reported key true counter first ∈ earlier →
      ∃ row, world.shared.shared.queue.jobs.find key = some row ∧
        counter < row.maxAttempts ∧
        first + seconds (min 300 (2 ^ counter)) ≤ second) := by
  have paced := (paced_holds reachable).1
  refine ⟨?_, ?_, ?_⟩
  · intro key row found
    obtain ⟨⟨distinct, numbered⟩, _⟩ := attempts_handed_out reachable
    have bound := Tickets.used_le_last distinct numbered key
    have starts : (jobAttempts.used world.shared).countP
        (fun attempt => attempt.1 = key) =
          world.shared.notes.countP (JobNote.starts key) := by
      show (world.shared.notes.filterMap JobNote.attempt).countP _ = _
      rw [List.countP_filterMap]
      apply List.countP_congr
      intro note _
      unfold JobNote.starts
      cases note.attempt <;> simp
    have attempts : jobAttempts.last world.shared key = row.attemptCount := by
      show world.shared.shared.queue.attempts key = row.attemptCount
      unfold JobQueue.attempts
      rw [found, Option.elim_some]
    rw [starts, attempts] at bound
    exact Nat.le_trans bound (paced.counted key row found)
  · intro later between earlier keys others key first second notes member
      before unreported
    have waited := paced.waited
    rw [notes] at waited
    apply (waited.obeyed keys second rfl key member).1
    exact mem_openClaims before unreported
  · intro later earlier keys key counter first second notes member failed
    have waited := paced.waited
    rw [notes] at waited
    exact (waited.obeyed keys second rfl key member).2 counter first failed

end

/-! ## A job that fails once -/

/-- A party that is alone while the clock goes forward. -/
def clockForward (recorded : Recorded Backend JobNote) (_ : Party)
    (choice : Choice) : Bool :=
  decide (recorded.shared.queue.clock ≤ choice.now)

theorem atomicReports_of_alone {world : World (Recorded Backend JobNote) Party}
    {party : Party} {choice : Choice}
    (only : Process.OnlyRunning world 0 (some party))
    (test : clockForward world.shared party choice = true) :
    AtomicReports world (.resume 0 choice) := by
  intro pid given same
  cases same
  refine ⟨of_decide_eq_true test, ?_⟩
  intro other worker running _
  exact (only.eq_of_running running).1

/-- The claims and reports of a job that fails and is run again. -/
def retriedNotes : List JobNote :=
  [.reported correctionKey false 2 (seconds 15),
   .started correctionKey 2, .claimed [correctionKey] (seconds 15),
   .reported correctionKey true 1 (seconds 12),
   .started correctionKey 1, .claimed [correctionKey] (seconds 10)]

theorem job_attempts_retried :
    ∃ world : World (Recorded Backend JobNote) Party,
      world.shared.notes = retriedNotes ∧
      ∃ row, world.shared.shared.queue.jobs.find correctionKey = some row ∧
        world.shared.notes.countP (JobNote.starts correctionKey) ≤
          row.maxAttempts ∧
        seconds 12 + seconds (min 300 (2 ^ 1)) ≤ seconds 15 := by
  have ran : ((jobHistory defaultSettings flatMap fun _ => True).serial
      clockForward { shared := .single reviewedGrievance, notes := [] }
      [(correctsCategory, [⟨1, .plain⟩, ⟨1, .plain⟩]),
       (.worker 10,
        [⟨seconds 10, .selected [correctionKey]⟩, ⟨seconds 10, .plain⟩,
         ⟨seconds 11, .raises⟩, ⟨seconds 12, .plain⟩, ⟨seconds 12, .plain⟩]),
       (.worker 10,
        rechecks (seconds 15) (.extraction streetlightExtraction))]).map
      (·.notes) = some retriedNotes := by
    decide +kernel
  have initial : (jobHistory defaultSettings flatMap fun _ => True).initial
      { shared := .single reviewedGrievance, notes := [] } :=
    ⟨Backend.single_initial trivial, rfl⟩
  obtain ⟨world, reached, _, notes⟩ :=
    Process.Program.reachable_serial initial
      (fun _ _ _ _ => by
        intro pid choice same
        cases same)
      (fun _ _ _ => atomicReports_of_alone) ran
  obtain ⟨starts, _, delays⟩ := job_attempts_bounded reached
  have split : world.shared.notes = retriedNotes.take 2 ++
      .claimed [correctionKey] (seconds 15) :: retriedNotes.drop 3 := notes
  obtain ⟨row, found, _, delay⟩ :=
    delays _ _ _ _ 1 (seconds 12) _ split List.mem_cons_self
      List.mem_cons_self
  exact ⟨world, notes, row, found, starts correctionKey row found, delay⟩

end JanSetu.Pipeline
