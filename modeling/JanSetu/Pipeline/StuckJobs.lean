import JanSetu.Pipeline.FinishedJobs

/-!
# No stuck job

The attempt is counted when a job is claimed, and only a report makes the job
dead.  Between the two, the last attempt of a job is an obligation of the worker
that has claimed it: once its lease has passed, nobody else can take it.
-/

namespace JanSetu.Pipeline

open Process (Label)
open Transition.System (Always)

def PipelineJob.spent (job : PipelineJob) : Prop :=
  job.maxAttempts ≤ job.attemptCount

instance (job : PipelineJob) : Decidable job.spent :=
  inferInstanceAs (Decidable (_ ≤ _))

/-- The job is there only as a finished one. -/
def JobQueue.Over (queue : JobQueue) (key : String) : Prop :=
  ∀ row, queue.jobs.find key = some row → row.status.finished = true

/-- A worker neither crashes nor exceeds its lease while it holds the last
attempt of a job that is not finished, and nobody claims the last attempt of a
job between the read and the write of a report. -/
structure Timely (world : World Backend Party) (label : Label Call Choice) :
    Prop where
  survives : ∀ pid worker claim, label = .crash pid →
    world.Running pid (.worker worker) → claim ∈ worker.held →
    claim.job.spent → world.shared.queue.Over claim.key
  prompt : ∀ pid choice other worker claim, label = .resume pid choice →
    world.Running other (.worker worker) → claim ∈ worker.held →
    claim.job.spent → (other = pid → worker.reports ≠ some claim) →
    world.shared.queue.Over claim.key ∨
      claim.job.lockedUntil.all (choice.now ≤ ·) = true
  unclaimed : ∀ pid choice claim failed known rest row,
    label = .resume pid choice →
    world.Running pid (.worker (.reporting claim failed known rest)) →
    world.shared.queue.jobs.find claim.key = some row → row.spent →
    known.attemptCount = row.attemptCount

/-- Nobody has claimed the last attempt since the worker has read the row. -/
def Worker.Unclaimed (backend : Backend) (worker : Worker) : Prop :=
  ∀ claim failed known rest row,
    worker = .reporting claim failed known rest →
    backend.queue.jobs.find claim.key = some row → row.spent →
    known.attemptCount = row.attemptCount

theorem Timely.worker {world : World Backend Party} {pid : Nat}
    {choice : Choice} {worker : Worker}
    (timely : Timely world (.resume pid choice))
    (running : world.Running pid (.worker worker)) :
    worker.Unclaimed world.shared := by
  rintro claim failed known rest row rfl found spent
  exact timely.unclaimed pid choice claim failed known rest row rfl running
    found spent

/-- What is held of a row: its attempt is no later one, and while it is the last
of a job that is not finished its lease has not passed. -/
structure PipelineJob.Backs (row : PipelineJob) (clock : Time)
    (claim : Claim) : Prop where
  attempt : claim.job.attemptCount ≤ row.attemptCount
  bound : claim.job.maxAttempts = row.maxAttempts
  leased : claim.job.spent → row.status.finished = false →
    row.lockedUntil = claim.job.lockedUntil ∧
      ∃ lease, claim.job.lockedUntil = some lease ∧ clock ≤ lease

/-- What is known of a row: no later attempt, and if it was spent and finished
it still is. -/
structure PipelineJob.Knows (row known : PipelineJob) : Prop where
  attempt : known.attemptCount ≤ row.attemptCount
  bound : known.maxAttempts = row.maxAttempts
  finished : known.spent → known.status.finished = true →
    row.status.finished = true

def Worker.Reads (backend : Backend) : Worker → Prop
  | .reporting claim _ known _ =>
      claim.job.attemptCount ≤ known.attemptCount ∧
        ∃ row, backend.queue.jobs.find claim.key = some row ∧
          row.Knows known
  | _ => True

def Party.Reads (backend : Backend) : Party → Prop
  | .worker running => running.Reads backend
  | .request _ => True

def leased : Process.Invariant Backend Party :=
  { shared := fun backend => ∀ key row,
      backend.queue.jobs.find key = some row →
      row.attemptCount ≤ row.maxAttempts
    own := fun backend party =>
      (∀ claim ∈ party.held, ∃ row,
        backend.queue.jobs.find claim.key = some row ∧
          row.Backs backend.queue.clock claim) ∧
        party.Reads backend
    pair := fun _ _ => True }

section

variable {settings : Settings} {geometry : Geometry}
  {admissible : Grievance → Prop} {backend after : Backend}
  {claim : Claim} {choice : Choice} {now : Time}
  {known current row : PipelineJob}

/-- A report on a job whose last attempt was claimed finishes it. -/
theorem PipelineJob.Knows.finishes (knows : current.Knows known)
    (spent : current.spent) (same : known.attemptCount = current.attemptCount)
    (failed : Bool) :
    (known.writeBack (reportJob failed now known) current).status.finished =
      true := by
  have spentKnown : known.spent := by
    unfold PipelineJob.spent at spent ⊢
    rw [knows.bound, same]
    exact spent
  have ended : (reportJob failed now known).status.finished = true := by
    cases failed with
    | false => rfl
    | true =>
        have dead : failPipelineJob now known =
            { known with status := .deadLetter, lockedUntil := none } :=
          if_pos spentKnown
        show (failPipelineJob now known).status.finished = true
        rw [dead]
        rfl
  show (Column.write known.status current.status
    (reportJob failed now known).status).finished = true
  by_cases unchanged : (reportJob failed now known).status = known.status
  · rw [unchanged, Column.write_known]
    exact knows.finished spentKnown (unchanged ▸ ended)
  · rw [Column.write_of_ne unchanged]
    exact ended

/-- What a step may do to a row. -/
structure PipelineJob.Grows (row next : PipelineJob) : Prop where
  attempt : row.attemptCount ≤ next.attemptCount
  bound : next.maxAttempts = row.maxAttempts
  within : row.attemptCount ≤ row.maxAttempts →
    next.attemptCount ≤ next.maxAttempts
  spent : row.spent → next = row ∨ next.status.finished = true

theorem PipelineJob.Grows.refl (row : PipelineJob) : row.Grows row :=
  ⟨Nat.le_refl _, rfl, fun within => within, fun _ => .inl rfl⟩

theorem PipelineJob.Grows.of_claim (claimable : row.claimable now = true) :
    row.Grows (row.claim now) := by
  have below := (PipelineJob.claimable_iff.mp claimable).2.2.2
  refine ⟨Nat.le_succ _, rfl, fun _ => below, ?_⟩
  intro spent
  exact absurd below (Nat.not_lt.mpr spent)

/-- A step of a worker that reports on a spent job only what it has read of its
last attempt. -/
theorem Worker.Moves.grows {worker : Worker} {next : Option Worker}
    {key : String}
    (moves : worker.Moves settings geometry backend choice after next)
    (reads : worker.Reads backend)
    (unclaimed : worker.Unclaimed backend)
    (found : backend.queue.jobs.find key = some row) :
    ∃ further, after.queue.jobs.find key = some further ∧
      row.Grows further := by
  cases moves with
  | @claimed limit keys queue claims claimed =>
      have find := JobQueue.claim_find claimed key
      rw [found, Option.map_some] at find
      refine ⟨_, find, ?_⟩
      by_cases member : key ∈ keys
      · rw [if_pos member]
        obtain ⟨row', found', claimable⟩ :=
          JobQueue.claim_claimable claimed member
        have is : row' = row := Option.some.inj (found'.symm.trans found)
        exact .of_claim (is ▸ claimable)
      · rw [if_neg member]
        exact .refl row
  | idle => exact ⟨row, found, .refl row⟩
  | started jobs =>
      refine ⟨row, Eq.trans ?_ found, .refl row⟩
      exact congrArg (Table.find · key) jobs
  | ran => exact ⟨row, found, .refl row⟩
  | missing => exact ⟨row, found, .refl row⟩
  | loaded => exact ⟨row, found, .refl row⟩
  | @reported claim failed rest known current queue stored jobs =>
      have find : queue.jobs.find key = _ :=
        (congrArg (Table.find · key) jobs).trans (Table.find_put _ _ _ _)
      by_cases same : key = claim.key
      · rw [if_pos same] at find
        have is : current = row := by
          rw [same, stored] at found
          exact Option.some.inj found
        subst is
        obtain ⟨_, read, found', knows⟩ := reads
        have readIs : read = current :=
          Option.some.inj (found'.symm.trans stored)
        subst readIs
        refine ⟨_, find, Nat.le_refl _, rfl, fun within => within, ?_⟩
        intro spent
        exact .inr (knows.finishes spent
          (unclaimed claim failed known rest read rfl stored spent) failed)
      · rw [if_neg same] at find
        exact ⟨row, find.trans found, .refl row⟩

theorem PipelineJob.Backs.spent {clock : Time}
    (backs : row.Backs clock claim) (spent : claim.job.spent) : row.spent := by
  have bound := backs.bound
  have attempt := backs.attempt
  unfold PipelineJob.spent at spent ⊢
  omega

/-- Time passes only up to the lease of a last attempt that is not reported. -/
theorem PipelineJob.Backs.keeps {clock : Time} {next : PipelineJob}
    (backs : row.Backs clock claim) (grows : row.Grows next)
    (prompt : claim.job.spent → next.status.finished = true ∨
      row.status.finished = true ∨
      claim.job.lockedUntil.all (now ≤ ·) = true) :
    next.Backs now claim := by
  refine ⟨Nat.le_trans backs.attempt grows.attempt,
    backs.bound.trans grows.bound.symm, ?_⟩
  intro spent unfinished
  have same : next = row := by
    rcases grows.spent (backs.spent spent) with same | finished
    · exact same
    · rw [unfinished] at finished
      cases finished
  subst same
  obtain ⟨leaseRow, lease, leased, _⟩ := backs.leased spent unfinished
  refine ⟨leaseRow, lease, leased, ?_⟩
  rcases prompt spent with finished | finished | intime
  · rw [unfinished] at finished
    cases finished
  · rw [unfinished] at finished
    cases finished
  · rw [leased] at intime
    simpa using intime

theorem PipelineJob.Knows.keeps {next : PipelineJob} (knows : row.Knows known)
    (grows : row.Grows next) : next.Knows known := by
  refine ⟨Nat.le_trans knows.attempt grows.attempt,
    knows.bound.trans grows.bound.symm, ?_⟩
  intro spent finished
  have before := knows.finished spent finished
  have spentRow : row.spent := by
    have bound := knows.bound
    have attempt := knows.attempt
    unfold PipelineJob.spent at spent ⊢
    omega
  rcases grows.spent spentRow with same | ended
  · rw [same]
    exact before
  · exact ended

theorem PipelineJob.Knows.refl (row : PipelineJob) : row.Knows row :=
  ⟨Nat.le_refl _, rfl, fun _ finished => finished⟩

/-- What a worker has read stays true of rows that only grow. -/
theorem Worker.Reads.keeps {worker : Worker} (reads : worker.Reads backend)
    (grows : ∀ key row, backend.queue.jobs.find key = some row →
      ∃ further, after.queue.jobs.find key = some further ∧
        row.Grows further) : worker.Reads after := by
  cases worker with
  | reporting claim failed known rest =>
      obtain ⟨attempt, row, found, knows⟩ := reads
      obtain ⟨further, found', grown⟩ := grows claim.key row found
      exact ⟨attempt, further, found', knows.keeps grown⟩
  | _ => trivial

theorem Party.Reads.keeps {party : Party} (reads : party.Reads backend)
    (grows : ∀ key row, backend.queue.jobs.find key = some row →
      ∃ further, after.queue.jobs.find key = some further ∧
        row.Grows further) : party.Reads after := by
  cases party with
  | request job => trivial
  | worker running => exact Worker.Reads.keeps reads grows

/-- A report on a spent job finishes it. -/
theorem Worker.Moves.finishes {worker : Worker} {next : Option Worker}
    (moves : worker.Moves settings geometry backend choice after next)
    (reads : worker.Reads backend)
    (unclaimed : worker.Unclaimed backend)
    (reports : worker.reports = some claim)
    (found : backend.queue.jobs.find claim.key = some row)
    (spent : row.spent) : after.queue.Over claim.key := by
  cases moves with
  | @reported acting failed rest known current queue stored jobs =>
      cases reports
      obtain ⟨_, read, found', knows⟩ := reads
      have is : current = row := Option.some.inj (stored.symm.trans found)
      have readIs : read = row := Option.some.inj (found'.symm.trans found)
      subst is readIs
      have find : queue.jobs.find claim.key = some _ :=
        (congrArg (Table.find · claim.key) jobs).trans
          (Table.find_put_self _ _ _)
      intro further after
      have written : further = _ := Option.some.inj (after.symm.trans find)
      rw [written]
      exact knows.finishes spent
        (unclaimed claim failed known rest read rfl stored spent) failed
  | _ => cases reports

/-- What a worker has read after a step is the row. -/
theorem Worker.Moves.reads {worker further : Worker} {next : Option Worker}
    (moves : worker.Moves settings geometry backend choice after next)
    (arrives : next = some further)
    (backs : ∀ claim ∈ worker.held, ∃ row,
      backend.queue.jobs.find claim.key = some row ∧
        row.Backs backend.queue.clock claim) :
    further.Reads after := by
  have waiting : ∀ claims, Worker.next claims = some further →
      further.Reads after := by
    intro claims next
    cases claims with
    | nil => cases next
    | cons => cases next; trivial
  cases moves with
  | claimed => exact waiting _ arrives
  | idle => cases arrives
  | started => cases arrives; trivial
  | @ran claim task rest store progress =>
      cases arrives
      cases progress <;> trivial
  | missing => exact waiting _ arrives
  | @loaded claim failed rest known found =>
      cases arrives
      obtain ⟨row, found', backed⟩ := backs claim List.mem_cons_self
      have is : row = known := Option.some.inj (found'.symm.trans found)
      exact ⟨is ▸ backed.attempt, known, found, .refl known⟩
  | reported => exact waiting _ arrives

/-- A claim that has just been made. -/
theorem PipelineJob.Backs.of_claim {limit : Nat} {keys : List String}
    {claims : List Claim} {queue : JobQueue}
    (claimed : backend.queue.claimPipelineJobs limit now keys =
      some (queue, claims)) (member : claim ∈ claims) :
    ∃ row, queue.jobs.find claim.key = some row ∧ row.Backs now claim := by
  obtain ⟨inside, row, found, _, same⟩ := JobQueue.mem_claims claimed member
  have find := JobQueue.claim_find claimed claim.key
  rw [found, Option.map_some, if_pos inside] at find
  refine ⟨row.claim now, find, ?_, ?_, ?_⟩
  · rw [same]
  · rw [same]
  · intro _ _
    rw [same]
    refine ⟨rfl, _, rfl, ?_⟩
    exact Int.le_add_of_nonneg_right (by decide)

/-- The step of a party for which the rows grow keeps what the others hold. -/
theorem leased_undisturbed {world : World Backend Party} {pid : Nat}
    (holding : leased.Holds world)
    (permitted : Timely world (.resume pid choice))
    (clock : after.queue.clock = choice.now)
    (grows : ∀ key row, world.shared.queue.jobs.find key = some row →
      ∃ further, after.queue.jobs.find key = some further ∧
        row.Grows further) :
    leased.Undisturbed world pid after := by
  intro other right different running
  obtain ⟨backs, reads⟩ := holding.2.1 other right running
  refine ⟨?_, reads.keeps grows⟩
  intro claim member
  obtain ⟨row, found, backed⟩ := backs claim member
  obtain ⟨further, found', grown⟩ := grows claim.key row found
  refine ⟨further, found', ?_⟩
  rw [clock]
  refine backed.keeps grown ?_
  intro spent
  cases right with
  | request job => cases member
  | worker worker =>
      rcases permitted.prompt pid choice other worker claim rfl running member
        spent (fun same => absurd same different) with ended | intime
      · exact .inr (.inl (ended row found))
      · exact .inr (.inr intime)

/-- What a worker holds after its step is backed then. -/
theorem Worker.Moves.backs {worker next : Worker}
    (moves : worker.Moves settings geometry backend choice after (some next))
    (reads : worker.Reads backend)
    (unclaimed : worker.Unclaimed backend)
    (clock : after.queue.clock = choice.now)
    (backs : ∀ claim ∈ worker.held, ∃ row,
      backend.queue.jobs.find claim.key = some row ∧
        row.Backs backend.queue.clock claim)
    (prompt : ∀ claim ∈ worker.held, claim.job.spent →
      worker.reports ≠ some claim → backend.queue.Over claim.key ∨
        claim.job.lockedUntil.all (choice.now ≤ ·) = true)
    (member : claim ∈ next.held) :
    ∃ row, after.queue.jobs.find claim.key = some row ∧
      row.Backs after.queue.clock claim := by
  rcases moves.held_cases rfl with
    ⟨limit, keys, queue, claims, rfl, claimed, jobs, held⟩ |
    ⟨dropped, held, _⟩
  · have fresh : claim ∈ claims := held ▸ member
    rw [clock, jobs]
    exact PipelineJob.Backs.of_claim claimed fresh
  · have before : claim ∈ worker.held := by
      rw [held]
      exact List.mem_append_right _ member
    obtain ⟨row, stored, backed⟩ := backs claim before
    obtain ⟨further, stored', grown⟩ := moves.grows reads unclaimed stored
    refine ⟨further, stored', ?_⟩
    rw [clock]
    refine backed.keeps grown ?_
    intro spent
    by_cases reports : worker.reports = some claim
    · exact .inl (moves.finishes reads unclaimed reports stored
        (backed.spent spent) further stored')
    · rcases prompt claim before spent reports with ended | intime
      · exact .inr (.inl (ended row stored))
      · exact .inr (.inr intime)

theorem leased_holds {world : World Backend Party}
    (reachable : (jobProgram settings geometry admissible).system.ReachableWhen
      Timely world) : leased.Holds world := by
  refine Process.Invariant.holds ?initially ?spawned ?resumed ?crashed reachable
  case initially =>
    intro backend initial key row found
    rw [initial.2.1, Table.find_empty] at found
    cases found
  case spawned =>
    intro world pid call _ _ _
    refine ⟨?_, fun _ _ _ _ => ⟨trivial, trivial⟩⟩
    cases call with
    | request asked => exact ⟨fun _ member => (by cases member), trivial⟩
    | worker size => exact ⟨fun _ member => (by cases member), trivial⟩
  case resumed =>
    intro world pid choice party after next _ holding permitted running
      resumed
    obtain ⟨within, owns, _⟩ := id holding
    rcases Party.resume_cases resumed with
      ⟨job, store, further, rfl, _, rfl, rfl⟩ |
      ⟨worker, further, rfl, moves, rfl⟩
    · refine ⟨?_, ?_, ?_⟩
      · intro key row found
        have found : (world.shared.queue.enqueues job.task choice).jobs.find
            key = some row := found
        rcases JobQueue.find_enqueues found with before | ⟨none, bound⟩
        · exact within key row before
        · rw [none]
          exact Nat.zero_le _
      · refine leased_undisturbed holding permitted rfl ?_
        intro key row found
        exact ⟨row, JobQueue.enqueues_keeps found, .refl row⟩
      · intro party arrives
        obtain ⟨job, _, rfl⟩ := Option.map_eq_some_iff.mp arrives
        exact ⟨⟨fun _ member => (by cases member), trivial⟩,
          fun _ _ _ _ => ⟨trivial, trivial⟩⟩
    · obtain ⟨backs, reads⟩ := owns pid _ running
      have unclaimed := permitted.worker running
      have grows := fun key row (found :
          world.shared.queue.jobs.find key = some row) =>
        moves.grows reads unclaimed found
      have clock : after.queue.clock = choice.now := by
        cases moves <;> rfl
      refine ⟨?_, leased_undisturbed holding permitted clock grows, ?_⟩
      · intro key row found
        cases before : world.shared.queue.jobs.find key with
        | none =>
            rw [moves.absent before] at found
            cases found
        | some row' =>
            obtain ⟨further, found', grown⟩ := grows key row' before
            have is : further = row :=
              Option.some.inj (found'.symm.trans found)
            exact is ▸ grown.within (within key row' before)
      · intro party arrives
        obtain ⟨arrived, found, rfl⟩ := Option.map_eq_some_iff.mp arrives
        refine ⟨⟨?_, moves.reads found backs⟩,
          fun _ _ _ _ => ⟨trivial, trivial⟩⟩
        intro claim member
        subst found
        apply moves.backs reads unclaimed clock backs _ member
        intro claim held spent reports
        exact permitted.prompt pid choice pid worker claim rfl running held
          spent fun _ => reports
  case crashed =>
    intro world pid party _ holding _ running
    have same := party.release_queue world.shared
    constructor
    · intro key row found
      have stored := congrArg (fun queue => queue.jobs.find key) same
      exact holding.1 key row (stored.symm.trans found)
    · intro other right _ runningOther
      obtain ⟨backs, reads⟩ := holding.2.1 other right runningOther
      constructor
      · intro claim member
        obtain ⟨row, found, backed⟩ := backs claim member
        have stored := congrArg (fun queue => queue.jobs.find claim.key) same
        have clock := congrArg JobQueue.clock same
        refine ⟨row, stored.trans found, ?_⟩
        show row.Backs (party.release world.shared).queue.clock claim
        rw [clock]
        exact backed
      · refine reads.keeps ?_
        intro key row found
        have stored := congrArg (fun queue => queue.jobs.find key) same
        exact ⟨row, stored.trans found, .refl row⟩

/-! ## The obligation of the last attempt -/

/-- The last attempt of the job is made and not reported. -/
def LastAttempt (backend : Backend) (key : String) : Prop :=
  ∃ row, backend.queue.jobs.find key = some row ∧ row.spent ∧
    row.status.finished = false

def HoldsLast (party : Party) (key : String) : Prop :=
  ∃ claim ∈ party.held, claim.key = key ∧ claim.job.spent

/-- A claim is held until it is reported. -/
theorem Worker.Moves.keeps_held {worker : Worker} {next : Option Worker}
    (moves : worker.Moves settings geometry backend choice after next)
    (member : claim ∈ worker.held) :
    worker.reports = some claim ∨
      backend.queue.jobs.find claim.key = none ∨
      ∃ further, next = some further ∧ claim ∈ further.held := by
  -- The claims that are left of a batch are the next worker's.
  have waits : ∀ rest, claim ∈ rest →
      ∃ further, Worker.next rest = some further ∧ claim ∈ further.held := by
    intro rest inside
    cases rest with
    | nil => cases inside
    | cons first rest => exact ⟨_, rfl, inside⟩
  cases moves with
  | claimed => cases member
  | idle => cases member
  | started => exact .inr (.inr ⟨_, rfl, member⟩)
  | ran =>
      refine .inr (.inr ⟨_, rfl, ?_⟩)
      rw [Worker.held_ran]
      exact member
  | @missing acting failed rest none =>
      rcases List.mem_cons.mp member with rfl | inside
      · exact .inr (.inl none)
      · exact .inr (.inr (waits rest inside))
  | loaded => exact .inr (.inr ⟨_, rfl, member⟩)
  | @reported acting failed rest =>
      rcases List.mem_cons.mp member with rfl | inside
      · exact .inl rfl
      · exact .inr (.inr (waits rest inside))

/-- A further attempt was claimed by the worker that steps. -/
theorem Worker.Moves.claims {worker : Worker} {next : Option Worker}
    {key : String} {before : PipelineJob}
    (moves : worker.Moves settings geometry backend choice after next)
    (stored : backend.queue.jobs.find key = some before)
    (found : after.queue.jobs.find key = some row)
    (fewer : before.attemptCount < row.attemptCount) :
    ∃ further claim, next = some further ∧ claim ∈ further.held ∧
      claim.key = key ∧ claim.job = row := by
  have unchanged : after.queue.jobs.find key = some before → False := by
    intro same
    have is : before = row := Option.some.inj (same.symm.trans found)
    rw [is] at fewer
    exact Nat.lt_irrefl _ fewer
  cases moves with
  | @claimed limit keys queue claims claimed =>
      have find := JobQueue.claim_find claimed key
      rw [stored, Option.map_some] at find
      by_cases member : key ∈ keys
      · have inside := JobQueue.claims_mem claimed member found
        cases claims with
        | nil => cases inside
        | cons first rest => exact ⟨_, _, rfl, inside, rfl, rfl⟩
      · rw [if_neg member] at find
        exact (unchanged find).elim
  | idle => exact (unchanged stored).elim
  | started jobs =>
      exact (unchanged ((congrArg (Table.find · key) jobs).trans stored)).elim
  | ran => exact (unchanged stored).elim
  | missing => exact (unchanged stored).elim
  | loaded => exact (unchanged stored).elim
  | @reported acting failed rest known current queue there jobs =>
      have find : queue.jobs.find key = _ :=
        (congrArg (Table.find · key) jobs).trans (Table.find_put _ _ _ _)
      by_cases same : key = acting.key
      · rw [if_pos same] at find
        have written : row = _ := Option.some.inj (found.symm.trans find)
        have is : current = before := by
          rw [same, there] at stored
          exact Option.some.inj stored
        rw [written, is] at fewer
        exact (Nat.lt_irrefl _ fewer).elim
      · rw [if_neg same] at find
        exact (unchanged (find.trans stored)).elim

/-- A last attempt after a step of a worker was one before, or has just been
claimed. -/
theorem Worker.Moves.lastAttempt {worker : Worker} {next : Option Worker}
    {key : String}
    (moves : worker.Moves settings geometry backend choice after next)
    (reads : worker.Reads backend)
    (unclaimed : worker.Unclaimed backend)
    (due : LastAttempt after key) :
    (∃ further, next = some further ∧ HoldsLast (.worker further) key) ∨
      LastAttempt backend key ∧ ¬ HoldsLast (.worker worker) key := by
  obtain ⟨row, found, spent, unfinished⟩ := due
  cases stored : backend.queue.jobs.find key with
  | none =>
      rw [moves.absent stored] at found
      cases found
  | some before =>
      obtain ⟨further, found', grown⟩ := moves.grows reads unclaimed stored
      have is : further = row := Option.some.inj (found'.symm.trans found)
      subst is
      by_cases spentBefore : before.spent
      · have same : further = before := by
          rcases grown.spent spentBefore with same | finished
          · exact same
          · rw [unfinished] at finished
            cases finished
        subst same
        by_cases holds : HoldsLast (.worker worker) key
        · obtain ⟨claim, member, rfl, spentClaim⟩ := holds
          rcases moves.keeps_held member with
            reports | absent | ⟨next', arrives, kept⟩
          · have ended := moves.finishes reads unclaimed reports stored
              spentBefore further found
            rw [unfinished] at ended
            cases ended
          · rw [absent] at stored
            cases stored
          · exact .inl ⟨next', arrives, claim, kept, rfl, spentClaim⟩
        · exact .inr ⟨⟨further, stored, spentBefore, unfinished⟩, holds⟩
      · -- The attempt has just been counted.
        have fewer : before.attemptCount < further.attemptCount := by
          have bound := grown.bound
          unfold PipelineJob.spent at spent spentBefore
          omega
        obtain ⟨next', claim, arrives, member, rfl, same⟩ :=
          moves.claims stored found fewer
        exact .inl ⟨next', arrives, claim, member, rfl, same ▸ spent⟩

theorem last_attempts_held {world : World Backend Party}
    (reachable : (jobProgram settings geometry admissible).system.ReachableWhen
      Timely world) :
    Process.Carried LastAttempt HoldsLast world := by
  refine Process.due_carried ?_ ?_ ?_ reachable
  · rintro backend initial key ⟨row, found, _⟩
    rw [initial.2.1, Table.find_empty] at found
    cases found
  · intro world pid choice party after next key reached permitted running
      resumed due
    obtain ⟨within, owns, _⟩ := leased_holds reached
    rcases Party.resume_cases resumed with
      ⟨job, store, further, rfl, _, rfl, rfl⟩ |
      ⟨worker, further, rfl, moves, rfl⟩
    · refine .inr (.inr ⟨?_, ?_⟩)
      · obtain ⟨row, found, spent, unfinished⟩ := due
        have found : (world.shared.queue.enqueues job.task choice).jobs.find
            key = some row := found
        rcases JobQueue.find_enqueues found with before | ⟨none, bound⟩
        · exact ⟨row, before, spent, unfinished⟩
        · unfold PipelineJob.spent at spent
          omega
      · rintro ⟨claim, member, _⟩
        cases member
    · obtain ⟨_, reads⟩ := owns pid _ running
      have unclaimed := permitted.worker running
      rcases moves.lastAttempt reads unclaimed due with
        ⟨arrived, rfl, holds⟩ | before
      · exact .inl ⟨_, rfl, holds⟩
      · exact .inr (.inr before)
  · intro world pid party key reached permitted running due
    have same := party.release_queue world.shared
    obtain ⟨row, found, spent, unfinished⟩ := due
    have stored := congrArg (fun queue => queue.jobs.find key) same
    have before : LastAttempt world.shared key :=
      ⟨row, stored.symm.trans found, spent, unfinished⟩
    refine ⟨before, ?_⟩
    rintro ⟨claim, member, rfl, spentClaim⟩
    cases party with
    | request job => cases member
    | worker worker =>
        have ended := permitted.survives pid worker claim rfl running member
          spentClaim row (stored.symm.trans found)
        rw [unfinished] at ended
        cases ended

/-- As long as a worker that holds the last attempt of a job neither crashes nor
exceeds its lease, and no last attempt is claimed under a report, every job that
is neither completed nor dead can be claimed once its lease and its next attempt
have passed. -/
theorem no_stuck_job {world : World Backend Party} {key : String}
    {job : PipelineJob}
    (reachable : (jobProgram settings geometry admissible).system.ReachableWhen
      Timely world)
    (found : world.shared.queue.jobs.find key = some job)
    (unfinished : job.status ≠ .completed ∧ job.status ≠ .deadLetter)
    (next : job.nextAttemptAt ≤ world.shared.queue.clock)
    (lease : ∀ lease, job.lockedUntil = some lease →
      lease < world.shared.queue.clock) :
    job.claimable world.shared.queue.clock = true := by
  have open_ : job.status.finished = false := by
    cases status : job.status with
    | completed => exact absurd status unfinished.1
    | deadLetter => exact absurd status unfinished.2
    | _ => rfl
  have passed : job.lockedUntil.all (· < world.shared.queue.clock) = true := by
    rw [Option.all_eq_true]
    exact fun time locked => decide_eq_true (lease time locked)
  refine PipelineJob.claimable_iff.mpr ⟨open_, next, passed, ?_⟩
  by_contra spent
  have due : LastAttempt world.shared key :=
    ⟨job, found, Nat.not_lt.mp spent, open_⟩
  obtain ⟨pid, party, running, claim, member, rfl, spentClaim⟩ :=
    last_attempts_held reachable key due
  obtain ⟨row, found', backs⟩ :=
    ((leased_holds reachable).2.1 pid party running).1 claim member
  have is : row = job := Option.some.inj (found'.symm.trans found)
  subst is
  obtain ⟨same, time, leased, notYet⟩ := backs.leased spentClaim open_
  have ended := lease time (same.trans leased)
  exact absurd notYet (Int.not_le.mpr ended)

end

/-! ## A job that waits for its next attempt, and one that waits for ever -/

/-- A party that is alone, holds no last attempt and reports on what it has
read. -/
def holdsNoLast (backend : Backend) (party : Party) (_ : Choice) : Bool :=
  party.held.all (fun claim => decide (¬ claim.job.spent)) &&
    match party with
    | .worker (.reporting claim _ known _) =>
        (backend.queue.jobs.find claim.key).all fun row =>
          decide (known.attemptCount = row.attemptCount)
    | _ => true

theorem timely_of_alone {world : World Backend Party} {party : Party}
    {choice : Choice} (only : Process.OnlyRunning world 0 (some party))
    (test : holdsNoLast world.shared party choice = true) :
    Timely world (.resume 0 choice) := by
  obtain ⟨young, read⟩ := Bool.and_eq_true_iff.mp test
  have notLast : ∀ claim ∈ party.held, ¬ claim.job.spent := fun claim member =>
    of_decide_eq_true (List.all_eq_true.mp young claim member)
  constructor
  · intro _ _ _ same
    cases same
  · intro pid choice other worker claim _ running member spent
    obtain ⟨-, rfl⟩ := only.eq_of_running running
    exact absurd spent (notLast claim member)
  · intro pid choice claim failed known rest row _ running found _
    obtain ⟨-, rfl⟩ := only.eq_of_running running
    simpa [found] using read

theorem timely_of_spawn {world : World Backend Party} {pid : Nat}
    {call : Call} : Timely world (.spawn pid call) := by
  constructor
  · intro _ _ _ same
    cases same
  · intro _ _ _ _ _ same
    cases same
  · intro _ _ _ _ _ _ _ same
    cases same

/-- What can be seen of the job of the correction: its status, whether its next
attempt and its lease have passed, and whether it can be claimed. -/
def Backend.seen (backend : Backend) :
    Option (JobStatus × Bool × Bool × Bool) :=
  (backend.queue.jobs.find correctionKey).map fun job =>
    (job.status, decide (job.nextAttemptAt ≤ backend.queue.clock),
      job.lockedUntil.all (· < backend.queue.clock),
      job.claimable backend.queue.clock)

/-- The first attempt has failed, and the next one is due. -/
theorem no_stuck_job_retried :
    ∃ world job, (jobProgram defaultSettings flatMap
        fun _ => True).system.ReachableWhen Timely world ∧
      world.shared.queue.jobs.find correctionKey = some job ∧
      job.status = .retry ∧
      job.claimable world.shared.queue.clock = true := by
  have ran : ((jobProgram defaultSettings flatMap fun _ => True).serial
      holdsNoLast (.single reviewedGrievance)
      [(correctsCategory, [⟨1, .plain⟩, ⟨1, .plain⟩]),
       (.worker 10,
        [⟨2, .selected [correctionKey]⟩, ⟨3, .plain⟩, ⟨4, .raises⟩,
         ⟨5, .plain⟩, ⟨6, .plain⟩]),
       (.worker 10, [⟨seconds 60, .selected []⟩])]).map
      (fun backend => (backend.queue.clock,
        (backend.queue.jobs.find correctionKey).map fun job =>
          (job.status, job.nextAttemptAt, job.lockedUntil))) =
      some (seconds 60, some (.retry, 6 + seconds 2, none)) := by
    decide +kernel
  obtain ⟨world, reached, _, observed⟩ :=
    Process.Program.reachable_serial (Backend.single_initial trivial)
      (fun _ _ _ _ => timely_of_spawn)
      (fun _ _ _ => timely_of_alone) ran
  obtain ⟨clock, waiting⟩ := Prod.mk.inj observed
  obtain ⟨job, found, fields⟩ := Option.map_eq_some_iff.mp waiting
  simp only [Prod.mk.injEq] at fields
  obtain ⟨status, next, locked⟩ := fields
  refine ⟨world, job, reached, found, status, ?_⟩
  apply no_stuck_job reached found
  · rw [status]
    exact ⟨nofun, nofun⟩
  · rw [next, clock]
    decide
  · intro lease leased
    rw [locked] at leased
    cases leased

/-- Four attempts fail, and the worker with the fifth crashes. -/
theorem stuck_job :
    ∃ world, (jobProgram defaultSettings flatMap
        fun _ => True).system.Reachable world ∧
      world.shared.seen = some (.processing, true, true, false) := by
  have ran : ((jobProgram defaultSettings flatMap fun _ => True).system.run
      (World.start (.single reviewedGrievance))
      ([.spawn 0 correctsCategory, .resume 0 ⟨1, .plain⟩,
        .resume 0 ⟨1, .plain⟩] ++
       ((List.range 4).flatMap fun attempt =>
        [.spawn 1 (.worker 10),
         .resume 1 ⟨seconds (60 * attempt + 60), .selected [correctionKey]⟩,
         .resume 1 ⟨seconds (60 * attempt + 60), .plain⟩,
         .resume 1 ⟨seconds (60 * attempt + 60), .raises⟩,
         .resume 1 ⟨seconds (60 * attempt + 60), .plain⟩,
         .resume 1 ⟨seconds (60 * attempt + 60), .plain⟩]) ++
       [.spawn 1 (.worker 10),
        .resume 1 ⟨seconds 300, .selected [correctionKey]⟩, .crash 1,
        .spawn 2 (.worker 10), .resume 2 ⟨days 7, .selected []⟩])).map
      (·.shared.seen) = some (some (.processing, true, true, false)) := by
    decide +kernel
  have initial : (jobProgram defaultSettings flatMap
      fun _ => True).system.initial
      (World.start (.single reviewedGrievance)) :=
    ⟨_, Backend.single_initial trivial, rfl⟩
  exact Transition.System.reachable_of_run_map initial ran

end JanSetu.Pipeline
