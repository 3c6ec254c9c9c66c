import JanSetu.Pipeline.Jobs

/-!
# Finished jobs

Each claim takes the next attempt of a job, so that two claims of one job differ
in their attempts.  As long as a worker starts and reports a job only while its
own attempt is the last one, the job is being processed whenever it does, and a
finished job stays as it is.
-/

namespace JanSetu.Pipeline

open Process (Label)
open Transition.System (Always)

/-- The attempt of the claim was counted; while it is the last one, the job is
being processed. -/
def JobQueue.Counted (queue : JobQueue) (claim : Claim) : Prop :=
  ∃ row, queue.jobs.find claim.key = some row ∧
    claim.job.attemptCount ≤ row.attemptCount ∧
    (claim.job.attemptCount = row.attemptCount → row.status = .processing)

/-- The claim whose job a step starts or reports. -/
def Worker.acts : Worker → Option Claim
  | .waiting claim _ => some claim
  | worker => worker.reports

theorem Worker.held_of_reports {worker : Worker} {claim : Claim}
    (reports : worker.reports = some claim) : claim ∈ worker.held := by
  cases worker with
  | reporting => cases reports; exact List.mem_cons_self
  | _ => cases reports

theorem Worker.held_of_acts {worker : Worker} {claim : Claim}
    (acts : worker.acts = some claim) : claim ∈ worker.held := by
  cases worker with
  | waiting => cases acts; exact List.mem_cons_self
  | _ => exact Worker.held_of_reports acts

/-- A job is started and reported only while nobody has claimed it since. -/
def CurrentAttempts (world : World Backend Party) (label : Label Call Choice) :
    Prop :=
  ∀ pid choice worker claim row, label = .resume pid choice →
    world.Running pid (.worker worker) → worker.acts = some claim →
    world.shared.queue.jobs.find claim.key = some row →
    row.attemptCount = claim.job.attemptCount

/-- What is claimed is counted, and counted once. -/
def countedClaims : Process.Invariant Backend Party :=
  { shared := fun _ => True
    own := fun backend party =>
      (∀ claim ∈ party.held, backend.queue.Counted claim) ∧
        party.held.Pairwise fun first second => first.key ≠ second.key
    pair := fun left right => ∀ first ∈ left.held, ∀ second ∈ right.held,
      first.key = second.key →
      first.job.attemptCount ≠ second.job.attemptCount }

section

variable {settings : Settings} {geometry : Geometry}
  {admissible : Grievance → Prop} {backend after : Backend}
  {queue : JobQueue} {claim : Claim} {choice : Choice} {now : Time}

theorem JobQueue.Counted.of_jobs (jobs : after.queue.jobs = queue.jobs)
    (counted : queue.Counted claim) : after.queue.Counted claim := by
  obtain ⟨row, found, bound, current⟩ := counted
  exact ⟨row, by rw [jobs, found], bound, current⟩

theorem JobQueue.Counted.enqueues {task : Option Task}
    (counted : queue.Counted claim) :
    (queue.enqueues task choice).Counted claim := by
  obtain ⟨row, found, bound, current⟩ := counted
  exact ⟨row, JobQueue.enqueues_keeps found, bound, current⟩

/-- A further claim leaves an attempt behind. -/
theorem JobQueue.Counted.claimed {limit : Nat} {keys : List String}
    {claims : List Claim}
    (claimed : backend.queue.claimPipelineJobs limit now keys =
      some (queue, claims))
    (counted : backend.queue.Counted claim) : queue.Counted claim := by
  obtain ⟨row, found, bound, current⟩ := counted
  have find := JobQueue.claim_find claimed claim.key
  rw [found, Option.map_some] at find
  refine ⟨_, find, ?_⟩
  by_cases member : claim.key ∈ keys
  · rw [if_pos member]
    have below : claim.job.attemptCount < (row.claim now).attemptCount := by
      show claim.job.attemptCount < row.attemptCount + 1
      omega
    exact ⟨Nat.le_of_lt below,
      fun same => absurd same (Nat.ne_of_lt below)⟩
  · rw [if_neg member]
    exact ⟨bound, current⟩

/-- A claim that has just been made. -/
theorem JobQueue.Counted.of_claim {limit : Nat} {keys : List String}
    {claims : List Claim}
    (claimed : backend.queue.claimPipelineJobs limit now keys =
      some (queue, claims)) (member : claim ∈ claims) :
    queue.Counted claim := by
  obtain ⟨inside, row, found, _, same⟩ := JobQueue.mem_claims claimed member
  have find := JobQueue.claim_find claimed claim.key
  rw [found, Option.map_some, if_pos inside] at find
  refine ⟨_, find, ?_, fun _ => rfl⟩
  rw [same]

/-- A report on a job leaves the claims of other jobs and of other attempts. -/
theorem JobQueue.Counted.reported {known new current : PipelineJob}
    {key : String} (found : backend.queue.jobs.find key = some current)
    (jobs : queue.jobs =
      backend.queue.jobs.put key (known.writeBack new current))
    (other : claim.key = key →
      claim.job.attemptCount ≠ current.attemptCount)
    (counted : backend.queue.Counted claim) : queue.Counted claim := by
  obtain ⟨row, stored, bound, processing⟩ := counted
  by_cases same : claim.key = key
  · have is : row = current := by
      rw [same, found] at stored
      exact (Option.some.inj stored).symm
    subst is
    refine ⟨known.writeBack new row, ?_, bound, ?_⟩
    · rw [jobs, same, Table.find_put_self]
    · exact fun equal => absurd equal (other same)
  · exact ⟨row, by rw [jobs, Table.find_put_of_ne _ _ same, stored], bound,
      processing⟩

/-- The job of a claim that a step starts or reports is being processed. -/
theorem counted_processing {world : World Backend Party} {pid : Nat}
    {worker : Worker} {row : PipelineJob} (holding : countedClaims.Holds world)
    (permitted : CurrentAttempts world (.resume pid choice))
    (running : world.Running pid (.worker worker))
    (acts : worker.acts = some claim)
    (found : world.shared.queue.jobs.find claim.key = some row) :
    row.status = .processing := by
  obtain ⟨stored, found', _, processing⟩ :=
    (holding.2.1 pid _ running).1 claim (Worker.held_of_acts acts)
  have is : stored = row := Option.some.inj (found'.symm.trans found)
  subst is
  apply processing
  exact (permitted pid choice worker claim stored rfl running acts found).symm

/-- A step of a worker keeps a claim counted, unless it is the one that is
reported. -/
theorem Worker.Moves.counted {worker : Worker} {next : Option Worker}
    (moves : worker.Moves settings geometry backend choice after next)
    (current : ∀ acting row, worker.acts = some acting →
      backend.queue.jobs.find acting.key = some row →
      row.attemptCount = acting.job.attemptCount)
    (other : ∀ acting, worker.reports = some acting →
      claim.key = acting.key →
      claim.job.attemptCount ≠ acting.job.attemptCount)
    (before : backend.queue.Counted claim) : after.queue.Counted claim := by
  cases moves with
  | claimed claimed => exact (before.claimed claimed).of_jobs rfl
  | idle => exact before.of_jobs rfl
  | started jobs => exact before.of_jobs jobs
  | ran => exact before.of_jobs rfl
  | missing => exact before.of_jobs rfl
  | loaded => exact before.of_jobs rfl
  | @reported acting failed rest known row queue found jobs =>
      have last := current acting row rfl found
      refine JobQueue.Counted.of_jobs rfl (before.reported found jobs ?_)
      intro same
      rw [last]
      exact other acting rfl same

/-- What a worker holds after a step is counted, and no job twice. -/
theorem Worker.Moves.counted_held {worker further : Worker}
    {next : Option Worker}
    (moves : worker.Moves settings geometry backend choice after next)
    (arrives : next = some further)
    (current : ∀ acting row, worker.acts = some acting →
      backend.queue.jobs.find acting.key = some row →
      row.attemptCount = acting.job.attemptCount)
    (before : ∀ claim ∈ worker.held, backend.queue.Counted claim)
    (distinct : worker.held.Pairwise fun first second =>
      first.key ≠ second.key) :
    (∀ claim ∈ further.held, after.queue.Counted claim) ∧
      further.held.Pairwise fun first second => first.key ≠ second.key := by
  rcases moves.held_cases arrives with
    ⟨limit, keys, queue, claims, rfl, claimed, jobs, held⟩ |
    ⟨dropped, held, reports⟩
  · rw [held]
    refine ⟨?_, JobQueue.claims_distinct claimed⟩
    intro claim member
    exact (JobQueue.Counted.of_claim claimed member).of_jobs jobs
  · rw [held] at before distinct
    obtain ⟨_, kept, apart⟩ := List.pairwise_append.mp distinct
    refine ⟨?_, kept⟩
    intro claim member
    apply moves.counted current
    · intro acting is same
      rw [reports acting is] at apart
      exact absurd same.symm (apart acting List.mem_cons_self claim member)
    · exact before claim (List.mem_append_right _ member)

/-- A party that holds no claim may be anywhere. -/
theorem countedClaims_arrives {party : Party} (nothing : party.held = [])
    (world : World Backend Party) (pid : Nat) :
    countedClaims.Arrives world pid backend party := by
  refine ⟨⟨?_, ?_⟩, ?_⟩
  · intro claim member
    rw [nothing] at member
    cases member
  · rw [nothing]
    exact .nil
  · intro other right _ _
    constructor
    · intro first member
      rw [nothing] at member
      cases member
    · intro first _ second member
      rw [nothing] at member
      cases member

theorem counted_holds {world : World Backend Party}
    (reachable : (jobProgram settings geometry admissible).system.ReachableWhen
      CurrentAttempts world) : countedClaims.Holds world := by
  refine Process.Invariant.holds (fun _ _ => trivial) ?spawned ?resumed ?crashed
    reachable
  case spawned =>
    intro world pid call _ _ _
    apply countedClaims_arrives
    cases call <;> rfl
  case resumed =>
    intro world pid choice party after next _ holding permitted running
      resumed
    obtain ⟨_, owns, pairs⟩ := holding
    rcases Party.resume_cases resumed with
      ⟨job, store, further, rfl, _, rfl, rfl⟩ |
      ⟨worker, further, rfl, moves, rfl⟩
    · refine ⟨trivial, ?_, ?_⟩
      · intro other right _ runningOther
        obtain ⟨counts, distinct⟩ := owns other right runningOther
        exact ⟨fun claim member => (counts claim member).enqueues.of_jobs rfl,
          distinct⟩
      · intro party arrives
        obtain ⟨job, _, rfl⟩ := Option.map_eq_some_iff.mp arrives
        exact countedClaims_arrives rfl world pid
    · have current : ∀ acting row, worker.acts = some acting →
          world.shared.queue.jobs.find acting.key = some row →
          row.attemptCount = acting.job.attemptCount :=
        fun acting row acts =>
          permitted pid choice worker acting row rfl running acts
      obtain ⟨counts, distinct⟩ := owns pid _ running
      refine ⟨trivial, ?_, ?_⟩
      · intro other right different runningOther
        obtain ⟨countsOther, distinctOther⟩ := owns other right runningOther
        refine ⟨?_, distinctOther⟩
        intro claim member
        apply moves.counted current ?_ (countsOther claim member)
        intro acting reports same
        exact pairs other pid right _ different runningOther running claim
          member acting (Worker.held_of_reports reports) same
      · intro party arrives
        obtain ⟨arrived, found, rfl⟩ := Option.map_eq_some_iff.mp arrives
        refine ⟨moves.counted_held found current counts distinct, ?_⟩
        intro other right different runningOther
        have apart : ∀ claim ∈ arrived.held, ∀ second ∈ right.held,
            claim.key = second.key →
            claim.job.attemptCount ≠ second.job.attemptCount := by
          intro claim member second memberOther same
          rcases moves.held_cases found with
            ⟨limit, keys, queue, claims, rfl, claimed, jobs, held⟩ |
            ⟨dropped, held, _⟩
          · -- The claim is one attempt further than every other.
            rw [held] at member
            obtain ⟨_, row, stored, _, is⟩ :=
              JobQueue.mem_claims claimed member
            obtain ⟨row', stored', bound, _⟩ :=
              (owns other right runningOther).1 second memberOther
            have rows : row' = row := by
              rw [← same, stored] at stored'
              exact (Option.some.inj stored').symm
            subst rows
            rw [is]
            show row'.attemptCount + 1 ≠ second.job.attemptCount
            omega
          · have before : claim ∈ worker.held := by
              rw [held]
              exact List.mem_append_right _ member
            exact pairs pid other _ right (Ne.symm different) running
              runningOther claim before second memberOther same
        refine ⟨apart, ?_⟩
        intro second memberOther claim member same
        exact (apart claim member second memberOther same.symm).symm
  case crashed =>
    intro world pid party _ holding _ running
    have same := party.release_queue world.shared
    refine ⟨trivial, ?_⟩
    intro other right _ runningOther
    obtain ⟨counts, distinct⟩ := holding.2.1 other right runningOther
    exact ⟨fun claim member => (counts claim member).of_jobs
      (congrArg JobQueue.jobs same), distinct⟩

/-! ## What is finished stays -/

/-- A job that is finished keeps its status and is not started. -/
def JobQueue.Stays (queue after : JobQueue) (key : String) : Prop :=
  ∀ row, queue.jobs.find key = some row → row.status.finished = true →
    (∃ row', after.jobs.find key = some row' ∧ row'.status = row.status) ∧
      after.started.count key = queue.started.count key

theorem JobQueue.Stays.of_same {key : String}
    (jobs : after.queue.jobs = backend.queue.jobs)
    (started : after.queue.started = backend.queue.started) :
    backend.queue.Stays after.queue key := by
  intro row found _
  rw [jobs, started]
  exact ⟨⟨row, found, rfl⟩, rfl⟩

theorem JobQueue.Stays.trans {first second third : JobQueue} {key : String}
    (before : first.Stays second key) (later : second.Stays third key) :
    first.Stays third key := by
  intro row found finished
  obtain ⟨⟨row', found', same⟩, starts⟩ := before row found finished
  obtain ⟨⟨row'', found'', same'⟩, starts'⟩ :=
    later row' found' (same.symm ▸ finished)
  exact ⟨⟨row'', found'', same'.trans same⟩, starts'.trans starts⟩

/-- A step of a worker whose jobs are being processed when it starts and reports
them. -/
theorem Worker.Moves.stays {worker : Worker} {next : Option Worker}
    {key : String}
    (moves : worker.Moves settings geometry backend choice after next)
    (processing : ∀ claim row, worker.acts = some claim →
      backend.queue.jobs.find claim.key = some row →
      row.status = .processing) :
    backend.queue.Stays after.queue key := by
  -- A finished job is none that the worker starts or reports.
  have elsewhere : ∀ claim row, worker.acts = some claim →
      backend.queue.jobs.find key = some row → row.status.finished = true →
      claim.key ≠ key := by
    rintro claim row acts found finished rfl
    rw [processing claim row acts found] at finished
    cases finished
  cases moves with
  | @claimed limit keys queue claims claimed =>
      intro row found finished
      have find := JobQueue.claim_find claimed key
      rw [found, Option.map_some] at find
      have kept : key ∉ keys := by
        intro member
        obtain ⟨row', found', claimable⟩ :=
          JobQueue.claim_claimable claimed member
        have is : row' = row := Option.some.inj (found'.symm.trans found)
        have open_ := (PipelineJob.claimable_iff.mp claimable).1
        rw [is, finished] at open_
        cases open_
      rw [if_neg kept] at find
      have started := JobQueue.claim_started claimed
      exact ⟨⟨row, find, rfl⟩, congrArg (List.count key) started⟩
  | idle => exact .of_same rfl rfl
  | @started claim rest queue jobs started =>
      intro row found finished
      refine ⟨⟨row, ?_, rfl⟩, ?_⟩
      · rw [← found]
        exact congrArg (Table.find · key) jobs
      · have different := elsewhere claim row rfl found finished
        have counted := congrArg (List.count key) started
        rw [List.count_cons_of_ne different] at counted
        exact counted
  | ran => exact .of_same rfl rfl
  | missing => exact .of_same rfl rfl
  | loaded => exact .of_same rfl rfl
  | @reported claim failed rest known current queue stored jobs started =>
      intro row found finished
      have different := elsewhere claim row rfl found finished
      refine ⟨⟨row, ?_, rfl⟩, congrArg (List.count key) started⟩
      show queue.jobs.find key = some row
      rw [jobs, Table.find_put_of_ne _ _ (Ne.symm different), found]

def JobStays (key : String) (world final : World Backend Party) : Prop :=
  world.shared.queue.Stays final.shared.queue key

theorem stays_of_step {world next : World Backend Party}
    {label : Label Call Choice}
    (reachable : (jobProgram settings geometry admissible).system.ReachableWhen
      CurrentAttempts world)
    (permitted : CurrentAttempts world label)
    (taken : (jobProgram settings geometry admissible).system.step world label =
      some next) (key : String) :
    JobStays key world next := by
  have holding := counted_holds reachable
  rcases Process.Program.step_cases taken with
    ⟨pid, call, rfl, _, rfl⟩ |
    ⟨pid, choice, party, backend, after, rfl, running, resumed, rfl⟩ |
    ⟨pid, party, rfl, running, rfl⟩
  · exact .of_same rfl rfl
  · rcases Party.resume_cases resumed with
      ⟨job, store, further, rfl, _, rfl, rfl⟩ |
      ⟨worker, further, rfl, moves, rfl⟩
    · intro row found _
      refine ⟨⟨row, JobQueue.enqueues_keeps found, rfl⟩, ?_⟩
      exact congrArg (List.count key)
        (world.shared.queue.enqueues_started job.task choice)
    · apply moves.stays
      intro claim row acts found
      exact counted_processing holding permitted running acts found
  · have same := party.release_queue world.shared
    exact .of_same (congrArg JobQueue.jobs same)
      (congrArg JobQueue.started same)

/-- As long as every job is started and reported by the worker that has claimed
it last, a job that is completed or dead keeps its status and is not started
again. -/
theorem finished_jobs_stay {world final : World Backend Party}
    {labels : List (Label Call Choice)} {key : String} {status : JobStatus}
    (reachable : (jobProgram settings geometry admissible).system.ReachableWhen
      CurrentAttempts world)
    (runs : (jobProgram settings geometry admissible).system.RunWhen
      CurrentAttempts world labels final)
    (stored : world.shared.queue.statusOf key = some status)
    (finished : status = .completed ∨ status = .deadLetter) :
    final.shared.queue.statusOf key = some status ∧
      final.shared.queue.started.count key =
        world.shared.queue.started.count key := by
  have stays : JobStays key world final := by
    refine Transition.System.RunWhen.relates ?_ ?_ ?_ reachable runs
    · exact fun state => .of_same rfl rfl
    · exact fun _ _ _ before later => before.trans later
    · exact fun _ _ _ reached permitted taken =>
        stays_of_step reached permitted taken key
  obtain ⟨row, found, rfl⟩ := Option.map_eq_some_iff.mp stored
  have ended : row.status.finished = true := by
    rcases finished with same | same <;> rw [same] <;> rfl
  obtain ⟨⟨row', found', same⟩, starts⟩ := stays row found ended
  refine ⟨?_, starts⟩
  unfold JobQueue.statusOf
  rw [found', Option.map_some, same]

end

/-! ## A job completed once, and one completed and run again -/

/-- A party that is alone and starts or reports what it has claimed last. -/
def actsLast (backend : Backend) (party : Party) (_ : Choice) : Bool :=
  match party with
  | .request _ => true
  | .worker worker =>
      worker.acts.all fun claim =>
        (backend.queue.jobs.find claim.key).all fun row =>
          row.attemptCount = claim.job.attemptCount

theorem currentAttempts_of_alone {world : World Backend Party}
    {party : Party} {choice : Choice}
    (only : Process.OnlyRunning world 0 (some party))
    (test : actsLast world.shared party choice = true) :
    CurrentAttempts world (.resume 0 choice) := by
  rintro pid _ worker claim row ⟨⟩ running acts found
  obtain ⟨-, rfl⟩ := only.eq_of_running running
  simpa [actsLast, acts, found] using test

theorem currentAttempts_of_spawn {world : World Backend Party} {pid : Nat}
    {call : Call} : CurrentAttempts world (.spawn pid call) := by
  intro _ _ _ _ _ same
  cases same

def JobQueue.runsOf (queue : JobQueue) (key : String) :
    Option JobStatus × Nat :=
  (queue.statusOf key, queue.started.count key)

/-- A second worker finds nothing to do. -/
theorem finished_jobs_stay_completed :
    ∃ world final : World Backend Party, final.Quiet ∧
      world.shared.queue.runsOf correctionKey = (some .completed, 1) ∧
      final.shared.queue.statusOf correctionKey = some .completed ∧
      final.shared.queue.started.count correctionKey =
        world.shared.queue.started.count correctionKey := by
  have ran : (((jobProgram defaultSettings flatMap fun _ => True).serial
      actsLast (.single reviewedGrievance)
      [(correctsCategory, [⟨1, .plain⟩, ⟨1, .plain⟩]),
       (.worker 10, rechecks 10 (.extraction streetlightExtraction))]).bind
      fun middle =>
      ((jobProgram defaultSettings flatMap fun _ => True).serial actsLast
        middle [(.worker 10, [⟨500, .selected []⟩])]).map fun final =>
        (middle.queue.runsOf correctionKey,
          final.queue.runsOf correctionKey)) =
      some ((some .completed, 1), (some .completed, 1)) := by
    decide +kernel
  have initial : (jobProgram defaultSettings flatMap fun _ => True).initial
      (.single reviewedGrievance) := Backend.single_initial trivial
  obtain ⟨world, final, labels, reached, runs, quiet, before, _⟩ :=
    Process.Program.runs_serial initial
      (fun _ _ _ _ => currentAttempts_of_spawn)
      (fun _ _ _ => currentAttempts_of_alone) ran
  obtain ⟨completed, _⟩ := Prod.mk.inj before
  obtain ⟨stays, starts⟩ :=
    finished_jobs_stay reached runs completed (.inl rfl)
  exact ⟨world, final, quiet, before, stays, starts⟩

/-- The lease of the first worker passes while its job is running; it fails
after the second has completed the job. -/
theorem finished_job_restarted :
    ∃ world final labels,
      (jobProgram defaultSettings flatMap fun _ => True).system.Reachable
        world ∧
      (jobProgram defaultSettings flatMap fun _ => True).system.RunWhen Always
        world labels final ∧
      world.shared.queue.runsOf correctionKey = (some .completed, 2) ∧
      final.shared.queue.runsOf correctionKey = (some .processing, 3) := by
  have ran : (((jobProgram defaultSettings flatMap
      fun _ => True).system.run (World.start (.single reviewedGrievance))
      ([.spawn 0 correctsCategory, .resume 0 ⟨1, .plain⟩, .resume 0 ⟨1, .plain⟩,
        .spawn 1 (.worker 10), .resume 1 ⟨10, .selected [correctionKey]⟩,
        .resume 1 ⟨10, .plain⟩, .resume 1 ⟨10, .plain⟩,
        .spawn 2 (.worker 10)] ++
       (rechecks (seconds 131) (.extraction streetlightExtraction)).map
         (.resume 2))).bind fun middle =>
      ((jobProgram defaultSettings flatMap fun _ => True).system.run middle
        [.resume 1 ⟨seconds 140, .raises⟩, .resume 1 ⟨seconds 140, .plain⟩,
         .resume 1 ⟨seconds 140, .plain⟩,
         .spawn 3 (.worker 10), .resume 3 ⟨seconds 200, .selected [correctionKey]⟩,
         .resume 3 ⟨seconds 200, .plain⟩]).map fun final =>
        (middle.shared.queue.runsOf correctionKey,
          final.shared.queue.runsOf correctionKey)) =
      some ((some .completed, 2), (some .processing, 3)) := by
    decide +kernel
  have initial : (jobProgram defaultSettings flatMap
      fun _ => True).system.initial
      (World.start (.single reviewedGrievance)) :=
    ⟨_, Backend.single_initial trivial, rfl⟩
  obtain ⟨world, final, reached, runs, before, after⟩ :=
    Transition.System.runs_of_run_map initial ran
  exact ⟨world, final, _, reached, runs, before, after⟩

end JanSetu.Pipeline
