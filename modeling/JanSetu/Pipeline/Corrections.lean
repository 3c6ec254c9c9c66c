import JanSetu.Library.Numerals
import JanSetu.Pipeline.Decision
import JanSetu.Pipeline.Jobs

/-!
# Corrections are re-extracted

The key of a re-extraction is made of the version that an edit has written, and
one.  As long as every writer of the version finds it stored as it has loaded
it, the version grows with each of them, so that no two edits share a key.
-/

namespace JanSetu.Pipeline

open Numerals
open Process (Label)
open Transition.System (Always)

/-! ## Keys -/

def reextractKey (id : String) (number : Nat) : String :=
  idempotencyKey id "reextract" (toString number)

theorem reextractKey_toList (id : String) (number : Nat) :
    (reextractKey id number).toList =
      (("grievance:" ++ id ++ ":" ++ "reextract").toList) ++
        ':' :: (toString number).toList := by
  unfold reextractKey idempotencyKey
  rw [if_neg (toString_nonempty number)]
  simp

theorem reextractKey_inj {id other : String} {number number' : Nat}
    (same : reextractKey id number = reextractKey other number') :
    id = other ∧ number = number' := by
  have chars := congrArg String.toList same
  rw [reextractKey_toList, reextractKey_toList] at chars
  obtain ⟨before, after⟩ := append_mark_inj (mark_not_mem_digits number)
    (mark_not_mem_digits number') chars
  have names : id.toList = other.toList := by
    simpa using before
  exact ⟨String.toList_inj.mp names,
    toString_inj (String.toList_inj.mp after)⟩

/-- The key of the first job of a grievance ends in no number. -/
theorem reextractKey_ne_intelligence (id other : String) (number : Nat) :
    idempotencyKey other "intelligence" "" ≠ reextractKey id number := by
  intro same
  have chars := congrArg String.toList same
  rw [reextractKey_toList] at chars
  have first : (idempotencyKey other "intelligence" "").toList =
      ("grievance:" ++ other).toList ++ ':' :: "intelligence".toList := by
    unfold idempotencyKey
    simp
  rw [first] at chars
  obtain ⟨_, after⟩ := append_mark_inj (by decide)
    (mark_not_mem_digits number) chars
  have letter : 'i' ∈ (toString number).toList := by
    rw [← after]
    decide
  have digit := digits_of_toString letter
  revert digit
  decide

/-! ## Versions -/

/-- The operations that write `state_version`. -/
def Operation.versions : Operation → Bool
  | .reextract => true
  | .updateReview _ _ => true
  | .officialAction _ _ => true
  | _ => false

def Party.task : Party → Option Task
  | .request job => job.task
  | .worker (.running _ task _) => some task
  | .worker _ => none

/-- A write of the version finds it stored as it was loaded. -/
def Versioned (world : World Backend Party) (label : Label Call Choice) :
    Prop :=
  ∀ pid choice party operation id known, label = .resume pid choice →
    choice.answer ≠ .raises → world.Running pid party →
    party.task = some (.loaded operation id known) →
    operation.versions = true → operation.refuses known choice.answer = false →
    world.shared.store.Every id (·.stateVersion = known.stateVersion)

/-- The number in the key of a re-extraction is at most one more than the
version. -/
def Backend.Numbered (backend : Backend) : Prop :=
  ∀ id number, (backend.queue.jobs.find (reextractKey id number)).isSome →
    backend.store.Has id (number ≤ ·.stateVersion + 1)

section

variable {settings : Settings} {geometry : Geometry}
  {admissible : Grievance → Prop} {store after : Store} {now : Time}
  {answer : Answer} {operation : Operation} {id : String}
  {known current : Grievance} {fields : Grievance → Grievance}
  {next : Grievance → Progress} {progress : Progress}

theorem Operation.Writes.version
    (writes : operation.Writes settings id known answer fields next) :
    (fields known).stateVersion =
      if operation.versions then known.stateVersion + 1
      else known.stateVersion := by
  cases writes with
  | runPipeline =>
      exact withReceipt_column settings (fun _ => rfl) _ _ known
  | recheckImage =>
      exact withReceipt_column settings (fun _ => rfl) _ _ known
  | _ => rfl

theorem set_version (versioned : (fields known).stateVersion =
      known.stateVersion + 1) :
    (RowSession.set { known := known, current := current } now
      fields).current.stateVersion = known.stateVersion + 1 := by
  have changed : (fields known).stateVersion ≠ known.stateVersion := by
    omega
  exact (RowSession.stateVersion_isColumn.set_new _ _ changed).trans versioned

/-- A version is one more than the one that was loaded, or as it was. -/
theorem Task.Touches.version {task : Task}
    {routes : List JurisdictionRouteRow} {writes : RowSession → RowSession}
    (touches : task.Touches settings routes now answer id known writes) :
    (∃ operation, task = .loaded operation id known ∧
      operation.versions = true ∧ operation.refuses known answer = false ∧
      (writes { known := known, current := current : RowSession
        }).current.stateVersion = known.stateVersion + 1) ∨
    (writes { known := known, current := current : RowSession
      }).current.stateVersion = current.stateVersion := by
  have isColumn := RowSession.stateVersion_isColumn
  have pair : ∀ confirmedAt fields,
      (∀ row : Grievance, (fields row).stateVersion = row.stateVersion) →
      (registeredThen { known := known, current := current } confirmedAt now
        fields).current.stateVersion = current.stateVersion :=
    fun confirmedAt fields same =>
      registeredThen_same isColumn _ _ _ (fun _ => rfl) same
  cases touches with
  | @wrote operation _ _ fields _ writes commits =>
      have version := writes.version
      cases versions : operation.versions with
      | true =>
          rw [versions, if_pos rfl] at version
          have decides : (operation.extracts || operation.reviews) = true := by
            cases operation <;> first | rfl | cases versions
          exact .inl ⟨operation, rfl, versions,
            writes.accepts commits decides, set_version version⟩
      | false =>
          rw [versions, if_neg (by decide)] at version
          exact .inr (isColumn.set_same _ _ version)
  | confirmed confirms =>
      refine .inr (isColumn.set_same _ _ ?_)
      cases confirms <;> rfl
  | openedWindow => exact .inr (pair _ _ fun _ => rfl)
  | merged => exact .inr (pair _ _ fun _ => rfl)
  | reported => exact .inr (isColumn.set_same _ _ rfl)
  | submitted => exact .inr (isColumn.set_same _ _ rfl)
  | retried => exact .inr (isColumn.set_same _ _ rfl)

/-- What is accepted is written. -/
theorem Operation.run_versions
    (ran : operation.run settings geometry store id known now answer =
      some (after, progress))
    (versions : operation.versions = true)
    (accepts : operation.refuses known answer = false) :
    after.Has id (·.stateVersion = known.stateVersion + 1) := by
  have written : ∀ {fields : Grievance → Grievance}
      {event : Option (GrievanceStatus × Option String)}
      {next : Grievance → Progress},
      store.write id known now fields event next = some (after, progress) →
      (fields known).stateVersion = known.stateVersion + 1 →
      after.Has id (·.stateVersion = known.stateVersion + 1) := by
    intro fields event next written version
    obtain ⟨current, wrote, _⟩ := Store.write_wrote written
    exact ⟨_, wrote.find_self, set_version version⟩
  unfold Operation.run at ran
  split at ran <;> first | contradiction | skip
  case h_5 extraction =>
    unfold Store.reextract at ran
    split at ran
    case isTrue refused =>
      have refuses : Operation.refuses known .reextract
          (.extraction extraction) = true := by
        simpa [Operation.refuses] using refused
      rw [refuses] at accepts
      cases accepts
    case isFalse => exact written ran rfl
  case h_6 userId body =>
    unfold Store.updateReview at ran
    split at ran
    case isTrue foreign =>
      simp [Operation.refuses, foreign] at accepts
    case isFalse =>
      split at ran
      case h_1 refused => simp [Operation.refuses, refused] at accepts
      case h_2 => exact written ran rfl
  case h_7 official body =>
    unfold Store.officialAction at ran
    split at ran
    case h_1 refused => simp [Operation.refuses, refused] at accepts
    case h_2 => exact written ran rfl

/-! ## Steps -/

theorem Store.Has.of_same {property : Grievance → Prop}
    (grievances : after.grievances = store.grievances)
    (has : store.Has id property) : after.Has id property := by
  obtain ⟨row, found, holds⟩ := has
  exact ⟨row, by rw [grievances, found], holds⟩

theorem Task.release_grievances (task : Task) (store : Store) :
    (task.release store).grievances = store.grievances := by
  cases task <;> rfl

/-- No version falls while the writers find it as they have loaded it. -/
theorem Task.Moves.version_kept {task : Task} {bound : Nat}
    (moves : task.Moves settings geometry store now answer after progress)
    (fresh : ∀ operation id known, task = .loaded operation id known →
      operation.versions = true → operation.refuses known answer = false →
      store.Every id (·.stateVersion = known.stateVersion))
    (before : store.Has id (bound ≤ ·.stateVersion)) :
    after.Has id (bound ≤ ·.stateVersion) := by
  refine moves.has ?_ before
  intro known writes current touches found holds
  rcases touches.version with
    ⟨operation, rfl, versions, accepts, written⟩ | same
  · rcases found with merges | found
    · cases merges
    · have stored := fresh operation id known rfl versions accepts current found
      have stored : current.stateVersion = known.stateVersion := stored
      rw [written, ← stored]
      exact Nat.le_succ_of_le holds
  · rw [same]
    exact holds

variable {backend further : Backend} {party : Party} {choice : Choice}

/-- The grievances change only by a step of a task. -/
theorem Party.resume_store {next : Option Party}
    (resumed : party.resume settings geometry backend choice =
      some (further, next)) :
    further.store.grievances = backend.store.grievances ∨
      ∃ task progress, party.task = some task ∧
        task.resume settings geometry backend.store choice =
          some (further.store, progress) := by
  rcases Party.resume_cases resumed with
    ⟨job, store, _, rfl, moving, rfl, _⟩ | ⟨worker, _, rfl, moves, _⟩
  · rcases Job.resume_cases moving with
      ⟨task, progress, doing, stepped, _⟩ | ⟨same, _⟩
    · exact .inr ⟨task, progress, doing, stepped⟩
    · exact .inl (congrArg Store.grievances same)
  · cases moves with
    | ran stepped => exact .inr ⟨_, _, rfl, stepped⟩
    | _ => exact .inl rfl

theorem Party.release_grievances (party : Party) (backend : Backend) :
    (party.release backend).store.grievances = backend.store.grievances := by
  cases party with
  | request job =>
      show (job.release backend.store).grievances = backend.store.grievances
      unfold Job.release
      cases job.task with
      | none => rfl
      | some task => exact task.release_grievances backend.store
  | worker running =>
      cases running with
      | running claim task rest => exact task.release_grievances backend.store
      | _ => rfl

theorem Party.version_kept {next : Option Party} {bound : Nat}
    (resumed : party.resume settings geometry backend choice =
      some (further, next))
    (fresh : ∀ operation id known, choice.answer ≠ .raises →
      party.task = some (.loaded operation id known) →
      operation.versions = true →
      operation.refuses known choice.answer = false →
      backend.store.Every id (·.stateVersion = known.stateVersion))
    (before : backend.store.Has id (bound ≤ ·.stateVersion)) :
    further.store.Has id (bound ≤ ·.stateVersion) := by
  rcases Party.resume_store resumed with
    same | ⟨task, progress, doing, stepped⟩
  · exact before.of_same same
  · rcases Task.resume_cases stepped with ⟨_, same, _⟩ | ⟨plain, moves⟩
    · refine before.of_same ?_
      rw [same]
      exact task.release_grievances backend.store
    · refine moves.version_kept ?_ before
      rintro operation id known rfl versions accepts
      exact fresh operation id known plain doing versions accepts

/-! ## Requests -/

theorem Operation.enqueues_cases {stage suffix : String}
    (asked : operation.enqueues known = some (stage, suffix)) :
    stage = "intelligence" ∧ suffix = "" ∨
      ∃ userId body, operation = .updateReview userId body ∧
        operation.refuses known .plain = false ∧ stage = "reextract" ∧
        suffix = toString (known.stateVersion + 1 + 1) := by
  cases operation with
  | storeUploads form => cases asked; exact .inl ⟨rfl, rfl⟩
  | updateReview userId body =>
      unfold Operation.enqueues at asked
      dsimp only at asked
      split at asked
      case isFalse => cases asked
      case isTrue accepted =>
        cases asked
        refine .inr ⟨userId, body, rfl, ?_, rfl, rfl⟩
        simpa [Operation.refuses, accepted.1] using accepted.2.1
  | _ => cases asked

theorem Job.resume_loaded {job : Job} {next : Option Job}
    (resumed : job.resume settings geometry store choice =
      some (after, next))
    (doing : job.task = some (.loaded operation id known))
    (plain : choice.answer ≠ .raises) :
    ∃ progress, operation.run settings geometry store id known choice.now
      choice.answer = some (after, progress) := by
  rcases Job.resume_cases resumed with
    ⟨task, progress, doing', stepped, _⟩ | ⟨_, none, _⟩
  · rw [doing] at doing'
    cases doing'
    exact ⟨progress, Task.resume_loaded stepped plain⟩
  · rw [doing] at none
    cases none

theorem Party.resume_loaded {next : Option Party}
    (resumed : party.resume settings geometry backend choice =
      some (further, next))
    (doing : party.task = some (.loaded operation id known))
    (plain : choice.answer ≠ .raises) :
    ∃ progress, operation.run settings geometry backend.store id known
      choice.now choice.answer = some (further.store, progress) := by
  rcases Party.resume_cases resumed with
    ⟨job, store, _, rfl, moving, rfl, _⟩ | ⟨worker, _, rfl, moves, _⟩
  · exact Job.resume_loaded moving doing plain
  · cases moves with
    | ran stepped =>
        cases doing
        exact ⟨_, Task.resume_loaded stepped plain⟩
    | _ => cases doing

theorem updateReview_plain {userId : String} {body : ReviewPatch}
    (ran : Operation.run settings geometry store id known now
      (.updateReview userId body) answer = some (after, progress)) :
    answer = .plain := by
  cases answer with
  | plain => rfl
  | _ => cases ran

theorem Operation.enqueues_correction {userId : String} {body : ReviewPatch}
    (accepts : Operation.refuses known (.updateReview userId body) answer =
      false)
    (carries : Python.truthy body.categoryId = true ∨
      Python.truthy body.clarificationAnswer = true) :
    Operation.enqueues known (.updateReview userId body) =
      some ("reextract", toString (known.stateVersion + 1 + 1)) := by
  simp only [Operation.refuses, Bool.or_eq_false_iff, decide_eq_false_iff_not,
    not_not, Option.isNone_eq_false_iff] at accepts
  exact if_pos ⟨accepts.1, accepts.2, carries⟩

/-- A step that keeps the versions keeps the keys below them. -/
theorem Party.numbered {next : Option Party}
    (resumed : party.resume settings geometry backend choice =
      some (further, next))
    (fresh : ∀ operation id known, choice.answer ≠ .raises →
      party.task = some (.loaded operation id known) →
      operation.versions = true →
      operation.refuses known choice.answer = false →
      backend.store.Every id (·.stateVersion = known.stateVersion))
    (before : backend.Numbered) : further.Numbered := by
  -- A key that was there stays below the version.
  have kept : ∀ id number,
      (backend.queue.jobs.find (reextractKey id number)).isSome →
      further.store.Has id (number ≤ ·.stateVersion + 1) := by
    intro id number found
    have above : backend.store.Has id (number - 1 ≤ ·.stateVersion) :=
      (before id number found).mono fun row holds => by omega
    exact (Party.version_kept resumed fresh above).mono
      fun row holds => by omega
  intro id number found
  rcases Party.resume_cases resumed with
    ⟨job, store, _, rfl, moving, rfl, _⟩ | ⟨worker, _, rfl, moves, _⟩
  · rcases backend.queue.enqueues_cases job.task choice with
      same | ⟨operation, other, known, stage, suffix, doing, asked, answered,
        _, inserted⟩
    · have found : ((backend.queue.enqueues job.task choice).jobs.find
          (reextractKey id number)).isSome := found
      rw [same] at found
      exact kept id number found
    · have found : ((backend.queue.enqueues job.task choice).jobs.find
          (reextractKey id number)).isSome := found
      rw [inserted, Table.find_put] at found
      split at found
      case isFalse => exact kept id number found
      case isTrue same =>
        rcases Operation.enqueues_cases asked with
          ⟨rfl, rfl⟩ | ⟨userId, body, rfl, accepts, rfl, rfl⟩
        · exact absurd same.symm (reextractKey_ne_intelligence id other number)
        · obtain ⟨rfl, rfl⟩ := reextractKey_inj same
          have plain : choice.answer ≠ .raises := by
            rw [answered]
            nofun
          obtain ⟨progress, ran⟩ := Job.resume_loaded moving doing plain
          have written := Operation.run_versions ran rfl (answered ▸ accepts)
          refine written.mono fun row version => ?_
          have version : row.stateVersion = known.stateVersion + 1 := version
          omega
  · apply kept id number
    cases there : backend.queue.jobs.find (reextractKey id number) with
    | some row => rfl
    | none =>
        rw [moves.absent there] at found
        cases found

/-! ## Runs -/

variable {world final : World Backend Party} {after : World Backend Party}
  {labels : List (Label Call Choice)}

def Numbered (world : World Backend Party) : Prop :=
  world.shared.Numbered

theorem numbered_holds
    (reachable : (jobProgram settings geometry admissible).system.ReachableWhen
      Versioned world) : Numbered world := by
  refine reachable.invariant ?_ ?_
  · rintro _ ⟨backend, initial, rfl⟩ id number found
    have found : (backend.queue.jobs.find (reextractKey id number)).isSome :=
      found
    rw [initial.2.1, Table.find_empty] at found
    cases found
  · intro state label next _ before permitted taken
    rcases Process.Program.step_cases taken with
      ⟨pid, call, rfl, _, rfl⟩ |
      ⟨pid, choice, party, backend, arrived, rfl, running, resumed, rfl⟩ |
      ⟨pid, party, rfl, running, rfl⟩
    · exact before
    · apply Party.numbered resumed ?_ before
      intro operation id known plain doing
      exact permitted pid choice party operation id known rfl plain running
        doing
    · intro id number found
      have same := congrArg (fun queue => queue.jobs.find
        (reextractKey id number)) (party.release_queue state.shared)
      have stored := before id number (same ▸ found)
      exact stored.of_same (party.release_grievances state.shared)

theorem version_kept {bound : Nat}
    (runs : (jobProgram settings geometry admissible).system.RunWhen Versioned
      world labels final)
    (before : world.shared.store.Has id (bound ≤ ·.stateVersion)) :
    final.shared.store.Has id (bound ≤ ·.stateVersion) := by
  refine Transition.System.RunWhen.preserves
    (fun world => world.shared.store.Has id (bound ≤ ·.stateVersion)) ?_ runs
    before
  intro state label next above permitted taken
  rcases Process.Program.step_cases taken with
    ⟨pid, call, rfl, _, rfl⟩ |
    ⟨pid, choice, party, backend, arrived, rfl, running, resumed, rfl⟩ |
    ⟨pid, party, rfl, running, rfl⟩
  · exact above
  · apply Party.version_kept resumed ?_ above
    intro operation id known plain doing
    exact permitted pid choice party operation id known rfl plain running doing
  · exact above.of_same (party.release_grievances state.shared)

/-- As long as every write of the version finds it as it was loaded, each commit
raises it for good, and the commit of a correction inserts a job of its own
that nobody has claimed. -/
theorem corrections_reextracted {pid : Nat} {party : Party}
    (reachable : (jobProgram settings geometry admissible).system.ReachableWhen
      Versioned world)
    (permitted : Versioned world (.resume pid choice))
    (taken : (jobProgram settings geometry admissible).system.step world
      (.resume pid choice) = some after)
    (later : (jobProgram settings geometry admissible).system.RunWhen Versioned
      after labels final)
    (running : world.Running pid party)
    (doing : party.task = some (.loaded operation id known))
    (versions : operation.versions = true)
    (plain : choice.answer ≠ .raises)
    (accepts : operation.refuses known choice.answer = false) :
    (∀ row, world.shared.store.grievances.find id = some row →
      final.shared.store.Has id (row.stateVersion < ·.stateVersion)) ∧
    ∀ job userId body, party = .request job →
      operation = .updateReview userId body →
      (Python.truthy body.categoryId = true ∨
        Python.truthy body.clarificationAnswer = true) →
      ∃ key, world.shared.queue.jobs.find key = none ∧
        after.shared.queue.jobs.find key =
          some
            { grievanceId := id, stage := "reextract", status := .pending
              attemptCount := 0, maxAttempts := 5
              nextAttemptAt := choice.now, lockedUntil := none } := by
  have stepped : (jobProgram settings geometry admissible).step world
      (.resume pid choice) = some after := taken
  rcases Process.Program.step_cases stepped with
    ⟨_, _, same, _⟩ |
    ⟨_, _, party', backend, arrived, same, running', resumed, rfl⟩ |
    ⟨_, _, same, _⟩
  · cases same
  · cases same
    have is : party' = party := Option.some.inj (running'.symm.trans running)
    subst is
    have moved : Party.resume settings geometry world.shared party' choice =
        some (backend, arrived) := resumed
    have stored := permitted pid choice party' operation id known rfl plain
      running doing versions accepts
    constructor
    · intro row found
      have version : row.stateVersion = known.stateVersion := stored row found
      obtain ⟨progress, ran⟩ := Party.resume_loaded moved doing plain
      have written := Operation.run_versions ran versions accepts
      have above : backend.store.Has id
          (known.stateVersion + 1 ≤ ·.stateVersion) :=
        written.mono fun row version => Nat.le_of_eq version.symm
      refine (version_kept later above).mono fun last greater => ?_
      rw [version]
      exact greater
    · rintro job userId body rfl rfl carries
      obtain ⟨progress, ran⟩ := Party.resume_loaded moved doing plain
      have answered := updateReview_plain ran
      have asked := Operation.enqueues_correction accepts carries
      -- No job has the number of a version that is not written yet.
      have absent : world.shared.queue.jobs.find
          (reextractKey id (known.stateVersion + 1 + 1)) = none := by
        cases there : world.shared.queue.jobs.find
            (reextractKey id (known.stateVersion + 1 + 1)) with
        | none => rfl
        | some job =>
            obtain ⟨row, found, below⟩ := numbered_holds reachable id _
              (Option.isSome_iff_exists.mpr ⟨job, there⟩)
            have version : row.stateVersion = known.stateVersion :=
              stored row found
            omega
      refine ⟨_, absent, ?_⟩
      rcases Party.resume_cases moved with
        ⟨job', store, _, same, _, rfl, _⟩ | ⟨_, _, same, _⟩
      · cases same
        have doing : job.task = some (.loaded (.updateReview userId body) id
          known) := doing
        show (world.shared.queue.enqueues job.task choice).jobs.find _ = _
        unfold JobQueue.enqueues
        rw [doing, answered]
        dsimp only
        rw [asked]
        have key : idempotencyKey id "reextract"
            (toString (known.stateVersion + 1 + 1)) =
            reextractKey id (known.stateVersion + 1 + 1) := rfl
        simp only [JobQueue.enqueuePipelineJob, key, absent]
        exact Table.find_put_self _ _ _
      · cases same
  · cases same

end

/-! ## One correction, and two at a time -/

/-- The citizen answers the question that was asked. -/
def clarification : ReviewPatch :=
  { categoryId := none, assetScope := none, summary := none
    clarificationAnswer := some "Near the school" }

def clarifies : Task :=
  .loaded (.updateReview "citizen" clarification) "g" reviewedGrievance

/-- The row has been loaded, and nobody else is running. -/
def clarifying : World Backend Party :=
  ((World.start (.single reviewedGrievance)).put (.single reviewedGrievance) 0
    (some (Party.start (.request
      (.updateReview "g" "citizen" clarification))))).put
    (Backend.read (.single reviewedGrievance) 1) 0
    (some (.request (.request clarifies)))

theorem clarifying_reachable :
    (jobProgram defaultSettings flatMap fun _ => True).system.ReachableWhen
      Versioned clarifying := by
  refine ⟨_, [.spawn 0 (.request (.updateReview "g" "citizen" clarification)),
    .resume 0 ⟨1, .plain⟩],
    ⟨.single reviewedGrievance, Backend.single_initial trivial, rfl⟩,
    .cons ?_ rfl (.cons ?_ rfl (.nil _))⟩
  · intro _ _ _ _ _ _ same
    cases same
  · rintro _ _ party operation id known ⟨⟩ _ running doing
    cases running
    cases doing

theorem clarifying_versioned :
    Versioned clarifying (.resume 0 ⟨2, .plain⟩) := by
  rintro _ _ party operation id known ⟨⟩ _ running doing _ _ row found
  cases running
  cases doing
  have same : some reviewedGrievance = some row := found
  cases same
  rfl

theorem corrections_reextracted_once :
    ∃ after key,
      (jobProgram defaultSettings flatMap fun _ => True).system.step clarifying
        (.resume 0 ⟨2, .plain⟩) = some after ∧
      after.shared.store.Has "g"
        (reviewedGrievance.stateVersion < ·.stateVersion) ∧
      clarifying.shared.queue.jobs.find key = none ∧
      after.shared.queue.jobs.find key =
        some
          { grievanceId := "g", stage := "reextract", status := .pending
            attemptCount := 0, maxAttempts := 5, nextAttemptAt := 2
            lockedUntil := none } := by
  have enabled : ((jobProgram defaultSettings flatMap
      fun _ => True).system.step clarifying
      (.resume 0 ⟨2, .plain⟩)).isSome = true := by
    decide +kernel
  obtain ⟨after, taken⟩ := Option.isSome_iff_exists.mp enabled
  have accepts : Operation.refuses reviewedGrievance
      (.updateReview "citizen" clarification) .plain = false := by
    decide +kernel
  obtain ⟨grows, inserts⟩ := corrections_reextracted clarifying_reachable
    clarifying_versioned taken (.nil after)
    (rfl : clarifying.Running 0 (.request (.request clarifies))) rfl rfl nofun
    accepts
  obtain ⟨key, absent, inserted⟩ :=
    inserts _ _ _ rfl rfl (.inr (by decide))
  exact ⟨after, key, taken, grows _ rfl, absent, inserted⟩

/-- What can be seen of a correction: the version and the answer of the citizen,
and the jobs. -/
structure Seen where
  version : Option Nat
  clarification : Option String
  jobs : Nat
  job : Option JobStatus
deriving DecidableEq

def Backend.corrected (backend : Backend) : Seen :=
  let row := backend.store.grievances.find "g"
  { version := row.map (·.stateVersion)
    clarification :=
      row.bind fun row => row.structuredFacts.bind (·.clarificationAnswer)
    jobs := backend.queue.jobs.count (fun _ _ => true)
    job := backend.queue.statusOf correctionKey }

/-- The second edit was loaded before the first was committed: when it is
committed, the job of its key has been run, and the version falls. -/
theorem correction_not_reextracted :
    ∃ world final,
      (jobProgram defaultSettings flatMap fun _ => True).system.Reachable
        world ∧
      (jobProgram defaultSettings flatMap fun _ => True).system.RunWhen Always
        world [.resume 1 ⟨20, .plain⟩] final ∧
      world.shared.corrected = ⟨some 2, none, 1, some .completed⟩ ∧
      final.shared.corrected =
        ⟨some 1, some "Near the school", 1, some .completed⟩ := by
  have ran : (((jobProgram defaultSettings flatMap
      fun _ => True).system.run (World.start (.single reviewedGrievance))
      ([.spawn 0 correctsCategory, .resume 0 ⟨1, .plain⟩,
        .spawn 1 (.request (.updateReview "g" "citizen" clarification)),
        .resume 1 ⟨1, .plain⟩, .resume 0 ⟨2, .plain⟩,
        .spawn 2 (.worker 10)] ++
       (rechecks 10 (.extraction streetlightExtraction)).map
         (.resume 2))).bind fun middle =>
      ((jobProgram defaultSettings flatMap fun _ => True).system.run middle
        [.resume 1 ⟨20, .plain⟩]).map fun final =>
        (middle.shared.corrected, final.shared.corrected)) =
      some (⟨some 2, none, 1, some .completed⟩,
        ⟨some 1, some "Near the school", 1, some .completed⟩) := by
    decide +kernel
  have initial : (jobProgram defaultSettings flatMap
      fun _ => True).system.initial
      (World.start (.single reviewedGrievance)) :=
    ⟨_, Backend.single_initial trivial, rfl⟩
  obtain ⟨world, final, reached, runs, before, after⟩ :=
    Transition.System.runs_of_run_map initial ran
  exact ⟨world, final, reached, runs, before, after⟩

end JanSetu.Pipeline
