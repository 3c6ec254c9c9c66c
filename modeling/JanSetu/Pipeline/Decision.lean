import JanSetu.Pipeline.Policy

/-!
# What becomes of an official's decision

Nobody looks at an official's decision before writing.  The snapshot stays
until the next extraction or review of the grievance is written.  The review
status also gives way when `finalize_grievance` leaves a disposition to an
official, and when `dispatch_grievance` finds its snapshot disabled: both give
the grievance back.
-/

namespace JanSetu.Pipeline

open Process (Label)
open Transition.System (Always)

/-- The extractions and reviews that return without a write. -/
def Operation.refuses (known : Grievance) : Operation → Answer → Bool
  | .runPipeline, _ => (originalText known.issueMessages).isNone
  | .reextract, .extraction extraction =>
      !Python.truthy known.issueText || extraction.degraded
  | .updateReview userId body, _ =>
      known.userId ≠ some userId || (UpdateReview.accepted body known).isNone
  | .officialAction official body, _ =>
      (OfficialAction.accepted official body known).isNone
  | _, _ => false

/-- No extraction or review of the grievance is written. -/
def Unrevised (id : String) (world : World Store Job)
    (label : Label Request Choice) : Prop :=
  ∀ pid choice operation known, label = .resume pid choice →
    Runs world pid (.loaded operation id known) →
    (operation.extracts || operation.reviews) = true →
    choice.answer = .raises ∨ operation.refuses known choice.answer = true

/-- The grievance is not given back to an official. -/
def Unreturned (id : String) (world : World Store Job)
    (label : Label Request Choice) : Prop :=
  ∀ pid choice operation known, label = .resume pid choice →
    choice.answer ≠ .raises → Runs world pid (.loaded operation id known) →
    known.reviewStatus ≠ some .pendingOfficial →
    (operation = .finalize → needsDisposition known = false) ∧
      (operation = .dispatch → dispatchDisabled known = false)

section

variable {settings : Settings} {geometry : Geometry} {store after : Store}
  {now : Time} {answer : Answer} {task : Task} {progress : Progress}
  {id : String} {known : Grievance} {operation : Operation}
  {fields : Grievance → Grievance} {next : Grievance → Progress}
  {routes : List JurisdictionRouteRow}

/-- What refuses does not write. -/
theorem Operation.Writes.accepts
    (writes : operation.Writes settings id known answer fields next)
    (commits : operation.Commits settings routes id known now answer fields)
    (decides : (operation.extracts || operation.reviews) = true) :
    operation.refuses known answer = false := by
  cases writes with
  | runPipeline =>
      obtain ⟨text, texts, _⟩ := commits
      simp [Operation.refuses, texts]
  | reextract =>
      obtain ⟨texts, whole, _⟩ := commits
      simp [Operation.refuses, texts, whole]
  | updateReview =>
      obtain ⟨own, _, _, accepted, _⟩ := commits
      simp [Operation.refuses, own, accepted]
  | officialAction =>
      obtain ⟨_, accepted, _⟩ := commits
      simp [Operation.refuses, accepted]
  | _ => cases decides

/-- An operation that is neither an extraction nor a review leaves snapshot and
review status alone, but for a disabled dispatch. -/
theorem Operation.Writes.idle
    (writes : operation.Writes settings id known answer fields next)
    (commits : operation.Commits settings routes id known now answer fields)
    (refused : (operation.extracts || operation.reviews) = true →
      operation.refuses known answer = true) :
    (fields known).routingSnapshot = known.routingSnapshot ∧
      ((fields known).reviewStatus = known.reviewStatus ∨
        operation = .dispatch ∧ Pipeline.dispatchDisabled known = true) := by
  have neither : (operation.extracts || operation.reviews) = false := by
    by_contra decides
    have decides := eq_true_of_ne_false decides
    have accepts := writes.accepts commits decides
    rw [refused decides] at accepts
    cases accepts
  obtain ⟨extracts, reviews⟩ := Bool.or_eq_false_iff.mp neither
  obtain ⟨snapshot, _, review⟩ := writes.unreviewed extracts reviews
  exact ⟨snapshot, review⟩

theorem Task.Moves.keeps_decided {snapshot : Option RoutingSnapshot}
    (moves : task.Moves settings geometry store now answer after progress)
    (refused : ∀ operation known, task = .loaded operation id known →
      (operation.extracts || operation.reviews) = true →
      operation.refuses known answer = true)
    (before : store.Has id (·.routingSnapshot = snapshot)) :
    after.Has id (·.routingSnapshot = snapshot) := by
  refine moves.keeps_column RowSession.routingSnapshot_isColumn ?_ ?_ ?_
    before
  · intro fields row concludes
    cases concludes <;> rfl
  · intro operation known fields next doing writes commits
    exact (writes.idle commits (refused operation known doing)).1
  · intro known fields next _ confirms
    cases confirms <;> rfl

theorem Task.Moves.keeps_review {review : Option ReviewStatus}
    (moves : task.Moves settings geometry store now answer after progress)
    (refused : ∀ operation known, task = .loaded operation id known →
      (operation.extracts || operation.reviews) = true →
      operation.refuses known answer = true)
    (unreturned : ∀ operation known, task = .loaded operation id known →
      known.reviewStatus ≠ some .pendingOfficial →
      (operation = .finalize → needsDisposition known = false) ∧
        (operation = .dispatch → dispatchDisabled known = false))
    (before : store.Has id (·.reviewStatus = review)) :
    after.Has id (·.reviewStatus = review) := by
  refine moves.keeps_column RowSession.reviewStatus_isColumn ?_ ?_ ?_ before
  · intro fields row concludes
    cases concludes <;> rfl
  · intro operation known fields next doing writes commits
    rcases (writes.idle commits (refused operation known doing)).2 with
      same | ⟨rfl, disabled⟩
    · exact same
    · -- The dispatch asks for an official, who is already asked for.
      by_cases pending : known.reviewStatus = some .pendingOfficial
      · cases writes with
        | dispatchDisabled => exact pending.symm
        | dispatching => rfl
      · have enabled := (unreturned .dispatch known doing pending).2 rfl
        rw [disabled] at enabled
        cases enabled
  · intro known fields next doing confirms
    cases confirms with
    | reviewed => rfl
    | disposed pending disposed =>
        have ticket := (unreturned .finalize known doing pending).1 rfl
        rw [disposed] at ticket
        cases ticket
    | priority => rfl

end

/-! ## Runs -/

section

variable {settings : Settings} {geometry : Geometry}
  {admissible : Grievance → Prop} {world next final : World Store Job}
  {labels : List (Label Request Choice)} {id : String}

theorem snapshot_stands {snapshot : Option RoutingSnapshot}
    (runs : (program settings geometry admissible).system.RunWhen
      (Unrevised id) world labels final)
    (before : world.shared.Has id (·.routingSnapshot = snapshot)) :
    final.shared.Has id (·.routingSnapshot = snapshot) := by
  induction runs with
  | nil => exact before
  | cons unrevised taken _ induction =>
      apply induction
      refine step_has taken ?_ before
      intro pid choice task after progress is runs plain moves
      refine moves.keeps_decided ?_ before
      rintro operation known rfl decides
      exact (unrevised pid choice operation known is runs
        decides).resolve_left plain

theorem review_stands {review : Option ReviewStatus}
    (runs : (program settings geometry admissible).system.RunWhen
      (fun world label => Unrevised id world label ∧
        Unreturned id world label) world labels final)
    (before : world.shared.Has id (·.reviewStatus = review)) :
    final.shared.Has id (·.reviewStatus = review) := by
  induction runs with
  | nil => exact before
  | cons permitted taken _ induction =>
      apply induction
      refine step_has taken ?_ before
      intro pid choice task after progress is runs plain moves
      refine moves.keeps_review ?_ ?_ before
      · rintro operation known rfl decides
        exact (permitted.1 pid choice operation known is runs
          decides).resolve_left plain
      · rintro operation known rfl pending
        exact permitted.2 pid choice operation known is plain runs pending

/-- An action that is accepted is written. -/
theorem officialAction_writes {store after : Store} {choice : Choice}
    {official : OfficialUser} {body : OfficialAction} {known : Grievance}
    {progress : Progress}
    (resumed : (Task.loaded (.officialAction official body) id known).resume
      settings geometry store choice = some (after, progress))
    (plain : choice.answer ≠ .raises)
    (accepted : Operation.refuses known (.officialAction official body)
      choice.answer = false) :
    ∃ categoryKey current, store.Wrote after id known current
      (·.set choice.now (OfficialAction.fields body categoryKey)) := by
  unfold Task.resume at resumed
  rw [if_neg plain] at resumed
  have ran : Operation.run settings geometry store id known choice.now
      (.officialAction official body) choice.answer =
        some (after, progress) := resumed
  unfold Operation.run at ran
  split at ran <;> first | contradiction | skip
  case h_7 same _ =>
    cases same
    unfold Store.officialAction at ran
    split at ran
    case h_1 refused =>
      simp [Operation.refuses, refused] at accepted
    case h_2 categoryKey _ =>
      obtain ⟨current, wrote, _⟩ := Store.write_wrote ran
      exact ⟨categoryKey, current, wrote⟩

/-- After an official's action has been committed, the snapshot stays as it is
stored until an extraction or a review is written, and the review status until
then or until the grievance is given back. -/
theorem decision_stands {pid : Nat} {choice : Choice}
    {official : OfficialUser} {body : OfficialAction} {known : Grievance}
    (taken : (program settings geometry admissible).system.step world
      (.resume pid choice) = some next)
    (runs : Runs world pid (.loaded (.officialAction official body) id known))
    (plain : choice.answer ≠ .raises)
    (accepted : Operation.refuses known (.officialAction official body)
      choice.answer = false) :
    ∃ decided, next.shared.grievances.find id = some decided ∧
      (world.shared.grievances.find id = some known →
        decided.reviewStatus =
          some (OfficialAction.reviewStatus body.action)) ∧
      (∀ labels final,
        (program settings geometry admissible).system.RunWhen
          (Unrevised id) next labels final →
        final.shared.Has id
          (·.routingSnapshot = decided.routingSnapshot)) ∧
      ∀ labels final,
        (program settings geometry admissible).system.RunWhen
          (fun world label => Unrevised id world label ∧
            Unreturned id world label) next labels final →
        final.shared.Has id (·.reviewStatus = decided.reviewStatus) := by
  have written : ∃ categoryKey current,
      world.shared.Wrote next.shared id known current
        (·.set choice.now (OfficialAction.fields body categoryKey)) := by
    obtain ⟨progress, moving⟩ := step_task taken runs
    exact officialAction_writes moving plain accepted
  obtain ⟨categoryKey, current, wrote⟩ := written
  refine ⟨_, wrote.find_self, ?_, ?_, ?_⟩
  · intro fresh
    have same : current = known :=
      Option.some.inj (wrote.found.symm.trans fresh)
    subst same
    rw [RowSession.reviewStatus_isColumn.set_current]
    exact Column.write_self _ _
  · intro labels final runs
    exact snapshot_stands runs ⟨_, wrote.find_self, rfl⟩
  · intro labels final runs
    exact review_stands runs ⟨_, wrote.find_self, rfl⟩

end

/-! ## Runs that keep a decision, and runs that do not -/

/-- A confirmed grievance in its aggregation window. -/
def windowGrievance : Grievance :=
  { reviewedGrievance with
    status := .pendingWindow, windowExpiresAt := some 10
    jurisdictionId := some demoJurisdictionId }

/-- An administrator of the demo jurisdiction decides. -/
def administrator : OfficialUser :=
  { role := .admin, jurisdictionId := demoJurisdictionId
    departmentKeys := [] }

def decides (action : OfficialDecision) : OfficialAction :=
  { action := action, categoryId := none, assetScope := none
    safetyLevel := none, departmentKey := none }

/-- The review status, and the category in the snapshot. -/
def Store.decisionOf (store : Store) (id : String) :
    Option (Option ReviewStatus × Option String) :=
  (store.grievances.find id).map fun row =>
    (row.reviewStatus, row.routingSnapshot.map (·.categoryId))

/-- A process that is alone leaves a decision, unless it extracts, reviews,
finalizes or dispatches. -/
def leavesDecision (_ : Store) (job : Job) (_ : Choice) : Bool :=
  match job.task with
  | some (.loaded operation _ _) =>
      !operation.extracts && !operation.reviews && operation ≠ .finalize &&
        operation ≠ .dispatch
  | _ => true

theorem leaves_of_spawn {world : World Store Job} {pid : Nat}
    {request : Request} {id : String} :
    Unrevised id world (.spawn pid request) ∧
      Unreturned id world (.spawn pid request) := by
  constructor
  · intro _ _ _ _ same
    cases same
  · intro _ _ _ _ same
    cases same

theorem leaves_of_alone {world : World Store Job} {job : Job}
    {choice : Choice} {id : String}
    (only : Process.OnlyRunning world 0 (some job))
    (test : leavesDecision world.shared job choice = true) :
    Unrevised id world (.resume 0 choice) ∧
      Unreturned id world (.resume 0 choice) := by
  have idle : ∀ pid operation known,
      Runs world pid (.loaded operation id known) →
      (operation.extracts || operation.reviews) = false ∧
        operation ≠ .finalize ∧ operation ≠ .dispatch := by
    intro pid operation known runs
    have doing := task_of_alone only runs
    simpa [leavesDecision, doing, and_assoc] using test
  constructor
  · rintro pid _ operation known ⟨⟩ runs decides
    rw [(idle 0 operation known runs).1] at decides
    cases decides
  · rintro pid _ operation known ⟨⟩ _ runs _
    obtain ⟨_, finalizes, dispatches⟩ := idle 0 operation known runs
    exact ⟨fun same => absurd same finalizes,
      fun same => absurd same dispatches⟩

/-- An approval that outlives a check of the photo and a cancellation. -/
theorem decision_stands_approved :
    ∃ next final labels decided,
      (program defaultSettings flatMap fun _ => True).system.RunWhen
        (fun world label => Unrevised "g" world label ∧
          Unreturned "g" world label) next labels final ∧
      next.shared.grievances.find "g" = some decided ∧
      decided.reviewStatus = some .approved ∧
      final.shared.statusOf "g" = some .cancelled ∧
      final.shared.Has "g" (·.routingSnapshot = decided.routingSnapshot) ∧
      final.shared.Has "g" (·.reviewStatus = decided.reviewStatus) := by
  let program := program defaultSettings flatMap fun _ => True
  let store : Store := .single "g" windowGrievance
  let job : Job := .request (.loaded
    (.officialAction administrator (decides .approve)) "g" windowGrievance)
  let world : World Store Job := (World.start store).put store 0 (some job)
  have ran : ((program.alone (fun _ _ _ => true) store job
      [⟨1, .plain⟩]).bind fun middle =>
      (program.serial leavesDecision middle.1
        [(.recheckImage "g" false, [⟨2, .plain⟩, ⟨3, .photo .unread⟩]),
         (.cancel "g", [⟨4, .plain⟩, ⟨4, .plain⟩])]).map fun final =>
        (middle.2, final.statusOf "g")) =
      some (none, some .cancelled) := by
    decide +kernel
  obtain ⟨⟨shared, after⟩, first, rest⟩ := Option.bind_eq_some_iff.mp ran
  obtain ⟨last, served, same⟩ := Option.map_eq_some_iff.mp rest
  obtain ⟨done, cancelled⟩ := Prod.mk.inj same
  have only : Process.OnlyRunning world 0 (some job) := by
    have idle : Process.OnlyRunning (World.start store) 0
        (none : Option Job) := by
      intro other
      simp [World.start]
    exact idle.put store (some job)
  have always : ∀ (world : World Store Job) (job : Job) (choice : Choice),
      Process.OnlyRunning world 0 (some job) → true = true →
      Always world (.resume 0 choice : Label Request Choice) :=
    fun _ _ _ _ _ => trivial
  obtain ⟨next, step, rfl, finished⟩ :=
    Process.Program.runWhen_alone always only first
  have taken : program.system.step world (.resume 0 ⟨1, .plain⟩) =
      some next := by
    cases step with
    | cons _ taken rest =>
        cases rest
        exact taken
  have quiet : next.Quiet := by
    rw [show after = none from done] at finished
    exact finished.quiet
  let spares := fun (world : World Store Job)
      (label : Label Request Choice) =>
    Unrevised "g" world label ∧ Unreturned "g" world label
  have permitted : ∀ (world : World Store Job) (job : Job) (choice : Choice),
      Process.OnlyRunning world 0 (some job) →
      leavesDecision world.shared job choice = true →
      spares world (.resume 0 choice) :=
    fun _ _ _ only test => leaves_of_alone only test
  obtain ⟨labels, final, runs, rfl, _⟩ :=
    Process.Program.runWhen_serial (fun _ _ _ _ => leaves_of_spawn)
      permitted quiet served
  have loaded : Runs world 0 (.loaded
      (.officialAction administrator (decides .approve)) "g"
      windowGrievance) := ⟨job, only 0, rfl⟩
  have accepted : Operation.refuses windowGrievance
      (.officialAction administrator (decides .approve)) .plain = false := by
    decide +kernel
  obtain ⟨decided, found, fresh, snapshot, review⟩ :=
    decision_stands taken loaded nofun accepted
  have unrevised := runs.mono fun _ _ permitted => permitted.1
  exact ⟨next, final, labels, decided, runs, found, fresh rfl, cancelled,
    snapshot labels final unrevised, review labels final runs⟩

/-- A decision, and what is stored after it in some run. -/
def Undone (before after : Option (Option ReviewStatus × Option String)) :
    Prop :=
  ∃ world final labels,
    (program defaultSettings flatMap fun _ => True).system.Reachable world ∧
    (program defaultSettings flatMap fun _ => True).system.RunWhen Always
      world labels final ∧
    world.shared.decisionOf "g" = before ∧
    final.shared.decisionOf "g" = after

theorem undone_of_serial (row : Grievance) (action : OfficialDecision)
    (script : List (Request × List Choice))
    {before after : Option (Option ReviewStatus × Option String)}
    (ran : (((program defaultSettings flatMap fun _ => True).serial
      (fun _ _ _ => true) (.single "g" row)
      [(.officialAction "g" administrator (decides action),
        [⟨1, .plain⟩, ⟨1, .plain⟩])]).bind fun middle =>
      ((program defaultSettings flatMap fun _ => True).serial
        (fun _ _ _ => true) middle script).map fun final =>
        (middle.decisionOf "g", final.decisionOf "g")) =
      some (before, after)) : Undone before after := by
  have initial : (program defaultSettings flatMap fun _ => True).initial
      (.single "g" row) := Store.single_initial trivial
  have always : ∀ (world : World Store Job) (job : Job) (choice : Choice),
      Process.OnlyRunning world 0 (some job) → true = true →
      Always world (.resume 0 choice : Label Request Choice) :=
    fun _ _ _ _ _ => trivial
  obtain ⟨world, final, labels, reached, runs, _, first, last⟩ :=
    Process.Program.runs_serial initial (fun _ _ _ _ => trivial) always ran
  exact ⟨world, final, labels, reached, runs, first, last⟩

/-- The citizen's review, a queued re-extraction, the confirmation of a
redirected grievance and the sweep of the windows each undo a decision. -/
theorem decision_undone :
    Undone (some (some .approved, some "streetlight_out"))
        (some (some .citizenReview, some "pothole_surface_damage")) ∧
      Undone (some (some .rejected, some "streetlight_out"))
        (some (some .citizenReview, some "streetlight_out")) ∧
      Undone (some (some .redirected, some "streetlight_out"))
        (some (some .pendingOfficial, some "streetlight_out")) ∧
      Undone (some (some .approved, some "streetlight_out"))
        (some (some .pendingOfficial, some "streetlight_out")) := by
  refine ⟨?_, ?_, ?_, ?_⟩
  · apply undone_of_serial windowGrievance .approve
      [(.updateReview "g" "citizen"
          { categoryId := some "pothole_surface_damage", assetScope := none
            summary := none, clarificationAnswer := none },
        [⟨2, .plain⟩, ⟨2, .plain⟩])]
    decide +kernel
  · apply undone_of_serial windowGrievance .reject
      [(.reextract "g",
        [⟨2, .plain⟩, ⟨3, .extraction streetlightExtraction⟩])]
    decide +kernel
  · apply undone_of_serial
      { windowGrievance with status := .awaitingConfirmation } .redirect
      [(.confirmDraft "g" "citizen",
        [⟨2, .plain⟩, ⟨2, .plain⟩, ⟨2, .plain⟩, ⟨2, .plain⟩])]
    decide +kernel
  · apply undone_of_serial windowGrievance .approve
      [(.sweepExpiredWindows 20,
        [⟨11, .selected ["g"]⟩, ⟨11, .plain⟩, ⟨11, .plain⟩])]
    decide +kernel

end JanSetu.Pipeline
