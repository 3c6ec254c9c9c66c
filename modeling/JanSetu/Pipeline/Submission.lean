import JanSetu.Pipeline.Invariant

/-!
# The dispatcher accepts a grievance once

`dispatch_grievance` looks neither at the status nor at the reference of the
row it loads.  In a run without crashes the dispatcher accepts each grievance
at most once when no two runs of `dispatch_grievance` on it overlap, none
begins on a grievance that has a reference, and the commit of an accepted
submission does not fail.  What was accepted is then either in the row or in
the hands of the one process that is about to write it there.
-/

namespace JanSetu.Pipeline

open Process (Label)

def Entry.accepts (id : String) : Entry → Bool
  | .accepted other _ => other = id
  | _ => false

/-- How often the dispatcher has accepted the grievance. -/
def Store.acceptances (store : Store) (id : String) : Nat :=
  store.journal.countP (Entry.accepts id)

def CrashFree (_ : World Store Job) (label : Label Request Choice) : Prop :=
  ∀ pid, label ≠ .crash pid

/-- The steps under which a grievance is accepted once. -/
def OneSender (world : World Store Job) :
    Label Request Choice → Prop
  | .spawn _ _ => True
  | .crash _ => False
  | .resume pid choice =>
      (∀ id known ref, Runs world pid (.accepted id known ref) →
        choice.answer ≠ .raises) ∧
      ∀ id, Runs world pid (.opened .dispatch id) →
        choice.answer ≠ .raises →
        world.shared.Every id (·.dispatchRef = none) ∧
          ∀ other right known, Runs world other right →
            right.sending ≠ some (id, known)

section

variable {settings : Settings} {geometry : Geometry} {store after : Store}
  {now : Time} {answer : Answer} {task : Task} {progress : Progress}
  {id : String}

theorem Task.Moves.acceptances
    (moves : task.Moves settings geometry store now answer after progress)
    (id : String) :
    after.acceptances id = store.acceptances id ∨
      (∃ known ref, task = .calling id known ∧
        progress = .more (.accepted id known ref)) ∧
      after.acceptances id = store.acceptances id + 1 := by
  have same : after.journal = store.journal →
      after.acceptances id = store.acceptances id := by
    intro journal
    unfold Store.acceptances
    rw [journal]
  have recorded : ∀ entry : Entry, entry.accepts id = false →
      after.journal = entry :: store.journal →
      after.acceptances id = store.acceptances id := by
    intro entry other journal
    unfold Store.acceptances
    rw [journal, List.countP_cons_of_neg]
    simp [other]
  cases moves with
  | created _ _ _ journal => exact .inl (same journal)
  | tapped => exact .inl (recorded (.confirmed _) rfl rfl)
  | loaded => exact .inl rfl
  | missing => exact .inl rfl
  | returned => exact .inl rfl
  | confirming => exact .inl rfl
  | skipped => exact .inl rfl
  | wrote _ wrote => exact .inl (same wrote.journal)
  | confirmed _ wrote =>
      exact .inl (recorded (.confirmed _) rfl wrote.journal)
  | searched _ _ _ journal => exact .inl (same journal)
  | openedWindow wrote =>
      exact .inl (recorded (.confirmed _) rfl wrote.journal)
  | merged wrote wroteMaster =>
      exact .inl (recorded (.confirmed _) rfl
        (wroteMaster.journal.trans wrote.journal))
  | called => exact .inl (recorded (.called _ _ _) rfl rfl)
  | @accepted target ref known =>
      by_cases accepts : target = id
      · subst accepts
        refine .inr ⟨⟨known, ref, rfl, rfl⟩, ?_⟩
        unfold Store.acceptances
        rw [Store.record_journal, List.countP_cons_of_pos]
        simp [Entry.accepts]
      · exact .inl (recorded (.accepted target ref)
          (decide_eq_false accepts) rfl)
  | refused => exact .inl rfl
  | submitted wrote => exact .inl (same wrote.journal)
  | retried wrote => exact .inl (same wrote.journal)

/-! ## The reference is not lost -/

theorem Change.dispatchRef {known : Grievance}
    {fields : Grievance → Grievance} (change : Change settings known fields) :
    (fields known).dispatchRef = known.dispatchRef ∨
      (fields known).dispatchRef ≠ none := by
  cases change with
  | wrote writes =>
      left
      cases writes with
      | runPipeline =>
          exact withReceipt_column settings (fun _ => rfl) _ _ known
      | recheckImage =>
          exact withReceipt_column settings (fun _ => rfl) _ _ known
      | _ => rfl
  | confirmed confirms => cases confirms <;> exact .inl rfl
  | submitted ref => exact .inr (Option.some_ne_none ref)
  | _ => exact .inl rfl

theorem Task.Moves.keeps_dispatchRef
    (moves : task.Moves settings geometry store now answer after progress)
    (before : store.Has id (·.dispatchRef ≠ none)) :
    after.Has id (·.dispatchRef ≠ none) :=
  moves.keeps_present RowSession.dispatchRef_isColumn
    (fun _ _ => Change.dispatchRef) before

end

/-! ## No two runs of `dispatch_grievance` overlap -/

def oneSender : TaskInvariant :=
  { shared := fun _ => True
    own := fun _ task => ∀ id known, task.sending = some (id, known) →
      known.dispatchRef = none
    waiting := fun _ _ => True
    pair := fun left right => ∀ id known other,
      left.sending = some (id, known) → right.sending ≠ some (id, other) }

theorem oneSender_enters_idle {world : World Store Job} {pid : Nat}
    {store : Store} {task : Task} (idle : task.sending = none) :
    oneSender.Enters world pid store task := by
  constructor
  · intro id known sends
    rw [idle] at sends
    cases sends
  · intro other right _ _
    constructor
    · intro id known other sends
      rw [idle] at sends
      cases sends
    · intro id known other _ sends
      rw [idle] at sends
      cases sends

section

variable {settings : Settings} {geometry : Geometry}
  {admissible : Grievance → Prop} {world : World Store Job}

theorem oneSender_holds
    (reachable : (program settings geometry admissible).system.ReachableWhen
      OneSender world) : oneSender.Holds world := by
  refine TaskInvariant.holds (fun _ _ => trivial) ?sameRows ?started ?selected
    ?dispatches ?moved reachable
  case sameRows =>
    exact fun _ _ _ => ⟨fun _ => trivial, fun _ own => own, fun _ _ => trivial⟩
  case started =>
    intro world pid request task _ _ _ doing
    apply oneSender_enters_idle
    cases request <;> cases doing <;> rfl
  case selected => exact fun _ _ _ _ _ _ _ _ _ _ => trivial
  case dispatches => exact fun _ _ _ _ _ => oneSender_enters_idle rfl
  case moved =>
    intro world pid task choice after progress _ holding permitted runs plain
      moves
    refine ⟨trivial, fun _ _ _ _ own => own, fun _ _ => trivial, ?_⟩
    rintro next rfl
    constructor
    · intro id knows sends
      rcases moves.sending sends with
        ⟨rfl, _, found⟩ | ⟨known, _, _, before, rfl⟩
      · exact (permitted.2 id runs plain).1 knows found
      · exact holding.own runs id known before
    · intro other right different runsOther
      -- The others keep away from what this process sends, and sent before.
      have apart : ∀ id known found, next.sending = some (id, known) →
          right.sending ≠ some (id, found) := by
        intro id knows found sends
        rcases moves.sending sends with
          ⟨rfl, _, _⟩ | ⟨known, _, _, before, _⟩
        · exact (permitted.2 id runs plain).2 other right found runsOther
        · exact holding.pair (Ne.symm different) runs runsOther id known found
            before
      exact ⟨apart, fun id known found sends sends' =>
        apart id found known sends' sends⟩

/-! ## Whatever was accepted is written -/

/-- Accepted, and not in the row. -/
def Unwritten (store : Store) (id : String) : Prop :=
  store.acceptances id ≠ 0 ∧ store.Every id (·.dispatchRef = none)

def WillWrite (job : Job) (id : String) : Prop :=
  ∃ known ref, job.task = some (.accepted id known ref)

theorem unwritten_carried
    (reachable : (program settings geometry admissible).system.ReachableWhen
      OneSender world) : Process.Carried Unwritten WillWrite world := by
  refine Process.due_carried ?initially ?resumed ?crashed reachable
  case initially =>
    rintro store ⟨_, journal, _⟩ id ⟨accepted, _⟩
    apply accepted
    unfold Store.acceptances
    rw [journal]
    rfl
  case resumed =>
    intro world pid choice job after next id reached permitted running resumed
      due
    have unchanged : world.shared.SameRows after →
        Unwritten world.shared id := by
      intro same
      constructor
      · intro zero
        apply due.1
        unfold Store.acceptances at zero ⊢
        rw [same.2, zero]
      · intro row found
        exact due.2 row (by rw [same.1, found])
    rcases Job.resume_cases resumed with
      ⟨task, progress, doing, moving, rfl⟩ | ⟨rfl, idle, _⟩
    · have runs : Runs world pid task := ⟨job, running, doing⟩
      rcases Task.resume_cases moving with ⟨raises, rfl, _⟩ | ⟨_, moves⟩
      · refine .inr (.inr ⟨unchanged (task.release_sameRows _), ?_⟩)
        rintro ⟨known, ref, accepted⟩
        exact absurd raises
          (permitted.1 id known ref ⟨job, running, accepted⟩)
      · by_cases writes : ∃ known ref, task = .accepted id known ref
        · -- The submission is committed, so that it is no longer due.
          obtain ⟨known, ref, rfl⟩ := writes
          have unknown : known.dispatchRef = none :=
            (oneSender_holds reached).own runs id known rfl
          generalize choice.answer = answer at moves
          cases moves with
          | @submitted _ _ _ current _ _ wrote =>
              have missing : (RowSession.set
                  { known := known, current := current } choice.now
                  (submittedFields ref)).current.dispatchRef = none :=
                due.2 _ wrote.find_self
              have written : (submittedFields ref known).dispatchRef ≠
                  known.dispatchRef := by
                rw [unknown]
                exact Option.some_ne_none ref
              rw [RowSession.dispatchRef_isColumn.set_new _ choice.now
                written] at missing
              cases missing
        · have idle : ¬ WillWrite job id := by
            rintro ⟨known, ref, accepted⟩
            exact writes ⟨known, ref,
              Option.some.inj (doing.symm.trans accepted)⟩
          have unreferenced : world.shared.Every id (·.dispatchRef = none) := by
            intro row found
            by_contra present
            obtain ⟨later, lookup, kept⟩ :=
              moves.keeps_dispatchRef ⟨row, found, present⟩
            exact kept (due.2 later lookup)
          rcases moves.acceptances id with same | ⟨⟨known, ref, _, rfl⟩, _⟩
          · exact .inr (.inr ⟨⟨same ▸ due.1, unreferenced⟩, idle⟩)
          · obtain ⟨next, same, carries⟩ :=
              job.next_more (.accepted id known ref)
            exact .inl ⟨next, same, known, ref, carries⟩
    · refine .inr (.inr ⟨due, ?_⟩)
      rintro ⟨known, ref, accepted⟩
      rw [idle] at accepted
      cases accepted
  case crashed =>
    intro world pid job id _ permitted
    exact permitted.elim

/-! ## At most one acceptance -/

def acceptedOnce : TaskInvariant :=
  { shared := fun store => ∀ id, store.acceptances id ≤ 1
    own := fun store task => ∀ id known, task.sending = some (id, known) →
      (∃ ref, task = .accepted id known ref) ∨ store.acceptances id = 0
    waiting := fun _ _ => True
    pair := fun _ _ => True }

theorem acceptedOnce_enters {world : World Store Job} {pid : Nat}
    {store : Store} {task : Task} (own : acceptedOnce.own store task) :
    acceptedOnce.Enters world pid store task :=
  ⟨own, fun _ _ _ _ => ⟨trivial, trivial⟩⟩

theorem acceptedOnce_holds
    (reachable : (program settings geometry admissible).system.ReachableWhen
      OneSender world) : acceptedOnce.Holds world := by
  refine TaskInvariant.holds ?initially ?sameRows ?started ?selected ?dispatches
    ?moved reachable
  case initially =>
    rintro store ⟨_, journal, _⟩ id
    unfold Store.acceptances
    rw [journal]
    exact Nat.zero_le 1
  case sameRows =>
    intro store after same
    have counts : ∀ id, after.acceptances id = store.acceptances id := by
      intro id
      unfold Store.acceptances
      rw [same.2]
    refine ⟨?_, ?_, fun _ _ => trivial⟩
    · intro before id
      rw [counts]
      exact before id
    · intro task before id known sends
      rw [counts]
      exact before id known sends
  case started =>
    intro world pid request task _ _ _ doing
    apply acceptedOnce_enters
    intro id known sends
    cases request <;> cases doing <;> cases sends
  case selected => exact fun _ _ _ _ _ _ _ _ _ _ => trivial
  case dispatches =>
    intro world pid store id _
    apply acceptedOnce_enters
    intro id known sends
    cases sends
  case moved =>
    intro world pid task choice after progress reached holding permitted runs
      plain moves
    have senders := oneSender_holds reached
    constructor
    · intro id
      have before := holding.shared id
      rcases moves.acceptances id with same | ⟨⟨known, ref, rfl, _⟩, more⟩
      · rw [same]
        exact before
      · rcases holding.own runs id known rfl with ⟨_, same⟩ | zero
        · cases same
        · omega
    · intro other found different runsOther before id known sends
      rcases before id known sends with accepted | zero
      · exact .inl accepted
      · right
        rcases moves.acceptances id with same | ⟨⟨known', ref, rfl, _⟩, _⟩
        · rw [same, zero]
        · exact absurd sends
            (senders.pair (Ne.symm different) runs runsOther id known' known
              rfl)
    · exact fun _ _ => trivial
    · rintro next rfl
      apply acceptedOnce_enters
      intro id knows sends
      rcases moves.sending sends with
        ⟨rfl, rfl, found⟩ | ⟨known, status, time, before, rfl⟩
      · -- Nothing was accepted before, or somebody would still have to
        -- write it.
        right
        obtain ⟨unreferenced, nobody⟩ := permitted.2 id runs plain
        by_contra accepted
        obtain ⟨other, job, running, known, ref, doing⟩ :=
          unwritten_carried reached id ⟨accepted, unreferenced⟩
        exact nobody other (.accepted id known ref) known
          ⟨job, running, doing⟩ rfl
      · rcases holding.own runs id known before with ⟨ref, rfl⟩ | zero
        · generalize more : Progress.more next = progress at moves
          cases moves with
          | submitted => cases more
        · rcases moves.acceptances id with same | ⟨⟨known', ref, _, more⟩, _⟩
          · exact .inr (same.trans zero)
          · cases more
            cases sends
            exact .inl ⟨ref, rfl⟩

/-- Without crashes, the dispatcher accepts each grievance at most once. -/
theorem accepted_at_most_once
    (reachable : (program settings geometry admissible).system.ReachableWhen
      OneSender world) (id : String) :
    world.shared.acceptances id ≤ 1 :=
  (acceptedOnce_holds reachable).shared id

end

/-! ## A run that keeps the condition, and one that does not -/

/-- A process that is alone keeps the condition unless it opens a grievance
that has been submitted, or fails to write what was accepted. -/
def sendsNew (store : Store) (job : Job) (choice : Choice) : Bool :=
  match job.task with
  | some (.opened .dispatch id) =>
      (store.grievances.find id).all (·.dispatchRef = none)
  | some (.accepted _ _ _) => choice.answer ≠ .raises
  | _ => true

theorem oneSender_of_alone {world : World Store Job} {job : Job}
    {choice : Choice} (only : Process.OnlyRunning world 0 (some job))
    (test : sendsNew world.shared job choice = true) :
    OneSender world (.resume 0 choice) := by
  constructor
  · intro id known ref runs
    simpa [sendsNew, task_of_alone only runs] using test
  · intro id runs _
    have doing := task_of_alone only runs
    constructor
    · intro row found
      simpa [sendsNew, doing, found] using test
    · intro other right known runsOther sends
      have same : Task.opened .dispatch id = right :=
        Option.some.inj (doing.symm.trans (task_of_alone only runsOther))
      subst same
      cases sends

theorem accepted_at_most_once_swept :
    ∃ world, (program defaultSettings flatMap fun _ => True).system.ReachableWhen
        OneSender world ∧
      world.shared.acceptances "g" ≤ 1 ∧
      world.shared.acceptances "g" = 1 := by
  have ran : ((program defaultSettings flatMap fun _ => True).serial
      sendsNew (.single "g" reviewedGrievance)
      [(.confirmDraft "g" "citizen",
        [⟨1, .plain⟩, ⟨1, .plain⟩, ⟨1, .plain⟩, ⟨1, .plain⟩, ⟨2, .plain⟩]),
       (.sweepExpiredWindows 20,
        [⟨days 1 + 2, .selected ["g"]⟩, ⟨days 1 + 3, .plain⟩,
         ⟨days 1 + 3, .plain⟩, ⟨days 1 + 3, .plain⟩,
         ⟨days 1 + 4, .refused⟩, ⟨days 1 + 4, .plain⟩]),
       (.sweepStuckDispatching 20,
        [⟨days 1 + 5, .selected ["g"]⟩, ⟨days 1 + 5, .plain⟩,
         ⟨days 1 + 5, .plain⟩, ⟨days 1 + 5, .plain⟩,
         ⟨days 1 + 6, .accepted "MUN-1"⟩,
         ⟨days 1 + 6, .plain⟩])]).map (·.acceptances "g") = some 1 := by
    decide +kernel
  have initial : (program defaultSettings flatMap fun _ => True).initial
      (.single "g" reviewedGrievance) := Store.single_initial trivial
  obtain ⟨world, reached, _, once⟩ :=
    Process.Program.reachable_serial initial (fun _ _ _ _ => trivial)
      (fun _ _ _ => oneSender_of_alone) ran
  exact ⟨world, reached, accepted_at_most_once reached "g", once⟩

/-- The sweep finds a grievance whose dispatcher has not answered yet. -/
theorem accepted_twice :
    ∃ world, (program defaultSettings flatMap fun _ => True).system.ReachableWhen
        CrashFree world ∧
      world.shared.acceptances "g" = 2 := by
  have ran : ((program defaultSettings flatMap fun _ => True).system.run
      (World.start (.single "g"
        { reviewedGrievance with priority := some .priority }))
      [.spawn 0 (.confirmDraft "g" "citizen"),
       .resume 0 ⟨1, .plain⟩, .resume 0 ⟨1, .plain⟩, .resume 0 ⟨1, .plain⟩,
       .resume 0 ⟨1, .plain⟩, .resume 0 ⟨1, .plain⟩, .resume 0 ⟨1, .plain⟩,
       .resume 0 ⟨1, .plain⟩,
       .spawn 1 (.sweepStuckDispatching 20),
       .resume 1 ⟨2, .selected ["g"]⟩, .resume 1 ⟨2, .plain⟩,
       .resume 1 ⟨2, .plain⟩, .resume 1 ⟨2, .plain⟩,
       .resume 1 ⟨3, .accepted "MUN-1"⟩, .resume 1 ⟨3, .plain⟩,
       .resume 0 ⟨4, .accepted "MUN-2"⟩, .resume 0 ⟨4, .plain⟩]).map
      (fun world => world.shared.acceptances "g") = some 2 := by
    decide +kernel
  have initial : (program defaultSettings flatMap fun _ => True).system.initial
      (World.start (.single "g"
        { reviewedGrievance with priority := some .priority })) :=
    ⟨_, Store.single_initial trivial, rfl⟩
  refine Transition.System.reachableWhen_of_run_map initial ?_ ran
  intro label member world pid same
  subst same
  simp at member

end JanSetu.Pipeline
