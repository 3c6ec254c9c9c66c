import JanSetu.Pipeline.Regression

/-!
# What `finalize_grievance` has checked

`finalize_grievance` leaves a grievance to an official by its review status and
its disposition, `dispatch_grievance` by its snapshot.  What was checked of a
grievance is upheld by every write that is neither an extraction nor a review
of a snapshot that has changed; a review of the stored snapshot disables the
dispatch.
-/

namespace JanSetu

/-- The statuses that the sweeps of the worker select. -/
def GrievanceStatus.swept : GrievanceStatus → Bool
  | .pendingWindow => true
  | .dispatching => true
  | _ => false

theorem GrievanceStatus.settled_of_swept {status : GrievanceStatus}
    (swept : status.swept = true) : status.settled = true := by
  cases status <;> first | rfl | cases swept

namespace Pipeline

/-- The grievance that a run of `finalize_grievance` has loaded. -/
def Task.finalizing : Task → Option (String × Grievance)
  | .loaded .finalize id known => some (id, known)
  | .searched id known _ _ => some (id, known)
  | _ => none

/-- The grievance that a run of `dispatch_grievance` has loaded, up to the
call. -/
def Task.unsent : Task → Option (String × Grievance)
  | .loaded .dispatch id known => some (id, known)
  | .dispatching id known => some (id, known)
  | _ => none

def Operation.extracts : Operation → Bool
  | .runPipeline => true
  | .reextract => true
  | _ => false

def Operation.reviews : Operation → Bool
  | .updateReview _ _ => true
  | .officialAction _ _ => true
  | _ => false

/-! ## What `finalize_grievance` has checked -/

/-- The checks of `finalize_grievance`. -/
def Checked (row : Grievance) : Prop :=
  row.reviewStatus ≠ some .pendingOfficial ∧ needsDisposition row = false

/-- What was checked on the first row can be relied on in the second: the
dispatch is disabled there, or what the checks read is as it was.  An official
may be waited for by then if that follows from the disposition. -/
def Upheld (known row : Grievance) : Prop :=
  dispatchDisabled row = true ∨
    row.routingSnapshot = known.routingSnapshot ∧
      row.disposition = known.disposition ∧
      (row.reviewStatus = known.reviewStatus ∨ needsDisposition row = true)

/-- A confirmed grievance that is dispatched only if the checks pass. -/
def Ready (row : Grievance) : Prop :=
  row.confirmedAt ≠ none ∧ (dispatchDisabled row = true ∨ Checked row)

theorem needsDisposition_congr {row other : Grievance}
    (same : row.disposition = other.disposition) :
    needsDisposition row = needsDisposition other := by
  unfold needsDisposition
  rw [same]

theorem Upheld.refl (row : Grievance) : Upheld row row :=
  .inr ⟨rfl, rfl, .inl rfl⟩

theorem Upheld.trans {first second third : Grievance}
    (before : Upheld first second) (after : Upheld second third) :
    Upheld first third := by
  rcases after with disabled | ⟨snapshot, disposition, review⟩
  · exact .inl disabled
  · rcases before with disabled | ⟨snapshot', disposition', review'⟩
    · left
      rw [dispatchDisabled_congr snapshot, disabled]
    · refine .inr ⟨snapshot.trans snapshot',
        disposition.trans disposition', ?_⟩
      rcases review with review | needs
      · rcases review' with review' | needs'
        · exact .inl (review.trans review')
        · right
          rw [needsDisposition_congr disposition, needs']
      · exact .inr needs

/-- The checks of an upheld row pass, unless its dispatch is disabled. -/
theorem Upheld.checked {known row : Grievance} (upheld : Upheld known row)
    (checked : dispatchDisabled known = true ∨ Checked known) :
    dispatchDisabled row = true ∨ Checked row := by
  rcases upheld with disabled | ⟨snapshot, disposition, review⟩
  · exact .inl disabled
  · rcases checked with disabled | ⟨unreviewed, ticket⟩
    · left
      rw [dispatchDisabled_congr snapshot, disabled]
    · have municipal : needsDisposition row = false := by
        rw [needsDisposition_congr disposition, ticket]
      rcases review with review | needs
      · exact .inr ⟨by rw [review]; exact unreviewed, municipal⟩
      · rw [municipal] at needs
        cases needs

section

variable {settings : Settings} {id : String} {known : Grievance}
  {answer : Answer} {operation : Operation}
  {fields : Grievance → Grievance} {next : Grievance → Progress}

/-- A review sets a snapshot that disables the dispatch. -/
theorem Operation.Writes.reviewed
    (writes : operation.Writes settings id known answer fields next)
    (reviews : operation.reviews = true) (row : Grievance) :
    Pipeline.dispatchDisabled (fields row) = true := by
  have disabled : ∀ categoryKey departmentKey disposition,
      (decide ¬ (routingSnapshot categoryKey departmentKey
        (routeForCategory categoryKey) disposition).dispatchEnabled = true) =
        true := by
    intro categoryKey departmentKey disposition
    rw [routingSnapshot_disabled]
    rfl
  cases writes with
  | updateReview => exact disabled _ _ _
  | officialAction => exact disabled _ _ _
  | _ => cases reviews

/-- What the checks read is otherwise written by extractions only, but for the
review status. -/
theorem Operation.Writes.unreviewed
    (writes : operation.Writes settings id known answer fields next)
    (extracts : operation.extracts = false)
    (reviews : operation.reviews = false) :
    (fields known).routingSnapshot = known.routingSnapshot ∧
      (fields known).disposition = known.disposition ∧
      ((fields known).reviewStatus = known.reviewStatus ∨
        operation = .dispatch ∧ Pipeline.dispatchDisabled known = true) := by
  cases writes with
  | runPipeline => cases extracts
  | reextract => cases extracts
  | updateReview => cases reviews
  | officialAction => cases reviews
  | recheckImage proceed check verdict =>
      exact ⟨withReceipt_column settings (fun _ => rfl) _ _ known,
        withReceipt_column settings (fun _ => rfl) _ _ known,
        .inl (withReceipt_column settings (fun _ => rfl) _ _ known)⟩
  | dispatchDisabled disabled => exact ⟨rfl, rfl, .inr ⟨rfl, disabled⟩⟩
  | _ => exact ⟨rfl, rfl, .inl rfl⟩

end

theorem Change.confirmedAt {settings : Settings} {known : Grievance}
    {fields : Grievance → Grievance} (change : Change settings known fields) :
    (fields known).confirmedAt = known.confirmedAt ∨
      (fields known).confirmedAt ≠ none := by
  cases change with
  | wrote writes =>
      left
      cases writes with
      | runPipeline =>
          exact withReceipt_column settings (fun _ => rfl) _ _ known
      | recheckImage =>
          exact withReceipt_column settings (fun _ => rfl) _ _ known
      | _ => rfl
  | confirmed confirms =>
      cases confirms <;> exact .inr (Option.some_ne_none _)
  | registered now => exact .inr (Option.some_ne_none now)
  | _ => exact .inl rfl

/-! ## Steps -/

/-- What is known of a task: a run of `finalize_grievance` goes on with what is
upheld, one of `dispatch_grievance` with a grievance that is ready. -/
structure Store.Secured (store : Store) (task : Task) : Prop where
  upheld : ∀ id known, task.finalizing = some (id, known) →
    store.Has id (Upheld known)
  confirmed : ∀ id known, task.finalizing = some (id, known) →
    known.confirmedAt ≠ none → store.Has id (·.confirmedAt ≠ none)
  checked : ∀ id known confirmedAt duplicate,
    task = .searched id known confirmedAt duplicate → Checked known
  dispatches : ∀ id, task.dispatches = some id → store.Has id Ready
  unsent : ∀ id known, task.unsent = some (id, known) →
    store.Has id (·.routingSnapshot = known.routingSnapshot)

/-- What the condition asks of a step on a grievance that is claimed. -/
def Store.Steady (store : Store) (task : Task) (id : String) : Prop :=
  ∀ operation known, task = .loaded operation id known →
    operation.extracts = false ∧
      (operation.reviews = true →
        store.Every id (·.routingSnapshot = known.routingSnapshot))

/-- A write that changes nothing of what is checked. -/
theorem set_upheld {session : RowSession} {now : Time}
    {change : Grievance → Grievance}
    (snapshot : (change session.known).routingSnapshot =
      session.known.routingSnapshot)
    (disposition : (change session.known).disposition =
      session.known.disposition)
    (review : (change session.known).reviewStatus =
        session.known.reviewStatus ∨
      needsDisposition session.current = true) :
    Upheld session.current (session.set now change).current := by
  have sameSnapshot :=
    RowSession.routingSnapshot_isColumn.set_same session now snapshot
  have sameDisposition :=
    RowSession.disposition_isColumn.set_same session now disposition
  refine .inr ⟨sameSnapshot, sameDisposition, ?_⟩
  rcases review with review | needs
  · exact .inl (RowSession.reviewStatus_isColumn.set_same session now review)
  · right
    rw [needsDisposition_congr sameDisposition, needs]

theorem registeredThen_upheld (session : RowSession)
    (confirmedAt now : Time) {fields : Grievance → Grievance}
    (snapshot : ∀ row, (fields row).routingSnapshot = row.routingSnapshot)
    (disposition : ∀ row, (fields row).disposition = row.disposition)
    (review : ∀ row, (fields row).reviewStatus = row.reviewStatus) :
    Upheld session.current
      (registeredThen session confirmedAt now fields).current := by
  have first : Upheld session.current
      (session.set confirmedAt (registeredFields confirmedAt)).current :=
    set_upheld rfl rfl (.inl rfl)
  exact first.trans
    (set_upheld (snapshot _) (disposition _) (.inl (review _)))

section

variable {settings : Settings} {geometry : Geometry} {store after : Store}
  {now : Time} {answer : Answer} {task : Task} {progress : Progress}
  {id : String}

/-- What was checked of a claimed grievance is upheld by every step. -/
theorem Task.Moves.upheld
    (moves : task.Moves settings geometry store now answer after progress)
    (placed : store.Secured task) (steady : store.Steady task id)
    {origin : Grievance} (before : store.Has id (Upheld origin)) :
    after.Has id (Upheld origin) := by
  refine moves.has ?_ before
  intro known writes current touches here upheld
  apply upheld.trans
  cases touches with
  | @wrote operation _ _ fields _ writes =>
      have found : store.grievances.find id = some current :=
        here.resolve_left (by simp [Task.merges])
      obtain ⟨extracts, reviewing⟩ := steady _ _ rfl
      by_cases reviews : operation.reviews = true
      · left
        have current_known := reviewing reviews current found
        have written : (RowSession.set { known := known, current := current }
            now fields).current.routingSnapshot =
              (fields known).routingSnapshot := by
          rw [RowSession.routingSnapshot_isColumn.set_current]
          simp only [current_known, Column.write_self]
        rw [dispatchDisabled_congr written, writes.reviewed reviews known]
      · obtain ⟨snapshot, disposition, review⟩ :=
          writes.unreviewed extracts (by simpa using reviews)
        rcases review with review | ⟨rfl, disabled⟩
        · exact set_upheld snapshot disposition (.inl review)
        · left
          obtain ⟨row, lookup, same⟩ := placed.unsent id known rfl
          have is : row = current :=
            Option.some.inj (lookup.symm.trans found)
          have kept := RowSession.routingSnapshot_isColumn.set_same
            { known := known, current := current } now snapshot
          rw [dispatchDisabled_congr kept, ← is, dispatchDisabled_congr same,
            disabled]
  | @confirmed _ _ _ _ confirms =>
      have found : store.grievances.find id = some current :=
        here.resolve_left (by simp [Task.merges])
      cases confirms with
      | reviewed => exact set_upheld rfl rfl (.inl rfl)
      | disposed _ needs =>
          obtain ⟨row, lookup, stands⟩ := placed.upheld id known rfl
          have is : row = current :=
            Option.some.inj (lookup.symm.trans found)
          subst is
          rcases stands with disabled | ⟨_, disposition, _⟩
          · left
            have kept := RowSession.routingSnapshot_isColumn.set_same
              { known := known, current := row } now
              (rfl : (awaitingOfficialFields now known).routingSnapshot =
                known.routingSnapshot)
            rw [dispatchDisabled_congr kept, disabled]
          · apply set_upheld rfl rfl
            right
            show needsDisposition row = true
            rw [needsDisposition_congr disposition, needs]
      | priority => exact set_upheld rfl rfl (.inl rfl)
  | openedWindow =>
      exact registeredThen_upheld _ _ _ (fun _ => rfl) (fun _ => rfl)
        fun _ => rfl
  | merged =>
      exact registeredThen_upheld _ _ _ (fun _ => rfl) (fun _ => rfl)
        fun _ => rfl
  | reported => exact set_upheld rfl rfl (.inl rfl)
  | submitted => exact set_upheld rfl rfl (.inl rfl)
  | retried => exact set_upheld rfl rfl (.inl rfl)

/-- A claimed grievance that is ready stays ready. -/
theorem Task.Moves.ready
    (moves : task.Moves settings geometry store now answer after progress)
    (placed : store.Secured task) (steady : store.Steady task id)
    (before : store.Has id Ready) : after.Has id Ready := by
  obtain ⟨row, found, confirmed, checked⟩ := before
  have upheld := moves.upheld placed steady ⟨row, found, Upheld.refl row⟩
  have confirmed := moves.keeps_present
    RowSession.confirmedAt_isColumn (fun _ _ => Change.confirmedAt)
    ⟨row, found, confirmed⟩
  apply (confirmed.and upheld).mono
  rintro later ⟨confirmed, upheld⟩
  exact ⟨confirmed, upheld.checked checked⟩

theorem registeredThen_confirms {session : RowSession}
    {confirmedAt now : Time} {fields : Grievance → Grievance}
    (known : session.known.confirmedAt ≠ none →
      session.current.confirmedAt ≠ none)
    (same : ∀ row, (fields row).confirmedAt = row.confirmedAt) :
    (registeredThen session confirmedAt now fields).current.confirmedAt ≠
      none := by
  have isColumn := RowSession.confirmedAt_isColumn
  have registered : (session.set confirmedAt
      (registeredFields confirmedAt)).current.confirmedAt ≠ none :=
    set_sets isColumn known (Option.some_ne_none confirmedAt)
  exact set_present isColumn registered (.inl (same _))

theorem Task.dispatches_of_unsent {known : Grievance}
    (unsent : task.unsent = some (id, known)) :
    task.dispatches = some id := by
  unfold Task.unsent at unsent
  split at unsent <;> cases unsent <;> rfl

/-- A write that confirms what was checked makes the grievance ready. -/
theorem Store.Wrote.ready {known current : Grievance}
    {writes : RowSession → RowSession}
    (wrote : store.Wrote after id known current writes)
    (upheld : after.Has id (Upheld known)) (checked : Checked known)
    (confirmed : (writes { known := known, current := current }).current.confirmedAt ≠
      none) : after.Has id Ready := by
  have here : after.Has id (·.confirmedAt ≠ none) :=
    ⟨_, wrote.find_self, confirmed⟩
  apply (here.and upheld).mono
  rintro row ⟨confirmed, upheld⟩
  exact ⟨confirmed, upheld.checked (.inr checked)⟩

theorem Task.Moves.keeps_snapshot {snapshot : Option RoutingSnapshot}
    (moves : task.Moves settings geometry store now answer after progress)
    (other : ∀ operation known, task = .loaded operation id known →
      operation.extracts = false ∧ operation.reviews = false)
    (before : store.Has id (·.routingSnapshot = snapshot)) :
    after.Has id (·.routingSnapshot = snapshot) := by
  refine moves.keeps_column RowSession.routingSnapshot_isColumn ?_ ?_ ?_
    before
  · intro fields row concludes
    cases concludes <;> rfl
  · intro operation known fields next doing writes _
    obtain ⟨extracts, reviews⟩ := other operation known doing
    exact (writes.unreviewed extracts reviews).1
  · intro known fields next _ confirms
    cases confirms <;> rfl

/-- A grievance that a sweep will select was one before, or is being dispatched
or opened for the window. -/
theorem Task.Moves.swept
    (moves : task.Moves settings geometry store now answer after progress) :
    after.Every id fun row => row.status.swept = true →
      store.Has id (·.status.swept = true) ∨ task.dispatches = some id ∨
        ∃ known confirmedAt, task = .searched id known confirmedAt none := by
  have isColumn := RowSession.status_isColumn
  refine moves.every (fun _ _ _ _ _ draft => by cases draft) ?_ ?_
  · intro known writes current touches _ before
    -- The status is as it was, or the new one is not selected.
    have other : ∀ status : GrievanceStatus,
        status = current.status ∨ status.swept = false →
        status.swept = true → store.Has id (·.status.swept = true) ∨
          task.dispatches = some id ∨
          ∃ known confirmedAt, task = .searched id known confirmedAt none := by
      rintro status (rfl | unswept) swept
      · exact before swept
      · rw [unswept] at swept
        cases swept
    cases touches with
    | wrote writes =>
        rcases isColumn.set_cases { known := known, current := current } now
          with same | same
        · exact other _ (.inl same)
        · rcases writes.status with ⟨_, unsettled⟩ | kept | ⟨_, rfl | rfl⟩
          · refine other _ (.inr ?_)
            rw [same]
            revert unsettled
            generalize Grievance.status _ = status
            intro unsettled
            cases status <;> first | rfl | cases unsettled
          · exact other _ (.inl (isColumn.set_same _ _ kept))
          · cases writes
            exact other _ (.inr (congrArg _ same))
          · exact fun _ => .inr (.inl rfl)
    | confirmed confirms =>
        rcases isColumn.set_cases { known := known, current := current } _
          with same | same
        · exact other _ (.inl same)
        · refine other _ (.inr ?_)
          rw [same, confirms.status]
          rfl
    | openedWindow => exact fun _ => .inr (.inr ⟨_, _, rfl⟩)
    | merged =>
        exact other _ (.inr (congrArg GrievanceStatus.swept
          (registeredThen_status .duplicate (fun _ => rfl) nofun)))
    | reported => exact other _ (.inl (isColumn.set_same _ _ rfl))
    | submitted => exact fun _ => .inr (.inl rfl)
    | retried => exact fun _ => .inr (.inl rfl)
  · exact fun row found swept => .inl ⟨row, found, swept⟩

end

/-- A task that neither finalizes nor dispatches. -/
theorem Store.Secured.of_idle {store : Store} {task : Task}
    (finalizing : task.finalizing = none)
    (dispatches : task.dispatches = none) : store.Secured task := by
  have searched : ∀ id known confirmedAt duplicate,
      task ≠ .searched id known confirmedAt duplicate := by
    rintro id known confirmedAt duplicate rfl
    cases finalizing
  have unsent : task.unsent = none := by
    unfold Task.unsent
    split
    · cases dispatches
    · cases dispatches
    · rfl
  constructor
  · intro id known same
    rw [finalizing] at same
    cases same
  · intro id known same
    rw [finalizing] at same
    cases same
  · intro id known confirmedAt duplicate same
    exact absurd same (searched id known confirmedAt duplicate)
  · intro id same
    rw [dispatches] at same
    cases same
  · intro id known same
    rw [unsent] at same
    cases same

/-- A task of `dispatch_grievance`, with what it knows up to the call. -/
theorem Store.Secured.of_dispatch {store : Store} {task : Task} {id : String}
    (dispatches : task.dispatches = some id) (ready : store.Has id Ready)
    (unsent : ∀ known, task.unsent = some (id, known) →
      store.Has id (·.routingSnapshot = known.routingSnapshot)) :
    store.Secured task := by
  have same : ∀ other known, task.unsent = some (other, known) →
      other = id := by
    intro other known before
    unfold Task.unsent at before
    split at before <;> cases before <;> exact Option.some.inj dispatches
  constructor
  · intro other known finalizing
    unfold Task.dispatches at dispatches
    split at dispatches <;> cases dispatches <;> cases finalizing
  · intro other known finalizing
    unfold Task.dispatches at dispatches
    split at dispatches <;> cases dispatches <;> cases finalizing
  · rintro other known confirmedAt duplicate rfl
    cases dispatches
  · intro other before
    have is : id = other := Option.some.inj (dispatches.symm.trans before)
    exact is ▸ ready
  · intro other known before
    have is := same other known before
    subst is
    exact unsent known before

section

variable {settings : Settings} {geometry : Geometry} {store after : Store}
  {now : Time} {answer : Answer} {task : Task} {progress : Progress}
  {id : String}

theorem Store.Secured.confirms {known current : Grievance}
    (placed : store.Secured task)
    (finalizing : task.finalizing = some (id, known))
    (found : store.grievances.find id = some current)
    (before : known.confirmedAt ≠ none) : current.confirmedAt ≠ none := by
  obtain ⟨row, found', is⟩ := placed.confirmed id known finalizing before
  exact Option.some.inj (found'.symm.trans found) ▸ is

/-- Whatever a sweep will select is ready. -/
theorem Task.Moves.ready_of_swept {row : Grievance}
    (moves : task.Moves settings geometry store now answer after progress)
    (placed : store.Secured task)
    (ready : ∀ id, store.Has id Ready → after.Has id Ready)
    (upheld : ∀ id known, task.finalizing = some (id, known) →
      after.Has id (Upheld known))
    (before : ∀ id, store.Every id fun row =>
      row.status.swept = true → Ready row)
    (found : after.grievances.find id = some row)
    (swept : row.status.swept = true) : after.Has id Ready := by
  rcases moves.swept row found swept with
    ⟨row', found', swept'⟩ | dispatches | ⟨known, confirmedAt, rfl⟩
  · exact ready id ⟨row', found', before id row' found' swept'⟩
  · exact ready id (placed.dispatches id dispatches)
  · cases moves with
    | openedWindow wrote =>
        refine wrote.ready (upheld id known rfl)
          (placed.checked id known _ _ rfl) ?_
        refine registeredThen_confirms (placed.confirms rfl wrote.found) ?_
        exact fun _ => rfl

/-- What is known of the task that a step leads to. -/
theorem Task.Moves.secured {next : Task}
    (moves : task.Moves settings geometry store now answer after (.more next))
    (placed : store.Secured task)
    (ready : ∀ id, store.Has id Ready → after.Has id Ready)
    (upheld : ∀ id known, task.finalizing = some (id, known) →
      after.Has id (Upheld known)) : after.Secured next := by
  cases moves.leads with
  | created => exact .of_idle rfl rfl
  | @loaded operation id row found =>
      cases operation with
      | finalize =>
          constructor
          · intro _ _ doing
            cases doing
            exact ⟨row, found, Upheld.refl row⟩
          · intro _ _ doing is
            cases doing
            exact ⟨row, found, is⟩
          · intro _ _ _ _ doing
            cases doing
          · intro _ doing
            cases doing
          · intro _ _ doing
            cases doing
      | dispatch =>
          apply Store.Secured.of_dispatch rfl (placed.dispatches _ rfl)
          intro known doing
          cases doing
          exact ⟨row, found, rfl⟩
      | _ => exact .of_idle rfl rfl
  | passed which =>
      rcases which with rfl | rfl | rfl
      · exact .of_idle rfl rfl
      · exact .of_idle rfl rfl
      · exact .of_idle rfl rfl
  | @prioritised id known current _ unreviewed ticket wrote =>
      refine .of_dispatch rfl (wrote.ready (upheld id known rfl)
        ⟨unreviewed, ticket⟩ ?_) (fun _ doing => by cases doing)
      exact set_sets RowSession.confirmedAt_isColumn
        (placed.confirms rfl wrote.found) (Option.some_ne_none _)
  | @searched id known rows after unreviewed ticket grievances =>
      constructor
      · intro _ _ doing
        cases doing
        exact upheld id known rfl
      · intro _ _ doing is
        cases doing
        obtain ⟨row, found, confirmed⟩ := placed.confirmed id known rfl is
        exact ⟨row, by rw [grievances, found], confirmed⟩
      · intro _ _ _ _ doing
        cases doing
        exact ⟨unreviewed, ticket⟩
      · intro _ doing
        cases doing
      · intro _ _ doing
        cases doing
  | @sent id known current _ _ wrote =>
      apply Store.Secured.of_dispatch rfl
        (ready _ (placed.dispatches _ rfl))
      intro knows doing
      cases doing
      have isColumn := RowSession.routingSnapshot_isColumn
      obtain ⟨row, found, snapshot⟩ := placed.unsent id known rfl
      have is : row = current :=
        Option.some.inj (found.symm.trans wrote.found)
      subst is
      let session : RowSession := { known := known, current := row }
      have knows :
          (session.set now dispatchingFields).known.routingSnapshot =
            known.routingSnapshot := isColumn.set_known _ _
      have kept : (session.set now
          dispatchingFields).current.routingSnapshot =
            row.routingSnapshot := isColumn.set_same _ _ rfl
      exact ⟨_, wrote.find_self,
        kept.trans (snapshot.trans knows.symm)⟩
  | called =>
      exact .of_dispatch rfl (ready _ (placed.dispatches _ rfl))
        fun _ doing => by cases doing
  | accepted =>
      exact .of_dispatch rfl (ready _ (placed.dispatches _ rfl))
        fun _ doing => by cases doing
  | refused =>
      exact .of_dispatch rfl (ready _ (placed.dispatches _ rfl))
        fun _ doing => by cases doing

end

end Pipeline

end JanSetu
