import JanSetu.Pipeline.Checks

/-!
# Who takes a confirmed grievance further

A grievance that is neither terminal, nor selected by a sweep, nor in the hands
of an official waits for the process that is about to take it further.  The
operations are `finalize_grievance`, `dispatch_grievance`, the sweeps,
`official_action`, `update_review` and `reextract_grievance`; a step that makes
a confirmed grievance wait is one of the process that goes on with it.
-/

namespace JanSetu

/-- The review statuses of a grievance that an official has to decide, or has
decided. -/
def ReviewStatus.official : ReviewStatus → Bool
  | .citizenReview => false
  | _ => true

namespace Pipeline

open Process (Label)

def Official (row : Grievance) : Prop :=
  row.reviewStatus.any ReviewStatus.official = true

/-- Terminal, selected by a sweep, or in the hands of an official. -/
def Owned (row : Grievance) : Prop :=
  match row.status with
  | .submitted => True
  | .duplicate => True
  | .dispatchFailed => True
  | .pendingWindow => row.windowExpiresAt ≠ none
  | .dispatching => row.dispatchAttempts < maxDispatchAttempts
  | .registered => Official row
  | _ => False

/-- The citizen has confirmed the grievance. -/
def Store.Confirmed (store : Store) (id : String) : Prop :=
  .confirmed id ∈ store.journal

/-- Not registered, or registered with nobody to look at it. -/
def Waiting (row : Grievance) : Prop :=
  row.status.settled = false ∨ row.status = .registered ∧ ¬ Official row

def Store.Unattended (store : Store) (id : String) : Prop :=
  store.Confirmed id ∧ store.Has id Waiting

/-- The operations on a grievance that awaits confirmation or has been
confirmed. -/
def Operation.proceeds : Operation → Bool
  | .reextract => true
  | .updateReview _ _ => true
  | .officialAction _ _ => true
  | .confirmDraft _ => true
  | .finalize => true
  | .dispatch => true
  | _ => false

def Task.proceeds : Task → Bool
  | .createDraft _ => false
  | .opened operation _ => operation.proceeds
  | .loaded operation _ _ => operation.proceeds
  | _ => true

/-- The grievance that the process is about to take further. -/
def Task.attends : Task → Option String
  | .opened .finalize id => some id
  | .loaded .finalize id _ => some id
  | .searched id _ _ _ => some id
  | .opened .dispatch id => some id
  | .loaded .dispatch id known =>
      if known.status = .dispatching then none else some id
  | _ => none

/-- The grievance that the process leaves to the official it knows of. -/
def Task.entrusts : Task → Option String
  | .loaded .finalize id known =>
      if known.reviewStatus = some .pendingOfficial then some id else none
  | .loaded .dispatch id known =>
      if known.reviewStatus = some .pendingOfficial then some id else none
  | _ => none

/-- A review that gives the grievance back to the citizen, and writes so. -/
def Operation.returns (known : Grievance) (operation : Operation)
    (answer : Answer) : Bool :=
  known.reviewStatus ≠ some .citizenReview &&
    match operation, answer with
    | .updateReview _ body, _ =>
        match UpdateReview.accepted body known with
        | some (categoryKey, assetScope) =>
            !(UpdateReview.policy categoryKey assetScope
              known).needsOfficialReview
        | none => false
    | .reextract, .extraction extraction =>
        !(Reextract.policy known extraction).needsOfficialReview
    | _, _ => false

/-- The step ends the process by a crash or an exception. -/
def Fails (pid : Nat) : Label Request Choice → Prop
  | .spawn _ _ => False
  | .resume other choice => other = pid ∧ choice.answer = .raises
  | .crash other => other = pid

/-- Only these operations take steps. -/
def Proceeding (world : World Store Job) (label : Label Request Choice) :
    Prop :=
  ∀ pid choice task, label = .resume pid choice → Runs world pid task →
    task.proceeds = true

/-- The steps under which no confirmed grievance is orphaned. -/
structure Attentive (world : World Store Job)
    (label : Label Request Choice) : Prop where
  proceeds : Proceeding world label
  survives : ∀ pid task id, Fails pid label → Runs world pid task →
    task.attends = some id → world.shared.Unattended id →
    ∃ other right, other ≠ pid ∧ Runs world other right ∧
      right.attends = some id
  reviews : ∀ pid choice operation id known, label = .resume pid choice →
    Runs world pid (.loaded operation id known) →
    operation.returns known choice.answer = true →
    (world.shared.Every id fun row =>
      row.status = .registered → ¬ Official row) ∧
    ∀ other right, Runs world other right → right.entrusts ≠ some id
  attempts : ∀ pid choice id known, label = .resume pid choice →
    choice.answer ≠ .raises → Runs world pid (.loaded .dispatch id known) →
    known.status ≠ .dispatching → dispatchDisabled known = false →
    world.shared.Every id (·.dispatchAttempts < maxDispatchAttempts)

/-! ## One write of a review -/

section

variable {settings : Settings} {id : String} {known : Grievance}
  {answer : Answer} {operation : Operation}
  {fields : Grievance → Grievance} {next : Grievance → Progress}

/-- A review is left alone, given to an official, or given back to the
citizen. -/
theorem Operation.Writes.review
    (writes : operation.Writes settings id known answer fields next)
    (proceeds : operation.proceeds = true) :
    (fields known).reviewStatus = known.reviewStatus ∨
      Official (fields known) ∨ operation.returns known answer = true := by
  have policy : ∀ decision : RoutingDecision,
      some (reviewStatusOf decision) = known.reviewStatus ∨
        (some (reviewStatusOf decision)).any ReviewStatus.official = true ∨
        (known.reviewStatus ≠ some .citizenReview &&
          !decision.needsOfficialReview) = true := by
    intro decision
    unfold reviewStatusOf
    cases decision.needsOfficialReview with
    | true => exact .inr (.inl rfl)
    | false =>
        by_cases same : known.reviewStatus = some .citizenReview
        · exact .inl same.symm
        · exact .inr (.inr (by simpa using same))
  cases writes with
  | reextract extraction route =>
      exact policy (Reextract.policy known extraction)
  | updateReview userId body categoryKey assetScope accepted =>
      rcases policy (UpdateReview.policy categoryKey assetScope known) with
        same | official | returned
      · exact .inl same
      · exact .inr (.inl official)
      · right
        right
        simpa only [Operation.returns, accepted] using returned
  | officialAction official body categoryKey =>
      right
      left
      show (some (OfficialAction.reviewStatus body.action)).any
        ReviewStatus.official = true
      cases body.action <;> rfl
  | dispatchDisabled => exact .inr (.inl rfl)
  | dispatching => exact .inl rfl
  | _ => cases proceeds

/-- Reviews leave the status alone, dispatches do not. -/
theorem Operation.Writes.proceeding
    (writes : operation.Writes settings id known answer fields next)
    (proceeds : operation.proceeds = true) :
    (fields known).status = known.status ∨ operation = .dispatch := by
  cases writes with
  | reextract => exact .inl rfl
  | updateReview => exact .inl rfl
  | officialAction => exact .inl rfl
  | dispatchDisabled => exact .inr rfl
  | dispatching => exact .inr rfl
  | _ => cases proceeds

end

/-- A review that stays with an official, or is given to one. -/
theorem set_official {session : RowSession} {now : Time}
    {change : Grievance → Grievance} (before : Official session.current)
    (changes : (change session.known).reviewStatus =
        session.known.reviewStatus ∨ Official (change session.known)) :
    Official (session.set now change).current := by
  unfold Official
  rcases changes with same | official
  · rw [RowSession.reviewStatus_isColumn.set_same session now same]
    exact before
  · rcases RowSession.reviewStatus_isColumn.set_cases session now with
      same | same
    · rw [same]
      exact before
    · rw [same]
      exact official

theorem Change.windowExpiresAt {settings : Settings} {known : Grievance}
    {fields : Grievance → Grievance} (change : Change settings known fields) :
    (fields known).windowExpiresAt = known.windowExpiresAt ∨
      (fields known).windowExpiresAt ≠ none := by
  cases change with
  | wrote writes =>
      left
      cases writes with
      | runPipeline =>
          exact withReceipt_column settings (fun _ => rfl) _ _ known
      | recheckImage =>
          exact withReceipt_column settings (fun _ => rfl) _ _ known
      | _ => rfl
  | confirmed confirms => cases confirms <;> exact .inl rfl
  | pendingWindow expires => exact .inr (Option.some_ne_none expires)
  | _ => exact .inl rfl

/-! ## What rows and tasks keep -/

/-- What a sweep is to select can be selected. -/
structure Sound (row : Grievance) : Prop where
  kept : row.status ≠ .cancelled
  expires : row.status = .pendingWindow → row.windowExpiresAt ≠ none
  attempts : row.status = .dispatching →
    row.dispatchAttempts < maxDispatchAttempts

theorem Sound.owned {row : Grievance} (sound : Sound row)
    (attended : ¬ Waiting row) : Owned row := by
  obtain ⟨kept, expires, attempts⟩ := sound
  have settled : row.status.settled = true := by
    by_contra unsettled
    exact attended (.inl (by simpa using unsettled))
  have official : row.status = .registered → Official row := by
    intro registered
    by_contra unofficial
    exact attended (.inr ⟨registered, unofficial⟩)
  unfold Owned
  cases status : row.status with
  | submitted => trivial
  | duplicate => trivial
  | dispatchFailed => trivial
  | pendingWindow => exact expires status
  | dispatching => exact attempts status
  | registered => exact official status
  | cancelled => exact absurd status kept
  | _ =>
      rw [status] at settled
      cases settled

theorem Sound.of_unswept {row : Grievance}
    (unswept : row.status.swept = false) (kept : row.status ≠ .cancelled) :
    Sound row := by
  constructor
  · exact kept
  · intro pending
    rw [pending] at unswept
    cases unswept
  · intro dispatching
    rw [dispatching] at unswept
    cases unswept

theorem Sound.of_columns {row after : Grievance} (sound : Sound row)
    (status : after.status = row.status)
    (attempts : after.dispatchAttempts = row.dispatchAttempts)
    (window : after.windowExpiresAt = row.windowExpiresAt) :
    Sound after := by
  constructor
  · rw [status]
    exact sound.kept
  · intro pending
    rw [window]
    exact sound.expires (status.symm.trans pending)
  · intro dispatching
    rw [attempts]
    exact sound.attempts (status.symm.trans dispatching)

/-- The grievance whose dispatch was committed, as the process knows it. -/
def Task.sent : Task → Option (String × Grievance)
  | .dispatching id known => some (id, known)
  | .calling id known => some (id, known)
  | .accepted id known _ => some (id, known)
  | .refused id known => some (id, known)
  | _ => none

structure Store.Attending (store : Store) (task : Task) : Prop where
  sent : ∀ id known, task.sent = some (id, known) →
    known.status = .dispatching
  entrusted : ∀ id, task.entrusts = some id → store.Has id Official
  windowed : ∀ id known, task.finalizing = some (id, known) →
    known.windowExpiresAt ≠ none → store.Has id (·.windowExpiresAt ≠ none)

section

variable {settings : Settings} {geometry : Geometry} {store after : Store}
  {now : Time} {answer : Answer} {task : Task} {progress : Progress}
  {id : String}

theorem Task.Moves.keeps_official
    (moves : task.Moves settings geometry store now answer after progress)
    (proceeds : task.proceeds = true)
    (spared : ∀ operation known, task = .loaded operation id known →
      operation.returns known answer = false)
    (before : store.Has id Official) : after.Has id Official := by
  refine moves.has ?_ before
  intro known writes current touches _ official
  cases touches with
  | wrote writes =>
      rcases writes.review proceeds with same | given | returned
      · exact set_official official (.inl same)
      · exact set_official official (.inr given)
      · rw [spared _ _ rfl] at returned
        cases returned
  | confirmed confirms =>
      cases confirms with
      | reviewed => exact set_official official (.inl rfl)
      | disposed => exact set_official official (.inr rfl)
      | priority => exact set_official official (.inl rfl)
  | openedWindow =>
      exact set_official (set_official official (.inl rfl)) (.inl rfl)
  | merged =>
      exact set_official (set_official official (.inl rfl)) (.inl rfl)
  | reported => exact set_official official (.inl rfl)
  | submitted => exact set_official official (.inl rfl)
  | retried => exact set_official official (.inl rfl)

/-- A flush that leaves the attempts and the window alone, and sets at most a
status that no sweep selects. -/
theorem Sound.set {session : RowSession} {now : Time}
    {change : Grievance → Grievance} (sound : Sound session.current)
    (status : (change session.known).status = session.known.status ∨
      (change session.known).status.swept = false ∧
        (change session.known).status ≠ .cancelled)
    (attempts : (change session.known).dispatchAttempts =
      session.known.dispatchAttempts)
    (window : (change session.known).windowExpiresAt =
      session.known.windowExpiresAt) :
    Sound (session.set now change).current := by
  have stays : (session.set now change).current.status =
      session.current.status → Sound (session.set now change).current := by
    intro same
    exact sound.of_columns same
      (RowSession.dispatchAttempts_isColumn.set_same session now attempts)
      (RowSession.windowExpiresAt_isColumn.set_same session now window)
  rcases status with same | ⟨unswept, kept⟩
  · exact stays (RowSession.status_isColumn.set_same session now same)
  · rcases RowSession.status_isColumn.set_cases session now with same | same
    · exact stays same
    · apply Sound.of_unswept
      · rw [same]
        exact unswept
      · rw [same]
        exact kept

/-- A grievance that is being dispatched, with attempts left. -/
theorem Sound.of_dispatching {row : Grievance}
    (status : row.status = .dispatching)
    (attempts : row.dispatchAttempts < maxDispatchAttempts) : Sound row := by
  constructor
  · rw [status]
    exact nofun
  · intro pending
    rw [status] at pending
    cases pending
  · exact fun _ => attempts

theorem set_dispatching (session : RowSession) (now : Time)
    (changed : session.known.status ≠ .dispatching) :
    (session.set now dispatchingFields).current.status = .dispatching :=
  RowSession.status_isColumn.set_new session now (Ne.symm changed)

theorem set_submitted (session : RowSession) {now : Time} {ref : String}
    (dispatching : session.known.status = .dispatching) :
    (session.set now (submittedFields ref)).current.status = .submitted := by
  have changed : (submittedFields ref session.known).status ≠
      session.known.status := by
    rw [dispatching]
    exact nofun
  exact RowSession.status_isColumn.set_new session now changed

/-- After a failed attempt the dispatch has failed, or the status is as it was
and there are attempts left. -/
theorem set_refused (session : RowSession) (now : Time)
    (dispatching : session.known.status = .dispatching) :
    (session.set now refusedFields).current.status = .dispatchFailed ∨
      (session.set now refusedFields).current.status =
          session.current.status ∧
        (session.set now refusedFields).current.dispatchAttempts <
          maxDispatchAttempts := by
  have counted : (session.set now refusedFields).current.dispatchAttempts =
      session.known.dispatchAttempts + 1 :=
    RowSession.dispatchAttempts_isColumn.set_new session now
      (Nat.succ_ne_self session.known.dispatchAttempts)
  by_cases last : maxDispatchAttempts ≤ session.known.dispatchAttempts + 1
  · left
    have failed : (refusedFields session.known).status = .dispatchFailed :=
      if_pos last
    have changed : (refusedFields session.known).status ≠
        session.known.status := by
      rw [failed, dispatching]
      exact nofun
    exact (RowSession.status_isColumn.set_new session now changed).trans failed
  · right
    have again : (refusedFields session.known).status = .dispatching :=
      if_neg last
    constructor
    · exact RowSession.status_isColumn.set_same session now
        (again.trans dispatching.symm)
    · rw [counted]
      omega

theorem registeredThen_pendingWindow {session : RowSession}
    {confirmedAt now expires : Time} :
    (registeredThen session confirmedAt now
      (pendingWindowFields expires)).current.status = .pendingWindow :=
  registeredThen_status .pendingWindow (fun _ => rfl) nofun

theorem registeredThen_duplicate {session : RowSession}
    {confirmedAt now : Time} {masterId : String} :
    (registeredThen session confirmedAt now
      (duplicateFields masterId)).current.status = .duplicate :=
  registeredThen_status .duplicate (fun _ => rfl) nofun

/-- A window that was opened expires. -/
theorem Sound.opened {session : RowSession} {confirmedAt now expires : Time}
    (known : session.known.windowExpiresAt ≠ none →
      session.current.windowExpiresAt ≠ none) :
    Sound (registeredThen session confirmedAt now
      (pendingWindowFields expires)).current := by
  constructor
  · rw [registeredThen_pendingWindow]
    exact nofun
  · intro _
    have isColumn := RowSession.windowExpiresAt_isColumn
    refine set_sets isColumn ?_ (Option.some_ne_none expires)
    intro before
    have knows : (session.set confirmedAt
        (registeredFields confirmedAt)).known.windowExpiresAt =
          session.known.windowExpiresAt := isColumn.set_known _ _
    have same : (session.set confirmedAt
        (registeredFields confirmedAt)).current.windowExpiresAt =
          session.current.windowExpiresAt := isColumn.set_same _ _ rfl
    rw [same]
    apply known
    rw [← knows]
    exact before
  · intro dispatching
    rw [registeredThen_pendingWindow] at dispatching
    cases dispatching

theorem Sound.merged {session : RowSession} {confirmedAt now : Time}
    {masterId : String} :
    Sound (registeredThen session confirmedAt now
      (duplicateFields masterId)).current := by
  apply Sound.of_unswept
  · rw [registeredThen_duplicate]
    rfl
  · rw [registeredThen_duplicate]
    exact nofun

theorem Task.Moves.sound
    (moves : task.Moves settings geometry store now answer after progress)
    (proceeds : task.proceeds = true) (placed : store.Attending task)
    (attempts : ∀ id known, task = .loaded .dispatch id known →
      known.status ≠ .dispatching → dispatchDisabled known = false →
      store.Every id (·.dispatchAttempts < maxDispatchAttempts))
    (before : store.Every id Sound) : after.Every id Sound := by
  have fresh : ∀ humanId contactId userId context now,
      Sound (draftGrievance humanId contactId none (some userId) .web context
        now) := by
    intro humanId contactId userId context now
    exact ⟨nofun, nofun, nofun⟩
  refine moves.every fresh ?_ before
  intro known writes current touches here sound
  have found : task.merges = false →
      store.grievances.find id = some current := by
    intro single
    rw [single] at here
    exact here.resolve_left nofun
  cases touches with
  | wrote writes =>
      cases writes with
      | reextract => exact sound.set (.inl rfl) rfl rfl
      | updateReview => exact sound.set (.inl rfl) rfl rfl
      | officialAction => exact sound.set (.inl rfl) rfl rfl
      | dispatchDisabled => exact sound.set (.inr ⟨rfl, nofun⟩) rfl rfl
      | dispatching enabled =>
          by_cases again : known.status = .dispatching
          · exact sound.set (.inl again.symm) rfl rfl
          · apply Sound.of_dispatching (set_dispatching _ now again)
            have same := RowSession.dispatchAttempts_isColumn.set_same
              { known := known, current := current } now
              (rfl : (dispatchingFields known).dispatchAttempts =
                known.dispatchAttempts)
            rw [same]
            exact attempts id known rfl again enabled current (found rfl)
      | _ => cases proceeds
  | confirmed confirms =>
      cases confirms <;> exact sound.set (.inr ⟨rfl, nofun⟩) rfl rfl
  | openedWindow =>
      apply Sound.opened
      intro present
      obtain ⟨row, lookup, windowed⟩ := placed.windowed id known rfl present
      exact Option.some.inj (lookup.symm.trans (found rfl)) ▸ windowed
  | merged => exact Sound.merged
  | reported => exact sound.set (.inl rfl) rfl rfl
  | submitted => exact sound.set (.inr ⟨rfl, nofun⟩) rfl rfl
  | retried =>
      rcases set_refused { known := known, current := current } now
        (placed.sent id known rfl) with failed | ⟨same, attempts⟩
      · apply Sound.of_unswept
        · rw [failed]
          rfl
        · rw [failed]
          exact nofun
      · constructor
        · rw [same]
          exact sound.kept
        · intro pending
          have window := RowSession.windowExpiresAt_isColumn.set_same
            { known := known, current := current } now
            (rfl : (refusedFields known).windowExpiresAt =
              known.windowExpiresAt)
          rw [window]
          exact sound.expires (same.symm.trans pending)
        · exact fun _ => attempts

/-! ## Whoever makes a grievance wait attends to it -/

theorem not_waiting_of_status {row : Grievance} {status : GrievanceStatus}
    (is : row.status = status) (settled : status.settled = true)
    (other : status ≠ .registered) : ¬ Waiting row := by
  rintro (unsettled | ⟨registered, _⟩)
  · rw [is, settled] at unsettled
    cases unsettled
  · exact other (is.symm.trans registered)

theorem not_waiting_of_official {row : Grievance}
    (settled : row.status.settled = true) (official : Official row) :
    ¬ Waiting row := by
  rintro (unsettled | ⟨_, unofficial⟩)
  · rw [settled] at unsettled
    cases unsettled
  · exact unofficial official

/-- A flush that does not make the grievance wait: it leaves the status, and an
official the review. -/
theorem waiting_of_set {session : RowSession} {now : Time}
    {change : Grievance → Grievance}
    (status : (session.set now change).current.status =
      session.current.status)
    (official : Official session.current → session.current.status =
      .registered → Official (session.set now change).current)
    (waiting : Waiting (session.set now change).current) :
    Waiting session.current := by
  rcases waiting with unsettled | ⟨registered, unofficial⟩
  · rw [status] at unsettled
    exact .inl unsettled
  · rw [status] at registered
    refine .inr ⟨registered, ?_⟩
    intro before
    exact unofficial (official before registered)

/-- A write of a review or of a dispatch, on the grievance itself. -/
theorem Operation.Writes.unattended {known current : Grievance}
    {operation : Operation} {fields : Grievance → Grievance}
    {next : Grievance → Progress} {now : Time}
    (writes : operation.Writes settings id known answer fields next)
    (proceeds : operation.proceeds = true)
    (returned : operation.returns known answer = true →
      current.status = .registered → ¬ Official current)
    (settled : operation = .dispatch → current.status.settled = true)
    (entrusted : operation = .dispatch →
      known.reviewStatus = some .pendingOfficial → Official current)
    (waiting : Waiting (RowSession.set
      { known := known, current := current } now fields).current) :
    Waiting current ∧
      (Task.loaded operation id known).attends ≠ some id := by
  have isStatus := RowSession.status_isColumn
  have isReview := RowSession.reviewStatus_isColumn
  let session : RowSession := { known := known, current := current }
  by_cases dispatches : operation = .dispatch
  · subst dispatches
    cases writes with
    | dispatchDisabled =>
        have registers : (session.set now
            dispatchDisabledFields).current.status.settled = true :=
          set_settled (settled rfl) (.inr rfl)
        have official : Official
            (session.set now dispatchDisabledFields).current := by
          by_cases pending : known.reviewStatus = some .pendingOfficial
          · exact set_official (entrusted rfl pending) (.inl pending.symm)
          · have given : (session.set now
                dispatchDisabledFields).current.reviewStatus =
                  some .pendingOfficial :=
              isReview.set_new session now (Ne.symm pending)
            unfold Official
            rw [given]
            rfl
        exact absurd waiting (not_waiting_of_official registers official)
    | dispatching =>
        by_cases again : known.status = .dispatching
        · constructor
          · apply waiting_of_set (isStatus.set_same session now again.symm) _
              waiting
            exact fun official _ => set_official official (.inl rfl)
          · simp [Task.attends, again]
        · have sent := set_dispatching session now again
          exact absurd waiting (not_waiting_of_status sent rfl nofun)
  · have status : (fields known).status = known.status :=
      (writes.proceeding proceeds).resolve_right dispatches
    constructor
    · apply waiting_of_set (isStatus.set_same session now status) _ waiting
      intro official registered
      rcases writes.review proceeds with same | given | returns
      · exact set_official official (.inl same)
      · exact set_official official (.inr given)
      · exact absurd official (returned returns registered)
    · have idle : (Task.loaded operation id known).attends = none := by
        cases writes <;> first | rfl | exact absurd rfl dispatches
      rw [idle]
      exact nofun

theorem Store.Wrote.confirmed {known current : Grievance}
    {writes : RowSession → RowSession}
    (wrote : store.Wrote after id known current writes) {other : String} :
    after.Confirmed other ↔ store.Confirmed other := by
  unfold Store.Confirmed
  rw [wrote.journal]

theorem Task.attends_opened {operation : Operation} {target : String}
    (attends : (Task.opened operation target).attends = some id) :
    id = target := by
  cases operation with
  | finalize => exact (Option.some.inj attends).symm
  | dispatch => exact (Option.some.inj attends).symm
  | _ => cases attends

theorem Task.attends_loaded {operation : Operation} {target : String}
    {known : Grievance}
    (attends : (Task.loaded operation target known).attends = some id) :
    id = target := by
  cases operation with
  | finalize => exact (Option.some.inj attends).symm
  | dispatch =>
      by_cases sent : known.status = .dispatching
      · simp [Task.attends, sent] at attends
      · simpa [Task.attends, sent] using attends.symm
  | _ => cases attends

/-- A confirmation that is committed leaves the grievance registered, or
further. -/
theorem set_confirmed_settled (session : RowSession) {now : Time}
    {fields : Grievance → Grievance} {next : Grievance → Progress}
    (confirms : Confirms id session.known now fields next)
    (before : session.known.status.settled = true →
      session.current.status.settled = true) :
    (session.set now fields).current.status.settled = true := by
  have registers : (fields session.known).status = .registered :=
    confirms.status
  by_cases again : session.known.status = .registered
  · apply set_settled (before (by rw [again]; rfl))
    right
    rw [registers]
    rfl
  · have changed : (fields session.known).status ≠ session.known.status := by
      rw [registers]
      exact Ne.symm again
    rw [RowSession.status_isColumn.set_new session now changed, registers]
    rfl

/-- A confirmation that is committed leaves the grievance to an official, or to
the process. -/
theorem Confirms.attends {known current : Grievance} {now : Time}
    {fields : Grievance → Grievance} {next : Grievance → Progress}
    (confirms : Confirms id known now fields next)
    (entrusted : known.reviewStatus = some .pendingOfficial →
      Official current)
    (settled : known.status.settled = true → current.status.settled = true)
    (waiting : Waiting (RowSession.set
      { known := known, current := current } now fields).current)
    (knows : Grievance) :
    ∃ task, next knows = .more task ∧ task.attends = some id := by
  let session : RowSession := { known := known, current := current }
  have registers :=
    set_confirmed_settled session confirms settled
  cases confirms with
  | reviewed pending =>
      have official : Official
          (session.set now (registeredFields now)).current :=
        set_official (entrusted pending) (.inl rfl)
      exact absurd waiting (not_waiting_of_official registers official)
  | disposed unreviewed _ =>
      have given : (session.set now
          (awaitingOfficialFields now)).current.reviewStatus =
            some .pendingOfficial :=
        RowSession.reviewStatus_isColumn.set_new session now
          (Ne.symm unreviewed)
      have official : Official
          (session.set now (awaitingOfficialFields now)).current := by
        unfold Official
        rw [given]
        rfl
      exact absurd waiting (not_waiting_of_official registers official)
  | priority => exact ⟨_, rfl, rfl⟩

/-- The process goes on with the grievance, or leaves it to others as it
was. -/
def Task.Accounts (task : Task) (id : String) (store : Store)
    (progress : Progress) : Prop :=
  (∃ next, progress = .more next ∧ next.attends = some id) ∨
    store.Unattended id ∧ task.attends ≠ some id

theorem Store.Has.of_find {property : Grievance → Prop} {current : Grievance}
    (has : store.Has id property)
    (found : store.grievances.find id = some current) : property current := by
  obtain ⟨row, lookup, holds⟩ := has
  exact Option.some.inj (lookup.symm.trans found) ▸ holds

/-- Another entry of the journal confirms nothing. -/
theorem Store.Confirmed.of_record {entry : Entry}
    (confirmed : (store.record entry).Confirmed id)
    (different : entry ≠ .confirmed id) : store.Confirmed id := by
  rcases List.mem_cons.mp confirmed with same | member
  · exact absurd same.symm different
  · exact member

theorem Task.accounts_loaded {operation : Operation} {target : String}
    {loaded : Grievance} (found : store.grievances.find target = some loaded)
    (due : store.Unattended id) :
    (Task.opened operation target).Accounts id store
      (.more (.loaded operation target loaded)) := by
  by_cases same : id = target
  · subst same
    cases operation with
    | finalize => exact .inl ⟨_, rfl, rfl⟩
    | dispatch =>
        have waiting := due.2.of_find found
        have idle : loaded.status ≠ .dispatching := by
          intro dispatching
          exact not_waiting_of_status dispatching rfl nofun waiting
        exact .inl ⟨_, rfl, if_neg idle⟩
    | _ => exact .inr ⟨due, nofun⟩
  · exact .inr ⟨due, fun attends => same (Task.attends_opened attends)⟩

theorem Task.accounts_missing {operation : Operation} {target : String}
    (absent : store.grievances.find target = none)
    (due : store.Unattended id) :
    (Task.opened operation target).Accounts id store progress := by
  refine .inr ⟨due, ?_⟩
  intro attends
  have same := Task.attends_opened attends
  subst same
  obtain ⟨row, lookup, _⟩ := due.2
  rw [absent] at lookup
  cases lookup

theorem Task.accounts_returned {operation : Operation} {target : String}
    {known : Grievance} (mayReturn : operation.mayReturn = true)
    (due : store.Unattended id) :
    (Task.loaded operation target known).Accounts id store progress := by
  refine .inr ⟨due, ?_⟩
  cases operation with
  | finalize => cases mayReturn
  | dispatch => cases mayReturn
  | _ => exact nofun

theorem Task.accounts_wrote {operation : Operation} {target : String}
    {known current : Grievance} {fields : Grievance → Grievance}
    {next : Grievance → Progress}
    (writes : operation.Writes settings target known answer fields next)
    (wrote : store.Wrote after target known current (·.set now fields))
    (proceeds : operation.proceeds = true)
    (placed : store.Attending (.loaded operation target known))
    (life : store.Placed (.loaded operation target known))
    (spared : target = id → operation.returns known answer = true →
      store.Every id fun row => row.status = .registered → ¬ Official row)
    (due : after.Unattended id) :
    (Task.loaded operation target known).Accounts id store progress := by
  obtain ⟨confirmed, has⟩ := due
  right
  by_cases same : id = target
  · subst same
    have settled : operation = .dispatch →
        current.status.settled = true := by
      rintro rfl
      exact (life.dispatches id rfl).of_find wrote.found
    have entrusted : operation = .dispatch →
        known.reviewStatus = some .pendingOfficial → Official current := by
      rintro rfl pending
      exact (placed.entrusted id (if_pos pending)).of_find wrote.found
    obtain ⟨before, idle⟩ := writes.unattended proceeds
      (fun returns => spared rfl returns current wrote.found) settled
      entrusted (wrote.own has)
    exact ⟨⟨wrote.confirmed.mp confirmed, current, wrote.found, before⟩,
      idle⟩
  · exact ⟨⟨wrote.confirmed.mp confirmed,
        wrote.has_before (fun is => absurd is same) has⟩,
      fun attends => same (Task.attends_loaded attends)⟩

theorem Task.accounts_confirmed {target : String} {known current : Grievance}
    {fields : Grievance → Grievance} {next : Grievance → Progress}
    (confirms : Confirms target known now fields next)
    (wrote : (store.record (.confirmed target)).Wrote after target known
      current (·.set now fields))
    (placed : store.Attending (.loaded .finalize target known))
    (life : store.Placed (.loaded .finalize target known))
    (due : after.Unattended id) (knows : Grievance) :
    (Task.loaded .finalize target known).Accounts id store (next knows) := by
  obtain ⟨confirmed, has⟩ := due
  have found : store.grievances.find target = some current := wrote.found
  by_cases same : id = target
  · subst same
    left
    exact confirms.attends
      (fun pending => (placed.entrusted id (if_pos pending)).of_find found)
      (fun before => (life.finalizes id known rfl before).of_find found)
      (wrote.own has) knows
  · right
    have unwritten : (store.record (.confirmed target)).Has id Waiting :=
      wrote.has_before (fun is => absurd is same) has
    refine ⟨⟨(wrote.confirmed.mp confirmed).of_record ?_, unwritten⟩,
      fun attends => same (Task.attends_loaded attends)⟩
    rintro ⟨⟩
    exact same rfl

theorem Task.accounts_searched {target : String} {known : Grievance}
    {confirmedAt : Time} {found : Option (String × Grievance)}
    (rows : after.grievances = store.grievances)
    (entries : after.journal = store.journal) (due : after.Unattended id) :
    (Task.loaded .finalize target known).Accounts id store
      (.more (.searched target known confirmedAt found)) := by
  by_cases same : id = target
  · subst same
    exact .inl ⟨_, rfl, rfl⟩
  · right
    obtain ⟨confirmed, row, lookup, waiting⟩ := due
    unfold Store.Confirmed at confirmed
    rw [entries] at confirmed
    rw [rows] at lookup
    exact ⟨⟨confirmed, row, lookup, waiting⟩,
      fun attends => same (Task.attends_loaded attends)⟩

/-- The end of a search opens a window or gives the grievance to another one,
and either way it does not wait. -/
theorem Task.accounts_closed {target : String} {known current : Grievance}
    {confirmedAt : Time} {found : Option (String × Grievance)}
    {writes : RowSession → RowSession}
    (wrote : (store.record (.confirmed target)).Wrote after target known
      current writes)
    (closed : ¬ Waiting
      (writes { known := known, current := current }).current)
    (due : after.Unattended id) :
    (Task.searched target known confirmedAt found).Accounts id store
      progress := by
  obtain ⟨confirmed, has⟩ := due
  obtain ⟨elsewhere, waiting⟩ := wrote.elsewhere closed has
  refine .inr ⟨⟨(wrote.confirmed.mp confirmed).of_record ?_, waiting⟩, ?_⟩
  · rintro ⟨⟩
    exact elsewhere rfl
  · intro attends
    exact elsewhere (Option.some.inj attends).symm

/-- Another report of a grievance does not make it wait. -/
theorem Store.Wrote.unattended_reported {masterId : String}
    {master current : Grievance} {count : Nat}
    (wrote : store.Wrote after masterId master current
      (·.set now (reportedFields count)))
    (due : after.Unattended id) : store.Unattended id := by
  refine ⟨wrote.confirmed.mp due.1, wrote.has_before ?_ due.2⟩
  intro _ waiting
  exact waiting_of_set (RowSession.status_isColumn.set_same _ _ rfl)
    (fun official _ => set_official official (.inl rfl)) waiting

theorem Task.accounts_submitted {target ref : String}
    {known current : Grievance}
    (wrote : store.Wrote after target known current
      (·.set now (submittedFields ref)))
    (sent : known.status = .dispatching) (due : after.Unattended id) :
    (Task.accepted target known ref).Accounts id store progress := by
  refine .inr ⟨⟨wrote.confirmed.mp due.1, wrote.has_before ?_ due.2⟩, nofun⟩
  intro _ waiting
  exact absurd waiting (not_waiting_of_status
    (set_submitted { known := known, current := current } sent) rfl nofun)

theorem Task.accounts_retried {target : String} {known current : Grievance}
    (wrote : store.Wrote after target known current (·.set now refusedFields))
    (sent : known.status = .dispatching) (due : after.Unattended id) :
    (Task.refused target known).Accounts id store progress := by
  refine .inr ⟨⟨wrote.confirmed.mp due.1, wrote.has_before ?_ due.2⟩, nofun⟩
  intro _ waiting
  rcases set_refused { known := known, current := current } now sent with
    failed | ⟨same, _⟩
  · exact absurd waiting (not_waiting_of_status failed rfl nofun)
  · exact waiting_of_set same
      (fun official _ => set_official official (.inl rfl)) waiting

/-- Whatever a step leaves unattended its process attends to, or it was
unattended before and not the process's own. -/
theorem Task.Moves.unattended
    (moves : task.Moves settings geometry store now answer after progress)
    (proceeds : task.proceeds = true) (placed : store.Attending task)
    (life : store.Placed task)
    (spared : ∀ operation known, task = .loaded operation id known →
      operation.returns known answer = true →
      store.Every id fun row =>
        row.status = .registered → ¬ Official row)
    (due : after.Unattended id) : task.Accounts id store progress := by
  cases moves with
  | created => cases proceeds
  | @tapped target =>
      by_cases same : id = target
      · subst same
        exact .inl ⟨_, rfl, rfl⟩
      · refine .inr ⟨⟨due.1.of_record ?_, due.2⟩, nofun⟩
        rintro ⟨⟩
        exact same rfl
  | loaded found => exact Task.accounts_loaded found due
  | missing absent => exact Task.accounts_missing absent due
  | returned mayReturn => exact Task.accounts_returned mayReturn due
  | confirming => exact .inr ⟨due, nofun⟩
  | skipped => cases proceeds
  | @wrote operation target known current fields next _ writes wrote =>
      apply Task.accounts_wrote writes wrote proceeds placed life _ due
      rintro rfl returns
      exact spared operation known rfl returns
  | confirmed confirms wrote =>
      exact Task.accounts_confirmed confirms wrote placed life due _
  | searched _ _ rows entries =>
      exact Task.accounts_searched rows entries due
  | openedWindow wrote =>
      exact Task.accounts_closed wrote
        (not_waiting_of_status registeredThen_pendingWindow rfl nofun) due
  | merged wrote wroteMaster =>
      exact Task.accounts_closed wrote
        (not_waiting_of_status registeredThen_duplicate rfl nofun)
        (wroteMaster.unattended_reported due)
  | called => exact .inr ⟨⟨due.1.of_record nofun, due.2⟩, nofun⟩
  | accepted => exact .inr ⟨⟨due.1.of_record nofun, due.2⟩, nofun⟩
  | refused => exact .inr ⟨due, nofun⟩
  | @submitted target _ known _ _ _ wrote =>
      exact Task.accounts_submitted wrote (placed.sent target known rfl) due
  | @retried target known _ _ _ wrote =>
      exact Task.accounts_retried wrote (placed.sent target known rfl) due

end

end Pipeline

end JanSetu
