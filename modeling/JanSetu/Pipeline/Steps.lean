import JanSetu.Pipeline.Lifecycle

/-!
# Everything a step can do

One inversion for a step of a task and one for a step of a process.  The
invariants are proved by cases on them, so that no later proof unfolds an
operation.
-/

namespace JanSetu.Pipeline

/-- The grievance is there and has the property. -/
def Store.Has (store : Store) (id : String) (property : Grievance → Prop) :
    Prop :=
  ∃ row, store.grievances.find id = some row ∧ property row

/-- The grievance has the property if it is there. -/
def Store.Every (store : Store) (id : String)
    (property : Grievance → Prop) : Prop :=
  ∀ row, store.grievances.find id = some row → property row

theorem Store.Has.and {store : Store} {id : String}
    {property other : Grievance → Prop}
    (first : store.Has id property) (second : store.Has id other) :
    store.Has id fun row => property row ∧ other row := by
  obtain ⟨row, found, holds⟩ := first
  obtain ⟨row', found', holds'⟩ := second
  have same : row' = row := Option.some.inj (found'.symm.trans found)
  exact ⟨row, found, holds, same ▸ holds'⟩

theorem Store.Has.mono {store : Store} {id : String}
    {property other : Grievance → Prop}
    (has : store.Has id property) (implies : ∀ row, property row → other row) :
    store.Has id other := by
  obtain ⟨row, found, holds⟩ := has
  exact ⟨row, found, implies row holds⟩

/-- One row was written: the table held it as `current`, the session knew it as
`known`. -/
structure Store.Wrote (store after : Store) (id : String)
    (known current : Grievance) (writes : RowSession → RowSession) :
    Prop where
  found : store.grievances.find id = some current
  grievances : after.grievances =
    store.grievances.put id
      (writes { known := known, current := current }).current
  journal : after.journal = store.journal

section

variable {store after : Store} {id other : String}
  {known current knows row : Grievance} {writes : RowSession → RowSession}

theorem Store.Wrote.find_self
    (wrote : store.Wrote after id known current writes) :
    after.grievances.find id =
      some (writes { known := known, current := current }).current := by
  rw [wrote.grievances, Table.find_put_self]

theorem Store.Wrote.find_other
    (wrote : store.Wrote after id known current writes)
    (different : other ≠ id) :
    after.grievances.find other = store.grievances.find other := by
  rw [wrote.grievances, Table.find_put_of_ne _ _ different]

/-- A row after the write is the row that was written, or one from before. -/
theorem Store.Wrote.find_cases
    (wrote : store.Wrote after id known current writes)
    (found : after.grievances.find other = some row) :
    other = id ∧
        row = (writes { known := known, current := current }).current ∨
      other ≠ id ∧ store.grievances.find other = some row := by
  by_cases same : other = id
  · subst same
    rw [wrote.find_self] at found
    exact .inl ⟨rfl, (Option.some.inj found).symm⟩
  · rw [wrote.find_other same] at found
    exact .inr ⟨same, found⟩

theorem Store.Wrote.has {property : Grievance → Prop}
    (wrote : store.Wrote after id known current writes)
    (row : other = id → property current →
      property (writes { known := known, current := current }).current)
    (before : store.Has other property) : after.Has other property := by
  obtain ⟨found, lookup, holds⟩ := before
  by_cases same : other = id
  · subst same
    have is : found = current :=
      Option.some.inj (lookup.symm.trans wrote.found)
    exact ⟨_, wrote.find_self, row rfl (is ▸ holds)⟩
  · exact ⟨found, (wrote.find_other same).trans lookup, holds⟩

theorem Store.Wrote.every {property : Grievance → Prop}
    (wrote : store.Wrote after id known current writes)
    (row : other = id → property current →
      property (writes { known := known, current := current }).current)
    (before : store.Every other property) : after.Every other property := by
  intro found lookup
  rcases wrote.find_cases lookup with ⟨rfl, rfl⟩ | ⟨_, lookup⟩
  · exact row rfl (before current wrote.found)
  · exact before found lookup

/-- What a grievance has after the write it had before, unless the write is the
reason. -/
theorem Store.Wrote.has_before {property : Grievance → Prop}
    (wrote : store.Wrote after id known current writes)
    (row : other = id →
      property (writes { known := known, current := current }).current →
      property current)
    (later : after.Has other property) : store.Has other property := by
  obtain ⟨found, lookup, holds⟩ := later
  rcases wrote.find_cases lookup with ⟨rfl, rfl⟩ | ⟨_, lookup⟩
  · exact ⟨current, wrote.found, row rfl holds⟩
  · exact ⟨found, lookup, holds⟩

/-- What the grievance of the write has is what was written. -/
theorem Store.Wrote.own {property : Grievance → Prop}
    (wrote : store.Wrote after id known current writes)
    (later : after.Has id property) :
    property (writes { known := known, current := current }).current := by
  obtain ⟨row, found, holds⟩ := later
  obtain rfl := Option.some.inj (found.symm.trans wrote.find_self)
  exact holds

/-- What is not written was there before, of another grievance. -/
theorem Store.Wrote.elsewhere {property : Grievance → Prop}
    (wrote : store.Wrote after id known current writes)
    (unwritten :
      ¬ property (writes { known := known, current := current }).current)
    (later : after.Has other property) :
    other ≠ id ∧ store.Has other property := by
  have different : other ≠ id := by
    rintro rfl
    exact unwritten (wrote.own later)
  exact ⟨different, wrote.has_before (fun same => absurd same different)
    later⟩

theorem Store.commit_wrote
    (committed : store.commit id known writes = some (after, knows)) :
    ∃ current, store.Wrote after id known current writes ∧
      knows = (writes { known := known, current := current }).known := by
  obtain ⟨current, found, rfl, knowsEq⟩ := Store.commit_eq committed
  exact ⟨current, ⟨found, rfl, rfl⟩, knowsEq⟩

theorem Store.write_wrote {now : Time} {fields : Grievance → Grievance}
    {event : Option (GrievanceStatus × Option String)}
    {next : Grievance → Progress} {progress : Progress}
    (written : store.write id known now fields event next =
      some (after, progress)) :
    ∃ current, store.Wrote after id known current (·.set now fields) ∧
      progress =
        next (RowSession.set { known := known, current := current } now
          fields).known := by
  obtain ⟨⟨middle, knows⟩, committed, same⟩ :=
    Option.map_eq_some_iff.mp written
  obtain ⟨current, wrote, rfl⟩ := Store.commit_wrote committed
  simp only [Prod.mk.injEq] at same
  obtain ⟨rfl, rfl⟩ := same
  refine ⟨current, ⟨wrote.found, ?_, ?_⟩, rfl⟩
  · cases event
    · exact wrote.grievances
    · exact wrote.grievances
  · cases event
    · exact wrote.journal
    · exact wrote.journal

/-- A write of an unlocked row commits, over what the table holds. -/
theorem Store.write_found {now : Time} {fields : Grievance → Grievance}
    {event : Option (GrievanceStatus × Option String)}
    {next : Grievance → Progress}
    (found : store.grievances.find id = some row)
    (unlocked : id ∉ store.locked) :
    ∃ after knows, store.write id row now fields event next =
        some (after, next knows) ∧
      knows = (RowSession.set { known := row, current := row } now
        fields).known ∧
      after.grievances.find id =
        some (RowSession.set { known := row, current := row } now
          fields).current ∧
      after.locked = store.locked := by
  have committed : store.commit id row (·.set now fields) =
      some
        ({ store with
           grievances := store.grievances.put id
             (RowSession.set { known := row, current := row } now
               fields).current },
         (RowSession.set { known := row, current := row } now
           fields).known) := by
    simp [Store.commit, unlocked, found]
  refine ⟨_, _, by simp only [Store.write, committed, Option.map_some]; rfl,
    rfl, ?_, ?_⟩
  · cases event <;> exact Table.find_put_self _ _ _
  · cases event <;> rfl

end

theorem dispatchDisabled_congr {row other : Grievance}
    (same : row.routingSnapshot = other.routingSnapshot) :
    dispatchDisabled row = dispatchDisabled other := by
  unfold dispatchDisabled
  rw [same]

/-! ## What an operation writes on the row it loaded -/

inductive Operation.Writes (settings : Settings) (id : String)
    (known : Grievance) : Answer → Operation → (Grievance → Grievance) →
    (Grievance → Progress) → Prop where
  | storeUploads (form : DraftForm) :
      Writes settings id known .plain (.storeUploads form)
        (storeUploadsFields form) fun _ => .finished
  | runPipeline (work : PipelineWork) (route : Option JurisdictionRoute)
      (text : String) :
      Writes settings id known (.work work) .runPipeline
        (withReceipt settings id (RunPipeline.nextStatus known work)
          (RunPipeline.fields work route text))
        fun _ => .processed (RunPipeline.result id known work)
  | acceptPhotoMismatch :
      known.status = .photoMismatch →
      Writes settings id known .plain .acceptPhotoMismatch
        (buildAndStorePdf settings id ∘ acceptPhotoMismatchFields)
        fun _ => .more (.opened .finalize id)
  | recheckImage (proceed : Bool) (check : PhotoCheck)
      (verdict : ImageMatchStatus) :
      verdict = RecheckImage.imageMatchStatus known proceed check →
      Writes settings id known (.photo check) (.recheckImage proceed)
        (withReceipt settings id (RecheckImage.nextStatus verdict)
          (RecheckImage.fields verdict))
        fun knows => .processed (RecheckImage.result id verdict knows)
  | reextract (extraction : StructuredExtraction)
      (route : Option JurisdictionRoute) :
      Writes settings id known (.extraction extraction) .reextract
        (Reextract.fields extraction route) fun _ => .finished
  | updateReview (userId : String) (body : ReviewPatch)
      (categoryKey : String) (assetScope : AssetScope) :
      UpdateReview.accepted body known = some (categoryKey, assetScope) →
      Writes settings id known .plain (.updateReview userId body)
        (UpdateReview.fields body categoryKey assetScope) fun _ => .finished
  | officialAction (official : OfficialUser) (body : OfficialAction)
      (categoryKey : String) :
      Writes settings id known .plain (.officialAction official body)
        (OfficialAction.fields body categoryKey) fun _ => .finished
  | replacePhoto (userId path : String) :
      Writes settings id known .plain (.replacePhoto userId path)
        (replacePhotoFields path)
        fun _ => .more (.opened (.recheckImage false) id)
  | cancel :
      Writes settings id known .plain .cancel cancelledFields
        fun _ => .finished
  | dispatchDisabled :
      dispatchDisabled known = true →
      Writes settings id known .plain .dispatch dispatchDisabledFields
        fun knows => .finalized (finalizeOutcome .registered knows)
  | dispatching :
      dispatchDisabled known = false →
      Writes settings id known .plain .dispatch dispatchingFields
        fun knows => .more (.dispatching id knows)

/-- When an extraction or a review writes, and what: the route of an
extraction is the one in force then. -/
def Operation.Commits (settings : Settings)
    (routes : List JurisdictionRouteRow) (id : String) (known : Grievance)
    (now : Time) : Operation → Answer → (Grievance → Grievance) → Prop
  | .runPipeline, .work work, fields =>
      ∃ text, originalText known.issueMessages = some text ∧
        fields =
          withReceipt settings id (RunPipeline.nextStatus known work)
            (RunPipeline.fields work
              (resolveRoute routes (some work.extraction.categoryId)
                (jurisdictionOf known) now) text)
  | .reextract, .extraction extraction, fields =>
      Python.truthy known.issueText = true ∧ extraction.degraded = false ∧
        fields = Reextract.fields extraction
          (resolveRoute routes
            (some (Reextract.category known extraction).key)
            (jurisdictionOf known) now)
  | .updateReview userId body, _, fields =>
      known.userId = some userId ∧ ∃ categoryKey assetScope,
        UpdateReview.accepted body known = some (categoryKey, assetScope) ∧
          fields = UpdateReview.fields body categoryKey assetScope
  | .officialAction official body, _, fields =>
      ∃ categoryKey,
        OfficialAction.accepted official body known = some categoryKey ∧
          fields = OfficialAction.fields body categoryKey
  | _, _, _ => True

/-- What `finalize_grievance` writes when it does not search for duplicates. -/
inductive Confirms (id : String) (known : Grievance) (now : Time) :
    (Grievance → Grievance) → (Grievance → Progress) → Prop where
  | reviewed :
      known.reviewStatus = some .pendingOfficial →
      Confirms id known now (registeredFields now)
        fun knows => .finalized (finalizeOutcome .registered knows)
  | disposed :
      known.reviewStatus ≠ some .pendingOfficial →
      needsDisposition known = true →
      Confirms id known now (awaitingOfficialFields now)
        fun knows => .finalized (finalizeOutcome .registered knows)
  | priority :
      known.reviewStatus ≠ some .pendingOfficial →
      needsDisposition known = false →
      Confirms id known now (registeredFields now)
        fun _ => .more (.opened .dispatch id)

/-! ## Steps of a task -/

def Progress.returned : Progress → Bool
  | .more _ => false
  | _ => true

/-- The operations that can return without a write once they have loaded. -/
def Operation.mayReturn : Operation → Bool
  | .finalize => false
  | .cancel => false
  | .dispatch => false
  | _ => true

/-- The two writes of a confirmed grievance that has been searched for. -/
def registeredThen (session : RowSession) (confirmedAt now : Time)
    (fields : Grievance → Grievance) : RowSession :=
  (session.set confirmedAt (registeredFields confirmedAt)).set now fields

/-- Neither write of the two changes the column. -/
theorem registeredThen_same {Value : Type} [DecidableEq Value]
    {column : Grievance → Value} (isColumn : RowSession.IsColumn column)
    (session : RowSession) (confirmedAt now : Time)
    {fields : Grievance → Grievance}
    (registered : ∀ row,
      column (registeredFields confirmedAt row) = column row)
    (same : ∀ row, column (fields row) = column row) :
    column (registeredThen session confirmedAt now fields).current =
      column session.current := by
  unfold registeredThen
  rw [isColumn.set_same _ _ (same _), isColumn.set_same _ _ (registered _)]

/-- The status of the second write stays. -/
theorem registeredThen_status {session : RowSession}
    {confirmedAt now : Time} {fields : Grievance → Grievance}
    (status : GrievanceStatus) (sets : ∀ row, (fields row).status = status)
    (different : status ≠ .registered) :
    (registeredThen session confirmedAt now fields).current.status =
      status := by
  have isColumn := RowSession.status_isColumn
  have known : (session.set confirmedAt
      (registeredFields confirmedAt)).known.status = .registered :=
    isColumn.set_known session confirmedAt
  have changed : (fields (session.set confirmedAt
      (registeredFields confirmedAt)).known).status ≠
      (session.set confirmedAt
        (registeredFields confirmedAt)).known.status := by
    rw [sets, known]
    exact different
  exact (isColumn.set_new _ now changed).trans (sets _)

inductive Task.Moves (settings : Settings) (geometry : Geometry)
    (store : Store) (now : Time) (answer : Answer) :
    Task → Store → Progress → Prop where
  | created {form : DraftForm} {id humanId : String} {row : Grievance}
      {context : DraftContext} {after : Store} :
      store.grievances.find id = none →
      row = draftGrievance humanId form.contactId none (some form.userId) .web
        context now →
      after.grievances = store.grievances.put id row →
      after.journal = store.journal →
      Moves settings geometry store now answer (.createDraft form) after
        (.more (.loaded (.storeUploads form) id row))
  | tapped {id : String} :
      Moves settings geometry store now answer (.tapConfirm id)
        (store.record (.confirmed id)) (.more (.opened .finalize id))
  | loaded {operation : Operation} {id : String} {row : Grievance} :
      store.grievances.find id = some row →
      Moves settings geometry store now answer (.opened operation id) store
        (.more (.loaded operation id row))
  | missing {operation : Operation} {id : String} {progress : Progress} :
      store.grievances.find id = none →
      progress.returned = true →
      Moves settings geometry store now answer (.opened operation id) store
        progress
  | returned {operation : Operation} {id : String} {known : Grievance}
      {progress : Progress} :
      operation.mayReturn = true →
      progress.returned = true →
      Moves settings geometry store now answer (.loaded operation id known)
        store progress
  | confirming {userId id : String} {known : Grievance}
      {next : Operation} :
      next = .acceptPhotoMismatch ∧ known.status = .photoMismatch ∨
        next = .finalize ∧ known.status = .awaitingConfirmation →
      Moves settings geometry store now answer
        (.loaded (.confirmDraft userId) id known) store
        (.more (.opened next id))
  | skipped {id : String} {known : Grievance} :
      known.status ≠ .photoMismatch →
      Moves settings geometry store now answer
        (.loaded .acceptPhotoMismatch id known) store
        (.more (.opened .finalize id))
  | wrote {operation : Operation} {id : String}
      {known current : Grievance}
      {fields : Grievance → Grievance} {next : Grievance → Progress}
      {after : Store} :
      operation.Writes settings id known answer fields next →
      store.Wrote after id known current (·.set now fields) →
      operation.Commits settings store.routes id known now answer fields →
      Moves settings geometry store now answer (.loaded operation id known)
        after
        (next (RowSession.set { known := known, current := current } now
          fields).known)
  | confirmed {id : String} {known current : Grievance}
      {fields : Grievance → Grievance} {next : Grievance → Progress}
      {after : Store} :
      Confirms id known now fields next →
      (store.record (.confirmed id)).Wrote after id known current
        (·.set now fields) →
      Moves settings geometry store now answer (.loaded .finalize id known)
        after
        (next (RowSession.set { known := known, current := current } now
          fields).known)
  | searched {id : String} {known : Grievance}
      {rows : List (String × Grievance)} {after : Store} :
      known.reviewStatus ≠ some .pendingOfficial →
      needsDisposition known = false →
      after.grievances = store.grievances →
      after.journal = store.journal →
      rows = store.grievances.rows.entries.map
        (fun entry => (entry.1, entry.2)) →
      Moves settings geometry store now answer (.loaded .finalize id known)
        after
        (.more (.searched id known now
          (findDuplicate geometry settings.dedupRadiusM rows id known now)))
  | openedWindow {id : String} {known current : Grievance}
      {confirmedAt windowExpiresAt : Time} {outcome : FinalizeOutcome}
      {after : Store} :
      (store.record (.confirmed id)).Wrote after id known current
        (registeredThen · confirmedAt now
          (pendingWindowFields windowExpiresAt)) →
      windowExpiresAt = now + hours settings.dedupWindowHours →
      Moves settings geometry store now answer
        (.searched id known confirmedAt none) after (.finalized outcome)
  | merged {id masterId : String}
      {known current master currentMaster : Grievance}
      {confirmedAt : Time} {count : Nat} {outcome : FinalizeOutcome}
      {middle after : Store} :
      (store.record (.confirmed id)).Wrote middle id known current
        (registeredThen · confirmedAt now
          (duplicateFields masterId)) →
      middle.Wrote after masterId master currentMaster
        (·.set now (reportedFields count)) →
      count = master.reportCount + 1 →
      Moves settings geometry store now answer
        (.searched id known confirmedAt (some (masterId, master))) after
        (.finalized outcome)
  | called {id : String} {known stored : Grievance} :
      store.grievances.find id = some stored →
      Moves settings geometry store now answer (.dispatching id known)
        (store.record (.called id known stored))
        (.more (.calling id known))
  | accepted {id ref : String} {known : Grievance} :
      Moves settings geometry store now answer (.calling id known)
        (store.record (.accepted id ref)) (.more (.accepted id known ref))
  | refused {id : String} {known : Grievance} :
      Moves settings geometry store now answer (.calling id known) store
        (.more (.refused id known))
  | submitted {id ref : String} {known current : Grievance}
      {outcome : FinalizeOutcome} {after : Store} :
      store.Wrote after id known current (·.set now (submittedFields ref)) →
      Moves settings geometry store now answer (.accepted id known ref) after
        (.finalized outcome)
  | retried {id : String} {known current : Grievance}
      {outcome : FinalizeOutcome} {after : Store} :
      store.Wrote after id known current (·.set now refusedFields) →
      Moves settings geometry store now answer (.refused id known) after
        (.finalized outcome)

section

variable {settings : Settings} {geometry : Geometry} {store after : Store}
  {id : String} {known : Grievance} {now : Time} {answer : Answer}
  {progress : Progress}

/-- A write by an operation that is listed in `Operation.Writes`. -/
theorem Task.Moves.of_write {operation : Operation}
    {fields : Grievance → Grievance}
    {event : Option (GrievanceStatus × Option String)}
    {next : Grievance → Progress}
    (written : store.write id known now fields event next =
      some (after, progress))
    (writes : operation.Writes settings id known answer fields next)
    (commits : operation.Commits settings store.routes id known now answer
      fields) :
    Task.Moves settings geometry store now answer
      (.loaded operation id known) after progress := by
  obtain ⟨current, wrote, rfl⟩ := Store.write_wrote written
  exact .wrote writes wrote commits

theorem Store.finalize_moves
    (ran : store.finalize settings geometry id known now =
      some (after, progress)) :
    Task.Moves settings geometry store now answer (.loaded .finalize id known)
      after progress := by
  unfold Store.finalize at ran
  split at ran
  case isTrue reviewed =>
    obtain ⟨current, wrote, rfl⟩ := Store.write_wrote ran
    exact .confirmed (.reviewed reviewed) wrote
  case isFalse unreviewed =>
    split at ran
    case isTrue disposed =>
      obtain ⟨current, wrote, rfl⟩ := Store.write_wrote ran
      exact .confirmed (.disposed unreviewed disposed) wrote
    case isFalse municipal =>
      have ticket : needsDisposition known = false := by
        simpa using municipal
      split at ran
      · obtain ⟨current, wrote, rfl⟩ := Store.write_wrote ran
        exact .confirmed (.priority unreviewed ticket) wrote
      · unfold Store.searchDuplicates at ran
        split at ran
        · cases ran
        · cases ran
          exact .searched unreviewed ticket rfl rfl rfl

theorem Operation.run_moves {operation : Operation}
    (ran : operation.run settings geometry store id known now answer =
      some (after, progress)) :
    Task.Moves settings geometry store now answer (.loaded operation id known)
      after progress := by
  unfold Operation.run at ran
  split at ran
  case h_1 form => exact .of_write ran (.storeUploads form) trivial
  case h_2 work =>
    unfold Store.runPipeline at ran
    split at ran
    · cases ran
      exact .returned rfl rfl
    case h_2 text texts =>
      exact .of_write ran (.runPipeline work _ text) ⟨text, texts, rfl⟩
  case h_3 =>
    unfold Store.acceptPhotoMismatch at ran
    split at ran
    case isTrue other =>
      cases ran
      exact .skipped other
    case isFalse mismatch =>
      exact .of_write ran (.acceptPhotoMismatch (not_not.mp mismatch))
        trivial
  case h_4 proceed check =>
    unfold Store.recheckImage at ran
    exact .of_write ran (.recheckImage proceed check _ rfl) trivial
  case h_5 extraction =>
    unfold Store.reextract at ran
    split at ran
    · cases ran
      exact .returned rfl rfl
    case isFalse usable =>
      have texts : Python.truthy known.issueText = true := by
        by_contra none
        exact usable (.inl none)
      have whole : extraction.degraded = false := by
        simpa using fun degraded => usable (.inr degraded)
      exact .of_write ran (.reextract extraction _) ⟨texts, whole, rfl⟩
  case h_6 userId body =>
    unfold Store.updateReview at ran
    split at ran
    · cases ran
      exact .returned rfl rfl
    case isFalse own =>
      split at ran
      · cases ran
        exact .returned rfl rfl
      case h_2 categoryKey assetScope accepted =>
        exact .of_write ran
          (.updateReview userId body categoryKey assetScope accepted)
          ⟨not_not.mp own, categoryKey, assetScope, accepted, rfl⟩
  case h_7 official body =>
    unfold Store.officialAction at ran
    split at ran
    · cases ran
      exact .returned rfl rfl
    case h_2 categoryKey accepted =>
      exact .of_write ran (.officialAction official body categoryKey)
        ⟨categoryKey, accepted, rfl⟩
  case h_8 userId path =>
    unfold Store.replacePhoto at ran
    split at ran
    · cases ran
      exact .returned rfl rfl
    · exact .of_write ran (.replacePhoto userId path) trivial
  case h_9 userId =>
    unfold Store.confirmDraft at ran
    split at ran
    · cases ran
      exact .returned rfl rfl
    · split at ran
      case isTrue mismatch =>
        cases ran
        exact .confirming (.inl ⟨rfl, mismatch⟩)
      · split at ran
        case isTrue awaiting =>
          cases ran
          exact .confirming (.inr ⟨rfl, awaiting⟩)
        · cases ran
          exact .returned rfl rfl
  case h_10 => exact Store.finalize_moves ran
  case h_11 => exact .of_write ran .cancel trivial
  case h_12 =>
    unfold Store.dispatch at ran
    split at ran
    case isTrue disabled => exact .of_write ran (.dispatchDisabled disabled) trivial
    case isFalse enabled =>
      exact .of_write ran (.dispatching (by simpa using enabled)) trivial
  case h_13 => cases ran

theorem Store.openWindow_moves {confirmedAt : Time}
    (ran : store.openWindow settings id known confirmedAt now =
      some (after, progress)) :
    Task.Moves settings geometry store now answer
      (.searched id known confirmedAt none) after progress := by
  unfold Store.openWindow at ran
  dsimp only at ran
  split at ran
  · cases ran
  case h_2 middle knows committed =>
    cases ran
    obtain ⟨current, wrote, _⟩ := Store.commit_wrote committed
    exact .openedWindow ⟨wrote.found, wrote.grievances, wrote.journal⟩ rfl

theorem Store.mergeDuplicate_moves {confirmedAt : Time} {masterId : String}
    {master : Grievance}
    (ran : store.mergeDuplicate id known confirmedAt masterId master now =
      some (after, progress)) :
    Task.Moves settings geometry store now answer
      (.searched id known confirmedAt (some (masterId, master))) after
      progress := by
  unfold Store.mergeDuplicate at ran
  dsimp only at ran
  split at ran
  · cases ran
  case h_2 middle knows committed =>
    split at ran
    · cases ran
    case h_2 final master' reported =>
      cases ran
      obtain ⟨current, wrote, _⟩ := Store.commit_wrote committed
      obtain ⟨currentMaster, wroteMaster, _⟩ := Store.commit_wrote reported
      exact .merged ⟨wrote.found, wrote.grievances, wrote.journal⟩
        ⟨wroteMaster.found, wroteMaster.grievances, wroteMaster.journal⟩ rfl

/-- A step of a task raises, or it moves. -/
theorem Task.resume_cases {task : Task} {choice : Choice}
    (resumed : task.resume settings geometry store choice =
      some (after, progress)) :
    choice.answer = .raises ∧ after = task.release store ∧
        progress = .raised ∨
      choice.answer ≠ .raises ∧
        task.Moves settings geometry store choice.now choice.answer after
          progress := by
  unfold Task.resume at resumed
  split at resumed
  case isTrue raises =>
    cases resumed
    exact .inl ⟨raises, rfl, rfl⟩
  case isFalse plain =>
    refine .inr ⟨plain, ?_⟩
    split at resumed
    case h_1 form id _ =>
      unfold Store.createDraft at resumed
      split at resumed
      · cases resumed
      case h_2 absent =>
        cases resumed
        exact .created absent rfl rfl rfl
    case h_2 id _ =>
      cases resumed
      exact .tapped
    case h_3 operation id _ =>
      cases resumed
      unfold Store.load
      split
      case h_1 row found => exact .loaded found
      case h_2 absent =>
        apply Task.Moves.missing absent
        split <;> rfl
    case h_4 operation id known _ => exact Operation.run_moves resumed
    case h_5 id known confirmedAt _ =>
      exact Store.openWindow_moves resumed
    case h_6 id known confirmedAt masterId master _ =>
      exact Store.mergeDuplicate_moves resumed
    case h_7 id known _ =>
      obtain ⟨stored, found, same⟩ := Option.map_eq_some_iff.mp resumed
      cases same
      exact .called found
    case h_8 id known ref _ =>
      cases resumed
      exact .accepted
    case h_9 id known _ =>
      cases resumed
      exact .refused
    case h_10 id known ref _ =>
      obtain ⟨current, wrote, rfl⟩ := Store.write_wrote resumed
      exact .submitted wrote
    case h_11 id known _ =>
      obtain ⟨current, wrote, rfl⟩ := Store.write_wrote resumed
      exact .retried wrote
    case h_12 => cases resumed

theorem Task.resume_loaded {operation : Operation} {choice : Choice}
    (resumed : (Task.loaded operation id known).resume settings geometry store
      choice = some (after, progress))
    (plain : choice.answer ≠ .raises) :
    operation.run settings geometry store id known choice.now choice.answer =
      some (after, progress) := by
  unfold Task.resume at resumed
  rw [if_neg plain] at resumed
  exact resumed

/-! ## What a step writes on one row -/

/-- The writes of a task's next step on a grievance that is in the table. -/
inductive Task.Touches (settings : Settings)
    (routes : List JurisdictionRouteRow) (now : Time) (answer : Answer) :
    Task → String → Grievance → (RowSession → RowSession) → Prop where
  | wrote {operation : Operation} {id : String} {known : Grievance}
      {fields : Grievance → Grievance} {next : Grievance → Progress} :
      operation.Writes settings id known answer fields next →
      operation.Commits settings routes id known now answer fields →
      Touches settings routes now answer (.loaded operation id known) id
        known (·.set now fields)
  | confirmed {id : String} {known : Grievance}
      {fields : Grievance → Grievance} {next : Grievance → Progress} :
      Confirms id known now fields next →
      Touches settings routes now answer (.loaded .finalize id known) id
        known (·.set now fields)
  | openedWindow {id : String} {known : Grievance}
      (confirmedAt windowExpiresAt : Time) :
      Touches settings routes now answer
        (.searched id known confirmedAt none) id known
        (registeredThen · confirmedAt now
          (pendingWindowFields windowExpiresAt))
  | merged {id : String} {known : Grievance} (confirmedAt : Time)
      (masterId : String) (master : Grievance) :
      Touches settings routes now answer
        (.searched id known confirmedAt (some (masterId, master))) id known
        (registeredThen · confirmedAt now (duplicateFields masterId))
  | reported {id : String} {known : Grievance} (confirmedAt : Time)
      (masterId : String) (master : Grievance) (count : Nat) :
      Touches settings routes now answer
        (.searched id known confirmedAt (some (masterId, master))) masterId
        master (·.set now (reportedFields count))
  | submitted {id : String} {known : Grievance} (ref : String) :
      Touches settings routes now answer (.accepted id known ref) id known
        (·.set now (submittedFields ref))
  | retried {id : String} {known : Grievance} :
      Touches settings routes now answer (.refused id known) id known
        (·.set now refusedFields)

/-- The one step with two writes. -/
def Task.merges : Task → Bool
  | .searched _ _ _ (some _) => true
  | _ => false

section

variable {task : Task} {property : Grievance → Prop}

/-- What a grievance has, and every write of the step on it keeps, it has after
the step. -/
theorem Task.Moves.has
    (moves : task.Moves settings geometry store now answer after progress)
    (each : ∀ known writes current,
      task.Touches settings store.routes now answer id known writes →
      task.merges = true ∨ store.grievances.find id = some current →
      property current →
      property
        (writes { known := known, current := current : RowSession }).current)
    (before : store.Has id property) : after.Has id property := by
  cases moves with
  | created absent _ grievances _ =>
      obtain ⟨row, found, holds⟩ := before
      refine ⟨row, ?_, holds⟩
      rw [grievances, Table.find_put_of_ne, found]
      rintro rfl
      rw [absent] at found
      cases found
  | tapped => exact before
  | loaded => exact before
  | missing => exact before
  | returned => exact before
  | confirming => exact before
  | skipped => exact before
  | wrote writes wrote commits =>
      refine wrote.has ?_ before
      rintro rfl
      exact each _ _ _ (.wrote writes commits) (.inr wrote.found)
  | confirmed confirms wrote =>
      refine wrote.has ?_ before
      rintro rfl
      exact each _ _ _ (.confirmed confirms) (.inr wrote.found)
  | searched _ _ grievances _ =>
      obtain ⟨row, found, holds⟩ := before
      exact ⟨row, by rw [grievances, found], holds⟩
  | openedWindow wrote =>
      refine wrote.has ?_ before
      rintro rfl
      exact each _ _ _ (.openedWindow _ _) (.inr wrote.found)
  | merged wrote wroteMaster =>
      refine wroteMaster.has ?_ (wrote.has ?_ before)
      · rintro rfl
        exact each _ _ _ (.reported _ _ _ _) (.inl rfl)
      · rintro rfl
        exact each _ _ _ (.merged _ _ _) (.inl rfl)
  | called => exact before
  | accepted => exact before
  | refused => exact before
  | submitted wrote =>
      refine wrote.has ?_ before
      rintro rfl
      exact each _ _ _ (.submitted _) (.inr wrote.found)
  | retried wrote =>
      refine wrote.has ?_ before
      rintro rfl
      exact each _ _ _ .retried (.inr wrote.found)

/-- The same for what a grievance has if it is there; a new draft must have
it. -/
theorem Task.Moves.every
    (moves : task.Moves settings geometry store now answer after progress)
    (fresh : ∀ humanId contactId userId context now,
      property (draftGrievance humanId contactId none (some userId) .web
        context now))
    (each : ∀ known writes current,
      task.Touches settings store.routes now answer id known writes →
      task.merges = true ∨ store.grievances.find id = some current →
      property current →
      property
        (writes { known := known, current := current : RowSession }).current)
    (before : store.Every id property) : after.Every id property := by
  cases moves with
  | created absent draft grievances _ =>
      intro row found
      rw [grievances, Table.find_put] at found
      split at found
      · cases found
        exact draft ▸ fresh _ _ _ _ _
      · exact before row found
  | tapped => exact before
  | loaded => exact before
  | missing => exact before
  | returned => exact before
  | confirming => exact before
  | skipped => exact before
  | wrote writes wrote commits =>
      refine wrote.every ?_ before
      rintro rfl
      exact each _ _ _ (.wrote writes commits) (.inr wrote.found)
  | confirmed confirms wrote =>
      refine wrote.every ?_ before
      rintro rfl
      exact each _ _ _ (.confirmed confirms) (.inr wrote.found)
  | searched _ _ grievances _ =>
      intro row found
      rw [grievances] at found
      exact before row found
  | openedWindow wrote =>
      refine wrote.every ?_ before
      rintro rfl
      exact each _ _ _ (.openedWindow _ _) (.inr wrote.found)
  | merged wrote wroteMaster =>
      refine wroteMaster.every ?_ (wrote.every ?_ before)
      · rintro rfl
        exact each _ _ _ (.reported _ _ _ _) (.inl rfl)
      · rintro rfl
        exact each _ _ _ (.merged _ _ _) (.inl rfl)
  | called => exact before
  | accepted => exact before
  | refused => exact before
  | submitted wrote =>
      refine wrote.every ?_ before
      rintro rfl
      exact each _ _ _ (.submitted _) (.inr wrote.found)
  | retried wrote =>
      refine wrote.every ?_ before
      rintro rfl
      exact each _ _ _ .retried (.inr wrote.found)

end

/-! ## Columns that are never cleared -/

/-- What a writer that knows the row as `known` sets in one flush. -/
inductive Change (settings : Settings) (known : Grievance) :
    (Grievance → Grievance) → Prop where
  | wrote {id : String} {answer : Answer} {operation : Operation}
      {fields : Grievance → Grievance} {next : Grievance → Progress} :
      operation.Writes settings id known answer fields next →
      Change settings known fields
  | confirmed {id : String} {now : Time} {fields : Grievance → Grievance}
      {next : Grievance → Progress} :
      Confirms id known now fields next →
      Change settings known fields
  | registered (now : Time) : Change settings known (registeredFields now)
  | pendingWindow (windowExpiresAt : Time) :
      Change settings known (pendingWindowFields windowExpiresAt)
  | duplicate (masterId : String) :
      Change settings known (duplicateFields masterId)
  | reported (count : Nat) : Change settings known (reportedFields count)
  | submitted (ref : String) : Change settings known (submittedFields ref)
  | refused : Change settings known refusedFields

section

variable {Value : Type} [DecidableEq Value]
  {column : Grievance → Option Value}

/-- A value that is not cleared by a flush. -/
theorem set_present (isColumn : RowSession.IsColumn column)
    {session : RowSession} {now : Time} {change : Grievance → Grievance}
    (before : column session.current ≠ none)
    (changes : column (change session.known) = column session.known ∨
      column (change session.known) ≠ none) :
    column (session.set now change).current ≠ none := by
  rcases changes with same | present
  · rw [isColumn.set_same session now same]
    exact before
  · rcases isColumn.set_cases session now with same | same
    · rw [same]
      exact before
    · rw [same]
      exact present

/-- A value that is set where the writer's own is not newer than the table's. -/
theorem set_sets (isColumn : RowSession.IsColumn column)
    {session : RowSession} {now : Time} {change : Grievance → Grievance}
    (known : column session.known ≠ none → column session.current ≠ none)
    (sets : column (change session.known) ≠ none) :
    column (session.set now change).current ≠ none := by
  by_cases same : column (change session.known) = column session.known
  · rw [isColumn.set_same session now same]
    apply known
    rw [← same]
    exact sets
  · rw [isColumn.set_new session now same]
    exact sets

theorem Task.Moves.keeps_present {task : Task}
    (isColumn : RowSession.IsColumn column)
    (changes : ∀ known fields, Change settings known fields →
      column (fields known) = column known ∨ column (fields known) ≠ none)
    (moves : task.Moves settings geometry store now answer after progress)
    (before : store.Has id (column · ≠ none)) :
    after.Has id (column · ≠ none) := by
  refine moves.has ?_ before
  intro known writes current touches _ present
  cases touches with
  | wrote writes =>
      exact set_present isColumn present (changes _ _ (.wrote writes))
  | confirmed confirms =>
      exact set_present isColumn present (changes _ _ (.confirmed confirms))
  | openedWindow =>
      refine set_present isColumn ?_ (changes _ _ (.pendingWindow _))
      exact set_present isColumn present (changes _ _ (.registered _))
  | merged =>
      refine set_present isColumn ?_ (changes _ _ (.duplicate _))
      exact set_present isColumn present (changes _ _ (.registered _))
  | reported =>
      exact set_present isColumn present (changes _ _ (.reported _))
  | submitted =>
      exact set_present isColumn present (changes _ _ (.submitted _))
  | retried => exact set_present isColumn present (changes _ _ .refused)

end

/-- What is written of a grievance once it has been checked and confirmed. -/
inductive Concludes : (Grievance → Grievance) → Prop where
  | registered (now : Time) : Concludes (registeredFields now)
  | pendingWindow (windowExpiresAt : Time) :
      Concludes (pendingWindowFields windowExpiresAt)
  | duplicate (masterId : String) : Concludes (duplicateFields masterId)
  | reported (count : Nat) : Concludes (reportedFields count)
  | submitted (ref : String) : Concludes (submittedFields ref)
  | refused : Concludes refusedFields

/-- A column that no write of the step sets anew stays as it is stored, however
old the rows of the writers are. -/
theorem Task.Moves.keeps_column {Value : Type} [DecidableEq Value]
    {column : Grievance → Value} {value : Value} {task : Task}
    (isColumn : RowSession.IsColumn column)
    (moves : task.Moves settings geometry store now answer after progress)
    (concluded : ∀ fields row, Concludes fields →
      column (fields row) = column row)
    (wrote : ∀ operation known fields next,
      task = .loaded operation id known →
      operation.Writes settings id known answer fields next →
      operation.Commits settings store.routes id known now answer fields →
      column (fields known) = column known)
    (confirmed : ∀ known fields next, task = .loaded .finalize id known →
      Confirms id known now fields next →
      column (fields known) = column known)
    (before : store.Has id (column · = value)) :
    after.Has id (column · = value) := by
  refine moves.has ?_ before
  intro known writes current touches _ same
  have late : ∀ session : RowSession, session.current = current →
      ∀ fields, Concludes fields →
      column (session.set now fields).current = value := by
    intro session is fields concludes
    rw [isColumn.set_same session now (concluded fields _ concludes), is]
    exact same
  have pair : ∀ confirmedAt fields, Concludes fields →
      column (registeredThen { known := known, current := current }
        confirmedAt now fields).current = value := by
    intro confirmedAt fields concludes
    rw [registeredThen_same isColumn _ _ _
      (fun row => concluded _ row (.registered confirmedAt))
      (fun row => concluded _ row concludes)]
    exact same
  cases touches with
  | wrote writes commits =>
      rw [isColumn.set_same _ _ (wrote _ _ _ _ rfl writes commits)]
      exact same
  | confirmed confirms =>
      rw [isColumn.set_same _ _ (confirmed _ _ _ rfl confirms)]
      exact same
  | openedWindow => exact pair _ _ (.pendingWindow _)
  | merged => exact pair _ _ (.duplicate _)
  | reported => exact late _ rfl _ (.reported _)
  | submitted => exact late _ rfl _ (.submitted _)
  | retried => exact late _ rfl _ .refused

/-! ## Columns that no step sets -/

/-- The draft of a form that was filed on the web. -/
def IsWebDraft (row : Grievance) : Prop :=
  ∃ humanId contactId userId context now,
    row = draftGrievance humanId contactId none (some userId) .web context now

theorem Change.conversationId {known : Grievance}
    {fields : Grievance → Grievance} (change : Change settings known fields) :
    (fields known).conversationId = known.conversationId := by
  cases change with
  | wrote writes =>
      cases writes with
      | runPipeline =>
          exact withReceipt_column settings (fun _ => rfl) _ _ known
      | recheckImage =>
          exact withReceipt_column settings (fun _ => rfl) _ _ known
      | _ => rfl
  | confirmed confirms => cases confirms <;> rfl
  | _ => rfl

section

variable {Value : Type} [DecidableEq Value] {column : Grievance → Value}
  {task : Task}

theorem Task.Touches.column_eq {routes : List JurisdictionRouteRow}
    {current : Grievance} {writes : RowSession → RowSession}
    (isColumn : RowSession.IsColumn column)
    (fixed : ∀ known fields, Change settings known fields →
      column (fields known) = column known)
    (touches : task.Touches settings routes now answer id known writes) :
    column
        (writes { known := known, current := current : RowSession }).current =
      column current := by
  have pair : ∀ confirmedAt fields,
      (∀ row, Change settings row fields) →
      column (registeredThen { known := known, current := current }
        confirmedAt now fields).current = column current := by
    intro confirmedAt fields change
    rw [registeredThen_same isColumn _ _ _
      (fun row => fixed row _ (.registered confirmedAt))
      (fun row => fixed row fields (change row))]
  cases touches with
  | wrote writes => exact isColumn.set_same _ _ (fixed _ _ (.wrote writes))
  | confirmed confirms =>
      exact isColumn.set_same _ _ (fixed _ _ (.confirmed confirms))
  | openedWindow => exact pair _ _ fun _ => .pendingWindow _
  | merged => exact pair _ _ fun _ => .duplicate _
  | reported => exact isColumn.set_same _ _ (fixed _ _ (.reported _))
  | submitted => exact isColumn.set_same _ _ (fixed _ _ (.submitted _))
  | retried => exact isColumn.set_same _ _ (fixed _ _ .refused)

/-- The rows of a step have the column of the rows before it. -/
theorem Task.Moves.column_kept {before : Grievance}
    (isColumn : RowSession.IsColumn column)
    (fixed : ∀ known fields, Change settings known fields →
      column (fields known) = column known)
    (moves : task.Moves settings geometry store now answer after progress)
    (found : store.grievances.find id = some before) :
    after.Has id (column · = column before) := by
  refine moves.has ?_ ⟨before, found, rfl⟩
  intro known writes current touches _ same
  rw [touches.column_eq isColumn fixed]
  exact same

/-- The column of a row that is new is that of a web draft. -/
theorem Task.Moves.column_fresh {row : Grievance}
    (isColumn : RowSession.IsColumn column)
    (fixed : ∀ known fields, Change settings known fields →
      column (fields known) = column known)
    (moves : task.Moves settings geometry store now answer after progress)
    (absent : store.grievances.find id = none)
    (found : after.grievances.find id = some row) :
    ∃ draft, IsWebDraft draft ∧ column row = column draft := by
  have nothing : store.Every id fun row =>
      ∃ draft, IsWebDraft draft ∧ column row = column draft := by
    intro row found
    rw [absent] at found
    cases found
  refine moves.every ?_ ?_ nothing row found
  · intro humanId contactId userId context now
    exact ⟨_, ⟨humanId, contactId, userId, context, now, rfl⟩, rfl⟩
  · intro known writes current touches _ same
    rw [touches.column_eq isColumn fixed]
    exact same

end

/-- Each grievance belongs to the conversation that it belonged to; a new one
belongs to none. -/
structure Store.SameConversations (store after : Store) : Prop where
  kept : ∀ id before, store.grievances.find id = some before →
    after.Has id (·.conversationId = before.conversationId)
  fresh : ∀ id row, store.grievances.find id = none →
    after.grievances.find id = some row → row.conversationId = none

theorem Store.SameConversations.of_same
    (same : after.grievances = store.grievances) :
    store.SameConversations after := by
  constructor
  · intro id before found
    exact ⟨before, by rw [same, found], rfl⟩
  · intro id row absent found
    rw [same, absent] at found
    cases found

/-- A grievance of a conversation was one of it before. -/
theorem Store.SameConversations.back {row : Grievance}
    {conversationId : String} (same : store.SameConversations after)
    (found : after.grievances.find id = some row)
    (own : row.conversationId = some conversationId) :
    store.Has id (·.conversationId = some conversationId) := by
  cases stored : store.grievances.find id with
  | none =>
      have none := same.fresh id row stored found
      rw [own] at none
      cases none
  | some before =>
      obtain ⟨row', found', kept⟩ := same.kept id before stored
      obtain rfl : row' = row := Option.some.inj (found'.symm.trans found)
      exact ⟨before, rfl.trans stored, kept.symm.trans own⟩

theorem Task.Moves.sameConversations {task : Task}
    (moves : task.Moves settings geometry store now answer after progress) :
    store.SameConversations after := by
  constructor
  · intro id before found
    exact moves.column_kept RowSession.conversationId_isColumn
      (fun _ _ => Change.conversationId) found
  · intro id row absent found
    obtain ⟨draft, ⟨_, _, _, _, _, rfl⟩, same⟩ :=
      moves.column_fresh RowSession.conversationId_isColumn
        (fun _ _ => Change.conversationId) absent found
    exact same

theorem Task.resume_sameConversations {task : Task} {choice : Choice}
    (resumed : task.resume settings geometry store choice =
      some (after, progress)) : store.SameConversations after := by
  rcases Task.resume_cases resumed with ⟨_, rfl, _⟩ | ⟨_, moves⟩
  · exact .of_same (by cases task <;> rfl)
  · exact moves.sameConversations

/-! ## Where a step leads -/

/-- The steps after which a task goes on, each with what it goes on with. -/
inductive Task.Leads (settings : Settings) (geometry : Geometry)
    (store : Store) (now : Time) : Task → Store → Task → Prop where
  | created {form : DraftForm} {id : String} {row : Grievance}
      {after : Store} :
      after.grievances.find id = some row →
      row.status = .draft →
      Leads settings geometry store now (.createDraft form) after
        (.loaded (.storeUploads form) id row)
  | loaded {operation : Operation} {id : String} {row : Grievance} :
      store.grievances.find id = some row →
      Leads settings geometry store now (.opened operation id) store
        (.loaded operation id row)
  | passed {task : Task} {operation : Operation} {id : String}
      {after : Store} :
      operation = .acceptPhotoMismatch ∨ operation = .finalize ∨
        operation = .recheckImage false →
      Leads settings geometry store now task after (.opened operation id)
  | prioritised {id : String} {known current : Grievance} {after : Store} :
      known.reviewStatus ≠ some .pendingOfficial →
      needsDisposition known = false →
      (store.record (.confirmed id)).Wrote after id known current
        (·.set now (registeredFields now)) →
      Leads settings geometry store now (.loaded .finalize id known) after
        (.opened .dispatch id)
  | searched {id : String} {known : Grievance}
      {rows : List (String × Grievance)} {after : Store} :
      known.reviewStatus ≠ some .pendingOfficial →
      needsDisposition known = false →
      after.grievances = store.grievances →
      Leads settings geometry store now (.loaded .finalize id known) after
        (.searched id known now
          (findDuplicate geometry settings.dedupRadiusM rows id known now))
  | sent {id : String} {known current : Grievance} {after : Store} :
      dispatchDisabled known = false →
      store.Wrote after id known current (·.set now dispatchingFields) →
      Leads settings geometry store now (.loaded .dispatch id known) after
        (.dispatching id (RowSession.set
          { known := known, current := current } now dispatchingFields).known)
  | called {id : String} {known stored : Grievance} :
      Leads settings geometry store now (.dispatching id known)
        (store.record (.called id known stored)) (.calling id known)
  | accepted {id ref : String} {known : Grievance} :
      Leads settings geometry store now (.calling id known)
        (store.record (.accepted id ref)) (.accepted id known ref)
  | refused {id : String} {known : Grievance} :
      Leads settings geometry store now (.calling id known) store
        (.refused id known)

theorem Task.Moves.leads {task next : Task}
    (moves : task.Moves settings geometry store now answer after
      (.more next)) :
    task.Leads settings geometry store now after next := by
  generalize more : Progress.more next = progress at moves
  cases moves with
  | created _ draft grievances =>
      cases more
      refine .created ?_ ?_
      · rw [grievances, Table.find_put_self]
      · rw [draft]
        rfl
  | tapped =>
      cases more
      exact .passed (.inr (.inl rfl))
  | loaded found =>
      cases more
      exact .loaded found
  | missing _ returned =>
      rw [← more] at returned
      cases returned
  | returned _ returned =>
      rw [← more] at returned
      cases returned
  | confirming which =>
      cases more
      rcases which with ⟨same, _⟩ | ⟨same, _⟩
      · exact .passed (.inl same)
      · exact .passed (.inr (.inl same))
  | skipped =>
      cases more
      exact .passed (.inr (.inl rfl))
  | wrote writes wrote =>
      cases writes with
      | acceptPhotoMismatch =>
          cases more
          exact .passed (.inr (.inl rfl))
      | replacePhoto =>
          cases more
          exact .passed (.inr (.inr rfl))
      | dispatching enabled =>
          cases more
          exact .sent enabled wrote
      | _ => cases more
  | confirmed confirms wrote =>
      cases confirms with
      | priority unreviewed ticket =>
          cases more
          exact .prioritised unreviewed ticket wrote
      | _ => cases more
  | searched unreviewed ticket grievances =>
      cases more
      exact .searched unreviewed ticket grievances
  | called =>
      cases more
      exact .called
  | accepted =>
      cases more
      exact .accepted
  | refused =>
      cases more
      exact .refused
  | _ => cases more

/-! ## The passage through `dispatch_grievance` -/

/-- The grievance that a run of `dispatch_grievance` has loaded, as it knows
it. -/
def Task.sending : Task → Option (String × Grievance)
  | .loaded .dispatch id known => some (id, known)
  | .dispatching id known => some (id, known)
  | .calling id known => some (id, known)
  | .accepted id known _ => some (id, known)
  | .refused id known => some (id, known)
  | _ => none

theorem set_dispatching_known (session : RowSession) (now : Time) :
    ∃ status time, (session.set now dispatchingFields).known =
      { session.known with status := status, updatedAt := time } := by
  unfold RowSession.set
  dsimp only
  split
  · exact ⟨session.known.status, session.known.updatedAt, rfl⟩
  · exact ⟨.dispatching, now, rfl⟩

/-- A run of `dispatch_grievance` goes on with the row it has loaded. -/
theorem Task.Moves.sending {task next : Task} {knows : Grievance}
    (moves : task.Moves settings geometry store now answer after (.more next))
    (sends : next.sending = some (id, knows)) :
    task = .opened .dispatch id ∧ after = store ∧
        store.grievances.find id = some knows ∨
      ∃ known status time, task.sending = some (id, known) ∧
        knows = { known with status := status, updatedAt := time } := by
  cases moves.leads with
  | @loaded operation _ _ found =>
      cases operation with
      | dispatch =>
          cases sends
          exact .inl ⟨rfl, rfl, found⟩
      | _ => cases sends
  | sent =>
      cases sends
      obtain ⟨status, time, same⟩ := set_dispatching_known _ _
      exact .inr ⟨_, status, time, rfl, same⟩
  | called =>
      cases sends
      exact .inr ⟨_, _, _, rfl, rfl⟩
  | accepted =>
      cases sends
      exact .inr ⟨_, _, _, rfl, rfl⟩
  | refused =>
      cases sends
      exact .inr ⟨_, _, _, rfl, rfl⟩
  | _ => cases sends

/-! ## Steps of a process -/

theorem Job.next_more (job : Job) (task : Task) :
    ∃ next, job.next (.more task) = some next ∧ next.task = some task := by
  cases job with
  | sweeping _ rest => exact ⟨.sweeping task rest, rfl, rfl⟩
  | _ => exact ⟨.request task, rfl, rfl⟩

/-- A step of a process is one of its task, or the selection of a sweep. -/
theorem Job.resume_cases {job : Job} {choice : Choice} {next : Option Job}
    (resumed : job.resume settings geometry store choice =
      some (after, next)) :
    (∃ task progress, job.task = some task ∧
      task.resume settings geometry store choice = some (after, progress) ∧
      next = job.next progress) ∨
    (after = store ∧ job.task = none ∧
      ∃ test limit ids, next = Job.sweepNext ids ∧
        (ids = [] ∨ store.Selects test limit ids) ∧
        (test = Store.expiredWindow choice.now ∨
          test = Store.stuckDispatching)) := by
  have selection : ∀ test limit,
      Job.select store test limit choice.answer = some (after, next) →
      (test = Store.expiredWindow choice.now ∨
        test = Store.stuckDispatching) →
      job.task = none →
      after = store ∧ job.task = none ∧
        ∃ test limit ids, next = Job.sweepNext ids ∧
          (ids = [] ∨ store.Selects test limit ids) ∧
          (test = Store.expiredWindow choice.now ∨
            test = Store.stuckDispatching) := by
    intro test limit selected which none
    unfold Job.select at selected
    split at selected
    case h_1 ids _ =>
      split at selected
      case isTrue selects =>
        cases selected
        exact ⟨rfl, none, test, limit, ids, rfl, .inr selects, which⟩
      · cases selected
    · cases selected
      exact ⟨rfl, none, test, limit, [], rfl, .inl rfl, which⟩
    · cases selected
  unfold Job.resume at resumed
  split at resumed
  case h_1 limit => exact .inr (selection _ limit resumed (.inl rfl) rfl)
  case h_2 limit => exact .inr (selection _ limit resumed (.inr rfl) rfl)
  case h_3 task =>
    obtain ⟨⟨middle, progress⟩, moved, same⟩ :=
      Option.map_eq_some_iff.mp resumed
    cases same
    exact .inl ⟨task, progress, rfl, moved, rfl⟩
  case h_4 task rest =>
    obtain ⟨⟨middle, progress⟩, moved, same⟩ :=
      Option.map_eq_some_iff.mp resumed
    cases same
    exact .inl ⟨task, progress, rfl, moved, rfl⟩

theorem Job.resume_sameConversations {job : Job} {choice : Choice}
    {next : Option Job}
    (resumed : job.resume settings geometry store choice =
      some (after, next)) : store.SameConversations after := by
  rcases Job.resume_cases resumed with
    ⟨task, progress, _, moved, _⟩ | ⟨rfl, _⟩
  · exact Task.resume_sameConversations moved
  · exact .of_same rfl

end

end JanSetu.Pipeline
