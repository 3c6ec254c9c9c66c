import JanSetu.Pipeline.CurrentReceipts

/-!
# Every confirmed grievance has its receipt

Three operations build a receipt, each on one of its branches, and nothing that
comes later asks whether there is one.  What they rely on is that a grievance
without a receipt is still to be processed or in a photo mismatch, however old
the rows are that its writers have loaded.
-/

namespace JanSetu.Pipeline

open Process (Label)

/-- The statuses that come after the receipt. -/
def issued : GrievanceStatus → Bool
  | .awaitingConfirmation => true
  | .registered => true
  | .pendingWindow => true
  | .dispatching => true
  | .submitted => true
  | .duplicate => true
  | .dispatchFailed => true
  | .draft => false
  | .processing => false
  | .photoMismatch => false
  | .cancelled => false

/-- A receipt is on record. -/
def Receipted (row : Grievance) : Prop :=
  row.pdfPath ≠ none

def Documented (row : Grievance) : Prop :=
  issued row.status = true → Receipted row

/-- `accept_photo_mismatch` builds the receipt of a mismatch and of nothing
else. -/
def Acceptable (row : Grievance) : Prop :=
  row.status = .photoMismatch ∨ Receipted row

/-- A row that has no receipt yet stays as it is, or turns out to be a
mismatch. -/
def LeadsTo (row later : Grievance) : Prop :=
  Receipted later ∨ row.pdfPath = none ∧
    (later.status = row.status ∨ later.status = .photoMismatch)

/-! ## Rows in the course of time -/

section

variable {row later last : Grievance}

theorem LeadsTo.refl (row : Grievance) : LeadsTo row row := by
  by_cases absent : row.pdfPath = none
  · exact .inr ⟨absent, .inl rfl⟩
  · exact .inl absent

theorem LeadsTo.receipted (leads : LeadsTo row later)
    (receipted : Receipted row) : Receipted later := by
  rcases leads with present | ⟨absent, _⟩
  · exact present
  · exact absurd absent receipted

theorem LeadsTo.acceptable (leads : LeadsTo row later)
    (acceptable : Acceptable row) : Acceptable later := by
  rcases acceptable with mismatch | receipted
  · rcases leads with present | ⟨_, same | mismatched⟩
    · exact .inr present
    · exact .inl (same.trans mismatch)
    · exact .inl mismatched
  · exact .inr (leads.receipted receipted)

theorem LeadsTo.documented (leads : LeadsTo row later)
    (documented : Documented row) : Documented later := by
  intro issued
  rcases leads with present | ⟨absent, same | mismatched⟩
  · exact present
  · rw [same] at issued
    exact absurd absent (documented issued)
  · rw [mismatched] at issued
    cases issued

theorem LeadsTo.trans (first : LeadsTo row later)
    (second : LeadsTo later last) : LeadsTo row last := by
  rcases first with present | ⟨absent, before⟩
  · exact .inl (second.receipted present)
  · rcases second with present | ⟨_, same | mismatched⟩
    · exact .inl present
    · rw [← same] at before
      exact .inr ⟨absent, before⟩
    · exact .inr ⟨absent, .inr mismatched⟩

/-- Neither column is written. -/
theorem LeadsTo.of_same (path : later.pdfPath = row.pdfPath)
    (status : later.status = row.status) : LeadsTo row later := by
  by_cases absent : row.pdfPath = none
  · exact .inr ⟨absent, .inl status⟩
  · left
    unfold Receipted
    rw [path]
    exact absent

/-- What a flush makes of a row, when its writer has loaded the row at some
time before. -/
theorem LeadsTo.set {session : RowSession} {now : Time}
    {change : Grievance → Grievance}
    (knows : LeadsTo session.known session.current)
    (path : (change session.known).pdfPath = session.known.pdfPath ∨
      Receipted (change session.known))
    (sets : (change session.known).status = session.known.status ∨
      (change session.known).status = .photoMismatch ∨
      Receipted (change session.known) ∨ Receipted session.current) :
    LeadsTo session.current (session.set now change).current := by
  have isColumn := RowSession.pdfPath_isColumn
  by_cases receipted : Receipted session.current
  · exact .inl (set_present isColumn receipted path)
  · have absent : session.current.pdfPath = none := not_not.mp receipted
    have unknown : session.known.pdfPath = none := by
      by_contra present
      exact receipted (knows.receipted present)
    -- A receipt that the writer did not know of is written.
    by_cases built : Receipted (change session.known)
    · left
      unfold Receipted
      rw [isColumn.set_new session now]
      · exact built
      · rw [unknown]
        exact built
    · refine .inr ⟨absent, ?_⟩
      rcases sets with same | mismatch | built' | receipted'
      · exact .inl (RowSession.status_isColumn.set_same session now same)
      · rw [← mismatch]
        exact RowSession.status_isColumn.set_cases session now
      · exact absurd built' built
      · exact absurd receipted' receipted

end

/-- A row with a receipt keeps it through the two writes of a confirmation. -/
theorem registeredThen_receipted {session : RowSession}
    {confirmedAt now : Time} {fields : Grievance → Grievance}
    (receipted : Receipted session.current)
    (same : ∀ row, (fields row).pdfPath = row.pdfPath) :
    Receipted (registeredThen session confirmedAt now fields).current := by
  unfold Receipted
  rw [registeredThen_same RowSession.pdfPath_isColumn _ _ _ (fun _ => rfl)
    same]
  exact receipted

/-! ## What a task relies on -/

/-- What an operation asks of the row that it loads.  A draft that is not yet
stored and a cancellation are left out. -/
def Operation.Needs : Operation → Grievance → Prop
  | .finalize, row => Receipted row
  | .dispatch, row => Receipted row
  | .acceptPhotoMismatch, row => Acceptable row
  | .storeUploads _, _ => False
  | .cancel, _ => False
  | _, _ => True

def Task.Backed (store : Store) : Task → Prop
  | .createDraft _ => False
  | .tapConfirm id => store.Has id Receipted
  | .opened operation id =>
      (∀ row, operation.Needs row) ∨ store.Has id operation.Needs
  | .loaded operation id known =>
      (operation.Needs known ∧ Documented known) ∧
        store.Has id (LeadsTo known)
  | .searched id _ _ _ => store.Has id Receipted
  | .dispatching id _ => store.Has id Receipted
  | .calling id _ => store.Has id Receipted
  | .accepted id _ _ => store.Has id Receipted
  | .refused id _ => store.Has id Receipted

/-- No grievance of the store is lost, and each leads to what it is then. -/
def Store.Continues (store after : Store) : Prop :=
  ∀ id row, store.grievances.find id = some row → after.Has id (LeadsTo row)

section

variable {settings : Settings} {geometry : Geometry} {store after : Store}
  {now : Time} {answer : Answer} {task : Task} {progress : Progress}
  {id : String} {known : Grievance} {routes : List JurisdictionRouteRow}
  {writes : RowSession → RowSession}

theorem Store.Continues.of_sameRows (same : store.SameRows after) :
    store.Continues after := by
  intro id row found
  exact ⟨row, by rw [same.1, found], .refl row⟩

theorem Store.Continues.has {property : Grievance → Prop}
    (continues : store.Continues after)
    (keeps : ∀ row later, LeadsTo row later → property row → property later)
    (before : store.Has id property) : after.Has id property := by
  obtain ⟨row, found, holds⟩ := before
  exact (continues id row found).mono fun later onward =>
    keeps row later onward holds

theorem Operation.Needs.kept {operation : Operation} {row later : Grievance}
    (leads : LeadsTo row later) (needs : operation.Needs row) :
    operation.Needs later := by
  cases operation with
  | finalize => exact leads.receipted needs
  | dispatch => exact leads.receipted needs
  | acceptPhotoMismatch => exact leads.acceptable needs
  | storeUploads => cases needs
  | cancel => cases needs
  | _ => trivial

/-- What a task relies on is there to stay. -/
theorem Task.Backed.kept (continues : store.Continues after)
    (backed : task.Backed store) : task.Backed after := by
  have receipted : ∀ id, store.Has id Receipted → after.Has id Receipted := by
    intro id
    exact continues.has fun _ _ => LeadsTo.receipted
  cases task with
  | createDraft => cases backed
  | opened operation id =>
      rcases backed with always | has
      · exact .inl always
      · exact .inr (continues.has (fun _ _ => Operation.Needs.kept) has)
  | loaded operation id known =>
      obtain ⟨known, has⟩ := backed
      exact ⟨known, continues.has (fun _ _ onward before => before.trans onward) has⟩
  | _ => exact receipted _ backed

/-- The writes of an operation on the row that it knows. -/
theorem Operation.Writes.leadsTo {operation : Operation}
    {fields : Grievance → Grievance} {next : Grievance → Progress}
    (writes : operation.Writes settings id known answer fields next)
    (needs : operation.Needs known) :
    (fields known).status = known.status ∨
      (fields known).status = .photoMismatch ∨
      Receipted (fields known) ∨ Receipted known := by
  have receipt : ∀ status (change : Grievance → Grievance),
      (change known).status = status →
      status = .photoMismatch ∨ status = .awaitingConfirmation →
      (withReceipt settings id status change known).status = .photoMismatch ∨
        Receipted (withReceipt settings id status change known) := by
    intro status change sets which
    unfold withReceipt
    rcases which with mismatch | awaiting
    · left
      rw [if_neg (by rw [mismatch]; decide), sets]
      exact mismatch
    · right
      rw [if_pos awaiting]
      exact Option.some_ne_none _
  cases writes with
  | storeUploads => cases needs
  | cancel => cases needs
  | runPipeline work route text =>
      have which : RunPipeline.nextStatus known work = .photoMismatch ∨
          RunPipeline.nextStatus known work = .awaitingConfirmation := by
        unfold RunPipeline.nextStatus
        exact ite_eq_or_eq _ _ _
      rcases receipt _ (RunPipeline.fields work route text) rfl which with
        mismatch | built
      · exact .inr (.inl mismatch)
      · exact .inr (.inr (.inl built))
  | acceptPhotoMismatch =>
      exact .inr (.inr (.inl (Option.some_ne_none _)))
  | recheckImage proceed check verdict =>
      have which : RecheckImage.nextStatus verdict = .photoMismatch ∨
          RecheckImage.nextStatus verdict = .awaitingConfirmation := by
        unfold RecheckImage.nextStatus
        exact ite_eq_or_eq _ _ _
      rcases receipt _ (RecheckImage.fields verdict) rfl which with
        mismatch | built
      · exact .inr (.inl mismatch)
      · exact .inr (.inr (.inl built))
  | dispatchDisabled => exact .inr (.inr (.inr needs))
  | dispatching => exact .inr (.inr (.inr needs))
  | _ => exact .inl rfl

/-! ## Steps -/

/-- A write on a row that the task has come upon, however often it was written
since. -/
theorem Task.Touches.leadsTo {row current : Grievance}
    (touches : task.Touches settings routes now answer id known writes)
    (backed : task.Backed store)
    (found : store.grievances.find id = some row)
    (since : LeadsTo row current) :
    LeadsTo current
      (writes { known := known, current := current }).current := by
  have receipted : store.Has id Receipted → Receipted current := by
    rintro ⟨stored, lookup, present⟩
    obtain rfl := Option.some.inj (lookup.symm.trans found)
    exact since.receipted present
  have loaded : store.Has id (LeadsTo known) → LeadsTo known current := by
    rintro ⟨stored, lookup, leads⟩
    obtain rfl := Option.some.inj (lookup.symm.trans found)
    exact leads.trans since
  have late : ∀ fields : Grievance → Grievance, Receipted current →
      (fields known).pdfPath = known.pdfPath →
      LeadsTo current (RowSession.set
        { known := known, current := current } now fields).current := by
    intro fields present same
    left
    exact set_present RowSession.pdfPath_isColumn present (.inl same)
  cases touches with
  | wrote writing commits =>
      obtain ⟨⟨needs, _⟩, has⟩ := backed
      have knows := loaded has
      apply LeadsTo.set knows (Change.wrote writing).pdfPath
      rcases writing.leadsTo needs with same | mismatch | built | present
      · exact .inl same
      · exact .inr (.inl mismatch)
      · exact .inr (.inr (.inl built))
      · exact .inr (.inr (.inr (knows.receipted present)))
  | confirmed confirms =>
      obtain ⟨⟨needs, _⟩, has⟩ := backed
      have present := (loaded has).receipted needs
      cases confirms <;> exact late _ present rfl
  | openedWindow =>
      exact .inl (registeredThen_receipted (receipted backed) fun _ => rfl)
  | merged =>
      exact .inl (registeredThen_receipted (receipted backed) fun _ => rfl)
  | reported =>
      exact .of_same (RowSession.pdfPath_isColumn.set_same _ _ rfl)
        (RowSession.status_isColumn.set_same _ _ rfl)
  | submitted => exact late _ (receipted backed) rfl
  | retried => exact late _ (receipted backed) rfl

theorem Task.Moves.continues
    (moves : task.Moves settings geometry store now answer after progress)
    (backed : task.Backed store) : store.Continues after := by
  intro id row found
  refine moves.has ?_ ⟨row, found, .refl row⟩
  intro known writes current touches _ since
  exact since.trans (touches.leadsTo backed found since)

/-- Only the count of a master is written on a grievance that may be
missing. -/
theorem Task.Touches.documented {current : Grievance}
    (touches : task.Touches settings routes now answer id known writes)
    (backed : task.Backed store)
    (absent : store.grievances.find id = none)
    (documented : Documented current) :
    Documented (writes { known := known, current := current }).current := by
  have missing : ∀ property, ¬ store.Has id property := by
    rintro property ⟨row, found, _⟩
    rw [absent] at found
    cases found
  cases touches with
  | wrote writing commits => exact absurd backed.2 (missing _)
  | confirmed confirms => exact absurd backed.2 (missing _)
  | reported =>
      apply LeadsTo.documented _ documented
      exact .of_same (RowSession.pdfPath_isColumn.set_same _ _ rfl)
        (RowSession.status_isColumn.set_same _ _ rfl)
  | _ => exact absurd backed (missing _)

theorem Task.Moves.documented
    (moves : task.Moves settings geometry store now answer after progress)
    (backed : task.Backed store)
    (before : store.Every id Documented) : after.Every id Documented := by
  cases found : store.grievances.find id with
  | some row =>
      intro later lookup
      obtain ⟨last, stored, leads⟩ := moves.continues backed id row found
      obtain rfl := Option.some.inj (stored.symm.trans lookup)
      exact leads.documented (before row found)
  | none =>
      refine moves.every ?_ ?_ before
      · intro humanId contactId userId context now issued
        cases issued
      · intro known writes current touches _
        exact touches.documented backed found

/-- The row that `accept_photo_mismatch` leaves has a receipt. -/
theorem Store.Wrote.accepted {current : Grievance}
    {fields : Grievance → Grievance}
    (wrote : store.Wrote after id known current (·.set now fields))
    (knows : store.Has id (LeadsTo known)) (built : Receipted (fields known)) :
    after.Has id Receipted := by
  refine ⟨_, wrote.find_self, ?_⟩
  unfold Receipted at built ⊢
  refine set_sets RowSession.pdfPath_isColumn ?_ built
  intro present
  obtain ⟨row, found, leads⟩ := knows
  obtain rfl := Option.some.inj (found.symm.trans wrote.found)
  exact leads.receipted present

/-- A step leads to a task that has what it relies on. -/
theorem Task.Moves.backed {next : Task}
    (moves : task.Moves settings geometry store now answer after (.more next))
    (rows : ∀ id, store.Every id Documented)
    (backed : task.Backed store) : next.Backed after := by
  have continues := moves.continues backed
  have receipted : ∀ id, store.Has id Receipted → after.Has id Receipted := by
    intro id
    exact continues.has fun _ _ => LeadsTo.receipted
  have loaded : ∀ id known, Receipted known → store.Has id (LeadsTo known) →
      store.Has id Receipted := by
    intro id known present has
    exact has.mono fun _ leads => leads.receipted present
  generalize more : Progress.more next = progress at moves
  cases moves with
  | created => cases backed
  | tapped =>
      cases more
      exact .inr (receipted _ backed)
  | @loaded operation id row found =>
      cases more
      refine ⟨⟨?_, rows id row found⟩, row, found, .refl row⟩
      rcases backed with always | ⟨stored, lookup, needs⟩
      · exact always row
      · obtain rfl := Option.some.inj (lookup.symm.trans found)
        exact needs
  | missing _ returned =>
      rw [← more] at returned
      cases returned
  | returned _ returned =>
      rw [← more] at returned
      cases returned
  | confirming which =>
      cases more
      obtain ⟨⟨_, documented⟩, has⟩ := backed
      right
      rcases which with ⟨rfl, mismatch⟩ | ⟨rfl, awaiting⟩
      · exact has.mono fun _ leads => leads.acceptable (.inl mismatch)
      · apply loaded _ _ (documented _) has
        rw [awaiting]
        rfl
  | skipped other =>
      cases more
      obtain ⟨⟨acceptable, _⟩, has⟩ := backed
      rcases acceptable with mismatch | present
      · exact absurd mismatch other
      · exact .inr (loaded _ _ present has)
  | wrote writes wrote =>
      obtain ⟨⟨needs, _⟩, has⟩ := backed
      cases writes with
      | acceptPhotoMismatch =>
          cases more
          exact .inr (wrote.accepted has (Option.some_ne_none _))
      | replacePhoto =>
          cases more
          exact .inl fun _ => trivial
      | dispatching =>
          cases more
          exact receipted _ (loaded _ _ needs has)
      | _ => cases more
  | confirmed confirms wrote =>
      obtain ⟨⟨present, _⟩, has⟩ := backed
      cases confirms with
      | priority =>
          cases more
          exact .inr (receipted _ (loaded _ _ present has))
      | _ => cases more
  | searched =>
      cases more
      obtain ⟨⟨present, _⟩, has⟩ := backed
      exact receipted _ (loaded _ _ present has)
  | called =>
      cases more
      exact receipted _ backed
  | accepted =>
      cases more
      exact receipted _ backed
  | refused =>
      cases more
      exact receipted _ backed
  | _ => cases more

end

/-! ## The invariant -/

/-- The requests of these runs.  One that creates a draft has the draft to
itself, and a mismatch that is cancelled has no receipt. -/
def Request.served : Request → Bool
  | .createDraft _ => false
  | .cancel _ => false
  | _ => true

/-- A tap confirms a grievance whose receipt is on record. -/
structure Receives (world : World Store Job) (label : Label Request Choice) :
    Prop where
  served : ∀ pid request, label = .spawn pid request → request.served = true
  tapped : ∀ pid id, label = .spawn pid (.tapConfirm id) →
    world.shared.Has id Receipted

def issuing : TaskInvariant :=
  { shared := fun store => ∀ id, store.Every id Documented
    own := fun store task => task.Backed store
    waiting := fun store id => store.Has id Receipted
    pair := fun _ _ => True }

theorem issuing_enters {world : World Store Job} {pid : Nat} {store : Store}
    {task : Task} (backed : task.Backed store) :
    issuing.Enters world pid store task :=
  ⟨backed, fun _ _ _ _ => ⟨trivial, trivial⟩⟩

section

variable {settings : Settings} {geometry : Geometry}

theorem issuing_holds {world : World Store Job}
    (reachable : (program settings geometry Documented).system.ReachableWhen
      Receives world) : issuing.Holds world := by
  refine TaskInvariant.holds ?initially ?sameRows ?started ?selected ?dispatches
    ?moved reachable
  case initially => exact fun store initial => initial.2.2
  case sameRows =>
    intro store after same
    have continues := Store.Continues.of_sameRows same
    refine ⟨?_, fun task => Task.Backed.kept continues, ?_⟩
    · intro documented id row found
      rw [same.1] at found
      exact documented id row found
    · intro id
      exact continues.has fun _ _ => LeadsTo.receipted
  case started =>
    intro world pid request task _ _ permitted doing
    apply issuing_enters
    have served := permitted.served pid request rfl
    cases request with
    | createDraft => cases served
    | cancel => cases served
    | tapConfirm id =>
        cases doing
        exact permitted.tapped pid id rfl
    | sweepExpiredWindows => cases doing
    | sweepStuckDispatching => cases doing
    | _ =>
        cases doing
        exact .inl fun _ => trivial
  case selected =>
    intro store test limit ids now documented selects which id member
    obtain ⟨row, found, passes⟩ := selects.passes member
    refine ⟨row, found, documented id row found ?_⟩
    rcases Store.status_of_selected which passes with same | same
    · rw [same]
      rfl
    · rw [same]
      rfl
  case dispatches =>
    intro world pid store id receipted
    exact issuing_enters (.inr receipted)
  case moved =>
    intro world pid task choice after progress _ holding _ runs _ moves
    have backed := holding.own runs
    have continues := moves.continues backed
    refine ⟨?_, ?_, ?_, ?_⟩
    · intro id
      exact moves.documented backed (holding.shared id)
    · intro other task _ _ before
      exact before.kept continues
    · intro id
      exact continues.has fun _ _ => LeadsTo.receipted
    · rintro next rfl
      exact issuing_enters (moves.backed holding.shared backed)

/-! ## The files -/

def Archive.Stored (settings : Settings) (archive : Archive) (id : String) :
    Prop :=
  ∃ summary, archive.files.find (receiptPath settings id) = some summary

/-- A receipt on record is where receipts are kept, and on file. -/
def Archive.RecordsStored (settings : Settings) (archive : Archive)
    (store : Store) (id : String) : Prop :=
  store.Every id fun row => ∀ path, row.pdfPath = some path →
    path = receiptPath settings id ∧ archive.Stored settings id

/-- A builder commits a receipt that it has stored. -/
def storesReceipts (settings : Settings) :
    Process.Invariant Archive Clerk :=
  { shared := fun archive =>
      ∀ id, archive.RecordsStored settings archive.store id
    own := fun archive clerk => ∀ operation id known choice,
      clerk.job.task = some (.loaded operation id known) →
      clerk.built = some choice → archive.Stored settings id
    pair := fun _ _ => True }

theorem Task.building_loaded {task : Task}
    {routes : List JurisdictionRouteRow} {choice : Choice}
    {building : Building}
    (builds : task.building routes choice = some building) :
    ∃ operation known, task = .loaded operation building.id known := by
  unfold Task.building at builds
  split at builds
  case h_1 =>
    split at builds
    · cases builds
    · split at builds
      · cases builds
        exact ⟨_, _, rfl⟩
      · cases builds
  case h_2 =>
    split at builds
    · cases builds
      exact ⟨_, _, rfl⟩
    · cases builds
  case h_3 =>
    dsimp only at builds
    split at builds
    · cases builds
      exact ⟨_, _, rfl⟩
    · cases builds
  case h_4 => cases builds

/-- A step that does not raise has stored the receipt it commits. -/
theorem Archive.act_built {archive after : Archive} {clerk : Clerk}
    {choice : Choice} {next : Option Clerk} {task : Task}
    {building : Building}
    (acted : archive.act settings geometry clerk choice = some (after, next))
    (plain : choice.answer ≠ .raises) (doing : clerk.job.task = some task)
    (builds : task.building archive.store.routes choice = some building) :
    clerk.built = some choice := by
  unfold Archive.act at acted
  dsimp only at acted
  rw [doing, Option.bind_some, builds, Option.map_some] at acted
  split at acted
  case isTrue => cases acted
  case isFalse stored =>
    by_contra different
    exact stored ⟨plain, different⟩

theorem Archive.Stored.of_keep (archive : Archive) (building : Building) :
    (archive.keep settings building).Stored settings building.id :=
  ⟨_, Table.find_put_self _ _ _⟩

/-- A file is added or replaced. -/
theorem Archive.Stored.keep {archive : Archive} {id : String}
    (stored : archive.Stored settings id) (building : Building) :
    (archive.keep settings building).Stored settings id := by
  obtain ⟨summary, filed⟩ := stored
  unfold Archive.Stored Archive.keep
  dsimp only
  rw [Table.find_put]
  split
  · exact ⟨_, rfl⟩
  · exact ⟨summary, filed⟩

section

variable {archive : Archive} {store : Store} {choice : Choice} {id : String}

theorem Archive.RecordsStored.of_sameRows
    (stored : archive.RecordsStored settings archive.store id)
    (same : archive.store.SameRows store) :
    archive.RecordsStored settings store id := by
  intro row found
  exact stored row ((congrArg (·.find id) same.1).symm.trans found)

/-- A move of a task leaves every receipt on record on file. -/
theorem Task.Moves.recordsStored {task : Task} {progress : Progress}
    (moves : task.Moves settings geometry archive.store choice.now
      choice.answer store progress)
    (moving : task.resume settings geometry archive.store choice =
      some (store, progress))
    (built : ∀ building,
      task.building archive.store.routes choice = some building →
      archive.Stored settings building.id)
    (before : archive.RecordsStored settings archive.store id) :
    archive.RecordsStored settings store id := by
  cases builds : task.building archive.store.routes choice with
  | none =>
      refine moves.every (fun _ _ _ _ _ _ => nofun) ?_ before
      intro known writes current touches _ stored path recorded
      rw [touches.pdfPath builds] at recorded
      exact stored path recorded
  | some building =>
      obtain ⟨current, fields, wrote, _⟩ := Task.building_wrote builds moving
      intro row found path recorded
      have paths := moves.paths fun row found path recorded =>
        (before row found path recorded).1
      refine ⟨paths row found path recorded, ?_⟩
      by_cases same : id = building.id
      · rw [same]
        exact built building builds
      · rw [wrote.find_other same] at found
        exact (before row found path recorded).2

/-- A step of a clerk who has stored what the step commits. -/
theorem Archive.act_recordsStored {after : Archive} {clerk : Clerk}
    {job : Option Job} {next : Option Clerk}
    (acted : archive.act settings geometry clerk choice = some (after, next))
    (ran : clerk.job.resume settings geometry archive.store choice =
      some (store, job))
    (owns : ∀ operation id known, clerk.job.task =
        some (.loaded operation id known) →
      clerk.built = some choice → archive.Stored settings id)
    (before : archive.RecordsStored settings archive.store id) :
    archive.RecordsStored settings store id := by
  rcases Job.resume_cases ran with
    ⟨task, progress, doing, moving, _⟩ | ⟨rfl, _⟩
  · rcases Task.resume_cases moving with ⟨_, rfl, _⟩ | ⟨plain, moves⟩
    · exact before.of_sameRows (task.release_sameRows _)
    · refine moves.recordsStored moving ?_ before
      intro building builds
      obtain ⟨operation, known, rfl⟩ := Task.building_loaded builds
      exact owns operation building.id known doing
        (Archive.act_built acted plain doing builds)
  · exact before

end

theorem storesReceipts_holds {admissible : Grievance → Prop}
    {world : World Archive Clerk}
    (reachable : (filing settings geometry admissible).system.Reachable
      world) : (storesReceipts settings).Holds world := by
  refine Process.Invariant.holds ?initially ?spawned ?resumed ?crashed reachable
  case initially =>
    intro archive initial id row found path recorded
    obtain ⟨is, summary, filed, _⟩ := initial.2.1 id row path found recorded
    refine ⟨is, summary, ?_⟩
    rw [← is]
    exact filed
  case spawned =>
    intro world pid request _ _ _
    refine ⟨?_, fun _ _ _ _ => ⟨trivial, trivial⟩⟩
    intro operation id known choice _ built
    cases built
  case resumed =>
    intro world pid deed clerk after next _ holding _ running resumed
    obtain ⟨stored, owns, _⟩ := holding
    cases deed with
    | build choice =>
        obtain ⟨task, building, doing, builds, rfl, rfl⟩ :=
          Archive.build_cases resumed
        refine ⟨?_, ?_, ?_⟩
        · intro id row found path recorded
          obtain ⟨is, before⟩ := stored id row found path recorded
          exact ⟨is, before.keep building⟩
        · intro other right _ runningOther operation id known choice doing
            built
          have before := owns other right runningOther operation id known
            choice doing built
          exact before.keep building
        · intro further arrives
          cases arrives
          refine ⟨?_, fun _ _ _ _ => ⟨trivial, trivial⟩⟩
          intro operation id known other is _
          obtain ⟨operation', known', rfl⟩ := Task.building_loaded builds
          cases doing.symm.trans is
          exact .of_keep world.shared building
    | act choice =>
        obtain ⟨store, job, calls, ran, _, rfl, rfl⟩ :=
          Archive.act_cases resumed
        refine ⟨?_, ?_, ?_⟩
        · intro id
          apply Archive.act_recordsStored resumed ran _ (stored id)
          intro operation id known
          exact owns pid clerk running operation id known choice
        · exact fun other right _ runningOther => owns other right runningOther
        · intro further arrives
          refine ⟨?_, fun _ _ _ _ => ⟨trivial, trivial⟩⟩
          obtain ⟨job, _, rfl⟩ := Option.map_eq_some_iff.mp arrives
          intro operation id known other _ built
          cases built
  case crashed =>
    intro world pid clerk _ holding _ _
    refine ⟨?_, fun other right _ => holding.2.1 other right⟩
    intro id
    exact (holding.1 id).of_sameRows
      (Job.release_sameRows world.shared.store clerk.job)

/-! ## Runs -/

/-- The card that is tapped was sent when the grievance had come to await its
confirmation; a confirmation on the web is a request that looks at the status
itself. -/
structure Admitted (states : List (World Archive Clerk))
    (label : Label Request Deed) : Prop where
  served : ∀ pid request, label = .spawn pid request → request.served = true
  tapped : ∀ pid id, label = .spawn pid (.tapConfirm id) →
    ∃ world ∈ states,
      world.shared.store.Has id (·.status = .awaitingConfirmation)

/-- The receipt was on file at the start, or it was built from this grievance
in the course of the run. -/
def ProducedFor (settings : Settings) (states : List (World Archive Clerk))
    (id : String) (summary : PdfSummary) : Prop :=
  (∃ start, states.getLast? = some start ∧
    start.shared.files.find (receiptPath settings id) = some summary) ∨
  ∃ world ∈ states, ∃ pid clerk task choice building,
    world.Running pid clerk ∧ clerk.job.task = some task ∧
      task.building world.shared.store.routes choice = some building ∧
      building.id = id ∧ pdfSummary building.row = summary

theorem ProducedFor.next {world next : World Archive Clerk}
    {earlier : List (World Archive Clerk)} {id : String}
    {summary : PdfSummary}
    (produced : ProducedFor settings (world :: earlier) id summary) :
    ProducedFor settings (next :: world :: earlier) id summary := by
  rcases produced with ⟨start, first, filed⟩ | ⟨state, member, built⟩
  · exact .inl ⟨start, first, filed⟩
  · exact .inr ⟨state, .tail _ member, built⟩

/-- A file is stored by a builder, under the path of its own grievance. -/
theorem filing_files {admissible : Grievance → Prop}
    {world next : World Archive Clerk} {label : Label Request Deed}
    (taken : (filing settings geometry admissible).system.step world label =
      some next) :
    next.shared.files = world.shared.files ∨
      ∃ pid clerk task choice building, world.Running pid clerk ∧
        clerk.job.task = some task ∧
        task.building world.shared.store.routes choice = some building ∧
        next.shared.files =
          world.shared.files.put (receiptPath settings building.id)
            (pdfSummary building.row) := by
  have stepped : (filing settings geometry admissible).step world label =
      some next := taken
  rcases Process.Program.step_cases stepped with
    ⟨pid, request, rfl, free, rfl⟩ |
    ⟨pid, deed, clerk, archive, after, rfl, running, resumed, rfl⟩ |
    ⟨pid, clerk, rfl, running, rfl⟩
  · exact .inl rfl
  · cases deed with
    | build choice =>
        obtain ⟨task, building, doing, builds, rfl, rfl⟩ :=
          Archive.build_cases resumed
        exact .inr ⟨pid, clerk, task, choice, building, running, doing,
          builds, rfl⟩
    | act choice =>
        obtain ⟨store, job, calls, _, _, rfl, rfl⟩ :=
          Archive.act_cases resumed
        exact .inl rfl
  · exact .inl rfl

/-- Every receipt on file was produced for its own grievance. -/
theorem files_produced {admissible : Grievance → Prop}
    {world : World Archive Clerk} {earlier : List (World Archive Clerk)}
    (trace : (filing settings geometry admissible).system.Trace Admitted
      (world :: earlier)) (id : String) (summary : PdfSummary)
    (filed : world.shared.files.find (receiptPath settings id) =
      some summary) :
    ProducedFor settings (world :: earlier) id summary := by
  have produced : ∀ id summary,
      world.shared.files.find (receiptPath settings id) = some summary →
      ProducedFor settings (world :: earlier) id summary := by
    refine trace.invariant (fun world earlier => ∀ id summary,
      world.shared.files.find (receiptPath settings id) = some summary →
      ProducedFor settings (world :: earlier) id summary) ?_ ?_
    · intro start _ id summary filed
      exact .inl ⟨start, rfl, filed⟩
    · intro world earlier label next _ before _ taken id summary filed
      rcases filing_files taken with
        same | ⟨pid, clerk, task, choice, building, running, doing, builds,
          same⟩
      · rw [same] at filed
        exact (before id summary filed).next
      · rw [same, Table.find_put] at filed
        split at filed
        case isTrue path =>
          cases filed
          exact .inr ⟨world, .tail _ (.head _), pid, clerk, task, choice,
            building, running, doing, builds,
            (receiptPath_injective path).symm, rfl⟩
        case isFalse => exact (before id summary filed).next
  exact produced id summary filed

theorem unfiled_spawn {label : Label Request Deed} {pid : Nat}
    {request : Request} (same : unfiled label = some (.spawn pid request)) :
    label = .spawn pid request := by
  cases label with
  | spawn pid request =>
      cases same
      rfl
  | resume pid deed =>
      cases deed with
      | build => cases same
      | act => cases same
  | crash => cases same

/-- What awaits its confirmation has its receipt. -/
theorem awaiting_receipted {world : World Archive Clerk} {id : String}
    (reachable : (program settings geometry Documented).system.ReachableWhen
      Receives (withoutFiles world))
    (awaits : world.shared.store.Has id (·.status = .awaitingConfirmation)) :
    world.shared.store.Has id Receipted := by
  obtain ⟨row, found, awaiting⟩ := awaits
  refine ⟨row, found, ?_⟩
  apply (issuing_holds reachable).shared id row found
  rw [awaiting]
  rfl

/-- An admitted step is one that confirms only what has a receipt, as long as
what once awaited its confirmation has it still. -/
theorem Admitted.next {world next : World Archive Clerk}
    {earlier : List (World Archive Clerk)} {label : Label Request Deed}
    (permitted : Admitted (world :: earlier) label)
    (taken : (filing settings geometry Documented).system.step world label =
      some next)
    (reachable : (program settings geometry Documented).system.ReachableWhen
      Receives (withoutFiles world))
    (receipted : ∀ state ∈ world :: earlier, ∀ id,
      state.shared.store.Has id (·.status = .awaitingConfirmation) →
      world.shared.store.Has id Receipted) :
    (program settings geometry Documented).system.ReachableWhen Receives
        (withoutFiles next) ∧
      ∀ id, world.shared.store.Has id Receipted →
        next.shared.store.Has id Receipted := by
  rcases filing_step taken with ⟨_, same⟩ | ⟨unfiledLabel, is, step⟩
  · rw [same]
    refine ⟨reachable, ?_⟩
    have stores : next.shared.store = world.shared.store :=
      congrArg (·.shared) same
    intro id
    rw [stores]
    exact fun before => before
  · constructor
    · refine reachable.next ⟨?_, ?_⟩ step
      · rintro pid request rfl
        exact permitted.served pid request (unfiled_spawn is)
      · rintro pid id rfl
        obtain ⟨state, member, awaiting⟩ :=
          permitted.tapped pid id (unfiled_spawn is)
        exact receipted state member id awaiting
    · intro id before
      refine step_has step ?_ before
      intro pid choice task after progress _ _ _ moves
      exact moves.keeps_present RowSession.pdfPath_isColumn
        (fun _ _ => Change.pdfPath) before

/-- Without its files, an admitted run confirms only what has a receipt; and
what once awaited its confirmation still has its receipt. -/
theorem admitted_receives {world : World Archive Clerk}
    {earlier : List (World Archive Clerk)}
    (trace : (filing settings geometry Documented).system.Trace Admitted
      (world :: earlier)) :
    (program settings geometry Documented).system.ReachableWhen Receives
        (withoutFiles world) ∧
      ∀ state ∈ world :: earlier, ∀ id,
        state.shared.store.Has id (·.status = .awaitingConfirmation) →
        world.shared.store.Has id Receipted := by
  refine trace.invariant (fun world earlier =>
    (program settings geometry Documented).system.ReachableWhen Receives
        (withoutFiles world) ∧
      ∀ state ∈ world :: earlier, ∀ id,
        state.shared.store.Has id (·.status = .awaitingConfirmation) →
        world.shared.store.Has id Receipted) ?_ ?_
  · rintro _ ⟨archive, initial, rfl⟩
    have reachable : (program settings geometry Documented).system.ReachableWhen
        Receives (withoutFiles (World.start archive)) :=
      .start ⟨archive.store, initial.1, rfl⟩
    refine ⟨reachable, ?_⟩
    intro state member id
    cases List.mem_singleton.mp member
    exact awaiting_receipted reachable
  · intro world earlier label next _ before permitted taken
    obtain ⟨reachable, receipted⟩ := before
    obtain ⟨onward, kept⟩ := permitted.next taken reachable receipted
    refine ⟨onward, ?_⟩
    intro state member id awaiting
    rcases List.mem_cons.mp member with rfl | member
    · exact awaiting_receipted onward awaiting
    · exact kept id (receipted state member id awaiting)

/-- Whatever the order of the steps, a grievance that has got as far as its
confirmation has a receipt on record and on file, and the receipt is its
own. -/
theorem issued_has_receipt {world : World Archive Clerk}
    {earlier : List (World Archive Clerk)}
    (trace : (filing settings geometry Documented).system.Trace Admitted
      (world :: earlier))
    (id : String) (row : Grievance)
    (found : world.shared.store.grievances.find id = some row)
    (status : issued row.status = true) :
    row.pdfPath = some (receiptPath settings id) ∧
      ∃ summary,
        world.shared.files.find (receiptPath settings id) = some summary ∧
        ProducedFor settings (world :: earlier) id summary := by
  have documented : Documented row :=
    (issuing_holds (admitted_receives trace).1).shared id row found
  obtain ⟨path, recorded⟩ :=
    Option.ne_none_iff_exists'.mp (documented status)
  obtain ⟨rfl, summary, filed⟩ :=
    (storesReceipts_holds trace.reachable).1 id row found path recorded
  exact ⟨recorded, summary, filed, files_produced trace id summary filed⟩

end

/-! ## A report from its draft to its submission -/

def untapped : Label Request Deed → Bool
  | .spawn _ (.tapConfirm _) => false
  | .spawn _ request => request.served
  | _ => true

theorem admitted_of_untapped {states : List (World Archive Clerk)}
    {label : Label Request Deed} (plain : untapped label = true) :
    Admitted states label := by
  constructor
  · rintro pid request rfl
    cases request with
    | tapConfirm => cases plain
    | _ => exact plain
  · rintro pid id rfl
    cases plain

def draftedArchive : Archive :=
  { receiptedArchive .normal with
    store :=
      { (receiptedArchive .normal).store with
        grievances := Table.empty.put "g"
          (draftGrievance "JS-20260625-00001" "contact" none (some "citizen")
            .web
            { lat := some 28, lon := some 77, displayAddress := some "Ward 12"
              messages := [], photoMediaId := none } 0) }
    files := .empty }

theorem draftedArchive_initial :
    (filing defaultSettings flatMap Documented).initial draftedArchive := by
  have drafts : ∀ id row,
      draftedArchive.store.grievances.find id = some row →
      row.status = .draft ∧ row.pdfPath = none := by
    intro id row found
    simp only [draftedArchive, Table.find_put, Table.find_empty] at found
    split at found
    · cases found
      exact ⟨rfl, rfl⟩
    · cases found
  refine ⟨⟨rfl, rfl, ?_⟩, ?_, rfl, rfl⟩
  · intro id row found status
    rw [(drafts id row found).1] at status
    cases status
  · intro id row path found recorded
    rw [(drafts id row found).2] at recorded
    cases recorded

def processes : List (Label Request Deed) :=
  [.spawn 0 (.runPipeline "g"), .resume 0 (.act ⟨1, .plain⟩),
   .resume 0 (.build ⟨2, .work streetlightWork⟩),
   .resume 0 (.act ⟨2, .work streetlightWork⟩)]

def submits : List (Label Request Deed) :=
  (List.replicate 6 (.resume 1 (.act ⟨3, .plain⟩))) ++
    [.resume 1 (.act ⟨4, .accepted "MUN-1"⟩), .resume 1 (.act ⟨5, .plain⟩)]

theorem issued_has_receipt_submitted :
    ∃ world earlier row,
      (filing defaultSettings flatMap Documented).system.Trace Admitted
        (world :: earlier) ∧
      world.shared.store.grievances.find "g" = some row ∧
      row.status = .submitted ∧
      row.pdfPath = some (receiptPath defaultSettings "g") ∧
      ∃ summary,
        world.shared.files.find (receiptPath defaultSettings "g") =
          some summary ∧
        ProducedFor defaultSettings (world :: earlier) "g" summary := by
  have ran : (((filing defaultSettings flatMap Documented).system.run
        (World.start draftedArchive) processes).bind fun middle =>
      ((filing defaultSettings flatMap Documented).system.run middle
        (.spawn 1 (.tapConfirm "g") :: submits)).map fun final =>
        (middle.shared.store.statusOf "g",
          final.shared.store.statusOf "g")) =
      some (some .awaitingConfirmation, some .submitted) := by
    decide +kernel
  obtain ⟨middle, first, rest⟩ := Option.bind_eq_some_iff.mp ran
  obtain ⟨final, second, observed⟩ := Option.map_eq_some_iff.mp rest
  obtain ⟨awaits, submitted⟩ := Prod.mk.inj observed
  have begun : (filing defaultSettings flatMap Documented).system.Trace
      Admitted [World.start draftedArchive] :=
    .start ⟨draftedArchive, draftedArchive_initial, rfl⟩
  obtain ⟨earlier, processed⟩ := begun.run
    (fun label member _ => admitted_of_untapped
      (List.all_eq_true.mp (show processes.all untapped = true by decide)
        label member)) first
  -- The tap comes after the grievance has come to await its confirmation.
  simp only [Transition.System.run] at second
  split at second
  case h_1 => cases second
  case h_2 tapped taken =>
    have permitted : Admitted (middle :: earlier)
        (.spawn 1 (.tapConfirm "g")) := by
      constructor
      · rintro pid request ⟨⟩
        rfl
      · rintro pid id ⟨⟩
        obtain ⟨row, found, awaiting⟩ := Option.map_eq_some_iff.mp awaits
        exact ⟨middle, .head _, row, found, awaiting⟩
    obtain ⟨before, trace⟩ := (processed.next permitted taken).run
      (fun label member _ => admitted_of_untapped
        (List.all_eq_true.mp (show submits.all untapped = true by decide)
          label member)) second
    obtain ⟨row, found, status⟩ := Option.map_eq_some_iff.mp submitted
    have issues : issued row.status = true := by
      rw [status]
      rfl
    obtain ⟨recorded, filed⟩ :=
      issued_has_receipt trace "g" row found issues
    exact ⟨final, before, row, trace, found, status, recorded, filed⟩

end JanSetu.Pipeline
