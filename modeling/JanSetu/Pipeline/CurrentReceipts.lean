import JanSetu.Pipeline.Receipts

/-!
# The dispatched receipt is current

Four operations revise what a receipt says and none of them builds another: a
pipeline that ends in a mismatch, a second extraction, a review and an official
action.  As long as the dispatcher is only called for a grievance that was not
revised after its receipt, the receipt it is given says what the grievance
says, whatever else happens to the two.
-/

namespace JanSetu.Pipeline

open Process (Label)

/-- The receipt of a grievance is on file and says what the row does. -/
def Archive.OnFile (settings : Settings) (archive : Archive) (id : String)
    (row : Grievance) : Prop :=
  ∃ summary, archive.files.find (receiptPath settings id) = some summary ∧
    summary.Matches (.of row)

/-- The dispatcher was given a receipt that says what the grievance said at
that moment. -/
def DispatchCall.Current (call : DispatchCall) : Prop :=
  ∃ summary, call.given = some summary ∧ summary.Matches (.of call.stored)

/-- A receipt is committed while the file is the one its builder has stored,
the columns that the builder leaves alone are still as it loaded them, and the
department is the one of the category.  The dispatcher is called with a receipt
on record, for a grievance that was not revised after it. -/
structure KeepsReceipts (settings : Settings) (world : World Archive Clerk)
    (label : Label Request Deed) : Prop where
  commits : ∀ pid choice clerk task building current,
    label = .resume pid (.act choice) → world.Running pid clerk →
    clerk.job.task = some task →
    task.building world.shared.store.routes choice = some building →
    world.shared.store.grievances.find building.id = some current →
    world.shared.files.find (receiptPath settings building.id) =
        some (pdfSummary building.row) ∧
      Ticket.of (building.known.writeBack current building.row) =
        .of building.row ∧
      (Ticket.of building.row).departmentName =
        (pdfSummary building.row).departmentName
  calls : ∀ pid choice clerk id known,
    label = .resume pid (.act choice) → world.Running pid clerk →
    clerk.job.task = some (.dispatching id known) →
    choice.answer = .plain →
    known.pdfPath ≠ none ∧ id ∉ world.shared.revised

theorem pdfSummary_matches {row : Grievance}
    (own : (Ticket.of row).departmentName =
      (pdfSummary row).departmentName) :
    (pdfSummary row).Matches (.of row) :=
  ⟨rfl, own, rfl, rfl, rfl⟩

theorem receiptPath_injective {settings : Settings} {id other : String}
    (same : receiptPath settings id = receiptPath settings other) :
    id = other := by
  unfold receiptPath at same
  have lists := congrArg String.toList same
  simp only [String.toList_append] at lists
  have paths := List.append_cancel_right lists
  exact String.toList_inj.mp (List.append_cancel_left paths)

theorem receiptPath_truthy (settings : Settings) (id : String) :
    Python.truthy (some (receiptPath settings id)) = true := by
  have present : receiptPath settings id ≠ "" := by
    intro empty
    have lists := congrArg String.toList empty
    unfold receiptPath at lists
    simp [String.toList_append] at lists
  simp [Python.truthy, present]

/-! ## Columns that a write leaves alone -/

/-- A write that leaves the ticket as it was known leaves it as it is. -/
theorem set_ticket {session : RowSession} {now : Time}
    {change : Grievance → Grievance}
    (same : Ticket.of (change session.known) = .of session.known) :
    Ticket.of (session.set now change).current = .of session.current := by
  unfold Ticket.of at same ⊢
  obtain ⟨category, department, priority, address, description⟩ :=
    Ticket.mk.inj same
  rw [RowSession.category_isColumn.set_same session now category,
    RowSession.departmentKey_isColumn.set_same session now department,
    RowSession.priority_isColumn.set_same session now priority,
    RowSession.locationAddress_isColumn.set_same session now address,
    RowSession.issueText_isColumn.set_same session now description]

/-- What a write makes of the ticket. -/
theorem set_ticket_eq {session : RowSession} {now : Time}
    {change : Grievance → Grievance} {row : Grievance}
    (same : Ticket.of (change session.known) = .of row) :
    Ticket.of (session.set now change).current =
      .of (session.known.writeBack session.current row) := by
  unfold Ticket.of at same ⊢
  obtain ⟨category, department, priority, address, description⟩ :=
    Ticket.mk.inj same
  rw [RowSession.category_isColumn.set_current,
    RowSession.departmentKey_isColumn.set_current,
    RowSession.priority_isColumn.set_current,
    RowSession.locationAddress_isColumn.set_current,
    RowSession.issueText_isColumn.set_current, category, department, priority,
    address, description]
  rfl

section

variable {settings : Settings} {geometry : Geometry} {store after : Store}
  {now : Time} {answer : Answer} {choice : Choice} {task : Task}
  {progress : Progress} {id : String} {known : Grievance}
  {routes : List JurisdictionRouteRow} {writes : RowSession → RowSession}

/-- A write sets the path of the receipt, or leaves it alone. -/
theorem Operation.Writes.pdfPath {operation : Operation}
    {fields : Grievance → Grievance} {next : Grievance → Progress}
    (writes : operation.Writes settings id known answer fields next) :
    (fields known).pdfPath = known.pdfPath ∨
      (fields known).pdfPath = some (receiptPath settings id) := by
  have receipt : ∀ status (change : Grievance → Grievance),
      (change known).pdfPath = known.pdfPath →
      (withReceipt settings id status change known).pdfPath = known.pdfPath ∨
        (withReceipt settings id status change known).pdfPath =
          some (receiptPath settings id) := by
    intro status change same
    unfold withReceipt
    split
    · exact .inr rfl
    · exact .inl same
  cases writes with
  | runPipeline => exact receipt _ _ rfl
  | acceptPhotoMismatch => exact .inr rfl
  | recheckImage => exact receipt _ _ rfl
  | _ => exact .inl rfl

/-- The two writes of a confirmation, over a session that knows the row. -/
theorem registeredThen_ticket {session : RowSession} {confirmedAt : Time}
    {fields : Grievance → Grievance}
    (same : ∀ row, Ticket.of (fields row) = .of row) :
    Ticket.of (registeredThen session confirmedAt now fields).current =
      .of session.current := by
  unfold registeredThen
  rw [set_ticket (same _), set_ticket rfl]

/-- Only the four operations write on a ticket. -/
theorem Task.Touches.ticket
    (touches : task.Touches settings routes now answer id known writes)
    (other : task.revising ≠ some id) (current : Grievance) :
    Ticket.of (writes { known := known, current := current }).current =
      .of current := by
  cases touches with
  | wrote writing commits =>
      cases writing with
      | runPipeline => exact absurd rfl other
      | reextract => exact absurd rfl other
      | updateReview => exact absurd rfl other
      | officialAction => exact absurd rfl other
      | recheckImage proceed check verdict =>
          apply set_ticket
          unfold withReceipt
          split <;> rfl
      | _ => exact set_ticket rfl
  | confirmed confirms =>
      cases confirms <;> exact set_ticket rfl
  | openedWindow => exact registeredThen_ticket fun _ => rfl
  | merged => exact registeredThen_ticket fun _ => rfl
  | reported => exact set_ticket rfl
  | submitted => exact set_ticket rfl
  | retried => exact set_ticket rfl

/-- Only a builder writes the path of a receipt. -/
theorem Task.Touches.pdfPath
    (touches : task.Touches settings routes now answer id known writes)
    (idle : task.building routes { now := now, answer := answer } = none)
    (current : Grievance) :
    (writes { known := known, current := current }).current.pdfPath =
      current.pdfPath := by
  have stays := RowSession.pdfPath_isColumn.set_same
  have twice : ∀ confirmedAt (fields : Grievance → Grievance),
      (∀ row, (fields row).pdfPath = row.pdfPath) →
      (registeredThen { known := known, current := current } confirmedAt now
        fields).current.pdfPath = current.pdfPath := by
    intro confirmedAt fields same
    exact registeredThen_same RowSession.pdfPath_isColumn _ _ _
      (fun _ => rfl) same
  cases touches with
  | wrote writing commits =>
      cases writing with
      | runPipeline work route text =>
          obtain ⟨texts, found, _⟩ := commits
          have mismatch : RunPipeline.nextStatus known work ≠
              .awaitingConfirmation := by
            intro awaiting
            simp [Task.building, found, awaiting] at idle
          apply stays
          unfold withReceipt
          rw [if_neg mismatch]
          rfl
      | acceptPhotoMismatch mismatch =>
          simp [Task.building, mismatch] at idle
      | recheckImage proceed check verdict same =>
          subst same
          have mismatch : RecheckImage.nextStatus
              (RecheckImage.imageMatchStatus known proceed check) ≠
              .awaitingConfirmation := by
            intro awaiting
            simp [Task.building, awaiting] at idle
          apply stays
          unfold withReceipt
          rw [if_neg mismatch]
          rfl
      | _ => exact stays _ _ rfl
  | confirmed confirms =>
      cases confirms <;> exact stays _ _ rfl
  | openedWindow => exact twice _ _ fun _ => rfl
  | merged => exact twice _ _ fun _ => rfl
  | reported => exact stays _ _ rfl
  | submitted => exact stays _ _ rfl
  | retried => exact stays _ _ rfl

/-- A receipt on record is where receipts are kept. -/
theorem Task.Moves.paths
    (moves : task.Moves settings geometry store now answer after progress)
    (before : store.Every id fun row => ∀ path, row.pdfPath = some path →
      path = receiptPath settings id) :
    after.Every id fun row => ∀ path, row.pdfPath = some path →
      path = receiptPath settings id := by
  have isColumn := RowSession.pdfPath_isColumn
  have set : ∀ (session : RowSession) (time : Time)
      (change : Grievance → Grievance),
      (∀ path, session.current.pdfPath = some path →
        path = receiptPath settings id) →
      ((change session.known).pdfPath = session.known.pdfPath ∨
        (change session.known).pdfPath = some (receiptPath settings id)) →
      ∀ path, (session.set time change).current.pdfPath = some path →
        path = receiptPath settings id := by
    intro session time change own sets path found
    rcases sets with same | receipt
    · rw [isColumn.set_same session time same] at found
      exact own path found
    · rcases isColumn.set_cases session time with same | same
      · rw [same] at found
        exact own path found
      · rw [same, receipt] at found
        exact (Option.some.inj found).symm
  refine moves.every (fun _ _ _ _ _ _ => nofun) ?_ before
  intro known writes current touches _ own
  cases touches with
  | wrote writing => exact set _ _ _ own writing.pdfPath
  | confirmed confirms =>
      cases confirms <;> exact set _ _ _ own (.inl rfl)
  | openedWindow =>
      exact set _ _ _ (set _ _ _ own (.inl rfl)) (.inl rfl)
  | merged => exact set _ _ _ (set _ _ _ own (.inl rfl)) (.inl rfl)
  | reported => exact set _ _ _ own (.inl rfl)
  | submitted => exact set _ _ _ own (.inl rfl)
  | retried => exact set _ _ _ own (.inl rfl)

theorem Change.pdfPath {fields : Grievance → Grievance}
    (change : Change settings known fields) :
    (fields known).pdfPath = known.pdfPath ∨
      (fields known).pdfPath ≠ none := by
  cases change with
  | wrote writing =>
      rcases writing.pdfPath with same | receipt
      · exact .inl same
      · rw [receipt]
        exact .inr (Option.some_ne_none _)
  | confirmed confirms => cases confirms <;> exact .inl rfl
  | _ => exact .inl rfl

/-- The step of a builder commits the row that its receipt is built from. -/
theorem Task.building_wrote {building : Building}
    (builds : task.building store.routes choice = some building)
    (resumed : task.resume settings geometry store choice =
      some (after, progress)) :
    ∃ current fields,
      store.Wrote after building.id building.known current
        (·.set choice.now fields) ∧
      fields building.known =
        buildAndStorePdf settings building.id building.row := by
  unfold Task.building at builds
  split at builds
  case h_1 id known work answered =>
    have plain : choice.answer ≠ .raises := by
      rw [answered]
      nofun
    have ran := Task.resume_loaded resumed plain
    rw [answered] at ran
    change store.runPipeline settings id known work choice.now = _ at ran
    unfold Store.runPipeline at ran
    split at builds
    case h_1 => cases builds
    case h_2 text texts =>
      split at builds
      case isTrue awaiting =>
        cases builds
        rw [texts] at ran
        obtain ⟨current, wrote, _⟩ := Store.write_wrote ran
        refine ⟨current, _, wrote, ?_⟩
        unfold withReceipt
        rw [if_pos awaiting]
      case isFalse => cases builds
  case h_2 id known answered =>
    have plain : choice.answer ≠ .raises := by
      rw [answered]
      nofun
    have ran := Task.resume_loaded resumed plain
    rw [answered] at ran
    change store.acceptPhotoMismatch settings id known choice.now = _ at ran
    unfold Store.acceptPhotoMismatch at ran
    split at builds
    case isTrue mismatch =>
      cases builds
      rw [if_neg (not_not.mpr mismatch)] at ran
      obtain ⟨current, wrote, _⟩ := Store.write_wrote ran
      exact ⟨current, _, wrote, rfl⟩
    case isFalse => cases builds
  case h_3 proceed id known check answered =>
    have plain : choice.answer ≠ .raises := by
      rw [answered]
      nofun
    have ran := Task.resume_loaded resumed plain
    rw [answered] at ran
    change store.recheckImage settings id known proceed check choice.now = _
      at ran
    unfold Store.recheckImage at ran
    dsimp only at builds
    split at builds
    case isTrue awaiting =>
      cases builds
      obtain ⟨current, wrote, _⟩ := Store.write_wrote ran
      refine ⟨current, _, wrote, ?_⟩
      unfold withReceipt
      rw [if_pos awaiting]
    case isFalse => cases builds
  case h_4 => cases builds

/-- A step that builds no receipt and does not revise the grievance leaves it as
its receipt says. -/
theorem Task.Moves.keeps_onFile {archive : Archive}
    (moves : task.Moves settings geometry store now answer after progress)
    (idle : task.building store.routes { now := now, answer := answer } =
      none)
    (other : task.revising ≠ some id)
    (before : store.Every id fun row =>
      row.pdfPath ≠ none → archive.OnFile settings id row) :
    after.Every id fun row =>
      row.pdfPath ≠ none → archive.OnFile settings id row := by
  refine moves.every (fun _ _ _ _ _ absent => absurd rfl absent) ?_ before
  intro known writes current touches _ onFile
  unfold Archive.OnFile at onFile ⊢
  rw [touches.ticket other, touches.pdfPath idle]
  exact onFile

/-- A step that builds no receipt puts none on record. -/
theorem Task.Moves.keeps_unbuilt
    (moves : task.Moves settings geometry store now answer after progress)
    (idle : task.building store.routes { now := now, answer := answer } =
      none)
    (before : store.Every id (·.pdfPath = none)) :
    after.Every id (·.pdfPath = none) := by
  refine moves.every (fun _ _ _ _ _ => rfl) ?_ before
  intro known writes current touches _ none
  rw [touches.pdfPath idle]
  exact none

end

/-! ## The invariant -/

structure Archive.Sound (settings : Settings) (archive : Archive) : Prop where
  paths : ∀ id, archive.store.Every id fun row =>
    ∀ path, row.pdfPath = some path → path = receiptPath settings id
  current : ∀ id, id ∉ archive.revised → archive.store.Every id fun row =>
    row.pdfPath ≠ none → archive.OnFile settings id row
  calls : ∀ call ∈ archive.calls, call.Current

/-- A run of `dispatch_grievance` that has loaded a receipt has loaded the one
on record. -/
def keepsReceipts (settings : Settings) : Process.Invariant Archive Clerk :=
  { shared := Archive.Sound settings
    own := fun archive clerk => ∀ task id known path,
      clerk.job.task = some task → task.sending = some (id, known) →
      known.pdfPath = some path →
      path = receiptPath settings id ∧ archive.store.Has id (·.pdfPath ≠ none)
    pair := fun _ _ => True }

section

variable {settings : Settings} {geometry : Geometry} {archive : Archive}
  {store : Store} {choice : Choice} {task : Task} {progress : Progress}
  {id : String}

theorem Archive.Sound.initial (filed : archive.Filed settings)
    (uncalled : archive.calls = []) : archive.Sound settings := by
  refine ⟨?_, ?_, ?_⟩
  · intro id row found path recorded
    exact (filed id row path found recorded).1
  · intro id _ row found present
    obtain ⟨path, recorded⟩ := Option.ne_none_iff_exists'.mp present
    obtain ⟨rfl, onFile⟩ := filed id row path found recorded
    exact onFile
  · intro call member
    rw [uncalled] at member
    cases member

theorem Archive.Sound.of_sameRows (sound : archive.Sound settings)
    (same : archive.store.SameRows store) :
    Archive.Sound settings { archive with store := store } := by
  refine ⟨?_, ?_, sound.calls⟩
  · intro id row found
    rw [same.1] at found
    exact sound.paths id row found
  · intro id unrevised row found
    rw [same.1] at found
    exact sound.current id unrevised row found

/-- A new file is the one of its own grievance only. -/
theorem Archive.Sound.keep (sound : archive.Sound settings)
    (building : Building) :
    (archive.keep settings building).Sound settings := by
  refine ⟨sound.paths, ?_, sound.calls⟩
  intro id unrevised row found present
  unfold Archive.OnFile
  by_cases same : id = building.id
  · subst same
    refine ⟨pdfSummary building.row, Table.find_put_self _ _ _, ?_⟩
    unfold Archive.keep at unrevised
    dsimp only at unrevised
    split at unrevised
    case isTrue matched =>
      have ticket : archive.store.ticketOf building.id = some (.of row) := by
        unfold Store.ticketOf
        rw [show archive.store.grievances.find building.id = some row
          from found]
        rfl
      rw [ticket] at matched
      simpa using matched
    case isFalse => exact absurd (.head _) unrevised
  · have before : id ∉ archive.revised := by
      intro member
      apply unrevised
      unfold Archive.keep
      dsimp only
      split
      · exact member
      · exact .tail _ member
    obtain ⟨summary, filed, matched⟩ := sound.current id before row found present
    refine ⟨summary, ?_, matched⟩
    have elsewhere : receiptPath settings id ≠
        receiptPath settings building.id :=
      fun paths => same (receiptPath_injective paths)
    exact (Table.find_put_of_ne _ _ elsewhere).trans filed

theorem Archive.revised_subset {id : String} (member : id ∈ archive.revised) :
    id ∈ archive.revisedIn (some task) none store := by
  unfold Archive.revisedIn
  split
  case h_1 built => cases built
  case h_2 => exact member
  case h_3 =>
    split
    · exact member
    · exact .tail _ member

/-- A step that builds no receipt leaves the grievances that it does not revise
as their receipts say. -/
theorem Archive.Sound.moved (sound : archive.Sound settings)
    (idle : task.building archive.store.routes choice = none)
    (moves : task.Moves settings geometry archive.store choice.now
      choice.answer store progress) (id : String)
    (unrevised : id ∉ archive.revisedIn (some task) none store) :
    store.Every id fun row =>
      row.pdfPath ≠ none → archive.OnFile settings id row := by
  have before : id ∉ archive.revised :=
    fun member => unrevised (Archive.revised_subset member)
  by_cases revises : task.revising = some id
  · intro row found present
    unfold Archive.revisedIn at unrevised
    rw [Option.bind_some, revises] at unrevised
    dsimp only at unrevised
    split at unrevised
    case isFalse => exact absurd (.head _) unrevised
    case isTrue same =>
      -- The ticket is the one from before, and so is the receipt.
      unfold Store.ticketOf at same
      rw [found, Option.map_some] at same
      obtain ⟨earlier, foundEarlier, ticket⟩ := Option.map_eq_some_iff.mp same
      have recorded : earlier.pdfPath ≠ none := by
        intro absent
        have unbuilt : archive.store.Every id (·.pdfPath = none) := by
          intro other lookup
          cases foundEarlier.symm.trans lookup
          exact absent
        exact present (moves.keeps_unbuilt idle unbuilt row found)
      have onFile := sound.current id before earlier foundEarlier recorded
      unfold Archive.OnFile at onFile ⊢
      rw [← ticket]
      exact onFile
  · exact moves.keeps_onFile idle revises (sound.current id before)

/-- A committed receipt is current. -/
theorem Archive.Sound.built (sound : archive.Sound settings)
    {building : Building} {current : Grievance}
    {fields : Grievance → Grievance} {now : Time}
    (wrote : archive.store.Wrote store building.id building.known current
      (·.set now fields))
    (sets : fields building.known =
      buildAndStorePdf settings building.id building.row)
    (filed : archive.files.find (receiptPath settings building.id) =
      some (pdfSummary building.row))
    (alone : Ticket.of (building.known.writeBack current building.row) =
      .of building.row)
    (own : (Ticket.of building.row).departmentName =
      (pdfSummary building.row).departmentName)
    (id : String)
    (unrevised : id ∉ archive.revised.filter (· ≠ building.id)) :
    store.Every id fun row =>
      row.pdfPath ≠ none → archive.OnFile settings id row := by
  intro row found present
  by_cases same : id = building.id
  · subst same
    have is : row = (RowSession.set
        { known := building.known, current := current } now fields).current :=
      Option.some.inj (found.symm.trans wrote.find_self)
    have ticket : Ticket.of (fields building.known) = .of building.row := by
      rw [sets]
      rfl
    have written : Ticket.of row = .of building.row := by
      rw [is]
      exact (set_ticket_eq ticket).trans alone
    refine ⟨pdfSummary building.row, filed, ?_⟩
    rw [written]
    exact pdfSummary_matches own
  · have before : id ∉ archive.revised := by
      intro member
      apply unrevised
      exact List.mem_filter.mpr ⟨member, decide_eq_true same⟩
    rw [wrote.find_other same] at found
    exact sound.current id before row found present

/-- What the dispatcher is given with a receipt on record that was not
revised. -/
theorem Archive.Sound.called (sound : archive.Sound settings)
    {calls : List DispatchCall}
    (called : archive.called (some task) choice = some calls)
    (loaded : ∀ id known path, task.sending = some (id, known) →
      known.pdfPath = some path →
      path = receiptPath settings id ∧
        archive.store.Has id (·.pdfPath ≠ none))
    (permitted : ∀ id known, task = .dispatching id known →
      choice.answer = .plain → known.pdfPath ≠ none ∧ id ∉ archive.revised) :
    ∀ call ∈ calls, call.Current := by
  unfold Archive.called at called
  split at called
  case h_1 id known doing answered =>
    cases doing
    split at called
    case h_1 given stored attached found =>
      cases called
      intro call member
      cases List.mem_singleton.mp member
      obtain ⟨present, unrevised⟩ := permitted id known rfl answered
      obtain ⟨path, recorded⟩ := Option.ne_none_iff_exists'.mp present
      obtain ⟨rfl, row, lookup, kept⟩ := loaded id known path rfl recorded
      cases found.symm.trans lookup
      obtain ⟨summary, filed, matched⟩ :=
        sound.current id unrevised stored found kept
      unfold Archive.attachment at attached
      rw [recorded, receiptPath_truthy, if_pos rfl, Option.getD_some, filed]
        at attached
      cases attached
      exact ⟨summary, rfl, matched⟩
    case h_2 => cases called
  case h_2 =>
    cases called
    intro call member
    cases member

/-- A run that sends a grievance has come from a step of its own task. -/
theorem Job.next_sending {job next : Job} {task : Task}
    {sent : String × Grievance} (arrived : job.next progress = some next)
    (doing : next.task = some task) (sends : task.sending = some sent) :
    progress = .more task := by
  unfold Job.next at arrived
  split at arrived
  case h_1 further =>
    split at arrived
    · cases arrived
      cases doing
      rfl
    · cases arrived
      cases doing
      rfl
  case h_2 =>
    unfold Job.sweepNext at arrived
    split at arrived
    · cases arrived
    · cases arrived
      cases doing
      cases sends

/-- What a run sends has the receipt on record, as long as it is on record. -/
theorem Archive.Sound.sending (sound : archive.Sound settings)
    (moves : task.Moves settings geometry archive.store choice.now
      choice.answer store progress)
    (own : ∀ id known path, task.sending = some (id, known) →
      known.pdfPath = some path →
      path = receiptPath settings id ∧ archive.store.Has id (·.pdfPath ≠ none))
    {next : Task} {knows : Grievance} {path : String}
    (more : progress = .more next) (sends : next.sending = some (id, knows))
    (recorded : knows.pdfPath = some path) :
    path = receiptPath settings id ∧ store.Has id (·.pdfPath ≠ none) := by
  subst more
  have kept : path = receiptPath settings id ∧
      archive.store.Has id (·.pdfPath ≠ none) := by
    rcases moves.sending sends with
      ⟨_, _, found⟩ | ⟨known, _, _, sending, rfl⟩
    · have present : knows.pdfPath ≠ none := by
        rw [recorded]
        exact Option.some_ne_none path
      exact ⟨sound.paths id knows found path recorded, knows, found, present⟩
    · exact own id known path sending recorded
  exact ⟨kept.1, moves.keeps_present RowSession.pdfPath_isColumn
    (fun _ _ => Change.pdfPath) kept.2⟩

/-- A receipt on record stays there. -/
theorem Task.resume_recorded {before : Store}
    (moving : task.resume settings geometry before choice =
      some (store, progress))
    (recorded : before.Has id (·.pdfPath ≠ none)) :
    store.Has id (·.pdfPath ≠ none) := by
  rcases Task.resume_cases moving with ⟨_, rfl, _⟩ | ⟨_, moves⟩
  · obtain ⟨row, found, present⟩ := recorded
    refine ⟨row, ?_, present⟩
    rw [(task.release_sameRows before).1]
    exact found
  · exact moves.keeps_present RowSession.pdfPath_isColumn
      (fun _ _ => Change.pdfPath) recorded

/-- Whatever a task does, the files and the table stay sound. -/
theorem Archive.Sound.act (sound : archive.Sound settings)
    {calls : List DispatchCall}
    (moving : task.resume settings geometry archive.store choice =
      some (store, progress))
    (called : ∀ call ∈ calls, call.Current)
    (commits : ∀ building current,
      task.building archive.store.routes choice = some building →
      archive.store.grievances.find building.id = some current →
      archive.files.find (receiptPath settings building.id) =
          some (pdfSummary building.row) ∧
        Ticket.of (building.known.writeBack current building.row) =
          .of building.row ∧
        (Ticket.of building.row).departmentName =
          (pdfSummary building.row).departmentName) :
    Archive.Sound settings
      { store := store, files := archive.files
        revised := archive.revisedIn (some task)
          (task.building archive.store.routes choice) store
        calls := calls ++ archive.calls } := by
  have paths : ∀ id, store.Every id fun row =>
      ∀ path, row.pdfPath = some path → path = receiptPath settings id := by
    intro id
    rcases Task.resume_cases moving with ⟨_, rfl, _⟩ | ⟨_, moves⟩
    · exact (sound.of_sameRows (task.release_sameRows _)).paths id
    · exact moves.paths (sound.paths id)
  have current : ∀ id, id ∉ archive.revisedIn (some task)
        (task.building archive.store.routes choice) store →
      store.Every id fun row =>
        row.pdfPath ≠ none → archive.OnFile settings id row := by
    intro id unrevised
    cases building : task.building archive.store.routes choice with
    | none =>
        rw [building] at unrevised
        rcases Task.resume_cases moving with ⟨_, rfl, _⟩ | ⟨_, moves⟩
        · have before : id ∉ archive.revised :=
            fun member => unrevised (Archive.revised_subset member)
          exact (sound.of_sameRows (task.release_sameRows _)).current id before
        · exact sound.moved building moves id unrevised
    | some building' =>
        rw [building] at unrevised
        obtain ⟨present, fields, wrote, sets⟩ :=
          Task.building_wrote building moving
        obtain ⟨filed, alone, own⟩ :=
          commits building' present building wrote.found
        exact sound.built wrote sets filed alone own id unrevised
  refine ⟨paths, current, ?_⟩
  intro call member
  rcases List.mem_append.mp member with new | old
  · exact called call new
  · exact sound.calls call old

end

theorem keepsReceipts_holds {settings : Settings} {geometry : Geometry}
    {admissible : Grievance → Prop} {world : World Archive Clerk}
    (reachable : (filing settings geometry admissible).system.ReachableWhen
      (KeepsReceipts settings) world) :
    (keepsReceipts settings).Holds world := by
  refine Process.Invariant.holds ?initially ?spawned ?resumed ?crashed reachable
  case initially =>
    intro archive initial
    exact .initial initial.2.1 initial.2.2.2
  case spawned =>
    intro world pid request _ _ _
    refine ⟨?_, fun _ _ _ _ => ⟨trivial, trivial⟩⟩
    intro task id known path doing sends
    cases request with
    | sweepExpiredWindows => cases doing
    | sweepStuckDispatching => cases doing
    | _ =>
        cases doing
        cases sends
  case resumed =>
    intro world pid deed clerk after next _ holding permitted running resumed
    have sound := holding.1
    have owns := holding.2.1
    cases deed with
    | build choice =>
        obtain ⟨task, building, doing, builds, rfl, rfl⟩ :=
          Archive.build_cases resumed
        refine ⟨sound.keep building, ?_, ?_⟩
        · intro other right _ runningOther
          exact owns other right runningOther
        · intro further arrives
          cases arrives
          exact ⟨owns pid clerk running, fun _ _ _ _ => ⟨trivial, trivial⟩⟩
    | act choice =>
        obtain ⟨store, job, calls, ran, called, rfl, rfl⟩ :=
          Archive.act_cases resumed
        rcases Job.resume_cases ran with
          ⟨task, progress, doing, moving, rfl⟩ |
          ⟨rfl, idle, _, _, ids, same, _⟩
        · rw [doing] at called ⊢
          have loaded := fun id known path =>
            owns pid clerk running task id known path doing
          have given := sound.called called loaded fun id known is =>
            permitted.calls pid choice clerk id known rfl running
              (doing.trans (congrArg some is))
          have kept := sound.act moving given fun building current =>
            permitted.commits pid choice clerk task building current rfl
              running doing
          refine ⟨kept, ?_, ?_⟩
          · intro other right _ runningOther task' id known path doing' sends
              recorded
            obtain ⟨is, before⟩ := owns other right runningOther task' id known
              path doing' sends recorded
            exact ⟨is, Task.resume_recorded moving before⟩
          · intro further arrives
            refine ⟨?_, fun _ _ _ _ => ⟨trivial, trivial⟩⟩
            obtain ⟨job, arrived, rfl⟩ := Option.map_eq_some_iff.mp arrives
            intro task' id known path doing' sends recorded
            have more := Job.next_sending arrived doing' sends
            rcases Task.resume_cases moving with
              ⟨_, _, raised⟩ | ⟨_, moves⟩
            · rw [raised] at more
              cases more
            · exact sound.sending moves loaded more sends recorded
        · rw [idle] at called ⊢
          cases called
          refine ⟨sound, ?_, ?_⟩
          · intro other right _ runningOther
            exact owns other right runningOther
          · intro further arrives
            refine ⟨?_, fun _ _ _ _ => ⟨trivial, trivial⟩⟩
            obtain ⟨job, arrived, rfl⟩ := Option.map_eq_some_iff.mp arrives
            intro task' id known path doing' sends recorded
            have onward : Job.next (.sweeping (.opened .dispatch "") ids)
                .finished = some job := same.symm.trans arrived
            cases Job.next_sending onward doing' sends
  case crashed =>
    intro world pid clerk _ holding _ _
    have same := Job.release_sameRows world.shared.store clerk.job
    refine ⟨holding.1.of_sameRows same, ?_⟩
    intro other right _ runningOther task id known path doing sends recorded
    obtain ⟨is, row, found, present⟩ :=
      holding.2.1 other right runningOther task id known path doing sends
        recorded
    refine ⟨is, row, ?_, present⟩
    exact (congrArg (·.find id) same.1).trans found

/-- In runs that keep the receipts, every receipt that the dispatcher is given
says what the grievance says at that moment. -/
theorem dispatched_receipt_current {settings : Settings}
    {geometry : Geometry} {admissible : Grievance → Prop}
    {world : World Archive Clerk}
    (reachable : (filing settings geometry admissible).system.ReachableWhen
      (KeepsReceipts settings) world) :
    ∀ call ∈ world.shared.calls, call.Current :=
  (keepsReceipts_holds reachable).1.calls

/-! ## A receipt before and after a revision -/

/-- The test of `KeepsReceipts` for a process that is alone. -/
def keepsReceiptsAlone (settings : Settings) (archive : Archive)
    (clerk : Clerk) : Deed → Bool
  | .build _ => true
  | .act choice =>
      ((clerk.job.task.bind (·.building archive.store.routes choice)).all
        fun building =>
          (archive.store.grievances.find building.id).all fun current =>
            archive.files.find (receiptPath settings building.id) =
                some (pdfSummary building.row) &&
              Ticket.of (building.known.writeBack current building.row) =
                .of building.row &&
              (Ticket.of building.row).departmentName =
                (pdfSummary building.row).departmentName) &&
        match clerk.job.task, choice.answer with
        | some (.dispatching id known), .plain =>
            known.pdfPath.isSome && id ∉ archive.revised
        | _, _ => true

theorem keepsReceipts_of_alone {settings : Settings}
    {world : World Archive Clerk} {clerk : Clerk} {deed : Deed}
    (only : Process.OnlyRunning world 0 (some clerk))
    (test : keepsReceiptsAlone settings world.shared clerk deed = true) :
    KeepsReceipts settings world (.resume 0 deed) := by
  constructor
  case commits =>
    intro pid choice other task building current same running doing builds
      found
    cases same
    obtain ⟨-, rfl⟩ := only.eq_of_running running
    simp only [keepsReceiptsAlone, doing, Option.bind_some, builds,
      Option.all_some, found, Bool.and_eq_true, decide_eq_true_eq] at test
    obtain ⟨⟨⟨filed, ticket⟩, own⟩, _⟩ := test
    exact ⟨filed, ticket, own⟩
  case calls =>
    intro pid choice other id known same running doing plain
    cases same
    obtain ⟨-, rfl⟩ := only.eq_of_running running
    simp only [keepsReceiptsAlone, doing, plain, Bool.and_eq_true,
      decide_eq_true_eq] at test
    obtain ⟨_, present, unrevised⟩ := test
    exact ⟨Option.isSome_iff_ne_none.mp present, unrevised⟩

theorem keepsReceipts_of_spawn {settings : Settings}
    {world : World Archive Clerk} {request : Request} :
    KeepsReceipts settings world (.spawn 0 request) := by
  constructor
  case commits =>
    intro pid choice clerk task building current same
    cases same
  case calls =>
    intro pid choice clerk id known same
    cases same

/-- The reviewed grievance with its receipt, where its route is live. -/
def receiptedGrievance (rank : Priority) : Grievance :=
  { reviewedGrievance with
    departmentKey := some "electrical"
    priority := some rank
    pdfPath := some (receiptPath defaultSettings "g") }

def receiptedArchive (rank : Priority) : Archive :=
  { store :=
      { Store.single "g" (receiptedGrievance rank) with
        routes :=
          [{ jurisdictionId := demoJurisdictionId
             taxonomyVersion := taxonomyVersion
             categoryId := "streetlight_out", departmentKey := "electrical"
             owningAgency := "Ward office", slaHours := some 72
             dispatchEnabled := true, effectiveFrom := none
             effectiveTo := none }] }
    files :=
      (Table.empty).put (receiptPath defaultSettings "g")
        (pdfSummary (receiptedGrievance rank))
    revised := [], calls := [] }

def confirms : Request × List Deed :=
  (.confirmDraft "g" "citizen",
    (List.replicate 7 (.act ⟨1, .plain⟩)) ++
      [.act ⟨1, .accepted "MUN-1"⟩, .act ⟨1, .plain⟩])

def rebuilds : Request × List Deed :=
  (.recheckImage "g" true,
    [.act ⟨1, .plain⟩, .build ⟨1, .photo .unread⟩,
     .act ⟨1, .photo .unread⟩])

def reextracts : Request × List Deed :=
  (.reextract "g",
    [.act ⟨1, .plain⟩, .act ⟨1, .extraction
      { streetlightExtraction with safety := .possible }⟩])

/-- The priority that the dispatcher is given, and the one in the table. -/
def Archive.priorities (archive : Archive) :
    List (Option Priority × Option Priority) :=
  archive.calls.map fun call =>
    (call.given.map (·.priority), call.stored.priority)

theorem receiptedArchive_initial (rank : Priority) :
    (filing defaultSettings flatMap fun _ => True).initial
      (receiptedArchive rank) := by
  refine ⟨⟨rfl, rfl, fun _ _ _ => trivial⟩, ?_, rfl, rfl⟩
  intro id row path found recorded
  have lookup : (Table.empty.put "g" (receiptedGrievance rank)).find id =
      some row := found
  rw [Table.find_put] at lookup
  split at lookup
  case isFalse => cases lookup
  case isTrue same =>
    cases same
    cases lookup
    cases recorded
    exact ⟨rfl, pdfSummary (receiptedGrievance rank), rfl,
      pdfSummary_matches (by cases rank <;> decide +kernel)⟩

/-- A grievance that is revised, gets another receipt and is sent. -/
theorem dispatched_receipt_rebuilt :
    ∃ world : World Archive Clerk,
      world.shared.priorities = [(some .priority, some .priority)] ∧
      ∀ call ∈ world.shared.calls, call.Current := by
  have ran : ((filing defaultSettings flatMap fun _ => True).serial
      (keepsReceiptsAlone defaultSettings) (receiptedArchive .normal)
      [reextracts, rebuilds, confirms]).map Archive.priorities =
      some [(some .priority, some .priority)] := by
    decide +kernel
  obtain ⟨world, reached, _, observed⟩ :=
    Process.Program.reachable_serial (receiptedArchive_initial .normal)
      (fun _ _ _ _ => keepsReceipts_of_spawn)
      (fun _ _ _ => keepsReceipts_of_alone) ran
  exact ⟨world, observed, dispatched_receipt_current reached⟩

/-- The second extraction raises the priority; the receipt is the first. -/
theorem dispatched_receipt_stale :
    ∃ world : World Archive Clerk,
      (filing defaultSettings flatMap fun _ => True).system.Reachable world ∧
      ∃ call ∈ world.shared.calls, ¬ call.Current := by
  have ran : ((filing defaultSettings flatMap fun _ => True).serial
      (fun _ _ _ => true) (receiptedArchive .normal)
      [reextracts, confirms]).map Archive.priorities =
      some [(some .normal, some .priority)] := by
    decide +kernel
  obtain ⟨world, reached, _, observed⟩ :=
    Process.Program.reachable_served (receiptedArchive_initial .normal) ran
  refine ⟨world, reached, ?_⟩
  have member : (some Priority.normal, some Priority.priority) ∈
      world.shared.priorities := by
    rw [observed]
    exact .head _
  obtain ⟨call, called, shows⟩ := List.mem_map.mp member
  obtain ⟨given, stored⟩ := Prod.mk.inj shows
  refine ⟨call, called, ?_⟩
  intro current
  obtain ⟨summary, attached, matched⟩ := current
  have same := matched.priority
  rw [attached, Option.map_some, Option.some.injEq] at given
  have kept : (Ticket.of call.stored).priority = some .priority := stored
  rw [given, kept] at same
  cases same

end JanSetu.Pipeline
