import JanSetu.Library.Nearest
import JanSetu.Pipeline.Decision

/-!
# One open window per issue

A confirmation searches for an open window of its issue and, when it finds
none, opens its own.  Search and commit are two steps, so that there is one
window per issue as long as the search, repeated at the commit, still finds
nothing.
-/

namespace JanSetu.Pipeline

open Process (Label)
open Transition.System (Always)

/-- The grievance waits in a window that is open at the moment: it was opened
before, and has not expired. -/
def OpenAt (settings : Settings) (moment : Time) (row : Grievance) : Prop :=
  row.status = .pendingWindow ∧ ∃ expires, row.windowExpiresAt = some expires ∧
    expires - hours settings.dedupWindowHours ≤ moment ∧ moment < expires

/-- The two are of one category, and each lies within the radius of the
other. -/
def SameIssue (settings : Settings) (geometry : Geometry)
    (row other : Grievance) : Prop :=
  (∃ category, row.category = some category ∧
      other.category = some category) ∧
    ∃ lat lon lat' lon', row.locationLatitude = some lat ∧
      row.locationLongitude = some lon ∧
      other.locationLatitude = some lat' ∧
      other.locationLongitude = some lon' ∧
      geometry.haversineM lat lon lat' lon' ≤ settings.dedupRadiusM ∧
      geometry.haversineM lat' lon' lat lon ≤ settings.dedupRadiusM

theorem SameIssue.symm {settings : Settings} {geometry : Geometry}
    {row other : Grievance} (same : SameIssue settings geometry row other) :
    SameIssue settings geometry other row := by
  obtain ⟨⟨category, own, others⟩, lat, lon, lat', lon', latitude, longitude,
    latitude', longitude', near, back⟩ := same
  exact ⟨⟨category, others, own⟩, lat', lon', lat, lon, latitude', longitude',
    latitude, longitude, back, near⟩

/-- At no moment are the windows of two grievances of one issue open. -/
def Store.OneWindow (settings : Settings) (geometry : Geometry)
    (store : Store) : Prop :=
  ∀ first second row other moment, first ≠ second →
    store.grievances.find first = some row →
    store.grievances.find second = some other →
    OpenAt settings moment row → OpenAt settings moment other →
    ¬ SameIssue settings geometry row other

def Store.rows (store : Store) : List (String × Grievance) :=
  store.grievances.rows.entries.map fun entry => (entry.1, entry.2)

theorem Store.mem_rows {store : Store} {id : String} {row : Grievance} :
    (id, row) ∈ store.rows ↔ store.grievances.find id = some row := by
  rw [← Table.mem_entries_iff]
  unfold Store.rows
  rw [List.mem_map]
  constructor
  · rintro ⟨⟨found, stored⟩, member, same⟩
    cases same
    exact member
  · intro member
    exact ⟨⟨id, row⟩, member, rfl⟩

/-! ## The search -/

section

variable {geometry : Geometry} {lat lon radiusM : ℚ}

/-- The distance of a grievance, when it has a place. -/
def Geometry.distanceTo (geometry : Geometry) (lat lon : ℚ)
    (candidate : String × Grievance) : Option ℚ :=
  match candidate.2.locationLatitude, candidate.2.locationLongitude with
  | some candidateLat, some candidateLon =>
      some (geometry.haversineM lat lon candidateLat candidateLon)
  | _, _ => none

theorem nearest_eq_closer :
    nearest geometry lat lon radiusM =
      Nearest.closer (geometry.distanceTo lat lon) radiusM := by
  funext best candidate
  unfold nearest Nearest.closer Geometry.distanceTo
  cases candidate.2.locationLatitude with
  | none => rfl
  | some candidateLat =>
      cases candidate.2.locationLongitude with
      | none => rfl
      | some candidateLon => rfl

/-- Nothing is found only if no candidate lies within the radius. -/
theorem nearest_none {candidates : List (String × Grievance)}
    (nothing : candidates.foldl (nearest geometry lat lon radiusM) none =
      none)
    {candidate : String × Grievance} (member : candidate ∈ candidates)
    {lat' lon' : ℚ} (latitude : candidate.2.locationLatitude = some lat')
    (longitude : candidate.2.locationLongitude = some lon') :
    ¬ geometry.haversineM lat lon lat' lon' ≤ radiusM := by
  intro near
  have known : geometry.distanceTo lat lon candidate =
      some (geometry.haversineM lat lon lat' lon') := by
    unfold Geometry.distanceTo
    rw [latitude, longitude]
  have found := Nearest.search_exact.1.mpr
    ⟨(geometry.haversineM lat lon lat' lon', candidate), member, known, near⟩
  rw [nearest_eq_closer] at nothing
  unfold Nearest.search at found
  rw [nothing] at found
  cases found

end

/-- `find_dedup_candidates` selects every open window of the issue: its
bounding box leaves out nobody who is near. -/
def Store.Covered (settings : Settings) (geometry : Geometry) (store : Store)
    (id : String) (known : Grievance) (now : Time) : Prop :=
  ∀ entry ∈ store.rows, entry.1 ≠ id →
    SameIssue settings geometry known entry.2 →
    entry.2.status = .pendingWindow → entry.2.windowExpiresAt.any (now < ·) →
    known.locationLatitude.all fun lat =>
      known.locationLongitude.all fun lon =>
        dedupCandidate geometry
          (known.category.filter (· ≠ "") |>.getD "other") lat lon
          settings.dedupRadiusM now entry.2

/-- A search that finds nothing among candidates that cover the issue: no
window of it is open. -/
theorem Store.Covered.nothing {settings : Settings} {geometry : Geometry}
    {store : Store} {id other : String} {known row : Grievance} {now : Time}
    (covered : store.Covered settings geometry id known now)
    (searched : findDuplicate geometry settings.dedupRadiusM store.rows id
      known now = none)
    (found : store.grievances.find other = some row) (different : other ≠ id)
    (same : SameIssue settings geometry known row)
    (pending : row.status = .pendingWindow) :
    ¬ row.windowExpiresAt.any (now < ·) = true := by
  intro unexpired
  have selected := covered (other, row) (Store.mem_rows.mpr found) different
    same pending unexpired
  obtain ⟨_, lat, lon, lat', lon', latitude, longitude, latitude',
    longitude', near, _⟩ := same
  rw [latitude, longitude] at selected
  unfold findDuplicate at searched
  rw [latitude, longitude] at searched
  have nothing := Option.map_eq_none_iff.mp searched
  have member : (other, row) ∈ store.rows.filter fun candidate =>
      candidate.1 ≠ id &&
        dedupCandidate geometry
          (known.category.filter (· ≠ "") |>.getD "other") lat lon
          settings.dedupRadiusM now candidate.2 := by
    apply List.mem_filter.mpr
    refine ⟨Store.mem_rows.mpr found, ?_⟩
    rw [Bool.and_eq_true, decide_eq_true_eq]
    exact ⟨different, selected⟩
  exact nearest_none nothing member latitude' longitude' near

/-! ## Writes -/

/-- The columns an issue is told by. -/
def SamePlace (row other : Grievance) : Prop :=
  row.category = other.category ∧
    row.locationLatitude = other.locationLatitude ∧
    row.locationLongitude = other.locationLongitude

theorem SamePlace.trans {first second third : Grievance}
    (before : SamePlace second first) (after : SamePlace third second) :
    SamePlace third first :=
  ⟨after.1.trans before.1, after.2.1.trans before.2.1,
    after.2.2.trans before.2.2⟩

theorem SameIssue.of_place {settings : Settings} {geometry : Geometry}
    {row other row' other' : Grievance}
    (same : SameIssue settings geometry row other)
    (first : SamePlace row' row) (second : SamePlace other' other) :
    SameIssue settings geometry row' other' := by
  unfold SameIssue
  rw [first.1, first.2.1, first.2.2, second.1, second.2.1, second.2.2]
  exact same

theorem SamePlace.symm {row other : Grievance} (same : SamePlace row other) :
    SamePlace other row :=
  ⟨same.1.symm, same.2.1.symm, same.2.2.symm⟩

/-- A write that opens no window. -/
def Unopened (new known : Grievance) : Prop :=
  new.windowExpiresAt = known.windowExpiresAt ∧ SamePlace new known ∧
    (new.status = known.status ∨ new.status ≠ .pendingWindow)

theorem Unopened.trans {first second third : Grievance}
    (before : Unopened second first) (after : Unopened third second) :
    Unopened third first := by
  refine ⟨after.1.trans before.1, before.2.1.trans after.2.1, ?_⟩
  rcases after.2.2 with same | other
  · rw [same]
    exact before.2.2
  · exact .inr other

theorem set_place {session : RowSession} {now : Time}
    {change : Grievance → Grievance}
    (same : SamePlace (change session.known) session.known) :
    SamePlace (session.set now change).current session.current :=
  ⟨RowSession.category_isColumn.set_same _ _ same.1,
    RowSession.locationLatitude_isColumn.set_same _ _ same.2.1,
    RowSession.locationLongitude_isColumn.set_same _ _ same.2.2⟩

theorem set_unopened {session : RowSession} {now : Time}
    {change : Grievance → Grievance}
    (unopened : Unopened (change session.known) session.known) :
    Unopened (session.set now change).current session.current := by
  obtain ⟨window, place, status⟩ := unopened
  refine ⟨RowSession.windowExpiresAt_isColumn.set_same _ _ window,
    set_place place, ?_⟩
  rcases status with same | other
  · exact .inl (RowSession.status_isColumn.set_same _ _ same)
  · rcases RowSession.status_isColumn.set_cases session now with same | same
    · exact .inl same
    · right
      rw [same]
      exact other

theorem Operation.Writes.unopened {settings : Settings} {id : String}
    {known : Grievance} {answer : Answer} {operation : Operation}
    {fields : Grievance → Grievance} {next : Grievance → Progress}
    (writes : operation.Writes settings id known answer fields next)
    (extracts : operation.extracts = false)
    (reviews : operation.reviews = false) :
    Unopened (fields known) known := by
  cases writes with
  | runPipeline => cases extracts
  | reextract => cases extracts
  | updateReview => cases reviews
  | officialAction => cases reviews
  | recheckImage proceed check verdict =>
      have status : (withReceipt settings id (RecheckImage.nextStatus verdict)
          (RecheckImage.fields verdict) known).status =
          RecheckImage.nextStatus verdict :=
        withReceipt_column settings (fun _ => rfl) _ _ known
      refine ⟨withReceipt_column settings (fun _ => rfl) _ _ known,
        ⟨withReceipt_column settings (fun _ => rfl) _ _ known,
          withReceipt_column settings (fun _ => rfl) _ _ known,
          withReceipt_column settings (fun _ => rfl) _ _ known⟩, .inr ?_⟩
      rw [status]
      unfold RecheckImage.nextStatus
      split <;> nofun
  | replacePhoto => exact ⟨rfl, ⟨rfl, rfl, rfl⟩, .inl rfl⟩
  | _ => exact ⟨rfl, ⟨rfl, rfl, rfl⟩, .inr nofun⟩

theorem refusedFields_unopened (row : Grievance) :
    Unopened (refusedFields row) row := by
  refine ⟨rfl, ⟨rfl, rfl, rfl⟩, .inr ?_⟩
  show refusedStatus row ≠ .pendingWindow
  unfold refusedStatus
  split <;> nofun

/-! ## Steps -/

/-- The window that is opened. -/
def openedRow (settings : Settings) (known current : Grievance)
    (confirmedAt now : Time) : Grievance :=
  (registeredThen { known := known, current := current } confirmedAt now
    (pendingWindowFields
      (now + hours settings.dedupWindowHours))).current

theorem openedRow_place (settings : Settings) (known current : Grievance)
    (confirmedAt now : Time) :
    SamePlace (openedRow settings known current confirmedAt now) current :=
  ⟨registeredThen_same RowSession.category_isColumn _ _ _ (fun _ => rfl)
      fun _ => rfl,
    registeredThen_same RowSession.locationLatitude_isColumn _ _ _
      (fun _ => rfl) fun _ => rfl,
    registeredThen_same RowSession.locationLongitude_isColumn _ _ _
      (fun _ => rfl) fun _ => rfl⟩

/-- The expiry is the new one, unless the session has loaded that very
expiry. -/
theorem openedRow_expires {settings : Settings} {known current : Grievance}
    {confirmedAt now : Time}
    (stored : known.windowExpiresAt =
        some (now + hours settings.dedupWindowHours) →
      current.windowExpiresAt = known.windowExpiresAt) :
    (openedRow settings known current confirmedAt now).windowExpiresAt =
      some (now + hours settings.dedupWindowHours) := by
  have isColumn := RowSession.windowExpiresAt_isColumn
  let session : RowSession := { known := known, current := current }
  have loaded : (session.set confirmedAt
      (registeredFields confirmedAt)).known.windowExpiresAt =
      known.windowExpiresAt := isColumn.set_known _ _
  have kept : (session.set confirmedAt
      (registeredFields confirmedAt)).current.windowExpiresAt =
      current.windowExpiresAt := isColumn.set_same _ _ rfl
  unfold openedRow registeredThen
  rw [isColumn.set_current, loaded, kept]
  show Column.write known.windowExpiresAt current.windowExpiresAt
    (some (now + hours settings.dedupWindowHours)) = _
  by_cases same : known.windowExpiresAt =
      some (now + hours settings.dedupWindowHours)
  · rw [stored same, same, Column.write_self]
  · exact Column.write_of_ne (Ne.symm same)

section

variable {settings : Settings} {geometry : Geometry} {store after : Store}
  {now : Time} {answer : Answer} {task : Task} {progress : Progress}
  {id : String}

/-- A grievance in a window was in the same one before, or has just been given
one. -/
theorem Task.Moves.window {row : Grievance}
    (moves : task.Moves settings geometry store now answer after progress)
    (unrevised : ∀ operation id known, task = .loaded operation id known →
      (operation.extracts || operation.reviews) = true →
      operation.refuses known answer = true)
    (found : after.grievances.find id = some row)
    (pending : row.status = .pendingWindow) :
    (∃ before, store.grievances.find id = some before ∧
      before.status = .pendingWindow ∧
      row.windowExpiresAt = before.windowExpiresAt ∧ SamePlace row before) ∨
    ∃ known confirmedAt current, task = .searched id known confirmedAt none ∧
      store.grievances.find id = some current ∧
      row = openedRow settings known current confirmedAt now := by
  have same : store.grievances.find id = some row →
      ∃ before, store.grievances.find id = some before ∧
        before.status = .pendingWindow ∧
        row.windowExpiresAt = before.windowExpiresAt ∧
        SamePlace row before :=
    fun stored => ⟨row, stored, pending, rfl, rfl, rfl, rfl⟩
  -- A row that was written without opening a window.
  have unopened : ∀ current, store.grievances.find id = some current →
      Unopened row current →
      ∃ before, store.grievances.find id = some before ∧
        before.status = .pendingWindow ∧
        row.windowExpiresAt = before.windowExpiresAt ∧
        SamePlace row before := by
    rintro current stored ⟨window, place, status⟩
    refine ⟨current, stored, ?_, window, place⟩
    rcases status with kept | different
    · rw [← kept, pending]
    · exact absurd pending different
  cases moves with
  | created absent draft grievances =>
      rw [grievances, Table.find_put] at found
      split at found
      · cases found
        rw [draft] at pending
        cases pending
      · exact .inl (same found)
  | tapped => exact .inl (same found)
  | loaded => exact .inl (same found)
  | missing => exact .inl (same found)
  | returned => exact .inl (same found)
  | confirming => exact .inl (same found)
  | skipped => exact .inl (same found)
  | @wrote operation _ _ _ _ _ _ writes wrote commits =>
      rcases wrote.find_cases found with ⟨rfl, rfl⟩ | ⟨_, stored⟩
      · refine .inl (unopened _ wrote.found (set_unopened ?_))
        have neither : ¬ (operation.extracts || operation.reviews) = true := by
          intro decides
          have refused := unrevised _ _ _ rfl decides
          rw [writes.accepts commits decides] at refused
          cases refused
        obtain ⟨extracts, reviews⟩ :=
          Bool.or_eq_false_iff.mp (Bool.eq_false_iff.mpr neither)
        exact writes.unopened extracts reviews
      · exact .inl (same stored)
  | confirmed confirms wrote =>
      rcases wrote.find_cases found with ⟨rfl, rfl⟩ | ⟨_, stored⟩
      · refine .inl (unopened _ wrote.found (set_unopened ?_))
        cases confirms <;> exact ⟨rfl, ⟨rfl, rfl, rfl⟩, .inr nofun⟩
      · exact .inl (same stored)
  | searched _ _ grievances =>
      rw [grievances] at found
      exact .inl (same found)
  | openedWindow wrote expires =>
      rcases wrote.find_cases found with ⟨rfl, rfl⟩ | ⟨_, stored⟩
      · subst expires
        exact .inr ⟨_, _, _, rfl, wrote.found, rfl⟩
      · exact .inl (same stored)
  | @merged _ _ _ _ master currentMaster _ count _ _ _ wrote wroteMaster =>
      rcases wroteMaster.find_cases found with ⟨rfl, rfl⟩ | ⟨_, middle⟩
      · have status := RowSession.status_isColumn.set_same
          { known := master, current := currentMaster } now
          (rfl : (reportedFields count master).status = master.status)
        rcases wrote.find_cases wroteMaster.found with
          ⟨_, rfl⟩ | ⟨_, stored⟩
        · rw [status, registeredThen_status .duplicate (fun _ => rfl) nofun]
            at pending
          cases pending
        · exact .inl (unopened _ stored
            (set_unopened ⟨rfl, ⟨rfl, rfl, rfl⟩, .inl rfl⟩))
      · rcases wrote.find_cases middle with ⟨rfl, rfl⟩ | ⟨_, stored⟩
        · rw [registeredThen_status .duplicate (fun _ => rfl) nofun] at pending
          cases pending
        · exact .inl (same stored)
  | called => exact .inl (same found)
  | accepted => exact .inl (same found)
  | refused => exact .inl (same found)
  | submitted wrote =>
      rcases wrote.find_cases found with ⟨rfl, rfl⟩ | ⟨_, stored⟩
      · exact .inl (unopened _ wrote.found
          (set_unopened ⟨rfl, ⟨rfl, rfl, rfl⟩, .inr nofun⟩))
      · exact .inl (same stored)
  | retried wrote =>
      rcases wrote.find_cases found with ⟨rfl, rfl⟩ | ⟨_, stored⟩
      · exact .inl (unopened _ wrote.found
          (set_unopened (refusedFields_unopened _)))
      · exact .inl (same stored)

/-- What a confirmation has loaded of the issue stays what is stored. -/
theorem Task.Moves.keeps_place {known : Grievance}
    (moves : task.Moves settings geometry store now answer after progress)
    (unrevised : ∀ operation id known, task = .loaded operation id known →
      (operation.extracts || operation.reviews) = true →
      operation.refuses known answer = true)
    (before : store.Has id (SamePlace known)) :
    after.Has id (SamePlace known) := by
  refine moves.has ?_ before
  intro knows writes current touches _ place
  have kept : ∀ row, SamePlace row current → SamePlace known row :=
    fun row same => same.symm.trans place
  cases touches with
  | @wrote operation _ _ _ _ writes commits =>
      apply kept
      cases decides : operation.extracts || operation.reviews with
      | true =>
          have refused := unrevised _ _ _ rfl decides
          rw [writes.accepts commits decides] at refused
          cases refused
      | false =>
          obtain ⟨extracts, reviews⟩ := Bool.or_eq_false_iff.mp decides
          exact set_place (writes.unopened extracts reviews).2.1
  | confirmed confirms =>
      apply kept
      apply set_place
      cases confirms <;> exact ⟨rfl, rfl, rfl⟩
  | openedWindow confirmedAt windowExpiresAt =>
      apply kept
      have first : SamePlace (RowSession.set
          { known := knows, current := current } confirmedAt
          (registeredFields confirmedAt)).current current :=
        set_place ⟨rfl, rfl, rfl⟩
      exact first.trans (set_place ⟨rfl, rfl, rfl⟩)
  | merged confirmedAt masterId master =>
      apply kept
      have first : SamePlace (RowSession.set
          { known := knows, current := current } confirmedAt
          (registeredFields confirmedAt)).current current :=
        set_place ⟨rfl, rfl, rfl⟩
      exact first.trans (set_place ⟨rfl, rfl, rfl⟩)
  | reported => exact kept _ (set_place ⟨rfl, rfl, rfl⟩)
  | submitted => exact kept _ (set_place ⟨rfl, rfl, rfl⟩)
  | retried => exact kept _ (set_place ⟨rfl, rfl, rfl⟩)

/-- What the condition asks of the commit of a window. -/
structure Store.Reopens (settings : Settings) (geometry : Geometry)
    (store : Store) (id : String) (known : Grievance) (now : Time) :
    Prop where
  searched : findDuplicate geometry settings.dedupRadiusM store.rows id known
    now = none
  covered : store.Covered settings geometry id known now
  written : known.windowExpiresAt =
      some (now + hours settings.dedupWindowHours) →
    store.Every id (·.windowExpiresAt = known.windowExpiresAt)

/-- A window that is opened by a search that still finds nothing is the only
one of its issue. -/
theorem Store.OneWindow.opened {known current other : Grievance}
    {second : String} {confirmedAt moment : Time}
    (reopens : store.Reopens settings geometry id known now)
    (found : store.grievances.find id = some current)
    (place : SamePlace known current) (different : second ≠ id)
    (stored : store.grievances.find second = some other)
    (first : OpenAt settings moment
      (openedRow settings known current confirmedAt now))
    (later : OpenAt settings moment other) :
    ¬ SameIssue settings geometry
      (openedRow settings known current confirmedAt now) other := by
  intro issue
  have expires : (openedRow settings known current confirmedAt
      now).windowExpiresAt = some (now + hours settings.dedupWindowHours) :=
    openedRow_expires fun loaded => reopens.written loaded current found
  have same : SameIssue settings geometry known other :=
    issue.of_place
      ((openedRow_place settings known current confirmedAt now).symm.trans
        place) ⟨rfl, rfl, rfl⟩
  have expired := reopens.covered.nothing reopens.searched stored different
    same later.1
  apply expired
  obtain ⟨_, ends, window, begun, _⟩ := first
  obtain ⟨_, expiry, window', _, unexpired⟩ := later
  rw [expires] at window
  cases window
  rw [window', Option.any_some, decide_eq_true_eq]
  rw [Int.add_sub_cancel] at begun
  exact Int.lt_of_le_of_lt begun unexpired

end

/-! ## Runs -/

/-- No grievance is extracted or reviewed, and a window is committed only while
the search for it, repeated there, still finds nothing. -/
structure Windowed (settings : Settings) (geometry : Geometry)
    (world : World Store Job) (label : Label Request Choice) : Prop where
  unrevised : ∀ id, Unrevised id world label
  reopens : ∀ pid choice id known confirmedAt,
    label = .resume pid choice → choice.answer ≠ .raises →
    Runs world pid (.searched id known confirmedAt none) →
    world.shared.Reopens settings geometry id known choice.now

def windowed (settings : Settings) (geometry : Geometry) : TaskInvariant :=
  { shared := Store.OneWindow settings geometry
    own := fun store task => ∀ id known,
      task.finalizing = some (id, known) → store.Has id (SamePlace known)
    waiting := fun _ _ => True
    pair := fun _ _ => True }

section

variable {settings : Settings} {geometry : Geometry} {store after : Store}
  {now : Time} {answer : Answer} {task : Task} {progress : Progress}
  {world : World Store Job}

/-- What a step leads to has loaded the issue as it is stored. -/
theorem Task.Moves.placed {next : Task}
    (moves : task.Moves settings geometry store now answer after (.more next))
    (placed : ∀ id known, task.finalizing = some (id, known) →
      store.Has id (SamePlace known))
    {id : String} {known : Grievance}
    (finalizing : next.finalizing = some (id, known)) :
    after.Has id (SamePlace known) := by
  unfold Task.finalizing at finalizing
  split at finalizing
  case h_1 other knows =>
    cases finalizing
    exact ⟨known, moves.loads, rfl, rfl, rfl⟩
  case h_2 other knows confirmedAt duplicate =>
    cases finalizing
    cases moves.leads with
    | searched _ _ grievances =>
        obtain ⟨row, found, place⟩ := placed _ _ rfl
        exact ⟨row, by rw [grievances, found], place⟩
  case h_3 => cases finalizing

/-- A step leaves one window per issue. -/
theorem Task.Moves.oneWindow
    (moves : task.Moves settings geometry store now answer after progress)
    (unrevised : ∀ operation id known, task = .loaded operation id known →
      (operation.extracts || operation.reviews) = true →
      operation.refuses known answer = true)
    (reopens : ∀ id known confirmedAt,
      task = .searched id known confirmedAt none →
      store.Reopens settings geometry id known now)
    (placed : ∀ id known, task.finalizing = some (id, known) →
      store.Has id (SamePlace known))
    (before : store.OneWindow settings geometry) :
    after.OneWindow settings geometry := by
  -- The place that was loaded is the stored one.
  have place : ∀ id known confirmedAt current,
      task = .searched id known confirmedAt none →
      store.grievances.find id = some current → SamePlace known current := by
    rintro id known confirmedAt current rfl found
    obtain ⟨row, found', same⟩ := placed id known rfl
    have is : row = current := Option.some.inj (found'.symm.trans found)
    exact is ▸ same
  intro first second row other moment different foundFirst foundSecond
    openFirst openSecond issue
  have opened : ∀ row' before', row'.windowExpiresAt =
      before'.windowExpiresAt → before'.status = .pendingWindow →
      OpenAt settings moment row' → OpenAt settings moment before' := by
    rintro row' before' same status ⟨_, window⟩
    rw [same] at window
    exact ⟨status, window⟩
  rcases moves.window unrevised foundFirst openFirst.1 with
    ⟨row', stored, status, expires, same⟩ |
    ⟨known, confirmedAt, current, rfl, stored, rfl⟩
  · have openRow := opened row row' expires status openFirst
    rcases moves.window unrevised foundSecond openSecond.1 with
      ⟨other', stored', status', expires', same'⟩ |
      ⟨known, confirmedAt, current, rfl, stored', rfl⟩
    · exact before first second row' other' moment different stored stored'
        openRow (opened other other' expires' status' openSecond)
        (issue.of_place same.symm same'.symm)
    · exact Store.OneWindow.opened (reopens second known confirmedAt rfl)
        stored' (place _ _ _ _ rfl stored') different stored openSecond
        openRow (issue.symm.of_place ⟨rfl, rfl, rfl⟩ same.symm)
  · rcases moves.window unrevised foundSecond openSecond.1 with
      ⟨other', stored', status', expires', same'⟩ |
      ⟨_, _, _, doing, _⟩
    · exact Store.OneWindow.opened (reopens first known confirmedAt rfl)
        stored (place _ _ _ _ rfl stored) (Ne.symm different) stored'
        openFirst (opened other other' expires' status' openSecond)
        (issue.of_place ⟨rfl, rfl, rfl⟩ same'.symm)
    · cases doing
      exact different rfl

/-- As long as no grievance is extracted or reviewed, and every window is
committed while the search for it still finds nothing, no two windows of one
issue are open at one moment. -/
theorem one_open_window
    (reachable : (program settings geometry
      (·.status ≠ .pendingWindow)).system.ReachableWhen
        (Windowed settings geometry) world) :
    world.shared.OneWindow settings geometry := by
  have holds : (windowed settings geometry).Holds world := by
    refine TaskInvariant.holds ?_ ?_ ?_ ?_ ?_ ?_ reachable
    · intro store initial first second row other moment _ found _ open_
      exact absurd open_.1 (initial.2.2 first row found)
    · intro store after same
      refine ⟨?_, ?_, fun _ _ => trivial⟩
      · intro before first second row other moment different found found'
        rw [same.1] at found found'
        exact before first second row other moment different found found'
      · intro task before id known finalizing
        obtain ⟨row, found, place⟩ := before id known finalizing
        exact ⟨row, by rw [same.1, found], place⟩
    · intro world pid request task _ _ _ starts
      refine ⟨?_, fun _ _ _ _ => ⟨trivial, trivial⟩⟩
      intro id known finalizing
      cases request <;> cases starts <;> cases finalizing
    · exact fun _ _ _ _ _ _ _ _ _ _ => trivial
    · intro _ _ store id _
      refine ⟨?_, fun _ _ _ _ => ⟨trivial, trivial⟩⟩
      intro other known finalizing
      cases finalizing
    · intro world pid task choice after progress _ holding permitted runs
        plain moves
      have own := holding.own runs
      have unrevised : ∀ operation id known,
          task = .loaded operation id known →
          (operation.extracts || operation.reviews) = true →
          operation.refuses known choice.answer = true := by
        rintro operation id known rfl decides
        exact (permitted.unrevised id pid choice operation known rfl runs
          decides).resolve_left plain
      constructor
      · apply moves.oneWindow unrevised _ own holding.shared
        rintro id known confirmedAt rfl
        exact permitted.reopens pid choice id known confirmedAt rfl plain runs
      · intro other right _ _ before id known finalizing
        exact moves.keeps_place unrevised (before id known finalizing)
      · exact fun _ before => before
      · rintro next rfl
        refine ⟨?_, fun _ _ _ _ => ⟨trivial, trivial⟩⟩
        intro id known finalizing
        exact moves.placed own finalizing
  exact holds.shared

end

/-! ## Windows one after the other, and two at a time -/

/-- Two grievances of one issue that have still to be confirmed. -/
def oneIssue : Store :=
  { Store.single "h" reviewedGrievance with
    grievances := Table.ofList
      [("h", reviewedGrievance), ("k", reviewedGrievance)] }

theorem oneIssue_initial {settings : Settings} {geometry : Geometry} :
    (program settings geometry (·.status ≠ .pendingWindow)).initial
      oneIssue := by
  refine ⟨rfl, rfl, ?_⟩
  intro id row found
  have member := Table.mem_of_find_ofList found
  simp only [List.mem_cons, Prod.mk.injEq, List.not_mem_nil, or_false]
    at member
  rcases member with ⟨_, rfl⟩ | ⟨_, rfl⟩ <;> exact nofun

def Store.windowOf (store : Store) (id : String) :
    Option (GrievanceStatus × Option Time) :=
  (store.grievances.find id).map fun row => (row.status, row.windowExpiresAt)

/-- A process that is alone, neither extracts nor reviews, and opens a window
that nobody else's is in the way of. -/
def opensAlone (store : Store) (job : Job) (choice : Choice) : Bool :=
  match job.task with
  | some (.loaded operation _ _) => !operation.extracts && !operation.reviews
  | some (.searched id known _ none) =>
      known.windowExpiresAt = none &&
        (findDuplicate flatMap defaultSettings.dedupRadiusM store.rows id
          known choice.now).isNone &&
        store.rows.all fun entry =>
          entry.1 = id || !entry.2.windowExpiresAt.any (choice.now < ·)
  | _ => true

theorem windowed_of_spawn {world : World Store Job} {pid : Nat}
    {request : Request} :
    Windowed defaultSettings flatMap world (.spawn pid request) := by
  constructor
  · intro _ _ _ _ _ same
    cases same
  · intro _ _ _ _ _ same
    cases same

theorem windowed_of_alone {world : World Store Job} {job : Job}
    {choice : Choice} (only : Process.OnlyRunning world 0 (some job))
    (test : opensAlone world.shared job choice = true) :
    Windowed defaultSettings flatMap world (.resume 0 choice) := by
  constructor
  · rintro id pid _ operation known ⟨⟩ runs decides
    have doing := task_of_alone only runs
    simp only [opensAlone, doing, Bool.and_eq_true, Bool.not_eq_true'] at test
    rw [test.1, test.2] at decides
    cases decides
  · rintro pid _ id known confirmedAt ⟨⟩ _ runs
    have doing := task_of_alone only runs
    simp only [opensAlone, doing, Bool.and_eq_true, decide_eq_true_eq,
      Option.isNone_iff_eq_none] at test
    obtain ⟨⟨fresh, nothing⟩, expired⟩ := test
    refine ⟨nothing, ?_, ?_⟩
    · intro entry member different _ _ unexpired
      have ended := List.all_eq_true.mp expired entry member
      simp [different, unexpired] at ended
    · intro loaded
      rw [fresh] at loaded
      cases loaded

/-- The second window is opened after the first has expired. -/
theorem one_open_window_later :
    ∃ world, (program defaultSettings flatMap
        (·.status ≠ .pendingWindow)).system.ReachableWhen
        (Windowed defaultSettings flatMap) world ∧
      world.Quiet ∧ world.shared.OneWindow defaultSettings flatMap ∧
      (world.shared.windowOf "h", world.shared.windowOf "k") =
        (some (.pendingWindow, some (1 + hours 24)),
          some (.pendingWindow, some (days 2 + hours 24))) := by
  have ran : ((program defaultSettings flatMap
      (·.status ≠ .pendingWindow)).serial opensAlone oneIssue
      [(.confirmDraft "h" "citizen",
        [⟨1, .plain⟩, ⟨1, .plain⟩, ⟨1, .plain⟩, ⟨1, .plain⟩, ⟨1, .plain⟩]),
       (.confirmDraft "k" "citizen",
        [⟨days 2, .plain⟩, ⟨days 2, .plain⟩, ⟨days 2, .plain⟩,
         ⟨days 2, .plain⟩, ⟨days 2, .plain⟩])]).map
      (fun store => (store.windowOf "h", store.windowOf "k")) =
      some (some (.pendingWindow, some (1 + hours 24)),
        some (.pendingWindow, some (days 2 + hours 24))) := by
    decide +kernel
  obtain ⟨world, reached, quiet, observed⟩ :=
    Process.Program.reachable_serial oneIssue_initial
      (fun _ _ _ _ => windowed_of_spawn)
      (fun _ _ _ => windowed_of_alone) ran
  exact ⟨world, reached, quiet, one_open_window reached, observed⟩

/-- The grievance with a window that was opened at 2. -/
def openedGrievance : Grievance :=
  { reviewedGrievance with
    status := .pendingWindow, confirmedAt := some 1
    windowExpiresAt := some (2 + hours 24), updatedAt := 2 }

/-- Both confirmations search before either has committed its window. -/
theorem two_open_windows :
    ∃ world, (program defaultSettings flatMap
        (·.status ≠ .pendingWindow)).system.Reachable world ∧
      world.Quiet ∧ ¬ world.shared.OneWindow defaultSettings flatMap := by
  have ran : (((program defaultSettings flatMap
      (·.status ≠ .pendingWindow)).system.run (World.start oneIssue)
      []).bind fun middle =>
      ((program defaultSettings flatMap
        (·.status ≠ .pendingWindow)).system.run middle
        [.spawn 0 (.confirmDraft "h" "citizen"),
         .spawn 1 (.confirmDraft "k" "citizen"),
         .resume 0 ⟨1, .plain⟩, .resume 0 ⟨1, .plain⟩, .resume 0 ⟨1, .plain⟩,
         .resume 1 ⟨1, .plain⟩, .resume 1 ⟨1, .plain⟩, .resume 1 ⟨1, .plain⟩,
         .resume 0 ⟨1, .plain⟩, .resume 1 ⟨1, .plain⟩,
         .resume 0 ⟨2, .plain⟩, .resume 1 ⟨2, .plain⟩]).map fun final =>
        ((middle.shared.grievances.find "h", middle.shared.grievances.find "k"),
          (final.shared.grievances.find "h", final.shared.grievances.find "k"),
          (List.range 2).all fun pid => (final.processes pid).isNone)) =
      some ((some reviewedGrievance, some reviewedGrievance),
        (some openedGrievance, some openedGrievance), true) := by
    decide +kernel
  obtain ⟨_, world, reached, runs, quiet, _, observed⟩ :=
    Process.Program.runs_quiet 2
      (fun store => (store.grievances.find "h", store.grievances.find "k"))
      oneIssue_initial rfl ran
  obtain ⟨first, second⟩ := Prod.mk.inj observed
  refine ⟨world, reached.run runs, quiet, ?_⟩
  intro oneWindow
  have opened : OpenAt defaultSettings 2 openedGrievance :=
    ⟨rfl, 2 + hours 24, rfl, by decide, by decide⟩
  refine oneWindow "h" "k" _ _ 2 (by decide) first second opened opened ?_
  have near : flatMap.haversineM 28 77 28 77 ≤
      defaultSettings.dedupRadiusM := by
    decide +kernel
  exact ⟨⟨"streetlight_out", rfl, rfl⟩, 28, 77, 28, 77, rfl, rfl, rfl, rfl,
    near, near⟩

end JanSetu.Pipeline
