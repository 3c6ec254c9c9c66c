import JanSetu.Pipeline.Decision

/-!
# Report counts

The count of a master is written by the confirmation of its duplicate, from the
row that the search has loaded, and in one transaction with the duplicate's own
row.  The counts are exact as long as each merge finds the duplicate unmerged
and without reports of its own, and the master as the search has found it.
-/

namespace Table

variable {Key Row : Type*} [DecidableEq Key]

theorem count_eq_zero {table : Table Key Row} {test : Key → Row → Bool}
    (none : ∀ key row, table.find key = some row → test key row = false) :
    table.count test = 0 := by
  have empty : table.select test = [] := by
    apply List.eq_nil_iff_forall_not_mem.mpr
    intro key member
    obtain ⟨row, found, passes⟩ := mem_select.mp member
    rw [none key row found] at passes
    cases passes
  rw [count, empty, List.length_nil]

theorem count_pos {table : Table Key Row} {test : Key → Row → Bool}
    {key : Key} {row : Row} (found : table.find key = some row)
    (passes : test key row = true) : 0 < table.count test :=
  List.length_pos_of_mem (mem_select.mpr ⟨row, found, passes⟩)

end Table

namespace JanSetu.Pipeline

open Process (Label)
open Transition.System (Always)

/-- The number of grievances that are filed as duplicates of this one. -/
def Store.duplicatesOf (store : Store) (id : String) : Nat :=
  store.grievances.count fun _ row => row.duplicateOfId = some id

/-- The counts are exact, and duplicates are filed under grievances that are
none. -/
structure Store.Counted (store : Store) : Prop where
  counts : ∀ id,
    store.Every id (·.reportCount = 1 + store.duplicatesOf id)
  masters : ∀ id row masterId, store.grievances.find id = some row →
    row.duplicateOfId = some masterId →
    store.Has masterId fun master =>
      master.duplicateOfId = none ∧ master.status ≠ .duplicate
  filed : ∀ id, store.Every id fun row =>
    row.status = .duplicate → row.duplicateOfId ≠ none

/-- The count that a merge writes is right: the grievance is not yet merged and
has no reports of its own, and the master is none itself and counted as the
search has found it; or the same merge has been committed since the search. -/
def Store.Tallies (store : Store) (id masterId : String)
    (master : Grievance) : Prop :=
  store.Every id (fun row => row.duplicateOfId = none ∧ row.reportCount = 1) ∧
      store.Every masterId (fun row =>
        row.duplicateOfId = none ∧ row.reportCount = master.reportCount) ∨
    store.Every id (·.duplicateOfId = some masterId) ∧
      store.Every masterId (·.reportCount = master.reportCount + 1)

/-- Merges are committed only while their count is right. -/
def Tallied (world : World Store Job) (label : Label Request Choice) :
    Prop :=
  ∀ pid choice id known confirmedAt masterId master,
    label = .resume pid choice → choice.answer ≠ .raises →
    Runs world pid (.searched id known confirmedAt (some (masterId, master))) →
    world.shared.Tallies id masterId master

/-! ## Writes -/

/-- A write that is no merge. -/
def Uncounted (new known : Grievance) : Prop :=
  new.reportCount = known.reportCount ∧
    new.duplicateOfId = known.duplicateOfId ∧
    (new.status = known.status ∨ new.status ≠ .duplicate)

theorem Uncounted.refl (row : Grievance) : Uncounted row row :=
  ⟨rfl, rfl, .inl rfl⟩

theorem Uncounted.trans {first second third : Grievance}
    (before : Uncounted second first) (after : Uncounted third second) :
    Uncounted third first := by
  refine ⟨after.1.trans before.1, after.2.1.trans before.2.1, ?_⟩
  rcases after.2.2 with same | other
  · rw [same]
    exact before.2.2
  · exact .inr other

theorem set_uncounted {session : RowSession} {now : Time}
    {change : Grievance → Grievance}
    (uncounted : Uncounted (change session.known) session.known) :
    Uncounted (session.set now change).current session.current := by
  obtain ⟨count, duplicate, status⟩ := uncounted
  refine ⟨RowSession.reportCount_isColumn.set_same _ _ count,
    RowSession.duplicateOfId_isColumn.set_same _ _ duplicate, ?_⟩
  rcases status with same | other
  · exact .inl (RowSession.status_isColumn.set_same _ _ same)
  · rcases RowSession.status_isColumn.set_cases session now with same | same
    · exact .inl same
    · right
      rw [same]
      exact other

theorem withReceipt_uncounted (settings : Settings) (id : String)
    (status : GrievanceStatus) {fields : Grievance → Grievance}
    {row : Grievance} (uncounted : Uncounted (fields row) row) :
    Uncounted (withReceipt settings id status fields row) row := by
  have same : (withReceipt settings id status fields row).status =
      (fields row).status :=
    withReceipt_column settings (fun _ => rfl) status fields row
  refine ⟨?_, ?_, ?_⟩
  · exact (withReceipt_column settings (fun _ => rfl) _ _ row).trans
      uncounted.1
  · exact (withReceipt_column settings (fun _ => rfl) _ _ row).trans
      uncounted.2.1
  · rw [same]
    exact uncounted.2.2

theorem Operation.Writes.uncounted {settings : Settings} {id : String}
    {known : Grievance} {answer : Answer} {operation : Operation}
    {fields : Grievance → Grievance} {next : Grievance → Progress}
    (writes : operation.Writes settings id known answer fields next) :
    Uncounted (fields known) known := by
  cases writes with
  | runPipeline work =>
      apply withReceipt_uncounted
      refine ⟨rfl, rfl, .inr ?_⟩
      show RunPipeline.nextStatus known work ≠ .duplicate
      unfold RunPipeline.nextStatus
      split <;> nofun
  | recheckImage proceed check verdict =>
      apply withReceipt_uncounted
      refine ⟨rfl, rfl, .inr ?_⟩
      show RecheckImage.nextStatus verdict ≠ .duplicate
      unfold RecheckImage.nextStatus
      split <;> nofun
  | reextract => exact ⟨rfl, rfl, .inl rfl⟩
  | updateReview => exact ⟨rfl, rfl, .inl rfl⟩
  | officialAction => exact ⟨rfl, rfl, .inl rfl⟩
  | replacePhoto => exact ⟨rfl, rfl, .inl rfl⟩
  | _ => exact ⟨rfl, rfl, .inr nofun⟩

theorem refusedFields_uncounted (row : Grievance) :
    Uncounted (refusedFields row) row := by
  refine ⟨rfl, rfl, .inr ?_⟩
  show refusedStatus row ≠ .duplicate
  unfold refusedStatus
  split <;> nofun

section

variable {store after : Store} {id : String} {known current : Grievance}
  {writes : RowSession → RowSession}

/-- How the write of one row changes the number of duplicates of another. -/
theorem Store.Wrote.duplicatesOf
    (wrote : store.Wrote after id known current writes) (other : String) :
    after.duplicatesOf other +
        (decide (current.duplicateOfId = some other)).toNat =
      store.duplicatesOf other +
        (decide ((writes { known := known, current := current }
          ).current.duplicateOfId = some other)).toNat := by
  have counted := Table.count_put store.grievances id
    (writes { known := known, current := current }).current
    fun _ row => row.duplicateOfId = some other
  rw [wrote.found] at counted
  unfold Store.duplicatesOf
  rw [wrote.grievances]
  exact counted

/-- A write that is no merge leaves the counts exact. -/
theorem Store.Wrote.counted
    (wrote : store.Wrote after id known current writes)
    (uncounted : Uncounted
      (writes { known := known, current := current }).current current)
    (counted : store.Counted) : after.Counted := by
  obtain ⟨count, duplicate, status⟩ := uncounted
  have duplicates : ∀ other,
      after.duplicatesOf other = store.duplicatesOf other := by
    intro other
    have changed := wrote.duplicatesOf other
    rw [duplicate] at changed
    omega
  have kept : ∀ row : Grievance,
      row.duplicateOfId = none ∧ row.status ≠ .duplicate →
      row = current →
      (writes { known := known, current := current }).current.duplicateOfId =
          none ∧
        (writes { known := known, current := current }).current.status ≠
          .duplicate := by
    rintro row ⟨none, other⟩ rfl
    refine ⟨duplicate.trans none, ?_⟩
    rcases status with same | different
    · rw [same]
      exact other
    · exact different
  constructor
  · intro other
    refine wrote.every ?_ fun row found => ?_
    · rintro rfl holds
      rw [count, holds, duplicates]
    · rw [duplicates]
      exact counted.counts other row found
  · intro other row masterId found files
    refine wrote.has (fun _ holds => kept current holds rfl) ?_
    rcases wrote.find_cases found with ⟨rfl, rfl⟩ | ⟨_, before⟩
    · exact counted.masters other current masterId wrote.found
        (duplicate.symm.trans files)
    · exact counted.masters other row masterId before files
  · intro other
    refine wrote.every ?_ (counted.filed other)
    rintro rfl holds is
    rw [duplicate]
    apply holds
    rcases status with same | different
    · rw [← same, is]
    · exact absurd is different

theorem Store.Counted.of_same (counted : store.Counted)
    (same : after.grievances = store.grievances) : after.Counted := by
  have duplicates : ∀ other,
      after.duplicatesOf other = store.duplicatesOf other := by
    intro other
    unfold Store.duplicatesOf
    rw [same]
  constructor
  · intro other row found
    rw [same] at found
    rw [duplicates]
    exact counted.counts other row found
  · intro other row masterId found files
    rw [same] at found
    obtain ⟨master, lookup, holds⟩ :=
      counted.masters other row masterId found files
    exact ⟨master, by rw [same, lookup], holds⟩
  · intro other row found
    rw [same] at found
    exact counted.filed other row found

/-- A new draft is nobody's duplicate, and nobody is its. -/
theorem Store.Counted.created {row : Grievance} (counted : store.Counted)
    (absent : store.grievances.find id = none)
    (draft : row.reportCount = 1 ∧ row.duplicateOfId = none ∧
      row.status ≠ .duplicate)
    (grievances : after.grievances = store.grievances.put id row) :
    after.Counted := by
  obtain ⟨one, single, other⟩ := draft
  have duplicates : ∀ other,
      after.duplicatesOf other = store.duplicatesOf other := by
    intro other
    have changed := Table.count_put store.grievances id row
      fun _ row => row.duplicateOfId = some other
    rw [absent, single] at changed
    unfold Store.duplicatesOf
    rw [grievances]
    simpa using changed
  have nobody : store.duplicatesOf id = 0 := by
    apply Table.count_eq_zero
    intro other found lookup
    rw [decide_eq_false_iff_not]
    intro files
    obtain ⟨master, here, _⟩ := counted.masters other found id lookup files
    rw [absent] at here
    cases here
  have cases_of : ∀ other found, after.grievances.find other = some found →
      other = id ∧ found = row ∨
        other ≠ id ∧ store.grievances.find other = some found := by
    intro other found lookup
    rw [grievances, Table.find_put] at lookup
    split at lookup
    case isTrue same =>
      cases lookup
      exact .inl ⟨same, rfl⟩
    case isFalse different => exact .inr ⟨different, lookup⟩
  constructor
  · intro other found lookup
    rw [duplicates]
    rcases cases_of other found lookup with ⟨rfl, rfl⟩ | ⟨_, before⟩
    · rw [one, nobody]
    · exact counted.counts other found before
  · intro other found masterId lookup files
    rcases cases_of other found lookup with ⟨rfl, rfl⟩ | ⟨_, before⟩
    · rw [single] at files
      cases files
    · obtain ⟨master, here, holds⟩ :=
        counted.masters other found masterId before files
      refine ⟨master, ?_, holds⟩
      rw [grievances, Table.find_put_of_ne, here]
      rintro rfl
      rw [absent] at here
      cases here
  · intro other found lookup
    rcases cases_of other found lookup with ⟨rfl, rfl⟩ | ⟨_, before⟩
    · exact fun is => absurd is ‹_›
    · exact counted.filed other found before

end

/-! ## Merges -/

/-- What a merge leaves: the duplicate is filed, and what its filing adds to
the number of duplicates of the master has been added to its count. -/
structure Store.Merges (store after : Store) (id masterId : String)
    (current row master masterRow : Grievance) (added : Nat) : Prop where
  stored : store.grievances.find id = some current
  storedMaster : store.grievances.find masterId = some master
  written : after.grievances.find id = some row
  writtenMaster : after.grievances.find masterId = some masterRow
  others : ∀ other, other ≠ id → other ≠ masterId →
    after.grievances.find other = store.grievances.find other
  duplicates : ∀ other, after.duplicatesOf other =
    store.duplicatesOf other + if other = masterId then added else 0
  reports : row.reportCount = current.reportCount
  files : row.duplicateOfId = some masterId
  count : masterRow.reportCount = master.reportCount + added
  single : masterRow.duplicateOfId = master.duplicateOfId
  status : masterRow.status = master.status

theorem Store.Merges.counted {store after : Store} {id masterId : String}
    {current row master masterRow : Grievance} {added : Nat}
    (merges : store.Merges after id masterId current row master masterRow
      added)
    (counted : store.Counted) (different : masterId ≠ id)
    (single : master.duplicateOfId = none)
    (nobody : ∀ other row, store.grievances.find other = some row →
      row.duplicateOfId ≠ some id) : after.Counted := by
  have other_status : master.status ≠ .duplicate := by
    intro is
    exact counted.filed masterId master merges.storedMaster is single
  have masterHas : after.Has masterId fun row =>
      row.duplicateOfId = none ∧ row.status ≠ .duplicate := by
    refine ⟨masterRow, merges.writtenMaster, merges.single.trans single, ?_⟩
    rw [merges.status]
    exact other_status
  -- A row after the merge is the duplicate's, the master's, or as before.
  have cases_of : ∀ other found, after.grievances.find other = some found →
      other = id ∧ found = row ∨ other = masterId ∧ found = masterRow ∨
        other ≠ masterId ∧ store.grievances.find other = some found := by
    intro other found lookup
    by_cases isId : other = id
    · subst isId
      exact .inl ⟨rfl, Option.some.inj (lookup.symm.trans merges.written)⟩
    · by_cases isMaster : other = masterId
      · subst isMaster
        exact .inr (.inl
          ⟨rfl, Option.some.inj (lookup.symm.trans merges.writtenMaster)⟩)
      · rw [merges.others other isId isMaster] at lookup
        exact .inr (.inr ⟨isMaster, lookup⟩)
  constructor
  · intro other found lookup
    rw [merges.duplicates other]
    rcases cases_of other found lookup with
      ⟨rfl, rfl⟩ | ⟨rfl, rfl⟩ | ⟨isNot, before⟩
    · have exact_count := counted.counts other current merges.stored
      rw [merges.reports, exact_count, if_neg (Ne.symm different)]
      rfl
    · have exact_count := counted.counts other master merges.storedMaster
      rw [merges.count, exact_count, if_pos rfl]
      omega
    · rw [if_neg isNot]
      exact counted.counts other found before
  · intro other found target lookup files
    rcases cases_of other found lookup with
      ⟨rfl, rfl⟩ | ⟨rfl, rfl⟩ | ⟨_, before⟩
    · have same : target = masterId :=
        Option.some.inj (files.symm.trans merges.files)
      rw [same]
      exact masterHas
    · rw [merges.single, single] at files
      cases files
    · by_cases isMaster : target = masterId
      · rw [isMaster]
        exact masterHas
      · obtain ⟨kept, here, holds⟩ :=
          counted.masters other found target before files
        refine ⟨kept, ?_, holds⟩
        rw [merges.others target ?_ isMaster, here]
        rintro rfl
        exact nobody other found before files
  · intro other found lookup
    rcases cases_of other found lookup with
      ⟨rfl, rfl⟩ | ⟨rfl, rfl⟩ | ⟨_, before⟩
    · intro _ none
      rw [merges.files] at none
      cases none
    · intro is
      rw [merges.status] at is
      exact absurd is other_status
    · exact counted.filed other found before

section

variable {store middle after : Store} {id masterId : String}
  {known current master currentMaster : Grievance} {confirmedAt now : Time}

/-- The column of the duplicate, whatever the session has loaded. -/
theorem registeredThen_files (session : RowSession)
    (confirmedAt now : Time) (masterId : String) :
    (registeredThen session confirmedAt now
        (duplicateFields masterId)).current.duplicateOfId =
      Column.write session.known.duplicateOfId session.current.duplicateOfId
        (some masterId) := by
  have isColumn := RowSession.duplicateOfId_isColumn
  have loaded : (session.set confirmedAt
      (registeredFields confirmedAt)).known.duplicateOfId =
      session.known.duplicateOfId := isColumn.set_known _ _
  have stored : (session.set confirmedAt
      (registeredFields confirmedAt)).current.duplicateOfId =
      session.current.duplicateOfId := isColumn.set_same _ _ rfl
  unfold registeredThen
  rw [isColumn.set_current, loaded, stored]
  rfl

theorem Store.Wrote.merges
    (wrote : store.Wrote middle id known current
      (registeredThen · confirmedAt now (duplicateFields masterId)))
    (wroteMaster : middle.Wrote after masterId master currentMaster
      (·.set now (reportedFields (master.reportCount + 1))))
    (different : masterId ≠ id) {added : Nat}
    (files : Column.write known.duplicateOfId current.duplicateOfId
      (some masterId) = some masterId)
    (filed : added = if current.duplicateOfId = some masterId then 0 else 1)
    (free : current.duplicateOfId = none ∨
      current.duplicateOfId = some masterId)
    (count : master.reportCount + 1 = currentMaster.reportCount + added) :
    ∃ row masterRow, store.Merges after id masterId current row currentMaster
      masterRow added := by
  have storedMaster : store.grievances.find masterId = some currentMaster := by
    rw [← wrote.find_other different]
    exact wroteMaster.found
  have row_files := (registeredThen_files
    { known := known, current := current } confirmedAt now masterId).trans
      files
  have single := RowSession.duplicateOfId_isColumn.set_same
    { known := master, current := currentMaster } now
    (rfl : (reportedFields (master.reportCount + 1) master).duplicateOfId =
      master.duplicateOfId)
  refine ⟨_, _, wrote.found, storedMaster, ?_, wroteMaster.find_self, ?_, ?_,
    ?_, row_files, ?_, single, ?_⟩
  · rw [wroteMaster.find_other (Ne.symm different)]
    exact wrote.find_self
  · intro other isNot isNotMaster
    rw [wroteMaster.find_other isNotMaster, wrote.find_other isNot]
  · intro other
    have first : middle.duplicatesOf other +
        (decide (current.duplicateOfId = some other)).toNat =
        store.duplicatesOf other +
          (decide (some masterId = some other)).toNat := by
      have changed := wrote.duplicatesOf other
      rwa [row_files] at changed
    have second : after.duplicatesOf other = middle.duplicatesOf other := by
      have changed := wroteMaster.duplicatesOf other
      rw [single] at changed
      exact Nat.add_right_cancel changed
    rw [second, filed]
    rcases free with none | same
    · rw [none] at first
      by_cases is : other = masterId
      · subst is
        simpa [none] using first
      · have isNot : masterId ≠ other := Ne.symm is
        simpa [is, isNot] using first
    · rw [same] at first
      simpa [same] using Nat.add_right_cancel first
  · exact registeredThen_same RowSession.reportCount_isColumn _ _ _
      (fun _ => rfl) fun _ => rfl
  · have changed : (reportedFields (master.reportCount + 1)
        master).reportCount ≠ master.reportCount := by
      show master.reportCount + 1 ≠ master.reportCount
      omega
    rw [RowSession.reportCount_isColumn.set_new _ _ changed]
    exact count
  · exact RowSession.status_isColumn.set_same _ _ rfl

/-- A merge whose count is right leaves the counts exact. -/
theorem Store.Counted.merged (counted : store.Counted)
    (wrote : store.Wrote middle id known current
      (registeredThen · confirmedAt now (duplicateFields masterId)))
    (wroteMaster : middle.Wrote after masterId master currentMaster
      (·.set now (reportedFields (master.reportCount + 1))))
    (different : masterId ≠ id) (tallies : store.Tallies id masterId master)
    (loaded : known.duplicateOfId ≠ none → current.duplicateOfId ≠ none) :
    after.Counted := by
  have storedMaster : store.grievances.find masterId = some currentMaster := by
    rw [← wrote.find_other different]
    exact wroteMaster.found
  rcases tallies with ⟨new, fresh⟩ | ⟨again, counted_already⟩
  · obtain ⟨none, one⟩ := new current wrote.found
    obtain ⟨single, same⟩ := fresh currentMaster storedMaster
    have unfiled : known.duplicateOfId = Option.none := by
      by_contra filed
      exact loaded filed none
    have files : Column.write known.duplicateOfId current.duplicateOfId
        (some masterId) = some masterId := by
      rw [unfiled]
      exact Column.write_of_ne nofun
    have added : 1 = if current.duplicateOfId = some masterId then 0 else 1 := by
      rw [none, if_neg nofun]
    obtain ⟨row, masterRow, merges⟩ := wrote.merges wroteMaster different
      files added (.inl none) (by rw [same])
    apply merges.counted counted different single
    intro other row found points
    have positive : 0 < store.duplicatesOf id :=
      Table.count_pos found (decide_eq_true points)
    have exact_count := counted.counts id current wrote.found
    omega
  · have filed := again current wrote.found
    have already := counted_already currentMaster storedMaster
    have files : Column.write known.duplicateOfId current.duplicateOfId
        (some masterId) = some masterId := by
      rw [filed]
      rcases Column.write_cases known.duplicateOfId (some masterId)
        (some masterId) with same | same <;> exact same
    obtain ⟨found, lookup, single, _⟩ :=
      counted.masters id current masterId wrote.found filed
    have is : found = currentMaster :=
      Option.some.inj (lookup.symm.trans storedMaster)
    subst is
    have added : 0 = if current.duplicateOfId = some masterId then 0 else 1 := by
      rw [filed, if_pos rfl]
    obtain ⟨row, masterRow, merges⟩ := wrote.merges wroteMaster different
      files added (.inr filed) already.symm
    apply merges.counted counted different single
    intro other row found' points
    -- The duplicate would be a master itself.
    obtain ⟨here, lookup', none, _⟩ :=
      counted.masters other row id found' points
    have same : here = current :=
      Option.some.inj (lookup'.symm.trans wrote.found)
    rw [same, filed] at none
    cases none

end

/-! ## Runs -/

/-- A grievance before any duplicate search. -/
def Unreported (row : Grievance) : Prop :=
  row.reportCount = 1 ∧ row.duplicateOfId = none ∧ row.status ≠ .duplicate

/-- What a run of `finalize_grievance` knows of the duplicates: what it has
loaded as filed is filed, and a search does not find its own grievance. -/
structure Store.Searches (store : Store) (task : Task) : Prop where
  loaded : ∀ id known, task.finalizing = some (id, known) →
    known.duplicateOfId ≠ none → store.Has id (·.duplicateOfId ≠ none)
  different : ∀ id known confirmedAt masterId master,
    task = .searched id known confirmedAt (some (masterId, master)) →
    masterId ≠ id

def counted : TaskInvariant :=
  { shared := Store.Counted
    own := Store.Searches
    waiting := fun _ _ => True
    pair := fun _ _ => True }

theorem Store.Searches.of_idle {store : Store} {task : Task}
    (idle : task.finalizing = none) : store.Searches task := by
  constructor
  · intro id known finalizing
    rw [idle] at finalizing
    cases finalizing
  · rintro id known confirmedAt masterId master rfl
    cases idle

/-- The search returns one of its rows, and leaves its own grievance out. -/
theorem findDuplicate_mem {geometry : Geometry} {radiusM : ℚ}
    {rows : List (String × Grievance)} {id masterId : String}
    {row master : Grievance} {now : Time}
    (found : findDuplicate geometry radiusM rows id row now =
      some (masterId, master)) :
    (masterId, master) ∈ rows ∧ masterId ≠ id := by
  unfold findDuplicate at found
  split at found
  case h_2 => cases found
  case h_1 lat lon _ _ =>
    obtain ⟨⟨distance, candidate⟩, best, same⟩ :=
      Option.map_eq_some_iff.mp found
    cases same
    -- The best candidate is one of the candidates.
    have among : ∀ (candidates : List (String × Grievance)) start,
        candidates.foldl (nearest geometry lat lon radiusM) start =
          some (distance, (masterId, master)) →
        start = some (distance, (masterId, master)) ∨
          (masterId, master) ∈ candidates := by
      intro candidates
      induction candidates with
      | nil => exact fun start same => .inl same
      | cons head tail induction =>
          intro start result
          rw [List.foldl_cons] at result
          rcases induction _ result with better | later
          · unfold nearest at better
            split at better
            · dsimp only at better
              split at better
              · cases better
                exact .inr (.head _)
              · exact .inl better
            · exact .inl better
          · exact .inr (.tail _ later)
    rcases among _ _ best with same | member
    · cases same
    · obtain ⟨inside, passes⟩ := List.mem_filter.mp member
      rw [Bool.and_eq_true, decide_eq_true_eq] at passes
      exact ⟨inside, passes.1⟩

theorem Change.duplicateOfId {settings : Settings} {known : Grievance}
    {fields : Grievance → Grievance} (change : Change settings known fields) :
    (fields known).duplicateOfId = known.duplicateOfId ∨
      (fields known).duplicateOfId ≠ none := by
  cases change with
  | wrote writes => exact .inl writes.uncounted.2.1
  | confirmed confirms => cases confirms <;> exact .inl rfl
  | duplicate masterId => exact .inr (Option.some_ne_none masterId)
  | _ => exact .inl rfl

section

variable {settings : Settings} {geometry : Geometry} {store after : Store}
  {now : Time} {answer : Answer} {task : Task} {progress : Progress}

/-- A step leaves the counts exact, if it merges with the right count. -/
theorem Task.Moves.counted
    (moves : task.Moves settings geometry store now answer after progress)
    (searches : store.Searches task)
    (tallied : ∀ id known confirmedAt masterId master,
      task = .searched id known confirmedAt (some (masterId, master)) →
      store.Tallies id masterId master)
    (before : store.Counted) : after.Counted := by
  have recorded : ∀ entry, (store.record entry).Counted :=
    fun entry => before.of_same rfl
  cases moves with
  | created absent draft grievances =>
      apply before.created absent _ grievances
      rw [draft]
      exact ⟨rfl, rfl, nofun⟩
  | tapped => exact recorded _
  | loaded => exact before
  | missing => exact before
  | returned => exact before
  | confirming => exact before
  | skipped => exact before
  | wrote writes wrote =>
      exact wrote.counted (set_uncounted writes.uncounted) before
  | confirmed confirms wrote =>
      refine wrote.counted (set_uncounted ?_) (recorded _)
      cases confirms <;> exact ⟨rfl, rfl, .inr nofun⟩
  | searched _ _ grievances => exact before.of_same grievances
  | @openedWindow id known current confirmedAt windowExpiresAt _ _ wrote =>
      refine wrote.counted ?_ (recorded _)
      have first : Uncounted (RowSession.set
          { known := known, current := current } confirmedAt
          (registeredFields confirmedAt)).current current :=
        set_uncounted ⟨rfl, rfl, .inr nofun⟩
      exact first.trans (set_uncounted ⟨rfl, rfl, .inr nofun⟩)
  | @merged id masterId known current master currentMaster _ _ _ _ _ wrote
      wroteMaster count =>
      subst count
      have tallies := tallied _ _ _ _ _ rfl
      refine (recorded (.confirmed id)).merged wrote wroteMaster
        (searches.different _ _ _ _ _ rfl) tallies ?_
      intro filed
      obtain ⟨row, found, isFiled⟩ := searches.loaded id known rfl filed
      have same : row = current :=
        Option.some.inj (found.symm.trans wrote.found)
      exact same ▸ isFiled
  | called => exact recorded _
  | accepted => exact recorded _
  | refused => exact before
  | submitted wrote =>
      exact wrote.counted (set_uncounted ⟨rfl, rfl, .inr nofun⟩) before
  | retried wrote =>
      exact wrote.counted (set_uncounted (refusedFields_uncounted _)) before

/-- What a step leads to knows of the duplicates what it has to. -/
theorem Task.Moves.searches {next : Task}
    (moves : task.Moves settings geometry store now answer after (.more next))
    (searches : store.Searches task) : after.Searches next := by
  cases moves.leads with
  | @loaded operation id row found =>
      by_cases finalizes : operation = .finalize
      · subst finalizes
        constructor
        · intro other known doing filed
          cases doing
          exact ⟨row, found, filed⟩
        · intro _ _ _ _ _ doing
          cases doing
      · apply Store.Searches.of_idle
        unfold Task.finalizing
        split
        case h_1 same =>
          cases same
          exact absurd rfl finalizes
        case h_2 same => cases same
        case h_3 => rfl
  | @searched id known rows after unreviewed ticket grievances =>
      constructor
      · intro other knows doing filed
        cases doing
        obtain ⟨row, found, isFiled⟩ := searches.loaded id known rfl filed
        exact ⟨row, by rw [grievances, found], isFiled⟩
      · intro other knows confirmedAt masterId master doing
        obtain ⟨rfl, _, _, found⟩ := Task.searched.inj doing
        exact (findDuplicate_mem found).2
  | _ => exact .of_idle rfl

end

section

variable {settings : Settings} {geometry : Geometry}
  {world : World Store Job}

/-- Nothing is filed under anything at the start. -/
theorem duplicatesOf_unreported {store : Store} {id : String}
    (unfiled : ∀ id row, store.grievances.find id = some row →
      Unreported row) : store.duplicatesOf id = 0 := by
  apply Table.count_eq_zero
  intro other row found
  rw [(unfiled other row found).2.1]
  rfl

/-- As long as every merge is committed with the right count, every count is
exact, and duplicates are filed under grievances that are none. -/
theorem reports_counted
    (reachable : (program settings geometry Unreported).system.ReachableWhen
      Tallied world) : world.shared.Counted := by
  have holds : counted.Holds world := by
    refine TaskInvariant.holds ?_ ?_ ?_ ?_ ?_ ?_ reachable
    · intro store initial
      have unfiled : ∀ id row, store.grievances.find id = some row →
          Unreported row := initial.2.2
      constructor
      · intro id row found
        rw [duplicatesOf_unreported unfiled]
        exact (unfiled id row found).1
      · intro id row masterId found files
        rw [(unfiled id row found).2.1] at files
        cases files
      · intro id row found is
        exact absurd is (unfiled id row found).2.2
    · intro store after same
      refine ⟨fun holds => holds.of_same same.1, ?_, fun _ _ => trivial⟩
      intro task holds
      refine ⟨?_, holds.different⟩
      intro id known finalizing filed
      obtain ⟨row, found, isFiled⟩ := holds.loaded id known finalizing filed
      exact ⟨row, by rw [same.1, found], isFiled⟩
    · intro world pid request task _ _ _ starts
      refine ⟨?_, fun _ _ _ _ => ⟨trivial, trivial⟩⟩
      apply Store.Searches.of_idle
      cases request <;> cases starts <;> rfl
    · exact fun _ _ _ _ _ _ _ _ _ _ => trivial
    · exact fun _ _ _ _ _ => ⟨.of_idle rfl, fun _ _ _ _ => ⟨trivial, trivial⟩⟩
    · intro world pid task choice after progress _ holding permitted runs
        plain moves
      have own := holding.own runs
      constructor
      · apply moves.counted own _ holding.shared
        rintro id known confirmedAt masterId master rfl
        exact permitted pid choice id known confirmedAt masterId master rfl
          plain runs
      · intro other right _ _ before
        refine ⟨?_, before.different⟩
        intro id known finalizing filed
        exact moves.keeps_present RowSession.duplicateOfId_isColumn
          (fun _ _ => Change.duplicateOfId)
          (before.loaded id known finalizing filed)
      · exact fun _ before => before
      · rintro next rfl
        exact ⟨moves.searches own, fun _ _ _ _ => ⟨trivial, trivial⟩⟩
  exact holds.shared

end

/-! ## A merge that is counted, and two that are not -/

/-- Three grievances of one place: the window of `g` is open, and the others have
still to be confirmed. -/
def sharedPlace : Store :=
  { Store.single "g" { reviewedGrievance with
      status := .pendingWindow, windowExpiresAt := some 100 } with
    grievances := Table.ofList
      [("g", { reviewedGrievance with
         status := .pendingWindow, windowExpiresAt := some 100 }),
       ("h", reviewedGrievance), ("k", reviewedGrievance)] }

theorem sharedPlace_initial {settings : Settings} {geometry : Geometry} :
    (program settings geometry Unreported).initial sharedPlace := by
  refine ⟨rfl, rfl, ?_⟩
  intro id row found
  have member := Table.mem_of_find_ofList found
  simp only [List.mem_cons, Prod.mk.injEq, List.not_mem_nil, or_false]
    at member
  rcases member with ⟨_, rfl⟩ | ⟨_, rfl⟩ | ⟨_, rfl⟩ <;>
    exact ⟨rfl, rfl, nofun⟩

def Store.countOf (store : Store) (id : String) : Option Nat × Nat :=
  ((store.grievances.find id).map (·.reportCount), store.duplicatesOf id)

/-- A process that is alone merges with the right count. -/
def merges (store : Store) (job : Job) (_ : Choice) : Bool :=
  match job.task with
  | some (.searched id _ _ (some (masterId, master))) =>
      (store.grievances.find id).all (fun row =>
        row.duplicateOfId = none && row.reportCount = 1) &&
      (store.grievances.find masterId).all fun row =>
        row.duplicateOfId = none && row.reportCount = master.reportCount
  | _ => true

theorem tallied_of_alone {world : World Store Job} {job : Job}
    {choice : Choice} (only : Process.OnlyRunning world 0 (some job))
    (test : merges world.shared job choice = true) :
    Tallied world (.resume 0 choice) := by
  intro pid _ id known confirmedAt masterId master same _ runs
  have doing := task_of_alone only runs
  simp only [merges, doing, Bool.and_eq_true] at test
  left
  constructor
  · intro row found
    have passes := test.1
    rw [found] at passes
    simpa using passes
  · intro row found
    have passes := test.2
    rw [found] at passes
    simpa using passes

theorem reports_counted_merged :
    ∃ world, (program defaultSettings flatMap Unreported).system.ReachableWhen
        Tallied world ∧ world.Quiet ∧ world.shared.Counted ∧
      world.shared.countOf "g" = (some 2, 1) := by
  have ran : ((program defaultSettings flatMap Unreported).serial merges
      sharedPlace
      [(.confirmDraft "h" "citizen",
        [⟨1, .plain⟩, ⟨1, .plain⟩, ⟨1, .plain⟩, ⟨1, .plain⟩,
         ⟨2, .plain⟩])]).map (Store.countOf · "g") = some (some 2, 1) := by
    decide +kernel
  have spawns : ∀ (world : World Store Job) (request : Request),
      Tallied world (.spawn 0 request) := by
    intro _ _ _ _ _ _ _ _ _ same
    cases same
  obtain ⟨world, reached, quiet, observed⟩ :=
    Process.Program.reachable_serial sharedPlace_initial
      (fun world request _ _ => spawns world request)
      (fun _ _ _ => tallied_of_alone) ran
  exact ⟨world, reached, quiet, reports_counted reached, observed⟩

/-- Two confirmations that both find `g` before the other is merged. -/
theorem report_lost :
    ∃ start final labels,
      (program defaultSettings flatMap Unreported).system.Reachable start ∧
      (program defaultSettings flatMap Unreported).system.RunWhen Always start
        labels final ∧
      final.Quiet ∧ start.shared.countOf "g" = (some 1, 0) ∧
      final.shared.countOf "g" = (some 2, 2) := by
  have ran : (((program defaultSettings flatMap Unreported).system.run
      (World.start sharedPlace) []).bind fun middle =>
      ((program defaultSettings flatMap Unreported).system.run middle
        [.spawn 0 (.confirmDraft "h" "citizen"),
         .spawn 1 (.confirmDraft "k" "citizen"),
         .resume 0 ⟨1, .plain⟩, .resume 0 ⟨1, .plain⟩, .resume 0 ⟨1, .plain⟩,
         .resume 1 ⟨1, .plain⟩, .resume 1 ⟨1, .plain⟩, .resume 1 ⟨1, .plain⟩,
         .resume 0 ⟨2, .plain⟩, .resume 1 ⟨2, .plain⟩,
         .resume 0 ⟨3, .plain⟩, .resume 1 ⟨3, .plain⟩]).map fun final =>
        (middle.shared.countOf "g", final.shared.countOf "g",
          (List.range 2).all fun pid => (final.processes pid).isNone)) =
      some ((some 1, 0), (some 2, 2), true) := by
    decide +kernel
  obtain ⟨start, final, reached, runs, quiet, before, after⟩ :=
    Process.Program.runs_quiet 2 (Store.countOf · "g") sharedPlace_initial rfl
      ran
  exact ⟨start, final, _, reached, runs, quiet, before, after⟩

end JanSetu.Pipeline
