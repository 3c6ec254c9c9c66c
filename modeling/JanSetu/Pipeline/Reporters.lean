import JanSetu.Pipeline.ReportCounts
import JanSetu.Pipeline.Serial

/-!
# Clusters of reports

A master and the grievances that are filed as its duplicates.  In a serial run
the count of the master covers them all, also when one of them is confirmed a
second time: the count never falls, and a filing adds one to it.
-/

namespace JanSetu.Pipeline

open Process (Label)

/-- The master and its duplicates. -/
def Store.cluster (store : Store) (masterId : String) : List String :=
  store.grievances.select fun id row =>
    id = masterId || row.duplicateOfId = some masterId

/-- The count of every grievance covers its duplicates, which are filed under
a grievance that is there. -/
structure Store.Accounted (store : Store) : Prop where
  counts : ∀ id, store.Every id
    (1 + store.duplicatesOf id ≤ ·.reportCount)
  masters : ∀ id row masterId, store.grievances.find id = some row →
    row.duplicateOfId = some masterId →
    (store.grievances.find masterId).isSome = true

/-- What a merge of a serial run has found. -/
structure Store.Fresh (store : Store) (id : String) (known : Grievance)
    (masterId : String) (master : Grievance) : Prop where
  loaded : store.grievances.find id = some known
  found : store.grievances.find masterId = some master
  different : masterId ≠ id

section

variable {store middle after : Store} {id masterId : String}
  {known current master currentMaster row : Grievance}
  {writes : RowSession → RowSession} {confirmedAt now : Time}

theorem Store.length_cluster_le (masterId : String) :
    (store.cluster masterId).length ≤ 1 + store.duplicatesOf masterId := by
  have inside : store.cluster masterId ⊆
      masterId :: store.grievances.select
        (fun _ row => row.duplicateOfId = some masterId) := by
    intro id member
    obtain ⟨row, found, passes⟩ := Table.mem_select.mp member
    rw [Bool.or_eq_true, decide_eq_true_eq, decide_eq_true_eq] at passes
    rcases passes with same | filed
    · exact same ▸ List.mem_cons_self
    · exact List.mem_cons_of_mem _
        (Table.mem_select.mpr ⟨row, found, decide_eq_true filed⟩)
  have nodup : (store.cluster masterId).Nodup :=
    store.grievances.nodup_select _
  have fits := (List.subperm_of_subset nodup inside).length_le
  rw [List.length_cons] at fits
  have duplicates : store.duplicatesOf masterId =
      (store.grievances.select
        fun _ row => row.duplicateOfId = some masterId).length := rfl
  omega

theorem Store.Accounted.of_same (accounted : store.Accounted)
    (same : after.grievances = store.grievances) : after.Accounted := by
  have duplicates (other : String) :
      after.duplicatesOf other = store.duplicatesOf other := by
    rw [Store.duplicatesOf, same, Store.duplicatesOf]
  constructor
  · intro other row found
    rw [same] at found
    rw [duplicates]
    exact accounted.counts other row found
  · intro other row masterId found files
    rw [same] at found ⊢
    exact accounted.masters other row masterId found files

theorem Store.Accounted.created (accounted : store.Accounted)
    (absent : store.grievances.find id = none)
    (one : row.reportCount = 1) (single : row.duplicateOfId = none)
    (grievances : after.grievances = store.grievances.put id row) :
    after.Accounted := by
  have duplicates (other : String) :
      after.duplicatesOf other = store.duplicatesOf other := by
    have changed := Table.count_put_fresh absent row
      fun _ row => row.duplicateOfId = some other
    rw [single] at changed
    rw [Store.duplicatesOf, grievances]
    exact changed
  have nobody : store.duplicatesOf id = 0 := by
    apply Table.count_eq_zero
    intro other found lookup
    rw [decide_eq_false_iff_not]
    intro files
    have here := accounted.masters other found id lookup files
    rw [absent] at here
    cases here
  constructor
  · intro other found lookup
    rw [duplicates]
    rw [grievances, Table.find_put] at lookup
    split at lookup
    case isTrue same =>
      cases lookup
      rw [same, nobody, one]
    case isFalse => exact accounted.counts other found lookup
  · intro other found masterId lookup files
    rw [grievances, Table.find_put] at lookup ⊢
    split at lookup
    case isTrue same =>
      cases lookup
      rw [single] at files
      cases files
    case isFalse =>
      split
      · rfl
      · exact accounted.masters other found masterId lookup files

theorem Store.Wrote.isSome
    (wrote : store.Wrote after id known current writes) {other : String}
    (there : (store.grievances.find other).isSome = true) :
    (after.grievances.find other).isSome = true := by
  by_cases same : other = id
  · rw [same, wrote.find_self]
    rfl
  · rw [wrote.find_other same]
    exact there

/-- A write that is no merge. -/
theorem Store.Wrote.accounted
    (wrote : store.Wrote after id known current writes)
    (uncounted : Uncounted
      (writes { known := known, current := current }).current current)
    (accounted : store.Accounted) : after.Accounted := by
  obtain ⟨count, duplicate, _⟩ := uncounted
  have duplicates (other : String) :
      after.duplicatesOf other = store.duplicatesOf other := by
    have changed := wrote.duplicatesOf other
    rw [duplicate] at changed
    exact Nat.add_right_cancel changed
  constructor
  · intro other
    refine wrote.every ?_ fun row found => ?_
    · rintro rfl holds
      rw [count, duplicates]
      exact accounted.counts other current wrote.found
    · rw [duplicates]
      exact accounted.counts other row found
  · intro other row masterId found files
    apply wrote.isSome
    rcases wrote.find_cases found with ⟨rfl, rfl⟩ | ⟨_, before⟩
    · exact accounted.masters other current masterId wrote.found
        (duplicate.symm.trans files)
    · exact accounted.masters other row masterId before files

/-! ## Merges -/

/-- What a merge of a serial run leaves: the duplicate is filed, and the count
of the master is the one that the outcome holds. -/
theorem Store.Accounted.merged (accounted : store.Accounted)
    (fresh : store.Fresh id known masterId master)
    (wrote : store.Wrote middle id known current
      (registeredThen · confirmedAt now (duplicateFields masterId)))
    (wroteMaster : middle.Wrote after masterId master currentMaster
      (·.set now (reportedFields (master.reportCount + 1)))) :
    after.Accounted ∧
      after.Has id (·.duplicateOfId = some masterId) ∧
      after.Has masterId (·.reportCount = master.reportCount + 1) := by
  have loaded : current = known :=
    Option.some.inj (wrote.found.symm.trans fresh.loaded)
  subst loaded
  have storedMaster : store.grievances.find masterId = some currentMaster := by
    rw [← wrote.find_other fresh.different]
    exact wroteMaster.found
  have found : currentMaster = master :=
    Option.some.inj (storedMaster.symm.trans fresh.found)
  subst found
  -- the row of the duplicate, and the row of the master
  have files := (registeredThen_files { known := current, current := current }
    confirmedAt now masterId).trans (Column.write_self _ _)
  have reports : (registeredThen { known := current, current := current }
      confirmedAt now (duplicateFields masterId)).current.reportCount =
      current.reportCount :=
    registeredThen_same RowSession.reportCount_isColumn _ _ _ (fun _ => rfl)
      fun _ => rfl
  have changed : (reportedFields (currentMaster.reportCount + 1)
      currentMaster).reportCount ≠ currentMaster.reportCount := by
    show currentMaster.reportCount + 1 ≠ currentMaster.reportCount
    omega
  have count := RowSession.reportCount_isColumn.set_new
    { known := currentMaster, current := currentMaster } now changed
  have single := RowSession.duplicateOfId_isColumn.set_same
    { known := currentMaster, current := currentMaster } now
    (rfl : (reportedFields (currentMaster.reportCount + 1)
      currentMaster).duplicateOfId = currentMaster.duplicateOfId)
  have duplicates (other : String) : after.duplicatesOf other ≤
      store.duplicatesOf other + if other = masterId then 1 else 0 := by
    have first := wrote.duplicatesOf other
    have second := wroteMaster.duplicatesOf other
    rw [files] at first
    rw [single] at second
    by_cases same : other = masterId
    · simp [same] at first second ⊢
      omega
    · have apart : masterId ≠ other := Ne.symm same
      simp [same, apart] at first second ⊢
      omega
  have row := wrote.find_self
  rw [← wroteMaster.find_other (Ne.symm fresh.different)] at row
  refine ⟨⟨?_, ?_⟩, ⟨_, row, files⟩, ⟨_, wroteMaster.find_self, count⟩⟩
  · intro other found lookup
    have added := duplicates other
    rcases wroteMaster.find_cases lookup with ⟨rfl, rfl⟩ | ⟨notMaster, before⟩
    · have covers := accounted.counts other currentMaster storedMaster
      rw [if_pos rfl] at added
      rw [count]
      show 1 + after.duplicatesOf other ≤ currentMaster.reportCount + 1
      omega
    · rw [if_neg notMaster] at added
      rcases wrote.find_cases before with ⟨rfl, rfl⟩ | ⟨_, earlier⟩
      · have covers := accounted.counts other current wrote.found
        rw [reports]
        omega
      · have covers := accounted.counts other found earlier
        omega
  · intro other found target lookup points
    apply wroteMaster.isSome
    apply wrote.isSome
    rcases wroteMaster.find_cases lookup with ⟨rfl, rfl⟩ | ⟨_, before⟩
    · exact accounted.masters other currentMaster target storedMaster
        (single.symm.trans points)
    · rcases wrote.find_cases before with ⟨rfl, rfl⟩ | ⟨_, earlier⟩
      · have same : target = masterId :=
          Option.some.inj (points.symm.trans files)
        rw [same, storedMaster]
        rfl
      · exact accounted.masters other found target earlier points

end

/-! ## Runs -/

def reporters : TaskInvariant :=
  { shared := Store.Accounted
    own := fun store task => ∀ id known confirmedAt masterId master,
      task = .searched id known confirmedAt (some (masterId, master)) →
      store.Fresh id known masterId master
    waiting := fun _ _ => True
    pair := fun _ _ => True }

section

variable {settings : Settings} {geometry : Geometry} {store after : Store}
  {now : Time} {answer : Answer} {task : Task} {progress : Progress}

/-- The search is made over the rows of the table, and changes none. -/
theorem Task.Moves.fresh {id masterId : String} {known master : Grievance}
    {confirmedAt : Time}
    (moves : task.Moves settings geometry store now answer after
      (.more (.searched id known confirmedAt (some (masterId, master)))))
    (loaded : ∀ operation id known, task = .loaded operation id known →
      store.grievances.find id = some known) :
    after.Fresh id known masterId master := by
  generalize more : Progress.more
    (.searched id known confirmedAt (some (masterId, master))) = progress
    at moves
  cases moves with
  | missing _ returned | returned _ returned =>
      rw [← more] at returned
      cases returned
  | wrote writes => cases writes <;> cases more
  | confirmed confirms => cases confirms <;> cases more
  | searched _ _ grievances _ entries =>
      obtain ⟨rfl, rfl, rfl, found⟩ :=
        Task.searched.inj (Progress.more.inj more)
      obtain ⟨member, different⟩ := findDuplicate_mem found.symm
      rw [entries] at member
      obtain ⟨⟨_, _⟩, inside, same⟩ := List.mem_map.mp member
      cases same
      constructor
      · rw [grievances]
        exact loaded _ _ _ rfl
      · rw [grievances]
        exact Table.mem_entries_iff.mp inside
      · exact different
  | _ => cases more

/-- A step of a serial run leaves the counts covering. -/
theorem Task.Moves.accounted
    (moves : task.Moves settings geometry store now answer after progress)
    (fresh : ∀ id known confirmedAt masterId master,
      task = .searched id known confirmedAt (some (masterId, master)) →
      store.Fresh id known masterId master)
    (before : store.Accounted) : after.Accounted := by
  have recorded (entry : Entry) : (store.record entry).Accounted :=
    before.of_same rfl
  cases moves with
  | created absent draft grievances =>
      apply before.created absent _ _ grievances
      · rw [draft]
        rfl
      · rw [draft]
        rfl
  | tapped | called | accepted => exact recorded _
  | loaded | missing | returned | confirming | skipped | refused =>
      exact before
  | wrote writes wrote =>
      exact wrote.accounted (set_uncounted writes.uncounted) before
  | confirmed confirms wrote =>
      refine wrote.accounted (set_uncounted ?_) (recorded _)
      cases confirms <;> exact ⟨rfl, rfl, .inr nofun⟩
  | searched _ _ grievances => exact before.of_same grievances
  | @openedWindow id known current confirmedAt windowExpiresAt _ _ wrote =>
      refine wrote.accounted ?_ (recorded _)
      have first : Uncounted (RowSession.set
          { known := known, current := current } confirmedAt
          (registeredFields confirmedAt)).current current :=
        set_uncounted ⟨rfl, rfl, .inr nofun⟩
      exact first.trans (set_uncounted ⟨rfl, rfl, .inr nofun⟩)
  | merged wrote wroteMaster count =>
      subst count
      obtain ⟨loaded, found, different⟩ := fresh _ _ _ _ _ rfl
      exact ((recorded _).merged ⟨loaded, found, different⟩ wrote
        wroteMaster).1
  | submitted wrote =>
      exact wrote.accounted (set_uncounted ⟨rfl, rfl, .inr nofun⟩) before
  | retried wrote =>
      exact wrote.accounted (set_uncounted (refusedFields_uncounted _)) before

end

section

variable {settings : Settings} {geometry : Geometry} {serves : Task → Bool}
  {world : World Store Job}

/-- In a serial run the counts cover the duplicates, and what a search has
found is what the table holds. -/
theorem reporters_holds
    (reachable : (program settings geometry Unreported).system.ReachableWhen
      (Serial serves) world) : reporters.Holds world := by
  refine TaskInvariant.holds ?_ ?_ ?_ ?_ ?_ ?_ reachable
  · intro store initial
    have unfiled : ∀ id row, store.grievances.find id = some row →
        Unreported row := initial.2.2
    constructor
    · intro id row found
      rw [duplicatesOf_unreported unfiled, (unfiled id row found).1]
    · intro id row masterId found files
      rw [(unfiled id row found).2.1] at files
      cases files
  · intro store after same
    refine ⟨fun accounted => accounted.of_same same.1, ?_, fun _ _ => trivial⟩
    intro task fresh id known confirmedAt masterId master doing
    obtain ⟨loaded, found, different⟩ := fresh id known confirmedAt masterId
      master doing
    exact ⟨by rw [same.1, loaded], by rw [same.1, found], different⟩
  · intro world pid request task _ _ _ starts
    refine ⟨?_, fun _ _ _ _ => ⟨trivial, trivial⟩⟩
    rintro id known confirmedAt masterId master rfl
    cases request <;> cases starts
  · exact fun _ _ _ _ _ _ _ _ _ _ => trivial
  · intro world pid store id _
    refine ⟨?_, fun _ _ _ _ => ⟨trivial, trivial⟩⟩
    intro other known confirmedAt masterId master doing
    cases doing
  · intro world pid task choice after progress reached holding permitted runs
      _ moves
    constructor
    · exact moves.accounted (holding.own runs) holding.shared
    · intro other right different running
      exact absurd running
        (Serial.nobody reached (fun _ _ serially => serially) different runs)
    · exact fun _ before => before
    · rintro next rfl
      refine ⟨?_, fun _ _ _ _ => ⟨trivial, trivial⟩⟩
      rintro id known confirmedAt masterId master rfl
      apply moves.fresh
      rintro operation other loaded rfl
      exact Serial.stored reached (fun _ _ serially => serially) runs

/-- The outcome of a merge in a serial run counts the whole cluster, the
duplicate among it. -/
theorem merge_covers_cluster
    (reachable : (program settings geometry Unreported).system.ReachableWhen
      (Serial serves) world)
    {pid : Nat} {id masterId : String} {known master : Grievance}
    {confirmedAt now : Time} {answer : Answer} {after : Store}
    {progress : Progress}
    (runs : Runs world pid
      (.searched id known confirmedAt (some (masterId, master))))
    (moves : Task.Moves settings geometry world.shared now answer
      (.searched id known confirmedAt (some (masterId, master))) after
      progress) :
    id ∈ after.cluster masterId ∧
      (after.cluster masterId).length ≤ master.reportCount + 1 := by
  have holding := reporters_holds reachable
  cases moves with
  | merged wrote wroteMaster count =>
      subst count
      obtain ⟨loaded, found, different⟩ :=
        holding.own runs _ _ _ _ _ rfl
      have recorded : (world.shared.record (.confirmed id)).Accounted :=
        holding.shared.of_same rfl
      obtain ⟨accounted, ⟨row, rowFound, filed⟩, masterRow, masterFound,
        reports⟩ :=
        recorded.merged ⟨loaded, found, different⟩ wrote wroteMaster
      constructor
      · refine Table.mem_select.mpr ⟨row, rowFound, ?_⟩
        rw [filed, decide_eq_true rfl, Bool.or_true]
      · have counts := accounted.counts masterId masterRow masterFound
        have fits := after.length_cluster_le masterId
        omega

end

end JanSetu.Pipeline
