import JanSetu.Library.Query
import JanSetu.Officials.Login
import JanSetu.Pipeline.Store

/-!
# What an official may see

One rule decides which cases an official sees, written as a query for the
queue and as a function for a single case.  A case without a jurisdiction, or
without a department, is unknown to the one and `None` to the other.
-/

namespace JanSetu.Officials

open Query (Arrangement Truth)

/-- A row of the grievances table. -/
structure StoredGrievance where
  id : String
  createdAt : Time
  grievance : Grievance
deriving DecidableEq

/-- The `WHERE` clause of `list_scoped_grievances`. -/
def scopedConditions (official : OfficialUser)
    (reviewStatus : Option ReviewStatus) (row : StoredGrievance) :
    List Truth :=
  let jurisdiction :=
    [Query.equals row.grievance.jurisdictionId official.jurisdictionId]
  let department :=
    if official.role = "department_officer" then
      [Query.isIn row.grievance.departmentKey official.departmentKeys]
    else []
  let review :=
    match reviewStatus with
    | some reviewStatus =>
        [Query.equals row.grievance.reviewStatus reviewStatus]
    | none => []
  jurisdiction ++ department ++ review

/-- The rows on which the clause is true. -/
def scopedRows (rows : List StoredGrievance) (official : OfficialUser)
    (reviewStatus : Option ReviewStatus) : List StoredGrievance :=
  rows.filter fun row =>
    Truth.all (scopedConditions official reviewStatus row) = some true

/-- The cases of a page, in the order of their creation. -/
def listScopedGrievances (order : Arrangement StoredGrievance.createdAt)
    (rows : List StoredGrievance) (official : OfficialUser)
    (reviewStatus : Option ReviewStatus) (limit offset : Nat) :
    List StoredGrievance :=
  order.page limit offset (scopedRows rows official reviewStatus)

def officialCanAccess (official : OfficialUser) (grievance : Grievance) :
    Bool :=
  if grievance.jurisdictionId ≠ some official.jurisdictionId then false
  else
    official.role ≠ "department_officer" ||
      grievance.departmentKey.any (· ∈ official.departmentKeys)

/-! ## The two rules -/

section

variable {official : OfficialUser} {row : StoredGrievance}

/-- The clause is true exactly on the cases that the function allows. -/
theorem scopedConditions_true :
    Truth.all (scopedConditions official none row) = some true ↔
      officialCanAccess official row.grievance = true := by
  rw [Truth.all_eq_true]
  unfold scopedConditions officialCanAccess
  by_cases own : row.grievance.jurisdictionId = some official.jurisdictionId
  · by_cases officer : official.role = "department_officer"
    · simp only [officer, own]
      cases row.grievance.departmentKey with
      | none => simp [Query.equals_eq_true, Query.isIn_eq_true]
      | some key => simp [Query.equals_eq_true, Query.isIn_eq_true]
    · simp [officer, own, Query.equals_eq_true]
  · simp [own, Query.equals_eq_true]

/-- A status filter takes cases away and adds none. -/
theorem scopedConditions_mono {reviewStatus : Option ReviewStatus}
    (selected :
      Truth.all (scopedConditions official reviewStatus row) = some true) :
    Truth.all (scopedConditions official none row) = some true := by
  rw [Truth.all_eq_true] at selected ⊢
  intro condition member
  apply selected
  unfold scopedConditions at member ⊢
  simp only [List.append_nil] at member
  exact List.mem_append_left _ member

end

def roleName : Pipeline.OfficialRole → String
  | .triageOfficer => "triage_officer"
  | .departmentOfficer => "department_officer"
  | .supervisor => "supervisor"
  | .auditor => "auditor"
  | .admin => "admin"

/-- The function is the one that `official_action` asks, which turns auditors
away before. -/
theorem pipeline_officialCanAccess (role : Pipeline.OfficialRole)
    (official : OfficialUser) (named : official.role = roleName role)
    (grievance : Grievance) :
    Pipeline.officialCanAccess
        { role := role, jurisdictionId := official.jurisdictionId
          departmentKeys := official.departmentKeys } grievance =
      officialCanAccess official grievance := by
  unfold Pipeline.officialCanAccess officialCanAccess
  rw [named]
  by_cases own : grievance.jurisdictionId = some official.jurisdictionId
  · cases role <;> simp [own, roleName]
  · simp [own]

/-! ## All pages -/

/-- The cases that the official can open. -/
def accessibleRows (rows : List StoredGrievance) (official : OfficialUser) :
    List StoredGrievance :=
  rows.filter fun row => officialCanAccess official row.grievance

section

variable {rows : List StoredGrievance} {official : OfficialUser}
  {row : StoredGrievance} {limit : Nat}

theorem mem_scoped {reviewStatus : Option ReviewStatus} :
    row ∈ scopedRows rows official reviewStatus ↔
      row ∈ rows ∧
        Truth.all (scopedConditions official reviewStatus row) =
          some true := by
  rw [scopedRows, List.mem_filter, decide_eq_true_iff]

/-- Whatever the filter, the page and the order, what is listed can be
opened. -/
theorem listed_accessible {order : Arrangement StoredGrievance.createdAt}
    {reviewStatus : Option ReviewStatus} {offset : Nat}
    (listed : row ∈ listScopedGrievances order rows official reviewStatus
      limit offset) :
    row ∈ rows ∧ officialCanAccess official row.grievance = true := by
  obtain ⟨stored, selected⟩ :=
    mem_scoped.mp (Arrangement.mem_of_mem_page listed)
  exact ⟨stored, scopedConditions_true.mp (scopedConditions_mono selected)⟩

/-- Without a filter the query selects the cases that can be opened. -/
theorem scopedRows_eq (rows : List StoredGrievance)
    (official : OfficialUser) :
    scopedRows rows official none = accessibleRows rows official := by
  apply List.filter_congr
  intro row _
  rw [Bool.eq_iff_iff, decide_eq_true_iff]
  exact scopedConditions_true

/-- What a page lists can be opened.  All pages together list every case that
can be opened, however the database orders equal times for each of them,
exactly when no page ends between two such cases of one time. -/
theorem list_and_access_agree (official : OfficialUser)
    (distinct : (rows.map StoredGrievance.id).Nodup) (positive : 0 < limit) :
    (∀ (orders : Nat → Arrangement StoredGrievance.createdAt) number row,
      row ∈ listScopedGrievances (orders number) rows official none limit
        (number * limit) →
      officialCanAccess official row.grievance = true) ∧
    ((∀ orders : Nat → Arrangement StoredGrievance.createdAt,
      ∀ row ∈ rows,
        (∃ number, row ∈ listScopedGrievances (orders number) rows official
          none limit (number * limit)) ↔
        officialCanAccess official row.grievance = true) ↔
    ∀ time, ¬ Arrangement.Splits StoredGrievance.createdAt limit
      (accessibleRows rows official) time) := by
  have apart : (accessibleRows rows official).Nodup :=
    (List.Nodup.of_map _ distinct).filter _
  refine ⟨fun orders number row listed => (listed_accessible listed).2, ?_⟩
  rw [← Arrangement.mem_pages_iff apart positive]
  unfold listScopedGrievances
  rw [scopedRows_eq]
  constructor
  · intro agree orders row accessible
    obtain ⟨stored, access⟩ := List.mem_filter.mp accessible
    exact (agree orders row stored).mpr access
  · intro shown orders row stored
    constructor
    · rintro ⟨number, onPage⟩
      exact (List.mem_filter.mp (Arrangement.mem_of_mem_page onPage)).2
    · intro access
      exact shown orders row (List.mem_filter.mpr ⟨stored, access⟩)

def sampleCase (id : String) (createdAt : Time)
    (jurisdictionId departmentKey : Option String) : StoredGrievance :=
  { id := id, createdAt := createdAt
    grievance :=
      { Pipeline.draftGrievance "JS-20260625-00001" "contact" none none .web
          { lat := none, lon := none, displayAddress := none, messages := []
            photoMediaId := none } 0 with
        jurisdictionId := jurisdictionId
        departmentKey := departmentKey } }

/-- A case of the jurisdiction, one that has no department yet, and one that
has no jurisdiction yet. -/
def sampleCases : List StoredGrievance :=
  [sampleCase "g1" 1 (some "demo-ulb") (some "sanitation"),
   sampleCase "g2" 1 (some "demo-ulb") none, sampleCase "g3" 2 none none]

def sampleOfficer : OfficialUser :=
  { email := "officer@example.com", name := "Officer"
    role := "department_officer", jurisdictionId := "demo-ulb"
    departmentKeys := ["sanitation"], active := true, lastLoginAt := none }

/-- On pages of one case each, the officer finds the case of the department and
not the one that has none. -/
theorem list_and_access_agree_sample :
    (∃ number, sampleCase "g1" 1 (some "demo-ulb") (some "sanitation") ∈
      listScopedGrievances (.stable _) sampleCases sampleOfficer none 1
        (number * 1)) ∧
    ¬ ∃ number, sampleCase "g2" 1 (some "demo-ulb") none ∈
      listScopedGrievances (.stable _) sampleCases sampleOfficer none 1
        (number * 1) := by
  have distinct : (sampleCases.map StoredGrievance.id).Nodup := by decide
  have whole : ∀ time, ¬ Arrangement.Splits StoredGrievance.createdAt 1
      (accessibleRows sampleCases sampleOfficer) time := by
    rintro time ⟨number, after, before⟩
    have one : (accessibleRows sampleCases sampleOfficer).length = 1 := by
      decide
    have few := List.countP_le_length
      (l := accessibleRows sampleCases sampleOfficer)
      (p := fun row => Decidable.decide (row.createdAt ≤ time))
    omega
  have agree := (list_and_access_agree sampleOfficer distinct one_pos).2.mpr
    whole fun _ => .stable _
  constructor
  · exact (agree _ (.head _)).mpr (by decide)
  · intro listed
    have access := (agree _ (.tail _ (.head _))).mp listed
    exact absurd access (by decide)

/-- Two cases of the officer that were created at one time, on pages of one
case each: the database can put one of them first on both. -/
theorem list_misses_accessible :
    ¬ ∀ (rows : List StoredGrievance) (official : OfficialUser) (limit : Nat)
      (orders : Nat → Arrangement StoredGrievance.createdAt) (row),
      (rows.map StoredGrievance.id).Nodup → 0 < limit → row ∈ rows →
      ((∃ number, row ∈ listScopedGrievances (orders number) rows official
          none limit (number * limit)) ↔
        officialCanAccess official row.grievance = true) := by
  intro agree
  let rows := [sampleCase "g1" 1 (some "demo-ulb") (some "sanitation"),
    sampleCase "g2" 1 (some "demo-ulb") (some "sanitation")]
  have distinct : (rows.map StoredGrievance.id).Nodup := by decide
  have whole : scopedRows rows sampleOfficer none = rows := by decide
  have split : Arrangement.Splits StoredGrievance.createdAt 1 rows 1 :=
    ⟨1, by decide, by decide⟩
  obtain ⟨orders, row, stored, _, missed⟩ :=
    Arrangement.exists_missed (List.Nodup.of_map _ distinct) split
  have access : officialCanAccess sampleOfficer row.grievance = true := by
    have selected : row ∈ scopedRows rows sampleOfficer none := by
      rwa [whole]
    exact scopedConditions_true.mp (mem_scoped.mp selected).2
  obtain ⟨number, listed⟩ := (agree rows sampleOfficer 1 orders row distinct
    one_pos stored).mpr access
  unfold listScopedGrievances at listed
  rw [whole] at listed
  exact missed number listed

end

end JanSetu.Officials
