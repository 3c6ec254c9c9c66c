import Mathlib.Data.List.Dedup
import Mathlib.Data.List.Sort
import JanSetu.Library.Table
import JanSetu.Pipeline.Finalization
import JanSetu.Pipeline.Routing
import JanSetu.Python.Json

/-!
# Seeding of live routes

`scripts/seed_jurisdiction_routes.py`, the one way in which live dispatch is
turned on and off: each run upserts a row for each category it is told of.  The
routes in force are those of the bundled profile, with the last run for a
category deciding on its dispatch.
-/

namespace JanSetu.Pipeline

/-- A row of `jurisdiction_routes` with who has reviewed it. -/
structure ReviewedRoute where
  row : JurisdictionRouteRow
  reviewedBy : Option String
deriving DecidableEq

/-- The columns of `uq_jurisdiction_route_version_category`. -/
structure RouteKey where
  jurisdictionId : String
  taxonomyVersion : String
  categoryId : String
deriving DecidableEq

abbrev RouteTable : Type :=
  Table RouteKey ReviewedRoute

def JurisdictionRouteRow.key (row : JurisdictionRouteRow) : RouteKey :=
  { jurisdictionId := row.jurisdictionId
    taxonomyVersion := row.taxonomyVersion
    categoryId := row.categoryId }

/-- The rows that routes are resolved from. -/
def RouteTable.routes (table : RouteTable) : List JurisdictionRouteRow :=
  table.rows.entries.map (·.2.row)

/-! ## The script -/

/-- The environment and the arguments of a run. -/
structure SeedRun where
  environment : String
  enable : Bool
  jurisdiction : String
  categories : List String
  reviewedBy : Option String
deriving DecidableEq

inductive SeedExit where
  | refusedEnvironment (environment : String)
  | reviewedByRequired
  | unknownJurisdiction (jurisdiction : String)
  | unknownCategories (unknown : List String)
  | raised (raised : Python.Raised)
deriving DecidableEq

/-- The text of a `SystemExit`, with `repr` for `!r`. -/
def SeedExit.message (repr : String → String) : SeedExit → Option String
  | .refusedEnvironment environment =>
      some ("Refusing to run with ENVIRONMENT=" ++ environment ++ ". " ++
        "Live dispatch routes for real jurisdictions need a reviewed change process.")
  | .reviewedByRequired =>
      some "--reviewed-by is required when enabling dispatch."
  | .unknownJurisdiction jurisdiction =>
      some ("Unknown jurisdiction " ++ repr jurisdiction ++ " -- seed it first.")
  | .unknownCategories unknown =>
      some ("Unknown categories: " ++ ", ".intercalate unknown)
  | .raised _ => none

/-- `reviewed_by` is a `String(255)`. -/
def reviewedByColumn (reviewedBy : Option String) : Bool :=
  reviewedBy.all fun text =>
    text.length ≤ 255 && !text.toList.contains '\x00'

/-- `sorted` of texts, by their code points. -/
def sortedTexts (texts : List String) : List String :=
  texts.insertionSort (· ≤ ·)

/-- The categories that the run writes, once it has passed its checks. -/
def SeedRun.targets (jurisdictions : List String) (run : SeedRun) :
    Except SeedExit (List String) :=
  let known := demoProfile.routes.map Prod.fst
  let unknown := run.categories.dedup.filter (· ∉ known)
  if run.environment ∉ ["development", "test"] then
    .error (.refusedEnvironment run.environment)
  else if run.enable ∧ Python.truthy run.reviewedBy = false then
    .error .reviewedByRequired
  else if run.jurisdiction ∉ jurisdictions then
    .error (.unknownJurisdiction run.jurisdiction)
  else if unknown ≠ [] then
    .error (.unknownCategories (sortedTexts unknown))
  -- The first `INSERT` raises, and nothing is committed.
  else if reviewedByColumn run.reviewedBy = false then
    .error (.raised .databaseError)
  else
    .ok (sortedTexts
      (if run.categories ≠ [] then run.categories else known))

/-- The row that the run inserts for a category. -/
def SeedRun.row (run : SeedRun) (now : Time) (base : JurisdictionRoute)
    (key : String) : JurisdictionRouteRow :=
  { jurisdictionId := run.jurisdiction
    taxonomyVersion := taxonomyVersion
    categoryId := key
    departmentKey := base.departmentKey
    owningAgency := base.owningAgency
    slaHours := base.slaHours
    dispatchEnabled := run.enable
    effectiveFrom := some now
    effectiveTo := none }

/-- `INSERT ... ON CONFLICT DO UPDATE`. -/
def SeedRun.upsert (run : SeedRun) (now : Time) (table : RouteTable)
    (key : String) : RouteTable :=
  match demoProfile.routes.lookup key with
  | none => table
  | some base =>
      let inserted := run.row now base key
      match table.find inserted.key with
      | none =>
          table.put inserted.key
            { row := inserted, reviewedBy := run.reviewedBy }
      | some existing =>
          table.put inserted.key
            { row :=
                { existing.row with
                  dispatchEnabled := run.enable
                  effectiveFrom := some now
                  effectiveTo := none }
              reviewedBy := run.reviewedBy }

/-- The table after the run and how many routes it has written. -/
def SeedRun.seed (jurisdictions : List String) (table : RouteTable)
    (run : SeedRun) (now : Time) : Except SeedExit (RouteTable × Nat) :=
  match run.targets jurisdictions with
  | .error exit => .error exit
  | .ok targets => .ok (targets.foldl (run.upsert now) table, targets.length)

/-! ## Runs of the script -/

/-- The table after the runs, the last one first; a run that exits leaves it
as it is. -/
def seeded (jurisdictions : List String) :
    List (SeedRun × Time) → RouteTable
  | [] => Table.empty
  | (run, now) :: earlier =>
      match run.seed jurisdictions (seeded jurisdictions earlier) now with
      | .ok (table, _) => table
      | .error _ => seeded jurisdictions earlier

/-- The run writes the route of the category in the jurisdiction. -/
def SeedRun.decides (jurisdictions : List String) (run : SeedRun)
    (jurisdictionId key : String) : Bool :=
  match run.targets jurisdictions with
  | .ok targets => run.jurisdiction = jurisdictionId && key ∈ targets
  | .error _ => false

/-- The last run that has decided on a category. -/
def lastDecision (jurisdictions : List String)
    (history : List (SeedRun × Time)) (jurisdictionId key : String) :
    Option (SeedRun × Time) :=
  history.find? fun entry =>
    entry.1.decides jurisdictions jurisdictionId key

/-- Dispatch is live from the time of the last run, if that has enabled it. -/
def dispatchesAt (jurisdictions : List String)
    (history : List (SeedRun × Time)) (jurisdictionId key : String)
    (moment : Time) : Bool :=
  (lastDecision jurisdictions history jurisdictionId key).any fun entry =>
    entry.1.enable && entry.2 ≤ moment

/-! ## What a run leaves -/

/-- The row of a category as the run writes it. -/
def SeedRun.writes (run : SeedRun) (now : Time) (key : String)
    (base : JurisdictionRoute) : ReviewedRoute :=
  { row := run.row now base key, reviewedBy := run.reviewedBy }

/-- But for the decision, the rows are those of the bundled profile. -/
def RouteTable.Bundled (table : RouteTable) : Prop :=
  ∀ id route, table.find id = some route →
    ∃ run now base, demoProfile.routes.lookup id.categoryId = some base ∧
      route = SeedRun.writes run now id.categoryId base ∧
      route.row.key = id

variable {table : RouteTable} {run : SeedRun} {now : Time} {key : String}
  {base : JurisdictionRoute}

theorem SeedRun.upsert_eq (bundled : table.Bundled)
    (known : demoProfile.routes.lookup key = some base) :
    run.upsert now table key =
      table.put (run.row now base key).key (run.writes now key base) := by
  unfold SeedRun.upsert
  simp only [known]
  split
  · rfl
  case h_2 existing found =>
    obtain ⟨earlier, before, other, same, rfl, is⟩ := bundled _ _ found
    obtain rfl : other = base := Option.some.inj (same.symm.trans known)
    have jurisdiction : earlier.jurisdiction = run.jurisdiction :=
      congrArg RouteKey.jurisdictionId is
    congr 1
    simp [SeedRun.writes, SeedRun.row, JurisdictionRouteRow.key, jurisdiction]

theorem RouteTable.Bundled.upsert (bundled : table.Bundled)
    (known : demoProfile.routes.lookup key = some base) :
    RouteTable.Bundled (run.upsert now table key) := by
  intro id route found
  rw [SeedRun.upsert_eq bundled known, Table.find_put] at found
  split at found
  case isTrue same =>
    cases found
    subst same
    exact ⟨run, now, base, known, rfl, rfl⟩
  case isFalse => exact bundled id route found

theorem exists_lookup (known : key ∈ demoProfile.routes.map Prod.fst) :
    ∃ base, demoProfile.routes.lookup key = some base := by
  obtain ⟨entry, member, rfl⟩ := List.mem_map.mp known
  cases found : demoProfile.routes.lookup entry.1 with
  | some base => exact ⟨base, rfl⟩
  | none =>
      have absent := List.lookup_eq_none_iff.mp found entry member
      simp at absent

/-- All the categories of a run are written, and no other row. -/
theorem RouteTable.Bundled.fold {targets : List String}
    (bundled : table.Bundled)
    (known : ∀ key ∈ targets, key ∈ demoProfile.routes.map Prod.fst) :
    RouteTable.Bundled (targets.foldl (run.upsert now) table) ∧
      ∀ id, (targets.foldl (run.upsert now) table).find id =
        if id.jurisdictionId = run.jurisdiction ∧
            id.taxonomyVersion = taxonomyVersion ∧ id.categoryId ∈ targets
          then
            (demoProfile.routes.lookup id.categoryId).map
              (run.writes now id.categoryId)
          else table.find id := by
  induction targets generalizing table with
  | nil => exact ⟨bundled, fun id => by simp⟩
  | cons key targets induction =>
      obtain ⟨base, found⟩ := exists_lookup (known key List.mem_cons_self)
      have further : RouteTable.Bundled (run.upsert now table key) :=
        bundled.upsert found
      obtain ⟨last, finds⟩ := induction further
        fun other member => known other (List.mem_cons_of_mem _ member)
      refine ⟨last, ?_⟩
      intro id
      rw [List.foldl_cons, finds, SeedRun.upsert_eq bundled found,
        Table.find_put]
      obtain ⟨jurisdictionId, version, categoryId⟩ := id
      by_cases own : jurisdictionId = run.jurisdiction ∧
          version = taxonomyVersion
      · obtain ⟨rfl, rfl⟩ := own
        by_cases same : categoryId = key
        · simp [SeedRun.row, JurisdictionRouteRow.key, same, found]
        · simp [SeedRun.row, JurisdictionRouteRow.key, same]
      · rw [if_neg fun all => own ⟨all.1, all.2.1⟩,
          if_neg fun same => own ⟨congrArg RouteKey.jurisdictionId same,
            congrArg RouteKey.taxonomyVersion same⟩,
          if_neg fun all => own ⟨all.1, all.2.1⟩]

variable {jurisdictions : List String} {history : List (SeedRun × Time)}

theorem mem_sortedTexts {texts : List String} :
    key ∈ sortedTexts texts ↔ key ∈ texts :=
  (List.perm_insertionSort (· ≤ ·) texts).mem_iff

/-- A run that is not refused writes categories of the profile alone, and
enables none without a reviewer. -/
theorem SeedRun.targets_ok {targets : List String}
    (passed : run.targets jurisdictions = .ok targets) :
    (∀ key ∈ targets, key ∈ demoProfile.routes.map Prod.fst) ∧
      (run.enable = true → Python.truthy run.reviewedBy = true) := by
  unfold SeedRun.targets at passed
  dsimp only at passed
  split at passed
  · cases passed
  · split at passed
    · cases passed
    case isFalse reviewed =>
      split at passed
      · cases passed
      · split at passed
        · cases passed
        case isFalse unknown =>
          rw [not_not] at unknown
          split at passed
          · cases passed
          · cases passed
            constructor
            · intro key member
              rw [mem_sortedTexts] at member
              split at member
              · by_contra strange
                have left : key ∈ run.categories.dedup.filter
                    (· ∉ demoProfile.routes.map Prod.fst) :=
                  List.mem_filter.mpr
                    ⟨List.mem_dedup.mpr member, by simpa using strange⟩
                rw [unknown] at left
                cases left
              · exact member
            · intro enables
              by_contra missing
              exact reviewed ⟨enables, by simpa using missing⟩

theorem lastDecision_cons {jurisdictionId : String} :
    lastDecision jurisdictions ((run, now) :: history) jurisdictionId key =
      if run.decides jurisdictions jurisdictionId key then some (run, now)
      else lastDecision jurisdictions history jurisdictionId key := by
  unfold lastDecision
  rw [List.find?_cons]
  split
  case h_1 decides => rw [if_pos decides]
  case h_2 refuses => rw [refuses, if_neg (by simp)]

/-- The table holds, for each category, what the last run for it has
written. -/
theorem seeded_find (jurisdictions : List String)
    (history : List (SeedRun × Time)) :
    RouteTable.Bundled (seeded jurisdictions history) ∧
      ∀ id, (seeded jurisdictions history).find id =
        if id.taxonomyVersion = taxonomyVersion then
          (lastDecision jurisdictions history id.jurisdictionId
            id.categoryId).bind fun entry =>
              (demoProfile.routes.lookup id.categoryId).map
                (entry.1.writes entry.2 id.categoryId)
        else none := by
  induction history with
  | nil =>
      constructor
      · intro id route found
        cases found
      · intro id
        simp [seeded, lastDecision]
  | cons entry earlier induction =>
      obtain ⟨run, now⟩ := entry
      obtain ⟨bundled, finds⟩ := induction
      unfold seeded SeedRun.seed
      cases passed : run.targets jurisdictions with
      | error exit =>
          refine ⟨bundled, ?_⟩
          intro id
          have undecided : run.decides jurisdictions id.jurisdictionId
              id.categoryId = false := by
            simp [SeedRun.decides, passed]
          dsimp only
          rw [finds, lastDecision_cons, undecided,
            if_neg (Bool.false_ne_true)]
      | ok targets =>
          obtain ⟨last, written⟩ :=
            bundled.fold (SeedRun.targets_ok passed).1
          refine ⟨last, ?_⟩
          intro id
          dsimp only
          rw [written]
          by_cases decides : run.decides jurisdictions id.jurisdictionId
              id.categoryId = true
          · have own := decides
            simp only [SeedRun.decides, passed, Bool.and_eq_true,
              decide_eq_true_eq] at own
            rw [lastDecision_cons, if_pos decides]
            by_cases current : id.taxonomyVersion = taxonomyVersion
            · simp [own.1, own.2, current]
            · rw [if_neg fun all => current all.2.1, finds,
                if_neg current, if_neg current]
          · have other := decides
            simp only [SeedRun.decides, passed, Bool.and_eq_true,
              decide_eq_true_eq, not_and] at other
            rw [lastDecision_cons, if_neg decides,
              if_neg fun all => other all.1.symm all.2.2]
            exact finds id

/-! ## The routes in force -/

/-- The last row of a category among those of a table is its only one. -/
theorem overrideFor_routes (keyed : ∀ id route, table.find id = some route →
      route.row.key = id) (jurisdictionId version : String)
    (moment : Time) :
    overrideFor
        (loadJurisdictionRoutes table.routes jurisdictionId version moment)
        key =
      ((table.find
          { jurisdictionId := jurisdictionId, taxonomyVersion := version
            categoryId := key }).map (·.row)).filter (·.liveAt moment) := by
  have stored : ∀ row, row ∈ loadJurisdictionRoutes table.routes
        jurisdictionId version moment ∧ row.categoryId = key ↔
      ∃ route, table.find
          { jurisdictionId := jurisdictionId, taxonomyVersion := version
            categoryId := key } = some route ∧
        route.row = row ∧ row.liveAt moment = true := by
    intro row
    simp only [loadJurisdictionRoutes, RouteTable.routes, List.mem_filter,
      List.mem_map, Bool.and_eq_true, decide_eq_true_eq]
    constructor
    · rintro ⟨⟨⟨⟨id, route⟩, member, rfl⟩, ⟨same, current⟩, live⟩, rfl⟩
      have found := Table.mem_entries_iff.mp member
      have is := keyed id route found
      subst is
      refine ⟨route, ?_, rfl, live⟩
      rw [← same, ← current]
      exact found
    · rintro ⟨route, found, rfl, live⟩
      have is := keyed _ _ found
      refine ⟨⟨⟨⟨_, route⟩, Table.mem_entries_iff.mpr found, rfl⟩,
        ⟨congrArg RouteKey.jurisdictionId is,
          congrArg RouteKey.taxonomyVersion is⟩, live⟩,
        congrArg RouteKey.categoryId is⟩
  unfold overrideFor
  cases chosen : (loadJurisdictionRoutes table.routes jurisdictionId version
      moment).reverse.find? (·.categoryId = key) with
  | some row =>
      have member := List.mem_of_find?_eq_some chosen
      have passes := List.find?_some chosen
      obtain ⟨route, found, rfl, live⟩ := (stored row).mp
        ⟨List.mem_reverse.mp member, of_decide_eq_true passes⟩
      rw [found, Option.map_some, Option.filter_some, if_pos live]
  | none =>
      symm
      rw [Option.filter_eq_none_iff]
      intro row found live
      obtain ⟨route, is, rfl⟩ := Option.map_eq_some_iff.mp found
      obtain ⟨member, own⟩ := (stored _).mpr ⟨route, is, rfl, live⟩
      have passed := List.find?_eq_none.mp chosen _
        (List.mem_reverse.mpr member)
      simp [own] at passed

theorem lookup_demoProfile (key : String) :
    demoProfile.routes.lookup key = (canonicalCategory key).map demoRoute :=
  JurisdictionProfile.lookup_map demoRoute key categoryRows

/-- The row of a run is in force from its time on. -/
theorem SeedRun.row_liveAt (moment : Time) :
    (run.row now base key).liveAt moment = decide (now ≤ moment) := by
  simp [SeedRun.row, JurisdictionRouteRow.liveAt]

/-- The row of a run is the bundled route but for the decision. -/
theorem SeedRun.row_asRoute
    (known : demoProfile.routes.lookup key = some base) :
    (run.row now base key).asRoute =
      { base with dispatchEnabled := run.enable } := by
  rw [lookup_demoProfile] at known
  obtain ⟨category, found, rfl⟩ := Option.map_eq_some_iff.mp known
  have is := canonicalCategory_key found
  simp [SeedRun.row, JurisdictionRouteRow.asRoute, demoRoute, is]

theorem lookup_undispatched
    (known : demoProfile.routes.lookup key = some base) :
    { base with dispatchEnabled := false } = base := by
  rw [lookup_demoProfile] at known
  obtain ⟨category, found, rfl⟩ := Option.map_eq_some_iff.mp known
  rfl

/-- The reviewed row in force is that of the last run for the category. -/
theorem overrideFor_seeded (jurisdictions : List String)
    (history : List (SeedRun × Time)) (jurisdictionId : String)
    (moment : Time) :
    overrideFor
        (loadJurisdictionRoutes (seeded jurisdictions history).routes
          jurisdictionId taxonomyVersion moment) key =
      (lastDecision jurisdictions history jurisdictionId key).bind
        fun entry =>
          if entry.2 ≤ moment then
            (demoProfile.routes.lookup key).map (entry.1.row entry.2 · key)
          else none := by
  obtain ⟨bundled, finds⟩ := seeded_find jurisdictions history
  have keyed : ∀ id route,
      (seeded jurisdictions history).find id = some route →
        route.row.key = id := by
    intro id route found
    obtain ⟨_, _, _, _, _, is⟩ := bundled id route found
    exact is
  rw [overrideFor_routes keyed, finds, if_pos rfl]
  cases lastDecision jurisdictions history jurisdictionId key with
  | none => rfl
  | some entry =>
      cases known : demoProfile.routes.lookup key with
      | none => simp
      | some base =>
          simp [SeedRun.writes, Option.filter_some, SeedRun.row_liveAt]

/-- Whatever runs of the script there have been, the route of a category is
the bundled one, and dispatches from the time of the last run for it, if that
has enabled it.  Whoever enabled it has named a reviewer. -/
theorem seed_decides (jurisdictions : List String)
    (history : List (SeedRun × Time)) (category jurisdictionId : String)
    (moment : Time) :
    resolveRoute (seeded jurisdictions history).routes (some category)
        jurisdictionId moment =
      ((canonicalCategoryKey (some category)).bind fun key =>
        (demoProfile.routes.lookup key).map fun route =>
          { route with
            dispatchEnabled :=
              dispatchesAt jurisdictions history jurisdictionId key moment })
      ∧ ∀ id route, (seeded jurisdictions history).find id = some route →
        route.row.dispatchEnabled = true →
          Python.truthy route.reviewedBy = true := by
  constructor
  · unfold resolveRoute
    cases canonicalCategoryKey (some category) with
    | none => rfl
    | some key =>
        dsimp only
        rw [overrideFor_seeded, ← lookup_demoProfile, Option.bind_some]
        unfold dispatchesAt
        cases known : demoProfile.routes.lookup key with
        | none =>
            cases lastDecision jurisdictions history jurisdictionId key <;>
              simp
        | some base =>
            have off := lookup_undispatched known
            cases lastDecision jurisdictions history jurisdictionId key with
            | none => simp [off]
            | some entry =>
                by_cases live : entry.2 ≤ moment
                · simp [live, SeedRun.row_asRoute known]
                · simp [live, off]
  · intro id route found enabled
    obtain ⟨_, finds⟩ := seeded_find jurisdictions history
    rw [finds] at found
    split at found
    · obtain ⟨entry, decision, written⟩ := Option.bind_eq_some_iff.mp found
      obtain ⟨base, _, rfl⟩ := Option.map_eq_some_iff.mp written
      have decides := List.find?_some decision
      unfold SeedRun.decides at decides
      split at decides
      case h_1 passed => exact (SeedRun.targets_ok passed).2 enabled
      case h_2 => cases decides
    · cases found

end JanSetu.Pipeline
