import JanSetu.Pipeline.Taxonomy

/-!
# Effective routing

`routing.py` over `repositories/jurisdictions.py`: a live row of
`jurisdiction_routes` wins over the bundled profile.
-/

namespace JanSetu.Pipeline

/-- A row of `jurisdiction_routes`. -/
structure JurisdictionRouteRow where
  jurisdictionId : String
  taxonomyVersion : String
  categoryId : String
  departmentKey : String
  owningAgency : String
  slaHours : Option Nat
  dispatchEnabled : Bool
  effectiveFrom : Option Time
  effectiveTo : Option Time
deriving DecidableEq

def JurisdictionRouteRow.asRoute (row : JurisdictionRouteRow) :
    JurisdictionRoute :=
  { categoryKey := row.categoryId, departmentKey := row.departmentKey
    owningAgency := row.owningAgency, slaHours := row.slaHours
    dispatchEnabled := row.dispatchEnabled }

def JurisdictionRouteRow.liveAt (row : JurisdictionRouteRow)
    (moment : Time) : Bool :=
  row.effectiveFrom.all (· ≤ moment) && row.effectiveTo.all (moment < ·)

def loadJurisdictionRoutes (rows : List JurisdictionRouteRow)
    (jurisdictionId taxonomyVersion : String) (moment : Time) :
    List JurisdictionRouteRow :=
  rows.filter fun row =>
    row.jurisdictionId = jurisdictionId &&
      row.taxonomyVersion = taxonomyVersion && row.liveAt moment

/-- The rows are collected in a dictionary by category, so the last row of a
category is the one that counts. -/
def overrideFor (rows : List JurisdictionRouteRow) (categoryKey : String) :
    Option JurisdictionRouteRow :=
  rows.reverse.find? (·.categoryId = categoryKey)

def resolveRoute (rows : List JurisdictionRouteRow)
    (categoryKey : Option String) (jurisdictionId : String) (moment : Time) :
    Option JurisdictionRoute :=
  match canonicalCategoryKey categoryKey with
  | none => none
  | some canonical =>
      let overrides :=
        loadJurisdictionRoutes rows jurisdictionId taxonomyVersion moment
      match overrideFor overrides canonical with
      | some row => some row.asRoute
      | none => (canonicalCategory canonical).map demoRoute

/-- The JSON snapshot the four writers of `routing_snapshot` build alike. -/
def routingSnapshot (categoryId departmentKey : String)
    (route : Option JurisdictionRoute) (disposition : Disposition) :
    RoutingSnapshot :=
  { taxonomyVersion := taxonomyVersion, categoryId := categoryId
    departmentKey := departmentKey
    owningAgency := route.map (·.owningAgency)
    dispatchEnabled := route.elim false (·.dispatchEnabled)
    slaHours := route.bind (·.slaHours)
    disposition := disposition }

/-- The reviewed row in force for a category. -/
def overrideInForce (rows : List JurisdictionRouteRow)
    (categoryKey : Option String) (jurisdictionId : String)
    (moment : Time) : Option JurisdictionRouteRow :=
  (canonicalCategoryKey categoryKey).bind
    (overrideFor
      (loadJurisdictionRoutes rows jurisdictionId taxonomyVersion moment))

/-- The reviewed row comes first, and the bundled profile otherwise. -/
theorem resolveRoute_eq (rows : List JurisdictionRouteRow)
    (categoryKey jurisdictionId : String) (moment : Time) :
    resolveRoute rows (some categoryKey) jurisdictionId moment =
      match overrideInForce rows (some categoryKey) jurisdictionId moment with
      | some row => some row.asRoute
      | none => routeForCategory categoryKey := by
  unfold resolveRoute overrideInForce routeForCategory
  cases canonicalCategoryKey (some categoryKey) <;> rfl

/-- A category of the bundled profile goes to its own department. -/
theorem routeForCategory_department {categoryKey : String}
    {route : JurisdictionRoute}
    (found : routeForCategory categoryKey = some route) :
    route.departmentKey =
      (categoryOrDefault (some categoryKey)).departmentKey := by
  unfold routeForCategory at found
  split at found
  · cases found
  case h_2 canonical isCanonical =>
    obtain ⟨category, known, rfl⟩ := Option.map_eq_some_iff.mp found
    have same : categoryOrDefault (some categoryKey) = category := by
      simp [categoryOrDefault, isCanonical, known]
    rw [same]
    rfl

/-- The bundled profile never dispatches. -/
theorem routeForCategory_disabled {categoryKey : String}
    {route : JurisdictionRoute}
    (found : routeForCategory categoryKey = some route) :
    route.dispatchEnabled = false := by
  unfold routeForCategory at found
  split at found
  · cases found
  · obtain ⟨_, _, rfl⟩ := Option.map_eq_some_iff.mp found
    rfl

theorem routingSnapshot_disabled (categoryId departmentKey : String)
    (disposition : Disposition) :
    (routingSnapshot categoryId departmentKey (routeForCategory categoryId)
      disposition).dispatchEnabled = false := by
  cases found : routeForCategory categoryId with
  | none => rfl
  | some route => exact routeForCategory_disabled found

end JanSetu.Pipeline
