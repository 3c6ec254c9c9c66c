import JanSetu.Pipeline.Departments

/-!
# The route that reviews and extractions write

`run_pipeline` and `reextract_grievance` take the route from `resolve_route`,
`update_review` and `official_action` from `route_for_category`.  The snapshots
agree exactly when no reviewed row is in force that differs from the bundled
profile.
-/

namespace JanSetu.Pipeline

/-- What a snapshot says about the route. -/
def snapshotRouting (snapshot : RoutingSnapshot) :
    String × Option String × Bool × Option Nat :=
  (snapshot.departmentKey, snapshot.owningAgency, snapshot.dispatchEnabled,
   snapshot.slaHours)

/-- The snapshots that the two reviews write on a grievance for a category, the
official's without an explicit department. -/
inductive ReviewSnapshot (row : Grievance) (key : String) :
    RoutingSnapshot → Prop where
  | updateReview (body : ReviewPatch) (assetScope : AssetScope)
      {snapshot : RoutingSnapshot} :
      (UpdateReview.fields body key assetScope row).routingSnapshot =
        some snapshot →
      ReviewSnapshot row key snapshot
  | officialAction (body : OfficialAction) {snapshot : RoutingSnapshot} :
      Python.truthy body.departmentKey = false →
      (OfficialAction.fields body key row).routingSnapshot = some snapshot →
      ReviewSnapshot row key snapshot

/-- The snapshots that the two extractions write on it for the category. -/
inductive ExtractionSnapshot (rows : List JurisdictionRouteRow)
    (row : Grievance) (key : String) (now : Time) :
    RoutingSnapshot → Prop where
  | runPipeline (work : PipelineWork) (text : String)
      {snapshot : RoutingSnapshot} :
      work.extraction.categoryId = key →
      (RunPipeline.fields work
        (resolveRoute rows (some work.extraction.categoryId)
          (jurisdictionOf row) now) text row).routingSnapshot =
        some snapshot →
      ExtractionSnapshot rows row key now snapshot
  | reextract (extraction : StructuredExtraction)
      {snapshot : RoutingSnapshot} :
      (Reextract.category row extraction).key = key →
      (Reextract.fields extraction
        (resolveRoute rows (some (Reextract.category row extraction).key)
          (jurisdictionOf row) now) row).routingSnapshot = some snapshot →
      ExtractionSnapshot rows row key now snapshot

/-- The reviewed row in force, if there is one, says what the bundled profile
says. -/
def OverrideIsBundled (rows : List JurisdictionRouteRow) (row : Grievance)
    (key : String) (now : Time) : Prop :=
  ∀ override, overrideInForce rows (some key) (jurisdictionOf row) now =
      some override →
    override.departmentKey = (categoryOrDefault (some key)).departmentKey ∧
      (routeForCategory key).map (·.owningAgency) =
        some override.owningAgency ∧
      override.dispatchEnabled = false ∧
      (routeForCategory key).bind (·.slaHours) = override.slaHours

/-- What is written of a route, or without one. -/
def routingOf (key : String) (route : Option JurisdictionRoute) :
    String × Option String × Bool × Option Nat :=
  (route.elim (categoryOrDefault (some key)).departmentKey (·.departmentKey),
   route.map (·.owningAgency), route.elim false (·.dispatchEnabled),
   route.bind (·.slaHours))

section

variable {rows : List JurisdictionRouteRow} {row : Grievance} {key : String}
  {now : Time} {snapshot : RoutingSnapshot}

/-- A review takes the route of the bundled profile. -/
theorem ReviewSnapshot.routing (reviewed : ReviewSnapshot row key snapshot) :
    snapshotRouting snapshot = routingOf key (routeForCategory key) := by
  cases reviewed with
  | updateReview body assetScope written =>
      cases written
      rfl
  | officialAction body implicit written =>
      cases written
      simp [snapshotRouting, routingOf, routingSnapshot, implicit]

/-- An extraction takes the route in force. -/
theorem ExtractionSnapshot.routing
    (extracted : ExtractionSnapshot rows row key now snapshot) :
    snapshotRouting snapshot =
      routingOf key
        (resolveRoute rows (some key) (jurisdictionOf row) now) := by
  cases extracted with
  | runPipeline work text same written =>
      subst same
      cases written
      rfl
  | reextract extraction same written =>
      subst same
      cases written
      unfold routingOf
      rw [Reextract.category_default]
      rfl

/-- The bundled profile, as it is written. -/
theorem routingOf_bundled (key : String) :
    routingOf key (routeForCategory key) =
      ((categoryOrDefault (some key)).departmentKey,
       (routeForCategory key).map (·.owningAgency), false,
       (routeForCategory key).bind (·.slaHours)) := by
  unfold routingOf
  rw [routeForCategory_elim]
  cases found : routeForCategory key with
  | none => rfl
  | some route =>
      rw [Option.elim_some, routeForCategory_disabled found]

/-- The bundled route and the one in force are written alike exactly when the
override in force repeats the bundled one. -/
theorem routingOf_eq_iff :
    routingOf key (routeForCategory key) =
        routingOf key
          (resolveRoute rows (some key) (jurisdictionOf row) now) ↔
      OverrideIsBundled rows row key now := by
  rw [resolveRoute_eq]
  unfold OverrideIsBundled
  cases inForce : overrideInForce rows (some key) (jurisdictionOf row) now with
  | none => simp
  | some override =>
      rw [routingOf_bundled]
      constructor
      · intro same found is
        cases is
        simp only [routingOf, JurisdictionRouteRow.asRoute, Option.elim_some,
          Option.map_some, Option.bind_some, Prod.mk.injEq] at same
        obtain ⟨department, agency, enabled, sla⟩ := same
        exact ⟨department.symm, agency, enabled.symm, sla⟩
      · intro bundled
        obtain ⟨department, agency, enabled, sla⟩ := bundled override rfl
        simp [routingOf, JurisdictionRouteRow.asRoute, department, agency,
          enabled, sla]

end

/-- On every grievance and for every category, what the reviews write of the
route is what the extractions would write, exactly when no reviewed row in
force differs from the bundled profile. -/
theorem routing_agrees_iff (rows : List JurisdictionRouteRow)
    (row : Grievance) (key : String) (now : Time) :
    (∀ reviewed extracted, ReviewSnapshot row key reviewed →
        ExtractionSnapshot rows row key now extracted →
        snapshotRouting reviewed = snapshotRouting extracted) ↔
      OverrideIsBundled rows row key now := by
  rw [← routingOf_eq_iff]
  constructor
  · intro agrees
    let body : ReviewPatch :=
      { categoryId := none, assetScope := none, summary := none
        clarificationAnswer := none }
    let work : PipelineWork :=
      { clips := [], displayAddress := none, photoRead := false
        extraction := { streetlightExtraction with categoryId := key } }
    have reviewed : ReviewSnapshot row key _ :=
      .updateReview body .unknown rfl
    have extracted : ExtractionSnapshot rows row key now _ :=
      .runPipeline work "" rfl rfl
    have same := agrees _ _ reviewed extracted
    rw [reviewed.routing, extracted.routing] at same
    exact same
  · intro same reviewed extracted review extraction
    rw [review.routing, extraction.routing, same]

/-- A reviewed row that turns the dispatch on is lost in a review. -/
theorem routing_overridden :
    ¬ ∀ reviewed extracted,
      ReviewSnapshot draftedGrievance "streetlight_out" reviewed →
      ExtractionSnapshot [streetlightRoute "electrical"] draftedGrievance
        "streetlight_out" 0 extracted →
      snapshotRouting reviewed = snapshotRouting extracted := by
  intro agrees
  let body : OfficialAction :=
    { action := .approve, categoryId := none, assetScope := none
      safetyLevel := none, departmentKey := none }
  let work : PipelineWork :=
    { clips := [], displayAddress := none, photoRead := false
      extraction := streetlightExtraction }
  have reviewed : ReviewSnapshot draftedGrievance "streetlight_out" _ :=
    .officialAction body rfl rfl
  have extracted : ExtractionSnapshot [streetlightRoute "electrical"]
      draftedGrievance "streetlight_out" 0 _ :=
    .runPipeline work "" rfl rfl
  have same := agrees _ _ reviewed extracted
  rw [reviewed.routing, extracted.routing] at same
  revert same
  decide +kernel

end JanSetu.Pipeline
