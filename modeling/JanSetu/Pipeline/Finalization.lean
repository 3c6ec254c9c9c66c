import JanSetu.Pipeline.Steps

/-!
# Finalisation follows the policy

The routing policy for any jurisdiction profile, and what `finalize_grievance`
makes of a grievance whose columns it has derived.  The flags of the policy for
review and duplicates are not stored; the branches of the finalisation find
them again in the review status, the disposition and the priority.
-/

namespace JanSetu

/-! ## Jurisdiction profiles -/

structure JurisdictionProfile where
  key : String
  name : String
  isDemo : Bool
  routes : List (String × JurisdictionRoute)

def demoProfile : JurisdictionProfile :=
  { key := demoJurisdictionId
    name := "Demo Municipal Corporation (non-production)"
    isDemo := true
    routes := categoryRows.map fun category =>
      (category.key, demoRoute category) }

namespace JurisdictionProfile

def routeForCategory (profile : JurisdictionProfile) (categoryKey : String) :
    Option JurisdictionRoute :=
  profile.routes.lookup ((canonicalCategoryKey (some categoryKey)).getD "")

def evaluateRoutingPolicy (profile : JurisdictionProfile)
    (categoryKey : Option String) (safety : SafetyLevel)
    (assetScope : AssetScope) (jurisdictionKnown : Bool) : RoutingDecision :=
  let canonical := canonicalCategoryKey categoryKey
  if safety = .immediate ∨
      ∃ key ∈ canonical, key ∈ immediateSafetyCategories then
    { disposition := .emergencyRedirect, priority := .priority
      dedupEligible := false, needsOfficialReview := true
      reason := "Immediate safety indicator requires emergency guidance and official escalation." }
  else if ¬ jurisdictionKnown then
    { disposition := .redirect, priority := .normal
      dedupEligible := false, needsOfficialReview := true
      reason := "Location is outside or not resolved to a configured jurisdiction." }
  else
    match canonical with
    | none =>
        { disposition := .needsHumanReview, priority := .normal
          dedupEligible := false, needsOfficialReview := true
          reason := "Issue is ambiguous, multi-issue, or outside the configured taxonomy." }
    | some key =>
        if key ∈ reviewFallbackCategories then
          { disposition := .needsHumanReview, priority := .normal
            dedupEligible := false, needsOfficialReview := true
            reason := "Issue is ambiguous, multi-issue, or outside the configured taxonomy." }
        else if assetScope = .privateAsset then
          { disposition := .redirect, priority := .normal
            dedupEligible := false, needsOfficialReview := true
            reason := "Reported asset appears private and ownership must be verified." }
        else if key ∈ externalReferralCategories then
          { disposition := .redirect
            priority := if safety = .possible then .priority else .normal
            dedupEligible := false, needsOfficialReview := true
            reason := "Configured service belongs to an external authority." }
        else if (profile.routeForCategory key).isNone then
          { disposition := .needsHumanReview
            priority := (categoryOrDefault (some key)).defaultPriority
            dedupEligible := false, needsOfficialReview := true
            reason := "No configured municipal route is available for this service." }
        else if safety = .possible then
          { disposition := .municipalTicketAndEscalate, priority := .priority
            dedupEligible := false, needsOfficialReview := false
            reason := "Possible safety risk is filed with expedited handling." }
        else
          let rank := (categoryOrDefault (some key)).defaultPriority
          { disposition := .municipalTicket, priority := rank
            dedupEligible := rank ≠ .priority
            needsOfficialReview := false
            reason := "Configured public municipal service with sufficient evidence." }

theorem lookup_map {Value : Type} (route : Category → Value) (key : String)
    (rows : List Category) :
    (rows.map fun category => (category.key, route category)).lookup key =
      (rows.find? (·.key = key)).map route := by
  induction rows with
  | nil => rfl
  | cons row rows induction =>
      rw [List.map_cons, List.lookup_cons, List.find?_cons]
      by_cases same : key = row.key
      · simp [same]
      · have different : (key == row.key) = false := by
          simpa using same
        have other : decide (row.key = key) = false := by
          simpa using Ne.symm same
        rw [different, other]
        exact induction

theorem demoProfile_routeForCategory (categoryKey : String) :
    demoProfile.routeForCategory categoryKey =
      JanSetu.routeForCategory categoryKey := by
  unfold routeForCategory JanSetu.routeForCategory demoProfile
  rw [lookup_map]
  cases canonicalCategoryKey (some categoryKey) with
  | none =>
      have missing : categoryRows.find? (·.key = "") = none :=
        canonicalCategory_ne_empty
      rw [Option.getD_none, missing]
      rfl
  | some canonical => rfl

/-- The policy of the other operations is that of the bundled profile. -/
theorem demoProfile_policy (categoryKey : Option String)
    (safety : SafetyLevel) (assetScope : AssetScope)
    (jurisdictionKnown : Bool) :
    demoProfile.evaluateRoutingPolicy categoryKey safety assetScope
        jurisdictionKnown =
      JanSetu.evaluateRoutingPolicy categoryKey safety assetScope
        jurisdictionKnown := by
  have routes : demoProfile.routeForCategory = JanSetu.routeForCategory :=
    funext demoProfile_routeForCategory
  unfold evaluateRoutingPolicy JanSetu.evaluateRoutingPolicy
  generalize demoProfile.routeForCategory = route at routes ⊢
  subst routes
  cases canonicalCategoryKey categoryKey <;> rfl

end JurisdictionProfile

/-! ## What the columns say of a decision -/

/-- The dispositions that leave a grievance to an official. -/
def Disposition.leftToOfficial : Disposition → Bool
  | .redirect => true
  | .emergencyRedirect => true
  | .needsHumanReview => true
  | .municipalTicket => false
  | .municipalTicketAndEscalate => false

/-- The flags of a decision can be read off its disposition and priority. -/
structure RoutingDecision.Consistent (policy : RoutingDecision) : Prop where
  review : policy.disposition.leftToOfficial = policy.needsOfficialReview
  dedup : policy.dedupEligible = true ↔
    policy.needsOfficialReview = false ∧ policy.priority ≠ .priority

namespace Pipeline

/-! ## Coherent grievances -/

/-- The decision of the policy on what is stored of a grievance. -/
def policyFor (profile : JurisdictionProfile) (row : Grievance) :
    RoutingDecision :=
  profile.evaluateRoutingPolicy row.category (row.safetyLevel.getD .none)
    (row.assetScope.getD .unknown) (Python.truthy row.locationAddress)

/-- The derived columns are those of the policy, and the review is with whom
the policy gives it to. -/
structure DerivedFrom (profile : JurisdictionProfile) (row : Grievance) :
    Prop where
  priority : row.priority = some (policyFor profile row).priority
  disposition : row.disposition = some (policyFor profile row).disposition
  reviewStatus : row.reviewStatus = some (reviewStatusOf (policyFor profile row))

theorem RunPipeline.coherent (work : PipelineWork)
    (route : Option JurisdictionRoute) (text : String) (row : Grievance) :
    DerivedFrom demoProfile (RunPipeline.fields work route text row) := by
  have same : policyFor demoProfile (RunPipeline.fields work route text row) =
      RunPipeline.policy row work :=
    JurisdictionProfile.demoProfile_policy _ _ _ _
  constructor <;> rw [same] <;> rfl

theorem Reextract.coherent (extraction : StructuredExtraction)
    (route : Option JurisdictionRoute) (row : Grievance) :
    DerivedFrom demoProfile (Reextract.fields extraction route row) := by
  have same : policyFor demoProfile (Reextract.fields extraction route row) =
      Reextract.policy row extraction :=
    JurisdictionProfile.demoProfile_policy _ _ _ _
  constructor <;> rw [same] <;> rfl

theorem UpdateReview.coherent (body : ReviewPatch) (categoryKey : String)
    (assetScope : AssetScope) (row : Grievance) :
    DerivedFrom demoProfile
      (UpdateReview.fields body categoryKey assetScope row) := by
  have same : policyFor demoProfile
      (UpdateReview.fields body categoryKey assetScope row) =
      UpdateReview.policy categoryKey assetScope row :=
    JurisdictionProfile.demoProfile_policy _ _ _ _
  constructor <;> rw [same] <;> rfl

/-! ## What becomes of a finalisation -/

/-- The grievance is registered for an official, and the operation is over. -/
def ForOfficial (id : String) (after : Store) (progress : Progress) : Prop :=
  (∃ outcome, progress = .finalized outcome ∧ outcome.status = .registered) ∧
    after.Has id fun row =>
      row.status = .registered ∧ row.reviewStatus = some .pendingOfficial

/-- The duplicates have been searched. -/
def Searches (id : String) (row : Grievance) (now : Time)
    (progress : Progress) : Prop :=
  ∃ duplicate, progress = .more (.searched id row now duplicate)

/-- The three ways of the finalisation are those of the policy, and the search
that finds nothing opens the window. -/
structure Follows (settings : Settings) (geometry : Geometry) (id : String)
    (row : Grievance) (policy : RoutingDecision) (now : Time)
    (after : Store) (progress : Progress) : Prop where
  official : ForOfficial id after progress ↔
    policy.needsOfficialReview = true
  dispatch : progress = .more (.opened .dispatch id) ↔
    policy.needsOfficialReview = false ∧ policy.priority = .priority
  search : Searches id row now progress ↔ policy.dedupEligible = true
  window : progress = .more (.searched id row now none) →
    ∀ later final choice outcome, choice.answer ≠ .raises →
      Task.resume settings geometry later (.searched id row now none) choice =
        some (final, outcome) →
      final.Has id (·.status = .pendingWindow)

section

variable {settings : Settings} {geometry : Geometry} {store after : Store}
  {id : String} {row : Grievance} {now : Time}

theorem Follows.of_dispatch {policy : RoutingDecision}
    (consistent : policy.Consistent)
    (unreviewed : policy.needsOfficialReview = false)
    (priority : policy.priority = .priority) :
    Follows settings geometry id row policy now after
      (.more (.opened .dispatch id)) := by
  constructor
  case official =>
    rw [unreviewed]
    constructor
    · rintro ⟨⟨outcome, same, _⟩, _⟩
      cases same
    · intro review
      cases review
  case dispatch => exact ⟨fun _ => ⟨unreviewed, priority⟩, fun _ => rfl⟩
  case search =>
    constructor
    · rintro ⟨duplicate, same⟩
      cases same
    · intro eligible
      exact absurd priority (consistent.dedup.mp eligible).2
  case window =>
    intro same
    cases same

end

end Pipeline

end JanSetu
