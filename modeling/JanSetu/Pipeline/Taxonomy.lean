import JanSetu.Db.Models

/-!
# The civic taxonomy and the routing policy

The tables and pure functions of `taxonomy.py`.  Category keys are texts: a
row, a citizen or a model may name any.
-/

namespace JanSetu

def taxonomyVersion : String := "2026-07-v2"

def demoJurisdictionId : String := "demo-ulb"

structure Category where
  key : String
  label : String
  parentKey : String
  departmentKey : String
  defaultPriority : Priority
  termHint : Term
  aggregationKey : String
deriving DecidableEq

structure Department where
  key : String
  name : String
  email : String
deriving DecidableEq

structure JurisdictionRoute where
  categoryKey : String
  departmentKey : String
  owningAgency : String
  slaHours : Option Nat
  dispatchEnabled : Bool
deriving DecidableEq

structure RoutingDecision where
  disposition : Disposition
  priority : Priority
  dedupEligible : Bool
  needsOfficialReview : Bool
  reason : String
deriving DecidableEq

def category (key label parentKey departmentKey : String)
    (defaultPriority : Priority := .normal) (termHint : Term := .shortTerm) :
    Category :=
  { key := key, label := label, parentKey := parentKey
    departmentKey := departmentKey, defaultPriority := defaultPriority
    termHint := termHint, aggregationKey := key }

def categoryRows : List Category :=
  [
    category "pothole_surface_damage" "Pothole or road surface damage"
      "roads_mobility" "public_works"
      .normal .longTerm,
    category "road_cave_in" "Road cave-in or collapse"
      "roads_mobility" "public_works"
      .priority .longTerm,
    category "footpath_damage_or_obstruction" "Footpath damage or obstruction"
      "roads_mobility" "public_works"
      .normal .longTerm,
    category "median_or_guardrail_damage" "Median or guardrail damage"
      "roads_mobility" "public_works"
      .normal .longTerm,
    category "road_marking_or_signage" "Road marking or signage"
      "roads_mobility" "public_works",
    category "speed_breaker_or_traffic_calming" "Speed breaker or traffic calming"
      "roads_mobility" "public_works"
      .normal .longTerm,
    category "municipal_parking" "Municipal parking"
      "roads_mobility" "public_works",
    category "drain_cover_on_road" "Road drain cover"
      "roads_mobility" "public_works"
      .priority,
    category "streetlight_out" "Streetlight not working"
      "street_lighting_electrical" "electrical",
    category "streetlight_flickering" "Streetlight flickering"
      "street_lighting_electrical" "electrical",
    category "damaged_pole_or_fixture" "Damaged lighting pole or fixture"
      "street_lighting_electrical" "electrical"
      .priority,
    category "exposed_or_low_hanging_wire" "Exposed or low-hanging wire"
      "street_lighting_electrical" "external_referral"
      .priority,
    category "electrical_box_or_transformer_hazard" "Electrical box or transformer hazard"
      "street_lighting_electrical" "external_referral"
      .priority,
    category "unauthorized_connection" "Unauthorized electrical connection report"
      "street_lighting_electrical" "external_referral",
    category "missed_door_to_door_collection" "Missed door-to-door waste collection"
      "solid_waste_cleanliness" "sanitation",
    category "overflowing_community_bin" "Overflowing community bin"
      "solid_waste_cleanliness" "sanitation",
    category "open_dumping_or_litter" "Open dumping or litter"
      "solid_waste_cleanliness" "sanitation",
    category "construction_and_demolition_waste" "Construction and demolition waste"
      "solid_waste_cleanliness" "sanitation",
    category "bulk_or_commercial_waste" "Bulk or commercial waste"
      "solid_waste_cleanliness" "sanitation",
    category "burning_waste" "Burning waste"
      "solid_waste_cleanliness" "sanitation"
      .priority,
    category "dead_animal_collection" "Dead animal collection"
      "solid_waste_cleanliness" "sanitation",
    category "street_sweeping" "Street sweeping"
      "solid_waste_cleanliness" "sanitation",
    category "public_toilet_cleanliness_or_maintenance" "Public toilet cleanliness or maintenance"
      "solid_waste_cleanliness" "sanitation",
    category "no_or_low_supply" "No or low water supply"
      "water_supply" "water_works",
    category "pipeline_leak" "Water pipeline leak"
      "water_supply" "water_works",
    category "public_tap_or_standpost" "Public tap or standpost"
      "water_supply" "water_works",
    category "meter_or_connection_issue" "Water meter or connection issue"
      "water_supply" "water_works",
    category "water_quality_or_contamination" "Water quality or contamination"
      "water_supply" "water_works"
      .priority,
    category "illegal_water_connection_report" "Illegal water connection report"
      "water_supply" "water_works",
    category "waterlogging_from_supply_leak" "Waterlogging from supply leak"
      "water_supply" "water_works",
    category "blocked_storm_drain" "Blocked storm drain"
      "sewerage_drainage_flooding" "public_works",
    category "stormwater_flooding" "Stormwater flooding"
      "sewerage_drainage_flooding" "public_works"
      .priority,
    category "sewage_overflow" "Sewage overflow"
      "sewerage_drainage_flooding" "public_works"
      .priority,
    category "blocked_sewer_or_manhole" "Blocked sewer or manhole"
      "sewerage_drainage_flooding" "public_works",
    category "open_or_damaged_manhole" "Open or damaged manhole"
      "sewerage_drainage_flooding" "public_works"
      .priority,
    category "septic_or_faecal_sludge_service" "Septic or faecal sludge service"
      "sewerage_drainage_flooding" "public_works",
    category "drain_desilting" "Drain desilting"
      "sewerage_drainage_flooding" "public_works",
    category "mosquito_breeding_site" "Mosquito breeding site"
      "sewerage_drainage_flooding" "public_health",
    category "park_maintenance" "Park maintenance"
      "parks_trees_public_spaces" "parks"
      .normal .longTerm,
    category "playground_or_open_gym_equipment" "Playground or open-gym equipment"
      "parks_trees_public_spaces" "parks"
      .priority,
    category "fallen_or_hazardous_tree" "Fallen or hazardous tree"
      "parks_trees_public_spaces" "parks"
      .priority,
    category "tree_pruning_request" "Tree pruning request"
      "parks_trees_public_spaces" "parks",
    category "public_space_cleanliness" "Public-space cleanliness"
      "parks_trees_public_spaces" "parks",
    category "public_fountain_or_amenity" "Public fountain or amenity"
      "parks_trees_public_spaces" "parks",
    category "illegal_tree_cutting_report" "Illegal tree cutting report"
      "parks_trees_public_spaces" "parks"
      .priority,
    category "mosquito_or_vector_control" "Mosquito or vector control"
      "public_health_vector_control" "public_health",
    category "stray_dog_bite_public_health_referral" "Animal bite health referral"
      "public_health_vector_control" "external_referral"
      .priority,
    category "public_nuisance_sanitation" "Public sanitation nuisance"
      "public_health_vector_control" "public_health",
    category "food_safety_public_premises_referral" "Food safety referral"
      "public_health_vector_control" "external_referral",
    category "unsafe_public_toilet" "Unsafe public toilet"
      "public_health_vector_control" "public_health"
      .priority,
    category "injured_or_trapped_animal" "Injured or trapped animal"
      "animal_welfare" "animal_welfare"
      .priority,
    category "aggressive_or_nuisance_animal" "Aggressive or nuisance animal"
      "animal_welfare" "animal_welfare"
      .priority,
    category "stray_dog_population_management" "Stray dog population management"
      "animal_welfare" "animal_welfare",
    category "animal_cruelty_report" "Animal cruelty report"
      "animal_welfare" "external_referral"
      .priority,
    category "animal_carcass" "Animal carcass"
      "animal_welfare" "sanitation",
    category "livestock_on_road" "Livestock on road"
      "animal_welfare" "animal_welfare"
      .priority,
    category "public_land_encroachment" "Public-land encroachment"
      "land_use_building_public_realm" "town_planning"
      .normal .longTerm,
    category "unsafe_or_illegal_construction_report" "Unsafe or illegal construction report"
      "land_use_building_public_realm" "town_planning"
      .normal .longTerm,
    category "unauthorized_hawking_or_obstruction" "Hawking or public-way obstruction"
      "land_use_building_public_realm" "town_planning",
    category "advertising_or_hoarding" "Advertising or hoarding"
      "land_use_building_public_realm" "town_planning",
    category "abandoned_vehicle_on_public_way" "Abandoned vehicle on public way"
      "land_use_building_public_realm" "external_referral",
    category "public_property_damage" "Public-property damage"
      "land_use_building_public_realm" "general"
      .normal .longTerm,
    category "municipal_tax_or_bill_query" "Municipal tax or bill query"
      "civic_documents_service_delivery" "citizen_services",
    category "birth_death_certificate_referral" "Birth or death certificate referral"
      "civic_documents_service_delivery" "citizen_services",
    category "trade_license_referral" "Trade licence referral"
      "civic_documents_service_delivery" "citizen_services",
    category "building_permission_status" "Building permission status"
      "civic_documents_service_delivery" "town_planning",
    category "grievance_status_or_escalation" "Grievance status or escalation"
      "civic_documents_service_delivery" "general",
    category "accessibility_or_service_centre_issue" "Accessibility or service-centre issue"
      "civic_documents_service_delivery" "citizen_services",
    category "insufficient_information" "Insufficient information"
      "other_needs_review" "general",
    category "multi_issue" "Multiple civic issues"
      "other_needs_review" "general",
    category "unmapped_service" "Unmapped service"
      "other_needs_review" "general",
    category "possible_non_municipal" "Possible non-municipal issue"
      "other_needs_review" "external_referral" ]

def departments : List Department :=
  [
    { key := "public_works", name := "Public Works Department"
      email := "public-works@municipal.example" },
    { key := "electrical", name := "Street Lighting Department"
      email := "electrical@municipal.example" },
    { key := "sanitation", name := "Sanitation Department"
      email := "sanitation@municipal.example" },
    { key := "water_works", name := "Water Works Department"
      email := "water-works@municipal.example" },
    { key := "public_health", name := "Public Health Department"
      email := "public-health@municipal.example" },
    { key := "animal_welfare", name := "Animal Welfare Department"
      email := "animal-welfare@municipal.example" },
    { key := "parks", name := "Parks & Gardens Department"
      email := "parks@municipal.example" },
    { key := "town_planning", name := "Town Planning Department"
      email := "town-planning@municipal.example" },
    { key := "citizen_services", name := "Citizen Services"
      email := "citizen-services@municipal.example" },
    { key := "general", name := "General Grievance Cell"
      email := "grievance-cell@municipal.example" },
    { key := "external_referral", name := "External Authority Referral"
      email := "referrals@municipal.example" } ]

def legacyCategoryAliases : List (String × String) :=
  [
    ("roads_potholes", "pothole_surface_damage"),
    ("streetlights", "streetlight_out"),
    ("drainage_sewerage", "blocked_storm_drain"),
    ("water_supply", "no_or_low_supply"),
    ("garbage_collection", "missed_door_to_door_collection"),
    ("stray_animals", "stray_dog_population_management"),
    ("parks", "park_maintenance") ]

def legacyDefaults : List (String × String) :=
  [ ("sanitation", "public_nuisance_sanitation"),
    ("encroachment", "public_land_encroachment"),
    ("electricity", "electrical_box_or_transformer_hazard"),
    ("other", "unmapped_service") ]

def immediateSafetyCategories : List String :=
  [ "road_cave_in",
    "exposed_or_low_hanging_wire",
    "electrical_box_or_transformer_hazard",
    "open_or_damaged_manhole",
    "stray_dog_bite_public_health_referral" ]

def reviewFallbackCategories : List String :=
  [ "insufficient_information",
    "multi_issue",
    "unmapped_service",
    "possible_non_municipal" ]

def externalReferralCategories : List String :=
  (categoryRows.filter (·.departmentKey = "external_referral")).map (·.key)

def canonicalCategory (key : String) : Option Category :=
  categoryRows.find? (·.key = key)

def canonicalCategoryKey : Option String → Option String
  | none => none
  | some key =>
      if key = "" then none
      else if (canonicalCategory key).isSome then some key
      else
        match legacyCategoryAliases.lookup key with
        | some canonical => some canonical
        | none => legacyDefaults.lookup key

def unmappedService : Category :=
  category "unmapped_service" "Unmapped service" "other_needs_review" "general"

def categoryOrDefault (key : Option String) : Category :=
  match canonicalCategoryKey key with
  | none => unmappedService
  | some canonical => (canonicalCategory canonical).getD unmappedService

theorem canonicalCategory_key {key : String} {category : Category}
    (found : canonicalCategory key = some category) : category.key = key := by
  simpa using List.find?_some found

theorem canonicalCategory_ne_empty : canonicalCategory "" = none := by
  decide +kernel

/-- A canonical category is found again by its key. -/
theorem categoryOrDefault_canonical {key : String} {category : Category}
    (found : canonicalCategory key = some category) :
    categoryOrDefault (some key) = category := by
  have present : key ≠ "" := by
    rintro rfl
    rw [canonicalCategory_ne_empty] at found
    cases found
  have canonical : canonicalCategoryKey (some key) = some key := by
    simp [canonicalCategoryKey, present, found]
  simp [categoryOrDefault, canonical, found]

theorem canonicalCategory_unmapped :
    canonicalCategory "unmapped_service" = some unmappedService := by
  decide +kernel

theorem categoryOrDefault_key (key : Option String) :
    categoryOrDefault (some (categoryOrDefault key).key) =
      categoryOrDefault key := by
  have again : ∀ canonical, categoryOrDefault
      (some ((canonicalCategory canonical).getD unmappedService).key) =
        (canonicalCategory canonical).getD unmappedService := by
    intro canonical
    cases found : canonicalCategory canonical with
    | none => exact categoryOrDefault_canonical canonicalCategory_unmapped
    | some category =>
        apply categoryOrDefault_canonical
        rw [Option.getD_some, canonicalCategory_key found, found]
  cases canonical : canonicalCategoryKey key with
  | none =>
      have same : categoryOrDefault key = unmappedService := by
        simp [categoryOrDefault, canonical]
      rw [same]
      exact categoryOrDefault_canonical canonicalCategory_unmapped
  | some found =>
      have same : categoryOrDefault key =
          (canonicalCategory found).getD unmappedService := by
        simp [categoryOrDefault, canonical]
      rw [same]
      exact again found

def departmentForCategory (categoryKey : String) : Option Department :=
  departments.find? (·.key = (categoryOrDefault (some categoryKey)).departmentKey)

/-- The bundled profile: every category routed to its own department, and no
live dispatch. -/
def demoRoute (category : Category) : JurisdictionRoute :=
  { categoryKey := category.key, departmentKey := category.departmentKey
    owningAgency := "Demo Municipal Corporation"
    slaHours :=
      if category.defaultPriority = .priority then some 24 else some 72
    dispatchEnabled := false }

def routeForCategory (categoryKey : String) : Option JurisdictionRoute :=
  match canonicalCategoryKey (some categoryKey) with
  | none => none
  | some canonical => (canonicalCategory canonical).map demoRoute

def evaluateRoutingPolicy (categoryKey : Option String)
    (safety : SafetyLevel) (assetScope : AssetScope)
    (jurisdictionKnown : Bool) : RoutingDecision :=
  let canonical := canonicalCategoryKey categoryKey
  if safety = .immediate ∨
      ∃ key ∈ canonical, key ∈ immediateSafetyCategories then
    { disposition := .emergencyRedirect, priority := .priority
      dedupEligible := false, needsOfficialReview := true
      reason := "Immediate safety indicator requires emergency guidance and official escalation." }
  else if ¬ jurisdictionKnown then
    { disposition := .redirect, priority := .normal
      dedupEligible := false, needsOfficialReview := true
      reason := "Location is outside or not resolved to a configured jurisdiction." }
  else
    match canonical with
    | none =>
        { disposition := .needsHumanReview, priority := .normal
          dedupEligible := false, needsOfficialReview := true
          reason := "Issue is ambiguous, multi-issue, or outside the configured taxonomy." }
    | some key =>
        if key ∈ reviewFallbackCategories then
          { disposition := .needsHumanReview, priority := .normal
            dedupEligible := false, needsOfficialReview := true
            reason := "Issue is ambiguous, multi-issue, or outside the configured taxonomy." }
        else if assetScope = .privateAsset then
          { disposition := .redirect, priority := .normal
            dedupEligible := false, needsOfficialReview := true
            reason := "Reported asset appears private and ownership must be verified." }
        else if key ∈ externalReferralCategories then
          { disposition := .redirect
            priority := if safety = .possible then .priority else .normal
            dedupEligible := false, needsOfficialReview := true
            reason := "Configured service belongs to an external authority." }
        else if (routeForCategory key).isNone then
          { disposition := .needsHumanReview
            priority := (categoryOrDefault (some key)).defaultPriority
            dedupEligible := false, needsOfficialReview := true
            reason := "No configured municipal route is available for this service." }
        else if safety = .possible then
          { disposition := .municipalTicketAndEscalate, priority := .priority
            dedupEligible := false, needsOfficialReview := false
            reason := "Possible safety risk is filed with expedited handling." }
        else
          let rank := (categoryOrDefault (some key)).defaultPriority
          { disposition := .municipalTicket, priority := rank
            dedupEligible := rank ≠ .priority
            needsOfficialReview := false
            reason := "Configured public municipal service with sufficient evidence." }

end JanSetu
