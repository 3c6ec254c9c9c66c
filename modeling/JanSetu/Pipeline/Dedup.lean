import JanSetu.Library.Nearest
import JanSetu.Pipeline.Lifecycle
import Mathlib.Analysis.Real.Pi.Bounds
import Mathlib.Analysis.SpecialFunctions.Trigonometric.Inverse

/-!
# The duplicate search over the reals

`Core` leaves the two transcendental functions of the search open.  Here they
are the ones of `dedup.py`, with exact reals for its floating-point numbers.
The box of the prefilter counts 111320 metres for a degree, the sphere of the
distance has fewer: a search is exact as long as one of the nearest grievances
lies within the box.
-/

namespace JanSetu.Pipeline.Dedup

open Real

noncomputable section

def earthRadiusM : ℝ := 6371000

def radians (degrees : ℝ) : ℝ :=
  degrees * (π / 180)

/-- The argument of the root is not negative for latitudes of the globe. -/
def haversineM (lat1 lon1 lat2 lon2 : ℝ) : ℝ :=
  let phi1 := radians lat1
  let phi2 := radians lat2
  let dPhi := radians (lat2 - lat1)
  let dLambda := radians (lon2 - lon1)
  let a := sin (dPhi / 2) ^ 2 +
    cos phi1 * cos phi2 * sin (dLambda / 2) ^ 2
  2 * earthRadiusM * arcsin (min 1 (√a))

structure DuplicateMatch where
  master : String × Grievance
  distanceM : ℝ

/-- The conditions of `find_dedup_candidates` that do not ask for a place. -/
def isOpen (category : String) (exclude : Option String) (now : Time)
    (entry : String × Grievance) : Bool :=
  entry.2.category = some category && entry.2.status = .pendingWindow &&
    entry.2.windowExpiresAt.any (now < ·) && exclude.all (entry.1 ≠ ·)

/-- The bounding box of `find_dedup_candidates`. -/
def inBox (lat lon radiusM : ℝ) (row : Grievance) : Bool :=
  let deltaLat := radiusM / 111320
  let deltaLon := radiusM / (111320 * max (1 / 10) |cos (radians lat)|)
  row.locationLatitude.any
      (fun value : ℚ => lat - deltaLat ≤ value ∧ value ≤ lat + deltaLat) &&
    row.locationLongitude.any
      (fun value : ℚ => lon - deltaLon ≤ value ∧ value ≤ lon + deltaLon)

def findDedupCandidates (rows : List (String × Grievance)) (category : String)
    (lat lon radiusM : ℝ) (exclude : Option String) (now : Time) :
    List (String × Grievance) :=
  rows.filter fun entry =>
    isOpen category exclude now entry && inBox lat lon radiusM entry.2

/-- The step of the loop over the candidates. -/
def better (lat lon radiusM : ℝ) (best : Option DuplicateMatch)
    (candidate : String × Grievance) : Option DuplicateMatch :=
  match candidate.2.locationLatitude, candidate.2.locationLongitude with
  | some candidateLat, some candidateLon =>
      let distance := haversineM lat lon candidateLat candidateLon
      if distance ≤ radiusM ∧ best.all (distance < ·.distanceM) then
        some { master := candidate, distanceM := distance }
      else best
  | _, _ => best

def findDuplicate (rows : List (String × Grievance)) (category : String)
    (lat lon : Option ℝ) (radiusM : ℝ) (exclude : Option String)
    (now : Time) : Option DuplicateMatch :=
  match lat, lon with
  | some lat, some lon =>
      (findDedupCandidates rows category lat lon radiusM exclude now).foldl
        (better lat lon radiusM) none
  | _, _ => none

/-! ## Exactness -/

variable (rows : List (String × Grievance)) (category : String)
  (lat lon radiusM : ℝ) (exclude : Option String) (now : Time)

/-- The distance of a grievance, when it has a place. -/
def distanceTo (entry : String × Grievance) : Option ℝ :=
  match entry.2.locationLatitude, entry.2.locationLongitude with
  | some entryLat, some entryLon => some (haversineM lat lon entryLat entryLon)
  | _, _ => none

/-- The match is a stored grievance of the category, in an open window, at
that distance and within the radius. -/
structure Acceptable (found : DuplicateMatch) : Prop where
  stored : found.master ∈ rows
  isOpen : isOpen category exclude now found.master = true
  distance : distanceTo lat lon found.master = some found.distanceM
  near : found.distanceM ≤ radiusM

/-- No acceptable match is nearer. -/
def Minimal (found : DuplicateMatch) : Prop :=
  Acceptable rows category lat lon radiusM exclude now found ∧
    ∀ other, Acceptable rows category lat lon radiusM exclude now other →
      found.distanceM ≤ other.distanceM

/-- A match is returned if and only if there is an acceptable one, and then it
is one at minimal distance. -/
def ExactSearch : Prop :=
  let result :=
    findDuplicate rows category (some lat) (some lon) radiusM exclude now
  (result.isSome = true ↔
      ∃ other, Acceptable rows category lat lon radiusM exclude now other) ∧
    ∀ found, result = some found →
      Minimal rows category lat lon radiusM exclude now found

/-- Where there is an acceptable match, one at minimal distance lies within
the bounding box. -/
def NearestInBox : Prop :=
  (∃ other, Acceptable rows category lat lon radiusM exclude now other) →
    ∃ found, Minimal rows category lat lon radiusM exclude now found ∧
      inBox lat lon radiusM found.master.2 = true

variable {rows category lat lon radiusM exclude now}

def DuplicateMatch.pair (found : DuplicateMatch) :
    ℝ × String × Grievance :=
  (found.distanceM, found.master)

theorem better_pair (best : Option DuplicateMatch)
    (candidate : String × Grievance) :
    Nearest.closer (distanceTo lat lon) radiusM
        (best.map DuplicateMatch.pair) candidate =
      (better lat lon radiusM best candidate).map DuplicateMatch.pair := by
  unfold Nearest.closer better distanceTo
  cases candidate.2.locationLatitude with
  | none => rfl
  | some candidateLat =>
      cases candidate.2.locationLongitude with
      | none => rfl
      | some candidateLon =>
          dsimp only
          rw [Option.all_map]
          generalize haversineM lat lon candidateLat candidateLon = distance
          by_cases nearer :
              distance ≤ radiusM ∧ best.all (distance < ·.distanceM) = true
          · rw [if_pos nearer]
            exact if_pos nearer
          · rw [if_neg nearer]
            exact if_neg nearer

/-- The search is the one for the nearest of the open windows, behind the box
as a prefilter. -/
theorem findDuplicate_eq_search :
    (findDuplicate rows category (some lat) (some lon) radiusM exclude now).map
        DuplicateMatch.pair =
      Nearest.search (distanceTo lat lon) radiusM
        ((rows.filter (isOpen category exclude now)).filter
          fun entry => inBox lat lon radiusM entry.2) := by
  unfold findDuplicate findDedupCandidates Nearest.search
  rw [List.filter_filter]
  have prefilter : (fun entry : String × Grievance =>
      inBox lat lon radiusM entry.2 && isOpen category exclude now entry) =
      fun entry =>
        isOpen category exclude now entry && inBox lat lon radiusM entry.2 := by
    funext entry
    exact Bool.and_comm _ _
  rw [prefilter]
  exact (List.foldl_hom (Option.map DuplicateMatch.pair) better_pair).symm

theorem acceptable_iff {found : DuplicateMatch} :
    Acceptable rows category lat lon radiusM exclude now found ↔
      Nearest.Within (distanceTo lat lon) radiusM
        (rows.filter (isOpen category exclude now)) found.pair := by
  constructor
  · intro acceptable
    have kept := List.mem_filter.mpr ⟨acceptable.stored, acceptable.isOpen⟩
    exact ⟨kept, acceptable.distance, acceptable.near⟩
  · intro within
    obtain ⟨stored, isOpen⟩ := List.mem_filter.mp within.member
    exact ⟨stored, isOpen, within.known, within.near⟩

theorem minimal_iff {found : DuplicateMatch} :
    Minimal rows category lat lon radiusM exclude now found ↔
      Nearest.IsNearest (distanceTo lat lon) radiusM
        (rows.filter (isOpen category exclude now)) found.pair := by
  unfold Minimal Nearest.IsNearest
  rw [acceptable_iff]
  apply and_congr_right'
  constructor
  · intro least other within
    exact least ⟨other.2, other.1⟩ (acceptable_iff.mpr within)
  · intro least other acceptable
    exact least other.pair (acceptable_iff.mp acceptable)

theorem exists_pair {property : ℝ × String × Grievance → Prop} :
    (∃ found : DuplicateMatch, property found.pair) ↔
      ∃ pair, property pair := by
  constructor
  · intro matched
    obtain ⟨found, holds⟩ := matched
    exact ⟨found.pair, holds⟩
  · intro paired
    obtain ⟨⟨distance, master⟩, holds⟩ := paired
    exact ⟨⟨master, distance⟩, holds⟩

theorem exactSearch_iff :
    ExactSearch rows category lat lon radiusM exclude now ↔
      Nearest.Exact (distanceTo lat lon) radiusM
        (rows.filter (isOpen category exclude now))
        ((findDuplicate rows category (some lat) (some lon) radiusM exclude
          now).map DuplicateMatch.pair) := by
  unfold ExactSearch Nearest.Exact
  dsimp only
  rw [Option.isSome_map, ← exists_pair]
  apply and_congr
  · apply iff_congr Iff.rfl
    exact exists_congr fun other => acceptable_iff
  · constructor
    · intro least pair searched
      obtain ⟨found, returned, rfl⟩ := Option.map_eq_some_iff.mp searched
      exact minimal_iff.mp (least found returned)
    · intro least found returned
      apply minimal_iff.mpr
      apply least
      rw [returned]
      rfl

/-- The duplicate search is exact if and only if, where an open window of the
category lies within the radius, one of the nearest lies within the box. -/
theorem duplicate_search_exact (rows : List (String × Grievance))
    (category : String) (lat lon radiusM : ℝ) (exclude : Option String)
    (now : Time) :
    ExactSearch rows category lat lon radiusM exclude now ↔
      NearestInBox rows category lat lon radiusM exclude now := by
  rw [exactSearch_iff, findDuplicate_eq_search, Nearest.search_filter_exact]
  unfold NearestInBox
  rw [← exists_pair, ← exists_pair]
  apply imp_congr
  · exact exists_congr fun other => acceptable_iff.symm
  · exact exists_congr fun found => and_congr_left' minimal_iff.symm

/-! ## Grievances due north -/

/-- Along a meridian the distance is an arc of the sphere. -/
theorem haversineM_meridian {lat1 lat2 lon : ℝ}
    (short : |radians (lat2 - lat1)| ≤ π) :
    haversineM lat1 lon lat2 lon =
      earthRadiusM * |radians (lat2 - lat1)| := by
  have half : |radians (lat2 - lat1) / 2| = |radians (lat2 - lat1)| / 2 := by
    rw [abs_div, abs_two]
  have positive : 0 ≤ |radians (lat2 - lat1)| := abs_nonneg _
  have root : √(sin (radians (lat2 - lat1) / 2) ^ 2 +
      cos (radians lat1) * cos (radians lat2) *
        sin (radians (lon - lon) / 2) ^ 2) =
      sin (|radians (lat2 - lat1)| / 2) := by
    have flat : sin (radians (lon - lon) / 2) = 0 := by
      simp [radians]
    rw [flat]
    simp only [ne_eq, OfNat.ofNat_ne_zero, not_false_eq_true, zero_pow,
      mul_zero, add_zero]
    rw [sqrt_sq_eq_abs, abs_sin_eq_sin_abs_of_abs_le_pi, half]
    rw [half]
    linarith
  unfold haversineM
  dsimp only
  rw [root, min_eq_right (sin_le_one _), arcsin_sin]
  · ring
  · linarith [pi_pos]
  · linarith

theorem degree_lt : earthRadiusM * (π / 180) < 111320 := by
  unfold earthRadiusM
  linarith [pi_lt_d4]

/-- A grievance farther north than the box is not a candidate. -/
theorem inBox_of_north {row : Grievance} {north : ℚ}
    (latitude : row.locationLatitude = some north)
    (farther : lat + radiusM / 111320 < north) :
    inBox lat lon radiusM row = false := by
  unfold inBox
  simp only [latitude, Option.any_some, Bool.and_eq_false_iff,
    decide_eq_false_iff_not]
  left
  intro within
  exact absurd within.2 (not_le.mpr farther)

/-- Due north of every position the radius reaches beyond the box. -/
theorem radius_leaves_box {lat lon radiusM : ℝ} (positive : 0 < radiusM)
    (short : radiusM ≤ earthRadiusM * π) :
    ∃ north, haversineM lat lon north lon = radiusM ∧
      lat + radiusM / 111320 < north := by
  have sphere : 0 < earthRadiusM := by
    unfold earthRadiusM
    norm_num
  have degree : 0 < earthRadiusM * (π / 180) := by
    positivity
  have arc : radians (lat + radiusM / (earthRadiusM * (π / 180)) - lat) =
      radiusM / earthRadiusM := by
    unfold radians
    field_simp
    ring
  have upwards : |radiusM / earthRadiusM| = radiusM / earthRadiusM :=
    abs_of_pos (div_pos positive sphere)
  refine ⟨lat + radiusM / (earthRadiusM * (π / 180)), ?_, ?_⟩
  · rw [haversineM_meridian, arc, upwards]
    · field_simp
    · rw [arc, upwards, div_le_iff₀ sphere, mul_comm]
      exact short
  · have farther := div_lt_div_of_pos_left positive degree degree_lt
    linarith

/-- The reviewed grievance, 299.9 metres farther north and in its window. -/
def northernGrievance : Grievance :=
  { reviewedGrievance with
    status := .pendingWindow, windowExpiresAt := some 10
    locationLatitude := some 28.002697 }

theorem northern_acceptable :
    Acceptable [("north", northernGrievance)] "streetlight_out" 28 77 300
      (some "own") 0
      { master := ("north", northernGrievance)
        distanceM := haversineM 28 77 (28.002697 : ℚ) (77 : ℚ) } := by
  constructor
  case stored => exact List.mem_singleton_self _
  case isOpen => decide
  case distance => rfl
  case near =>
    have arc : radians (((28.002697 : ℚ) : ℝ) - 28) = 0.002697 * (π / 180) := by
      unfold radians
      norm_num
    have upwards : |(0.002697 : ℝ) * (π / 180)| = 0.002697 * (π / 180) :=
      abs_of_pos (by positivity)
    have east : (((77 : ℚ) : ℝ)) = 77 := by
      norm_num
    dsimp only
    rw [east, haversineM_meridian, arc, upwards]
    · unfold earthRadiusM
      linarith [pi_lt_d4]
    · rw [arc, upwards]
      linarith [pi_pos]

/-- A grievance within the radius that the box leaves out. -/
theorem duplicate_search_misses :
    ¬ ExactSearch [("north", northernGrievance)] "streetlight_out" 28 77 300
      (some "own") 0 := by
  intro exact
  have farther : (28 : ℝ) + 300 / 111320 < (28.002697 : ℚ) := by
    norm_num
  have outside : inBox 28 77 300 northernGrievance = false :=
    inBox_of_north rfl farther
  have nothing : findDuplicate [("north", northernGrievance)]
      "streetlight_out" (some 28) (some 77) 300 (some "own") 0 = none := by
    unfold findDuplicate findDedupCandidates
    simp [outside]
  have found := exact.1.mpr ⟨_, northern_acceptable⟩
  rw [nothing] at found
  cases found

end

end JanSetu.Pipeline.Dedup
