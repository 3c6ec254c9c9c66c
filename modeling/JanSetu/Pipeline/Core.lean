import JanSetu.Pipeline.Routing
import JanSetu.Python.Text
import Mathlib.Algebra.Order.Group.Unbundled.Abs
import Mathlib.Algebra.Order.Ring.Unbundled.Rat

/-!
# What the operations write on a grievance

The pure part of `core.py` and of the request handlers that write the row:
from the row as it was loaded, and from what the external stages returned, the
columns each operation sets.  When these values reach the table is a matter of
`Lifecycle`.
-/

namespace JanSetu.Pipeline

structure Settings where
  uploadDir : String
  dedupRadiusM : ℚ
  dedupWindowHours : Nat
deriving DecidableEq

def maxDispatchAttempts : Nat := 5

/-! ## External results -/

/-- What came of reading and transcribing one voice note. -/
inductive Clip where
  | unreadable
  | untranscribed
  | transcribed (text : String) (detectedLanguage : Option String)
      (mimeType : String)
deriving DecidableEq

/-- `StructuredExtraction`, less the provider's bookkeeping. -/
structure StructuredExtraction where
  summary : String
  categoryId : String
  alternatives : List String
  confidence : ℚ
  assetScope : AssetScope
  ownerHint : String
  safety : SafetyLevel
  requestedAction : Option String
  landmark : Option String
  incidentTime : Option String
  missingFacts : List String
  clarificationQuestion : Option String
  evidence : List String
  imageObservations : List String
  contradictions : List String
  multipleIssues : Bool
  degraded : Bool
  actualModel : Option String
  latencyMs : Option Nat
deriving DecidableEq

/-- The external results of one `run_pipeline`: the voice notes in order, the
geocoder's address, whether the photo could be read, the model's extraction. -/
structure PipelineWork where
  clips : List Clip
  displayAddress : Option String
  photoRead : Bool
  extraction : StructuredExtraction
deriving DecidableEq

/-- The external result of one `recheck_image`. -/
inductive PhotoCheck where
  | unread
  | degraded
  | compared (isMatch : Bool)
deriving DecidableEq

structure PipelineResult where
  grievanceId : String
  status : GrievanceStatus
  category : String
  departmentName : Option String
  priority : Priority
  flags : List String
  imageMatchStatus : ImageMatchStatus
deriving DecidableEq

structure FinalizeOutcome where
  status : GrievanceStatus
  humanId : String
  duplicateOfHumanId : Option String
  reportCount : Option Nat
deriving DecidableEq

/-! ## Shared parts -/

structure IssueText where
  text : String
  detectedLanguage : Option String
  flags : List String
  transcripts : List Transcript
deriving DecidableEq

/-- The accumulators of `_combine_issue_text`. -/
structure Combining where
  parts : List String
  detectedLanguage : Option String
  flags : List String
  transcripts : List Transcript
  audioIndex : Nat

def Combining.failed (state : Combining) : Combining :=
  { state with
    flags := state.flags ++ ["transcription_failed"]
    audioIndex := state.audioIndex + 1 }

def Combining.hear (state : Combining) (message : IssueMessage)
    (text : String) (language : Option String) (mimeType : String) :
    Combining :=
  let index := state.audioIndex + 1
  let recordingId :=
    if Python.truthy message.recordingId then message.recordingId.getD ""
    else "legacy-" ++ toString index
  { parts := state.parts ++ [text]
    detectedLanguage :=
      if Python.truthy state.detectedLanguage then state.detectedLanguage
      else language
    flags := state.flags
    transcripts := state.transcripts ++
      [{ recordingId := recordingId
         segmentIndex := message.segmentIndex.getD 0
         text := text
         language := if Python.truthy language then language.getD "" else "und"
         mimeType := mimeType }]
    audioIndex := index }

/-- One message of `_combine_issue_text`, with the outcome of its voice note if
it is one. -/
def Combining.message (clips : List Clip) (state : Combining)
    (message : IssueMessage) : Combining :=
  if message.type = "text" ∧ Python.truthy message.text then
    { state with parts := state.parts ++ [message.text.getD ""] }
  else if message.type ≠ "audio" ∧ message.type ≠ "voice" then state
  else
    let isLocal := Python.truthy message.localPath
    if ¬ isLocal ∧ ¬ Python.truthy message.mediaId then
      { state with audioIndex := state.audioIndex + 1 }
    else
      match clips.getD state.audioIndex .unreadable with
      | .unreadable => state.failed
      | .untranscribed => state.failed
      | .transcribed text language downloaded =>
          if text = "" then state.failed
          else
            let mimeType :=
              if ¬ isLocal then downloaded
              else if Python.truthy message.mimeType then
                message.mimeType.getD ""
              else "audio/ogg"
            state.hear message text language mimeType

def combineIssueText (messages : List IssueMessage) (clips : List Clip) :
    IssueText :=
  let state : Combining :=
    messages.foldl (Combining.message clips)
      { parts := [], detectedLanguage := none, flags := []
        transcripts := [], audioIndex := 0 }
  { text := Python.strip (String.intercalate "\n" state.parts)
    detectedLanguage := state.detectedLanguage
    flags := state.flags, transcripts := state.transcripts }

/-- `structured_facts["original_text"]`; a text message whose text is null
raises. -/
def originalText (messages : List IssueMessage) : Option String :=
  let texts := messages.filter (·.type = "text")
  if texts.any (·.text.isNone) then none
  else
    some (String.intercalate "\n"
      ((texts.map fun message => Python.strip (message.text.getD "")).filter
        (· ≠ "")))

/-- Whether `_fetch_photo` returns bytes, given that the read succeeds. -/
def fetchPhoto (row : Grievance) (photoRead : Bool) : Bool :=
  (Python.truthy row.photoPath || Python.truthy row.photoMediaId) && photoRead

/-- `list(dict.fromkeys(...))`. -/
def fromKeys (flags : List String) : List String :=
  flags.eraseDups

def addFlag (flags : List String) (flag : String) : List String :=
  let flags := fromKeys flags
  if flag ∈ flags then flags else flags ++ [flag]

def departmentName (categoryKey : String) : Option String :=
  (departmentForCategory categoryKey).map (·.name)

/-- `_build_and_store_pdf` stores the file and sets its path. -/
def buildAndStorePdf (settings : Settings) (id : String) (row : Grievance) :
    Grievance :=
  { row with
    pdfPath := some (settings.uploadDir ++ "/" ++ id ++ "/summary.pdf") }

def reviewStatusOf (policy : RoutingDecision) : ReviewStatus :=
  if policy.needsOfficialReview then .pendingOfficial else .citizenReview

/-! ## `run_pipeline` -/

namespace RunPipeline

def address (row : Grievance) (work : PipelineWork) : Option String :=
  if Python.truthy row.locationAddress then row.locationAddress
  else if row.locationLatitude.isSome then work.displayAddress
  else row.locationAddress

def policy (row : Grievance) (work : PipelineWork) : RoutingDecision :=
  evaluateRoutingPolicy (some work.extraction.categoryId)
    work.extraction.safety work.extraction.assetScope
    (Python.truthy (address row work))

def imageMatchStatus (row : Grievance) (work : PipelineWork) :
    ImageMatchStatus :=
  if fetchPhoto row work.photoRead then
    if work.extraction.degraded then .unverified
    else if work.extraction.contradictions ≠ [] then .mismatched
    else .matched
  else .none

def nextStatus (row : Grievance) (work : PipelineWork) : GrievanceStatus :=
  if imageMatchStatus row work = .mismatched then .photoMismatch
  else .awaitingConfirmation

def flags (row : Grievance) (work : PipelineWork) : List String :=
  (combineIssueText row.issueMessages work.clips).flags ++
    (if work.extraction.degraded then
      "classification_failed" ::
        (if fetchPhoto row work.photoRead then ["image_check_degraded"]
         else [])
     else []) ++
    (if (policy row work).needsOfficialReview then ["official_review_required"]
     else []) ++
    (if work.extraction.multipleIssues then ["multiple_issues"] else [])

def structuredFacts (extraction : StructuredExtraction)
    (originalText : String) : StructuredFacts :=
  { summary := some extraction.summary
    originalText := some originalText
    alternatives := extraction.alternatives
    ownerHint := some extraction.ownerHint
    requestedAction := extraction.requestedAction
    landmark := extraction.landmark
    incidentTime := extraction.incidentTime
    missingFacts := extraction.missingFacts
    clarificationQuestion := extraction.clarificationQuestion
    clarificationAnswer := none
    evidence := extraction.evidence
    imageObservations := extraction.imageObservations
    contradictions := extraction.contradictions
    model := extraction.actualModel
    latencyMs := extraction.latencyMs
    escalated := false }

def fields (work : PipelineWork) (route : Option JurisdictionRoute)
    (originalText : String) (row : Grievance) : Grievance :=
  let extraction := work.extraction
  let category := categoryOrDefault (some extraction.categoryId)
  let policy := policy row work
  let issue := combineIssueText row.issueMessages work.clips
  { row with
    issueText := some issue.text
    locationAddress := address row work
    sourceLanguage := issue.detectedLanguage
    transcriptMetadata := issue.transcripts
    category := some extraction.categoryId
    departmentKey := some category.departmentKey
    priority := some policy.priority
    term := some category.termHint
    confidence := some extraction.confidence
    imageMatchStatus := some (imageMatchStatus row work)
    flags := fromKeys (flags row work)
    status := nextStatus row work
    taxonomyVersion := some taxonomyVersion
    categoryId := some extraction.categoryId
    aggregationKey := some category.aggregationKey
    jurisdictionId := some demoJurisdictionId
    safetyLevel := some extraction.safety
    assetScope := some extraction.assetScope
    disposition := some policy.disposition
    reviewStatus := some (reviewStatusOf policy)
    policyVersion := some taxonomyVersion
    routingSnapshot := some
      (routingSnapshot extraction.categoryId
        (route.elim category.departmentKey (·.departmentKey)) route
        policy.disposition)
    structuredFacts := some (structuredFacts extraction originalText) }

def result (id : String) (row : Grievance) (work : PipelineWork) :
    PipelineResult :=
  { grievanceId := id
    status := nextStatus row work
    category := work.extraction.categoryId
    departmentName := departmentName work.extraction.categoryId
    priority := (policy row work).priority
    flags := flags row work
    imageMatchStatus := imageMatchStatus row work }

end RunPipeline

/-! ## `accept_photo_mismatch` and `recheck_image` -/

def acceptPhotoMismatchFields (row : Grievance) : Grievance :=
  { row with
    status := .awaitingConfirmation
    flags := addFlag row.flags "photo_mismatch_accepted" }

namespace RecheckImage

def imageMatchStatus (row : Grievance) (proceedWithoutPhoto : Bool)
    (check : PhotoCheck) : ImageMatchStatus :=
  if proceedWithoutPhoto ∨ ¬ fetchPhoto row true then .skipped
  else
    match check with
    | .unread => .skipped
    | .degraded => .unverified
    | .compared isMatch => if isMatch then .matched else .mismatched

def nextStatus (verdict : ImageMatchStatus) : GrievanceStatus :=
  if verdict = .mismatched then .photoMismatch else .awaitingConfirmation

def fields (verdict : ImageMatchStatus) (row : Grievance) : Grievance :=
  { row with
    imageMatchStatus := some verdict
    status := nextStatus verdict
    flags :=
      if verdict = .unverified then addFlag row.flags "image_check_degraded"
      else row.flags }

def result (id : String) (verdict : ImageMatchStatus) (row : Grievance) :
    PipelineResult :=
  let category := row.category.filter (· ≠ "") |>.getD "other"
  { grievanceId := id
    status := nextStatus verdict
    category := category
    departmentName := departmentName category
    priority := row.priority.getD .normal
    flags := row.flags
    imageMatchStatus := verdict }

end RecheckImage

/-! ## `reextract_grievance` -/

namespace Reextract

/-- The citizen's category, when it is a concrete one. -/
def citizenCategory (row : Grievance) : Option String :=
  match row.categoryId with
  | none => none
  | some key =>
      if key = "" ∨ key ∈ reviewFallbackCategories then none else some key

def category (row : Grievance) (extraction : StructuredExtraction) :
    Category :=
  match citizenCategory row with
  | some key => categoryOrDefault (some key)
  | none => categoryOrDefault (some extraction.categoryId)

def flags (row : Grievance) (extraction : StructuredExtraction) :
    List String :=
  match citizenCategory row with
  | some key =>
      if extraction.categoryId ≠ key then addFlag row.flags "category_dispute"
      else fromKeys row.flags
  | none => fromKeys row.flags

def assetScope (row : Grievance) (extraction : StructuredExtraction) :
    AssetScope :=
  match row.assetScope with
  | some .publicAsset => .publicAsset
  | some .privateAsset => .privateAsset
  | _ => extraction.assetScope

def policy (row : Grievance) (extraction : StructuredExtraction) :
    RoutingDecision :=
  evaluateRoutingPolicy (some (category row extraction).key)
    extraction.safety (assetScope row extraction)
    (Python.truthy row.locationAddress)

def mergedFacts (row : Grievance) (extraction : StructuredExtraction) :
    StructuredFacts :=
  let facts := row.structuredFacts.getD .empty
  { facts with
    alternatives := extraction.alternatives
    ownerHint := some extraction.ownerHint
    requestedAction := extraction.requestedAction
    landmark := extraction.landmark
    incidentTime := extraction.incidentTime
    missingFacts := extraction.missingFacts
    evidence := extraction.evidence
    contradictions := extraction.contradictions
    model := extraction.actualModel
    latencyMs := extraction.latencyMs
    escalated := true
    summary :=
      if Python.truthy facts.summary then facts.summary
      else some extraction.summary }

def fields (extraction : StructuredExtraction)
    (route : Option JurisdictionRoute) (row : Grievance) : Grievance :=
  let category := category row extraction
  let policy := policy row extraction
  let departmentKey := route.elim category.departmentKey (·.departmentKey)
  { row with
    category := some category.key
    categoryId := some category.key
    aggregationKey := some category.aggregationKey
    departmentKey := some departmentKey
    priority := some policy.priority
    term := some category.termHint
    confidence := some
      (if (citizenCategory row).isSome then 1 else extraction.confidence)
    safetyLevel := some extraction.safety
    assetScope := some (assetScope row extraction)
    disposition := some policy.disposition
    reviewStatus := some (reviewStatusOf policy)
    structuredFacts := some (mergedFacts row extraction)
    routingSnapshot := some
      (routingSnapshot category.key departmentKey route policy.disposition)
    flags := flags row extraction
    stateVersion := row.stateVersion + 1 }

end Reextract

/-! ## `update_review` and `official_action` -/

/-- `body.category_id or grievance.category_id or grievance.category`. -/
def chosenCategory (chosen : Option String) (row : Grievance) :
    Option String :=
  if Python.truthy chosen then chosen
  else if Python.truthy row.categoryId then row.categoryId
  else row.category

def parseAssetScope : String → Option AssetScope
  | "public" => some .publicAsset
  | "private" => some .privateAsset
  | "unknown" => some .unknown
  | _ => none

structure ReviewPatch where
  categoryId : Option String
  assetScope : Option String
  summary : Option String
  clarificationAnswer : Option String
deriving DecidableEq

namespace UpdateReview

/-- `body.asset_scope or grievance.asset_scope or "unknown"`, when valid. -/
def assetScope (body : ReviewPatch) (row : Grievance) : Option AssetScope :=
  if Python.truthy body.assetScope then body.assetScope.bind parseAssetScope
  else some (row.assetScope.getD .unknown)

def facts (body : ReviewPatch) (row : Grievance) : StructuredFacts :=
  let facts := row.structuredFacts.getD .empty
  { facts with
    summary :=
      match body.summary with
      | some text => some (Python.strip text)
      | none => facts.summary
    clarificationAnswer :=
      match body.clarificationAnswer with
      | some text => some (Python.strip text)
      | none => facts.clarificationAnswer }

def policy (categoryKey : String) (assetScope : AssetScope)
    (row : Grievance) : RoutingDecision :=
  evaluateRoutingPolicy (some categoryKey) (row.safetyLevel.getD .none)
    assetScope (Python.truthy row.locationAddress)

def fields (body : ReviewPatch) (categoryKey : String)
    (assetScope : AssetScope) (row : Grievance) : Grievance :=
  let category := categoryOrDefault (some categoryKey)
  let policy := policy categoryKey assetScope row
  let route := routeForCategory categoryKey
  { row with
    taxonomyVersion := some taxonomyVersion
    category := some categoryKey
    categoryId := some categoryKey
    aggregationKey := some category.aggregationKey
    departmentKey := some category.departmentKey
    priority := some policy.priority
    term := some category.termHint
    confidence := some 1
    assetScope := some assetScope
    disposition := some policy.disposition
    reviewStatus := some (reviewStatusOf policy)
    structuredFacts := some (facts body row)
    routingSnapshot := some
      (routingSnapshot categoryKey
        (route.elim category.departmentKey (·.departmentKey)) route
        policy.disposition)
    stateVersion := row.stateVersion + 1 }

/-- The category and scope of a request that is not answered with 422. -/
def accepted (body : ReviewPatch) (row : Grievance) :
    Option (String × AssetScope) :=
  match canonicalCategoryKey (chosenCategory body.categoryId row),
    assetScope body row with
  | some categoryKey, some assetScope => some (categoryKey, assetScope)
  | _, _ => none

end UpdateReview

inductive OfficialDecision where
  | approve
  | correct
  | redirect
  | reject
  | requestClarification
deriving DecidableEq

structure OfficialAction where
  action : OfficialDecision
  categoryId : Option String
  assetScope : Option AssetScope
  safetyLevel : Option SafetyLevel
  departmentKey : Option String
deriving DecidableEq

inductive OfficialRole where
  | triageOfficer
  | departmentOfficer
  | supervisor
  | auditor
  | admin
deriving DecidableEq

structure OfficialUser where
  role : OfficialRole
  jurisdictionId : String
  departmentKeys : List String
deriving DecidableEq

def officialCanAccess (official : OfficialUser) (row : Grievance) : Bool :=
  row.jurisdictionId = some official.jurisdictionId &&
    (official.role ≠ .departmentOfficer ||
      row.departmentKey.any (· ∈ official.departmentKeys))

namespace OfficialAction

def reviewStatus : OfficialDecision → ReviewStatus
  | .approve => .approved
  | .correct => .approved
  | .redirect => .redirected
  | .reject => .rejected
  | .requestClarification => .awaitingCitizen

def fields (body : OfficialAction) (categoryKey : String)
    (row : Grievance) : Grievance :=
  let assetScope := body.assetScope.getD (row.assetScope.getD .unknown)
  let safety := body.safetyLevel.getD (row.safetyLevel.getD .none)
  let category := categoryOrDefault (some categoryKey)
  let policy :=
    evaluateRoutingPolicy (some categoryKey) safety assetScope
      (Python.truthy row.locationAddress)
  let route := routeForCategory categoryKey
  let departmentKey :=
    if Python.truthy body.departmentKey then body.departmentKey.getD ""
    else route.elim category.departmentKey (·.departmentKey)
  let disposition :=
    if body.action = .redirect then .redirect else policy.disposition
  { row with
    category := some categoryKey
    categoryId := some categoryKey
    aggregationKey := some category.aggregationKey
    departmentKey := some departmentKey
    priority := some policy.priority
    assetScope := some assetScope
    safetyLevel := some safety
    disposition := some disposition
    reviewStatus := some (reviewStatus body.action)
    taxonomyVersion := some taxonomyVersion
    stateVersion := row.stateVersion + 1
    routingSnapshot := some
      (routingSnapshot categoryKey departmentKey route disposition) }

/-- The category of an action that is not answered with 403, 404 or 422. -/
def accepted (official : OfficialUser) (body : OfficialAction)
    (row : Grievance) : Option String :=
  if official.role = .auditor ∨ ¬ officialCanAccess official row then none
  else canonicalCategoryKey (chosenCategory body.categoryId row)

end OfficialAction

/-! ## `finalize_grievance`, `cancel_grievance` and `dispatch_grievance` -/

def registeredFields (now : Time) (row : Grievance) : Grievance :=
  { row with status := .registered, confirmedAt := some now }

def awaitingOfficialFields (now : Time) (row : Grievance) : Grievance :=
  { row with
    status := .registered
    confirmedAt := some now
    reviewStatus := some .pendingOfficial }

/-- The dispositions that `finalize_grievance` leaves to an official. -/
def needsDisposition (row : Grievance) : Bool :=
  match row.disposition with
  | some .redirect => true
  | some .emergencyRedirect => true
  | some .needsHumanReview => true
  | _ => false

def duplicateFields (masterId : String) (row : Grievance) : Grievance :=
  { row with status := .duplicate, duplicateOfId := some masterId }

/-- `master.report_count + 1`, of the master as the search loaded it. -/
def reportedFields (count : Nat) (row : Grievance) : Grievance :=
  { row with reportCount := count }

def pendingWindowFields (windowExpiresAt : Time) (row : Grievance) :
    Grievance :=
  { row with
    status := .pendingWindow, windowExpiresAt := some windowExpiresAt }

def cancelledFields (row : Grievance) : Grievance :=
  { row with status := .cancelled }

/-- The guard of `dispatch_grievance`: a snapshot that is not empty must enable
the dispatch. -/
def dispatchDisabled (row : Grievance) : Bool :=
  row.routingSnapshot.any fun snapshot => ¬ snapshot.dispatchEnabled

def dispatchDisabledFields (row : Grievance) : Grievance :=
  { row with
    status := .registered, reviewStatus := some .pendingOfficial }

def dispatchingFields (row : Grievance) : Grievance :=
  { row with status := .dispatching }

/-- The status after a failed attempt. -/
def refusedStatus (row : Grievance) : GrievanceStatus :=
  if maxDispatchAttempts ≤ row.dispatchAttempts + 1 then .dispatchFailed
  else .dispatching

def refusedFields (row : Grievance) : Grievance :=
  { row with
    dispatchAttempts := row.dispatchAttempts + 1
    status := refusedStatus row }

def submittedFields (ref : String) (row : Grievance) : Grievance :=
  { row with status := .submitted, dispatchRef := some ref }

/-! ## `find_duplicate` -/

/-- The two transcendental functions of the duplicate search. -/
structure Geometry where
  cosRadians : ℚ → ℚ
  haversineM : ℚ → ℚ → ℚ → ℚ → ℚ

/-- The conditions of `find_dedup_candidates`, apart from the excluded id. -/
def dedupCandidate (geometry : Geometry) (category : String)
    (lat lon radiusM : ℚ) (now : Time) (row : Grievance) : Bool :=
  let deltaLat := radiusM / 111320
  let deltaLon :=
    radiusM / (111320 * max (1 / 10) |geometry.cosRadians lat|)
  row.category = some category && row.status = .pendingWindow &&
    row.windowExpiresAt.any (now < ·) &&
    row.locationLatitude.any
      (fun value => lat - deltaLat ≤ value ∧ value ≤ lat + deltaLat) &&
    row.locationLongitude.any
      (fun value => lon - deltaLon ≤ value ∧ value ≤ lon + deltaLon)

/-- The nearest candidate within the radius, the first of equally near ones. -/
def nearest (geometry : Geometry) (lat lon radiusM : ℚ)
    (best : Option (ℚ × String × Grievance))
    (candidate : String × Grievance) : Option (ℚ × String × Grievance) :=
  match candidate.2.locationLatitude, candidate.2.locationLongitude with
  | some candidateLat, some candidateLon =>
      let distance := geometry.haversineM lat lon candidateLat candidateLon
      if distance ≤ radiusM ∧ best.all (distance < ·.1) then
        some (distance, candidate)
      else best
  | _, _ => best

def findDuplicate (geometry : Geometry) (radiusM : ℚ)
    (rows : List (String × Grievance)) (id : String) (row : Grievance)
    (now : Time) : Option (String × Grievance) :=
  match row.locationLatitude, row.locationLongitude with
  | some lat, some lon =>
      let category := row.category.filter (· ≠ "") |>.getD "other"
      let candidates := rows.filter fun candidate =>
        candidate.1 ≠ id &&
          dedupCandidate geometry category lat lon radiusM now candidate.2
      (candidates.foldl (nearest geometry lat lon radiusM) none).map (·.2)
  | _, _ => none

end JanSetu.Pipeline
