import JanSetu.Db.Session
import JanSetu.Library.Column
import Mathlib.Data.Rat.Init

/-!
# The grievance row

The columns of `grievances` with their values as types, and the session that
writes them back.  `Option` is a nullable column; an empty JSON object and a
missing one are both read as "no snapshot" by the code, so `routingSnapshot` is
`none` for either.
-/

namespace JanSetu

inductive GrievanceStatus where
  | draft
  | processing
  | photoMismatch
  | awaitingConfirmation
  | registered
  | pendingWindow
  | dispatching
  | submitted
  | duplicate
  | cancelled
  | dispatchFailed
deriving DecidableEq

inductive ReviewStatus where
  | citizenReview
  | pendingOfficial
  | approved
  | redirected
  | rejected
  | awaitingCitizen
deriving DecidableEq

inductive Disposition where
  | municipalTicket
  | municipalTicketAndEscalate
  | redirect
  | emergencyRedirect
  | needsHumanReview
deriving DecidableEq

inductive SafetyLevel where
  | none
  | possible
  | immediate
deriving DecidableEq

inductive AssetScope where
  | publicAsset
  | privateAsset
  | unknown
deriving DecidableEq

inductive Priority where
  | normal
  | priority
deriving DecidableEq

inductive Term where
  | shortTerm
  | longTerm
deriving DecidableEq

inductive ImageMatchStatus where
  | none
  | matched
  | mismatched
  | unverified
  | skipped
deriving DecidableEq

inductive Source where
  | whatsapp
  | web
deriving DecidableEq

/-- One entry of `issue_messages`. -/
structure IssueMessage where
  type : String
  text : Option String
  mediaId : Option String
  mimeType : Option String
  localPath : Option String
  recordingId : Option String
  segmentIndex : Option Int
deriving DecidableEq

structure Transcript where
  recordingId : String
  segmentIndex : Int
  text : String
  language : String
  mimeType : String
deriving DecidableEq

structure RoutingSnapshot where
  taxonomyVersion : String
  categoryId : String
  departmentKey : String
  owningAgency : Option String
  dispatchEnabled : Bool
  slaHours : Option Nat
  disposition : Disposition
deriving DecidableEq

/-- The members of `structured_facts`; `none` is an absent or null member. -/
structure StructuredFacts where
  summary : Option String
  originalText : Option String
  alternatives : List String
  ownerHint : Option String
  requestedAction : Option String
  landmark : Option String
  incidentTime : Option String
  missingFacts : List String
  clarificationQuestion : Option String
  clarificationAnswer : Option String
  evidence : List String
  imageObservations : List String
  contradictions : List String
  model : Option String
  latencyMs : Option Nat
  escalated : Bool
deriving DecidableEq

def StructuredFacts.empty : StructuredFacts :=
  { summary := none, originalText := none, alternatives := []
    ownerHint := none, requestedAction := none, landmark := none
    incidentTime := none, missingFacts := [], clarificationQuestion := none
    clarificationAnswer := none, evidence := [], imageObservations := []
    contradictions := [], model := none, latencyMs := none
    escalated := false }

structure Grievance where
  humanId : String
  contactId : String
  conversationId : Option String
  userId : Option String
  source : Source
  locationLatitude : Option ℚ
  locationLongitude : Option ℚ
  locationAddress : Option String
  issueMessages : List IssueMessage
  issueText : Option String
  sourceLanguage : Option String
  photoMediaId : Option String
  photoPath : Option String
  pdfPath : Option String
  status : GrievanceStatus
  category : Option String
  departmentKey : Option String
  priority : Option Priority
  term : Option Term
  confidence : Option ℚ
  imageMatchStatus : Option ImageMatchStatus
  flags : List String
  reportCount : Nat
  duplicateOfId : Option String
  windowExpiresAt : Option Time
  dispatchRef : Option String
  dispatchAttempts : Nat
  draftedAt : Option Time
  confirmedAt : Option Time
  taxonomyVersion : Option String
  categoryId : Option String
  aggregationKey : Option String
  jurisdictionId : Option String
  safetyLevel : Option SafetyLevel
  assetScope : Option AssetScope
  disposition : Option Disposition
  reviewStatus : Option ReviewStatus
  policyVersion : Option String
  routingSnapshot : Option RoutingSnapshot
  structuredFacts : Option StructuredFacts
  transcriptMetadata : List Transcript
  stateVersion : Nat
  updatedAt : Time
deriving DecidableEq

/-- The row in the table after a flush of `new` by a session that knows the row
as `known`. -/
def Grievance.writeBack (known current new : Grievance) : Grievance :=
  { humanId :=
      Column.write known.humanId current.humanId new.humanId
    contactId :=
      Column.write known.contactId current.contactId new.contactId
    conversationId :=
      Column.write known.conversationId current.conversationId new.conversationId
    userId :=
      Column.write known.userId current.userId new.userId
    source :=
      Column.write known.source current.source new.source
    locationLatitude :=
      Column.write known.locationLatitude current.locationLatitude new.locationLatitude
    locationLongitude :=
      Column.write known.locationLongitude current.locationLongitude new.locationLongitude
    locationAddress :=
      Column.write known.locationAddress current.locationAddress new.locationAddress
    issueMessages :=
      Column.write known.issueMessages current.issueMessages new.issueMessages
    issueText :=
      Column.write known.issueText current.issueText new.issueText
    sourceLanguage :=
      Column.write known.sourceLanguage current.sourceLanguage new.sourceLanguage
    photoMediaId :=
      Column.write known.photoMediaId current.photoMediaId new.photoMediaId
    photoPath :=
      Column.write known.photoPath current.photoPath new.photoPath
    pdfPath :=
      Column.write known.pdfPath current.pdfPath new.pdfPath
    status :=
      Column.write known.status current.status new.status
    category :=
      Column.write known.category current.category new.category
    departmentKey :=
      Column.write known.departmentKey current.departmentKey new.departmentKey
    priority :=
      Column.write known.priority current.priority new.priority
    term :=
      Column.write known.term current.term new.term
    confidence :=
      Column.write known.confidence current.confidence new.confidence
    imageMatchStatus :=
      Column.write known.imageMatchStatus current.imageMatchStatus new.imageMatchStatus
    flags :=
      Column.write known.flags current.flags new.flags
    reportCount :=
      Column.write known.reportCount current.reportCount new.reportCount
    duplicateOfId :=
      Column.write known.duplicateOfId current.duplicateOfId new.duplicateOfId
    windowExpiresAt :=
      Column.write known.windowExpiresAt current.windowExpiresAt new.windowExpiresAt
    dispatchRef :=
      Column.write known.dispatchRef current.dispatchRef new.dispatchRef
    dispatchAttempts :=
      Column.write known.dispatchAttempts current.dispatchAttempts new.dispatchAttempts
    draftedAt :=
      Column.write known.draftedAt current.draftedAt new.draftedAt
    confirmedAt :=
      Column.write known.confirmedAt current.confirmedAt new.confirmedAt
    taxonomyVersion :=
      Column.write known.taxonomyVersion current.taxonomyVersion new.taxonomyVersion
    categoryId :=
      Column.write known.categoryId current.categoryId new.categoryId
    aggregationKey :=
      Column.write known.aggregationKey current.aggregationKey new.aggregationKey
    jurisdictionId :=
      Column.write known.jurisdictionId current.jurisdictionId new.jurisdictionId
    safetyLevel :=
      Column.write known.safetyLevel current.safetyLevel new.safetyLevel
    assetScope :=
      Column.write known.assetScope current.assetScope new.assetScope
    disposition :=
      Column.write known.disposition current.disposition new.disposition
    reviewStatus :=
      Column.write known.reviewStatus current.reviewStatus new.reviewStatus
    policyVersion :=
      Column.write known.policyVersion current.policyVersion new.policyVersion
    routingSnapshot :=
      Column.write known.routingSnapshot current.routingSnapshot new.routingSnapshot
    structuredFacts :=
      Column.write known.structuredFacts current.structuredFacts new.structuredFacts
    transcriptMetadata :=
      Column.write known.transcriptMetadata current.transcriptMetadata new.transcriptMetadata
    stateVersion :=
      Column.write known.stateVersion current.stateVersion new.stateVersion
    updatedAt :=
      Column.write known.updatedAt current.updatedAt new.updatedAt }

/-- One grievance in an open transaction: the row as the session knows it, and
the row in the table. -/
structure RowSession where
  known : Grievance
  current : Grievance

namespace RowSession

/-- `set_grievance_fields` and its flush.  An `UPDATE` is sent when a value
differs from the known one, and also sets `updated_at`. -/
def set (session : RowSession) (now : Time)
    (change : Grievance → Grievance) : RowSession :=
  let new := change session.known
  if new = session.known then session
  else
    let stamped := { new with updatedAt := now }
    { known := stamped
      current := session.known.writeBack session.current stamped }

/-- A column other than `updated_at`: a flush writes it as any other, and does
not touch it by its stamp. -/
structure IsColumn {Value : Type} [DecidableEq Value]
    (column : Grievance → Value) : Prop where
  stamp : ∀ row time, column { row with updatedAt := time } = column row
  back : ∀ known current new : Grievance,
    column (known.writeBack current new) =
      Column.write (column known) (column current) (column new)

theorem humanId_isColumn : IsColumn (·.humanId) :=
  ⟨fun _ _ => rfl, fun _ _ _ => rfl⟩

theorem status_isColumn : IsColumn (·.status) :=
  ⟨fun _ _ => rfl, fun _ _ _ => rfl⟩

theorem reviewStatus_isColumn : IsColumn (·.reviewStatus) :=
  ⟨fun _ _ => rfl, fun _ _ _ => rfl⟩

theorem disposition_isColumn : IsColumn (·.disposition) :=
  ⟨fun _ _ => rfl, fun _ _ _ => rfl⟩

theorem routingSnapshot_isColumn : IsColumn (·.routingSnapshot) :=
  ⟨fun _ _ => rfl, fun _ _ _ => rfl⟩

theorem category_isColumn : IsColumn (·.category) :=
  ⟨fun _ _ => rfl, fun _ _ _ => rfl⟩

theorem departmentKey_isColumn : IsColumn (·.departmentKey) :=
  ⟨fun _ _ => rfl, fun _ _ _ => rfl⟩

theorem dispatchRef_isColumn : IsColumn (·.dispatchRef) :=
  ⟨fun _ _ => rfl, fun _ _ _ => rfl⟩

theorem dispatchAttempts_isColumn : IsColumn (·.dispatchAttempts) :=
  ⟨fun _ _ => rfl, fun _ _ _ => rfl⟩

theorem confirmedAt_isColumn : IsColumn (·.confirmedAt) :=
  ⟨fun _ _ => rfl, fun _ _ _ => rfl⟩

theorem windowExpiresAt_isColumn : IsColumn (·.windowExpiresAt) :=
  ⟨fun _ _ => rfl, fun _ _ _ => rfl⟩

theorem conversationId_isColumn : IsColumn (·.conversationId) :=
  ⟨fun _ _ => rfl, fun _ _ _ => rfl⟩

theorem categoryId_isColumn : IsColumn (·.categoryId) :=
  ⟨fun _ _ => rfl, fun _ _ _ => rfl⟩

theorem structuredFacts_isColumn : IsColumn (·.structuredFacts) :=
  ⟨fun _ _ => rfl, fun _ _ _ => rfl⟩

theorem reportCount_isColumn : IsColumn (·.reportCount) :=
  ⟨fun _ _ => rfl, fun _ _ _ => rfl⟩

theorem duplicateOfId_isColumn : IsColumn (·.duplicateOfId) :=
  ⟨fun _ _ => rfl, fun _ _ _ => rfl⟩

theorem stateVersion_isColumn : IsColumn (·.stateVersion) :=
  ⟨fun _ _ => rfl, fun _ _ _ => rfl⟩

theorem imageMatchStatus_isColumn : IsColumn (·.imageMatchStatus) :=
  ⟨fun _ _ => rfl, fun _ _ _ => rfl⟩

theorem photoPath_isColumn : IsColumn (·.photoPath) :=
  ⟨fun _ _ => rfl, fun _ _ _ => rfl⟩

theorem pdfPath_isColumn : IsColumn (·.pdfPath) :=
  ⟨fun _ _ => rfl, fun _ _ _ => rfl⟩

theorem priority_isColumn : IsColumn (·.priority) :=
  ⟨fun _ _ => rfl, fun _ _ _ => rfl⟩

theorem locationAddress_isColumn : IsColumn (·.locationAddress) :=
  ⟨fun _ _ => rfl, fun _ _ _ => rfl⟩

theorem issueMessages_isColumn : IsColumn (·.issueMessages) :=
  ⟨fun _ _ => rfl, fun _ _ _ => rfl⟩

theorem issueText_isColumn : IsColumn (·.issueText) :=
  ⟨fun _ _ => rfl, fun _ _ _ => rfl⟩

theorem photoMediaId_isColumn : IsColumn (·.photoMediaId) :=
  ⟨fun _ _ => rfl, fun _ _ _ => rfl⟩

theorem locationLatitude_isColumn : IsColumn (·.locationLatitude) :=
  ⟨fun _ _ => rfl, fun _ _ _ => rfl⟩

theorem locationLongitude_isColumn : IsColumn (·.locationLongitude) :=
  ⟨fun _ _ => rfl, fun _ _ _ => rfl⟩

section

variable {Value : Type} [DecidableEq Value] {column : Grievance → Value}
  (isColumn : IsColumn column) (session : RowSession) (now : Time)
  {change : Grievance → Grievance}

include isColumn

/-- What the session knows of a column after a flush. -/
theorem IsColumn.set_known :
    column (session.set now change).known = column (change session.known) := by
  unfold set
  dsimp only
  split
  case isTrue same => rw [same]
  case isFalse => exact isColumn.stamp _ _

/-- What the table holds of a column after a flush. -/
theorem IsColumn.set_current :
    column (session.set now change).current =
      Column.write (column session.known) (column session.current)
        (column (change session.known)) := by
  unfold set
  dsimp only
  split
  case isTrue same => rw [same, Column.write_known]
  case isFalse =>
    refine (isColumn.back _ _ _).trans ?_
    exact congrArg (Column.write _ _) (isColumn.stamp _ now)

/-- A column that is not changed stays as the table holds it. -/
theorem IsColumn.set_same
    (same : column (change session.known) = column session.known) :
    column (session.set now change).current = column session.current := by
  rw [isColumn.set_current, same, Column.write_known]

/-- A column that is changed is overwritten. -/
theorem IsColumn.set_new
    (changed : column (change session.known) ≠ column session.known) :
    column (session.set now change).current =
      column (change session.known) := by
  rw [isColumn.set_current, Column.write_of_ne changed]

theorem IsColumn.set_cases :
    column (session.set now change).current = column session.current ∨
      column (session.set now change).current =
        column (change session.known) := by
  rw [isColumn.set_current]
  exact Column.write_cases _ _ _

end

end RowSession

end JanSetu
