import JanSetu.Library.Process
import JanSetu.Pipeline.Store

/-!
# The operations on a grievance, in steps

Every operation loads the row in one step and writes it in another; in between
lie the calls of models, geocoders, file systems and dispatchers, and the steps
of everybody else.  A process is a request, or a sweep that dispatches one
grievance after the other.  A step takes the clock and the external results
from its label; an exception is one of these results at every step.
-/

namespace JanSetu.Pipeline

open Process (Program)

/-- An accepted form of `create_draft`, its uploads saved. -/
structure DraftForm where
  contactId : String
  userId : String
  lat : ℚ
  lon : ℚ
  textMessages : List IssueMessage
  audioMessages : List IssueMessage
  photoPath : Option String
deriving DecidableEq

inductive Operation where
  | storeUploads (form : DraftForm)
  | runPipeline
  | acceptPhotoMismatch
  | recheckImage (proceedWithoutPhoto : Bool)
  | reextract
  | updateReview (userId : String) (body : ReviewPatch)
  | officialAction (official : OfficialUser) (body : OfficialAction)
  | replacePhoto (userId path : String)
  | confirmDraft (userId : String)
  | finalize
  | cancel
  | dispatch
deriving DecidableEq

inductive Task where
  | createDraft (form : DraftForm)
  | tapConfirm (id : String)
  | opened (operation : Operation) (id : String)
  | loaded (operation : Operation) (id : String) (known : Grievance)
  | searched (id : String) (known : Grievance) (confirmedAt : Time)
      (duplicate : Option (String × Grievance))
  | dispatching (id : String) (known : Grievance)
  | calling (id : String) (known : Grievance)
  | accepted (id : String) (known : Grievance) (ref : String)
  | refused (id : String) (known : Grievance)
deriving DecidableEq

inductive Answer where
  | plain
  | raises
  | inserted (id : String)
  | work (work : PipelineWork)
  | photo (check : PhotoCheck)
  | extraction (extraction : StructuredExtraction)
  | accepted (ref : String)
  | refused
  | selected (ids : List String)
deriving DecidableEq

structure Choice where
  now : Time
  answer : Answer
deriving DecidableEq

inductive Progress where
  | more (task : Task)
  | finished
  | processed (result : PipelineResult)
  | finalized (outcome : FinalizeOutcome)
  | raised
deriving DecidableEq

section

variable (settings : Settings) (geometry : Geometry)

/-- A transaction of one `set_grievance_fields` and one event. -/
def Store.write (store : Store) (id : String) (known : Grievance)
    (now : Time) (fields : Grievance → Grievance)
    (event : Option (GrievanceStatus × Option String))
    (progress : Grievance → Progress) : Option (Store × Progress) :=
  (store.commit id known (·.set now fields)).map fun result =>
    (event.elim result.1 fun event =>
       result.1.addGrievanceEvent id event.1 event.2 now,
     progress result.2)

def jurisdictionOf (row : Grievance) : String :=
  if Python.truthy row.jurisdictionId then row.jurisdictionId.getD ""
  else demoJurisdictionId

/-! ## Web drafts -/

def Store.createDraft (store : Store) (form : DraftForm) (id : String)
    (now : Time) : Option (Store × Progress) :=
  match store.grievances.find id with
  | some _ => none
  | none =>
      let row :=
        draftGrievance (humanId now store.sequence) form.contactId none
          (some form.userId) .web
          { lat := some form.lat, lon := some form.lon, displayAddress := none
            messages := form.textMessages, photoMediaId := none } now
      some
        ({ store with
           grievances := store.grievances.put id row
           sequence := store.sequence + 1 },
         .more (.loaded (.storeUploads form) id row))

def storeUploadsFields (form : DraftForm) (row : Grievance) : Grievance :=
  { row with
    issueMessages := form.textMessages ++ form.audioMessages
    photoPath := form.photoPath
    status := .processing }

def Store.storeUploads (store : Store) (form : DraftForm) (id : String)
    (known : Grievance) (now : Time) : Option (Store × Progress) :=
  store.write id known now (storeUploadsFields form) none fun _ => .finished

/-! ## The pipeline -/

/-- The receipt is built only when the grievance awaits confirmation. -/
def withReceipt (id : String) (status : GrievanceStatus)
    (fields : Grievance → Grievance) (row : Grievance) : Grievance :=
  if status = .awaitingConfirmation then
    buildAndStorePdf settings id (fields row)
  else fields row

theorem withReceipt_column {Value : Type} {column : Grievance → Value}
    {id : String}
    (stays : ∀ row, column (buildAndStorePdf settings id row) = column row)
    (status : GrievanceStatus) (fields : Grievance → Grievance)
    (row : Grievance) :
    column (withReceipt settings id status fields row) =
      column (fields row) := by
  unfold withReceipt
  split
  · exact stays (fields row)
  · rfl

def Store.runPipeline (store : Store) (id : String) (known : Grievance)
    (work : PipelineWork) (now : Time) : Option (Store × Progress) :=
  match originalText known.issueMessages with
  | none => some (store, .raised)
  | some text =>
      let route :=
        resolveRoute store.routes (some work.extraction.categoryId)
          (jurisdictionOf known) now
      let next := RunPipeline.nextStatus known work
      store.write id known now
        (withReceipt settings id next (RunPipeline.fields work route text))
        (some (next, none))
        fun _ => .processed (RunPipeline.result id known work)

/-- Its one caller, `confirm_draft`, finalizes next. -/
def Store.acceptPhotoMismatch (store : Store) (id : String)
    (known : Grievance) (now : Time) : Option (Store × Progress) :=
  if known.status ≠ .photoMismatch then
    some (store, .more (.opened .finalize id))
  else
    store.write id known now
      (buildAndStorePdf settings id ∘ acceptPhotoMismatchFields)
      (some (.awaitingConfirmation,
        some "Citizen filed despite the photo/description mismatch"))
      fun _ => .more (.opened .finalize id)

def Store.recheckImage (store : Store) (id : String) (known : Grievance)
    (proceedWithoutPhoto : Bool) (check : PhotoCheck) (now : Time) :
    Option (Store × Progress) :=
  let verdict :=
    RecheckImage.imageMatchStatus known proceedWithoutPhoto check
  let next := RecheckImage.nextStatus verdict
  store.write id known now
    (withReceipt settings id next (RecheckImage.fields verdict))
    (some (next, none))
    fun knows => .processed (RecheckImage.result id verdict knows)

def Store.reextract (store : Store) (id : String) (known : Grievance)
    (extraction : StructuredExtraction) (now : Time) :
    Option (Store × Progress) :=
  if ¬ Python.truthy known.issueText ∨ extraction.degraded then
    some (store, .finished)
  else
    let route :=
      resolveRoute store.routes
        (some (Reextract.category known extraction).key)
        (jurisdictionOf known) now
    store.write id known now (Reextract.fields extraction route)
      (some (known.status,
        some "Re-checked with the citizen's correction using a stronger model"))
      fun _ => .finished

/-! ## Requests -/

def Store.updateReview (store : Store) (id : String) (known : Grievance)
    (userId : String) (body : ReviewPatch) (now : Time) :
    Option (Store × Progress) :=
  if known.userId ≠ some userId then some (store, .raised)
  else
    match UpdateReview.accepted body known with
    | none => some (store, .raised)
    | some (categoryKey, assetScope) =>
        store.write id known now
          (UpdateReview.fields body categoryKey assetScope) none
          fun _ => .finished

def Store.officialAction (store : Store) (id : String) (known : Grievance)
    (official : OfficialUser) (body : OfficialAction) (now : Time) :
    Option (Store × Progress) :=
  match OfficialAction.accepted official body known with
  | none => some (store, .raised)
  | some categoryKey =>
      store.write id known now (OfficialAction.fields body categoryKey) none
        fun _ => .finished

def replacePhotoFields (path : String) (row : Grievance) : Grievance :=
  { row with photoPath := some path, photoMediaId := none }

def Store.replacePhoto (store : Store) (id : String) (known : Grievance)
    (userId path : String) (now : Time) : Option (Store × Progress) :=
  if known.userId ≠ some userId then some (store, .raised)
  else
    store.write id known now (replacePhotoFields path) none
      fun _ => .more (.opened (.recheckImage false) id)

def Store.confirmDraft (store : Store) (id : String) (known : Grievance)
    (userId : String) : Option (Store × Progress) :=
  if known.userId ≠ some userId then some (store, .raised)
  else if known.status = .photoMismatch then
    some (store, .more (.opened .acceptPhotoMismatch id))
  else if known.status = .awaitingConfirmation then
    some (store, .more (.opened .finalize id))
  else some (store, .raised)

/-! ## `finalize_grievance` and `cancel_grievance` -/

def dispositionText : Option Disposition → String
  | some .municipalTicket => "municipal_ticket"
  | some .municipalTicketAndEscalate => "municipal_ticket_and_escalate"
  | some .redirect => "redirect"
  | some .emergencyRedirect => "emergency_redirect"
  | some .needsHumanReview => "needs_human_review"
  | none => "None"

def finalizeOutcome (status : GrievanceStatus) (row : Grievance) :
    FinalizeOutcome :=
  { status := status, humanId := row.humanId, duplicateOfHumanId := none
    reportCount := none }

/-- A normal grievance is updated and stays locked while the duplicates are
searched; the search sees what others have committed. -/
def Store.searchDuplicates (store : Store) (id : String)
    (known : Grievance) (now : Time) : Option (Store × Progress) :=
  if id ∈ store.locked ∨ (store.grievances.find id).isNone then none
  else
    let rows :=
      store.grievances.rows.entries.map fun entry => (entry.1, entry.2)
    some
      ({ store with locked := id :: store.locked },
       .more (.searched id known now
         (findDuplicate geometry settings.dedupRadiusM rows id known now)))

def Store.finalize (store : Store) (id : String) (known : Grievance)
    (now : Time) : Option (Store × Progress) :=
  if known.reviewStatus = some .pendingOfficial then
    (store.record (.confirmed id)).write id known now (registeredFields now)
      (some (.registered,
        some "Citizen confirmed; awaiting scoped official review"))
      fun knows => .finalized (finalizeOutcome .registered knows)
  else if needsDisposition known then
    (store.record (.confirmed id)).write id known now
      (awaitingOfficialFields now)
      (some (.registered,
        some ("Awaiting official disposition: " ++
          dispositionText known.disposition)))
      fun knows => .finalized (finalizeOutcome .registered knows)
  else if known.priority = some .priority then
    (store.record (.confirmed id)).write id known now (registeredFields now)
      (some (.registered, none)) fun _ => .more (.opened .dispatch id)
  else store.searchDuplicates settings geometry id known now

/-- The commit of a grievance that is no duplicate. -/
def Store.openWindow (store : Store) (id : String) (known : Grievance)
    (confirmedAt now : Time) : Option (Store × Progress) :=
  let windowExpiresAt := now + hours settings.dedupWindowHours
  let opened :=
    ((store.unlock id).record (.confirmed id)).addGrievanceEvent id
      .registered none confirmedAt
  match opened.commit id known fun session =>
      (session.set confirmedAt (registeredFields confirmedAt)).set now
        (pendingWindowFields windowExpiresAt) with
  | none => none
  | some (store, knows) =>
      some
        (store.addGrievanceEvent id .pendingWindow none now,
         .finalized (finalizeOutcome .pendingWindow knows))

/-- The commit of a duplicate, with the count of its master. -/
def Store.mergeDuplicate (store : Store) (id : String) (known : Grievance)
    (confirmedAt : Time) (masterId : String) (master : Grievance)
    (now : Time) : Option (Store × Progress) :=
  let count := master.reportCount + 1
  let opened :=
    ((store.unlock id).record (.confirmed id)).addGrievanceEvent id
      .registered none confirmedAt
  match opened.commit id known fun session =>
      (session.set confirmedAt (registeredFields confirmedAt)).set now
        (duplicateFields masterId) with
  | none => none
  | some (store, knows) =>
      match store.commit masterId master
          (·.set now (reportedFields count)) with
      | none => none
      | some (store, _) =>
          some
            (store.addGrievanceEvent id .duplicate
               (some ("duplicate of " ++ master.humanId)) now,
             .finalized
               { status := .duplicate, humanId := knows.humanId
                 duplicateOfHumanId := some master.humanId
                 reportCount := some count })

def Store.cancel (store : Store) (id : String) (known : Grievance)
    (now : Time) : Option (Store × Progress) :=
  store.write id known now cancelledFields (some (.cancelled, none))
    fun _ => .finished

/-! ## `dispatch_grievance` -/

def Store.dispatch (store : Store) (id : String) (known : Grievance)
    (now : Time) : Option (Store × Progress) :=
  if dispatchDisabled known then
    store.write id known now dispatchDisabledFields
      (some (.registered,
        some "Live dispatch disabled for demo or unreviewed jurisdiction route"))
      fun knows => .finalized (finalizeOutcome .registered knows)
  else
    store.write id known now dispatchingFields none
      fun knows => .more (.dispatching id knows)

/-- The receipt is read and the dispatcher called. -/
def Store.callDispatcher (store : Store) (id : String)
    (known : Grievance) : Option (Store × Progress) :=
  (store.grievances.find id).map fun stored =>
    (store.record (.called id known stored), .more (.calling id known))

def Store.submit (store : Store) (id : String) (known : Grievance)
    (ref : String) (now : Time) : Option (Store × Progress) :=
  store.write id known now (submittedFields ref)
    (some (.submitted, some ref))
    fun knows => .finalized (finalizeOutcome .submitted knows)

def Store.retryOrFail (store : Store) (id : String) (known : Grievance)
    (now : Time) : Option (Store × Progress) :=
  store.write id known now refusedFields
    (if refusedStatus known = .dispatchFailed then
      some (.dispatchFailed, none)
     else none)
    fun knows => .finalized (finalizeOutcome (refusedStatus known) knows)

/-! ## Steps -/

/-- The first read of an operation.  A missing row is a 404 or a `ValueError`,
except in `reextract_grievance`, which returns. -/
def Store.load (store : Store) (operation : Operation) (id : String) :
    Progress :=
  match store.grievances.find id with
  | some row => .more (.loaded operation id row)
  | none => if operation = .reextract then .finished else .raised

def Operation.run (store : Store) (id : String) (known : Grievance)
    (now : Time) : Operation → Answer → Option (Store × Progress)
  | .storeUploads form, .plain => store.storeUploads form id known now
  | .runPipeline, .work work => store.runPipeline settings id known work now
  | .acceptPhotoMismatch, .plain =>
      store.acceptPhotoMismatch settings id known now
  | .recheckImage proceed, .photo check =>
      store.recheckImage settings id known proceed check now
  | .reextract, .extraction extraction =>
      store.reextract id known extraction now
  | .updateReview userId body, .plain =>
      store.updateReview id known userId body now
  | .officialAction official body, .plain =>
      store.officialAction id known official body now
  | .replacePhoto userId path, .plain =>
      store.replacePhoto id known userId path now
  | .confirmDraft userId, .plain => store.confirmDraft id known userId
  | .finalize, .plain => store.finalize settings geometry id known now
  | .cancel, .plain => store.cancel id known now
  | .dispatch, .plain => store.dispatch id known now
  | _, _ => none

/-- The locks of a process whose transaction is rolled back. -/
def Task.release (store : Store) : Task → Store
  | .searched id _ _ _ => store.unlock id
  | _ => store

def Task.resume (store : Store) (task : Task) (choice : Choice) :
    Option (Store × Progress) :=
  if choice.answer = .raises then some (task.release store, .raised)
  else
    match task, choice.answer with
    | .createDraft form, .inserted id => store.createDraft form id choice.now
    | .tapConfirm id, .plain =>
        some (store.record (.confirmed id), .more (.opened .finalize id))
    | .opened operation id, .plain => some (store, store.load operation id)
    | .loaded operation id known, answer =>
        operation.run settings geometry store id known choice.now answer
    | .searched id known confirmedAt none, .plain =>
        store.openWindow settings id known confirmedAt choice.now
    | .searched id known confirmedAt (some (masterId, master)), .plain =>
        store.mergeDuplicate id known confirmedAt masterId master choice.now
    | .dispatching id known, .plain => store.callDispatcher id known
    | .calling id known, .accepted ref =>
        some (store.record (.accepted id ref),
          .more (.accepted id known ref))
    | .calling id known, .refused => some (store, .more (.refused id known))
    | .accepted id known ref, .plain =>
        store.submit id known ref choice.now
    | .refused id known, .plain => store.retryOrFail id known choice.now
    | _, _ => none

/-! ## Processes -/

inductive Job where
  | request (task : Task)
  | sweepExpiredWindows (limit : Nat)
  | sweepStuckDispatching (limit : Nat)
  | sweeping (task : Task) (rest : List String)
deriving DecidableEq

inductive Request where
  | createDraft (form : DraftForm)
  | runPipeline (id : String)
  | reextract (id : String)
  | updateReview (id userId : String) (body : ReviewPatch)
  | officialAction (id : String) (official : OfficialUser)
      (body : OfficialAction)
  | replacePhoto (id userId path : String)
  | recheckImage (id : String) (proceedWithoutPhoto : Bool)
  | confirmDraft (id userId : String)
  | tapConfirm (id : String)
  | cancel (id : String)
  | sweepExpiredWindows (limit : Nat)
  | sweepStuckDispatching (limit : Nat)
deriving DecidableEq

def Job.start : Request → Job
  | .createDraft form => .request (.createDraft form)
  | .runPipeline id => .request (.opened .runPipeline id)
  | .reextract id => .request (.opened .reextract id)
  | .updateReview id userId body =>
      .request (.opened (.updateReview userId body) id)
  | .officialAction id official body =>
      .request (.opened (.officialAction official body) id)
  | .replacePhoto id userId path =>
      .request (.opened (.replacePhoto userId path) id)
  | .recheckImage id proceed =>
      .request (.opened (.recheckImage proceed) id)
  | .confirmDraft id userId => .request (.opened (.confirmDraft userId) id)
  | .tapConfirm id => .request (.tapConfirm id)
  | .cancel id => .request (.opened .cancel id)
  | .sweepExpiredWindows limit => .sweepExpiredWindows limit
  | .sweepStuckDispatching limit => .sweepStuckDispatching limit

def Job.sweepNext : List String → Option Job
  | [] => none
  | id :: rest => some (.sweeping (.opened .dispatch id) rest)

def Job.task : Job → Option Task
  | .request task => some task
  | .sweeping task _ => some task
  | _ => none

/-- The grievances a sweep has selected and not yet begun. -/
def Job.rest : Job → List String
  | .sweeping _ rest => rest
  | _ => []

def Job.select (store : Store) (test : Grievance → Bool) (limit : Nat) :
    Answer → Option (Store × Option Job)
  | .selected ids =>
      if store.Selects test limit ids then some (store, Job.sweepNext ids)
      else none
  | .raises => some (store, none)
  | _ => none

/-- What a process does after a step of its task.  A sweep logs what a
`dispatch_grievance` raises and goes on. -/
def Job.next (job : Job) : Progress → Option Job
  | .more task =>
      match job with
      | .sweeping _ rest => some (.sweeping task rest)
      | _ => some (.request task)
  | _ => Job.sweepNext job.rest

def Job.resume (store : Store) (job : Job) (choice : Choice) :
    Option (Store × Option Job) :=
  match job with
  | .sweepExpiredWindows limit =>
      Job.select store (Store.expiredWindow choice.now) limit choice.answer
  | .sweepStuckDispatching limit =>
      Job.select store Store.stuckDispatching limit choice.answer
  | .request task =>
      (task.resume settings geometry store choice).map fun result =>
        (result.1, (Job.request task).next result.2)
  | .sweeping task rest =>
      (task.resume settings geometry store choice).map fun result =>
        (result.1, (Job.sweeping task rest).next result.2)

def Job.release (store : Store) (job : Job) : Store :=
  job.task.elim store (·.release store)

/-- Runs start from any grievances that satisfy `admissible`, with no process
in progress. -/
def program (admissible : Grievance → Prop) :
    Program Store Job Request Choice :=
  { initial := fun store =>
      store.locked = [] ∧ store.journal = [] ∧
        ∀ id row, store.grievances.find id = some row → admissible row
    start := Job.start
    resume := Job.resume settings geometry
    release := Job.release }

end

/-! ## Small stores -/

/-- The defaults of `config.py`. -/
def defaultSettings : Settings :=
  { uploadDir := "./data/uploads", dedupRadiusM := 300
    dedupWindowHours := 24 }

/-- Distances along the axes, on a map without distortion. -/
def flatMap : Geometry :=
  { cosRadians := fun _ => 1
    haversineM := fun lat lon lat' lon' =>
      111320 * (|lat' - lat| + |lon' - lon|) }

def Store.single (id : String) (row : Grievance) : Store :=
  { grievances := Table.empty.put id row, routes := [], events := []
    sequence := 1, locked := [], journal := [] }

theorem Store.single_initial {settings : Settings} {geometry : Geometry}
    {admissible : Grievance → Prop} {id : String} {row : Grievance}
    (admits : admissible row) :
    (program settings geometry admissible).initial (.single id row) := by
  refine ⟨rfl, rfl, ?_⟩
  intro other found lookup
  simp only [Store.single, Table.find_put, Table.find_empty] at lookup
  split at lookup
  · cases lookup
    exact admits
  · cases lookup

/-- A web grievance in the state in which its citizen sees the receipt, in a
jurisdiction whose route is live. -/
def reviewedGrievance : Grievance :=
  { draftGrievance "JS-20260625-00001" "contact" none (some "citizen") .web
      { lat := some 28, lon := some 77, displayAddress := some "Ward 12"
        messages := [], photoMediaId := none } 0 with
    status := .awaitingConfirmation
    issueText := some "Streetlight not working"
    category := some "streetlight_out"
    categoryId := some "streetlight_out"
    priority := some .normal
    disposition := some .municipalTicket
    reviewStatus := some .citizenReview
    routingSnapshot := some
      { taxonomyVersion := taxonomyVersion, categoryId := "streetlight_out"
        departmentKey := "electrical", owningAgency := some "Ward office"
        dispatchEnabled := true, slaHours := some 72
        disposition := .municipalTicket } }

def streetlightExtraction : StructuredExtraction :=
  { summary := "Streetlight not working", categoryId := "streetlight_out"
    alternatives := [], confidence := 1, assetScope := .publicAsset
    ownerHint := "municipal", safety := .possible, requestedAction := none
    landmark := none, incidentTime := none, missingFacts := []
    clarificationQuestion := none, evidence := [], imageObservations := []
    contradictions := [], multipleIssues := false, degraded := false
    actualModel := none, latencyMs := none }

def streetlightWork : PipelineWork :=
  { clips := [], displayAddress := none, photoRead := false
    extraction := streetlightExtraction }

def Store.statusOf (store : Store) (id : String) : Option GrievanceStatus :=
  (store.grievances.find id).map (·.status)

end JanSetu.Pipeline
