import JanSetu.Library.Process
import JanSetu.Officials.Access
import JanSetu.Pipeline.Artifacts

/-!
# The console of officials

The requests of `officials.py` for the queue and for a single case.  A request
reads the official of its token and then the page or the case, each with a
statement of its own; one for a single case commits its audit row together with
what it changes before it answers, the queue has no audit row.  Citizens, the
pipeline and administrators write in between.
-/

namespace JanSetu.Officials

open Process (Program)
open Query (Arrangement)
open Python (Path startsWith strip)

/-- A row of the grievances table, under its id. -/
structure Case where
  createdAt : Time
  grievance : Grievance
deriving DecidableEq

/-- What `_queue_item` shows of a case. -/
structure QueueItem where
  id : String
  humanId : String
  status : GrievanceStatus
  reviewStatus : Option ReviewStatus
  categoryId : Option String
  categoryLabel : String
  domain : String
  departmentKey : Option String
  priority : Option Priority
  safetyLevel : Option SafetyLevel
  disposition : Option Disposition
  confidence : Option ℚ
  address : Option String
  issueText : Option String
  photoUrl : Option String
  imageMatchStatus : Option ImageMatchStatus
  structuredFacts : Option StructuredFacts
  routing : Option RoutingSnapshot
  flags : List String
  createdAt : Time
  stateVersion : Nat
deriving DecidableEq

def queueItem (id : String) (row : Case) : QueueItem :=
  let grievance := row.grievance
  let category := categoryOrDefault
    (if Python.truthy grievance.categoryId then grievance.categoryId
     else grievance.category)
  { id := id
    humanId := grievance.humanId
    status := grievance.status
    reviewStatus := grievance.reviewStatus
    categoryId := grievance.categoryId
    categoryLabel := category.label
    domain := category.parentKey
    departmentKey := grievance.departmentKey
    priority := grievance.priority
    safetyLevel := grievance.safetyLevel
    disposition := grievance.disposition
    confidence := grievance.confidence
    address := grievance.locationAddress
    issueText := grievance.issueText
    photoUrl :=
      if Python.truthy grievance.photoPath then
        some ("/api/official/grievances/" ++ id ++ "/photo")
      else none
    imageMatchStatus := grievance.imageMatchStatus
    structuredFacts := grievance.structuredFacts
    routing := grievance.routingSnapshot
    flags := grievance.flags
    createdAt := row.createdAt
    stateVersion := grievance.stateVersion }

/-- A row of `official_audit_events`. -/
structure AuditEvent where
  id : String
  officialUserId : String
  grievanceId : Option String
  action : String
  reason : Option String
  before : Option QueueItem
  after : Option QueueItem
  requestId : Option String
deriving DecidableEq

/-- The body of `official_action`. -/
structure ActionRequest where
  body : Pipeline.OfficialAction
  reason : String
  minLength : 3 ≤ reason.length
  maxLength : reason.length ≤ 1000
deriving DecidableEq

def actionName : Pipeline.OfficialDecision → String
  | .approve => "approve"
  | .correct => "correct"
  | .redirect => "redirect"
  | .reject => "reject"
  | .requestClarification => "request_clarification"

/-- The endpoints for a single case. -/
inductive Endpoint where
  | grievance
  | action (request : ActionRequest)
  | photo
deriving DecidableEq

/-- The action of the audit row. -/
def Endpoint.auditAction : Endpoint → String
  | .grievance => "view"
  | .action request => actionName request.body.action
  | .photo => "view_evidence"

structure Call where
  authorization : Option String
  grievanceId : String
  endpoint : Endpoint
  requestId : String
deriving DecidableEq

/-- The parameters of `official_queue`, within the bounds of the endpoint. -/
structure QueueCall where
  authorization : Option String
  reviewStatus : Option ReviewStatus
  limit : Nat
  offset : Nat
  minLimit : 1 ≤ limit
  maxLimit : limit ≤ 100
deriving DecidableEq

/-- A page of the queue: the official it was read for, and the rows that
`_queue_item` shows. -/
structure Page where
  officialId : String
  official : OfficialUser
  rows : List StoredGrievance
deriving DecidableEq

/-- What the official was sent of a case; `official` and `read` are the
official and the case as the request had read them. -/
structure Sent where
  auditId : String
  officialId : String
  official : OfficialUser
  grievanceId : String
  endpoint : Endpoint
  read : Case
deriving DecidableEq

/-- `audits` has the newest first.  `sent` and `pages` are what has left the
server, which no operation reads. -/
structure ConsoleStore where
  officials : Table String OfficialUser
  cases : Table String Case
  audits : List AuditEvent
  sent : List Sent
  pages : List Page
deriving DecidableEq

def ConsoleStore.rows (store : ConsoleStore) : List StoredGrievance :=
  store.cases.rows.entries.map fun entry =>
    { id := entry.1, createdAt := entry.2.createdAt
      grievance := entry.2.grievance }

def officialRoles : List String :=
  ["triage_officer", "department_officer", "supervisor", "auditor", "admin"]

inductive ConsoleHandler where
  | authenticating (call : Call)
  | loading (call : Call) (officialId : String) (official : OfficialUser)
  | committing (call : Call) (officialId : String) (official : OfficialUser)
      (read : Case)
  | answering (sent : Sent)
  | queueing (call : QueueCall)
  | listing (call : QueueCall) (officialId : String) (official : OfficialUser)
  | showing (page : Page)
  | verifying (officialId : String)
  | writing (grievanceId : String) (row : Case)
  | administering (officialId : String) (row : OfficialUser)
deriving DecidableEq

/-- `verify` is the transaction of a login, `write` any other transaction that
changes a case, `administer` any statement that creates or changes an
official. -/
inductive ConsoleRequest where
  | call (call : Call)
  | queue (call : QueueCall)
  | verify (officialId : String)
  | write (grievanceId : String) (row : Case)
  | administer (officialId : String) (row : OfficialUser)
deriving DecidableEq

def ConsoleHandler.start : ConsoleRequest → ConsoleHandler
  | .call call => .authenticating call
  | .queue call => .queueing call
  | .verify officialId => .verifying officialId
  | .write grievanceId row => .writing grievanceId row
  | .administer officialId row => .administering officialId row

/-- `isFile` is what the file system says of the photo, `drawn` carries the id
of the audit row, `arranged` the order in which the database puts cases of one
time, `raises` is an exception. -/
inductive ConsoleAnswer where
  | plain (isFile : Bool)
  | drawn (auditId : String)
  | arranged (order : Arrangement StoredGrievance.createdAt)
  | raises

structure ConsoleChoice where
  now : Time
  answer : ConsoleAnswer

/-- The token of a header; the 401 is `none`. -/
def bearerToken (authorization : Option String) : Option String :=
  let header := authorization.getD ""
  if startsWith header "Bearer " then
    some (strip (String.ofList (header.toList.drop "Bearer ".length)))
  else none

section

variable (decode : String → Time → Option String)

/-- `require_official`.  `decode` is `jwt.decode` for the audience of officials,
with the subject of the token. -/
def ConsoleStore.requireOfficial (store : ConsoleStore)
    (authorization : Option String) (now : Time) :
    Option (String × OfficialUser) :=
  match bearerToken authorization with
  | none => none
  | some token =>
      match decode token now with
      | none => none
      | some officialId =>
          match store.officials.find officialId with
          | none => none
          | some official =>
              if official.active ∧ official.role ∈ officialRoles then
                some (officialId, official)
              else none

/-- The checks between the lookup of the case and the first write; `none` is
an answer with 403, 404 or 422. -/
def Endpoint.accepts (endpoint : Endpoint) (official : OfficialUser)
    (row : Case) (isFile : Bool) : Bool :=
  officialCanAccess official row.grievance &&
    match endpoint with
    | .grievance => true
    | .action request =>
        official.role ≠ "auditor" &&
          (canonicalCategoryKey
            (Pipeline.chosenCategory request.body.categoryId
              row.grievance)).isSome
    | .photo => Python.truthy row.grievance.photoPath && isFile

/-- The case as the session of an action knows it, and as it is in the table,
after the flush. -/
def ActionRequest.flush (request : ActionRequest) (read current : Case)
    (now : Time) : RowSession :=
  match canonicalCategoryKey
      (Pipeline.chosenCategory request.body.categoryId read.grievance) with
  | none => { known := read.grievance, current := current.grievance }
  | some categoryKey =>
      RowSession.set
        { known := read.grievance, current := current.grievance } now
        (Pipeline.OfficialAction.fields request.body categoryKey)

/-- The audit row of a call. -/
def Call.audit (call : Call) (auditId officialId : String) (read after : Case) :
    AuditEvent :=
  match call.endpoint with
  | .grievance =>
      { id := auditId, officialUserId := officialId
        grievanceId := some call.grievanceId, action := "view"
        reason := none, before := none, after := none
        requestId := some call.requestId }
  | .action request =>
      { id := auditId, officialUserId := officialId
        grievanceId := some call.grievanceId
        action := actionName request.body.action
        reason := some request.reason
        before := some (queueItem call.grievanceId read)
        after := some (queueItem call.grievanceId after)
        requestId := some call.requestId }
  | .photo =>
      { id := auditId, officialUserId := officialId
        grievanceId := some call.grievanceId, action := "view_evidence"
        reason := none, before := none, after := none, requestId := none }

/-- The audit row of `verify_official_code`. -/
def loginAudit (auditId officialId : String) : AuditEvent :=
  { id := auditId, officialUserId := officialId, grievanceId := none
    action := "login", reason := none, before := none, after := none
    requestId := none }

/-- The transaction of a call: what it changes, and its audit row. -/
def ConsoleStore.commitCall (store : ConsoleStore) (call : Call)
    (auditId officialId : String) (read current : Case) (now : Time) :
    ConsoleStore :=
  match call.endpoint with
  | .action request =>
      let session := request.flush read current now
      { store with
        cases := store.cases.put call.grievanceId
          { current with grievance := session.current }
        audits :=
          call.audit auditId officialId read
              { read with grievance := session.known } ::
            store.audits }
  | _ =>
      { store with
        audits := call.audit auditId officialId read read :: store.audits }

def ConsoleHandler.resume (store : ConsoleStore) (handler : ConsoleHandler)
    (choice : ConsoleChoice) :
    Option (ConsoleStore × Option ConsoleHandler) :=
  match handler, choice.answer with
  | .authenticating call, .plain _ =>
      match store.requireOfficial decode call.authorization choice.now with
      | none => some (store, none)
      | some (officialId, official) =>
          some (store, some (.loading call officialId official))
  | .loading call officialId official, .plain isFile =>
      match store.cases.find call.grievanceId with
      | none => some (store, none)
      | some row =>
          if call.endpoint.accepts official row isFile then
            some (store, some (.committing call officialId official row))
          else some (store, none)
  | .committing call officialId official read, .drawn auditId =>
      match store.cases.find call.grievanceId with
      | none => some (store, none)
      | some current =>
          if auditId ∈ store.audits.map (·.id) then none
          else
            some
              (store.commitCall call auditId officialId read current choice.now,
               some (.answering
                { auditId := auditId, officialId := officialId
                  official := official, grievanceId := call.grievanceId
                  endpoint := call.endpoint, read := read }))
  | .answering sent, .plain _ =>
      some ({ store with sent := sent :: store.sent }, none)
  | .queueing call, .plain _ =>
      match store.requireOfficial decode call.authorization choice.now with
      | none => some (store, none)
      | some (officialId, official) =>
          some (store, some (.listing call officialId official))
  | .listing call officialId official, .arranged order =>
      let rows := listScopedGrievances order store.rows official
        call.reviewStatus call.limit call.offset
      some (store, some (.showing
        { officialId := officialId, official := official, rows := rows }))
  | .showing page, .plain _ =>
      some ({ store with pages := page :: store.pages }, none)
  | .verifying officialId, .drawn auditId =>
      if auditId ∈ store.audits.map (·.id) then none
      else
        some
          ({ store with
              audits := loginAudit auditId officialId :: store.audits }, none)
  | .writing grievanceId row, .plain _ =>
      some ({ store with cases := store.cases.put grievanceId row }, none)
  | .administering officialId row, .plain _ =>
      some
        ({ store with officials := store.officials.put officialId row }, none)
  | _, .raises => some (store, none)
  | _, _ => none

/-- A crash rolls back.  Runs start from any officials and cases, before the
first request. -/
def consoleProgram :
    Program ConsoleStore ConsoleHandler ConsoleRequest ConsoleChoice :=
  { initial := fun store =>
      store.audits = [] ∧ store.sent = [] ∧ store.pages = []
    start := ConsoleHandler.start
    resume := ConsoleHandler.resume decode
    release := fun store _ => store }

end

end JanSetu.Officials
