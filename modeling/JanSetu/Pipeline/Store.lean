import JanSetu.Library.Table
import JanSetu.Pipeline.Core

/-!
# Grievances in the database

The tables the operations share and the one way they write a grievance: a
session that knows the row as it was when it loaded it writes back, in one
transaction, what differs from there.
-/

namespace JanSetu.Pipeline

/-- A row of `grievance_events`. -/
structure GrievanceEvent where
  grievanceId : String
  status : GrievanceStatus
  note : Option String
  createdAt : Time
deriving DecidableEq

/-- What happens outside of the tables, kept for the statements about runs and
read by no operation: the citizen confirmed (by a tap, or by a confirmation
that was committed), the dispatcher was called by a run that had read the
grievance as `read` while the table held `stored`, the dispatcher accepted. -/
inductive Entry where
  | confirmed (id : String)
  | called (id : String) (read stored : Grievance)
  | accepted (id ref : String)
deriving DecidableEq

/-- `events` and `journal` have the newest first.  `locked` holds the
grievances that an open transaction has updated and not yet committed. -/
structure Store where
  grievances : Table String Grievance
  routes : List JurisdictionRouteRow
  events : List GrievanceEvent
  sequence : Nat
  locked : List String
  journal : List Entry

namespace Store

def unlock (store : Store) (id : String) : Store :=
  { store with locked := store.locked.erase id }

def addGrievanceEvent (store : Store) (id : String)
    (status : GrievanceStatus) (note : Option String) (now : Time) : Store :=
  { store with
    events := { grievanceId := id, status := status, note := note
                createdAt := now } :: store.events }

def record (store : Store) (entry : Entry) : Store :=
  { store with journal := entry :: store.journal }

/-- A transaction that writes one row: what is in the table after its commit,
and what its session knows of the row.  It waits while the row is locked. -/
def commit (store : Store) (id : String) (known : Grievance)
    (writes : RowSession → RowSession) : Option (Store × Grievance) :=
  if id ∈ store.locked then none
  else
    match store.grievances.find id with
    | none => none
    | some current =>
        let session := writes { known := known, current := current }
        some
          ({ store with
             grievances := store.grievances.put id session.current },
           session.known)

theorem commit_eq {store after : Store} {id : String}
    {known knows : Grievance} {writes : RowSession → RowSession}
    (committed : store.commit id known writes = some (after, knows)) :
    ∃ current, store.grievances.find id = some current ∧
      after =
        { store with
          grievances := store.grievances.put id
            (writes { known := known, current := current }).current } ∧
      knows = (writes { known := known, current := current }).known := by
  unfold commit at committed
  split at committed
  · cases committed
  · split at committed
    · cases committed
    · rename_i current found
      have same := Option.some.inj committed
      refine ⟨current, found, ?_, ?_⟩
      · exact (congrArg Prod.fst same).symm
      · exact (congrArg Prod.snd same).symm

@[simp] theorem record_journal (store : Store) (entry : Entry) :
    (store.record entry).journal = entry :: store.journal := rfl

/-! ## Sweeps -/

def expiredWindow (now : Time) (row : Grievance) : Bool :=
  row.status = .pendingWindow && row.windowExpiresAt.any (· ≤ now)

def stuckDispatching (row : Grievance) : Bool :=
  row.status = .dispatching && row.dispatchAttempts < maxDispatchAttempts

def stuckProcessing (olderThan : Time) (row : Grievance) : Bool :=
  (row.status = .draft || row.status = .processing) &&
    row.updatedAt < olderThan

/-- `SELECT id ... LIMIT`: any rows that pass the test, as many as the limit
admits. -/
def Selects (store : Store) (test : Grievance → Bool) (limit : Nat)
    (ids : List String) : Prop :=
  ids.Nodup ∧ ids.length = min limit (store.grievances.count fun _ => test) ∧
    ∀ id ∈ ids, id ∈ store.grievances.select fun _ => test

instance (store : Store) (test : Grievance → Bool) (limit : Nat)
    (ids : List String) : Decidable (store.Selects test limit ids) :=
  inferInstanceAs (Decidable (_ ∧ _ ∧ _))

theorem Selects.passes {store : Store} {test : Grievance → Bool}
    {limit : Nat} {ids : List String} {id : String}
    (selects : store.Selects test limit ids) (member : id ∈ ids) :
    ∃ row, store.grievances.find id = some row ∧ test row = true :=
  Table.mem_select.mp (selects.2.2 id member)

theorem status_of_selected {test : Grievance → Bool} {now : Time}
    {row : Grievance}
    (which : test = expiredWindow now ∨ test = stuckDispatching)
    (passes : test row = true) :
    row.status = .pendingWindow ∨ row.status = .dispatching := by
  rcases which with rfl | rfl
  · rw [expiredWindow, Bool.and_eq_true, decide_eq_true_eq] at passes
    exact .inl passes.1
  · rw [stuckDispatching, Bool.and_eq_true, decide_eq_true_eq] at passes
    exact .inr passes.1

end Store

/-! ## New drafts -/

/-- What `create_draft_grievance` reads of a conversation's context. -/
structure DraftContext where
  lat : Option ℚ
  lon : Option ℚ
  displayAddress : Option String
  messages : List IssueMessage
  photoMediaId : Option String
deriving DecidableEq

def humanId (now : Time) (sequence : Nat) : String :=
  "JS-" ++ yyyymmdd now ++ "-" ++ padded 5 sequence

/-- The row that `create_draft_grievance` inserts. -/
def draftGrievance (humanId contactId : String)
    (conversationId userId : Option String) (source : Source)
    (context : DraftContext) (now : Time) : Grievance :=
  { humanId := humanId
    contactId := contactId
    conversationId := conversationId
    userId := userId
    source := source
    locationLatitude := context.lat
    locationLongitude := context.lon
    locationAddress := context.displayAddress
    issueMessages := context.messages
    issueText := none
    sourceLanguage := none
    photoMediaId := context.photoMediaId
    photoPath := none
    pdfPath := none
    status := .draft
    category := none
    departmentKey := none
    priority := none
    term := none
    confidence := none
    imageMatchStatus := none
    flags := []
    reportCount := 1
    duplicateOfId := none
    windowExpiresAt := none
    dispatchRef := none
    dispatchAttempts := 0
    draftedAt := some now
    confirmedAt := none
    taxonomyVersion := none
    categoryId := none
    aggregationKey := none
    jurisdictionId := none
    safetyLevel := none
    assetScope := none
    disposition := none
    reviewStatus := none
    policyVersion := none
    routingSnapshot := none
    structuredFacts := none
    transcriptMetadata := []
    stateVersion := 0
    updatedAt := now }

end JanSetu.Pipeline
