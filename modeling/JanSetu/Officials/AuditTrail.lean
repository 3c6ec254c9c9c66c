import JanSetu.Officials.Console
import JanSetu.Pipeline.Dispatchers

/-!
# The audit trail of officials

The login page promises that access to evidence is audited.  Whatever an
official was sent by the endpoints of a single case has an audit row of its
own, committed before, and whatever an official has changed has one that tells
the change.  A page of the queue has none; it shows cases in scope and nothing
else.
-/

namespace JanSetu.Officials

open Process (Label)
open Transition.System (Always)

/-- The official has shown a token, is active and has one of the roles. -/
structure Entitled (decode : String → Time → Option String)
    (officialId : String) (official : OfficialUser) : Prop where
  token : ∃ token now, decode token now = some officialId
  active : official.active = true
  role : official.role ∈ officialRoles

/-- The case is in the scope of the official, who is no auditor if the case is
changed. -/
structure Permitted (endpoint : Endpoint) (official : OfficialUser)
    (read : Case) : Prop where
  scope : officialCanAccess official read.grievance = true
  writer : ∀ request, endpoint = .action request → official.role ≠ "auditor"

/-- The audit row of what was sent. -/
def Sent.Covers (sent : Sent) (event : AuditEvent) : Prop :=
  event.id = sent.auditId ∧ event.officialUserId = sent.officialId ∧
    event.grievanceId = some sent.grievanceId ∧
    event.action = sent.endpoint.auditAction

/-- The page is of an official who was entitled to it, and of cases in the
scope of that official. -/
structure Page.InScope (decode : String → Time → Option String)
    (page : Page) : Prop where
  entitled : Entitled decode page.officialId page.official
  scope : ∀ row ∈ page.rows,
    officialCanAccess page.official row.grievance = true

structure Sent.Recorded (decode : String → Time → Option String)
    (audits : List AuditEvent) (sent : Sent) : Prop where
  entitled : Entitled decode sent.officialId sent.official
  permitted : Permitted sent.endpoint sent.official sent.read
  covered : ∃ event ∈ audits, sent.Covers event

/-- Nothing but the fields of the action is changed, and the version is
raised. -/
structure ActionChange (decision : Pipeline.OfficialDecision)
    (before after : QueueItem) : Prop where
  version : after.stateVersion = before.stateVersion + 1
  review : after.reviewStatus =
    some (Pipeline.OfficialAction.reviewStatus decision)
  redirected : decision = .redirect → after.disposition = some .redirect
  routing : ∃ snapshot, after.routing = some snapshot ∧
    after.categoryId = some snapshot.categoryId ∧
    after.departmentKey = some snapshot.departmentKey ∧
    after.disposition = some snapshot.disposition
  same : after =
    { before with
      reviewStatus := after.reviewStatus
      categoryId := after.categoryId
      categoryLabel := after.categoryLabel
      domain := after.domain
      departmentKey := after.departmentKey
      priority := after.priority
      safetyLevel := after.safetyLevel
      disposition := after.disposition
      routing := after.routing
      stateVersion := after.stateVersion }

/-- The audit row tells the change of an action. -/
def AuditEvent.Tells (event : AuditEvent) : Prop :=
  ∀ decision, event.action = actionName decision →
    ∃ before after, event.before = some before ∧ event.after = some after ∧
      event.reason.isSome = true ∧ ActionChange decision before after

/-- An audit row of a case is of an official who was entitled and permitted to
what it says. -/
def AuditEvent.Attested (decode : String → Time → Option String)
    (event : AuditEvent) : Prop :=
  ∀ id, event.grievanceId = some id →
    ∃ sent : Sent, sent.Covers event ∧
      Entitled decode sent.officialId sent.official ∧
      Permitted sent.endpoint sent.official sent.read

section

variable {decode : String → Time → Option String}
  {store after : ConsoleStore} {choice : ConsoleChoice}

/-! ## What the checks say -/

theorem ConsoleStore.requireOfficial_entitled {authorization : Option String}
    {now : Time} {officialId : String} {official : OfficialUser}
    (found : store.requireOfficial decode authorization now =
      some (officialId, official)) :
    Entitled decode officialId official := by
  unfold ConsoleStore.requireOfficial at found
  split at found
  case h_1 => cases found
  case h_2 token _ =>
    split at found
    case h_1 => cases found
    case h_2 decoded =>
      split at found
      case h_1 => cases found
      case h_2 =>
        split at found
        case isFalse => cases found
        case isTrue fit =>
          cases found
          exact ⟨⟨token, now, decoded⟩, fit.1, fit.2⟩

theorem Endpoint.accepts_permitted {endpoint : Endpoint}
    {official : OfficialUser} {row : Case} {isFile : Bool}
    (accepts : endpoint.accepts official row isFile = true) :
    Permitted endpoint official row := by
  unfold Endpoint.accepts at accepts
  obtain ⟨scope, checks⟩ := (Bool.and_eq_true _ _).mp accepts
  refine ⟨scope, ?_⟩
  intro request same
  subst same
  obtain ⟨writer, _⟩ := (Bool.and_eq_true _ _).mp checks
  exact of_decide_eq_true writer

/-- An accepted action names a category. -/
theorem Endpoint.accepts_category {request : ActionRequest}
    {official : OfficialUser} {row : Case} {isFile : Bool}
    (accepts : (Endpoint.action request).accepts official row isFile = true) :
    ∃ categoryKey, canonicalCategoryKey
      (Pipeline.chosenCategory request.body.categoryId row.grievance) =
        some categoryKey := by
  unfold Endpoint.accepts at accepts
  obtain ⟨_, checks⟩ := (Bool.and_eq_true _ _).mp accepts
  obtain ⟨_, category⟩ := (Bool.and_eq_true _ _).mp checks
  exact Option.isSome_iff_exists.mp category

theorem actionName_inj {one two : Pipeline.OfficialDecision}
    (same : actionName one = actionName two) : one = two := by
  cases one <;> cases two <;> first | rfl | (revert same; decide)

theorem ne_actionName {name : String}
    (other : name ∉
      ["approve", "correct", "redirect", "reject", "request_clarification"])
    (decision : Pipeline.OfficialDecision) : name ≠ actionName decision := by
  rintro rfl
  apply other
  cases decision <;> decide

/-- An action is the only call that is recorded as one. -/
theorem Endpoint.auditAction_eq {endpoint : Endpoint}
    {decision : Pipeline.OfficialDecision}
    (same : endpoint.auditAction = actionName decision) :
    ∃ request, endpoint = .action request ∧ request.body.action = decision := by
  cases endpoint with
  | grievance => exact absurd same (ne_actionName (by decide) decision)
  | action request => exact ⟨request, rfl, actionName_inj same⟩
  | photo => exact absurd same (ne_actionName (by decide) decision)

/-- The session of an accepted action knows the new fields. -/
theorem ActionRequest.flush_known {request : ActionRequest} {read : Case}
    {categoryKey : String} (current : Case) (now : Time)
    (category : canonicalCategoryKey
      (Pipeline.chosenCategory request.body.categoryId read.grievance) =
        some categoryKey) :
    (request.flush read current now).known =
      { Pipeline.OfficialAction.fields request.body categoryKey
          read.grievance with updatedAt := now } := by
  have different : Pipeline.OfficialAction.fields request.body categoryKey
      read.grievance ≠ read.grievance := by
    intro same
    have version := congrArg Grievance.stateVersion same
    exact absurd version (Nat.succ_ne_self _)
  unfold ActionRequest.flush
  rw [category]
  dsimp only
  unfold RowSession.set
  dsimp only
  rw [if_neg different]

theorem ActionRequest.change {request : ActionRequest} {categoryKey : String}
    {read : Case} {known : Grievance} {now : Time} (id : String)
    (knows : known =
      { Pipeline.OfficialAction.fields request.body categoryKey
          read.grievance with updatedAt := now }) :
    ActionChange request.body.action (queueItem id read)
      (queueItem id { read with grievance := known }) := by
  subst knows
  constructor
  · rfl
  · rfl
  · intro redirects
    unfold queueItem Pipeline.OfficialAction.fields
    dsimp only
    rw [if_pos redirects]
  · exact ⟨_, rfl, rfl, rfl, rfl⟩
  · rfl

theorem Call.audit_fields (call : Call) (auditId officialId : String)
    (read after : Case) :
    let event := call.audit auditId officialId read after
    event.id = auditId ∧ event.officialUserId = officialId ∧
      event.grievanceId = some call.grievanceId ∧
      event.action = call.endpoint.auditAction := by
  unfold Call.audit
  cases call.endpoint with
  | grievance => exact ⟨rfl, rfl, rfl, rfl⟩
  | action request => exact ⟨rfl, rfl, rfl, rfl⟩
  | photo => exact ⟨rfl, rfl, rfl, rfl⟩

/-- The audit row of a call covers what the call sends. -/
theorem Call.audit_covers (call : Call) (auditId officialId : String)
    (official : OfficialUser) (read after : Case) :
    Sent.Covers
      { auditId := auditId, officialId := officialId, official := official
        grievanceId := call.grievanceId, endpoint := call.endpoint
        read := read }
      (call.audit auditId officialId read after) :=
  call.audit_fields auditId officialId read after

/-! ## What a step does -/

/-- A step commits an audit row, with a change of its case if it is an action,
or leaves the audit rows alone. -/
inductive ConsoleHandler.Moves (decode : String → Time → Option String)
    (store : ConsoleStore) (choice : ConsoleChoice) :
    ConsoleHandler → ConsoleStore → Option ConsoleHandler → Prop where
  | ends {handler : ConsoleHandler} :
      Moves decode store choice handler store none
  | knows {call : Call} {officialId : String} {official : OfficialUser} :
      Entitled decode officialId official →
      Moves decode store choice (.authenticating call) store
        (some (.loading call officialId official))
  | reads {call : Call} {officialId : String} {official : OfficialUser}
      {row : Case} {isFile : Bool} :
      store.cases.find call.grievanceId = some row →
      call.endpoint.accepts official row isFile = true →
      Moves decode store choice (.loading call officialId official) store
        (some (.committing call officialId official row))
  | commits {call : Call} {auditId officialId : String}
      {official : OfficialUser} {read current : Case} :
      auditId ∉ store.audits.map (·.id) →
      store.cases.find call.grievanceId = some current →
      Moves decode store choice (.committing call officialId official read)
        (store.commitCall call auditId officialId read current choice.now)
        (some (.answering
          { auditId := auditId, officialId := officialId
            official := official, grievanceId := call.grievanceId
            endpoint := call.endpoint, read := read }))
  | verifies {auditId officialId : String} :
      auditId ∉ store.audits.map (·.id) →
      Moves decode store choice (.verifying officialId)
        { store with audits := loginAudit auditId officialId :: store.audits }
        none
  | answers {sent : Sent} :
      Moves decode store choice (.answering sent)
        { store with sent := sent :: store.sent } none
  | queues {call : QueueCall} {officialId : String}
      {official : OfficialUser} :
      Entitled decode officialId official →
      Moves decode store choice (.queueing call) store
        (some (.listing call officialId official))
  | lists {call : QueueCall} {officialId : String} {official : OfficialUser}
      {rows : List StoredGrievance} :
      (∀ row ∈ rows, officialCanAccess official row.grievance = true) →
      Moves decode store choice (.listing call officialId official) store
        (some (.showing
          { officialId := officialId, official := official, rows := rows }))
  | shows {page : Page} :
      Moves decode store choice (.showing page)
        { store with pages := page :: store.pages } none
  | writes {grievanceId : String} {row : Case} :
      Moves decode store choice (.writing grievanceId row)
        { store with cases := store.cases.put grievanceId row } none
  | administers {officialId : String} {row : OfficialUser} :
      Moves decode store choice (.administering officialId row)
        { store with officials := store.officials.put officialId row } none

theorem ConsoleHandler.resume_moves {handler : ConsoleHandler}
    {next : Option ConsoleHandler}
    (resumed : handler.resume decode store choice = some (after, next)) :
    handler.Moves decode store choice after next := by
  unfold ConsoleHandler.resume at resumed
  split at resumed
  case h_1 =>
    split at resumed
    case h_1 =>
      cases resumed
      exact .ends
    case h_2 found =>
      cases resumed
      exact .knows (ConsoleStore.requireOfficial_entitled found)
  case h_2 =>
    split at resumed
    case h_1 =>
      cases resumed
      exact .ends
    case h_2 found =>
      split at resumed
      case isTrue accepts =>
        cases resumed
        exact .reads found accepts
      case isFalse =>
        cases resumed
        exact .ends
  case h_3 =>
    split at resumed
    case h_1 =>
      cases resumed
      exact .ends
    case h_2 found =>
      split at resumed
      case isTrue => cases resumed
      case isFalse fresh =>
        cases resumed
        exact .commits fresh found
  case h_4 =>
    cases resumed
    exact .answers
  case h_5 =>
    split at resumed
    case h_1 =>
      cases resumed
      exact .ends
    case h_2 found =>
      cases resumed
      exact .queues (ConsoleStore.requireOfficial_entitled found)
  case h_6 =>
    cases resumed
    exact .lists fun row listed => (listed_accessible listed).2
  case h_7 =>
    cases resumed
    exact .shows
  case h_8 =>
    split at resumed
    case isTrue => cases resumed
    case isFalse fresh =>
      cases resumed
      exact .verifies fresh
  case h_9 =>
    cases resumed
    exact .writes
  case h_10 =>
    cases resumed
    exact .administers
  case h_11 =>
    cases resumed
    exact .ends
  case h_12 => cases resumed

theorem ConsoleStore.commitCall_audits (store : ConsoleStore) (call : Call)
    (auditId officialId : String) (read current : Case) (now : Time) :
    ∃ known, (store.commitCall call auditId officialId read current
        now).audits =
      call.audit auditId officialId read known :: store.audits ∧
      ∀ request, call.endpoint = .action request →
        known = { read with
          grievance := (request.flush read current now).known } := by
  unfold ConsoleStore.commitCall
  cases endpoint : call.endpoint with
  | grievance => exact ⟨read, rfl, fun _ same => by cases same⟩
  | action request => exact ⟨_, rfl, fun _ same => by cases same; rfl⟩
  | photo => exact ⟨read, rfl, fun _ same => by cases same⟩

theorem ConsoleStore.commitCall_sent (store : ConsoleStore) (call : Call)
    (auditId officialId : String) (read current : Case) (now : Time) :
    (store.commitCall call auditId officialId read current now).sent =
      store.sent := by
  unfold ConsoleStore.commitCall
  cases call.endpoint <;> rfl

theorem ConsoleStore.commitCall_pages (store : ConsoleStore) (call : Call)
    (auditId officialId : String) (read current : Case) (now : Time) :
    (store.commitCall call auditId officialId read current now).pages =
      store.pages := by
  unfold ConsoleStore.commitCall
  cases call.endpoint <;> rfl

/-! ## The invariant -/

/-- What a handler has found out. -/
def ConsoleHandler.Knows (decode : String → Time → Option String)
    (store : ConsoleStore) : ConsoleHandler → Prop
  | .loading _ officialId official => Entitled decode officialId official
  | .committing call officialId official read =>
      Entitled decode officialId official ∧
        Permitted call.endpoint official read ∧
        ∀ request, call.endpoint = .action request →
          ∃ categoryKey, canonicalCategoryKey
            (Pipeline.chosenCategory request.body.categoryId read.grievance) =
              some categoryKey
  | .answering sent =>
      sent.Recorded decode store.audits ∧
        sent.auditId ∉ store.sent.map (·.auditId)
  | .listing _ officialId official => Entitled decode officialId official
  | .showing page => page.InScope decode
  | _ => True

structure ConsoleStore.Trail (decode : String → Time → Option String)
    (store : ConsoleStore) : Prop where
  audits : (store.audits.map (·.id)).Nodup
  sent : (store.sent.map (·.auditId)).Nodup
  recorded : ∀ sent ∈ store.sent, sent.Recorded decode store.audits
  attested : ∀ event ∈ store.audits, event.Attested decode
  tells : ∀ event ∈ store.audits, event.Tells
  pages : ∀ page ∈ store.pages, page.InScope decode

/-- Two requests that are about to answer have audit rows of their own. -/
def ConsoleHandler.Distinct (left right : ConsoleHandler) : Prop :=
  ∀ one two, left = .answering one → right = .answering two →
    one.auditId ≠ two.auditId

def auditTrail (decode : String → Time → Option String) :
    Process.Invariant ConsoleStore ConsoleHandler :=
  { shared := fun store => store.Trail decode
    own := fun store handler => handler.Knows decode store
    pair := fun left right => left.Distinct right }

theorem Sent.Recorded.id_mem {audits : List AuditEvent} {sent : Sent}
    (recorded : sent.Recorded decode audits) :
    sent.auditId ∈ audits.map (·.id) := by
  obtain ⟨event, member, same, _⟩ := recorded.covered
  rw [← same]
  exact List.mem_map_of_mem member

theorem Sent.Recorded.mono {audits : List AuditEvent} {sent : Sent}
    (recorded : sent.Recorded decode audits) (event : AuditEvent) :
    sent.Recorded decode (event :: audits) := by
  obtain ⟨found, member, covers⟩ := recorded.covered
  exact ⟨recorded.entitled, recorded.permitted, found,
    List.mem_cons_of_mem _ member, covers⟩

/-- The audit rows of a step are those before it, or one more. -/
theorem ConsoleHandler.Moves.audits {handler : ConsoleHandler}
    {next : Option ConsoleHandler}
    (moves : handler.Moves decode store choice after next) :
    after.audits = store.audits ∨
      ∃ event, after.audits = event :: store.audits ∧
        after.sent = store.sent := by
  cases moves with
  | ends => exact .inl rfl
  | knows => exact .inl rfl
  | reads => exact .inl rfl
  | commits =>
      obtain ⟨known, audits, _⟩ :=
        store.commitCall_audits _ _ _ _ _ choice.now
      exact .inr ⟨_, audits, ConsoleStore.commitCall_sent _ _ _ _ _ _ _⟩
  | verifies => exact .inr ⟨_, rfl, rfl⟩
  | answers => exact .inl rfl
  | queues => exact .inl rfl
  | lists => exact .inl rfl
  | shows => exact .inl rfl
  | writes => exact .inl rfl
  | administers => exact .inl rfl

theorem ConsoleHandler.Moves.trail {handler : ConsoleHandler}
    {next : Option ConsoleHandler}
    (moves : handler.Moves decode store choice after next)
    (knows : handler.Knows decode store) (trail : store.Trail decode) :
    after.Trail decode := by
  cases moves with
  | ends => exact trail
  | knows => exact trail
  | reads => exact trail
  | @commits call auditId officialId official read current fresh _ =>
      obtain ⟨known, audits, flushed⟩ :=
        store.commitCall_audits call auditId officialId read current choice.now
      have sent := store.commitCall_sent call auditId officialId read current
        choice.now
      have covers := call.audit_covers auditId officialId official read known
      constructor
      · rw [audits, List.map_cons, List.nodup_cons, covers.1]
        exact ⟨fresh, trail.audits⟩
      · rw [sent]
        exact trail.sent
      · rw [audits, sent]
        exact fun one member => (trail.recorded one member).mono _
      · rw [audits]
        intro event member
        rcases List.mem_cons.mp member with rfl | old
        · exact fun _ _ => ⟨_, covers, knows.1, knows.2.1⟩
        · exact trail.attested event old
      · rw [audits]
        intro event member
        rcases List.mem_cons.mp member with rfl | old
        · intro decision named
          obtain ⟨request, endpoint, rfl⟩ :=
            Endpoint.auditAction_eq (covers.2.2.2.symm.trans named)
          dsimp only at endpoint
          obtain ⟨categoryKey, category⟩ := knows.2.2 request endpoint
          have change := ActionRequest.change call.grievanceId
            (request.flush_known current choice.now category)
          rw [flushed request endpoint]
          unfold Call.audit
          rw [endpoint]
          exact ⟨_, _, rfl, rfl, rfl, change⟩
        · exact trail.tells event old
      · rw [store.commitCall_pages]
        exact trail.pages
  | @verifies auditId officialId fresh =>
      constructor
      · exact List.nodup_cons.mpr ⟨fresh, trail.audits⟩
      · exact trail.sent
      · exact fun one member => (trail.recorded one member).mono _
      · intro event member
        rcases List.mem_cons.mp member with rfl | old
        · intro id same
          cases same
        · exact trail.attested event old
      · intro event member
        rcases List.mem_cons.mp member with rfl | old
        · intro decision named
          have other : "login" ≠ actionName decision :=
            ne_actionName (by decide) decision
          exact absurd named other
        · exact trail.tells event old
      · exact trail.pages
  | @answers sent =>
      obtain ⟨recorded, unsent⟩ := knows
      constructor
      · exact trail.audits
      · exact List.nodup_cons.mpr ⟨unsent, trail.sent⟩
      · intro one member
        rcases List.mem_cons.mp member with rfl | old
        · exact recorded
        · exact trail.recorded one old
      · exact trail.attested
      · exact trail.tells
      · exact trail.pages
  | queues => exact trail
  | lists => exact trail
  | shows =>
      refine ⟨trail.audits, trail.sent, trail.recorded, trail.attested,
        trail.tells, ?_⟩
      intro page member
      rcases List.mem_cons.mp member with rfl | old
      · exact knows
      · exact trail.pages page old
  | writes =>
      exact ⟨trail.audits, trail.sent, trail.recorded, trail.attested,
        trail.tells, trail.pages⟩
  | administers =>
      exact ⟨trail.audits, trail.sent, trail.recorded, trail.attested,
        trail.tells, trail.pages⟩

theorem Sent.Recorded.later {handler : ConsoleHandler}
    {next : Option ConsoleHandler} {sent : Sent}
    (recorded : sent.Recorded decode store.audits)
    (moves : handler.Moves decode store choice after next) :
    sent.Recorded decode after.audits := by
  rcases moves.audits with same | ⟨event, more, _⟩
  · rw [same]
    exact recorded
  · rw [more]
    exact recorded.mono event

/-- The audit ids of what has been sent after a step. -/
theorem ConsoleHandler.Moves.sent {handler : ConsoleHandler}
    {next : Option ConsoleHandler}
    (moves : handler.Moves decode store choice after next) :
    after.sent = store.sent ∨
      ∃ sent, handler = .answering sent ∧ after.sent = sent :: store.sent := by
  cases moves with
  | ends => exact .inl rfl
  | knows => exact .inl rfl
  | reads => exact .inl rfl
  | commits => exact .inl (ConsoleStore.commitCall_sent _ _ _ _ _ _ _)
  | verifies => exact .inl rfl
  | answers => exact .inr ⟨_, rfl, rfl⟩
  | queues => exact .inl rfl
  | lists => exact .inl rfl
  | shows => exact .inl rfl
  | writes => exact .inl rfl
  | administers => exact .inl rfl

/-- What a handler has found out stays true while another one takes a step. -/
theorem ConsoleHandler.Knows.later {handler other : ConsoleHandler}
    {next : Option ConsoleHandler} (knows : other.Knows decode store)
    (moves : handler.Moves decode store choice after next)
    (distinct : handler.Distinct other) : other.Knows decode after := by
  cases other with
  | authenticating => trivial
  | loading => exact knows
  | committing => exact knows
  | answering sent =>
      obtain ⟨recorded, unsent⟩ := knows
      refine ⟨recorded.later moves, ?_⟩
      rcases moves.sent with same | ⟨one, is, more⟩
      · rw [same]
        exact unsent
      · rw [more, List.map_cons, List.mem_cons, not_or]
        exact ⟨(distinct one sent is rfl).symm, unsent⟩
  | queueing => trivial
  | listing => exact knows
  | showing => exact knows
  | verifying => trivial
  | writing => trivial
  | administering => trivial

/-- The handler after a step knows what the step has found out. -/
theorem ConsoleHandler.Moves.arrives {handler next : ConsoleHandler}
    (moves : handler.Moves decode store choice after (some next))
    (knew : handler.Knows decode store) (trail : store.Trail decode) :
    next.Knows decode after := by
  cases moves with
  | knows entitled => exact entitled
  | queues entitled => exact entitled
  | lists scope => exact ⟨knew, scope⟩
  | reads found accepts =>
      refine ⟨knew, Endpoint.accepts_permitted accepts, ?_⟩
      intro request is
      rw [is] at accepts
      exact Endpoint.accepts_category accepts
  | @commits call auditId officialId official read current fresh _ =>
      obtain ⟨entitled, permitted, _⟩ := knew
      obtain ⟨known, audits, _⟩ :=
        store.commitCall_audits call auditId officialId read current choice.now
      have unsent : auditId ∉ store.sent.map (·.auditId) := by
        intro member
        obtain ⟨sent, old, same⟩ := List.mem_map.mp member
        rw [← same] at fresh
        exact fresh (trail.recorded sent old).id_mem
      refine ⟨⟨entitled, permitted, ?_⟩, ?_⟩
      · rw [audits]
        exact ⟨_, List.mem_cons_self, call.audit_covers auditId officialId
          official read known⟩
      · rw [store.commitCall_sent]
        exact unsent

/-- The audit row of a step is not the one of a handler about to answer. -/
theorem ConsoleHandler.Moves.distinct {handler next other : ConsoleHandler}
    (moves : handler.Moves decode store choice after (some next))
    (knows : other.Knows decode store) :
    next.Distinct other ∧ other.Distinct next := by
  have apart : ∀ one two, next = .answering one → other = .answering two →
      one.auditId ≠ two.auditId := by
    intro one two isNext isOther same
    subst isNext isOther
    cases moves with
    | @commits call auditId officialId official read current fresh _ =>
        have isTwo : auditId = two.auditId := same
        apply fresh
        rw [isTwo]
        exact knows.1.id_mem
  exact ⟨apart, fun two one isOther isNext same =>
    apart one two isNext isOther same.symm⟩

theorem auditTrail_holds {world : World ConsoleStore ConsoleHandler}
    (reachable : (consoleProgram decode).system.Reachable world) :
    (auditTrail decode).Holds world := by
  refine Process.Invariant.holds ?_ ?_ ?_ ?_ reachable
  · rintro store ⟨noAudits, noneSent, noPages⟩
    constructor <;> simp [noAudits, noneSent, noPages]
  · intro world pid request _ holding _
    have idle : ∀ store, (ConsoleHandler.start request).Knows decode store := by
      intro store
      cases request <;> trivial
    have starts : ∀ sent, ConsoleHandler.start request ≠ .answering sent := by
      intro sent is
      cases request <;> cases is
    refine ⟨idle _, ?_⟩
    intro other right _ _
    exact ⟨fun one _ is _ => absurd is (starts one),
      fun _ two _ is => absurd is (starts two)⟩
  · intro world pid choice handler after next _ holding _ running resumed
    obtain ⟨trail, own, pairs⟩ := holding
    have moves := ConsoleHandler.resume_moves resumed
    have knew := own pid handler running
    refine ⟨moves.trail knew trail, ?_, ?_⟩
    · intro other found different runningOther
      exact (own other found runningOther).later moves
        (pairs pid other handler found (Ne.symm different) running runningOther)
    · intro later is
      subst is
      refine ⟨moves.arrives knew trail, ?_⟩
      intro other found different runningOther
      exact moves.distinct (own other found runningOther)
  · intro world pid handler _ holding _ _
    obtain ⟨trail, own, _⟩ := holding
    exact ⟨trail, fun other found _ runningOther =>
      own other found runningOther⟩

/-- A supervisor with one token, and one case that waits for review. -/
def reviewedCase : Case :=
  { createdAt := 0
    grievance :=
      { Pipeline.reviewedGrievance with
        jurisdictionId := some "delhi"
        photoPath := some "uploads/g/photo.jpg"
        reviewStatus := some .pendingOfficial } }

def supervisor : OfficialUser :=
  { email := "supervisor@example.org", name := "Supervisor"
    role := "supervisor", jurisdictionId := "delhi", departmentKeys := []
    active := true, lastLoginAt := none }

def supervisedStore : ConsoleStore :=
  { officials := .ofList [("o", supervisor)]
    cases := .ofList [("g", reviewedCase)]
    audits := []
    sent := []
    pages := [] }

def decodeSupervisor (token : String) (now : Time) : Option String :=
  if token = "token" ∧ now < hours 1 then some "o" else none

def reviewCall (endpoint : Endpoint) : ConsoleRequest :=
  .call
    { authorization := some "Bearer token", grievanceId := "g"
      endpoint := endpoint, requestId := "r" }

/-- A call that finds the official and the case. -/
def served (auditId : String) : List ConsoleChoice :=
  [⟨1, .plain true⟩, ⟨2, .plain true⟩, ⟨3, .drawn auditId⟩, ⟨4, .plain true⟩]

def approval : ActionRequest :=
  { body :=
      { action := .approve, categoryId := none, assetScope := none
        safetyLevel := none, departmentKey := some "water" }
    reason := "Seen on site"
    minLength := by decide
    maxLength := by decide }

/-- The audit row is of an action on the case. -/
def AuditEvent.Changes (event : AuditEvent) (id : String) : Prop :=
  event.grievanceId = some id ∧ ∃ decision, event.action = actionName decision

/-- The audit rows, the newest first, lead the case from what it was to what it
is: each of its actions took it as the one before had left it. -/
inductive Leads (id : String) (start : QueueItem) :
    List AuditEvent → QueueItem → Prop where
  | start : Leads id start [] start
  | other {event : AuditEvent} {newer : List AuditEvent} {now : QueueItem} :
      ¬ event.Changes id → Leads id start newer now →
      Leads id start (event :: newer) now
  | change {event : AuditEvent} {newer : List AuditEvent}
      {before after : QueueItem} :
      event.Changes id → event.before = some before →
      event.after = some after → Leads id start newer before →
      Leads id start (event :: newer) after

theorem Leads.append {id : String} {start middle final : QueueItem}
    {older newer : List AuditEvent} (first : Leads id start older middle)
    (second : Leads id middle newer final) :
    Leads id start (newer ++ older) final := by
  induction second with
  | start => exact first
  | other unrelated _ induction => exact .other unrelated induction
  | change changes before after _ induction =>
      exact .change changes before after induction

/-- Nothing but actions changes the case, and an action changes it as it has
read it. -/
def SteadyCase (id : String) (world : World ConsoleStore ConsoleHandler)
    (label : Label ConsoleRequest ConsoleChoice) : Prop :=
  ∀ pid choice, label = .resume pid choice →
    (∀ row, ¬ world.Running pid (.writing id row)) ∧
    ∀ call request officialId official read,
      world.Running pid (.committing call officialId official read) →
      call.endpoint = .action request → call.grievanceId = id →
      world.shared.cases.find id = some read

/-- What is on record of a case between two states of the console. -/
def OnRecord (id : String) (store after : ConsoleStore) : Prop :=
  ∀ row, store.cases.find id = some row →
    ∃ newer later, after.audits = newer ++ store.audits ∧
      after.cases.find id = some later ∧
      Leads id (queueItem id row) newer (queueItem id later)

theorem OnRecord.of_same {id : String} (audits : after.audits = store.audits)
    (found : after.cases.find id = store.cases.find id) :
    OnRecord id store after := by
  intro row is
  exact ⟨[], row, audits, found.trans is, .start⟩

theorem OnRecord.trans {id : String} {later : ConsoleStore}
    (first : OnRecord id store after) (second : OnRecord id after later) :
    OnRecord id store later := by
  intro row found
  obtain ⟨older, middle, olderAudits, middleFound, olderLeads⟩ :=
    first row found
  obtain ⟨newer, final, newerAudits, finalFound, newerLeads⟩ :=
    second middle middleFound
  refine ⟨newer ++ older, final, ?_, finalFound, olderLeads.append newerLeads⟩
  rw [newerAudits, olderAudits, List.append_assoc]

/-- The session of an action over the row it has read knows what it wrote. -/
theorem ActionRequest.flush_alone (request : ActionRequest) (read : Case)
    (now : Time) :
    (request.flush read read now).known =
      (request.flush read read now).current := by
  unfold ActionRequest.flush
  split
  · rfl
  · exact Pipeline.set_known _ _ _

theorem Call.audit_changes {call : Call} {auditId officialId id : String}
    {read after : Case}
    (changes : (call.audit auditId officialId read after).Changes id) :
    call.grievanceId = id ∧ ∃ request, call.endpoint = .action request := by
  obtain ⟨sameId, decision, named⟩ := changes
  obtain ⟨_, _, grievance, action⟩ :=
    call.audit_fields auditId officialId read after
  obtain ⟨request, endpoint, _⟩ :=
    Endpoint.auditAction_eq (action.symm.trans named)
  exact ⟨Option.some.inj (grievance.symm.trans sameId), request, endpoint⟩

/-- The transaction of an action over the row it has read. -/
theorem ConsoleStore.commitCall_action {call : Call} {request : ActionRequest}
    (endpoint : call.endpoint = .action request) (auditId officialId : String)
    (read : Case) (now : Time) :
    ∃ later event,
      (store.commitCall call auditId officialId read read now).audits =
        event :: store.audits ∧
      (store.commitCall call auditId officialId read read now).cases =
        store.cases.put call.grievanceId later ∧
      event.Changes call.grievanceId ∧
      event.before = some (queueItem call.grievanceId read) ∧
      event.after = some (queueItem call.grievanceId later) := by
  have alone := request.flush_alone read now
  unfold ConsoleStore.commitCall Call.audit
  rw [endpoint]
  dsimp only
  rw [alone]
  exact ⟨_, _, rfl, rfl, ⟨rfl, request.body.action, rfl⟩, rfl, rfl⟩

/-- The transaction of a call leaves every other case alone, and its own if it
is no action. -/
theorem ConsoleStore.commitCall_others {call : Call} {id : String}
    (other : ¬ (call.grievanceId = id ∧
      ∃ request, call.endpoint = .action request))
    (auditId officialId : String) (read current : Case) (now : Time) :
    (store.commitCall call auditId officialId read current now).cases.find id =
      store.cases.find id := by
  unfold ConsoleStore.commitCall
  split
  case h_1 request endpoint =>
    apply Table.find_put_of_ne
    intro same
    exact other ⟨same.symm, request, endpoint⟩
  case h_2 => rfl

/-- What the transaction of a call puts on record of a case. -/
theorem ConsoleStore.commitCall_onRecord {call : Call} {id : String}
    {read current : Case} (auditId officialId : String) (now : Time)
    (found : store.cases.find call.grievanceId = some current)
    (steady : ∀ request, call.endpoint = .action request →
      call.grievanceId = id → store.cases.find id = some read) :
    OnRecord id store
      (store.commitCall call auditId officialId read current now) := by
  intro row is
  by_cases changes : call.grievanceId = id ∧
      ∃ request, call.endpoint = .action request
  · obtain ⟨rfl, request, endpoint⟩ := changes
    cases (steady request endpoint rfl).symm.trans is
    cases found.symm.trans is
    obtain ⟨later, event, audits, written, changes, before, after⟩ :=
      store.commitCall_action endpoint auditId officialId read now
    refine ⟨[event], later, audits, ?_, .change changes before after .start⟩
    rw [written]
    exact Table.find_put_self _ _ _
  · obtain ⟨known, audits, _⟩ :=
      store.commitCall_audits call auditId officialId read current now
    refine ⟨[_], row, audits, ?_, .other (changes ∘ Call.audit_changes) .start⟩
    rw [store.commitCall_others changes]
    exact is

theorem ConsoleHandler.Moves.onRecord {handler : ConsoleHandler}
    {next : Option ConsoleHandler} {id : String}
    (moves : handler.Moves decode store choice after next)
    (unwritten : ∀ row, handler ≠ .writing id row)
    (steady : ∀ call request officialId official read,
      handler = .committing call officialId official read →
      call.endpoint = .action request → call.grievanceId = id →
      store.cases.find id = some read) :
    OnRecord id store after := by
  cases moves with
  | ends => exact .of_same rfl rfl
  | knows => exact .of_same rfl rfl
  | reads => exact .of_same rfl rfl
  | @commits call auditId officialId official read current _ found =>
      exact ConsoleStore.commitCall_onRecord auditId officialId choice.now found
        fun request endpoint same =>
          steady call request officialId official read rfl endpoint same
  | @verifies auditId officialId _ =>
      intro row is
      have unrelated : ¬ (loginAudit auditId officialId).Changes id := by
        rintro ⟨same, _⟩
        cases same
      exact ⟨[_], row, rfl, is, .other unrelated .start⟩
  | answers => exact .of_same rfl rfl
  | queues => exact .of_same rfl rfl
  | lists => exact .of_same rfl rfl
  | shows => exact .of_same rfl rfl
  | @writes grievanceId row =>
      refine .of_same rfl (Table.find_put_of_ne _ _ ?_)
      rintro rfl
      exact unwritten row rfl
  | administers => exact .of_same rfl rfl

theorem onRecord_of_step {world next : World ConsoleStore ConsoleHandler}
    {label : Label ConsoleRequest ConsoleChoice} {id : String}
    (steady : SteadyCase id world label)
    (taken : (consoleProgram decode).step world label = some next) :
    OnRecord id world.shared next.shared := by
  rcases Process.Program.step_cases taken with
    ⟨pid, request, rfl, _, rfl⟩ |
    ⟨pid, choice, handler, after, following, rfl, running, resumed, rfl⟩ |
    ⟨pid, handler, rfl, running, rfl⟩
  · exact .of_same rfl rfl
  · obtain ⟨unwritten, steady⟩ := steady pid choice rfl
    refine (ConsoleHandler.resume_moves resumed).onRecord ?_ ?_
    · rintro row rfl
      exact unwritten row running
    · rintro call request officialId official read rfl
      exact steady call request officialId official read running
  · exact .of_same rfl rfl

/-- As long as nothing but actions changes a case, and each action changes it
as it has read it, the audit rows tell how it came to be what it is. -/
theorem case_on_record {world final : World ConsoleStore ConsoleHandler}
    {labels : List (Label ConsoleRequest ConsoleChoice)} {id : String}
    {row : Case}
    (reachable : (consoleProgram decode).system.Reachable world)
    (runs : (consoleProgram decode).system.RunWhen (SteadyCase id) world labels
      final)
    (found : world.shared.cases.find id = some row) :
    ∃ newer later, final.shared.audits = newer ++ world.shared.audits ∧
      final.shared.cases.find id = some later ∧
      Leads id (queueItem id row) newer (queueItem id later) ∧
      ∀ event ∈ newer, event.Tells := by
  have reached : (consoleProgram decode).system.Reachable final :=
    reachable.run (runs.mono fun _ _ _ => trivial)
  have recorded : OnRecord id world.shared final.shared := by
    clear found reached reachable
    induction runs with
    | nil => exact .of_same rfl rfl
    | cons steady taken _ induction =>
        exact (onRecord_of_step steady taken).trans induction
  obtain ⟨newer, later, audits, is, leads⟩ := recorded row found
  refine ⟨newer, later, audits, is, leads, ?_⟩
  intro event member
  apply (auditTrail_holds reached).1.tells
  rw [audits]
  exact List.mem_append_left _ member

end

/-- The test of `SteadyCase` for a process that is alone. -/
def steadyAlone (id : String) (store : ConsoleStore) :
    ConsoleHandler → ConsoleChoice → Bool
  | .writing other _, _ => other ≠ id
  | .committing call _ _ read, _ =>
      call.grievanceId ≠ id || store.cases.find id = some read
  | _, _ => true

theorem steadyCase_of_alone {id : String}
    {world : World ConsoleStore ConsoleHandler} {handler : ConsoleHandler}
    {choice : ConsoleChoice}
    (only : Process.OnlyRunning world 0 (some handler))
    (steady : steadyAlone id world.shared handler choice = true) :
    SteadyCase id world (.resume 0 choice) := by
  intro pid other same
  cases same
  constructor
  · intro row running
    obtain ⟨_, rfl⟩ := only.eq_of_running running
    exact of_decide_eq_true steady rfl
  · intro call request officialId official read running _ sameId
    obtain ⟨_, rfl⟩ := only.eq_of_running running
    unfold steadyAlone at steady
    rcases (Bool.or_eq_true _ _).mp steady with different | found
    · exact absurd sameId (of_decide_eq_true different)
    · exact of_decide_eq_true found

theorem case_on_record_approved :
    ∃ world final labels row later,
      (consoleProgram decodeSupervisor).system.Reachable world ∧
      (consoleProgram decodeSupervisor).system.RunWhen (SteadyCase "g") world
        labels final ∧
      world.shared.cases.find "g" = some row ∧
      final.shared.cases.find "g" = some later ∧
      row.grievance.reviewStatus = some .pendingOfficial ∧
      later.grievance.reviewStatus = some .approved ∧
      ∃ newer, final.shared.audits = newer ++ world.shared.audits ∧
        Leads "g" (queueItem "g" row) newer (queueItem "g" later) ∧
        ∀ event ∈ newer, event.Tells := by
  have ran : (((consoleProgram decodeSupervisor).serial (steadyAlone "g")
      supervisedStore [(reviewCall .grievance, served "a1")]).bind fun middle =>
      ((consoleProgram decodeSupervisor).serial (steadyAlone "g") middle
        [(reviewCall (.action approval), served "a2"),
         (reviewCall .photo, served "a3")]).map fun final =>
        ((middle.cases.find "g").map (·.grievance.reviewStatus),
         (final.cases.find "g").map (·.grievance.reviewStatus))) =
      some (some (some .pendingOfficial), some (some .approved)) := by
    decide +kernel
  have initial : (consoleProgram decodeSupervisor).initial supervisedStore :=
    ⟨rfl, rfl, rfl⟩
  have spawns : ∀ world request, SteadyCase "g" world (.spawn 0 request) := by
    intro world request pid choice same
    cases same
  obtain ⟨world, final, labels, reached, runs, _, before, after⟩ :=
    Process.Program.runs_serial initial
      (fun world request _ _ => spawns world request)
      (fun _ _ _ => steadyCase_of_alone) ran
  have reachable : (consoleProgram decodeSupervisor).system.Reachable world :=
    reached.mono fun _ _ _ _ => trivial
  obtain ⟨row, found, pending⟩ := Option.map_eq_some_iff.mp before
  obtain ⟨newer, later, audits, is, leads, tells⟩ :=
    case_on_record reachable runs found
  rw [is] at after
  exact ⟨world, final, labels, row, later, reachable, runs, found, is, pending,
    Option.some.inj after, newer, audits, leads, tells⟩

end JanSetu.Officials
