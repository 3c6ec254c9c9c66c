import JanSetu.Auth.Challenge
import JanSetu.Auth.Writes

/-!
# Login approvals

Every step of every process is a move of every challenge.  With what a handler
knows of the message it decides on, the safety of the challenge automaton
carries over to all runs of the login processes.
-/

namespace JanSetu.Auth

open Process (Label)

variable {sha256 : String → String} {parseUuid : String → Option String}
  {challengeId : String}

/-! ## Every step is a move -/

/-- What a handler knows about the message it decides on. -/
def Handler.Parsed (parseUuid : String → Option String) (store : Store) :
    Handler → Prop
  | .decide contactId message approves challengeId verifier =>
      store.contacts.find message.waId = some contactId ∧
      Python.truthy message.contextMessageId = true ∧
      ∃ button challengeText,
        parseLoginApprovalId message.replyId =
          some (button, challengeText, verifier) ∧
        parseUuid challengeText = some challengeId ∧
        (approves = true ↔ button = loginApprovalYes)
  | _ => True

/-- A step that maps the rows, and closes those it changes, is a move. -/
theorem Challenge.Move.of_map {store after : Store}
    {change : LoginApprovalChallenge → LoginApprovalChallenge}
    (rows : after.approvals.find challengeId =
      (store.approvals.find challengeId).map change)
    (decisions : after.decisions = store.decisions)
    (issues : after.approvalIssues = store.approvalIssues)
    (closes : ∀ row, change row = row ∨ (change row).Agrees row ∧
      ((change row).status = .superseded ∨ (change row).status = .fallback)) :
    Challenge.Move sha256 parseUuid challengeId
      (store.challenge challengeId) (after.challenge challengeId) := by
  have same : after.challenge challengeId =
      { store.challenge challengeId with
        row := (store.approvals.find challengeId).map change } := by
    simp [Store.challenge, rows, decisions, issues]
  rw [same]
  cases found : store.approvals.find challengeId with
  | none =>
      have unchanged : { store.challenge challengeId with
          row := Option.map change none } = store.challenge challengeId := by
        simp [Store.challenge, found]
      rw [unchanged]
      exact .rest _
  | some row =>
      have present : (store.challenge challengeId).row = some row := found
      rcases closes row with kept | ⟨agrees, closed⟩
      · have unchanged : { store.challenge challengeId with
            row := Option.map change (some row) } =
              store.challenge challengeId := by
          simp [Store.challenge, found, kept]
        rw [unchanged]
        exact .rest _
      · exact .close present agrees closed

theorem Challenge.Move.of_same {store after : Store}
    (approvals : after.approvals = store.approvals)
    (decisions : after.decisions = store.decisions)
    (issues : after.approvalIssues = store.approvalIssues) :
    Challenge.Move sha256 parseUuid challengeId
      (store.challenge challengeId) (after.challenge challengeId) := by
  have rows : after.approvals.find challengeId =
      (store.approvals.find challengeId).map id := by
    simp [approvals]
  exact .of_map rows decisions issues (by simp)

theorem close_agrees (row : LoginApprovalChallenge) (status : ApprovalStatus)
    (now : Time) :
    { row with status := status, decidedAt := some now }.Agrees row :=
  ⟨rfl, rfl, rfl, rfl, rfl, rfl, rfl⟩

namespace Store

variable {settings : Settings} {store after : Store}
  {next : Option Handler} {now : Time}

theorem createApproval_move {phone userId contactId browserNonce : String}
    {pending : List String} {created messageId verifier : String}
    (result : store.createApproval settings sha256 phone userId contactId
      browserNonce pending now created messageId verifier =
        some (after, next)) :
    Challenge.Move sha256 parseUuid challengeId
      (store.challenge challengeId) (after.challenge challengeId) := by
  rcases createApproval_eq result with
    ⟨rfl, _⟩ | ⟨unused, ⟨approvals, messages, prompt, rfl, rows, _⟩, _⟩
  · exact .rest _
  by_cases same : challengeId = created
  · subst same
    have born : Store.challenge
        { store with
          approvals := approvals, messages := messages
          openings := store.openings.put challengeId
            { userId := userId, contactId := contactId, phone := phone
              browserNonce := browserNonce, verifier := verifier
              promptId := messageId, openedAt := now } } challengeId =
        { store.challenge challengeId with
          row := some { newChallenge settings sha256 phone userId contactId
              browserNonce verifier now with
            approvalOutboundMessageId := prompt } } := by
      simp [challenge, rows]
    rw [born]
    exact .create unused rfl
  · apply Challenge.Move.of_map
    · simpa [same] using rows challengeId
    · rfl
    · rfl
    · intro row
      by_cases seen : challengeId ∈ pending ∧ row.status = .pending
      · right
        simpa [seen] using close_agrees row .superseded now
      · left
        simp [seen]

theorem insertCode_move {phone : String} {unsent : Option String}
    {verificationId code : String}
    (result : store.insertCode settings sha256 phone unsent now verificationId
      code = some after) :
    Challenge.Move sha256 parseUuid challengeId
      (store.challenge challengeId) (after.challenge challengeId) := by
  obtain ⟨_, approvals, rfl, rows⟩ := insertCode_eq result
  apply Challenge.Move.of_map
  · exact rows challengeId
  · rfl
  · rfl
  · intro row
    by_cases fell : unsent = some challengeId ∧ row.status = .pending
    · right
      simpa [fell] using close_agrees row .fallback now
    · left
      simp [fell]

/-- The unconditional write closes the challenge whatever its row says. -/
theorem blockPrompt_move (messageId : String) (claimed : WhatsAppMessage)
    (blocked : String) :
    Challenge.Move sha256 parseUuid challengeId
      (store.challenge challengeId)
      ((store.blockPrompt messageId claimed blocked now).challenge
        challengeId) := by
  obtain ⟨messages, held, approvals, changed, rows⟩ :=
    blockPrompt_eq store messageId claimed blocked now
  rw [changed]
  apply Challenge.Move.of_map
  · exact rows challengeId
  · rfl
  · rfl
  · intro row
    by_cases same : challengeId = blocked
    · right
      simpa [same] using close_agrees row .fallback now
    · left
      simp [same]

theorem decide_move {contactId : String} {message : IncomingMessage}
    {approves : Bool} {decided verifier messageId : String}
    (parsed : Handler.Parsed parseUuid store
      (.decide contactId message approves decided verifier))
    (result : store.decide sha256 contactId message approves decided verifier
      now messageId = some after) :
    Challenge.Move sha256 parseUuid challengeId
      (store.challenge challengeId) (after.challenge challengeId) := by
  obtain ⟨sender, context, button, challengeText, reply, uuid, approving⟩ :=
    parsed
  rcases decide_eq result with
    ⟨messages, held, consumptions, rfl⟩ |
    ⟨row, promptId, prompt, messages, held, consumptions, found, pending,
      unexpired, verifierHash, contact, phone, recorded, ⟨_, refers⟩, rfl⟩
  · exact .of_same rfl rfl rfl
  · let decision : Decision :=
      { challengeId := decided, approves := approves, verifier := verifier
        message := message, contactId := contactId, promptId := promptId
        prompt := prompt, decidedAt := now }
    let row' := decidedRow row approves message.metaMessageId now
    by_cases same : challengeId = decided
    · subst same
      have refersTo : message.contextMessageId = prompt.metaMessageId := by
        cases given : message.contextMessageId with
        | none => simp [given, Python.truthy] at context
        | some text => simp [refers, given]
      have settles : decision.Settles sha256 parseUuid challengeId row :=
        { beforeExpiry := unexpired
          reply := ⟨button, challengeText, reply, uuid, approving⟩
          verifier := verifierHash.symm
          contact := contact.symm
          phone := phone.symm
          prompt := recorded
          context := refersTo }
      have present : (store.challenge challengeId).row = some row := found
      have moved : Challenge.Move sha256 parseUuid challengeId
          (store.challenge challengeId)
          { store.challenge challengeId with
            row := some row'
            decisions := decision ::
              (store.challenge challengeId).decisions } :=
        .decide present pending settles ⟨rfl, rfl, rfl, rfl, rfl, rfl, rfl⟩
          rfl
      simpa [challenge, decision] using moved
    · have untouched : Store.challenge
          { store with
            approvals := store.approvals.put decided row'
            decisions := decision :: store.decisions
            messages := messages, heldContacts := held
            consumptions := consumptions
            inbound := message :: store.inbound } challengeId =
            store.challenge challengeId := by
        simp [challenge, decision, Table.find_put_of_ne _ _ same,
          Ne.symm same]
      rw [untouched]
      exact .rest _

theorem issueForApproval_move {consumed browserNonce : String} :
    Challenge.Move sha256 parseUuid challengeId
      (store.challenge challengeId)
      ((store.issueForApproval sha256 consumed browserNonce now).challenge
        challengeId) := by
  rcases store.issueForApproval_eq consumed browserNonce now with
    unspent | ⟨row, found, approved, unexpired, nonce, issued⟩
  · rw [unspent]
    exact .rest _
  · rw [issued]
    let issue : ApprovalIssue :=
      { challengeId := consumed, browserNonce := browserNonce
        userId := row.userId, issuedAt := now }
    by_cases same : challengeId = consumed
    · subst same
      have present : (store.challenge challengeId).row = some row := found
      have earned : issue.EarnedBy sha256 row :=
        { beforeExpiry := unexpired
          nonce := nonce.symm
          user := rfl }
      have moved : Challenge.Move sha256 parseUuid challengeId
          (store.challenge challengeId)
          { store.challenge challengeId with
            row := some { row with
              status := .consumed, consumedAt := some now }
            issues := issue :: (store.challenge challengeId).issues } :=
        .consume present approved earned ⟨rfl, rfl, rfl, rfl, rfl, rfl, rfl⟩
          rfl
      simpa [challenge, issue] using moved
    · have untouched : Store.challenge
          { store with
            approvals := store.approvals.put consumed
              { row with status := .consumed, consumedAt := some now }
            approvalIssues := issue :: store.approvalIssues } challengeId =
            store.challenge challengeId := by
        simp [challenge, issue, Table.find_put_of_ne _ _ same, Ne.symm same]
      exact untouched ▸ .rest _

end Store

/-- Every step of a handler that has parsed what it decides on is a move of
every challenge. -/
theorem Handler.resume_move {settings : Settings} {store after : Store}
    {handler : Handler} {choice : Choice} {next : Option Handler}
    (parsed : handler.Parsed parseUuid store)
    (resumed : handler.resume settings sha256 parseUuid store choice =
      some (after, next)) (challengeId : String) :
    Challenge.Move sha256 parseUuid challengeId
      (store.challenge challengeId) (after.challenge challengeId) := by
  cases Handler.resume_writes resumed with
  | rests same => exact same ▸ .rest _
  | asks asked =>
      rw [asked]
      exact .of_same rfl rfl rfl
  | opens created => exact Store.createApproval_move created
  | inserts inserted => exact Store.insertCode_move inserted
  | claims claimed =>
      obtain ⟨⟨_, _, rfl⟩, _⟩ := Store.claimMessage_eq claimed
      exact .of_same rfl rfl rfl
  | blocks blocked =>
      rw [blocked]
      exact Store.blockPrompt_move _ _ _
  | records recorded =>
      obtain ⟨⟨_, rfl⟩, _⟩ := Store.recordSend_eq recorded
      exact .of_same rfl rfl rfl
  | receives received =>
      obtain ⟨_, _, rfl, _⟩ := Store.receive_eq received
      exact .of_same rfl rfl rfl
  | holds held =>
      obtain ⟨⟨_, rfl⟩, _⟩ := Store.handleInbound_eq held
      exact .of_same rfl rfl rfl
  | decides decided => exact Store.decide_move parsed decided
  | verifies verified =>
      obtain ⟨⟨_, _, _, _, rfl, _⟩, _⟩ := Store.verifyCode_eq verified
      exact .of_same rfl rfl rfl
  | marks marked =>
      rcases Store.markVerified_eq marked with
        ⟨_, rfl⟩ | ⟨_, _, _, _, _, rfl, _⟩
      · exact .of_same rfl rfl rfl
      · exact .of_same rfl rfl rfl
  | @redeems verificationId userId now redeemed =>
      rw [redeemed]
      rcases store.issueForVerification_eq verificationId userId now with
        same | ⟨_, _, _, issued⟩
      · rw [same]
        exact .rest _
      · rw [issued]
        exact .of_same rfl rfl rfl
  | signsIn signed =>
      rw [signed]
      exact Store.issueForApproval_move

/-! ## What a step adds -/

/-- The step opens and decides no challenge, and keeps the contacts and the
requests. -/
structure Store.Quiet (store after : Store) : Prop where
  contacts : after.contacts = store.contacts
  requests : after.requests = store.requests
  openings : after.openings = store.openings
  decisions : after.decisions = store.decisions
  unborn : ∀ key, store.approvals.find key = none →
    after.approvals.find key = none

section

variable (settings : Settings) (sha256 : String → String)
  (store after : Store)

/-- A step by what it adds to the tables behind a challenge. -/
inductive Handler.Effect : Handler → Prop where
  | quiet (handler : Handler) :
      store.Quiet after → Handler.Effect handler
  | asks (body : RequestCode) :
      after = { store with requests := body :: store.requests } →
      Handler.Effect (.requestCode body)
  | opens {phone userId contactId browserNonce : String}
      {pending : List String} {now : Time}
      {challengeId messageId verifier : String} {next : Option Handler} :
      store.createApproval settings sha256 phone userId contactId browserNonce
        pending now challengeId messageId verifier = some (after, next) →
      Handler.Effect
        (.createApproval phone userId contactId browserNonce pending)
  | receives {message : IncomingMessage} {id : String} :
      store.receive message id = some after →
      Handler.Effect (.storeIncoming message)
  | decides {contactId : String} {message : IncomingMessage}
      {approves : Bool} {challengeId verifier messageId : String}
      {now : Time} :
      store.decide sha256 contactId message approves challengeId verifier now
        messageId = some after →
      Handler.Effect (.decide contactId message approves challengeId verifier)

end

section

variable {settings : Settings} {store after : Store} {handler : Handler}
  {choice : Choice} {next : Option Handler}

theorem Store.Quiet.of_same (contacts : after.contacts = store.contacts)
    (requests : after.requests = store.requests)
    (openings : after.openings = store.openings)
    (decisions : after.decisions = store.decisions)
    (approvals : after.approvals = store.approvals) : store.Quiet after := by
  refine ⟨contacts, requests, openings, decisions, ?_⟩
  rw [approvals]
  exact fun _ absent => absent

theorem Store.insertCode_quiet {phone : String} {unsent : Option String}
    {now : Time} {verificationId code : String}
    (result : store.insertCode settings sha256 phone unsent now verificationId
      code = some after) : store.Quiet after := by
  obtain ⟨_, approvals, rfl, rows⟩ := Store.insertCode_eq result
  refine ⟨rfl, rfl, rfl, rfl, ?_⟩
  intro key absent
  rw [rows, absent, Option.map_none]

theorem Store.blockPrompt_quiet (store : Store) (messageId : String)
    (claimed : WhatsAppMessage) (challengeId : String) (now : Time) :
    store.Quiet (store.blockPrompt messageId claimed challengeId now) := by
  obtain ⟨_, _, approvals, changed, rows⟩ :=
    store.blockPrompt_eq messageId claimed challengeId now
  rw [changed]
  refine ⟨rfl, rfl, rfl, rfl, ?_⟩
  intro key absent
  rw [rows, absent, Option.map_none]

theorem Store.issueForVerification_quiet (store : Store)
    (verificationId userId : String) (now : Time) :
    store.Quiet (store.issueForVerification verificationId userId now) := by
  rcases store.issueForVerification_eq verificationId userId now with
    same | ⟨_, _, _, issued⟩
  · rw [same]
    exact .of_same rfl rfl rfl rfl rfl
  · rw [issued]
    exact .of_same rfl rfl rfl rfl rfl

theorem Store.issueForApproval_quiet (store : Store)
    (challengeId browserNonce : String) (now : Time) :
    store.Quiet
      (store.issueForApproval sha256 challengeId browserNonce now) := by
  rcases store.issueForApproval_eq challengeId browserNonce now with
    same | ⟨_, found, _, _, _, issued⟩
  · rw [same]
    exact .of_same rfl rfl rfl rfl rfl
  · rw [issued]
    refine ⟨rfl, rfl, rfl, rfl, ?_⟩
    intro key absent
    have different : key ≠ challengeId := by
      rintro rfl
      rw [found] at absent
      cases absent
    rw [Table.find_put_of_ne _ _ different, absent]

theorem Store.markVerified_quiet {contactId : String}
    {message : IncomingMessage} {verificationId id : String} {now : Time}
    (result : store.markVerified contactId message verificationId now id =
      some after) : store.Quiet after := by
  rcases Store.markVerified_eq result with ⟨_, rfl⟩ |
    ⟨_, _, _, _, _, rfl, _⟩
  · exact .of_same rfl rfl rfl rfl rfl
  · exact .of_same rfl rfl rfl rfl rfl

/-- Everything a step can add. -/
theorem Handler.resume_effect
    (resumed : handler.resume settings sha256 parseUuid store choice =
      some (after, next)) :
    handler.Effect settings sha256 store after := by
  cases Handler.resume_writes resumed with
  | rests same =>
      rw [same]
      exact .quiet _ (.of_same rfl rfl rfl rfl rfl)
  | asks asked => exact .asks _ asked
  | opens created => exact .opens created
  | inserts inserted => exact .quiet _ (Store.insertCode_quiet inserted)
  | claims claimed =>
      obtain ⟨⟨_, _, rfl⟩, _⟩ := Store.claimMessage_eq claimed
      exact .quiet _ (.of_same rfl rfl rfl rfl rfl)
  | blocks blocked =>
      rw [blocked]
      exact .quiet _ (store.blockPrompt_quiet _ _ _ _)
  | records recorded =>
      obtain ⟨⟨_, rfl⟩, _⟩ := Store.recordSend_eq recorded
      exact .quiet _ (.of_same rfl rfl rfl rfl rfl)
  | receives received => exact .receives received
  | holds held =>
      obtain ⟨⟨_, rfl⟩, _⟩ := Store.handleInbound_eq held
      exact .quiet _ (.of_same rfl rfl rfl rfl rfl)
  | decides decided => exact .decides decided
  | verifies verified =>
      obtain ⟨⟨_, _, _, _, rfl, _⟩, _⟩ := Store.verifyCode_eq verified
      exact .quiet _ (.of_same rfl rfl rfl rfl rfl)
  | marks marked => exact .quiet _ (Store.markVerified_quiet marked)
  | redeems redeemed =>
      rw [redeemed]
      exact .quiet _ (store.issueForVerification_quiet _ _ _)
  | signsIn signed =>
      rw [signed]
      exact .quiet _ (store.issueForApproval_quiet _ _ _)

/-- A contact row keeps its id. -/
theorem Handler.Effect.contacts
    (effect : handler.Effect settings sha256 store after)
    {waId contactId : String}
    (found : store.contacts.find waId = some contactId) :
    after.contacts.find waId = some contactId := by
  cases effect with
  | quiet _ quiet => rw [quiet.contacts, found]
  | asks _ same => rw [same, found]
  | opens created =>
      rcases Store.createApproval_eq created with
        ⟨rfl, _⟩ | ⟨_, ⟨_, _, _, rfl, _⟩, _⟩
      · exact found
      · exact found
  | receives received =>
      obtain ⟨_, _, rfl, ids⟩ := Store.receive_eq received
      exact ids waId contactId found
  | decides decided =>
      rcases Store.decide_eq decided with
        ⟨_, _, _, rfl⟩ | ⟨_, _, _, _, _, _, _, _, _, _, _, _, _, _, rfl⟩
      · exact found
      · exact found

/-- A decision that is added came from the contact of its sender. -/
theorem Handler.Effect.decisions
    (effect : handler.Effect settings sha256 store after)
    (parsed : handler.Parsed parseUuid store) {decision : Decision}
    (member : decision ∈ after.decisions) :
    decision ∈ store.decisions ∨
      store.contacts.find decision.message.waId =
        some decision.contactId := by
  cases effect with
  | quiet _ quiet => exact .inl (quiet.decisions ▸ member)
  | asks _ same => exact .inl (by rwa [same] at member)
  | opens created =>
      rcases Store.createApproval_eq created with
        ⟨rfl, _⟩ | ⟨_, ⟨_, _, _, rfl, _⟩, _⟩
      · exact .inl member
      · exact .inl member
  | receives received =>
      obtain ⟨_, _, rfl, _⟩ := Store.receive_eq received
      exact .inl member
  | decides decided =>
      rcases Store.decide_eq decided with
        ⟨_, _, _, rfl⟩ | ⟨_, _, _, _, _, _, _, _, _, _, _, _, _, _, rfl⟩
      · exact .inl member
      · rcases List.mem_cons.mp member with rfl | before
        · exact .inr parsed.1
        · exact .inl before

/-- A handler that decides comes from the first step of an inbound message,
which has parsed the button. -/
theorem Handler.resume_parsed {following : Handler}
    (resumed : handler.resume settings sha256 parseUuid store choice =
      some (after, some following)) :
    following.Parsed parseUuid after := by
  cases Handler.resume_follows resumed with
  | replied contact reply uuid context =>
      exact ⟨contact, context, _, _, reply, uuid, by simp⟩
  | _ => trivial

end

/-! ## Runs -/

theorem Handler.Parsed.carry {store after : Store} {handler : Handler}
    (parsed : handler.Parsed parseUuid store)
    (contacts : ∀ waId contactId, store.contacts.find waId = some contactId →
      after.contacts.find waId = some contactId) :
    handler.Parsed parseUuid after := by
  cases handler
  case decide => exact ⟨contacts _ _ parsed.1, parsed.2⟩
  all_goals trivial

def approvalInvariant (sha256 : String → String)
    (parseUuid : String → Option String) : Process.Invariant Store Handler :=
  { shared := fun store =>
      (∀ challengeId,
        (store.challenge challengeId).Sound sha256 parseUuid challengeId) ∧
      ∀ decision ∈ store.decisions,
        store.contacts.find decision.message.waId = some decision.contactId
    own := fun store handler => handler.Parsed parseUuid store
    pair := fun _ _ => True }

section

variable {settings : Settings} {world next : World Store Handler}

theorem initial_sound {store : Store} (initial : store.Initial) :
    (approvalInvariant sha256 parseUuid).shared store := by
  have nothing : ∀ challengeId, store.challenge challengeId =
      { row := none, decisions := [], issues := [] } := by
    intro challengeId
    simp [Store.challenge, initial.approvals, initial.decisions,
      initial.approvalIssues]
  constructor
  · intro challengeId
    rw [nothing]
    constructor <;> simp
  · simp [initial.decisions]

theorem approvalInvariant_holds
    (reachable : (login settings sha256 parseUuid).system.Reachable world) :
    (approvalInvariant sha256 parseUuid).Holds world := by
  apply Process.Invariant.holds _ _ _ _ reachable
  · exact fun store initial => initial_sound initial
  · intro world pid request _ holds _
    refine ⟨?_, fun _ _ _ _ => ⟨trivial, trivial⟩⟩
    cases request <;> trivial
  · intro world pid choice handler store after _ holds _ running resumed
    have effect := Handler.resume_effect resumed
    refine ⟨⟨?_, ?_⟩, ?_, ?_⟩
    · intro challengeId
      exact (Handler.resume_move (holds.2.1 pid handler running) resumed
        challengeId).sound (holds.1.1 challengeId)
    · intro decision member
      rcases effect.decisions (holds.2.1 pid handler running) member with
        before | sender
      · exact effect.contacts (holds.1.2 decision before)
      · exact effect.contacts sender
    · intro other process _ found
      have before : process.Parsed parseUuid world.shared :=
        holds.2.1 other process found
      exact before.carry fun _ _ => effect.contacts
    · rintro following rfl
      exact ⟨Handler.resume_parsed resumed,
        fun _ _ _ _ => ⟨trivial, trivial⟩⟩
  · intro world pid handler _ holds _ running
    obtain ⟨_, _, released⟩ := handler.release_eq world.shared
    change (approvalInvariant sha256 parseUuid).shared
      (handler.release world.shared) ∧ (approvalInvariant sha256
        parseUuid).Undisturbed world pid (handler.release world.shared)
    rw [released]
    refine ⟨holds.1, ?_⟩
    intro other process _ found
    have before : process.Parsed parseUuid world.shared :=
      holds.2.1 other process found
    exact before.carry fun _ _ found => found

/-- Every step from a reachable world is a move of every challenge. -/
theorem login_move {label : Label Request Choice}
    (reachable : (login settings sha256 parseUuid).system.Reachable world)
    (taken : (login settings sha256 parseUuid).system.step world label =
      some next) (challengeId : String) :
    Challenge.Move sha256 parseUuid challengeId
      (world.shared.challenge challengeId)
      (next.shared.challenge challengeId) := by
  rcases Process.Program.step_cases taken with
    ⟨_, _, _, _, rfl⟩ |
    ⟨pid, choice, handler, store, after, _, running, resumed, rfl⟩ |
    ⟨_, handler, _, _, rfl⟩
  · exact .rest _
  · exact Handler.resume_move
      ((approvalInvariant_holds reachable).2.1 pid handler running) resumed
      challengeId
  · obtain ⟨_, _, released⟩ := handler.release_eq world.shared
    change Challenge.Move sha256 parseUuid challengeId
      (world.shared.challenge challengeId)
      ((handler.release world.shared).challenge challengeId)
    rw [released]
    exact .of_same rfl rfl rfl

def StaysClosed (challengeId : String) (before after : World Store Handler) :
    Prop :=
  (before.shared.challenge challengeId).Closed →
    (after.shared.challenge challengeId).Closed ∧
      (after.shared.challenge challengeId).issues =
        (before.shared.challenge challengeId).issues

/-- Along every run from a reachable world a closed challenge stays closed. -/
theorem staysClosed_of_run {labels : List (Label Request Choice)}
    (reachable : (login settings sha256 parseUuid).system.Reachable world)
    (runs : (login settings sha256 parseUuid).system.RunWhen
      Transition.System.Always world labels next) :
    StaysClosed challengeId world next := by
  apply runs.relates _ _ _ reachable
  · exact fun _ closed => ⟨closed, rfl⟩
  · intro first second third left right closed
    obtain ⟨between, same⟩ := left closed
    obtain ⟨last, same'⟩ := right between
    exact ⟨last, same'.trans same⟩
  · intro before label after reached _ taken closed
    exact (login_move reached taken challengeId).closed closed

end

/-! ## A linked citizen -/

def defaultSettings : Settings :=
  { verificationMaxPerHour := 3, verificationCodeTtlMinutes := 10
    serviceWindowHours := 24 }

def linkedStore : Store :=
  { contacts := Table.empty.put "919876543210" "contact"
    users := Table.empty.put "user"
      { phone := "919876543210", contactId := some "contact" }
    verifications := .empty
    approvals := .empty
    messages := Table.empty.put "greeting"
      { contactId := "contact", metaMessageId := some "wamid.greeting"
        direction := .incoming, status := .received, replyKind := none
        textBody := some "hello", buttons := [], idempotencyKey := none
        inResponseTo := none, receivedAt := 0, lockedUntil := none
        attemptCount := 0 }
    consumptions := []
    heldContacts := []
    heldMessages := []
    requests := []
    codes := .empty
    openings := .empty
    inbound := []
    decisions := []
    verificationIssues := []
    approvalIssues := [] }

theorem initial_linkedStore : linkedStore.Initial :=
  ⟨rfl, rfl, rfl, rfl, rfl, rfl, rfl, rfl, rfl, rfl, rfl⟩

end JanSetu.Auth
