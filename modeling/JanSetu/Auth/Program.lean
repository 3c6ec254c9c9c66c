import JanSetu.Auth.Store
import JanSetu.Library.Process

/-!
# The processes of a login

`request_code`, `auth_status`, `approval_status`, `send_pending`, and what
`drive_event` and `_handle_inbound` do for a message that signs somebody in,
one process for each call.  A step ends where the others can get in between: at
a commit, at a read whose result is used later, at the call of the Graph API.
A conditional `UPDATE` and the commit that follows it are one step, since the
row is held in between.
-/

namespace JanSetu.Auth

open Process (Program Label)

/-- What `request_code` still has to do after its `send_pending`: the phone and
the challenge of the prompt. -/
abbrev AfterSend := Option (String × String)

inductive Handler where
  | requestCode (body : RequestCode)
  | linkedUser (phone : String) (browserNonce : Option String)
  | supersede (phone userId contactId browserNonce : String)
  | createApproval (phone userId contactId browserNonce : String)
      (pending : List String)
  | countCodes (phone : String) (unsent : Option String)
  | insertCode (phone : String) (unsent : Option String)
  | claimMessage (messageId : String) (after : AfterSend)
  | blockPrompt (messageId : String) (claimed : WhatsAppMessage)
      (challengeId : String) (after : AfterSend)
  | callGraph (messageId : String) (after : AfterSend)
  | storeIncoming (message : IncomingMessage)
  | handleInbound (message : IncomingMessage)
  | decide (contactId : String) (message : IncomingMessage) (approves : Bool)
      (challengeId verifier : String)
  | verifyCode (contactId : String) (message : IncomingMessage)
      (codeText : String)
  | markVerified (contactId : String) (message : IncomingMessage)
      (verificationId : String)
  | authStatus (verificationId : String)
  | consumeVerification (verificationId userId : String)
  | approvalStatus (challengeId browserNonce : String)
  | consumeApproval (challengeId browserNonce : String)
deriving DecidableEq

inductive Request where
  | requestCode (body : RequestCode)
  | sendPending (messageId : String)
  | storeIncoming (message : IncomingMessage)
  | handleInbound (message : IncomingMessage)
  | authStatus (verificationId : String)
  | approvalStatus (challengeId browserNonce : String)
deriving DecidableEq

inductive GraphOutcome where
  | accepted (metaMessageId : Option String)
  | failed
deriving DecidableEq

/-- The clock and the random values of a step. -/
inductive Choice where
  | now (now : Time)
  | fresh (now : Time) (id : String)
  | approval (now : Time) (challengeId messageId verifier : String)
  | code (now : Time) (verificationId code : String)
  | graph (now : Time) (outcome : GraphOutcome)
deriving DecidableEq

def Handler.start : Request → Handler
  | .requestCode body => .requestCode body
  | .sendPending messageId => .claimMessage messageId none
  | .storeIncoming message => .storeIncoming message
  | .handleInbound message => .handleInbound message
  | .authStatus verificationId => .authStatus verificationId
  | .approvalStatus challengeId browserNonce =>
      .approvalStatus challengeId browserNonce

/-- A row whose key is a new uuid. -/
def Unused {Row : Type} (table : Table String Row) (id : String) : Prop :=
  table.find id = none

instance {Row : Type} (table : Table String Row) (id : String) :
    Decidable (Unused table id) :=
  decidable_of_iff ((table.find id).isNone = true) (by simp [Unused])

def verifySuccess : String :=
  "सत्यापन सफल! अब आप जन सेतु वेब ऐप में लॉग इन कर सकते हैं।\n\n" ++
    "Verification successful! You can now log in to the Jan Setu web app."

def verifyInvalid : String :=
  "यह सत्यापन कोड मान्य नहीं है या समाप्त हो गया है। कृपया वेब ऐप से एक नया कोड प्राप्त " ++
    "करें।\n\n" ++
    "This verification code is invalid or has expired. Please request a new one " ++
    "from the web app."

def decisionReply (approves matched : Bool) : String :=
  if matched then
    if approves then
      "Sign-in approved. Return to the browser that requested it."
    else "Sign-in denied. Your Jan Setu account remains protected."
  else "This sign-in request is invalid, expired, or already used."

section

variable (settings : Settings) (sha256 : String → String)
  (parseUuid : String → Option String)

/-! ## `request_code` -/

def Store.requestCode (store : Store) (body : RequestCode) (now : Time) :
    Store × Option Handler :=
  let phone := normalizePhone body.phone
  let since := now - hours 1
  let attempts := store.countRecentVerifications phone since +
    store.countRecentLoginApprovals phone since
  let asked := { store with requests := body :: store.requests }
  if settings.verificationMaxPerHour ≤ attempts then (asked, none)
  else (asked, some (.linkedUser phone body.browserNonce))

def insideWindow (lastInbound : Option Time) (now : Time) : Bool :=
  match lastInbound with
  | none => false
  | some time => now ≤ time + hours settings.serviceWindowHours

def Store.linkedUser (store : Store) (phone : String)
    (browserNonce : Option String) (now : Time) : Store × Option Handler :=
  match store.getLinkedUserByPhone phone, browserNonce with
  | some (userId, contactId), some nonce =>
      if insideWindow settings (store.latestInboundAt contactId) now ∧
          nonce ≠ "" then
        (store, some (.supersede phone userId contactId nonce))
      else (store, some (.countCodes phone none))
  | _, _ => (store, some (.countCodes phone none))

def newChallenge (phone userId contactId browserNonce verifier : String)
    (now : Time) : LoginApprovalChallenge :=
  { userId := userId, contactId := contactId, phone := phone
    verifierHash := hashCode sha256 verifier
    browserNonceHash := hashCode sha256 browserNonce
    status := .pending, requestedAt := now
    expiresAt := now + minutes settings.verificationCodeTtlMinutes
    decidedAt := none, consumedAt := none, decisionMessageId := none
    approvalOutboundMessageId := none }

def promptButtons (challengeId verifier : String) : List (String × String) :=
  [(buildLoginApprovalId loginApprovalYes challengeId verifier,
      "Yes, it's me"),
    (buildLoginApprovalId loginApprovalNo challengeId verifier, "No, deny")]

/-- The transaction that creates a challenge, supersedes the pending ones it
has seen and stores the prompt.  The body of the prompt (browser label and
times) is left out: only its buttons are read again. -/
def Store.createApproval (store : Store)
    (phone userId contactId browserNonce : String) (pending : List String)
    (now : Time) (challengeId messageId verifier : String) :
    Option (Store × Option Handler) :=
  if Unused store.approvals challengeId ∧ Unused store.messages messageId then
    let challenge := newChallenge settings sha256 phone userId contactId
      browserNonce verifier now
    match store.approvals.first fun _ row =>
        row.verifierHash = challenge.verifierHash with
    -- A unique violation: the transaction is rolled back.
    | some _ => some (store, none)
    | none =>
        let opening : Opening :=
          { userId := userId, contactId := contactId, phone := phone
            browserNonce := browserNonce, verifier := verifier
            promptId := messageId, openedAt := now }
        let created :=
          { (store.supersede pending now).insertApproval challengeId
              challenge with
            openings := store.openings.put challengeId opening }
        match created.storeOutgoingPending messageId contactId .loginApproval
            "Approve Jan Setu sign-in?" (promptButtons challengeId verifier)
            ("login-approval:" ++ challengeId) none now with
        | (stored, none) => some (stored, some (.countCodes phone challengeId))
        | (stored, some row) =>
            some (stored.attachApprovalOutbound challengeId row,
              some (.claimMessage row (some (phone, challengeId))))
  else none

/-- `create_verification`: the count, whose failure rolls the fallback back. -/
def Store.countCodes (store : Store) (phone : String)
    (unsent : Option String) (now : Time) : Store × Option Handler :=
  let phone := normalizePhone phone
  if settings.verificationMaxPerHour ≤
      store.countRecentVerifications phone (now - hours 1) then (store, none)
  else (store, some (.insertCode phone unsent))

def Store.insertCode (store : Store) (phone : String)
    (unsent : Option String) (now : Time) (verificationId code : String) :
    Option Store :=
  if Unused store.verifications verificationId then
    let fallen :=
      match unsent with
      | none => store
      | some challengeId => store.markLoginApprovalFallback challengeId now
    some { fallen.createPhoneVerification verificationId phone
        (hashCode sha256 code)
        (now + minutes settings.verificationCodeTtlMinutes) now with
      codes := store.codes.put verificationId code }
  else none

/-! ## `send_pending` -/

/-- What follows a `send_pending` that returned: `request_code` answers when
the prompt was sent and falls back to a code otherwise. -/
def afterSend (after : AfterSend) (sent : Bool) : Option Handler :=
  match after with
  | none => none
  | some (phone, challengeId) =>
      if sent then none else some (.countCodes phone challengeId)

def Store.challengesOf (store : Store) (messageId : String) (now : Time) :
    List String :=
  store.approvals.select fun _ row =>
    row.approvalOutboundMessageId = some messageId &&
      row.status = .pending && now < row.expiresAt

/-- The claim, the gates and, unless the prompt is blocked, their commit. -/
def Store.claimMessage (store : Store) (messageId : String)
    (after : AfterSend) (now : Time) : Option (Store × Option Handler) :=
  if messageId ∈ store.heldMessages then none
  else
    match store.messages.find messageId with
    | none => some (store, afterSend after false)
    | some message =>
        if ¬ message.Claimable now then some (store, afterSend after false)
        else
          let claimed := message.claim now
          if maxSendAttempts < claimed.attemptCount then
            some (store.setMessage messageId (claimed.mark .failed),
              afterSend after false)
          else if message.replyKind ≠ some .loginApproval then
            some (store.setMessage messageId claimed,
              some (.callGraph messageId after))
          else
            match store.challengesOf messageId now with
            | [] =>
                some (store.setMessage messageId (claimed.mark .failed),
                  afterSend after false)
            | [challengeId] =>
                let contact :=
                  (store.approvals.find challengeId).map (·.contactId)
                let last := contact.bind store.latestInboundAt
                if insideWindow settings last now then
                  some (store.setMessage messageId claimed,
                    some (.callGraph messageId after))
                else
                  some ({ store with
                    heldMessages := messageId :: store.heldMessages },
                    some (.blockPrompt messageId claimed challengeId after))
            -- `scalar_one_or_none` raises; the claim is rolled back.
            | _ => some (store, none)

def Store.letGoMessage (store : Store) (messageId : String) : Store :=
  { store with heldMessages := store.heldMessages.filter (· ≠ messageId) }

/-- The commit of a prompt outside the service window. -/
def Store.blockPrompt (store : Store) (messageId : String)
    (claimed : WhatsAppMessage) (challengeId : String) (now : Time) : Store :=
  ((store.letGoMessage messageId).setMessage messageId
    (claimed.mark .blocked24h)).overwriteApprovalFallback challengeId now

/-- The record of what the Graph API answered. -/
def Store.recordSend (store : Store) (messageId : String) (after : AfterSend)
    (outcome : GraphOutcome) : Option (Store × Option Handler) :=
  if messageId ∈ store.heldMessages then none
  else
    match store.messages.find messageId with
    | none => none
    | some message =>
        match outcome with
        | .failed =>
            some (store.setMessage messageId (message.mark .pending),
              afterSend after false)
        | .accepted none =>
            some (store.setMessage messageId (message.mark .sent),
              afterSend after true)
        | .accepted (some metaMessageId) =>
            match store.messages.first fun key row =>
                row.metaMessageId = some metaMessageId &&
                  key ≠ messageId with
            -- A unique violation: the exception leaves the row leased.
            | some _ => some (store, none)
            | none =>
                some (store.setMessage messageId
                  { message.mark .sent with
                    metaMessageId := some metaMessageId },
                  afterSend after true)

/-! ## Inbound messages -/

/-- `store_incoming_messages` for one message, its contact included. -/
def Store.receive (store : Store) (message : IncomingMessage)
    (id : String) : Option Store :=
  match store.contacts.find message.waId with
  | some contactId =>
      if Unused store.messages id then
        some (store.storeIncoming contactId id message)
      else none
  | none =>
      if Unused store.messages id ∧
          store.contacts.select (fun _ contact => contact = id) = [] then
        some ({ store with contacts := store.contacts.put message.waId id }
          |>.storeIncoming id id message)
      else none

/-- The upsert of the contact, whose row is held from here to the end of the
transaction, and the claim of the message.  A message that is neither a login
decision nor a code goes to the conversation and signs nobody in. -/
def Store.handleInbound (store : Store) (message : IncomingMessage) :
    Option (Store × Option Handler) :=
  match store.contacts.find message.waId with
  | none => none
  | some contactId =>
      if contactId ∈ store.heldContacts then none
      else if message.metaMessageId ∈ store.consumptions then
        some (store, none)
      else
        let opened :=
          { store with heldContacts := contactId :: store.heldContacts }
        match parseLoginApprovalId message.replyId,
            Python.truthy message.contextMessageId with
        | some (decision, challengeText, verifier), true =>
            match parseUuid challengeText with
            -- The driver raises on a text that is no uuid.
            | none => some (store, none)
            | some challengeId =>
                some (opened, some (.decide contactId message
                  (decision = loginApprovalYes) challengeId verifier))
        | _, _ =>
            if isVerificationCode message.textBody then
              some (opened, some (.verifyCode contactId message
                (message.textBody.getD "")))
            else some (store, none)

def Store.letGoContact (store : Store) (contactId : String) : Store :=
  { store with heldContacts := store.heldContacts.filter (· ≠ contactId) }

/-- The end of an inbound transaction: the message is consumed and its reply
stored. -/
def Store.answer (store : Store) (contactId : String)
    (message : IncomingMessage) (replyKind : ReplyKind) (reply : String)
    (idempotencyKey : String) (now : Time) (messageId : String) : Store :=
  let answered := (store.storeOutgoingPending messageId contactId replyKind
    reply [] idempotencyKey (some message.metaMessageId) now).1
  { answered.letGoContact contactId with
    consumptions := message.metaMessageId :: answered.consumptions
    inbound := message :: answered.inbound }

def Store.decide (store : Store) (contactId : String)
    (message : IncomingMessage) (approves : Bool)
    (challengeId verifier : String) (now : Time) (messageId : String) :
    Option Store :=
  if Unused store.messages messageId then
    match store.decideLoginApproval challengeId (hashCode sha256 verifier)
        contactId message.waId (message.contextMessageId.getD "")
        message.metaMessageId approves now with
    | none =>
        some (store.answer contactId message .loginApprovalDecision
          (decisionReply approves false)
          ("login-decision:" ++ message.metaMessageId) now messageId)
    | some (decided, promptId, prompt) =>
        let decision : Decision :=
          { challengeId := challengeId, approves := approves
            verifier := verifier, message := message, contactId := contactId
            promptId := promptId, prompt := prompt, decidedAt := now }
        some ({ decided with decisions := decision :: decided.decisions }
          |>.answer contactId message .loginApprovalDecision
            (decisionReply approves true)
            ("login-decision:" ++ message.metaMessageId) now messageId)
  else none

/-- `verify_code_from_whatsapp` up to its comparison of the phone. -/
def Store.verifyCode (store : Store) (contactId : String)
    (message : IncomingMessage) (codeText : String) (now : Time)
    (messageId : String) : Option (Store × Option Handler) :=
  if Unused store.messages messageId then
    let refused :=
      store.answer contactId message .verifyCode verifyInvalid
        ("verify:" ++ message.metaMessageId) now messageId
    match store.findPendingVerificationByCodeHash
        (hashCode sha256 codeText) now with
    | [] => some (refused, none)
    | [verificationId] =>
        match store.verifications.find verificationId with
        | none => none
        | some verification =>
            if verification.phone = normalizePhone message.waId then
              some (store,
                some (.markVerified contactId message verificationId))
            else some (refused, none)
    -- `scalar_one_or_none` raises.
    | _ => some (store.letGoContact contactId, none)
  else none

def Store.markVerified (store : Store) (contactId : String)
    (message : IncomingMessage) (verificationId : String) (now : Time)
    (id : String) : Option Store :=
  if Unused store.users id ∧ Unused store.messages id then
    match store.upsertUserForVerifiedPhone (normalizePhone message.waId)
        contactId id with
    | none => some (store.letGoContact contactId)
    | some (upserted, userId) =>
        some ((upserted.markVerificationVerified verificationId userId now
          ).answer contactId message .verifyCode verifySuccess
            ("verify:" ++ message.metaMessageId) now id)
  else none

/-! ## Polls -/

def Store.authStatus (store : Store) (verificationId : String)
    (now : Time) : Store × Option Handler :=
  match store.verifications.find verificationId with
  | none => (store, none)
  | some verification =>
      match verification.pollStatus now, verification.userId with
      | none, some userId =>
          (store, some (.consumeVerification verificationId userId))
      | _, _ => (store, none)

def Store.issueForVerification (store : Store)
    (verificationId userId : String) (now : Time) : Store :=
  match store.consumeVerification verificationId with
  | none => store
  | some consumed =>
      let issue : VerificationIssue :=
        { verificationId := verificationId, userId := userId, issuedAt := now }
      { consumed with
        verificationIssues := issue :: consumed.verificationIssues }

def Store.approvalStatus (store : Store) (challengeId browserNonce : String)
    (now : Time) : Store × Option Handler :=
  match store.getLoginApproval challengeId (hashCode sha256 browserNonce) with
  | none => (store, none)
  | some challenge =>
      match challenge.pollStatus now with
      | some _ => (store, none)
      | none => (store, some (.consumeApproval challengeId browserNonce))

def Store.issueForApproval (store : Store) (challengeId browserNonce : String)
    (now : Time) : Store :=
  match store.consumeLoginApproval challengeId (hashCode sha256 browserNonce)
      now with
  | none => store
  | some (consumed, userId) =>
      let issue : ApprovalIssue :=
        { challengeId := challengeId, browserNonce := browserNonce
          userId := userId, issuedAt := now }
      { consumed with approvalIssues := issue :: consumed.approvalIssues }

/-! ## The program -/

def Handler.resume (store : Store) :
    Handler → Choice → Option (Store × Option Handler)
  | .requestCode body, .now now =>
      some (store.requestCode settings body now)
  | .linkedUser phone browserNonce, .now now =>
      some (store.linkedUser settings phone browserNonce now)
  | .supersede phone userId contactId browserNonce, .now _ =>
      some (store, some (.createApproval phone userId contactId browserNonce
        (store.pendingApprovalsOf userId)))
  | .createApproval phone userId contactId browserNonce pending,
      .approval now challengeId messageId verifier =>
      store.createApproval settings sha256 phone userId contactId browserNonce
        pending now challengeId messageId verifier
  | .countCodes phone unsent, .now now =>
      some (store.countCodes settings phone unsent now)
  | .insertCode phone unsent, .code now verificationId code =>
      (store.insertCode settings sha256 phone unsent now verificationId
        code).map fun after => (after, none)
  | .claimMessage messageId after, .now now =>
      store.claimMessage settings messageId after now
  | .blockPrompt messageId claimed challengeId after, .now now =>
      some (store.blockPrompt messageId claimed challengeId now,
        afterSend after false)
  | .callGraph messageId after, .graph _ outcome =>
      store.recordSend messageId after outcome
  | .storeIncoming message, .fresh _ id =>
      (store.receive message id).map fun after => (after, none)
  | .handleInbound message, .now _ =>
      store.handleInbound parseUuid message
  | .decide contactId message approves challengeId verifier,
      .fresh now messageId =>
      (store.decide sha256 contactId message approves challengeId verifier now
        messageId).map fun after => (after, none)
  | .verifyCode contactId message codeText, .fresh now messageId =>
      store.verifyCode sha256 contactId message codeText now messageId
  | .markVerified contactId message verificationId, .fresh now id =>
      (store.markVerified contactId message verificationId now id).map
        fun after => (after, none)
  | .authStatus verificationId, .now now =>
      some (store.authStatus verificationId now)
  | .consumeVerification verificationId userId, .now now =>
      some (store.issueForVerification verificationId userId now, none)
  | .approvalStatus challengeId browserNonce, .now now =>
      some (store.approvalStatus sha256 challengeId browserNonce now)
  | .consumeApproval challengeId browserNonce, .now now =>
      some (store.issueForApproval sha256 challengeId browserNonce now, none)
  | _, _ => none

/-- The rollback of a request that goes away: the rows it holds are free. -/
def Handler.release (store : Store) : Handler → Store
  | .blockPrompt messageId _ _ _ => store.letGoMessage messageId
  | .decide contactId _ _ _ _ => store.letGoContact contactId
  | .verifyCode contactId _ _ => store.letGoContact contactId
  | .markVerified contactId _ _ => store.letGoContact contactId
  | _ => store

/-- A store in which nobody has been signed in and no challenge is open. -/
structure Store.Initial (store : Store) : Prop where
  verifications : store.verifications = .empty
  approvals : store.approvals = .empty
  heldContacts : store.heldContacts = []
  heldMessages : store.heldMessages = []
  requests : store.requests = []
  codes : store.codes = .empty
  openings : store.openings = .empty
  inbound : store.inbound = []
  decisions : store.decisions = []
  verificationIssues : store.verificationIssues = []
  approvalIssues : store.approvalIssues = []

def login : Program Store Handler Request Choice :=
  { initial := Store.Initial
    start := Handler.start
    resume := Handler.resume settings sha256 parseUuid
    release := Handler.release }

end

end JanSetu.Auth
