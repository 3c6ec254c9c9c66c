import JanSetu.Auth.Program

/-!
# What each step of a login writes

One lemma for each operation: the tables it can change, with every other table
as it was.  `Handler.Writes` and `Handler.Follows` say once what a step of a
handler writes and what it goes on with; the proofs about runs take a step
apart by them.
-/

namespace JanSetu.Auth

/-- The row that `request_code` stores of its prompt. -/
def promptMessage (challengeId contactId verifier : String) (now : Time) :
    WhatsAppMessage :=
  { contactId := contactId, metaMessageId := none, direction := .outgoing
    status := .pending, replyKind := some .loginApproval
    textBody := some "Approve Jan Setu sign-in?"
    buttons := promptButtons challengeId verifier
    idempotencyKey := some ("login-approval:" ++ challengeId)
    inResponseTo := none, receivedAt := now, lockedUntil := none
    attemptCount := 0 }

namespace Store

section

variable {settings : Settings} {sha256 : String → String}
  {parseUuid : String → Option String} {store after : Store}
  {next : Option Handler} {now : Time}

/-- An outbound row is all that `store_outgoing_pending` can change. -/
theorem storeOutgoingPending_eq (store : Store) (messageId : String)
    (contactId : String) (replyKind : ReplyKind) (textBody : String)
    (buttons : List (String × String)) (idempotencyKey : String)
    (inResponseTo : Option String) (now : Time) :
    ∃ messages, (store.storeOutgoingPending messageId contactId replyKind
      textBody buttons idempotencyKey inResponseTo now).1 =
        { store with messages := messages } := by
  unfold storeOutgoingPending
  split
  · exact ⟨store.messages, rfl⟩
  · exact ⟨_, rfl⟩

/-- The end of an inbound transaction writes messages, consumptions, the log of
inbound messages and the rows it holds. -/
theorem answer_eq (store : Store) (contactId : String)
    (message : IncomingMessage) (replyKind : ReplyKind) (reply : String)
    (idempotencyKey : String) (now : Time) (messageId : String) :
    ∃ messages held consumptions, store.answer contactId message replyKind
      reply idempotencyKey now messageId =
        { store with
          messages := messages, heldContacts := held
          consumptions := consumptions
          inbound := message :: store.inbound } := by
  obtain ⟨messages, stored⟩ := store.storeOutgoingPending_eq messageId
    contactId replyKind reply [] idempotencyKey (some message.metaMessageId) now
  simp only [answer, stored, letGoContact]
  exact ⟨_, _, _, rfl⟩

theorem requestCode_eq {body : RequestCode}
    (result : store.requestCode settings body now = (after, next)) :
    after = { store with requests := body :: store.requests } ∧
    ∀ handler, next = some handler →
      handler = .linkedUser (normalizePhone body.phone) body.browserNonce ∧
        store.countRecentVerifications (normalizePhone body.phone)
            (now - hours 1) +
          store.countRecentLoginApprovals (normalizePhone body.phone)
            (now - hours 1) < settings.verificationMaxPerHour := by
  unfold requestCode at result
  grind

theorem linkedUser_eq {phone : String} {browserNonce : Option String}
    (result : store.linkedUser settings phone browserNonce now =
      (after, next)) :
    after = store ∧ ∀ handler, next = some handler →
      handler = .countCodes phone none ∨
        ∃ userId contactId nonce,
          handler = .supersede phone userId contactId nonce ∧
          browserNonce = some nonce := by
  unfold linkedUser at result
  grind

theorem countCodes_eq {phone : String} {unsent : Option String}
    (result : store.countCodes settings phone unsent now = (after, next)) :
    after = store ∧ ∀ handler, next = some handler →
      handler = .insertCode (normalizePhone phone) unsent := by
  unfold countCodes at result
  grind

theorem afterSend_eq {following : AfterSend} {sent : Bool} {handler : Handler}
    (result : afterSend following sent = some handler) :
    ∃ phone challengeId, following = some (phone, challengeId) ∧
      handler = .countCodes phone (some challengeId) := by
  unfold afterSend at result
  grind

/-- A `send_pending` up to the Graph call writes messages; a prompt outside the
window it only holds, for the commit that blocks it. -/
theorem claimMessage_eq {messageId : String} {following : AfterSend}
    (result : store.claimMessage settings messageId following now =
      some (after, next)) :
    (∃ messages held, after =
      { store with messages := messages, heldMessages := held }) ∧
    ∀ handler, next = some handler →
      handler = .callGraph messageId following ∨
      (∃ claimed challengeId,
        handler = .blockPrompt messageId claimed challengeId following) ∨
      ∃ phone challengeId, following = some (phone, challengeId) ∧
        handler = .countCodes phone (some challengeId) := by
  unfold claimMessage at result
  split at result
  · simp at result
  · split at result
    · cases result
      exact ⟨⟨_, _, rfl⟩, fun _ found => .inr (.inr (afterSend_eq found))⟩
    · split at result
      · cases result
        exact ⟨⟨_, _, rfl⟩, fun _ found => .inr (.inr (afterSend_eq found))⟩
      · dsimp only at result
        split at result
        · cases result
          exact ⟨⟨_, _, rfl⟩, fun _ found => .inr (.inr (afterSend_eq found))⟩
        · split at result
          · cases result
            exact ⟨⟨_, _, rfl⟩, fun _ found => .inl (by simpa using found.symm)⟩
          · split at result
            · cases result
              exact ⟨⟨_, _, rfl⟩,
                fun _ found => .inr (.inr (afterSend_eq found))⟩
            · split at result
              · cases result
                exact ⟨⟨_, _, rfl⟩,
                  fun _ found => .inl (by simpa using found.symm)⟩
              · cases result
                exact ⟨⟨_, _, rfl⟩, fun _ found =>
                  .inr (.inl ⟨_, _, by simpa using found.symm⟩)⟩
            · cases result
              exact ⟨⟨_, _, rfl⟩, by simp⟩

theorem recordSend_eq {messageId : String} {following : AfterSend}
    {outcome : GraphOutcome}
    (result : store.recordSend messageId following outcome =
      some (after, next)) :
    (∃ messages, after = { store with messages := messages }) ∧
    ∀ handler, next = some handler →
      ∃ phone challengeId, following = some (phone, challengeId) ∧
        handler = .countCodes phone (some challengeId) := by
  unfold recordSend at result
  split at result
  · simp at result
  · split at result
    · simp at result
    · split at result
      · cases result
        exact ⟨⟨_, rfl⟩, fun _ found => afterSend_eq found⟩
      · cases result
        exact ⟨⟨_, rfl⟩, fun _ found => afterSend_eq found⟩
      · split at result
        · cases result
          exact ⟨⟨_, rfl⟩, by simp⟩
        · cases result
          exact ⟨⟨_, rfl⟩, fun _ found => afterSend_eq found⟩

theorem storeIncoming_eq (store : Store) (contactId messageId : String)
    (message : IncomingMessage) :
    ∃ messages, store.storeIncoming contactId messageId message =
      { store with messages := messages } := by
  unfold storeIncoming
  dsimp only
  split
  · exact ⟨store.messages, rfl⟩
  · exact ⟨_, rfl⟩

/-- A message that arrives can add its contact and its row; the contacts there
were keep their ids. -/
theorem receive_eq {message : IncomingMessage} {id : String}
    (result : store.receive message id = some after) :
    ∃ contacts messages, after =
      { store with contacts := contacts, messages := messages } ∧
      ∀ waId contactId, store.contacts.find waId = some contactId →
        contacts.find waId = some contactId := by
  unfold receive at result
  split at result
  · split at result
    · cases result
      obtain ⟨messages, stored⟩ := store.storeIncoming_eq _ id message
      exact ⟨store.contacts, messages, stored, fun _ _ found => found⟩
    · simp at result
  · split at result
    · cases result
      rename_i absent _
      obtain ⟨messages, stored⟩ :=
        { store with contacts := store.contacts.put message.waId id
          }.storeIncoming_eq id id message
      refine ⟨_, messages, stored, ?_⟩
      intro waId contactId found
      have different : waId ≠ message.waId := by
        rintro rfl
        simp [absent] at found
      rw [Table.find_put_of_ne _ _ different, found]
    · simp at result

/-- The first step of an inbound transaction holds the contact, and goes on to
a decision or to a code that the message carries. -/
theorem handleInbound_eq {message : IncomingMessage}
    (result : store.handleInbound parseUuid message = some (after, next)) :
    (∃ held, after = { store with heldContacts := held }) ∧
    ∀ handler, next = some handler →
      ∃ contactId, store.contacts.find message.waId = some contactId ∧
        ((∃ button challengeText challengeId verifier,
          handler = .decide contactId message (button = loginApprovalYes)
            challengeId verifier ∧
          parseLoginApprovalId message.replyId =
            some (button, challengeText, verifier) ∧
          parseUuid challengeText = some challengeId ∧
          Python.truthy message.contextMessageId = true) ∨
        handler = .verifyCode contactId message (message.textBody.getD "") ∧
          isVerificationCode message.textBody = true) := by
  unfold handleInbound at result
  split at result
  · simp at result
  · rename_i contactId contact
    split at result
    · simp at result
    · split at result
      · cases result
        exact ⟨⟨_, rfl⟩, by simp⟩
      · dsimp only at result
        split at result
        · rename_i button challengeText verifier parsed context
          split at result
          · cases result
            exact ⟨⟨_, rfl⟩, by simp⟩
          · rename_i challengeId uuid
            cases result
            refine ⟨⟨_, rfl⟩, ?_⟩
            rintro handler ⟨⟩
            exact ⟨contactId, contact, .inl ⟨button, challengeText,
              challengeId, verifier, rfl, parsed, uuid, context⟩⟩
        · split at result
          · rename_i code
            cases result
            refine ⟨⟨_, rfl⟩, ?_⟩
            rintro handler ⟨⟩
            exact ⟨contactId, contact, .inr ⟨rfl, code⟩⟩
          · cases result
            exact ⟨⟨_, rfl⟩, by simp⟩

/-- A `request_code` that opens a challenge adds its pending row with the prompt
and supersedes the pending rows it has seen; a verifier whose hash is taken
opens nothing. -/
theorem createApproval_eq {phone userId contactId browserNonce : String}
    {pending : List String} {challengeId messageId verifier : String}
    (result : store.createApproval settings sha256 phone userId contactId
      browserNonce pending now challengeId messageId verifier =
        some (after, next)) :
    (after = store ∧ next = none) ∨
    store.approvals.find challengeId = none ∧
    (∃ approvals messages prompt, after =
        { store with
          approvals := approvals, messages := messages
          openings := store.openings.put challengeId
            { userId := userId, contactId := contactId, phone := phone
              browserNonce := browserNonce, verifier := verifier
              promptId := messageId, openedAt := now } } ∧
      (∀ key, approvals.find key =
        if key = challengeId then
          some { newChallenge settings sha256 phone userId contactId
              browserNonce verifier now with
            approvalOutboundMessageId := prompt }
        else (store.approvals.find key).map fun row =>
          if key ∈ pending ∧ row.status = .pending then
            { row with status := .superseded, decidedAt := some now }
          else row) ∧
      (prompt = none ∧ messages = store.messages ∨
        prompt = some messageId ∧ store.messages.find messageId = none ∧
          messages = store.messages.put messageId
            (promptMessage challengeId contactId verifier now))) ∧
    ∀ handler, next = some handler →
      handler = .countCodes phone (some challengeId) ∨
        ∃ prompt, handler = .claimMessage prompt (some (phone, challengeId)) := by
  unfold createApproval at result
  split at result
  case isFalse => cases result
  case isTrue unused =>
    dsimp only at result
    split at result
    case h_1 =>
      cases result
      exact .inl ⟨rfl, rfl⟩
    case h_2 =>
      right
      refine ⟨unused.1, ?_⟩
      unfold storeOutgoingPending at result
      split at result
      case h_1 created =>
        split at created
        case h_1 =>
          cases created
          cases result
          refine ⟨⟨_, store.messages, none, rfl, ?_, .inl ⟨rfl, rfl⟩⟩, ?_⟩
          · intro key
            simp [insertApproval, supersede, Table.find_put,
              Table.find_updateWhere, newChallenge]
          · rintro handler ⟨⟩
            exact .inl rfl
        case h_2 => cases created
      case h_2 created =>
        split at created
        case h_1 => cases created
        case h_2 =>
          cases created
          cases result
          refine ⟨⟨_, _, some messageId, rfl, ?_,
            .inr ⟨rfl, unused.2, rfl⟩⟩, ?_⟩
          · intro key
            by_cases same : key = challengeId
            · subst same
              simp [insertApproval, supersede, Table.find_updateWhere,
                newChallenge]
            · simp [insertApproval, supersede, Table.find_put,
                Table.find_updateWhere, same]
              rfl
          · rintro handler ⟨⟩
            exact .inr ⟨_, rfl⟩

/-- A reverse code adds its row, after the fallback of the challenge whose
prompt was not sent. -/
theorem insertCode_eq {phone : String} {unsent : Option String}
    {verificationId code : String}
    (result : store.insertCode settings sha256 phone unsent now verificationId
      code = some after) :
    store.verifications.find verificationId = none ∧
    ∃ approvals, after =
        { store with
          approvals := approvals
          verifications := store.verifications.put verificationId
            { phone := phone, codeHash := hashCode sha256 code
              status := .pending
              expiresAt := now + minutes settings.verificationCodeTtlMinutes
              verifiedAt := none, userId := none, createdAt := now }
          codes := store.codes.put verificationId code } ∧
      ∀ key, approvals.find key = (store.approvals.find key).map fun row =>
        if unsent = some key ∧ row.status = .pending then
          { row with status := .fallback, decidedAt := some now }
        else row := by
  unfold insertCode at result
  split at result
  · rename_i unused
    cases unsent with
    | none =>
        cases result
        exact ⟨unused, store.approvals, rfl, by simp⟩
    | some challengeId =>
        cases result
        refine ⟨unused, _, rfl, ?_⟩
        intro key
        have same : (some challengeId = some key) = (key = challengeId) :=
          propext ⟨fun same => (Option.some.inj same).symm,
            fun same => same ▸ rfl⟩
        simp [markLoginApprovalFallback, createPhoneVerification,
          Table.find_updateWhere, same]
  · simp at result

theorem blockPrompt_eq (store : Store) (messageId : String)
    (claimed : WhatsAppMessage) (challengeId : String) (now : Time) :
    ∃ messages held approvals,
      store.blockPrompt messageId claimed challengeId now =
        { store with
          messages := messages, heldMessages := held
          approvals := approvals } ∧
      ∀ key, approvals.find key = (store.approvals.find key).map fun row =>
        if key = challengeId then
          { row with status := .fallback, decidedAt := some now }
        else row := by
  refine ⟨_, _, _, rfl, ?_⟩
  intro key
  simp [letGoMessage, setMessage, Table.find_updateWhere]

/-- The row of a matching decision meets every condition of the `UPDATE`. -/
theorem decideLoginApproval_eq {challengeId verifierHash : String}
    {contactId phone contextMessageId decisionMessageId : String}
    {approves : Bool} {promptId : String} {prompt : WhatsAppMessage}
    (result : store.decideLoginApproval challengeId verifierHash contactId
      phone contextMessageId decisionMessageId approves now =
        some (after, promptId, prompt)) :
    ∃ row, store.approvals.find challengeId = some row ∧
      row.status = .pending ∧ now < row.expiresAt ∧
      row.verifierHash = verifierHash ∧ row.contactId = contactId ∧
      row.phone = phone ∧ row.approvalOutboundMessageId = some promptId ∧
      (store.messages.find promptId = some prompt ∧
        prompt.metaMessageId = some contextMessageId) ∧
      after = { store with
        approvals := store.approvals.put challengeId
          (decidedRow row approves decisionMessageId now) } := by
  unfold decideLoginApproval at result
  split at result
  · simp at result
  · rename_i row found
    split at result
    · simp at result
    · rename_i recorded
      split at result
      · rename_i guards
        cases result
        obtain ⟨pending, unexpired, verifier, contact, phone⟩ := guards
        have promptOf : row.approvalOutboundMessageId = some promptId ∧
            store.messages.find promptId = some prompt ∧
            prompt.metaMessageId = some contextMessageId := by
          unfold promptOf at recorded
          grind
        exact ⟨row, found, pending, unexpired, verifier, contact, phone,
          promptOf.1, promptOf.2, rfl⟩
      · simp at result

theorem consumeLoginApproval_eq {challengeId browserNonceHash : String}
    {userId : String}
    (result : store.consumeLoginApproval challengeId browserNonceHash now =
      some (after, userId)) :
    ∃ row, store.approvals.find challengeId = some row ∧
      row.status = .approved ∧ now < row.expiresAt ∧
      row.browserNonceHash = browserNonceHash ∧ row.userId = userId ∧
      after = { store with
        approvals := store.approvals.put challengeId
          { row with status := .consumed, consumedAt := some now } } := by
  unfold consumeLoginApproval at result
  grind

/-- An inbound code ends its transaction or goes on to the user, when the
pending verification it finds is for the sender's phone. -/
theorem verifyCode_eq {contactId : String} {message : IncomingMessage}
    {codeText messageId : String}
    (result : store.verifyCode sha256 contactId message codeText now
      messageId = some (after, next)) :
    (∃ messages held consumptions inbound, after =
      { store with
        messages := messages, heldContacts := held
        consumptions := consumptions, inbound := inbound } ∧
      (inbound = store.inbound ∨ inbound = message :: store.inbound)) ∧
    ∀ handler, next = some handler →
      ∃ verificationId verification,
        handler = .markVerified contactId message verificationId ∧
        store.verifications.find verificationId = some verification ∧
        verification.codeHash = hashCode sha256 codeText ∧
        verification.status = .pending ∧ now < verification.expiresAt ∧
        verification.phone = normalizePhone message.waId := by
  unfold verifyCode at result
  split at result
  · dsimp only at result
    obtain ⟨messages, held, consumptions, refused⟩ :=
      store.answer_eq contactId message .verifyCode verifyInvalid
        ("verify:" ++ message.metaMessageId) now messageId
    split at result
    · cases result
      exact ⟨⟨messages, held, consumptions, _, refused, .inr rfl⟩, by simp⟩
    · rename_i verificationId selected
      split at result
      · simp at result
      · rename_i verification found
        split at result
        · rename_i phone
          cases result
          refine ⟨⟨store.messages, store.heldContacts, store.consumptions,
            store.inbound, rfl, .inl rfl⟩, ?_⟩
          rintro handler ⟨⟩
          have member : verificationId ∈
              store.findPendingVerificationByCodeHash
                (hashCode sha256 codeText) now := by
            simp [selected]
          obtain ⟨row, foundRow, passes⟩ := Table.mem_select.mp member
          rw [found] at foundRow
          cases foundRow
          simp only [Bool.and_eq_true, decide_eq_true_eq] at passes
          exact ⟨verificationId, verification, rfl, found, passes.1.1,
            passes.1.2, passes.2, phone⟩
        · cases result
          exact ⟨⟨messages, held, consumptions, _, refused, .inr rfl⟩,
            by simp⟩
    · cases result
      exact ⟨⟨store.messages, _, store.consumptions, store.inbound, rfl,
        .inl rfl⟩, by simp⟩
  · simp at result

/-- The user of a verified phone: an existing row keeps its phone and takes the
contact, a new phone gets a new row. -/
theorem upsertUserForVerifiedPhone_eq {phone contactId id userId : String}
    (unused : Unused store.users id)
    (result : store.upsertUserForVerifiedPhone phone contactId id =
      some (after, userId)) :
    after = { store with
      users := store.users.put userId
        { phone := phone, contactId := some contactId } } ∧
    ∀ user, store.users.find userId = some user → user.phone = phone := by
  unfold upsertUserForVerifiedPhone at result
  dsimp only at result
  cases existing : store.users.first fun _ user => user.phone = phone with
  | none =>
      simp only [existing] at result
      split at result
      · simp at result
      · cases result
        refine ⟨rfl, ?_⟩
        intro user found
        rw [unused] at found
        simp at found
  | some entry =>
      simp only [existing] at result
      split at result
      · simp at result
      · cases result
        refine ⟨rfl, ?_⟩
        intro user found
        obtain ⟨foundEntry, phones⟩ := Table.first_eq_some existing
        rw [found] at foundEntry
        cases foundEntry
        simpa using phones

/-- The end of a verification: the user is upserted and the row marked, or the
transaction is rolled back. -/
theorem markVerified_eq {contactId : String} {message : IncomingMessage}
    {verificationId id : String}
    (result : store.markVerified contactId message verificationId now id =
      some after) :
    (∃ held, after = { store with heldContacts := held }) ∨
    ∃ userId verifications messages held consumptions, after =
        { store with
          users := store.users.put userId
            { phone := normalizePhone message.waId
              contactId := some contactId }
          verifications := verifications, messages := messages
          heldContacts := held, consumptions := consumptions
          inbound := message :: store.inbound } ∧
      (∀ user, store.users.find userId = some user →
        user.phone = normalizePhone message.waId) ∧
      ∀ key, verifications.find key =
        (store.verifications.find key).map fun row =>
          if key = verificationId then
            { row with
              status := .verified, verifiedAt := some now
              userId := some userId }
          else row := by
  unfold markVerified at result
  split at result
  · rename_i unused
    split at result
    · cases result
      exact .inl ⟨_, rfl⟩
    · rename_i upserted userId linked
      cases result
      obtain ⟨changed, phones⟩ :=
        upsertUserForVerifiedPhone_eq unused.1 linked
      subst changed
      obtain ⟨messages, held, consumptions, answered⟩ := answer_eq
        (markVerificationVerified
          { store with
            users := store.users.put userId
              { phone := normalizePhone message.waId
                contactId := some contactId } } verificationId userId now)
        contactId message .verifyCode verifySuccess
        ("verify:" ++ message.metaMessageId) now id
      refine .inr ⟨userId, _, messages, held, consumptions, answered, phones,
        ?_⟩
      intro key
      simp [markVerificationVerified, Table.find_updateWhere]
  · simp at result

theorem consumeVerification_eq {verificationId : String}
    (result : store.consumeVerification verificationId = some after) :
    ∃ row, store.verifications.find verificationId = some row ∧
      row.status = .verified ∧
      after = { store with
        verifications := store.verifications.put verificationId
          { row with status := .consumed } } := by
  unfold consumeVerification at result
  grind

/-- A decision that matches no challenge is answered, and one that does is also
recorded. -/
theorem decide_eq {contactId : String} {message : IncomingMessage}
    {approves : Bool} {challengeId verifier messageId : String}
    (result : store.decide sha256 contactId message approves challengeId
      verifier now messageId = some after) :
    (∃ messages held consumptions, after =
      { store with
        messages := messages, heldContacts := held
        consumptions := consumptions
        inbound := message :: store.inbound }) ∨
    ∃ row promptId prompt messages held consumptions,
      store.approvals.find challengeId = some row ∧
      row.status = .pending ∧ now < row.expiresAt ∧
      row.verifierHash = hashCode sha256 verifier ∧
      row.contactId = contactId ∧ row.phone = message.waId ∧
      row.approvalOutboundMessageId = some promptId ∧
      (store.messages.find promptId = some prompt ∧
        prompt.metaMessageId = some (message.contextMessageId.getD "")) ∧
      after =
        { store with
          approvals := store.approvals.put challengeId
            (decidedRow row approves message.metaMessageId now)
          decisions :=
            { challengeId := challengeId, approves := approves
              verifier := verifier, message := message
              contactId := contactId, promptId := promptId
              prompt := prompt, decidedAt := now } :: store.decisions
          messages := messages, heldContacts := held
          consumptions := consumptions
          inbound := message :: store.inbound } := by
  unfold decide at result
  split at result
  case isFalse => cases result
  case isTrue =>
    split at result
    case h_1 =>
      cases result
      exact .inl (answer_eq ..)
    case h_2 decided promptId prompt settled =>
      cases result
      obtain ⟨row, found, pending, unexpired, hash, contact, phone, recorded,
        context, rfl⟩ := decideLoginApproval_eq settled
      obtain ⟨messages, held, consumptions, answered⟩ := answer_eq
        { store with
          approvals := store.approvals.put challengeId
            (decidedRow row approves message.metaMessageId now)
          decisions :=
            { challengeId := challengeId, approves := approves
              verifier := verifier, message := message
              contactId := contactId, promptId := promptId
              prompt := prompt, decidedAt := now } :: store.decisions }
        contactId message .loginApprovalDecision (decisionReply approves true)
        ("login-decision:" ++ message.metaMessageId) now messageId
      exact .inr ⟨row, promptId, prompt, messages, held, consumptions, found,
        pending, unexpired, hash, contact, phone, recorded, context, answered⟩

/-- Tokens are issued to a poll that consumes a verified row. -/
theorem issueForVerification_eq (store : Store)
    (verificationId userId : String) (now : Time) :
    store.issueForVerification verificationId userId now = store ∨
    ∃ row, store.verifications.find verificationId = some row ∧
      row.status = .verified ∧
      store.issueForVerification verificationId userId now =
        { store with
          verifications := store.verifications.put verificationId
            { row with status := .consumed }
          verificationIssues :=
            { verificationId := verificationId, userId := userId
              issuedAt := now } :: store.verificationIssues } := by
  unfold issueForVerification
  split
  case h_1 => exact .inl rfl
  case h_2 consumed updated =>
    obtain ⟨row, found, verified, rfl⟩ := consumeVerification_eq updated
    exact .inr ⟨row, found, verified, rfl⟩

theorem issueForApproval_eq (store : Store)
    (challengeId browserNonce : String) (now : Time) :
    store.issueForApproval sha256 challengeId browserNonce now = store ∨
    ∃ row, store.approvals.find challengeId = some row ∧
      row.status = .approved ∧ now < row.expiresAt ∧
      row.browserNonceHash = hashCode sha256 browserNonce ∧
      store.issueForApproval sha256 challengeId browserNonce now =
        { store with
          approvals := store.approvals.put challengeId
            { row with status := .consumed, consumedAt := some now }
          approvalIssues :=
            { challengeId := challengeId, browserNonce := browserNonce
              userId := row.userId, issuedAt := now } ::
              store.approvalIssues } := by
  unfold issueForApproval
  split
  case h_1 => exact .inl rfl
  case h_2 consumed userId updated =>
    obtain ⟨row, found, approved, unexpired, nonce, rfl, rfl⟩ :=
      consumeLoginApproval_eq updated
    exact .inr ⟨row, found, approved, unexpired, nonce, rfl⟩

theorem authStatus_eq {verificationId : String}
    (result : store.authStatus verificationId now = (after, next)) :
    after = store ∧ ∀ handler, next = some handler →
      ∃ userId row, handler = .consumeVerification verificationId userId ∧
        store.verifications.find verificationId = some row ∧
        row.userId = some userId := by
  unfold authStatus at result
  grind

theorem approvalStatus_eq {challengeId browserNonce : String}
    (result : store.approvalStatus sha256 challengeId browserNonce now =
      (after, next)) :
    after = store ∧ ∀ handler, next = some handler →
      handler = .consumeApproval challengeId browserNonce := by
  unfold approvalStatus at result
  grind

end

end Store

/-- What a rollback gives back is only rows that were held. -/
theorem Handler.release_eq (store : Store) (handler : Handler) :
    ∃ contacts messages, handler.release store =
      { store with heldContacts := contacts, heldMessages := messages } := by
  cases handler <;> exact ⟨_, _, rfl⟩

/-! ## The steps of a handler -/

section

variable (settings : Settings) (sha256 : String → String)
  (parseUuid : String → Option String) (store after : Store)

/-- What a step of a handler writes, by the operation that writes it. -/
inductive Handler.Writes : Handler → Choice → Prop where
  | rests {handler : Handler} {choice : Choice} :
      after = store → Handler.Writes handler choice
  | asks {body : RequestCode} {now : Time} :
      after = { store with requests := body :: store.requests } →
      Handler.Writes (.requestCode body) (.now now)
  | opens {phone userId contactId browserNonce : String}
      {pending : List String} {now : Time}
      {challengeId messageId verifier : String} {next : Option Handler} :
      store.createApproval settings sha256 phone userId contactId browserNonce
        pending now challengeId messageId verifier = some (after, next) →
      Handler.Writes
        (.createApproval phone userId contactId browserNonce pending)
        (.approval now challengeId messageId verifier)
  | inserts {phone : String} {unsent : Option String} {now : Time}
      {verificationId code : String} :
      store.insertCode settings sha256 phone unsent now verificationId code =
        some after →
      Handler.Writes (.insertCode phone unsent)
        (.code now verificationId code)
  | claims {messageId : String} {following : AfterSend} {now : Time}
      {next : Option Handler} :
      store.claimMessage settings messageId following now =
        some (after, next) →
      Handler.Writes (.claimMessage messageId following) (.now now)
  | blocks {messageId challengeId : String} {claimed : WhatsAppMessage}
      {following : AfterSend} {now : Time} :
      after = store.blockPrompt messageId claimed challengeId now →
      Handler.Writes (.blockPrompt messageId claimed challengeId following)
        (.now now)
  | records {messageId : String} {following : AfterSend} {now : Time}
      {outcome : GraphOutcome} {next : Option Handler} :
      store.recordSend messageId following outcome = some (after, next) →
      Handler.Writes (.callGraph messageId following) (.graph now outcome)
  | receives {message : IncomingMessage} {now : Time} {id : String} :
      store.receive message id = some after →
      Handler.Writes (.storeIncoming message) (.fresh now id)
  | holds {message : IncomingMessage} {now : Time} {next : Option Handler} :
      store.handleInbound parseUuid message = some (after, next) →
      Handler.Writes (.handleInbound message) (.now now)
  | decides {contactId : String} {message : IncomingMessage}
      {approves : Bool} {challengeId verifier messageId : String}
      {now : Time} :
      store.decide sha256 contactId message approves challengeId verifier now
        messageId = some after →
      Handler.Writes (.decide contactId message approves challengeId verifier)
        (.fresh now messageId)
  | verifies {contactId : String} {message : IncomingMessage}
      {codeText messageId : String} {now : Time} {next : Option Handler} :
      store.verifyCode sha256 contactId message codeText now messageId =
        some (after, next) →
      Handler.Writes (.verifyCode contactId message codeText)
        (.fresh now messageId)
  | marks {contactId : String} {message : IncomingMessage}
      {verificationId id : String} {now : Time} :
      store.markVerified contactId message verificationId now id =
        some after →
      Handler.Writes (.markVerified contactId message verificationId)
        (.fresh now id)
  | redeems {verificationId userId : String} {now : Time} :
      after = store.issueForVerification verificationId userId now →
      Handler.Writes (.consumeVerification verificationId userId) (.now now)
  | signsIn {challengeId browserNonce : String} {now : Time} :
      after = store.issueForApproval sha256 challengeId browserNonce now →
      Handler.Writes (.consumeApproval challengeId browserNonce) (.now now)

/-- What a handler goes on with, and what it has found out for it. -/
inductive Handler.Follows : Handler → Choice → Handler → Prop where
  | counted {body : RequestCode} {now : Time} :
      body ∈ after.requests →
      store.countRecentVerifications (normalizePhone body.phone)
          (now - hours 1) +
        store.countRecentLoginApprovals (normalizePhone body.phone)
          (now - hours 1) < settings.verificationMaxPerHour →
      Handler.Follows (.requestCode body) (.now now)
        (.linkedUser (normalizePhone body.phone) body.browserNonce)
  | unlinked {phone : String} {browserNonce : Option String} {now : Time} :
      Handler.Follows (.linkedUser phone browserNonce) (.now now)
        (.countCodes phone none)
  | linked {phone userId contactId nonce : String} {now : Time} :
      Handler.Follows (.linkedUser phone (some nonce)) (.now now)
        (.supersede phone userId contactId nonce)
  | selected {phone userId contactId browserNonce : String}
      {pending : List String} {now : Time} :
      Handler.Follows (.supersede phone userId contactId browserNonce)
        (.now now) (.createApproval phone userId contactId browserNonce pending)
  | unprompted {phone userId contactId browserNonce challengeId : String}
      {pending : List String} {choice : Choice} :
      Handler.Follows
        (.createApproval phone userId contactId browserNonce pending) choice
        (.countCodes phone (some challengeId))
  | prompted {phone userId contactId browserNonce challengeId : String}
      {pending : List String} {choice : Choice} {prompt : String} :
      Handler.Follows
        (.createApproval phone userId contactId browserNonce pending) choice
        (.claimMessage prompt (some (phone, challengeId)))
  | roomy {phone : String} {unsent : Option String} {now : Time} :
      Handler.Follows (.countCodes phone unsent) (.now now)
        (.insertCode (normalizePhone phone) unsent)
  | claimed {messageId : String} {following : AfterSend} {now : Time} :
      Handler.Follows (.claimMessage messageId following) (.now now)
        (.callGraph messageId following)
  | blocked {messageId challengeId : String} {claimed : WhatsAppMessage}
      {following : AfterSend} {now : Time} :
      store.claimMessage settings messageId following now =
        some (after,
          some (.blockPrompt messageId claimed challengeId following)) →
      Handler.Follows (.claimMessage messageId following) (.now now)
        (.blockPrompt messageId claimed challengeId following)
  | unclaimed {messageId phone challengeId : String} {now : Time} :
      Handler.Follows (.claimMessage messageId (some (phone, challengeId)))
        (.now now) (.countCodes phone (some challengeId))
  | refused {messageId blocked phone challengeId : String}
      {claimed : WhatsAppMessage} {now : Time} :
      Handler.Follows
        (.blockPrompt messageId claimed blocked (some (phone, challengeId)))
        (.now now) (.countCodes phone (some challengeId))
  | unsent {messageId phone challengeId : String} {now : Time}
      {outcome : GraphOutcome} :
      Handler.Follows (.callGraph messageId (some (phone, challengeId)))
        (.graph now outcome) (.countCodes phone (some challengeId))
  | replied {message : IncomingMessage} {now : Time}
      {contactId button challengeText challengeId verifier : String} :
      after.contacts.find message.waId = some contactId →
      parseLoginApprovalId message.replyId =
        some (button, challengeText, verifier) →
      parseUuid challengeText = some challengeId →
      Python.truthy message.contextMessageId = true →
      Handler.Follows (.handleInbound message) (.now now)
        (.decide contactId message (button = loginApprovalYes) challengeId
          verifier)
  | carried {message : IncomingMessage} {now : Time} {contactId : String} :
      isVerificationCode message.textBody = true →
      Handler.Follows (.handleInbound message) (.now now)
        (.verifyCode contactId message (message.textBody.getD ""))
  | matched {contactId : String} {message : IncomingMessage}
      {codeText messageId verificationId : String} {now : Time}
      {verification : PhoneVerification} :
      after.verifications.find verificationId = some verification →
      verification.codeHash = hashCode sha256 codeText →
      verification.phone = normalizePhone message.waId →
      Handler.Follows (.verifyCode contactId message codeText)
        (.fresh now messageId) (.markVerified contactId message verificationId)
  | polled {verificationId userId : String} {now : Time}
      {row : PhoneVerification} :
      store.verifications.find verificationId = some row →
      row.userId = some userId →
      Handler.Follows (.authStatus verificationId) (.now now)
        (.consumeVerification verificationId userId)
  | approved {challengeId browserNonce : String} {now : Time} :
      Handler.Follows (.approvalStatus challengeId browserNonce) (.now now)
        (.consumeApproval challengeId browserNonce)

end

section

variable {settings : Settings} {sha256 : String → String}
  {parseUuid : String → Option String} {store after : Store}
  {handler : Handler} {choice : Choice} {next : Option Handler}

/-- Everything that a step can write. -/
theorem Handler.resume_writes
    (resumed : handler.resume settings sha256 parseUuid store choice =
      some (after, next)) :
    handler.Writes settings sha256 parseUuid store after choice := by
  unfold Handler.resume at resumed
  split at resumed
  case h_1 =>
      exact .asks (Store.requestCode_eq (Option.some.inj resumed)).1
  case h_2 =>
      exact .rests (Store.linkedUser_eq (Option.some.inj resumed)).1
  case h_3 =>
      cases resumed
      exact .rests rfl
  case h_4 => exact .opens resumed
  case h_5 =>
      exact .rests (Store.countCodes_eq (Option.some.inj resumed)).1
  case h_6 =>
      obtain ⟨_, inserted, same⟩ := Option.map_eq_some_iff.mp resumed
      cases same
      exact .inserts inserted
  case h_7 => exact .claims resumed
  case h_8 =>
      cases resumed
      exact .blocks rfl
  case h_9 => exact .records resumed
  case h_10 =>
      obtain ⟨_, received, same⟩ := Option.map_eq_some_iff.mp resumed
      cases same
      exact .receives received
  case h_11 => exact .holds resumed
  case h_12 =>
      obtain ⟨_, decided, same⟩ := Option.map_eq_some_iff.mp resumed
      cases same
      exact .decides decided
  case h_13 => exact .verifies resumed
  case h_14 =>
      obtain ⟨_, marked, same⟩ := Option.map_eq_some_iff.mp resumed
      cases same
      exact .marks marked
  case h_15 =>
      exact .rests (Store.authStatus_eq (Option.some.inj resumed)).1
  case h_16 =>
      cases resumed
      exact .redeems rfl
  case h_17 =>
      exact .rests (Store.approvalStatus_eq (Option.some.inj resumed)).1
  case h_18 =>
      cases resumed
      exact .signsIn rfl
  case h_19 => cases resumed

/-- Everything that a handler can go on with. -/
theorem Handler.resume_follows {following : Handler}
    (resumed : handler.resume settings sha256 parseUuid store choice =
      some (after, some following)) :
    handler.Follows settings sha256 parseUuid store after choice
      following := by
  unfold Handler.resume at resumed
  split at resumed
  case h_1 =>
      obtain ⟨rfl, shape⟩ := Store.requestCode_eq (Option.some.inj resumed)
      obtain ⟨rfl, below⟩ := shape following rfl
      exact .counted (.head _) below
  case h_2 =>
      obtain ⟨_, shape⟩ := Store.linkedUser_eq (Option.some.inj resumed)
      rcases shape following rfl with rfl | ⟨_, _, _, rfl, rfl⟩
      · exact .unlinked
      · exact .linked
  case h_3 =>
      cases resumed
      exact .selected
  case h_4 =>
      rcases Store.createApproval_eq resumed with ⟨_, none⟩ | ⟨_, _, shape⟩
      · cases none
      · rcases shape following rfl with rfl | ⟨_, rfl⟩
        · exact .unprompted
        · exact .prompted
  case h_5 =>
      obtain ⟨_, shape⟩ := Store.countCodes_eq (Option.some.inj resumed)
      cases shape following rfl
      exact .roomy
  case h_7 =>
      obtain ⟨_, shape⟩ := Store.claimMessage_eq resumed
      rcases shape following rfl with
        rfl | ⟨_, _, rfl⟩ | ⟨_, _, rfl, rfl⟩
      · exact .claimed
      · exact .blocked resumed
      · exact .unclaimed
  case h_8 =>
      obtain ⟨_, goesOn⟩ := Prod.mk.inj (Option.some.inj resumed)
      obtain ⟨_, _, rfl, rfl⟩ := Store.afterSend_eq goesOn
      exact .refused
  case h_9 =>
      obtain ⟨_, shape⟩ := Store.recordSend_eq resumed
      obtain ⟨_, _, rfl, rfl⟩ := shape following rfl
      exact .unsent
  case h_11 =>
      obtain ⟨⟨_, rfl⟩, shape⟩ := Store.handleInbound_eq resumed
      obtain ⟨_, contact, ⟨_, _, _, _, rfl, reply, uuid, context⟩ |
        ⟨rfl, code⟩⟩ := shape following rfl
      · exact .replied contact reply uuid context
      · exact .carried code
  case h_13 =>
      obtain ⟨⟨_, _, _, _, rfl, _⟩, shape⟩ := Store.verifyCode_eq resumed
      obtain ⟨_, _, rfl, found, hash, _, _, phone⟩ := shape following rfl
      exact .matched found hash phone
  case h_15 =>
      obtain ⟨_, shape⟩ := Store.authStatus_eq (Option.some.inj resumed)
      obtain ⟨_, _, rfl, found, linked⟩ := shape following rfl
      exact .polled found linked
  case h_17 =>
      obtain ⟨_, shape⟩ := Store.approvalStatus_eq (Option.some.inj resumed)
      cases shape following rfl
      exact .approved
  -- The other steps are the last of their handlers.
  all_goals simp at resumed

end

end JanSetu.Auth
