import JanSetu.Auth.Approval

/-!
# What a challenge was opened with

The row of a challenge holds hashes and the id of a message.  Over every run
they are the hashes of the nonce and of the verifier that one `request_code`
opened the challenge with, and the message is the prompt whose buttons carry
that verifier.
-/

namespace JanSetu.Auth

open Process (Label)

/-! ## Messages -/

/-- What is written of a message when its row is stored, and never again. -/
structure WhatsAppMessage.Continues (after before : WhatsAppMessage) :
    Prop where
  contact : after.contactId = before.contactId
  direction : after.direction = before.direction
  replyKind : after.replyKind = before.replyKind
  textBody : after.textBody = before.textBody
  buttons : after.buttons = before.buttons

theorem WhatsAppMessage.Continues.refl (message : WhatsAppMessage) :
    message.Continues message :=
  ⟨rfl, rfl, rfl, rfl, rfl⟩

theorem WhatsAppMessage.Continues.symm {first second : WhatsAppMessage}
    (continues : second.Continues first) : first.Continues second :=
  ⟨continues.contact.symm, continues.direction.symm, continues.replyKind.symm,
    continues.textBody.symm, continues.buttons.symm⟩

theorem WhatsAppMessage.Continues.trans {first second third : WhatsAppMessage}
    (left : second.Continues first) (right : third.Continues second) :
    third.Continues first :=
  ⟨right.contact.trans left.contact, right.direction.trans left.direction,
    right.replyKind.trans left.replyKind,
    right.textBody.trans left.textBody, right.buttons.trans left.buttons⟩

theorem WhatsAppMessage.claim_continues (message : WhatsAppMessage)
    (now : Time) : (message.claim now).Continues message :=
  ⟨rfl, rfl, rfl, rfl, rfl⟩

theorem WhatsAppMessage.mark_continues (message : WhatsAppMessage)
    (status : MessageStatus) : (message.mark status).Continues message :=
  ⟨rfl, rfl, rfl, rfl, rfl⟩

/-- No message row goes, and none is written over. -/
def Store.KeepsMessages (store after : Store) : Prop :=
  ∀ id message, store.messages.find id = some message →
    ∃ kept, after.messages.find id = some kept ∧ kept.Continues message

section

variable {settings : Settings} {sha256 : String → String}
  {parseUuid : String → Option String} {store middle after : Store}
  {handler : Handler} {choice : Choice} {next : Option Handler} {now : Time}

namespace Store

theorem keepsMessages_of_same (messages : after.messages = store.messages) :
    store.KeepsMessages after := by
  intro id message found
  exact ⟨message, by rw [messages, found], .refl message⟩

theorem KeepsMessages.trans (left : store.KeepsMessages middle)
    (right : middle.KeepsMessages after) : store.KeepsMessages after := by
  intro id message found
  obtain ⟨between, foundBetween, continues⟩ := left id message found
  obtain ⟨kept, foundKept, further⟩ := right id between foundBetween
  exact ⟨kept, foundKept, continues.trans further⟩

theorem keepsMessages_of_add {messageId : String} {row : WhatsAppMessage}
    (unused : store.messages.find messageId = none)
    (messages : after.messages = store.messages.put messageId row) :
    store.KeepsMessages after := by
  intro id message found
  have different : id ≠ messageId := by
    rintro rfl
    rw [unused] at found
    cases found
  refine ⟨message, ?_, .refl message⟩
  rw [messages, Table.find_put_of_ne _ _ different, found]

theorem keepsMessages_of_change {messageId : String}
    {stored row : WhatsAppMessage}
    (present : store.messages.find messageId = some stored)
    (continues : row.Continues stored)
    (messages : after.messages = store.messages.put messageId row) :
    store.KeepsMessages after := by
  intro id message found
  by_cases same : id = messageId
  · subst same
    rw [present] at found
    cases found
    exact ⟨row, by rw [messages, Table.find_put_self], continues⟩
  · refine ⟨message, ?_, .refl message⟩
    rw [messages, Table.find_put_of_ne _ _ same, found]

/-! ## The steps that write messages -/

theorem answer_messages {contactId : String} {message : IncomingMessage}
    {replyKind : ReplyKind} {reply idempotencyKey messageId : String}
    (unused : Unused store.messages messageId) :
    store.KeepsMessages (store.answer contactId message replyKind reply
      idempotencyKey now messageId) := by
  unfold answer storeOutgoingPending
  dsimp only
  split
  case h_1 => exact keepsMessages_of_same rfl
  case h_2 => exact keepsMessages_of_add unused rfl

theorem storeIncoming_messages {contactId messageId : String}
    {message : IncomingMessage} (unused : Unused store.messages messageId) :
    store.KeepsMessages (store.storeIncoming contactId messageId message) := by
  unfold storeIncoming
  dsimp only
  split
  case h_1 => exact keepsMessages_of_same rfl
  case h_2 => exact keepsMessages_of_add unused rfl

theorem receive_messages {message : IncomingMessage} {id : String}
    (result : store.receive message id = some after) :
    store.KeepsMessages after := by
  unfold receive at result
  split at result
  case h_1 =>
    split at result
    case isTrue unused =>
      cases result
      exact storeIncoming_messages unused
    case isFalse => cases result
  case h_2 =>
    split at result
    case isTrue unused =>
      cases result
      have registered : store.KeepsMessages
          { store with contacts := store.contacts.put message.waId id } :=
        keepsMessages_of_same rfl
      exact registered.trans (storeIncoming_messages unused.1)
    case isFalse => cases result

theorem createApproval_messages
    {phone userId contactId browserNonce : String} {pending : List String}
    {challengeId messageId verifier : String}
    (result : store.createApproval settings sha256 phone userId contactId
      browserNonce pending now challengeId messageId verifier =
        some (after, next)) : store.KeepsMessages after := by
  rcases createApproval_eq result with ⟨rfl, _⟩ |
    ⟨_, ⟨_, _, _, rfl, _, ⟨_, rfl⟩ | ⟨_, unused, rfl⟩⟩, _⟩
  · exact keepsMessages_of_same rfl
  · exact keepsMessages_of_same rfl
  · exact keepsMessages_of_add unused rfl

theorem setMessage_messages {messageId : String}
    {stored row : WhatsAppMessage}
    (present : store.messages.find messageId = some stored)
    (continues : row.Continues stored) :
    store.KeepsMessages (store.setMessage messageId row) :=
  keepsMessages_of_change present continues rfl

/-- A claim is written, rolled back, or left to the commit that blocks the
prompt, which holds the stored row as it is claimed. -/
theorem claimMessage_messages {messageId : String} {following : AfterSend}
    (result : store.claimMessage settings messageId following now =
      some (after, next)) :
    store.KeepsMessages after ∧
    ∀ blocked claimed challengeId further,
      next = some (.blockPrompt blocked claimed challengeId further) →
      ∃ stored, after.messages.find blocked = some stored ∧
        claimed.Continues stored := by
  have unblocked : ∀ {sent : Bool} {blocked : String}
      {claimed : WhatsAppMessage} {challengeId : String}
      {further : AfterSend}, afterSend following sent ≠
        some (.blockPrompt blocked claimed challengeId further) := by
    intro sent blocked claimed challengeId further goesOn
    obtain ⟨_, _, _, same⟩ := afterSend_eq goesOn
    cases same
  unfold claimMessage at result
  split at result
  case isTrue => cases result
  case isFalse =>
    split at result
    case h_1 =>
      cases result
      exact ⟨keepsMessages_of_same rfl,
        fun _ _ _ _ goesOn => absurd goesOn unblocked⟩
    case h_2 message found =>
      have claims := setMessage_messages found (message.claim_continues now)
      have gives := setMessage_messages found
        ((message.claim_continues now).trans
          ((message.claim now).mark_continues .failed))
      split at result
      case isTrue =>
        cases result
        exact ⟨keepsMessages_of_same rfl,
          fun _ _ _ _ goesOn => absurd goesOn unblocked⟩
      case isFalse =>
        dsimp only at result
        split at result
        case isTrue =>
          cases result
          exact ⟨gives, fun _ _ _ _ goesOn => absurd goesOn unblocked⟩
        case isFalse =>
          split at result
          case isTrue =>
            cases result
            exact ⟨claims, by simp⟩
          case isFalse =>
            split at result
            case h_1 =>
              cases result
              exact ⟨gives, fun _ _ _ _ goesOn => absurd goesOn unblocked⟩
            case h_2 =>
              split at result
              case isTrue =>
                cases result
                exact ⟨claims, by simp⟩
              case isFalse =>
                cases result
                refine ⟨keepsMessages_of_same rfl, ?_⟩
                rintro _ _ _ _ ⟨⟩
                exact ⟨message, found, message.claim_continues now⟩
            case h_3 =>
              cases result
              exact ⟨keepsMessages_of_same rfl, by simp⟩

theorem recordSend_messages {messageId : String} {following : AfterSend}
    {outcome : GraphOutcome}
    (result : store.recordSend messageId following outcome =
      some (after, next)) : store.KeepsMessages after := by
  unfold recordSend at result
  split at result
  case isTrue => cases result
  case isFalse =>
    split at result
    case h_1 => cases result
    case h_2 message found =>
      split at result
      case h_1 =>
        cases result
        exact setMessage_messages found (message.mark_continues .pending)
      case h_2 =>
        cases result
        exact setMessage_messages found (message.mark_continues .sent)
      case h_3 =>
        split at result
        case h_1 =>
          cases result
          exact keepsMessages_of_same rfl
        case h_2 =>
          cases result
          exact setMessage_messages found ⟨rfl, rfl, rfl, rfl, rfl⟩

theorem blockPrompt_messages {messageId challengeId : String}
    {claimed stored : WhatsAppMessage}
    (present : store.messages.find messageId = some stored)
    (continues : claimed.Continues stored) :
    store.KeepsMessages
      (store.blockPrompt messageId claimed challengeId now) :=
  keepsMessages_of_change present
    (continues.trans (claimed.mark_continues .blocked24h)) rfl

theorem decide_messages {contactId : String} {message : IncomingMessage}
    {approves : Bool} {challengeId verifier messageId : String}
    (result : store.decide sha256 contactId message approves challengeId
      verifier now messageId = some after) : store.KeepsMessages after := by
  unfold decide at result
  split at result
  case isFalse => cases result
  case isTrue unused =>
    split at result
    case h_1 =>
      cases result
      exact answer_messages unused
    case h_2 decided promptId prompt settled =>
      cases result
      obtain ⟨row, _, _, _, _, _, _, _, _, rfl⟩ :=
        decideLoginApproval_eq settled
      have logged : store.KeepsMessages
          { store with
            approvals := store.approvals.put challengeId
              (decidedRow row approves message.metaMessageId now)
            decisions :=
              { challengeId := challengeId, approves := approves
                verifier := verifier, message := message
                contactId := contactId, promptId := promptId
                prompt := prompt, decidedAt := now } :: store.decisions } :=
        keepsMessages_of_same rfl
      exact logged.trans (answer_messages unused)

theorem verifyCode_messages {contactId : String} {message : IncomingMessage}
    {codeText messageId : String}
    (result : store.verifyCode sha256 contactId message codeText now
      messageId = some (after, next)) : store.KeepsMessages after := by
  unfold verifyCode at result
  split at result
  case isFalse => cases result
  case isTrue unused =>
    dsimp only at result
    split at result
    case h_1 =>
      cases result
      exact answer_messages unused
    case h_2 =>
      split at result
      case h_1 => cases result
      case h_2 =>
        split at result
        case isTrue =>
          cases result
          exact keepsMessages_of_same rfl
        case isFalse =>
          cases result
          exact answer_messages unused
    case h_3 =>
      cases result
      exact keepsMessages_of_same rfl

theorem markVerified_messages {contactId : String} {message : IncomingMessage}
    {verificationId id : String}
    (result : store.markVerified contactId message verificationId now id =
      some after) : store.KeepsMessages after := by
  unfold markVerified at result
  split at result
  case isFalse => cases result
  case isTrue unused =>
    split at result
    case h_1 =>
      cases result
      exact keepsMessages_of_same rfl
    case h_2 upserted userId linked =>
      cases result
      obtain ⟨rfl, _⟩ := upsertUserForVerifiedPhone_eq unused.1 linked
      have marked : store.KeepsMessages
          ({ store with
            users := store.users.put userId
              { phone := normalizePhone message.waId
                contactId := some contactId } }.markVerificationVerified
              verificationId userId now) :=
        keepsMessages_of_same rfl
      exact marked.trans (answer_messages unused.2)

end Store

/-- Every step keeps the messages, a step that blocks a prompt because it holds
the stored row. -/
theorem Handler.resume_messages
    (holds : ∀ messageId claimed challengeId following,
      handler = .blockPrompt messageId claimed challengeId following →
      ∃ stored, store.messages.find messageId = some stored ∧
        claimed.Continues stored)
    (resumed : handler.resume settings sha256 parseUuid store choice =
      some (after, next)) : store.KeepsMessages after := by
  cases Handler.resume_writes resumed with
  | rests same => exact Store.keepsMessages_of_same (by rw [same])
  | asks asked => exact Store.keepsMessages_of_same (by rw [asked])
  | opens created => exact Store.createApproval_messages created
  | inserts inserted =>
      obtain ⟨_, _, rfl, _⟩ := Store.insertCode_eq inserted
      exact Store.keepsMessages_of_same rfl
  | claims claimed => exact (Store.claimMessage_messages claimed).1
  | blocks blocked =>
      obtain ⟨_, present, continues⟩ := holds _ _ _ _ rfl
      rw [blocked]
      exact Store.blockPrompt_messages present continues
  | records recorded => exact Store.recordSend_messages recorded
  | receives received => exact Store.receive_messages received
  | holds held =>
      obtain ⟨⟨_, rfl⟩, _⟩ := Store.handleInbound_eq held
      exact Store.keepsMessages_of_same rfl
  | decides decided => exact Store.decide_messages decided
  | verifies verified => exact Store.verifyCode_messages verified
  | marks marked => exact Store.markVerified_messages marked
  | @redeems verificationId userId now redeemed =>
      rw [redeemed]
      rcases store.issueForVerification_eq verificationId userId now with
        same | ⟨_, _, _, issued⟩
      · exact Store.keepsMessages_of_same (by rw [same])
      · exact Store.keepsMessages_of_same (by rw [issued])
  | @signsIn challengeId browserNonce now signed =>
      rw [signed]
      rcases store.issueForApproval_eq challengeId browserNonce now with
        same | ⟨_, _, _, _, _, issued⟩
      · exact Store.keepsMessages_of_same (by rw [same])
      · exact Store.keepsMessages_of_same (by rw [issued])

/-! ## The request behind a challenge -/

/-- A `request_code` with this nonce has been made for the phone. -/
def Store.Asked (store : Store) (phone : String)
    (browserNonce : Option String) : Prop :=
  ∃ body ∈ store.requests, normalizePhone body.phone = phone ∧
    body.browserNonce = browserNonce

/-- What a handler has from the request it is part of, and what it holds of the
message it is about to block. -/
def Handler.Traced (store : Store) : Handler → Prop
  | .linkedUser phone browserNonce => store.Asked phone browserNonce
  | .supersede phone _ _ browserNonce => store.Asked phone browserNonce
  | .createApproval phone _ _ browserNonce _ => store.Asked phone browserNonce
  | .blockPrompt messageId claimed _ _ =>
      ∃ stored, store.messages.find messageId = some stored ∧
        claimed.Continues stored
  | _ => True

theorem Store.Asked.carry {phone : String} {browserNonce : Option String}
    (asked : store.Asked phone browserNonce)
    (requests : ∀ body ∈ store.requests, body ∈ after.requests) :
    after.Asked phone browserNonce := by
  obtain ⟨body, member, same, nonce⟩ := asked
  exact ⟨body, requests body member, same, nonce⟩

theorem Handler.Traced.carry (traced : handler.Traced store)
    (requests : ∀ body ∈ store.requests, body ∈ after.requests)
    (messages : store.KeepsMessages after) : handler.Traced after := by
  cases handler
  case linkedUser => exact Store.Asked.carry traced requests
  case supersede => exact Store.Asked.carry traced requests
  case createApproval => exact Store.Asked.carry traced requests
  case blockPrompt =>
    obtain ⟨stored, found, continues⟩ := traced
    obtain ⟨kept, present, further⟩ := messages _ stored found
    exact ⟨kept, present, further.symm.trans continues⟩
  all_goals trivial

theorem Handler.Effect.requests
    (effect : handler.Effect settings sha256 store after) :
    ∀ body ∈ store.requests, body ∈ after.requests := by
  intro body member
  cases effect with
  | quiet _ quiet => exact quiet.requests ▸ member
  | asks _ same =>
      rw [same]
      exact .tail _ member
  | opens created =>
      rcases Store.createApproval_eq created with
        ⟨rfl, _⟩ | ⟨_, ⟨_, _, _, rfl, _⟩, _⟩
      · exact member
      · exact member
  | receives received =>
      obtain ⟨_, _, rfl, _⟩ := Store.receive_eq received
      exact member
  | decides decided =>
      rcases Store.decide_eq decided with
        ⟨_, _, _, rfl⟩ | ⟨_, _, _, _, _, _, _, _, _, _, _, _, _, _, rfl⟩
      · exact member
      · exact member

/-- A handler goes on with the phone and the nonce of its request. -/
theorem Handler.resume_traced {following : Handler}
    (traced : handler.Traced store)
    (resumed : handler.resume settings sha256 parseUuid store choice =
      some (after, some following)) :
    following.Traced after := by
  have requests := (Handler.resume_effect resumed).requests
  cases Handler.resume_follows resumed with
  | counted asked _ => exact ⟨_, asked, rfl, rfl⟩
  | linked => exact Store.Asked.carry traced requests
  | selected => exact Store.Asked.carry traced requests
  | blocked claimed =>
      exact (Store.claimMessage_messages claimed).2 _ _ _ _ rfl
  | _ => trivial

end

/-! ## Openings -/

section

variable (settings : Settings) (sha256 : String → String)

/-- The row holds the hashes of the verifier and of the nonce that the
challenge was opened with, for the user it was opened for. -/
structure LoginApprovalChallenge.OpenedBy (row : LoginApprovalChallenge)
    (opening : Opening) : Prop where
  user : row.userId = opening.userId
  contact : row.contactId = opening.contactId
  phone : row.phone = opening.phone
  verifier : row.verifierHash = hashCode sha256 opening.verifier
  nonce : row.browserNonceHash = hashCode sha256 opening.browserNonce
  expires : row.expiresAt =
    opening.openedAt + minutes settings.verificationCodeTtlMinutes

/-- The message is the prompt of the challenge, whose two buttons carry the
challenge and its verifier. -/
structure WhatsAppMessage.Prompts (message : WhatsAppMessage)
    (challengeId : String) (opening : Opening) : Prop where
  contact : message.contactId = opening.contactId
  direction : message.direction = .outgoing
  replyKind : message.replyKind = some .loginApproval
  buttons : message.buttons.map Prod.fst =
    [buildLoginApprovalId loginApprovalYes challengeId opening.verifier,
      buildLoginApprovalId loginApprovalNo challengeId opening.verifier]

/-- The decision came from the contact of the challenge, with its verifier and
in reply to its prompt. -/
structure Decision.Answers (decision : Decision) (opening : Opening) :
    Prop where
  verifier : hashCode sha256 decision.verifier =
    hashCode sha256 opening.verifier
  contact : decision.contactId = opening.contactId
  phone : decision.message.waId = opening.phone
  promptId : decision.promptId = opening.promptId
  prompt : decision.prompt.Prompts decision.challengeId opening

/-- The challenge was opened for a request that was made, and the message its
row names is its prompt. -/
structure Store.Opened (store : Store) (challengeId : String)
    (row : LoginApprovalChallenge) (opening : Opening) : Prop where
  found : store.openings.find challengeId = some opening
  hashes : row.OpenedBy settings sha256 opening
  asked : store.Asked opening.phone (some opening.browserNonce)
  prompt : ∀ promptId, row.approvalOutboundMessageId = some promptId →
    promptId = opening.promptId ∧
      ∃ message, store.messages.find promptId = some message ∧
        message.Prompts challengeId opening

/-- The challenge that was decided is there, and the decision answers it. -/
def Store.Answered (store : Store) (decision : Decision) : Prop :=
  ∃ row opening, store.approvals.find decision.challengeId = some row ∧
    store.openings.find decision.challengeId = some opening ∧
    decision.Answers sha256 opening

end

section

variable {settings : Settings} {sha256 : String → String}
  {parseUuid : String → Option String} {store after : Store}
  {handler : Handler} {next : Option Handler} {challengeId : String}
  {row later : LoginApprovalChallenge} {opening : Opening}

theorem LoginApprovalChallenge.OpenedBy.of_agrees
    (opened : row.OpenedBy settings sha256 opening)
    (agrees : later.Agrees row) :
    later.OpenedBy settings sha256 opening := by
  obtain ⟨user, contact, phone, verifier, nonce, expires, _⟩ := agrees
  exact ⟨user.trans opened.user, contact.trans opened.contact,
    phone.trans opened.phone, verifier.trans opened.verifier,
    nonce.trans opened.nonce, expires.trans opened.expires⟩

theorem WhatsAppMessage.Prompts.of_continues
    {message kept : WhatsAppMessage}
    (prompts : message.Prompts challengeId opening)
    (continues : kept.Continues message) :
    kept.Prompts challengeId opening :=
  ⟨continues.contact.trans prompts.contact,
    continues.direction.trans prompts.direction,
    continues.replyKind.trans prompts.replyKind,
    by rw [continues.buttons, prompts.buttons]⟩

theorem Store.Opened.carry
    (opened : store.Opened settings sha256 challengeId row opening)
    (agrees : later.Agrees row)
    (openings : after.openings.find challengeId =
      store.openings.find challengeId)
    (requests : ∀ body ∈ store.requests, body ∈ after.requests)
    (messages : store.KeepsMessages after) :
    after.Opened settings sha256 challengeId later opening := by
  refine ⟨openings.trans opened.found, opened.hashes.of_agrees agrees,
    opened.asked.carry requests, ?_⟩
  intro promptId recorded
  obtain ⟨_, _, _, _, _, _, prompt⟩ := agrees
  obtain ⟨same, message, stored, prompts⟩ :=
    opened.prompt promptId (prompt.symm.trans recorded)
  obtain ⟨kept, present, continues⟩ := messages promptId message stored
  exact ⟨same, kept, present, prompts.of_continues continues⟩

/-- A new row comes from the step that opens its challenge. -/
theorem Handler.Effect.opened
    (effect : handler.Effect settings sha256 store after)
    (traced : handler.Traced store)
    (absent : store.approvals.find challengeId = none)
    (found : after.approvals.find challengeId = some row) :
    ∃ opening, after.Opened settings sha256 challengeId row opening := by
  cases effect with
  | quiet _ quiet =>
      rw [quiet.unborn challengeId absent] at found
      cases found
  | asks _ same =>
      rw [same] at found
      exact absurd (found.symm.trans absent) nofun
  | receives received =>
      obtain ⟨_, _, rfl, _⟩ := Store.receive_eq received
      exact absurd (found.symm.trans absent) nofun
  | decides decided =>
      rcases Store.decide_eq decided with ⟨_, _, _, rfl⟩ |
        ⟨_, _, _, _, _, _, stored, _, _, _, _, _, _, _, rfl⟩
      · exact absurd (found.symm.trans absent) nofun
      · rw [Table.find_put] at found
        split at found
        case isTrue same =>
          rw [← same, absent] at stored
          cases stored
        case isFalse => exact absurd (found.symm.trans absent) nofun
  | opens created =>
      rcases Store.createApproval_eq created with ⟨rfl, _⟩ |
        ⟨_, ⟨approvals, messages, prompt, rfl, rows, prompted⟩, _⟩
      · exact absurd (found.symm.trans absent) nofun
      · rw [rows] at found
        split at found
        case isFalse =>
          rw [absent] at found
          cases found
        case isTrue same =>
          subst same
          cases found
          refine ⟨_, Table.find_put_self _ _ _, ⟨rfl, rfl, rfl, rfl, rfl, rfl⟩,
            traced, ?_⟩
          intro promptId recorded
          rcases prompted with ⟨none, _⟩ | ⟨some, _, rfl⟩
          · rw [none] at recorded
            cases recorded
          · rw [some] at recorded
            cases recorded
            exact ⟨rfl, _, Table.find_put_self _ _ _, rfl, rfl, rfl, rfl⟩

/-- The step that opens a challenge draws a new id, so that the openings of the
rows that are there stay. -/
theorem Handler.Effect.openings
    (effect : handler.Effect settings sha256 store after)
    (found : store.approvals.find challengeId = some row) :
    after.openings.find challengeId = store.openings.find challengeId := by
  cases effect with
  | quiet _ quiet => rw [quiet.openings]
  | asks _ same => rw [same]
  | @opens _ _ _ _ _ _ drawn _ _ _ created =>
      rcases Store.createApproval_eq created with
        ⟨rfl, _⟩ | ⟨unused, ⟨_, _, _, rfl, _⟩, _⟩
      · rfl
      · have different : challengeId ≠ drawn := by
          rintro rfl
          exact absurd (found.symm.trans unused) nofun
        exact Table.find_put_of_ne _ _ different
  | receives received =>
      obtain ⟨_, _, rfl, _⟩ := Store.receive_eq received
      rfl
  | decides decided =>
      rcases Store.decide_eq decided with
        ⟨_, _, _, rfl⟩ | ⟨_, _, _, _, _, _, _, _, _, _, _, _, _, _, rfl⟩
      · rfl
      · rfl

/-- A decision that is added replies to a message that is stored under the id
in the row. -/
theorem Handler.Effect.decided
    (effect : handler.Effect settings sha256 store after)
    {decision : Decision} (member : decision ∈ after.decisions)
    (new : decision ∉ store.decisions) :
    ∃ row, store.approvals.find decision.challengeId = some row ∧
      row.verifierHash = hashCode sha256 decision.verifier ∧
      row.contactId = decision.contactId ∧
      row.phone = decision.message.waId ∧
      row.approvalOutboundMessageId = some decision.promptId ∧
      store.messages.find decision.promptId = some decision.prompt := by
  cases effect with
  | quiet _ quiet => exact absurd (quiet.decisions ▸ member) new
  | asks _ same =>
      rw [same] at member
      exact absurd member new
  | opens created =>
      rcases Store.createApproval_eq created with
        ⟨rfl, _⟩ | ⟨_, ⟨_, _, _, rfl, _⟩, _⟩
      · exact absurd member new
      · exact absurd member new
  | receives received =>
      obtain ⟨_, _, rfl, _⟩ := Store.receive_eq received
      exact absurd member new
  | decides decided =>
      rcases Store.decide_eq decided with ⟨_, _, _, rfl⟩ |
        ⟨row, _, _, _, _, _, found, _, _, verifier, contact, phone, recorded,
          ⟨stored, _⟩, rfl⟩
      · exact absurd member new
      · rcases List.mem_cons.mp member with rfl | before
        · exact ⟨row, found, verifier, contact, phone, recorded, stored⟩
        · exact absurd before new

/-- A decision stays answered while rows and openings stay. -/
theorem Store.Answered.carry {decision : Decision}
    (answered : store.Answered sha256 decision)
    (rows : ∀ row,
      store.approvals.find decision.challengeId = some row →
      (∃ later, after.approvals.find decision.challengeId = some later) ∧
        after.openings.find decision.challengeId =
          store.openings.find decision.challengeId) :
    after.Answered sha256 decision := by
  obtain ⟨row, opening, found, opened, answers⟩ := answered
  obtain ⟨⟨later, present⟩, openings⟩ := rows row found
  exact ⟨later, opening, present, openings.trans opened, answers⟩

end

/-! ## Runs -/

def openingInvariant (settings : Settings) (sha256 : String → String) :
    Process.Invariant Store Handler :=
  { shared := fun store =>
      (∀ challengeId row, store.approvals.find challengeId = some row →
        ∃ opening, store.Opened settings sha256 challengeId row opening) ∧
      ∀ decision ∈ store.decisions, store.Answered sha256 decision
    own := fun store handler => handler.Traced store
    pair := fun _ _ => True }

section

variable {settings : Settings} {sha256 : String → String}
  {parseUuid : String → Option String} {store after : Store}
  {handler : Handler} {choice : Choice} {next : Option Handler}
  {world : World Store Handler}

/-- A step leaves every row with its opening, and every decision with the
opening that it answers. -/
theorem Handler.resume_opened
    (holds : (openingInvariant settings sha256).shared store)
    (parsed : handler.Parsed parseUuid store)
    (traced : handler.Traced store) (messages : store.KeepsMessages after)
    (resumed : handler.resume settings sha256 parseUuid store choice =
      some (after, next)) :
    (openingInvariant settings sha256).shared after := by
  have effect := Handler.resume_effect resumed
  have moves := Handler.resume_move parsed resumed
  have stays : ∀ challengeId row,
      store.approvals.find challengeId = some row →
      ∃ later, after.approvals.find challengeId = some later ∧
        later.Agrees row :=
    fun challengeId row found => (moves challengeId).agrees found
  constructor
  · intro challengeId row found
    cases stored : store.approvals.find challengeId with
    | none => exact effect.opened traced stored found
    | some before =>
        obtain ⟨later, present, agrees⟩ := stays challengeId before stored
        cases present.symm.trans found
        obtain ⟨opening, opened⟩ := holds.1 challengeId before stored
        exact ⟨opening, opened.carry agrees (effect.openings stored)
          effect.requests messages⟩
  · intro decision member
    by_cases logged : decision ∈ store.decisions
    · apply (holds.2 decision logged).carry
      intro row found
      obtain ⟨later, present, _⟩ := stays _ row found
      exact ⟨⟨later, present⟩, effect.openings found⟩
    · obtain ⟨row, found, verifier, contact, phone, recorded, stored⟩ :=
        effect.decided member logged
      obtain ⟨opening, opened⟩ := holds.1 _ row found
      obtain ⟨later, present, _⟩ := stays _ row found
      obtain ⟨promptId, message, prompt, prompts⟩ :=
        opened.prompt decision.promptId recorded
      cases prompt.symm.trans stored
      exact ⟨later, opening, present,
        (effect.openings found).trans opened.found,
        { verifier := verifier.symm.trans opened.hashes.verifier
          contact := contact.symm.trans opened.hashes.contact
          phone := phone.symm.trans opened.hashes.phone
          promptId := promptId
          prompt := prompts }⟩

theorem openingInvariant_holds
    (reachable : (login settings sha256 parseUuid).system.Reachable world) :
    (openingInvariant settings sha256).Holds world := by
  apply Process.Invariant.holds _ _ _ _ reachable
  · intro store initial
    constructor
    · simp [initial.approvals]
    · simp [initial.decisions]
  · intro world pid request _ holds _
    refine ⟨?_, fun _ _ _ _ => ⟨trivial, trivial⟩⟩
    cases request <;> trivial
  · intro world pid choice handler store next reached holds _ running resumed
    have traced : handler.Traced world.shared := holds.2.1 pid handler running
    have parsed := (approvalInvariant_holds reached).2.1 pid handler running
    have messages : world.shared.KeepsMessages store := by
      apply Handler.resume_messages _ resumed
      rintro _ _ _ _ rfl
      exact traced
    refine ⟨Handler.resume_opened holds.1 parsed traced messages resumed,
      ?_, ?_⟩
    · intro other process _ found
      have before : process.Traced world.shared :=
        holds.2.1 other process found
      exact before.carry (Handler.resume_effect resumed).requests messages
    · rintro following rfl
      exact ⟨Handler.resume_traced traced resumed,
        fun _ _ _ _ => ⟨trivial, trivial⟩⟩
  · intro world pid handler _ holds _ running
    obtain ⟨contacts, held, released⟩ := handler.release_eq world.shared
    have messages : world.shared.KeepsMessages
        { world.shared with heldContacts := contacts, heldMessages := held } :=
      Store.keepsMessages_of_same rfl
    change (openingInvariant settings sha256).shared
      (handler.release world.shared) ∧ (openingInvariant settings
        sha256).Undisturbed world pid (handler.release world.shared)
    rw [released]
    refine ⟨⟨?_, ?_⟩, ?_⟩
    · intro challengeId row found
      obtain ⟨opening, opened⟩ := holds.1.1 challengeId row found
      exact ⟨opening, opened.carry (.refl row) rfl (fun _ member => member)
        messages⟩
    · intro decision member
      exact (holds.1.2 decision member).carry
        fun row found => ⟨⟨row, found⟩, rfl⟩
    · intro other process _ found
      have before : process.Traced world.shared :=
        holds.2.1 other process found
      exact before.carry (fun _ member => member) messages

/-- The step that logs a decision finds the prompt it replies to. -/
theorem login_decided {label : Label Request Choice}
    {further : World Store Handler} {decision : Decision}
    (taken : (login settings sha256 parseUuid).system.step world label =
      some further)
    (member : decision ∈ further.shared.decisions)
    (new : decision ∉ world.shared.decisions) :
    world.shared.messages.find decision.promptId = some decision.prompt := by
  rcases Process.Program.step_cases taken with
    ⟨_, _, _, _, rfl⟩ |
    ⟨pid, choice, handler, store, after, _, running, resumed, rfl⟩ |
    ⟨_, handler, _, _, rfl⟩
  · exact absurd member new
  · obtain ⟨_, _, _, _, _, _, stored⟩ :=
      (Handler.resume_effect resumed).decided member new
    exact stored
  · obtain ⟨_, _, released⟩ := handler.release_eq world.shared
    have same : (handler.release world.shared).decisions =
        world.shared.decisions := by
      rw [released]
    exact absurd (same ▸ member) new

/-- A login by approval: at most one token pair for a challenge.  A step that
hands one out does so before the challenge expires, for the nonce of the
request that opened it, after a decision that approved it before it expired:
from the contact it is bound to, with the verifier in the buttons of its
prompt, and in reply to that prompt as it was stored.  Once the challenge is
denied, superseded or fallen back, no later step hands out anything for it. -/
theorem login_approval_safe
    (reachable : (login settings sha256 parseUuid).system.Reachable world)
    (challengeId : String) :
    (world.shared.challenge challengeId).issues.length ≤ 1 ∧
    (∀ label next issue,
      (login settings sha256 parseUuid).system.step world label = some next →
      issue ∈ next.shared.approvalIssues →
      issue ∉ world.shared.approvalIssues →
      issue.challengeId = challengeId →
      ∃ row opening, world.shared.approvals.find challengeId = some row ∧
        world.shared.Opened settings sha256 challengeId row opening ∧
        issue.EarnedBy sha256 row ∧
        hashCode sha256 issue.browserNonce =
          hashCode sha256 opening.browserNonce ∧
        ∃ decision ∈ world.shared.decisions, decision.approves = true ∧
          decision.Settles sha256 parseUuid challengeId row ∧
          decision.Answers sha256 opening ∧
          world.shared.contacts.find decision.message.waId =
            some decision.contactId) ∧
    (∀ label next decision,
      (login settings sha256 parseUuid).system.step world label = some next →
      decision ∈ next.shared.decisions →
      decision ∉ world.shared.decisions →
      decision.challengeId = challengeId →
      world.shared.messages.find decision.promptId = some decision.prompt) ∧
    ∀ row labels final,
      world.shared.approvals.find challengeId = some row →
      (row.status = .denied ∨ row.status = .superseded ∨
        row.status = .fallback) →
      (login settings sha256 parseUuid).system.RunWhen
        Transition.System.Always world labels final →
      (final.shared.challenge challengeId).issues =
        (world.shared.challenge challengeId).issues := by
  have holds := approvalInvariant_holds reachable
  have traced := openingInvariant_holds reachable
  refine ⟨(holds.1.1 challengeId).once, ?_, ?_, ?_⟩
  · intro label next issue taken member new same
    have issued : issue ∈ (next.shared.challenge challengeId).issues := by
      simp [Store.challenge, member, same]
    rcases (login_move reachable taken challengeId).issued issued with
      before | ⟨row, found, approved, earned⟩
    · exact absurd (List.mem_filter.mp before).1 new
    · obtain ⟨decision, decided, approves, settles⟩ :=
        (holds.1.1 challengeId).approved row found approved
      obtain ⟨logged, own⟩ := List.mem_filter.mp decided
      have about : decision.challengeId = challengeId :=
        of_decide_eq_true own
      obtain ⟨opening, opened⟩ := traced.1.1 challengeId row found
      obtain ⟨_, answered, _, opens, answers⟩ := traced.1.2 decision logged
      rw [about] at opens
      cases opens.symm.trans opened.found
      exact ⟨row, opening, found, opened, earned,
        earned.nonce.trans opened.hashes.nonce, decision, logged, approves,
        settles, answers, holds.1.2 decision logged⟩
  · intro label next decision taken member new _
    exact login_decided taken member new
  · intro row labels final found status runs
    have closed : (world.shared.challenge challengeId).Closed := by
      refine ⟨row, found, ?_⟩
      rcases status with status | status | status <;> simp [status]
    exact (staysClosed_of_run reachable runs closed).2

end

/-! ## A login that is approved -/

def approvedLogin : List (Label Request Choice) :=
  let challengeId := "7b0f5f3e-4a52-4b55-9a6c-3f1d2c1b0a99"
  let verifier := "q1w2e3r4t5y6u7i8o9p0"
  [.spawn 0 (.requestCode
      { phone := "98765 43210", browserNonce := some "nonce" }),
    .resume 0 (.now 10), .resume 0 (.now 11), .resume 0 (.now 12),
    .resume 0 (.approval 13 challengeId "prompt" verifier),
    .resume 0 (.now 14), .resume 0 (.graph 15 (.accepted (some "wamid.prompt"))),
    .spawn 1 (.handleInbound
      { waId := "919876543210", metaMessageId := "wamid.yes", receivedAt := 20
        textBody := some "Yes, it's me"
        replyId := some (buildLoginApprovalId loginApprovalYes challengeId
          verifier)
        contextMessageId := some "wamid.prompt" }),
    .resume 1 (.now 21), .resume 1 (.fresh 22 "reply"),
    .spawn 2 (.approvalStatus challengeId "nonce"),
    .resume 2 (.now 30)]

theorem login_approval_safe_approved :
    ∃ (world next : World Store Handler) (issue : ApprovalIssue),
      (login defaultSettings id some).system.step world
        (.resume 2 (.now 31)) = some next ∧
      issue ∈ next.shared.approvalIssues ∧
      (next.shared.challenge
        "7b0f5f3e-4a52-4b55-9a6c-3f1d2c1b0a99").issues.length = 1 ∧
      ∃ row opening, world.shared.Opened defaultSettings id
          "7b0f5f3e-4a52-4b55-9a6c-3f1d2c1b0a99" row opening ∧
        hashCode id issue.browserNonce = hashCode id opening.browserNonce ∧
        ∃ decision ∈ world.shared.decisions,
          decision.Answers id opening := by
  let challengeId := "7b0f5f3e-4a52-4b55-9a6c-3f1d2c1b0a99"
  let issue : ApprovalIssue :=
    { challengeId := challengeId, browserNonce := "nonce", userId := "user"
      issuedAt := 31 }
  have initial : (login defaultSettings id some).system.initial
      (World.start linkedStore) :=
    ⟨linkedStore, initial_linkedStore, rfl⟩
  have ran : (((login defaultSettings id some).system.run
      (World.start linkedStore) approvedLogin).bind fun middle =>
      ((login defaultSettings id some).system.run middle
        [.resume 2 (.now 31)]).map fun final =>
        (middle.shared.approvalIssues, final.shared.approvalIssues)) =
        some ([], [issue]) := by
    decide +kernel
  obtain ⟨world, next, reachable, runs, before, after⟩ :=
    Transition.System.runs_of_run_map initial ran
  cases runs with
  | cons _ taken rest =>
    cases rest
    have issued : issue ∈ next.shared.approvalIssues := by
      rw [after]
      exact .head _
    have new : issue ∉ world.shared.approvalIssues := by
      rw [before]
      exact List.not_mem_nil
    obtain ⟨row, opening, _, opened, _, nonce, decision, logged, _, _,
      answers, _⟩ :=
      (login_approval_safe reachable challengeId).2.1 _ next issue taken
        issued new rfl
    refine ⟨world, next, issue, taken, issued, ?_, row, opening, opened,
      nonce, decision, logged, answers⟩
    simp [Store.challenge, after, issue, challengeId]

end JanSetu.Auth
