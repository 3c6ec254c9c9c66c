import JanSetu.Auth.Store

/-!
# One login-approval challenge

What the tables hold about one challenge is a small automaton of its own: a
row is created pending, closed without tokens, decided by a reply, and consumed
for tokens.  The safety of a login is proved on its moves.
-/

namespace JanSetu.Auth

/-- What the tables hold about one challenge id. -/
structure Challenge where
  row : Option LoginApprovalChallenge
  decisions : List Decision
  issues : List ApprovalIssue

def Store.challenge (store : Store) (challengeId : String) : Challenge :=
  { row := store.approvals.find challengeId
    decisions := store.decisions.filter (·.challengeId = challengeId)
    issues := store.approvalIssues.filter (·.challengeId = challengeId) }

/-- The part of a row that is written once, when the row is created. -/
def LoginApprovalChallenge.Agrees (left right : LoginApprovalChallenge) :
    Prop :=
  left.userId = right.userId ∧ left.contactId = right.contactId ∧
    left.phone = right.phone ∧ left.verifierHash = right.verifierHash ∧
    left.browserNonceHash = right.browserNonceHash ∧
    left.expiresAt = right.expiresAt ∧
    left.approvalOutboundMessageId = right.approvalOutboundMessageId

section

variable (sha256 : String → String) (parseUuid : String → Option String)

/-- The decision was made before the challenge expired, by a reply from the
contact and phone the challenge is bound to, whose button id names the
challenge and carries its verifier, to the recorded prompt message. -/
structure Decision.Settles (decision : Decision) (challengeId : String)
    (row : LoginApprovalChallenge) : Prop where
  beforeExpiry : decision.decidedAt < row.expiresAt
  reply : ∃ button challengeText,
    parseLoginApprovalId decision.message.replyId =
      some (button, challengeText, decision.verifier) ∧
    parseUuid challengeText = some challengeId ∧
    (decision.approves = true ↔ button = loginApprovalYes)
  verifier : hashCode sha256 decision.verifier = row.verifierHash
  contact : decision.contactId = row.contactId
  phone : decision.message.waId = row.phone
  prompt : row.approvalOutboundMessageId = some decision.promptId
  context : decision.message.contextMessageId = decision.prompt.metaMessageId

/-- The poll presented the nonce of the challenge before it expired, and got
the tokens of the user the challenge is for. -/
structure ApprovalIssue.EarnedBy (issue : ApprovalIssue)
    (row : LoginApprovalChallenge) : Prop where
  beforeExpiry : issue.issuedAt < row.expiresAt
  nonce : hashCode sha256 issue.browserNonce = row.browserNonceHash
  user : issue.userId = row.userId

inductive Challenge.Move (challengeId : String) :
    Challenge → Challenge → Prop where
  | rest (challenge : Challenge) : Move challengeId challenge challenge
  | create {challenge : Challenge} {row : LoginApprovalChallenge} :
      challenge.row = none →
      row.status = .pending →
      Move challengeId challenge { challenge with row := some row }
  | close {challenge : Challenge} {row closed : LoginApprovalChallenge} :
      challenge.row = some row →
      closed.Agrees row →
      closed.status = .superseded ∨ closed.status = .fallback →
      Move challengeId challenge { challenge with row := some closed }
  | decide {challenge : Challenge} {row decided : LoginApprovalChallenge}
      {decision : Decision} :
      challenge.row = some row →
      row.status = .pending →
      decision.Settles sha256 parseUuid challengeId row →
      decided.Agrees row →
      decided.status = (if decision.approves then .approved else .denied) →
      Move challengeId challenge
        { challenge with
          row := some decided
          decisions := decision :: challenge.decisions }
  | consume {challenge : Challenge} {row consumed : LoginApprovalChallenge}
      {issue : ApprovalIssue} :
      challenge.row = some row →
      row.status = .approved →
      issue.EarnedBy sha256 row →
      consumed.Agrees row →
      consumed.status = .consumed →
      Move challengeId challenge
        { challenge with
          row := some consumed
          issues := issue :: challenge.issues }

/-- The challenge was approved by a decision that settles it. -/
def Challenge.ApprovedFor (challenge : Challenge) (challengeId : String)
    (row : LoginApprovalChallenge) : Prop :=
  ∃ decision ∈ challenge.decisions, decision.approves = true ∧
    decision.Settles sha256 parseUuid challengeId row

structure Challenge.Sound (challengeId : String) (challenge : Challenge) :
    Prop where
  unborn : challenge.row = none → challenge.issues = []
  approved : ∀ row, challenge.row = some row → row.status = .approved →
    challenge.ApprovedFor sha256 parseUuid challengeId row
  unissued : ∀ row, challenge.row = some row →
    row.status = .pending ∨ row.status = .approved → challenge.issues = []
  once : challenge.issues.length ≤ 1
  earned : ∀ issue ∈ challenge.issues, ∃ row, challenge.row = some row ∧
    issue.EarnedBy sha256 row ∧
    challenge.ApprovedFor sha256 parseUuid challengeId row

end

/-- Neither open nor approved: no poll gets tokens from here on. -/
def Challenge.Closed (challenge : Challenge) : Prop :=
  ∃ row, challenge.row = some row ∧
    (row.status = .denied ∨ row.status = .superseded ∨
      row.status = .fallback ∨ row.status = .consumed)

variable {sha256 : String → String} {parseUuid : String → Option String}
  {challengeId : String}

theorem LoginApprovalChallenge.Agrees.refl (row : LoginApprovalChallenge) :
    row.Agrees row :=
  ⟨rfl, rfl, rfl, rfl, rfl, rfl, rfl⟩

theorem Decision.Settles.of_agrees {decision : Decision}
    {row other : LoginApprovalChallenge}
    (settles : decision.Settles sha256 parseUuid challengeId row)
    (agrees : other.Agrees row) :
    decision.Settles sha256 parseUuid challengeId other := by
  obtain ⟨_, contact, phone, verifier, _, expires, prompt⟩ := agrees
  exact {
    beforeExpiry := expires ▸ settles.beforeExpiry
    reply := settles.reply
    verifier := verifier ▸ settles.verifier
    contact := contact ▸ settles.contact
    phone := phone ▸ settles.phone
    prompt := prompt ▸ settles.prompt
    context := settles.context }

theorem ApprovalIssue.EarnedBy.of_agrees {issue : ApprovalIssue}
    {row other : LoginApprovalChallenge}
    (earned : issue.EarnedBy sha256 row) (agrees : other.Agrees row) :
    issue.EarnedBy sha256 other := by
  obtain ⟨user, _, _, _, nonce, expires, _⟩ := agrees
  exact {
    beforeExpiry := expires ▸ earned.beforeExpiry
    nonce := nonce ▸ earned.nonce
    user := user ▸ earned.user }

namespace Challenge

variable {challenge next : Challenge}

theorem ApprovedFor.of_agrees {row other : LoginApprovalChallenge}
    (approved : challenge.ApprovedFor sha256 parseUuid challengeId row)
    (agrees : other.Agrees row)
    (kept : ∀ decision ∈ challenge.decisions, decision ∈ next.decisions) :
    next.ApprovedFor sha256 parseUuid challengeId other := by
  obtain ⟨decision, member, approves, settles⟩ := approved
  exact ⟨decision, kept decision member, approves, settles.of_agrees agrees⟩

theorem Move.sound
    (move : Move sha256 parseUuid challengeId challenge next)
    (sound : challenge.Sound sha256 parseUuid challengeId) :
    next.Sound sha256 parseUuid challengeId := by
  cases move with
  | rest => exact sound
  | create absent pending =>
      have none : challenge.issues = [] := sound.unborn absent
      constructor
      · simp [none]
      · rintro row ⟨⟩ approved
        simp [pending] at approved
      · exact fun _ _ _ => none
      · simp [none]
      · simp [none]
  | close found agrees status =>
      constructor
      · simp
      · rintro row ⟨⟩ approved
        simp [approved] at status
      · rintro row ⟨⟩ isOpen
        rcases isOpen with isOpen | isOpen <;> simp [isOpen] at status
      · exact sound.once
      · intro issue member
        obtain ⟨row, foundRow, earned, approved⟩ := sound.earned issue member
        rw [found] at foundRow
        cases foundRow
        exact ⟨_, rfl, earned.of_agrees agrees,
          approved.of_agrees agrees fun _ member => member⟩
  | @decide row decided decision found pending settles agrees status =>
      have none : challenge.issues = [] :=
        sound.unissued row found (.inl pending)
      constructor
      · simp
      · rintro row ⟨⟩ approved
        have approves : decision.approves = true := by
          by_contra denies
          simp [status, denies] at approved
        exact ⟨decision, .head _, approves, settles.of_agrees agrees⟩
      · exact fun _ _ _ => none
      · simp [none]
      · simp [none]
  | @consume row consumed issue found approved earned agrees status =>
      have none : challenge.issues = [] :=
        sound.unissued row found (.inr approved)
      constructor
      · simp
      · rintro row ⟨⟩ approved
        simp [status] at approved
      · rintro row ⟨⟩ isOpen
        simp [status] at isOpen
      · simp [none]
      · intro other member
        rw [none] at member
        cases List.mem_singleton.mp member
        exact ⟨consumed, rfl, earned.of_agrees agrees,
          (sound.approved row found approved).of_agrees agrees
            fun _ member => member⟩

/-- A closed challenge stays closed and yields no tokens. -/
theorem Move.closed
    (move : Move sha256 parseUuid challengeId challenge next)
    (closed : challenge.Closed) :
    next.Closed ∧ next.issues = challenge.issues := by
  obtain ⟨row, found, status⟩ := closed
  cases move with
  | rest => exact ⟨⟨row, found, status⟩, rfl⟩
  | create absent _ => simp [found] at absent
  | @close _ closedRow _ _ closing =>
      refine ⟨⟨closedRow, rfl, ?_⟩, rfl⟩
      rcases closing with closing | closing <;> simp [closing]
  | decide foundRow pending =>
      rw [found] at foundRow
      cases foundRow
      simp [pending] at status
  | consume foundRow approved =>
      rw [found] at foundRow
      cases foundRow
      simp [approved] at status

/-- A row that is there keeps the part that is written once. -/
theorem Move.agrees {row : LoginApprovalChallenge}
    (move : Move sha256 parseUuid challengeId challenge next)
    (found : challenge.row = some row) :
    ∃ later, next.row = some later ∧ later.Agrees row := by
  cases move with
  | rest => exact ⟨row, found, .refl row⟩
  | create absent _ =>
      rw [found] at absent
      cases absent
  | close foundRow agrees _ =>
      cases found.symm.trans foundRow
      exact ⟨_, rfl, agrees⟩
  | decide foundRow _ _ agrees _ =>
      cases found.symm.trans foundRow
      exact ⟨_, rfl, agrees⟩
  | consume foundRow _ _ agrees _ =>
      cases found.symm.trans foundRow
      exact ⟨_, rfl, agrees⟩

/-- New tokens are for an approved row that they are earned by. -/
theorem Move.issued {issue : ApprovalIssue}
    (move : Move sha256 parseUuid challengeId challenge next)
    (member : issue ∈ next.issues) :
    issue ∈ challenge.issues ∨
      ∃ row, challenge.row = some row ∧ row.status = .approved ∧
        issue.EarnedBy sha256 row := by
  cases move with
  | rest => exact .inl member
  | create => exact .inl member
  | close => exact .inl member
  | decide => exact .inl member
  | consume found approved earned =>
      rcases List.mem_cons.mp member with rfl | before
      · exact .inr ⟨_, found, approved, earned⟩
      · exact .inl before

end Challenge

end JanSetu.Auth
