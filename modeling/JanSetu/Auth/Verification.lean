import JanSetu.Auth.Writes

/-!
# Phone verifications

A reverse code proves that the sender of the message that carries it owns the
phone the code was made for.  The sender's id and the phone pass through the
same `normalize_phone`, so the proof is as good as that function is injective:
it is on all ids but those of ten digits.
-/

namespace JanSetu.Auth

open Process (Label)

/-- A code message whose sender's id is its own normal form. -/
def IncomingMessage.FromOwner (message : IncomingMessage) : Prop :=
  isVerificationCode message.textBody = true →
    normalizePhone message.waId = message.waId

section

variable (sha256 : String → String)

/-- The message carries the code, as `hash_code` compares codes. -/
def IncomingMessage.Carries (message : IncomingMessage) (code : String) :
    Prop :=
  isVerificationCode message.textBody = true ∧
    hashCode sha256 (message.textBody.getD "") = hashCode sha256 code

/-- Each verification has the hash of the code that it was made with. -/
def Store.Coded (store : Store) : Prop :=
  ∀ verificationId,
    (store.verifications.find verificationId).map (·.codeHash) =
      (store.codes.find verificationId).map (hashCode sha256)

/-- Some inbound message that carries the code returned with the verification
came from the WhatsApp id that is the user's phone. -/
def Store.Proven (store : Store) (verificationId userId : String) : Prop :=
  ∃ verification user code message,
    store.verifications.find verificationId = some verification ∧
    store.users.find userId = some user ∧
    store.codes.find verificationId = some code ∧
    message ∈ store.inbound ∧ message.Carries sha256 code ∧
    verification.phone = user.phone ∧ message.waId = user.phone

/-- What no step takes back: the phone of a user, the phone of a verification,
the code it was made with, an inbound message. -/
structure Store.Evolves (before after : Store) : Prop where
  users : ∀ userId user, before.users.find userId = some user →
    ∃ changed, after.users.find userId = some changed ∧
      changed.phone = user.phone
  verifications : ∀ verificationId row,
    before.verifications.find verificationId = some row →
    ∃ changed, after.verifications.find verificationId = some changed ∧
      changed.phone = row.phone
  codes : ∀ verificationId code,
    before.codes.find verificationId = some code →
    after.codes.find verificationId = some code
  inbound : ∀ message ∈ before.inbound, message ∈ after.inbound

/-- What a step may add: users of verifications that are proven, tokens for
proven verifications, and messages from the owners of their ids. -/
structure Store.Adds (before after : Store) : Prop where
  linked : ∀ verificationId row userId,
    after.verifications.find verificationId = some row →
    row.userId = some userId →
    (∃ earlier, before.verifications.find verificationId = some earlier ∧
      earlier.userId = some userId) ∨
    after.Proven sha256 verificationId userId
  issued : ∀ issue ∈ after.verificationIssues,
    issue ∈ before.verificationIssues ∨
      after.Proven sha256 issue.verificationId issue.userId
  received : ∀ message ∈ after.inbound,
    message ∈ before.inbound ∨ message.FromOwner
  coded : before.Coded sha256 → after.Coded sha256

/-- What a handler knows of the message or the verification it works on. -/
def Handler.Knows (store : Store) : Handler → Prop
  | .handleInbound message => message.FromOwner
  | .decide _ message _ _ _ => message.FromOwner
  | .verifyCode _ message codeText =>
      message.FromOwner ∧ message.textBody.getD "" = codeText ∧
        isVerificationCode message.textBody = true
  | .markVerified _ message verificationId =>
      message.FromOwner ∧ ∃ verification code,
        store.verifications.find verificationId = some verification ∧
        store.codes.find verificationId = some code ∧
        message.Carries sha256 code ∧
        verification.phone = normalizePhone message.waId
  | .consumeVerification verificationId userId =>
      store.Proven sha256 verificationId userId
  | _ => True

end

variable {sha256 : String → String} {store after : Store}

theorem Store.Evolves.of_same (users : after.users = store.users)
    (verifications : after.verifications = store.verifications)
    (codes : after.codes = store.codes)
    (inbound : after.inbound = store.inbound) : store.Evolves after := by
  constructor
  · intro userId user found
    exact ⟨user, by rw [users, found], rfl⟩
  · intro verificationId row found
    exact ⟨row, by rw [verifications, found], rfl⟩
  · rw [codes]
    exact fun _ _ found => found
  · rw [inbound]
    exact fun _ member => member

theorem Store.Adds.of_same
    (verifications : after.verifications = store.verifications)
    (codes : after.codes = store.codes)
    (inbound : after.inbound = store.inbound)
    (issues : after.verificationIssues = store.verificationIssues) :
    store.Adds sha256 after := by
  constructor
  · intro verificationId row userId found linked
    exact .inl ⟨row, verifications ▸ found, linked⟩
  · rw [issues]
    exact fun _ member => .inl member
  · rw [inbound]
    exact fun _ member => .inl member
  · intro coded verificationId
    rw [verifications, codes]
    exact coded verificationId

theorem Store.Evolves.proven (evolves : store.Evolves after)
    {verificationId userId : String}
    (proven : store.Proven sha256 verificationId userId) :
    after.Proven sha256 verificationId userId := by
  obtain ⟨verification, user, code, message, found, foundUser, returned,
    member, carries, phone, sender⟩ := proven
  obtain ⟨verification', found', phone'⟩ :=
    evolves.verifications verificationId verification found
  obtain ⟨user', foundUser', userPhone⟩ := evolves.users userId user foundUser
  exact ⟨verification', user', code, message, found', foundUser',
    evolves.codes verificationId code returned,
    evolves.inbound message member, carries,
    by rw [phone', userPhone, phone], by rw [userPhone, sender]⟩

theorem Handler.Knows.carry {handler : Handler}
    (knows : handler.Knows sha256 store) (evolves : store.Evolves after) :
    handler.Knows sha256 after := by
  cases handler
  case markVerified =>
      obtain ⟨owner, verification, code, found, returned, carries, phone⟩ :=
        knows
      obtain ⟨changed, found', phone'⟩ :=
        evolves.verifications _ verification found
      exact ⟨owner, changed, code, found', evolves.codes _ code returned,
        carries, phone'.trans phone⟩
  case consumeVerification => exact evolves.proven knows
  case handleInbound => exact knows
  case decide => exact knows
  case verifyCode => exact knows
  all_goals trivial

/-! ## The steps that write verifications -/

namespace Store

variable {settings : Settings} {next : Option Handler} {now : Time}

/-- A verification that is not there has no code. -/
theorem Coded.unused (coded : store.Coded sha256) {verificationId : String}
    (absent : store.verifications.find verificationId = none) :
    store.codes.find verificationId = none := by
  have same := coded verificationId
  rw [absent] at same
  exact Option.map_eq_none_iff.mp same.symm

theorem insertCode_proven {phone : String} {unsent : Option String}
    {verificationId code : String} (coded : store.Coded sha256)
    (result : store.insertCode settings sha256 phone unsent now verificationId
      code = some after) :
    store.Evolves after ∧ store.Adds sha256 after := by
  obtain ⟨unused, approvals, rfl, _⟩ := insertCode_eq result
  constructor
  · constructor
    · exact fun userId user found => ⟨user, found, rfl⟩
    · intro key row found
      have different : key ≠ verificationId := by
        rintro rfl
        simp [unused] at found
      exact ⟨row, by rw [Table.find_put_of_ne _ _ different, found], rfl⟩
    · intro key other found
      have different : key ≠ verificationId := by
        rintro rfl
        simp [coded.unused unused] at found
      rw [Table.find_put_of_ne _ _ different, found]
    · exact fun _ member => member
  · constructor
    · intro key row userId found linked
      rw [Table.find_put] at found
      split at found
      · cases found
        simp at linked
      · exact .inl ⟨row, found, linked⟩
    · exact fun _ member => .inl member
    · exact fun _ member => .inl member
    · intro coded key
      rw [Table.find_put, Table.find_put]
      split
      · rfl
      · exact coded key

/-- An inbound transaction that writes neither users nor verifications. -/
theorem received_proven {message : IncomingMessage}
    (owner : message.FromOwner) (users : after.users = store.users)
    (verifications : after.verifications = store.verifications)
    (codes : after.codes = store.codes)
    (inbound : after.inbound = message :: store.inbound)
    (issues : after.verificationIssues = store.verificationIssues) :
    store.Evolves after ∧ store.Adds sha256 after := by
  constructor
  · constructor
    · intro userId user found
      exact ⟨user, by rw [users, found], rfl⟩
    · intro verificationId row found
      exact ⟨row, by rw [verifications, found], rfl⟩
    · rw [codes]
      exact fun _ _ found => found
    · rw [inbound]
      exact fun _ member => .tail _ member
  · constructor
    · intro verificationId row userId found linked
      exact .inl ⟨row, verifications ▸ found, linked⟩
    · rw [issues]
      exact fun _ member => .inl member
    · intro other member
      rw [inbound] at member
      rcases List.mem_cons.mp member with rfl | before
      · exact .inr owner
      · exact .inl before
    · intro coded verificationId
      rw [verifications, codes]
      exact coded verificationId

theorem markVerified_proven {contactId : String} {message : IncomingMessage}
    {verificationId id : String}
    (knows : Handler.Knows sha256 store
      (.markVerified contactId message verificationId))
    (result : store.markVerified contactId message verificationId now id =
      some after) :
    store.Evolves after ∧ store.Adds sha256 after := by
  obtain ⟨owner, verification, code, found, returned, carries, phone⟩ := knows
  rcases markVerified_eq result with ⟨_, rfl⟩ |
    ⟨userId, verifications, _, _, _, rfl, phones, rows⟩
  · exact ⟨.of_same rfl rfl rfl rfl, .of_same rfl rfl rfl rfl⟩
  · have normal := owner carries.1
    have evolves : store.Evolves { store with
        users := store.users.put userId
          { phone := normalizePhone message.waId, contactId := some contactId }
        verifications := verifications
        inbound := message :: store.inbound } := by
      constructor
      · intro key user present
        by_cases same : key = userId
        · subst same
          refine ⟨_, Table.find_put_self _ _ _, ?_⟩
          rw [phones user present]
        · exact ⟨user, by rw [Table.find_put_of_ne _ _ same, present], rfl⟩
      · intro key row present
        refine ⟨_, by rw [rows, present]; rfl, ?_⟩
        by_cases same : key = verificationId <;> simp [same]
      · exact fun _ _ found => found
      · exact fun _ member => .tail _ member
    refine ⟨⟨evolves.users, evolves.verifications, evolves.codes,
      evolves.inbound⟩, ?_⟩
    constructor
    · intro key row user present linked
      rw [rows] at present
      obtain ⟨earlier, before, changed⟩ := Option.map_eq_some_iff.mp present
      by_cases same : key = verificationId
      · subst same
        rw [found] at before
        cases before
        rw [if_pos rfl] at changed
        subst changed
        cases linked
        refine .inr ⟨_, _, code, message, by rw [rows, found]; rfl,
          Table.find_put_self _ _ _, returned, .head _, carries, ?_, ?_⟩
        · simpa using phone
        · simp only [normal]
      · rw [if_neg same] at changed
        subst changed
        exact .inl ⟨earlier, before, linked⟩
    · exact fun _ member => .inl member
    · intro other member
      rcases List.mem_cons.mp member with rfl | before
      · exact .inr owner
      · exact .inl before
    · intro coded key
      rw [← coded key, rows]
      cases store.verifications.find key with
      | none => rfl
      | some row =>
          rw [Option.map_some, Option.map_some, Option.map_some]
          split <;> rfl

theorem issueForVerification_proven {verificationId userId : String}
    (proven : store.Proven sha256 verificationId userId) :
    store.Evolves (store.issueForVerification verificationId userId now) ∧
      store.Adds sha256
        (store.issueForVerification verificationId userId now) := by
  rcases store.issueForVerification_eq verificationId userId now with
    same | ⟨row, found, _, issued⟩
  · rw [same]
    exact ⟨.of_same rfl rfl rfl rfl, .of_same rfl rfl rfl rfl⟩
  · rw [issued]
    have evolves : store.Evolves { store with
        verifications := store.verifications.put verificationId
          { row with status := .consumed }
        verificationIssues :=
          { verificationId := verificationId, userId := userId
            issuedAt := now } :: store.verificationIssues } := by
      constructor
      · exact fun key user present => ⟨user, present, rfl⟩
      · intro key other present
        by_cases same : key = verificationId
        · subst same
          rw [found] at present
          cases present
          exact ⟨_, Table.find_put_self _ _ _, rfl⟩
        · exact ⟨other, by rw [Table.find_put_of_ne _ _ same, present], rfl⟩
      · exact fun _ _ found => found
      · exact fun _ member => member
    refine ⟨evolves, ?_⟩
    constructor
    · intro key changed user present linked
      rw [Table.find_put] at present
      split at present
      · rename_i same
        subst same
        cases present
        exact .inl ⟨row, found, linked⟩
      · exact .inl ⟨changed, present, linked⟩
    · intro issue member
      rcases List.mem_cons.mp member with rfl | before
      · exact .inr (evolves.proven proven)
      · exact .inl before
    · exact fun _ member => .inl member
    · intro coded key
      rw [← coded key, Table.find_put]
      split
      case isTrue same =>
        rw [same, found]
        rfl
      case isFalse => rfl

end Store

section

variable {settings : Settings} {parseUuid : String → Option String}
  {handler : Handler} {choice : Choice} {next : Option Handler}

/-- Every step of a handler keeps what evolves, and adds only what is
proven. -/
theorem Handler.resume_proven (knows : handler.Knows sha256 store)
    (coded : store.Coded sha256)
    (resumed : handler.resume settings sha256 parseUuid store choice =
      some (after, next)) :
    store.Evolves after ∧ store.Adds sha256 after := by
  cases Handler.resume_writes resumed with
  | rests same =>
      rw [same]
      exact ⟨.of_same rfl rfl rfl rfl, .of_same rfl rfl rfl rfl⟩
  | asks asked =>
      rw [asked]
      exact ⟨.of_same rfl rfl rfl rfl, .of_same rfl rfl rfl rfl⟩
  | opens created =>
      rcases Store.createApproval_eq created with
        ⟨rfl, _⟩ | ⟨_, ⟨_, _, _, rfl, _⟩, _⟩
      · exact ⟨.of_same rfl rfl rfl rfl, .of_same rfl rfl rfl rfl⟩
      · exact ⟨.of_same rfl rfl rfl rfl, .of_same rfl rfl rfl rfl⟩
  | inserts inserted => exact Store.insertCode_proven coded inserted
  | claims claimed =>
      obtain ⟨⟨_, _, rfl⟩, _⟩ := Store.claimMessage_eq claimed
      exact ⟨.of_same rfl rfl rfl rfl, .of_same rfl rfl rfl rfl⟩
  | @blocks messageId challengeId claimed _ now blocked =>
      obtain ⟨_, _, _, changed, _⟩ :=
        store.blockPrompt_eq messageId claimed challengeId now
      rw [blocked, changed]
      exact ⟨.of_same rfl rfl rfl rfl, .of_same rfl rfl rfl rfl⟩
  | records recorded =>
      obtain ⟨⟨_, rfl⟩, _⟩ := Store.recordSend_eq recorded
      exact ⟨.of_same rfl rfl rfl rfl, .of_same rfl rfl rfl rfl⟩
  | receives received =>
      obtain ⟨_, _, rfl, _⟩ := Store.receive_eq received
      exact ⟨.of_same rfl rfl rfl rfl, .of_same rfl rfl rfl rfl⟩
  | holds held =>
      obtain ⟨⟨_, rfl⟩, _⟩ := Store.handleInbound_eq held
      exact ⟨.of_same rfl rfl rfl rfl, .of_same rfl rfl rfl rfl⟩
  | decides decided =>
      rcases Store.decide_eq decided with
        ⟨_, _, _, rfl⟩ | ⟨_, _, _, _, _, _, _, _, _, _, _, _, _, _, rfl⟩
      · exact Store.received_proven knows rfl rfl rfl rfl rfl
      · exact Store.received_proven knows rfl rfl rfl rfl rfl
  | verifies verified =>
      obtain ⟨⟨_, _, _, _, rfl, inbound⟩, _⟩ := Store.verifyCode_eq verified
      rcases inbound with rfl | rfl
      · exact ⟨.of_same rfl rfl rfl rfl, .of_same rfl rfl rfl rfl⟩
      · exact Store.received_proven knows.1 rfl rfl rfl rfl rfl
  | marks marked => exact Store.markVerified_proven knows marked
  | redeems redeemed =>
      rw [redeemed]
      exact Store.issueForVerification_proven knows
  | @signsIn challengeId browserNonce now signed =>
      rw [signed]
      rcases store.issueForApproval_eq challengeId browserNonce now with
        same | ⟨_, _, _, _, _, issued⟩
      · rw [same]
        exact ⟨.of_same rfl rfl rfl rfl, .of_same rfl rfl rfl rfl⟩
      · rw [issued]
        exact ⟨.of_same rfl rfl rfl rfl, .of_same rfl rfl rfl rfl⟩

/-- A handler goes on with what the next step has to know. -/
theorem Handler.resume_knows {following : Handler}
    (knows : handler.Knows sha256 store) (coded : store.Coded sha256)
    (linked : ∀ verificationId row userId,
      store.verifications.find verificationId = some row →
      row.userId = some userId → store.Proven sha256 verificationId userId)
    (resumed : handler.resume settings sha256 parseUuid store choice =
      some (after, some following)) :
    following.Knows sha256 after := by
  obtain ⟨evolves, adds⟩ := Handler.resume_proven knows coded resumed
  cases Handler.resume_follows resumed with
  | replied _ _ _ _ => exact knows
  | carried code => exact ⟨knows, rfl, code⟩
  | @matched _ _ _ _ verificationId _ _ found hash phone =>
      obtain ⟨owner, rfl, code⟩ := knows
      have made := adds.coded coded verificationId
      rw [found] at made
      obtain ⟨_, returned, own⟩ := Option.map_eq_some_iff.mp made.symm
      exact ⟨owner, _, _, found, returned, ⟨code, hash.symm.trans own.symm⟩,
        phone⟩
  | polled found link => exact evolves.proven (linked _ _ _ found link)
  | _ => trivial

end

/-! ## Runs -/

def verificationInvariant (sha256 : String → String) :
    Process.Invariant Store Handler :=
  { shared := fun store =>
      (∀ verificationId row userId,
        store.verifications.find verificationId = some row →
        row.userId = some userId →
        store.Proven sha256 verificationId userId) ∧
      (∀ issue ∈ store.verificationIssues,
        store.Proven sha256 issue.verificationId issue.userId) ∧
      (∀ message ∈ store.inbound, message.FromOwner) ∧
      store.Coded sha256
    own := fun store handler => handler.Knows sha256 store
    pair := fun _ _ => True }

/-- Every inbound message comes from a WhatsApp id. -/
def FromWaIds (_ : World Store Handler) : Label Request Choice → Prop
  | .spawn _ (.handleInbound message) => IsWaId message.waId
  | _ => True

/-- Every inbound message comes from a WhatsApp id, and no verification code
comes from one of ten digits. -/
def CodesFromOwners (_ : World Store Handler) : Label Request Choice → Prop
  | .spawn _ (.handleInbound message) =>
      IsWaId message.waId ∧
        (isVerificationCode message.textBody = true →
          message.waId.length ≠ 10)
  | _ => True

section

variable {settings : Settings} {parseUuid : String → Option String}
  {world : World Store Handler}

theorem verificationInvariant_holds
    (reachable : (login settings sha256 parseUuid).system.ReachableWhen
      CodesFromOwners world) :
    (verificationInvariant sha256).Holds world := by
  apply Process.Invariant.holds _ _ _ _ reachable
  · intro store initial
    refine ⟨?_, ?_, ?_, ?_⟩
    · simp [initial.verifications]
    · simp [initial.verificationIssues]
    · simp [initial.inbound]
    · intro verificationId
      simp [initial.verifications, initial.codes]
  · intro world pid request _ holds permitted
    refine ⟨?_, fun _ _ _ _ => ⟨trivial, trivial⟩⟩
    cases request
    case handleInbound message =>
        intro code
        exact (normalizePhone_eq_self_iff permitted.1).mpr (permitted.2 code)
    all_goals trivial
  · intro world pid choice handler store after _ holds _ running resumed
    obtain ⟨linked, issued, received, coded⟩ := holds.1
    have knows : handler.Knows sha256 world.shared :=
      holds.2.1 pid handler running
    obtain ⟨evolves, adds⟩ := Handler.resume_proven knows coded resumed
    refine ⟨⟨?_, ?_, ?_, adds.coded coded⟩, ?_, ?_⟩
    · intro verificationId row userId found link
      rcases adds.linked verificationId row userId found link with
        ⟨earlier, before, same⟩ | proven
      · exact evolves.proven (linked verificationId earlier userId before same)
      · exact proven
    · intro issue member
      rcases adds.issued issue member with before | proven
      · exact evolves.proven (issued issue before)
      · exact proven
    · intro message member
      rcases adds.received message member with before | owner
      · exact received message before
      · exact owner
    · intro other process _ found
      have before : process.Knows sha256 world.shared :=
        holds.2.1 other process found
      exact before.carry evolves
    · rintro following rfl
      exact ⟨Handler.resume_knows knows coded linked resumed,
        fun _ _ _ _ => ⟨trivial, trivial⟩⟩
  · intro world pid handler _ holds _ running
    obtain ⟨_, _, released⟩ := handler.release_eq world.shared
    change (verificationInvariant sha256).shared
      (handler.release world.shared) ∧ (verificationInvariant
        sha256).Undisturbed world pid (handler.release world.shared)
    rw [released]
    refine ⟨holds.1, ?_⟩
    intro other process _ found
    have before : process.Knows sha256 world.shared :=
      holds.2.1 other process found
    exact before.carry (.of_same rfl rfl rfl rfl)

/-- The id proves ownership of the phone: a message from it carries the code of
a verification made for the phone, which is also what the id normalises to. -/
def Store.Proves (sha256 : String → String) (store : Store)
    (waId phone : String) : Prop :=
  ∃ verificationId verification code message,
    store.verifications.find verificationId = some verification ∧
    store.codes.find verificationId = some code ∧
    verification.phone = phone ∧ message ∈ store.inbound ∧
    message.Carries sha256 code ∧ message.waId = waId ∧
    normalizePhone waId = phone

/-- While no code comes from a ten-digit id, tokens issued through a phone
verification are for the phone some code message came from, and no two ids
prove ownership of one phone.  The ids on which `normalize_phone` is injective
are those without a ten-digit id and its form behind 91. -/
theorem verification_binds_sender
    (reachable : (login settings sha256 parseUuid).system.ReachableWhen
      CodesFromOwners world) :
    (∀ issue ∈ world.shared.verificationIssues,
      world.shared.Proven sha256 issue.verificationId issue.userId) ∧
    (∀ left right phone, world.shared.Proves sha256 left phone →
      world.shared.Proves sha256 right phone → left = right) ∧
    ∀ waIds : Set String, (∀ waId ∈ waIds, IsWaId waId) →
      (Set.InjOn normalizePhone waIds ↔
        ∀ waId ∈ waIds, waId.length = 10 → "91" ++ waId ∉ waIds) := by
  obtain ⟨⟨_, issued, received, _⟩, _, _⟩ :=
    verificationInvariant_holds reachable
  refine ⟨issued, ?_, fun _ valid => normalizePhone_injOn_iff valid⟩
  have owns : ∀ waId phone, world.shared.Proves sha256 waId phone →
      waId = phone := by
    rintro _ _ ⟨_, _, _, message, _, _, _, member, carries, rfl, rfl⟩
    exact (received message member carries.1).symm
  intro left right phone leftProves rightProves
  rw [owns left phone leftProves, owns right phone rightProves]

end

/-! ## Two ids of one phone -/

/-- Two citizens: an Indian mobile number with its user, and a Singapore number
whose ten digits are those of the Indian one without the country code. -/
def twoCitizens : Store :=
  { contacts := (Table.empty.put "916581234567" "victim-contact").put
      "6581234567" "other-contact"
    users := Table.empty.put "victim"
      { phone := "916581234567", contactId := some "victim-contact" }
    verifications := .empty
    approvals := .empty
    messages := .empty
    consumptions := []
    heldContacts := []
    heldMessages := []
    requests := []
    codes := .empty
    openings := .empty
    inbound := []
    decisions := []
    verificationIssues := []
    approvalIssues := [] }

/-- A login with a code that `sender` sends. -/
def codeLogin (phone sender : String) : List (Label Request Choice) :=
  [.spawn 0 (.requestCode { phone := phone, browserNonce := none }),
    .resume 0 (.now 1), .resume 0 (.now 2), .resume 0 (.now 3),
    .resume 0 (.code 4 "verification" "JS-ABC234"),
    .spawn 1 (.handleInbound
      { waId := sender, metaMessageId := "wamid.code", receivedAt := 5
        textBody := some "js-abc234", replyId := none
        contextMessageId := none }),
    .resume 1 (.now 6), .resume 1 (.fresh 7 "reply"),
    .resume 1 (.fresh 8 "answer"),
    .spawn 2 (.authStatus "verification"),
    .resume 2 (.now 9), .resume 2 (.now 10)]

def loginSettings : Settings :=
  { verificationMaxPerHour := 3, verificationCodeTtlMinutes := 10
    serviceWindowHours := 24 }

theorem initial_twoCitizens :
    (login loginSettings id some).system.initial (World.start twoCitizens) :=
  ⟨twoCitizens, ⟨rfl, rfl, rfl, rfl, rfl, rfl, rfl, rfl, rfl, rfl, rfl⟩, rfl⟩

theorem verification_binds_sender_owner :
    ∃ world : World Store Handler,
      world.shared.verificationIssues.length = 1 ∧
      ∀ issue ∈ world.shared.verificationIssues,
        world.shared.Proven id issue.verificationId issue.userId := by
  have one : ((login loginSettings id some).system.run
      (World.start twoCitizens) (codeLogin "65812 34567" "916581234567")).map
      (fun world => world.shared.verificationIssues.length) = some 1 := by
    decide +kernel
  have permitted : ∀ label ∈ codeLogin "65812 34567" "916581234567",
      ∀ world, CodesFromOwners world label := by
    have valid : IsWaId "916581234567" := by decide
    have twelve : "916581234567".length ≠ 10 := by decide
    simp [codeLogin, CodesFromOwners, valid, twelve]
  obtain ⟨final, reachable, issued⟩ :=
    Transition.System.reachableWhen_of_run_map initial_twoCitizens permitted
      one
  exact ⟨final, issued, (verification_binds_sender reachable).1⟩

/-- The owner of the Singapore number asks for a code for the ten digits of
that number, sends it, and is signed in as the Indian citizen. -/
theorem verification_of_other_sender :
    ¬ ∀ (settings : Settings) (sha256 : String → String)
      (parseUuid : String → Option String) (world : World Store Handler),
      (login settings sha256 parseUuid).system.ReachableWhen FromWaIds world →
        ∀ issue ∈ world.shared.verificationIssues,
          world.shared.Proven sha256 issue.verificationId issue.userId := by
  intro all
  have stolen : ((login loginSettings id some).system.run
      (World.start twoCitizens) (codeLogin "6581234567" "6581234567")).map
      (fun world => (world.shared.verificationIssues,
        world.shared.inbound.map (·.waId),
        (world.shared.users.find "victim").map (·.phone))) =
      some ([{ verificationId := "verification", userId := "victim"
               issuedAt := 10 }],
        ["6581234567"], some "916581234567") := by
    decide +kernel
  have permitted : ∀ label ∈ codeLogin "6581234567" "6581234567",
      ∀ world, FromWaIds world label := by
    have valid : IsWaId "6581234567" := by decide
    simp [codeLogin, FromWaIds, valid]
  obtain ⟨final, reachable, observed⟩ :=
    Transition.System.reachableWhen_of_run_map initial_twoCitizens permitted
      stolen
  simp only [Prod.mk.injEq] at observed
  obtain ⟨issues, senders, victim⟩ := observed
  obtain ⟨_, user, _, message, _, found, _, member, _, _, sender⟩ :=
    all loginSettings id some final reachable
      { verificationId := "verification", userId := "victim", issuedAt := 10 }
      (by simp [issues])
  have from' : message.waId ∈ final.shared.inbound.map (·.waId) :=
    List.mem_map_of_mem member
  rw [senders, List.mem_singleton] at from'
  rw [found] at victim
  simp only [Option.map_some, Option.some.injEq] at victim
  rw [← sender, from'] at victim
  exact absurd victim (by decide)

end JanSetu.Auth
