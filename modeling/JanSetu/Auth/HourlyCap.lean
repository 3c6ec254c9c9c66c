import JanSetu.Auth.Approval
import JanSetu.Auth.Writes
import JanSetu.Library.History

/-!
# The hourly cap

`request_code` counts the verifications and the approvals of the last hour
together, but the code that it falls back to is counted against the
verifications alone.  As long as the cap has room for the code beside the
approval of the same request, no rolling hour holds more than the cap.
-/

namespace JanSetu.Auth

open Process (Label Program Recorded)
open Python (isDigit)

def Choice.time : Choice → Time
  | .now time => time
  | .fresh time _ => time
  | .approval time _ _ _ => time
  | .code time _ _ => time
  | .graph time _ => time

/-- The phone of a `request_code`, its `send_pending` included. -/
def Handler.requester : Handler → Option String
  | .requestCode body => some (normalizePhone body.phone)
  | .linkedUser phone _ => some phone
  | .supersede phone _ _ _ => some phone
  | .createApproval phone _ _ _ _ => some phone
  | .countCodes phone _ => some phone
  | .insertCode phone _ => some phone
  | .claimMessage _ following => following.map Prod.fst
  | .blockPrompt _ _ _ following => following.map Prod.fst
  | .callGraph _ following => following.map Prod.fst
  | _ => none

/-- The request has counted and not created anything. -/
def Handler.counted : Handler → Bool
  | .linkedUser _ _ => true
  | .supersede _ _ _ _ => true
  | .createApproval _ _ _ _ _ => true
  | .countCodes _ unsent => unsent.isNone
  | .insertCode _ unsent => unsent.isNone
  | _ => false

/-- The phone and the time of the row that a step creates. -/
def Handler.creates (choice : Choice) : Handler → Option (String × Time)
  | .createApproval phone _ _ _ _ => some (phone, choice.time)
  | .insertCode phone _ => some (phone, choice.time)
  | _ => none

/-- The phone and the time of a count. -/
def Handler.counts (handler : Handler) (choice : Choice) :
    Option (String × Time) :=
  match handler with
  | .requestCode body => some (normalizePhone body.phone, choice.time)
  | _ => none

/-- The verifications and approvals whose phone and time pass a test. -/
def Store.stamped (store : Store) (test : String → Time → Bool) : Nat :=
  store.verifications.count (fun _ row => test row.phone row.createdAt) +
    store.approvals.count (fun _ row => test row.phone row.requestedAt)

/-- What `request_code` compares with the cap. -/
def Store.attempts (store : Store) (phone : String) (since : Time) : Nat :=
  store.countRecentVerifications phone since +
    store.countRecentLoginApprovals phone since

/-- The rows created for a phone in the hour that starts at a time. -/
def Store.createdInHour (store : Store) (phone : String) (start : Time) :
    Nat :=
  store.stamped fun other time =>
    other = phone && start ≤ time && time ≤ start + hours 1

theorem normalizePhone_of_digits {phone : String}
    (digits : ∀ char ∈ phone.toList, isDigit char = true)
    (longer : phone.length ≠ 10) : normalizePhone phone = phone := by
  have kept : phone.toList.filter isDigit = phone.toList :=
    List.filter_eq_self.mpr digits
  unfold normalizePhone
  simp only [kept, String.ofList_toList, if_neg longer, ite_self]

theorem normalizePhone_normalizePhone (phone : String) :
    normalizePhone (normalizePhone phone) = normalizePhone phone := by
  have digits : ∀ char ∈ phone.toList.filter isDigit,
      isDigit char = true := by
    intro char member
    exact (List.mem_filter.mp member).2
  have normal : normalizePhone phone =
      if (String.ofList (phone.toList.filter isDigit)).length = 10 then
        "91" ++ String.ofList (phone.toList.filter isDigit)
      else String.ofList (phone.toList.filter isDigit) := by
    unfold normalizePhone
    simp only [ite_self]
  rw [normal]
  split
  case isTrue ten =>
    apply normalizePhone_of_digits
    · intro char member
      rw [String.toList_append] at member
      rcases List.mem_append.mp member with country | own
      · have both : "91".toList.all isDigit = true := by
          decide
        exact List.all_eq_true.mp both char country
      · rw [String.toList_ofList] at own
        exact digits char own
    · rw [String.length_append, ten]
      decide
  case isFalse other =>
    apply normalizePhone_of_digits
    · intro char member
      rw [String.toList_ofList] at member
      exact digits char member
    · exact other

section

variable {settings : Settings} {sha256 : String → String}
  {parseUuid : String → Option String} {store after : Store}
  {choice : Choice}

/-! ## What a step creates -/

/-- Approvals that are changed in place keep their phones and times. -/
theorem Store.approvals_count {approvals : Table String LoginApprovalChallenge}
    {change : String → LoginApprovalChallenge → LoginApprovalChallenge}
    (found : ∀ key, approvals.find key =
      (store.approvals.find key).map (change key))
    (phone : ∀ key row, (change key row).phone = row.phone)
    (time : ∀ key row, (change key row).requestedAt = row.requestedAt)
    (test : String → Time → Bool) :
    approvals.count (fun _ row => test row.phone row.requestedAt) =
      store.approvals.count (fun _ row => test row.phone row.requestedAt) := by
  apply Table.count_of_map found
  intro key row
  rw [phone, time]

theorem Store.createApproval_stamped
    {phone userId contactId browserNonce : String} {pending : List String}
    {now : Time} {challengeId messageId verifier : String}
    {next : Option Handler}
    (result : store.createApproval settings sha256 phone userId contactId
      browserNonce pending now challengeId messageId verifier =
        some (after, next)) (test : String → Time → Bool) :
    after.stamped test ≤ store.stamped test + (test phone now).toNat := by
  rcases Store.createApproval_eq result with
    ⟨rfl, _⟩ | ⟨absent, ⟨approvals, messages, prompt, rfl, found, _⟩, _⟩
  · exact Nat.le_add_right _ _
  have inserted := Table.count_put_fresh absent
    { newChallenge settings sha256 phone userId contactId browserNonce
        verifier now with approvalOutboundMessageId := prompt }
    (fun _ row => test row.phone row.requestedAt)
  have changed : approvals.count
      (fun _ row => test row.phone row.requestedAt) =
    (store.approvals.put challengeId
      { newChallenge settings sha256 phone userId contactId browserNonce
          verifier now with approvalOutboundMessageId := prompt }).count
      (fun _ row => test row.phone row.requestedAt) := by
    apply Table.count_eq_of_find
    intro key
    rw [found key, Table.find_put]
    split
    case isTrue => rfl
    case isFalse =>
      cases store.approvals.find key with
      | none => rfl
      | some row =>
          rw [Option.map_some, Option.any_some, Option.any_some]
          split <;> rfl
  unfold Store.stamped
  dsimp only
  rw [changed, inserted, Nat.add_assoc]
  exact Nat.le_refl _

theorem Store.insertCode_stamped {phone : String} {unsent : Option String}
    {now : Time} {verificationId code : String}
    (result : store.insertCode settings sha256 phone unsent now verificationId
      code = some after) (test : String → Time → Bool) :
    after.stamped test = store.stamped test + (test phone now).toNat := by
  obtain ⟨absent, approvals, rfl, found⟩ := Store.insertCode_eq result
  have kept := Store.approvals_count found
    (by intro key row; split <;> rfl) (by intro key row; split <;> rfl) test
  unfold Store.stamped
  dsimp only
  rw [kept, Table.count_put_fresh absent]
  dsimp only
  omega

theorem Store.markVerified_stamped {contactId : String}
    {message : IncomingMessage} {verificationId id : String} {now : Time}
    (result : store.markVerified contactId message verificationId now id =
      some after) (test : String → Time → Bool) :
    after.stamped test = store.stamped test := by
  rcases Store.markVerified_eq result with ⟨held, rfl⟩ |
    ⟨userId, verifications, messages, held, consumptions, rfl, _, found⟩
  · rfl
  · have kept : verifications.count
        (fun _ row => test row.phone row.createdAt) =
        store.verifications.count
          (fun _ row => test row.phone row.createdAt) := by
      apply Table.count_of_map found
      intro key row
      split <;> rfl
    unfold Store.stamped
    dsimp only
    rw [kept]

theorem Store.decide_stamped {contactId : String} {message : IncomingMessage}
    {approves : Bool} {challengeId verifier messageId : String} {now : Time}
    (result : store.decide sha256 contactId message approves challengeId
      verifier now messageId = some after) (test : String → Time → Bool) :
    after.stamped test = store.stamped test := by
  rcases Store.decide_eq result with
    ⟨_, _, _, rfl⟩ |
    ⟨row, _, _, _, _, _, found, _, _, _, _, _, _, _, rfl⟩
  · rfl
  · unfold Store.stamped
    dsimp only
    rw [Table.count_put_same found]
    rfl

theorem Store.issueForVerification_stamped {verificationId userId : String}
    {now : Time} (test : String → Time → Bool) :
    (store.issueForVerification verificationId userId now).stamped test =
      store.stamped test := by
  rcases store.issueForVerification_eq verificationId userId now with
    same | ⟨row, found, _, issued⟩
  · rw [same]
  · rw [issued]
    unfold Store.stamped
    dsimp only
    rw [Table.count_put_same found]
    rfl

theorem Store.issueForApproval_stamped {challengeId browserNonce : String}
    {now : Time} (test : String → Time → Bool) :
    (store.issueForApproval sha256 challengeId browserNonce now).stamped test =
      store.stamped test := by
  rcases store.issueForApproval_eq challengeId browserNonce now with
    same | ⟨row, found, _, _, _, issued⟩
  · rw [same]
  · rw [issued]
    unfold Store.stamped
    dsimp only
    rw [Table.count_put_same found]
    rfl

theorem Store.blockPrompt_stamped {messageId challengeId : String}
    {claimed : WhatsAppMessage} {now : Time} (test : String → Time → Bool) :
    (store.blockPrompt messageId claimed challengeId now).stamped test =
      store.stamped test := by
  obtain ⟨_, _, approvals, blocked, found⟩ :=
    store.blockPrompt_eq messageId claimed challengeId now
  rw [blocked]
  have kept := Store.approvals_count found
    (by intro key row; split <;> rfl) (by intro key row; split <;> rfl) test
  unfold Store.stamped
  dsimp only
  rw [kept]

/-- A step creates at most the row that its handler is about to create, and
changes no phone and no time. -/
theorem Handler.resume_stamped {handler : Handler} {next : Option Handler}
    (resumed : handler.resume settings sha256 parseUuid store choice =
      some (after, next)) (test : String → Time → Bool) :
    after.stamped test ≤ store.stamped test +
      ((handler.creates choice).elim 0
        fun created => (test created.1 created.2).toNat) := by
  cases Handler.resume_writes resumed with
  | rests same =>
      rw [same]
      exact Nat.le_add_right _ _
  | asks asked =>
      rw [asked]
      exact Nat.le_refl _
  | opens created => exact Store.createApproval_stamped created test
  | inserts inserted =>
      exact Nat.le_of_eq (Store.insertCode_stamped inserted test)
  | claims claimed =>
      obtain ⟨⟨_, _, rfl⟩, _⟩ := Store.claimMessage_eq claimed
      exact Nat.le_refl _
  | blocks blocked =>
      rw [blocked]
      exact Nat.le_of_eq (Store.blockPrompt_stamped test)
  | records recorded =>
      obtain ⟨⟨_, rfl⟩, _⟩ := Store.recordSend_eq recorded
      exact Nat.le_refl _
  | receives received =>
      obtain ⟨_, _, rfl, _⟩ := Store.receive_eq received
      exact Nat.le_refl _
  | holds held =>
      obtain ⟨⟨_, rfl⟩, _⟩ := Store.handleInbound_eq held
      exact Nat.le_refl _
  | decides decided =>
      exact Nat.le_of_eq (Store.decide_stamped decided test)
  | verifies verified =>
      obtain ⟨⟨_, _, _, _, rfl, _⟩, _⟩ := Store.verifyCode_eq verified
      exact Nat.le_refl _
  | marks marked => exact Nat.le_of_eq (Store.markVerified_stamped marked test)
  | redeems redeemed =>
      rw [redeemed]
      exact Nat.le_of_eq (Store.issueForVerification_stamped test)
  | signsIn signed =>
      rw [signed]
      exact Nat.le_of_eq (Store.issueForApproval_stamped test)

/-! ## What a request has counted -/

/-- A request stays a request for its phone.  It has counted when it comes from
its first step, under the cap, or from a step that created nothing. -/
theorem Handler.resume_requester {handler further : Handler}
    {next : Option Handler}
    (normal : ∀ phone, handler.requester = some phone →
      normalizePhone phone = phone)
    (resumed : handler.resume settings sha256 parseUuid store choice =
      some (after, next)) (arrives : next = some further) :
    further.requester = handler.requester ∧
      (further.counted = true →
        (handler.counted = true ∧ handler.creates choice = none) ∨
        ∃ phone, handler.counts choice = some (phone, choice.time) ∧
          handler.requester = some phone ∧
          store.attempts phone (choice.time - hours 1) <
            settings.verificationMaxPerHour) := by
  subst arrives
  have idle : ∀ other : Handler, other.counted = false → ¬ other.counted =
      true := fun _ same => Bool.eq_false_iff.mp same
  cases Handler.resume_follows resumed with
  | counted _ below => exact ⟨rfl, fun _ => .inr ⟨_, rfl, rfl, below⟩⟩
  | unlinked => exact ⟨rfl, fun _ => .inl ⟨rfl, rfl⟩⟩
  | linked => exact ⟨rfl, fun _ => .inl ⟨rfl, rfl⟩⟩
  | selected => exact ⟨rfl, fun _ => .inl ⟨rfl, rfl⟩⟩
  | @roomy phone =>
      refine ⟨?_, fun counted => .inl ⟨counted, rfl⟩⟩
      exact congrArg some (normal phone rfl)
  -- The other steps go on with a handler that has not counted.
  | _ => exact ⟨rfl, fun counted => absurd counted (idle _ rfl)⟩

/-! ## Serial requests -/

def capHistory (settings : Settings) (sha256 : String → String)
    (parseUuid : String → Option String) :
    Program (Recorded Store (String × Time)) Handler Request Choice :=
  (login settings sha256 parseUuid).recorded Handler.counts
    fun recorded => recorded.notes = []

/-- The time of the last count for a phone. -/
def lastCount (notes : List (String × Time)) (phone : String) :
    Option Time :=
  (notes.find? fun note => note.1 = phone).map (·.2)

/-- No two requests for a phone overlap, and the clock does not go backwards
from the count of a request on. -/
def SerialRequests (world : World (Recorded Store (String × Time)) Handler)
    (label : Label Request Choice) : Prop :=
  (∀ pid body, label = .spawn pid (.requestCode body) →
    ∀ other handler, world.Running other handler →
      handler.requester ≠ some (normalizePhone body.phone)) ∧
  ∀ pid choice handler phone counted, label = .resume pid choice →
    world.Running pid handler → handler.requester = some phone →
    handler.counts choice = none →
    lastCount world.shared.notes phone = some counted →
    counted ≤ choice.time

/-- A request that falls back to a code after it has created an approval still
finds room under the cap. -/
def FallbackFits (settings : Settings)
    (world : World (Recorded Store (String × Time)) Handler)
    (label : Label Request Choice) : Prop :=
  ∀ pid choice phone challengeId, label = .resume pid choice →
    world.Running pid (.insertCode phone (some challengeId)) →
    world.shared.shared.attempts phone (choice.time - hours 1) <
      settings.verificationMaxPerHour

/-- A request that has counted found room under the cap. -/
def underCap (settings : Settings) :
    Process.Invariant (Recorded Store (String × Time)) Handler :=
  { shared := fun recorded => ∀ phone start,
      recorded.shared.createdInHour phone start ≤
        settings.verificationMaxPerHour
    own := fun recorded handler => ∀ phone,
      handler.requester = some phone →
        normalizePhone phone = phone ∧
        (handler.counted = true → ∃ time,
          lastCount recorded.notes phone = some time ∧
            recorded.shared.attempts phone (time - hours 1) <
              settings.verificationMaxPerHour)
    pair := fun left right => ∀ phone,
      left.requester = some phone → right.requester ≠ some phone }

theorem Store.stamped_mono {test other : String → Time → Bool}
    (implies : ∀ phone time, test phone time = true →
      other phone time = true) :
    store.stamped test ≤ store.stamped other := by
  apply Nat.add_le_add
  · apply Table.count_le_of_find
    intro key passes
    obtain ⟨row, found, passed⟩ := (Option.any_eq_true _ _).mp passes
    rw [found]
    exact implies _ _ passed
  · apply Table.count_le_of_find
    intro key passes
    obtain ⟨row, found, passed⟩ := (Option.any_eq_true _ _).mp passes
    rw [found]
    exact implies _ _ passed

theorem Store.attempts_eq (phone : String) (since : Time) :
    store.attempts phone since =
      store.stamped fun other time => other = phone && since ≤ time :=
  rfl

theorem Handler.creates_requester {handler : Handler} {phone : String}
    {time : Time} (creates : handler.creates choice = some (phone, time)) :
    handler.requester = some phone ∧ time = choice.time ∧
      handler.counts choice = none ∧
      (handler.counted = true ∨
        ∃ challengeId, handler = .insertCode phone (some challengeId)) := by
  cases handler with
  | createApproval =>
      cases creates
      exact ⟨rfl, rfl, rfl, .inl rfl⟩
  | insertCode created unsent =>
      cases creates
      cases unsent with
      | none => exact ⟨rfl, rfl, rfl, .inl rfl⟩
      | some challengeId => exact ⟨rfl, rfl, rfl, .inr ⟨challengeId, rfl⟩⟩
  | _ => cases creates

theorem Handler.counts_requester {handler : Handler} {phone : String}
    {time : Time} (counts : handler.counts choice = some (phone, time)) :
    handler.requester = some phone ∧ handler.creates choice = none ∧
      handler.counted = false := by
  cases handler with
  | requestCode =>
      obtain ⟨same, _⟩ := Prod.mk.inj (Option.some.inj counts)
      exact ⟨congrArg some same, rfl, rfl⟩
  | _ => cases counts

/-- A row is created under the cap. -/
theorem Store.createdInHour_le {created : String} {now since : Time}
    (room : store.attempts created since < settings.verificationMaxPerHour)
    (before : since ≤ now - hours 1)
    (within : ∀ phone start, store.createdInHour phone start ≤
      settings.verificationMaxPerHour)
    (stamps : ∀ test : String → Time → Bool,
      after.stamped test ≤ store.stamped test + (test created now).toNat)
    (phone : String) (start : Time) :
    after.createdInHour phone start ≤ settings.verificationMaxPerHour := by
  unfold Store.createdInHour
  apply Nat.le_trans (stamps _)
  cases inside :
      (Decidable.decide (created = phone) && Decidable.decide (start ≤ now) &&
        Decidable.decide (now ≤ start + hours 1)) with
  | false => exact within phone start
  | true =>
      simp only [Bool.and_eq_true, decide_eq_true_eq] at inside
      obtain ⟨⟨same, _⟩, ends⟩ := inside
      subst same
      have earlier : since ≤ start :=
        Int.le_trans before (Int.sub_right_le_of_le_add ends)
      have fewer : store.stamped (fun other time =>
          other = created && start ≤ time && time ≤ start + hours 1) ≤
          store.attempts created since := by
        rw [Store.attempts_eq]
        apply Store.stamped_mono
        intro other time passes
        simp only [Bool.and_eq_true, decide_eq_true_eq] at passes ⊢
        exact ⟨passes.1.1, Int.le_trans earlier passes.1.2⟩
      exact Nat.lt_of_le_of_lt fewer room

theorem lastCount_cons {notes : List (String × Time)} {phone : String}
    {time : Time} : lastCount ((phone, time) :: notes) phone = some time := by
  unfold lastCount
  rw [List.find?_cons_of_pos (by simp)]
  rfl

theorem lastCount_cons_of_ne {notes : List (String × Time)}
    {phone other : String} {time : Time} (different : other ≠ phone) :
    lastCount ((other, time) :: notes) phone = lastCount notes phone := by
  unfold lastCount
  rw [List.find?_cons_of_neg (by simpa using different)]

/-- A step leaves what is known of every other phone. -/
theorem Handler.resume_other {handler : Handler} {next : Option Handler}
    {phone : String} (notes : List (String × Time))
    (resumed : handler.resume settings sha256 parseUuid store choice =
      some (after, next)) (other : handler.requester ≠ some phone) :
    lastCount ((handler.counts choice).toList ++ notes) phone =
        lastCount notes phone ∧
      ∀ since, after.attempts phone since ≤ store.attempts phone since := by
  constructor
  · cases counts : handler.counts choice with
    | none => rfl
    | some count =>
        obtain ⟨counted, time⟩ := count
        apply lastCount_cons_of_ne
        rintro rfl
        exact other (Handler.counts_requester counts).1
  · intro since
    rw [Store.attempts_eq, Store.attempts_eq]
    apply Nat.le_trans (Handler.resume_stamped resumed _)
    cases creates : handler.creates choice with
    | none => exact Nat.le_refl _
    | some creation =>
        obtain ⟨created, time⟩ := creation
        have different : created ≠ phone := by
          rintro rfl
          exact other (Handler.creates_requester creates).1
        simp [different]

/-- What a handler creates has room under the cap, since the time at which its
request has counted or at that of its fallback. -/
theorem creates_room {world : World (Recorded Store (String × Time)) Handler}
    {pid : Nat} {handler : Handler} {created : String} {now : Time}
    (serial : SerialRequests world (.resume pid choice))
    (fits : FallbackFits settings world (.resume pid choice))
    (running : world.Running pid handler)
    (own : (underCap settings).own world.shared handler)
    (creates : handler.creates choice = some (created, now)) :
    ∃ since, since ≤ now - hours 1 ∧
      world.shared.shared.attempts created since <
        settings.verificationMaxPerHour := by
  obtain ⟨requests, rfl, quiet, counted⟩ := Handler.creates_requester creates
  rcases counted with counted | ⟨challengeId, rfl⟩
  · obtain ⟨time, last, below⟩ := (own created requests).2 counted
    have forward := serial.2 pid choice handler created time rfl running
      requests quiet last
    exact ⟨time - hours 1, Int.sub_le_sub_right forward _, below⟩
  · exact ⟨choice.time - hours 1, Int.le_refl _,
      fits pid choice created challengeId rfl running⟩

/-- A handler goes on with the room that it has found. -/
theorem Handler.resume_room {handler further : Handler}
    {before recorded : Recorded Store (String × Time)}
    (own : (underCap settings).own before handler)
    (resumed : handler.resume settings sha256 parseUuid before.shared choice =
      some (recorded.shared, some further))
    (notes : recorded.notes =
      (handler.counts choice).toList ++ before.notes) :
    (underCap settings).own recorded further := by
  have stamps := fun test => Handler.resume_stamped resumed test
  have normal : ∀ phone, handler.requester = some phone →
      normalizePhone phone = phone :=
    fun phone requests => (own phone requests).1
  obtain ⟨same, counts⟩ := Handler.resume_requester normal resumed rfl
  intro phone requests
  rw [same] at requests
  refine ⟨normal phone requests, ?_⟩
  intro counted
  rcases counts counted with
    ⟨before, nothing⟩ | ⟨own, counted', requests', below⟩
  · obtain ⟨time, last, below⟩ := (own phone requests).2 before
    have quiet : handler.counts choice = none := by
      cases counted : handler.counts choice with
      | none => rfl
      | some count =>
          rw [(Handler.counts_requester counted).2.2] at before
          cases before
    refine ⟨time, ?_, ?_⟩
    · rw [notes, quiet]
      exact last
    · have kept := stamps fun other since =>
        other = phone && time - hours 1 ≤ since
      rw [nothing] at kept
      exact Nat.lt_of_le_of_lt kept below
  · cases requests'.symm.trans requests
    refine ⟨choice.time, ?_, ?_⟩
    · rw [notes, counted']
      exact lastCount_cons
    · have kept := stamps fun other since =>
        other = phone && choice.time - hours 1 ≤ since
      rw [(Handler.counts_requester counted').2.1] at kept
      exact Nat.lt_of_le_of_lt kept below

section

variable {world : World (Recorded Store (String × Time)) Handler} {pid : Nat}
  {handler : Handler} {recorded : Recorded Store (String × Time)}
  {next : Option Handler}

theorem initial_underCap
    (initial : (capHistory settings sha256 parseUuid).initial recorded) :
    (underCap settings).shared recorded := by
  intro phone start
  have verifications := initial.1.verifications
  have approvals := initial.1.approvals
  have nothing : recorded.shared.createdInHour phone start = 0 := by
    unfold Store.createdInHour Store.stamped
    rw [verifications, approvals]
    rfl
  rw [nothing]
  exact Nat.zero_le _

/-- A request starts when no other runs for its phone. -/
theorem spawned_underCap {request : Request}
    (serial : SerialRequests world (.spawn pid request)) :
    (underCap settings).Arrives world pid world.shared
      (Handler.start request) := by
  have own : (underCap settings).own world.shared (Handler.start request) := by
    intro phone requests
    cases request with
    | requestCode body =>
        obtain rfl := Option.some.inj requests
        refine ⟨normalizePhone_normalizePhone body.phone, ?_⟩
        intro counted
        cases counted
    | _ => cases requests
  refine ⟨own, ?_⟩
  intro other right _ runningOther
  have apart : ∀ phone, (Handler.start request).requester = some phone →
      right.requester ≠ some phone := by
    intro phone requests
    cases request with
    | requestCode body =>
        obtain rfl := Option.some.inj requests
        exact serial.1 pid body rfl other right runningOther
    | _ => cases requests
  exact ⟨apart, fun phone shares requests => apart phone requests shares⟩

/-- A step creates a row under the cap only. -/
theorem resumed_underCap (holding : (underCap settings).Holds world)
    (serial : SerialRequests world (.resume pid choice))
    (fits : FallbackFits settings world (.resume pid choice))
    (running : world.Running pid handler)
    (ran : handler.resume settings sha256 parseUuid world.shared.shared
      choice = some (recorded.shared, next)) :
    (underCap settings).shared recorded := by
  obtain ⟨within, owns, _⟩ := holding
  have stamps := fun test => Handler.resume_stamped ran test
  intro phone start
  cases creates : handler.creates choice with
  | none =>
      have same := stamps fun other time =>
        other = phone && start ≤ time && time ≤ start + hours 1
      rw [creates] at same
      exact Nat.le_trans same (within phone start)
  | some creation =>
      obtain ⟨created, now⟩ := creation
      obtain ⟨since, before, below⟩ :=
        creates_room serial fits running (owns pid handler running) creates
      apply Store.createdInHour_le below before within
      intro test
      have same := stamps test
      rw [creates] at same
      exact same

/-- The others keep the room that they have found. -/
theorem others_underCap (holding : (underCap settings).Holds world)
    (running : world.Running pid handler)
    (ran : handler.resume settings sha256 parseUuid world.shared.shared
      choice = some (recorded.shared, next))
    (notes : recorded.notes =
      (handler.counts choice).toList ++ world.shared.notes) :
    (underCap settings).Undisturbed world pid recorded := by
  obtain ⟨_, owns, pairs⟩ := holding
  intro other right different runningOther phone requests
  have elsewhere : handler.requester ≠ some phone := by
    intro shares
    exact pairs pid other handler right (Ne.symm different) running
      runningOther phone shares requests
  obtain ⟨normal, room⟩ := owns other right runningOther phone requests
  refine ⟨normal, ?_⟩
  intro counted
  obtain ⟨time, last, below⟩ := room counted
  obtain ⟨sameLast, sameAttempts⟩ :=
    Handler.resume_other world.shared.notes ran elsewhere
  refine ⟨time, ?_, ?_⟩
  · rw [notes, sameLast]
    exact last
  · exact Nat.lt_of_le_of_lt (sameAttempts _) below

/-- A request goes on with the room that it has found, for its own phone. -/
theorem arrives_underCap {further : Handler}
    (holding : (underCap settings).Holds world)
    (running : world.Running pid handler)
    (ran : handler.resume settings sha256 parseUuid world.shared.shared
      choice = some (recorded.shared, some further))
    (notes : recorded.notes =
      (handler.counts choice).toList ++ world.shared.notes) :
    (underCap settings).Arrives world pid recorded further := by
  obtain ⟨_, owns, pairs⟩ := holding
  have normal : ∀ phone, handler.requester = some phone →
      normalizePhone phone = phone :=
    fun phone requests => (owns pid handler running phone requests).1
  obtain ⟨same, _⟩ := Handler.resume_requester normal ran rfl
  refine ⟨Handler.resume_room (owns pid handler running) ran notes, ?_⟩
  intro other right different runningOther
  have apart : ∀ phone, further.requester = some phone →
      right.requester ≠ some phone := by
    intro phone requests
    rw [same] at requests
    exact pairs pid other handler right (Ne.symm different) running
      runningOther phone requests
  exact ⟨apart, fun phone shares requests => apart phone requests shares⟩

/-- A crash writes no row. -/
theorem released_underCap (holding : (underCap settings).Holds world)
    (handler : Handler) :
    (underCap settings).shared
        ((capHistory settings sha256 parseUuid).release world.shared
          handler) ∧
      (underCap settings).Undisturbed world pid
        ((capHistory settings sha256 parseUuid).release world.shared
          handler) := by
  obtain ⟨contacts, messages, released⟩ :=
    Handler.release_eq world.shared.shared handler
  have same : ((capHistory settings sha256 parseUuid).release world.shared
      handler).shared =
      { world.shared.shared with
        heldContacts := contacts, heldMessages := messages } := released
  constructor
  · intro phone start
    rw [same]
    exact holding.1 phone start
  · intro other right _ runningOther phone requests
    obtain ⟨normal, room⟩ :=
      holding.2.1 other right runningOther phone requests
    refine ⟨normal, ?_⟩
    intro counted
    obtain ⟨time, last, below⟩ := room counted
    refine ⟨time, last, ?_⟩
    rw [same]
    exact below

theorem underCap_holds
    (reachable : (capHistory settings sha256 parseUuid).system.ReachableWhen
      (fun world label =>
        SerialRequests world label ∧ FallbackFits settings world label)
      world) : (underCap settings).Holds world := by
  apply Process.Invariant.holds _ _ _ _ reachable
  · exact fun _ initial => initial_underCap initial
  · exact fun _ _ _ _ _ permitted => spawned_underCap permitted.1
  · intro world pid choice handler recorded next _ holding permitted running
      resumed
    obtain ⟨ran, notes⟩ := Program.recorded_resume resumed
    refine ⟨resumed_underCap holding permitted.1 permitted.2 running ran,
      others_underCap holding running ran notes, ?_⟩
    rintro further rfl
    exact arrives_underCap holding running ran notes
  · exact fun _ _ handler _ holding _ _ => released_underCap holding handler

end

/-- In runs whose fallbacks find room under the cap, no rolling hour of a phone
has more verifications and approvals than the cap. -/
theorem hourly_cap {world : World (Recorded Store (String × Time)) Handler}
    (reachable : (capHistory settings sha256 parseUuid).system.ReachableWhen
      (fun world label =>
        SerialRequests world label ∧ FallbackFits settings world label)
      world) (phone : String) (start : Time) :
    world.shared.shared.createdInHour phone start ≤
      settings.verificationMaxPerHour :=
  (underCap_holds reachable).1 phone start

end

/-! ## Prompts that are not sent -/

def serialClock (recorded : Recorded Store (String × Time)) (handler : Handler)
    (choice : Choice) : Bool :=
  (handler.counts choice).isSome ||
    handler.requester.all fun phone =>
      (lastCount recorded.notes phone).all (· ≤ choice.time)

theorem serialRequests_of_alone
    {world : World (Recorded Store (String × Time)) Handler}
    {handler : Handler} {choice : Choice}
    (only : Process.OnlyRunning world 0 (some handler))
    (test : serialClock world.shared handler choice = true) :
    SerialRequests world (.resume 0 choice) := by
  refine ⟨nofun, ?_⟩
  intro pid given acting phone counted same running requests quiet last
  cases same
  obtain ⟨-, rfl⟩ := only.eq_of_running running
  simpa [serialClock, quiet, requests, last] using test

theorem serialRequests_of_spawn
    {world : World (Recorded Store (String × Time)) Handler}
    {request : Request} (quiet : world.Quiet) :
    SerialRequests world (.spawn 0 request) := by
  refine ⟨?_, ?_⟩
  · intro pid body _ other handler running
    have nobody := (quiet other).symm.trans running
    cases nobody
  · intro pid choice handler phone counted same
    cases same

/-- The test of `FallbackFits` for a process that is alone. -/
def fallbackRoom (settings : Settings)
    (recorded : Recorded Store (String × Time)) (handler : Handler)
    (choice : Choice) : Bool :=
  match handler with
  | .insertCode phone (some _) =>
      recorded.shared.attempts phone (choice.time - hours 1) <
        settings.verificationMaxPerHour
  | _ => true

theorem fallbackFits_of_alone {settings : Settings}
    {world : World (Recorded Store (String × Time)) Handler}
    {handler : Handler} {choice : Choice}
    (only : Process.OnlyRunning world 0 (some handler))
    (test : fallbackRoom settings world.shared handler choice = true) :
    FallbackFits settings world (.resume 0 choice) := by
  intro pid given phone challengeId same running
  cases same
  obtain ⟨-, rfl⟩ := only.eq_of_running running
  simpa [fallbackRoom] using test

theorem fallbackFits_of_spawn {settings : Settings}
    {world : World (Recorded Store (String × Time)) Handler}
    {request : Request} : FallbackFits settings world (.spawn 0 request) := by
  intro pid choice phone challengeId same
  cases same

/-- A request whose prompt is answered by an error, and that falls back to a
code. -/
def fallsBackAt (second : Nat) (name : String) : Request × List Choice :=
  let now := seconds second
  (.requestCode { phone := "98765 43210", browserNonce := some "nonce" },
    [.now now, .now now, .now now,
     .approval now ("approval " ++ name) ("prompt " ++ name)
       ("verifier " ++ name),
     .now now, .graph now .failed, .now now,
     .code now ("code " ++ name) ("JS-" ++ name)])

/-- One request leaves room for its code. -/
theorem hourly_cap_once :
    ∃ world : World (Recorded Store (String × Time)) Handler,
      world.shared.shared.createdInHour "919876543210" 0 = 2 ∧
      ∀ phone start, world.shared.shared.createdInHour phone start ≤
        defaultSettings.verificationMaxPerHour := by
  have ran : ((capHistory defaultSettings id some).serial
      (fun recorded handler choice =>
        serialClock recorded handler choice &&
          fallbackRoom defaultSettings recorded handler choice)
      { shared := linkedStore, notes := [] } [fallsBackAt 10 "A"]).map
      (·.shared.createdInHour "919876543210" 0) = some 2 := by
    decide +kernel
  have initial : (capHistory defaultSettings id some).initial
      { shared := linkedStore, notes := [] } :=
    ⟨initial_linkedStore, rfl⟩
  have permitted : ∀ (world : World (Recorded Store (String × Time)) Handler)
      handler choice, Process.OnlyRunning world 0 (some handler) →
      (serialClock world.shared handler choice &&
        fallbackRoom defaultSettings world.shared handler choice) = true →
      SerialRequests world (.resume 0 choice) ∧
        FallbackFits defaultSettings world (.resume 0 choice) := by
    intro world handler choice only test
    obtain ⟨clock, room⟩ := (Bool.and_eq_true _ _).mp test
    exact ⟨serialRequests_of_alone only clock, fallbackFits_of_alone only room⟩
  have reached :
      ∃ world : World (Recorded Store (String × Time)) Handler,
        (capHistory defaultSettings id some).system.ReachableWhen
          (fun world label => SerialRequests world label ∧
            FallbackFits defaultSettings world label) world ∧
        world.Quiet ∧
        world.shared.shared.createdInHour "919876543210" 0 = 2 :=
    Process.Program.reachable_serial initial
      (fun _ _ quiet _ =>
        ⟨serialRequests_of_spawn quiet, fallbackFits_of_spawn⟩)
      permitted ran
  obtain ⟨world, reachable, _, created⟩ := reached
  exact ⟨world, created, hourly_cap reachable⟩

/-- The second request has room for its approval, not for its code. -/
theorem hourly_cap_exceeded :
    ∃ world : World (Recorded Store (String × Time)) Handler,
      (capHistory defaultSettings id some).system.ReachableWhen SerialRequests
        world ∧
      defaultSettings.verificationMaxPerHour <
        world.shared.shared.createdInHour "919876543210" 0 := by
  have ran : ((capHistory defaultSettings id some).serial serialClock
      { shared := linkedStore, notes := [] }
      [fallsBackAt 10 "A", fallsBackAt 60 "B"]).map
      (·.shared.createdInHour "919876543210" 0) = some 4 := by
    decide +kernel
  have initial : (capHistory defaultSettings id some).initial
      { shared := linkedStore, notes := [] } :=
    ⟨initial_linkedStore, rfl⟩
  obtain ⟨world, reached, _, created⟩ :=
    Process.Program.reachable_serial initial
      (fun _ _ quiet _ => serialRequests_of_spawn quiet)
      (fun _ _ _ => serialRequests_of_alone) ran
  refine ⟨world, reached, ?_⟩
  rw [created]
  decide

end JanSetu.Auth
