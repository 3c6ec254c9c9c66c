import JanSetu.Whatsapp.Windows

/-!
# The customer service window

A row's gate compares the clock with the window stored with its conversation.
A row without a conversation has none, and is sent at any time unless it is a
login prompt, which is checked against the contact's own window.
-/

namespace JanSetu.Whatsapp

open Pipeline (Geometry)
open Process (Label)

/-! ## The gates -/

/-- The row that a challenge prompts with is one of its contact. -/
def Outbox.Prompts (outbox : Outbox) : Prop :=
  ∀ challengeId row messageId,
    outbox.approvals.find challengeId = some row →
    row.approvalOutboundMessageId = some messageId →
    ∃ message, outbox.store.outgoingMessage messageId = some message ∧
      message.contactId = row.contactId

/-- A window that has ended in the conversation has ended for the contact; a
row that has none, and is no login prompt, is claimed inside the contact's. -/
def Outbox.GateTells (settings : Settings) (outbox : Outbox)
    (message : OutgoingMessage) (now : Time) : Prop :=
  match outbox.store.serviceWindowExpiresAt message with
  | some expiry =>
      expiry < now →
        insideWindow settings (outbox.store.latestInbound message.contactId)
          now = false
  | none =>
      message.replyKind = "login_approval" ∨
        insideWindow settings (outbox.store.latestInbound message.contactId)
          now = true

/-- A call is started inside the window, and a row blocked outside of it. -/
def Dispatched.Respects (settings : Settings) : Dispatched → Prop
  | .called _ lastInbound now => insideWindow settings lastInbound now = true
  | .blocked _ lastInbound now => insideWindow settings lastInbound now = false

section

variable {settings : Settings} {geometry : Geometry}
  {outbox after : Outbox} {choice : Party.Choice} {messageId : String}
  {message : OutgoingMessage} {now : Time}

theorem Outbox.Prompts.contact {challengeId : String}
    (prompts : outbox.Prompts)
    (found : outbox.store.outgoingMessage messageId = some message)
    (only : outbox.challengesOf messageId now = [challengeId]) :
    (outbox.approvals.find challengeId).map (·.contactId) =
      some message.contactId := by
  have member : challengeId ∈ outbox.challengesOf messageId now := by
    rw [only]
    exact List.mem_cons_self
  obtain ⟨row, stored, passes⟩ := Table.mem_select.mp member
  simp only [Bool.and_eq_true, decide_eq_true_eq] at passes
  obtain ⟨same, found', own⟩ :=
    prompts challengeId row messageId stored passes.1.1
  rw [found] at found'
  cases found'
  rw [stored, Option.map_some, own]

/-- What the two gates let through is inside the window. -/
theorem Outbox.gate_clear (windowed : outbox.store.Windowed settings)
    (prompts : outbox.Prompts)
    (found : outbox.store.outgoingMessage messageId = some message)
    (tells : outbox.GateTells settings message now)
    (clear : outbox.gate settings messageId message now = .clear) :
    insideWindow settings (outbox.store.latestInbound message.contactId)
      now = true := by
  unfold Outbox.gate at clear
  split at clear
  case isTrue => cases clear
  case isFalse current =>
    cases window : outbox.store.serviceWindowExpiresAt message with
    | some expiry =>
        rw [window, Option.any_some, decide_eq_true_eq] at current
        exact windowed.inside found window (Int.not_lt.mp current)
    | none =>
        simp only [Outbox.GateTells, window] at tells
        rcases tells with login | inside
        · rw [if_neg (not_not_intro login)] at clear
          split at clear
          · cases clear
          case h_2 only =>
            dsimp only at clear
            rw [prompts.contact found only] at clear
            split at clear
            case isTrue inside => exact inside
            case isFalse => cases clear
          · cases clear
        · exact inside

/-- What one of them blocks is outside. -/
theorem Outbox.gate_blocked {challengeId : Option String}
    (prompts : outbox.Prompts)
    (found : outbox.store.outgoingMessage messageId = some message)
    (tells : outbox.GateTells settings message now)
    (blocked : outbox.gate settings messageId message now =
      .blocked challengeId) :
    insideWindow settings (outbox.store.latestInbound message.contactId)
      now = false := by
  unfold Outbox.gate at blocked
  split at blocked
  case isTrue ended =>
    obtain ⟨expiry, window, past⟩ := (Option.any_eq_true _ _).mp ended
    simp only [Outbox.GateTells, window] at tells
    exact tells (of_decide_eq_true past)
  case isFalse =>
    split at blocked
    · cases blocked
    · split at blocked
      · cases blocked
      case h_2 only =>
        dsimp only at blocked
        rw [prompts.contact found only] at blocked
        split at blocked
        case isTrue => cases blocked
        case isFalse outside => simpa using outside
      · cases blocked

/-! ## Runs -/

/-- What a party relies on: the messages it has still to handle are stored, and
the gate of a row that it is about to post let it through. -/
def Party.Guarded (settings : Settings) (outbox : Outbox) : Party → Prop
  | .task driver =>
      ∀ message ∈ driver.unhandled, message.stored ∈ outbox.store.incoming
  | .sender (.posting messageId _ checkedAt _) =>
      insideWindow settings (outbox.lastInbound messageId) checkedAt = true
  | _ => True

def windowGuard (settings : Settings) : Process.Invariant Outbox Party :=
  { shared := fun outbox =>
      outbox.store.Windowed settings ∧ outbox.Prompts ∧
        ∀ entry ∈ outbox.journal, entry.Respects settings
    own := fun outbox party => party.Guarded settings outbox
    pair := fun _ _ => True }

/-- A gate tells the contact's window, and a window that was open at the gate
does not end before the call starts. -/
def TrueWindows (settings : Settings) (world : World Outbox Party)
    (label : Label Party.Request Party.Choice) : Prop :=
  (∀ pid choice messageId rest message claimed, label = .resume pid choice →
    world.Running pid (.sender (.claiming messageId rest)) →
    world.shared.claimOutbound messageId choice.now =
      some (message, claimed) →
    claimed.attemptCount ≤ Auth.maxSendAttempts →
    world.shared.GateTells settings message choice.now) ∧
  ∀ pid choice messageId attempt checkedAt rest, label = .resume pid choice →
    choice.answer = .plain →
    world.Running pid
      (.sender (.posting messageId attempt checkedAt rest)) →
    insideWindow settings (world.shared.lastInbound messageId) checkedAt =
      true →
    insideWindow settings (world.shared.lastInbound messageId) choice.now =
      true

theorem Outbox.lastInbound_of_continues
    (continues : outbox.store.Continues settings after.store)
    (inside : insideWindow settings (outbox.lastInbound messageId) now =
      true) :
    insideWindow settings (after.lastInbound messageId) now = true := by
  unfold Outbox.lastInbound at inside ⊢
  cases found : outbox.store.outgoingMessage messageId with
  | none =>
      rw [found] at inside
      cases inside
  | some message =>
      rw [found, Option.bind_some] at inside
      rw [continues.outgoing messageId message found, Option.bind_some]
      exact insideWindow_of_continues continues inside

theorem Party.Guarded.continues {party : Party}
    (continues : outbox.store.Continues settings after.store)
    (guarded : party.Guarded settings outbox) :
    party.Guarded settings after := by
  unfold Party.Guarded at guarded ⊢
  split
  · intro message member
    exact continues.incoming _ (guarded message member)
  · exact Outbox.lastInbound_of_continues continues guarded
  · trivial

theorem Outbox.Prompts.kept (prompts : outbox.Prompts)
    (rows : ∀ messageId message,
      outbox.store.outgoingMessage messageId = some message →
      after.store.outgoingMessage messageId = some message)
    (approvals : ∀ challengeId row,
      after.approvals.find challengeId = some row →
      ∃ before, outbox.approvals.find challengeId = some before ∧
        row.contactId = before.contactId ∧
        row.approvalOutboundMessageId = before.approvalOutboundMessageId) :
    after.Prompts := by
  intro challengeId row messageId stored prompted
  obtain ⟨before, stored', contact, same⟩ := approvals challengeId row stored
  rw [same] at prompted
  obtain ⟨message, found, own⟩ :=
    prompts challengeId before messageId stored' prompted
  exact ⟨message, rows messageId message found, own.trans contact.symm⟩

/-- An `UPDATE` that leaves the contact and the prompt of every challenge. -/
theorem updateWhere_keeps
    {approvals : Table String Auth.LoginApprovalChallenge}
    {test : String → Auth.LoginApprovalChallenge → Bool}
    {change : Auth.LoginApprovalChallenge → Auth.LoginApprovalChallenge}
    {challengeId : String} {row : Auth.LoginApprovalChallenge}
    (stored : (approvals.updateWhere test change).find challengeId =
      some row)
    (same : ∀ row, (change row).contactId = row.contactId ∧
      (change row).approvalOutboundMessageId =
        row.approvalOutboundMessageId) :
    ∃ before, approvals.find challengeId = some before ∧
      row.contactId = before.contactId ∧
      row.approvalOutboundMessageId = before.approvalOutboundMessageId := by
  rw [Table.find_updateWhere] at stored
  obtain ⟨before, found, rfl⟩ := Option.map_eq_some_iff.mp stored
  refine ⟨before, found, ?_⟩
  split
  · exact same before
  · exact ⟨rfl, rfl⟩

theorem Outbox.lastInbound_eq
    (found : outbox.store.outgoingMessage messageId = some message) :
    outbox.lastInbound messageId =
      outbox.store.latestInbound message.contactId := by
  unfold Outbox.lastInbound
  rw [found, Option.bind_some]

theorem Sender.Moves.store {sender : Sender} {next : Option Sender}
    (moves : sender.Moves settings outbox choice after next) :
    after.store = outbox.store := by
  cases moves <;> rfl

theorem Sender.Moves.prompts {sender : Sender} {next : Option Sender}
    (moves : sender.Moves settings outbox choice after next)
    (prompts : outbox.Prompts) : after.Prompts := by
  cases moves with
  | blocked =>
      refine prompts.kept (fun _ _ => id) ?_
      intro challengeId row found
      exact updateWhere_keeps found fun row => ⟨rfl, rfl⟩
  | _ => exact prompts

/-- What a step of a sender writes down. -/
theorem Sender.Moves.respects {sender : Sender} {next : Option Sender}
    (moves : sender.Moves settings outbox choice after next)
    (prompts : outbox.Prompts)
    (tells : ∀ messageId rest message claimed,
      sender = .claiming messageId rest →
      outbox.claimOutbound messageId choice.now = some (message, claimed) →
      claimed.attemptCount ≤ Auth.maxSendAttempts →
      outbox.GateTells settings message choice.now)
    (open_ : ∀ messageId attempt checkedAt rest,
      sender = .posting messageId attempt checkedAt rest →
      choice.answer = .plain →
      insideWindow settings (outbox.lastInbound messageId) choice.now = true)
    (respected : ∀ entry ∈ outbox.journal, entry.Respects settings) :
    ∀ entry ∈ after.journal, entry.Respects settings := by
  cases moves with
  | blocked claims few blocked =>
      intro entry member
      rcases List.mem_cons.mp member with rfl | before
      · obtain ⟨found, _⟩ := Outbox.claimOutbound_eq claims
        unfold Dispatched.Respects
        dsimp only
        rw [Outbox.lastInbound_eq found]
        exact Outbox.gate_blocked prompts found
          (tells _ _ _ _ rfl claims few) blocked
      · exact respected entry before
  | called plain =>
      intro entry member
      rcases List.mem_cons.mp member with rfl | before
      · exact open_ _ _ _ _ rfl plain
      · exact respected entry before
  | _ => exact respected

theorem Sender.next_guarded (rest : List String) (further : Sender)
    (next : Sender.next rest = some further) :
    Party.Guarded settings outbox (.sender further) := by
  cases rest with
  | nil => cases next
  | cons messageId rest =>
      cases next
      trivial

theorem Sender.Moves.guarded {sender further : Sender}
    {next : Option Sender}
    (moves : sender.Moves settings outbox choice after next)
    (arrives : next = some further)
    (windowed : outbox.store.Windowed settings) (prompts : outbox.Prompts)
    (tells : ∀ messageId rest message claimed,
      sender = .claiming messageId rest →
      outbox.claimOutbound messageId choice.now = some (message, claimed) →
      claimed.attemptCount ≤ Auth.maxSendAttempts →
      outbox.GateTells settings message choice.now) :
    Party.Guarded settings after (.sender further) := by
  cases moves with
  | claimed claims few clear =>
      cases arrives
      obtain ⟨found, _⟩ := Outbox.claimOutbound_eq claims
      have inside := Outbox.gate_clear windowed prompts found
        (tells _ _ _ _ rfl claims few) clear
      rw [← Outbox.lastInbound_eq found] at inside
      exact inside
  | called =>
      cases arrives
      trivial
  | raised => cases arrives
  | _ => exact Sender.next_guarded _ further arrives

/-- A login stores its prompt as a row of the challenge's contact. -/
theorem Outbox.requestCode_keeps {prompt : LoginPrompt}
    (created : outbox.requestCode prompt now = some after)
    (prompts : outbox.Prompts) :
    outbox.store.Continues settings after.store ∧ after.Prompts := by
  unfold Outbox.requestCode at created
  split at created
  · cases created
  case isFalse =>
    dsimp only at created
    have shape := outbox.store.storeOutgoingPending_fst prompt.message
    have inserts : (outbox.store.storeOutgoingPending prompt.message).2 =
        true →
        (outbox.store.storeOutgoingPending prompt.message).1.outgoingMessage
          prompt.message.idempotencyKey = some prompt.message := by
      unfold Store.storeOutgoingPending Store.outgoingMessage
      split
      · intro flag
        cases flag
      · intro _
        exact List.find?_cons_of_pos (by simp)
    generalize outbox.store.storeOutgoingPending prompt.message = outcome
      at created shape inserts
    obtain ⟨stored, isNew⟩ := outcome
    have continues :
        outbox.store.Continues settings (stored, isNew).1 := by
      rw [shape]
      refine .added rfl rfl rfl ?_
      intro id belongs
      cases belongs
    cases created
    refine ⟨continues, ?_⟩
    intro challengeId row messageId found prompted
    by_cases here : challengeId = prompt.challengeId
    · subst here
      rw [Table.find_put_self] at found
      cases found
      cases isNew with
      | false => cases prompted
      | true =>
          cases prompted
          exact ⟨prompt.message, inserts rfl, rfl⟩
    · rw [Table.find_put_of_ne _ _ here] at found
      obtain ⟨before, stored', contact, same⟩ :=
        updateWhere_keeps found fun row => ⟨rfl, rfl⟩
      rw [same] at prompted
      obtain ⟨message, kept, own⟩ :=
        prompts challengeId before messageId stored' prompted
      exact ⟨message, continues.outgoing messageId message kept,
        own.trans contact.symm⟩

theorem windowGuard_holds {world : World Outbox Party}
    (reachable :
      (dispatchProgram settings geometry).system.ReachableWhen
        (TrueWindows settings) world) :
    (windowGuard settings).Holds world := by
  apply Process.Invariant.holds _ _ _ _ reachable
  case _ =>
    intro outbox initial
    obtain ⟨store, _, approvals, journal⟩ := initial
    refine ⟨⟨?_, ?_⟩, ?_, ?_⟩
    · rw [store.conversations]
      intro id row found
      rw [Table.find_empty] at found
      cases found
    · rw [store.outgoing]
      intro message member
      cases member
    · intro challengeId row messageId found
      rw [approvals, Table.find_empty] at found
      cases found
    · rw [journal]
      intro entry member
      cases member
  case _ =>
    intro world pid request _ _ _
    refine ⟨?_, fun _ _ _ _ => ⟨trivial, trivial⟩⟩
    cases request with
    | task request =>
        intro message member
        cases request <;> cases member
    | _ => trivial
  case _ =>
    intro world pid choice party after next _ holding permitted running
      resumed
    obtain ⟨⟨windowed, prompts, respected⟩, owns, _⟩ := holding
    have own := owns pid party running
    have others : world.shared.store.Continues settings after.store →
        (windowGuard settings).Undisturbed world pid after := by
      intro continues other right _ runningOther
      exact (owns other right runningOther).continues continues
    rcases Party.resume_cases resumed with
      ⟨driver, answer, store, further, rfl, ran, rfl, rfl⟩ |
      ⟨sending, further, rfl, moves, rfl⟩ |
      ⟨prompt, rfl, created, rfl⟩ |
      ⟨challengeId, status, rfl, rfl, rfl⟩
    · obtain ⟨continues, stored⟩ := Task.resume_continues ran own
      refine ⟨⟨continues.windowed windowed, ?_, respected⟩,
        others continues, ?_⟩
      · apply prompts.kept continues.outgoing
        intro challengeId row found
        exact ⟨row, found, rfl, rfl⟩
      · intro party arrives
        obtain ⟨arrived, found, rfl⟩ := Option.map_eq_some_iff.mp arrives
        exact ⟨stored arrived found, fun _ _ _ _ => ⟨trivial, trivial⟩⟩
    · have same := moves.store
      have continues : world.shared.store.Continues settings after.store := by
        rw [same]
        exact .refl _
      have tells : ∀ messageId rest message claimed,
          sending = .claiming messageId rest →
          world.shared.claimOutbound messageId choice.now =
            some (message, claimed) →
          claimed.attemptCount ≤ Auth.maxSendAttempts →
          world.shared.GateTells settings message choice.now := by
        rintro messageId rest message claimed rfl claims few
        exact permitted.1 pid choice messageId rest message claimed rfl
          running claims few
      refine ⟨⟨continues.windowed windowed, moves.prompts prompts, ?_⟩,
        others continues, ?_⟩
      · apply moves.respects prompts tells _ respected
        rintro messageId attempt checkedAt rest rfl plain
        exact permitted.2 pid choice messageId attempt checkedAt rest rfl
          plain running own
      · intro party arrives
        obtain ⟨arrived, found, rfl⟩ := Option.map_eq_some_iff.mp arrives
        exact ⟨moves.guarded found windowed prompts tells,
          fun _ _ _ _ => ⟨trivial, trivial⟩⟩
    · obtain ⟨continues, prompted⟩ :=
        Outbox.requestCode_keeps created prompts
      refine ⟨⟨continues.windowed windowed, prompted, ?_⟩,
        others continues, ?_⟩
      · rw [(Outbox.requestCode_rows created).2]
        exact respected
      · intro party arrives
        cases arrives
    · refine ⟨⟨windowed, ?_, respected⟩, others (.refl _), ?_⟩
      · refine prompts.kept (fun _ _ => id) ?_
        intro challengeId row found
        exact updateWhere_keeps found fun row => ⟨rfl, rfl⟩
      · intro party arrives
        cases arrives
  case _ =>
    intro world pid party _ holding _ _
    obtain ⟨⟨windowed, prompts, respected⟩, owns, _⟩ := holding
    have continues : world.shared.store.Continues settings
        (party.release world.shared).store := by
      cases party with
      | task driver => exact Task.release_continues _ driver
      | _ => exact .refl _
    refine ⟨⟨continues.windowed windowed, ?_, ?_⟩, ?_⟩
    · apply prompts.kept continues.outgoing
      intro challengeId row found
      refine ⟨row, ?_, rfl, rfl⟩
      cases party <;> exact found
    · rw [show (dispatchProgram settings geometry).release world.shared party =
        party.release world.shared from rfl,
        (party.release_rows world.shared).2]
      exact respected
    · intro other right _ runningOther
      exact (owns other right runningOther).continues continues

/-- As long as every gate tells the window of the row's contact, and no window
ends between a gate and its call, calls are started inside the contact's window
and rows blocked outside of it. -/
theorem service_window_respected {world : World Outbox Party}
    (reachable :
      (dispatchProgram settings geometry).system.ReachableWhen
        (TrueWindows settings) world) :
    ∀ entry ∈ world.shared.journal, entry.Respects settings := by
  obtain ⟨⟨_, _, respected⟩, _, _⟩ := windowGuard_holds reachable
  exact respected

end

/-! ## Replies inside and outside the window -/

instance (settings : Settings) (outbox : Outbox) (message : OutgoingMessage)
    (now : Time) : Decidable (outbox.GateTells settings message now) := by
  unfold Outbox.GateTells
  split <;> infer_instance

instance (settings : Settings) (entry : Dispatched) :
    Decidable (entry.Respects settings) := by
  unfold Dispatched.Respects
  split <;> infer_instance

/-- A party that is alone, whose gate tells the window and whose call starts
inside of it. -/
def gateTells (outbox : Outbox) (party : Party) (choice : Party.Choice) :
    Bool :=
  match party with
  | .sender (.claiming messageId _) =>
      (outbox.claimOutbound messageId choice.now).all fun claimed =>
        outbox.GateTells repliesOn claimed.1 choice.now
  | .sender (.posting messageId _ _ _) =>
      insideWindow repliesOn (outbox.lastInbound messageId) choice.now
  | _ => true

theorem trueWindows_of_alone {world : World Outbox Party} {party : Party}
    {choice : Party.Choice}
    (only : Process.OnlyRunning world 0 (some party))
    (test : gateTells world.shared party choice = true) :
    TrueWindows repliesOn world (.resume 0 choice) := by
  constructor
  · rintro pid _ messageId rest message claimed ⟨⟩ running claims _
    obtain ⟨-, rfl⟩ := only.eq_of_running running
    simpa [gateTells, claims] using test
  · rintro pid _ messageId attempt checkedAt rest ⟨⟩ _ running _
    obtain ⟨-, rfl⟩ := only.eq_of_running running
    exact test

theorem trueWindows_of_spawn {world : World Outbox Party} {pid : Nat}
    {request : Party.Request} :
    TrueWindows repliesOn world (.spawn pid request) := by
  constructor
  · intro _ _ _ _ _ _ same
    cases same
  · intro _ _ _ _ _ _ same
    cases same

/-- The reply to a code is sent at once, and that of a conversation is tried
when the window has passed. -/
theorem service_window_respected_twice :
    ∃ world : World Outbox Party,
      world.shared.journal =
        [.blocked "c1:m2:greeting_location" (some 0) (hours 25),
         .called codeReply (some 0) 1] ∧
      ∀ entry ∈ world.shared.journal, entry.Respects repliesOn := by
  have ran : ((dispatchProgram repliesOn Pipeline.flatMap).serial gateTells
      (.ofEvents [("e1", [sampleText "m1" "JS-ABC123"]),
        ("e2", [sampleText "m2" "hello"])])
      [drivesEvent "e1" 0,
       (.sendPending codeReply,
        [⟨1, .plain⟩, ⟨1, .plain⟩, ⟨2, .accepted (some "w1")⟩]),
       drivesEvent "e2" 0,
       (.sendPending "c1:m2:greeting_location", [⟨hours 25, .plain⟩])]).map
      (·.journal) =
      some [.blocked "c1:m2:greeting_location" (some 0) (hours 25),
        .called codeReply (some 0) 1] := by
    decide +kernel
  obtain ⟨world, reachable, _, journal⟩ :=
    Process.Program.reachable_serial Outbox.ofEvents_initial
      (fun _ _ _ _ => trueWindows_of_spawn)
      (fun _ _ _ => trueWindows_of_alone) ran
  exact ⟨world, journal, service_window_respected reachable⟩

/-- A reply without a conversation is sent again after the window has passed; an
old message that is consumed late closes the window that a later one opened. -/
theorem service_window_missed :
    (∃ world,
      (dispatchProgram repliesOn Pipeline.flatMap).system.Reachable world ∧
      ∃ entry ∈ world.shared.journal,
        entry = .called codeReply (some 0) (hours 25) ∧
          ¬ entry.Respects repliesOn) ∧
    ∃ world,
      (dispatchProgram repliesOn Pipeline.flatMap).system.Reachable world ∧
      ∃ entry ∈ world.shared.journal,
        entry = .blocked "c1:m1:location_reprompt" (some (hours 20))
          (hours 30) ∧
          ¬ entry.Respects repliesOn := by
  have resent : ((dispatchProgram repliesOn Pipeline.flatMap).serial
      (fun _ _ _ => true) sampleCode
      [drivesEvent "e1" 0,
       (.sendPending codeReply, [⟨1, .plain⟩, ⟨1, .refused⟩]),
       (.sendPending codeReply,
        [⟨hours 25, .plain⟩, ⟨hours 25, .plain⟩,
         ⟨hours 25, .accepted (some "w1")⟩])]).map (·.journal) =
      some [.called codeReply (some 0) (hours 25)] := by
    decide +kernel
  have late : ((dispatchProgram repliesOn Pipeline.flatMap).serial
      (fun _ _ _ => true)
      (.ofEvents [("e1", [sampleText "m1" "hello"]),
        ("e2", [{ sampleText "m2" "hello" with receivedAt := hours 20 }])])
      [drivesEvent "e2" (hours 20), drivesEvent "e1" (hours 30),
       (.sendPending "c1:m1:location_reprompt",
        [⟨hours 30, .plain⟩])]).map (·.journal) =
      some [.blocked "c1:m1:location_reprompt" (some (hours 20))
        (hours 30)] := by
    decide +kernel
  constructor
  · obtain ⟨world, reachable, _, journal⟩ :=
      Process.Program.reachable_served Outbox.ofEvents_initial resent
    refine ⟨world, reachable, _, ?_, rfl, by decide⟩
    rw [journal]
    exact List.mem_cons_self
  · obtain ⟨world, reachable, _, journal⟩ :=
      Process.Program.reachable_served Outbox.ofEvents_initial late
    refine ⟨world, reachable, _, ?_, rfl, by decide⟩
    rw [journal]
    exact List.mem_cons_self

end JanSetu.Whatsapp
