import JanSetu.Library.Lease
import JanSetu.Whatsapp.Dispatch

/-!
# Sent rows

Each claim of an outgoing row takes the next attempt.  As long as a sender
starts its call and records the outcome only while its own attempt is the last
one, the row is being sent whenever it does; a row that is sent cannot be
claimed, so that it stays sent and is not posted again.
-/

namespace JanSetu.Whatsapp

open Pipeline (Geometry)
open Process (Label)
open Transition.System (Always)

/-- The row that a sender has claimed, with the attempt of its claim. -/
def Sender.held : Sender → List (String × Nat)
  | .posting messageId attempt _ _ => [(messageId, attempt)]
  | .calling messageId attempt _ => [(messageId, attempt)]
  | _ => []

def Party.held : Party → List (String × Nat)
  | .sender sending => sending.held
  | _ => []

def claimedRows : Process.Leases Outbox Party String :=
  { last := fun outbox messageId => (outbox.delivery messageId).attemptCount
    busy := fun outbox messageId =>
      (outbox.delivery messageId).status = .sending
    held := Party.held }

/-- A call is started, and its outcome recorded, only while nobody has claimed
the row since. -/
def LastClaims (world : World Outbox Party)
    (label : Label Party.Request Party.Choice) : Prop :=
  ∀ pid choice sender claim, label = .resume pid choice →
    world.Running pid (.sender sender) → claim ∈ sender.held →
    (world.shared.delivery claim.1).attemptCount = claim.2

def Outbox.statusOf (outbox : Outbox) (messageId : String) :
    Auth.MessageStatus :=
  (outbox.delivery messageId).status

def Dispatched.calls (messageId : String) : Dispatched → Bool
  | .called posted _ _ => posted = messageId
  | .blocked _ _ _ => false

/-- The Graph calls that were started for the row. -/
def Outbox.calls (outbox : Outbox) (messageId : String) : Nat :=
  outbox.journal.countP (·.calls messageId)

section

variable {settings : Settings} {geometry : Geometry}
  {outbox after : Outbox} {choice : Party.Choice} {messageId : String}

/-! ## Attempts -/

theorem Sender.held_next (rest : List String) (further : Sender)
    (next : Sender.next rest = some further) : further.held = [] := by
  cases rest with
  | nil => cases next
  | cons messageId rest =>
      cases next
      rfl

theorem Outbox.delivery_of_same
    (same : after.deliveries = outbox.deliveries) (messageId : String) :
    after.delivery messageId = outbox.delivery messageId := by
  simp only [Outbox.delivery, same]

theorem Outbox.delivery_of_put {row : Delivery}
    (written : after.deliveries = outbox.deliveries.put messageId row)
    (other : String) :
    after.delivery other =
      if other = messageId then row else outbox.delivery other := by
  rw [← outbox.delivery_setDelivery]
  exact Outbox.delivery_of_same written other

theorem claimedRows_of_same {key : String}
    (same : after.delivery key = outbox.delivery key) :
    claimedRows.last after key = claimedRows.last outbox key ∧
      (claimedRows.busy outbox key → claimedRows.busy after key) := by
  unfold claimedRows
  dsimp only
  rw [same]
  exact ⟨rfl, id⟩

theorem Outbox.keeps_of_same {party : Party} {next : Option Party}
    {key : String} (same : after.delivery key = outbox.delivery key) :
    claimedRows.Keeps outbox party after next key := by
  obtain ⟨last, busy⟩ := claimedRows_of_same same
  exact .kept last busy

/-- A claim takes the next attempt, whatever becomes of the row. -/
theorem Outbox.claim_keeps {now : Time} {message : OutgoingMessage}
    {claimed row : Delivery} {party : Party} {next : Option Party}
    (claims : outbox.claimOutbound messageId now = some (message, claimed))
    (written : after.deliveries = outbox.deliveries.put messageId row)
    (counted : row.attemptCount = claimed.attemptCount)
    (key : String) : claimedRows.Keeps outbox party after next key := by
  obtain ⟨_, _, rfl⟩ := Outbox.claimOutbound_eq claims
  have find := Outbox.delivery_of_put written key
  by_cases same : key = messageId
  · rw [if_pos same] at find
    apply Process.Leases.Keeps.claimed
    show (outbox.delivery key).attemptCount < (after.delivery key).attemptCount
    rw [find, counted, same]
    exact Nat.lt_succ_self _
  · rw [if_neg same] at find
    exact Outbox.keeps_of_same find

/-- A mark ends the last claim of its row. -/
theorem Outbox.mark_keeps {sender : Sender} {next : Option Sender}
    {attempt : Nat} {status : Auth.MessageStatus}
    {metaMessageId : Option String}
    (holds : (messageId, attempt) ∈ sender.held)
    (last : (outbox.delivery messageId).attemptCount = attempt)
    (drops : ∀ further, next = some further → further.held = [])
    (key : String) :
    claimedRows.Keeps outbox (.sender sender)
      (outbox.markOutbound messageId status metaMessageId)
      (next.map .sender) key := by
  have find := outbox.delivery_setDelivery messageId key
    ((outbox.delivery messageId).mark status metaMessageId)
  by_cases same : key = messageId
  · subst same
    rw [if_pos rfl] at find
    apply Process.Leases.Keeps.reported
    · exact (congrArg Delivery.attemptCount find).trans rfl
    · show (key, (outbox.delivery key).attemptCount) ∈ sender.held
      rw [last]
      exact holds
    · intro party arrives
      obtain ⟨further, found, rfl⟩ := Option.map_eq_some_iff.mp arrives
      simp [claimedRows, Party.held, drops further found]
  · rw [if_neg same] at find
    exact Outbox.keeps_of_same find

theorem Sender.Moves.keeps {sender : Sender} {next : Option Sender}
    (moves : sender.Moves settings outbox choice after next)
    (last : ∀ claim ∈ sender.held,
      (outbox.delivery claim.1).attemptCount = claim.2) (key : String) :
    claimedRows.Keeps outbox (.sender sender) after (next.map .sender)
      key := by
  cases moves with
  | swept => exact .kept rfl id
  | skipped => exact .kept rfl id
  | failed claims =>
      apply Outbox.claim_keeps claims
      · rfl
      · rfl
  | blocked claims =>
      apply Outbox.claim_keeps claims
      · rfl
      · rfl
  | claimed claims =>
      apply Outbox.claim_keeps claims
      · rfl
      · rfl
  | called => exact .kept rfl id
  | uncalled =>
      apply Outbox.mark_keeps List.mem_cons_self
      · exact last _ List.mem_cons_self
      · exact Sender.held_next _
  | refused =>
      apply Outbox.mark_keeps List.mem_cons_self
      · exact last _ List.mem_cons_self
      · exact Sender.held_next _
  | accepted =>
      apply Outbox.mark_keeps List.mem_cons_self
      · exact last _ List.mem_cons_self
      · exact Sender.held_next _
  | raised => exact .kept rfl id

/-- What a sender holds after a step it held before, or has just claimed. -/
theorem Sender.Moves.holds {sender further : Sender} {next : Option Sender}
    (moves : sender.Moves settings outbox choice after next)
    (arrives : next = some further) (claim : String × Nat)
    (member : claim ∈ further.held) :
    claimedRows.Holds outbox (.sender sender) after claim := by
  cases moves with
  | claimed claims =>
      cases arrives
      obtain ⟨_, _, rfl⟩ := Outbox.claimOutbound_eq claims
      cases List.mem_singleton.mp member
      right
      have find := outbox.delivery_setDelivery
      simp only [claimedRows, find, if_pos, Delivery.claim]
      simp
  | called =>
      cases arrives
      exact .inl member
  | raised => cases arrives
  | _ =>
      rw [Sender.held_next _ further arrives] at member
      cases member

theorem claimed_rows_counted {world : World Outbox Party}
    (reachable :
      (dispatchProgram settings geometry).system.ReachableWhen LastClaims
        world) : claimedRows.counted.Holds world := by
  apply Process.Leases.counted_holds _ _ _ reachable
  case _ =>
    intro request
    cases request <;> rfl
  case _ =>
    intro world pid choice party after next _ _ permitted running resumed
    rcases Party.resume_cases resumed with
      ⟨driver, answer, store, further, rfl, _, rfl, rfl⟩ |
      ⟨sending, further, rfl, moves, rfl⟩ |
      ⟨prompt, rfl, created, rfl⟩ |
      ⟨challengeId, status, rfl, rfl, rfl⟩
    · refine ⟨fun key => .kept rfl id, ?_⟩
      intro party arrives claim member
      obtain ⟨_, _, rfl⟩ := Option.map_eq_some_iff.mp arrives
      cases member
    · constructor
      · apply moves.keeps
        intro claim member
        exact permitted pid choice sending claim rfl running member
      · intro party arrives claim member
        obtain ⟨further, found, rfl⟩ := Option.map_eq_some_iff.mp arrives
        exact moves.holds found claim member
    · have same := Outbox.delivery_of_same (Outbox.requestCode_rows created).1
      refine ⟨fun key => Outbox.keeps_of_same (same key), ?_⟩
      intro party arrives
      cases arrives
    · refine ⟨fun key => .kept rfl id, ?_⟩
      intro party arrives
      cases arrives
  case _ =>
    intro outbox party key
    apply claimedRows_of_same
    exact Outbox.delivery_of_same (party.release_rows outbox).1 key

/-! ## What is sent stays sent -/

/-- A row that is sent stays sent and is not posted again. -/
def Outbox.StaysSent (outbox after : Outbox) (messageId : String) : Prop :=
  outbox.statusOf messageId = .sent →
    after.statusOf messageId = .sent ∧
      after.calls messageId = outbox.calls messageId

theorem Outbox.StaysSent.of_same
    (deliveries : after.deliveries = outbox.deliveries)
    (journal : after.journal = outbox.journal) :
    outbox.StaysSent after messageId := by
  intro sent
  constructor
  · unfold Outbox.statusOf
    rw [Outbox.delivery_of_same deliveries]
    exact sent
  · simp only [Outbox.calls, journal]

theorem Outbox.StaysSent.trans {first second third : Outbox}
    (before : first.StaysSent second messageId)
    (later : second.StaysSent third messageId) :
    first.StaysSent third messageId := by
  intro sent
  obtain ⟨still, calls⟩ := before sent
  obtain ⟨final, further⟩ := later still
  exact ⟨final, further.trans calls⟩

/-- The write of a row that is not sent leaves the others. -/
theorem Outbox.StaysSent.of_put {row : Delivery} {key : String}
    (written : after.deliveries = outbox.deliveries.put key row)
    (unsent : outbox.statusOf key ≠ .sent)
    (calls : after.calls messageId = outbox.calls messageId) :
    outbox.StaysSent after messageId := by
  intro sent
  refine ⟨?_, calls⟩
  have different : messageId ≠ key := by
    rintro rfl
    exact unsent sent
  unfold Outbox.statusOf
  rw [Outbox.delivery_of_put written, if_neg different]
  exact sent

theorem Outbox.unsent_of_claim {now : Time} {message : OutgoingMessage}
    {claimed : Delivery}
    (claims : outbox.claimOutbound messageId now = some (message, claimed)) :
    outbox.statusOf messageId ≠ .sent := by
  obtain ⟨_, claimable, _⟩ := Outbox.claimOutbound_eq claims
  intro sent
  unfold Outbox.statusOf at sent
  simp [Delivery.claimable, sent] at claimable

theorem Sender.Moves.staysSent {sender : Sender} {next : Option Sender}
    (moves : sender.Moves settings outbox choice after next)
    (sending : ∀ claim ∈ sender.held,
      outbox.statusOf claim.1 = .sending) :
    outbox.StaysSent after messageId := by
  have unsent : ∀ claim ∈ sender.held,
      outbox.statusOf claim.1 ≠ .sent := by
    intro claim member
    rw [sending claim member]
    simp
  cases moves with
  | swept => exact .of_same rfl rfl
  | skipped => exact .of_same rfl rfl
  | failed claims => exact .of_put rfl (Outbox.unsent_of_claim claims) rfl
  | blocked claims =>
      apply Outbox.StaysSent.of_put rfl (Outbox.unsent_of_claim claims)
      simp [Outbox.calls, Outbox.record, Dispatched.calls, Outbox.fallBack,
        Outbox.setDelivery]
  | claimed claims => exact .of_put rfl (Outbox.unsent_of_claim claims) rfl
  | @called posted =>
      intro sent
      refine ⟨sent, ?_⟩
      have different : posted ≠ messageId := by
        rintro rfl
        exact unsent _ List.mem_cons_self sent
      simp [Outbox.calls, Outbox.record, Dispatched.calls, different]
  | uncalled => exact .of_put rfl (unsent _ List.mem_cons_self) rfl
  | refused => exact .of_put rfl (unsent _ List.mem_cons_self) rfl
  | accepted => exact .of_put rfl (unsent _ List.mem_cons_self) rfl
  | raised => exact .of_same rfl rfl

def RowStaysSent (messageId : String) (world final : World Outbox Party) :
    Prop :=
  world.shared.StaysSent final.shared messageId

theorem staysSent_of_step {world next : World Outbox Party}
    {label : Label Party.Request Party.Choice}
    (reachable :
      (dispatchProgram settings geometry).system.ReachableWhen LastClaims
        world)
    (permitted : LastClaims world label)
    (taken : (dispatchProgram settings geometry).system.step world label =
      some next) : RowStaysSent messageId world next := by
  have holding := claimed_rows_counted reachable
  rcases Process.Program.step_cases taken with
    ⟨pid, request, rfl, _, rfl⟩ |
    ⟨pid, choice, party, shared, after, rfl, running, resumed, rfl⟩ |
    ⟨pid, party, rfl, running, rfl⟩
  · exact .of_same rfl rfl
  · rcases Party.resume_cases resumed with
      ⟨driver, answer, store, further, rfl, _, rfl, rfl⟩ |
      ⟨sending, further, rfl, moves, rfl⟩ |
      ⟨prompt, rfl, created, rfl⟩ |
      ⟨challengeId, status, rfl, rfl, rfl⟩
    · exact .of_same rfl rfl
    · apply moves.staysSent
      intro claim member
      have last := permitted pid choice sending claim rfl running member
      have counts := holding.2.1 pid _ running claim member
      exact counts.2 last.symm
    · obtain ⟨deliveries, journal⟩ := Outbox.requestCode_rows created
      exact .of_same deliveries journal
    · exact .of_same rfl rfl
  · obtain ⟨deliveries, journal⟩ := party.release_rows world.shared
    exact .of_same deliveries journal

/-- As long as every call is started and recorded by the sender that has claimed
its row last, a row that is sent stays sent and is not posted again. -/
theorem sent_rows_stay {world final : World Outbox Party}
    {labels : List (Label Party.Request Party.Choice)} {messageId : String}
    (reachable :
      (dispatchProgram settings geometry).system.ReachableWhen LastClaims
        world)
    (runs : (dispatchProgram settings geometry).system.RunWhen LastClaims
      world labels final)
    (sent : world.shared.statusOf messageId = .sent) :
    final.shared.statusOf messageId = .sent ∧
      final.shared.calls messageId = world.shared.calls messageId := by
  have stays : RowStaysSent messageId world final := by
    apply Transition.System.RunWhen.relates _ _ _ reachable runs
    · intro state
      exact .of_same rfl rfl
    · intro _ _ _ before later
      exact before.trans later
    · intro _ _ _ reached permitted taken
      exact staysSent_of_step reached permitted taken
  exact stays sent

end

/-! ## A reply sent once, and one sent again -/

/-- A party that is alone and acts on what it has claimed last. -/
def actsOnLast (outbox : Outbox) (party : Party) (_ : Party.Choice) : Bool :=
  party.held.all fun claim =>
    (outbox.delivery claim.1).attemptCount = claim.2

theorem lastClaims_of_alone {world : World Outbox Party} {party : Party}
    {choice : Party.Choice}
    (only : Process.OnlyRunning world 0 (some party))
    (test : actsOnLast world.shared party choice = true) :
    LastClaims world (.resume 0 choice) := by
  rintro pid _ sender claim ⟨⟩ running member
  obtain ⟨-, rfl⟩ := only.eq_of_running running
  have passes := List.all_eq_true.mp test claim member
  simpa using passes

theorem lastClaims_of_spawn {world : World Outbox Party} {pid : Nat}
    {request : Party.Request} : LastClaims world (.spawn pid request) := by
  intro _ _ _ _ same
  cases same

def Outbox.sendsOf (outbox : Outbox) (messageId : String) :
    Auth.MessageStatus × Nat :=
  (outbox.statusOf messageId, outbox.calls messageId)

/-- A second sender skips the reply. -/
theorem sent_rows_stay_code :
    ∃ world final : World Outbox Party, final.Quiet ∧
      world.shared.sendsOf codeReply = (.sent, 1) ∧
      final.shared.statusOf codeReply = .sent ∧
      final.shared.calls codeReply = world.shared.calls codeReply := by
  have ran : (((dispatchProgram repliesOn Pipeline.flatMap).serial actsOnLast
      sampleCode
      [drivesEvent "e1" 0,
       (.sendPending codeReply,
        [⟨1, .plain⟩, ⟨1, .plain⟩, ⟨2, .accepted (some "w1")⟩])]).bind
      fun middle =>
      ((dispatchProgram repliesOn Pipeline.flatMap).serial actsOnLast middle
        [(.sendPending codeReply, [⟨seconds 60, .plain⟩])]).map fun final =>
        (middle.sendsOf codeReply, final.sendsOf codeReply)) =
      some ((.sent, 1), (.sent, 1)) := by
    decide +kernel
  obtain ⟨world, final, labels, reached, runs, quiet, before, _⟩ :=
    Process.Program.runs_serial Outbox.ofEvents_initial
      (fun _ _ _ _ => lastClaims_of_spawn)
      (fun _ _ _ => lastClaims_of_alone) ran
  obtain ⟨sent, _⟩ := Prod.mk.inj before
  obtain ⟨stays, calls⟩ := sent_rows_stay reached runs sent
  exact ⟨world, final, quiet, before, stays, calls⟩

/-- The lease of the first sender passes during its call, which fails after the
second has sent the reply. -/
theorem sent_row_sent_again :
    ∃ world final labels,
      (dispatchProgram repliesOn Pipeline.flatMap).system.Reachable world ∧
      (dispatchProgram repliesOn Pipeline.flatMap).system.RunWhen Always
        world labels final ∧
      world.shared.sendsOf codeReply = (.sent, 2) ∧
      final.shared.sendsOf codeReply = (.sending, 3) := by
  have ran : (((dispatchProgram repliesOn Pipeline.flatMap).system.run
      (World.start sampleCode)
      ([.spawn 0 (drivesEvent "e1" 0).1] ++
       (drivesEvent "e1" 0).2.map (.resume 0) ++
       [.spawn 1 (.sendPending codeReply), .resume 1 ⟨0, .plain⟩,
        .resume 1 ⟨0, .plain⟩,
        .spawn 2 (.sendPending codeReply), .resume 2 ⟨seconds 31, .plain⟩,
        .resume 2 ⟨seconds 31, .plain⟩,
        .resume 2 ⟨seconds 32, .accepted (some "w1")⟩])).bind fun middle =>
      ((dispatchProgram repliesOn Pipeline.flatMap).system.run middle
        [.resume 1 ⟨seconds 40, .refused⟩,
         .spawn 3 (.sendPending codeReply), .resume 3 ⟨seconds 50, .plain⟩,
         .resume 3 ⟨seconds 50, .plain⟩]).map fun final =>
        (middle.shared.sendsOf codeReply, final.shared.sendsOf codeReply)) =
      some ((.sent, 2), (.sending, 3)) := by
    decide +kernel
  have initial : (dispatchProgram repliesOn Pipeline.flatMap).system.initial
      (World.start sampleCode) :=
    ⟨_, Outbox.ofEvents_initial, rfl⟩
  obtain ⟨world, final, reached, runs, before, after⟩ :=
    Transition.System.runs_of_run_map initial ran
  exact ⟨world, final, _, reached, runs, before, after⟩

end JanSetu.Whatsapp
