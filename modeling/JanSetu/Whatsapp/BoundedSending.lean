import JanSetu.Library.History
import JanSetu.Library.Tickets
import JanSetu.Whatsapp.SentRows

/-!
# Bounded sending

A claim of an outgoing row hands out one attempt to call Graph, unless the
attempts are used up.  Whatever becomes of the senders, a row is sent, or given
up, or can be claimed again once its lease has passed.
-/

namespace JanSetu.Whatsapp

open Pipeline (Geometry)
open Process (Label Program Recorded Tickets)

/-- The row and the attempt for which a Graph call starts. -/
def Sender.calls (choice : Party.Choice) : Sender → Option (String × Nat)
  | .posting messageId attempt _ _ =>
      if choice.answer = .plain then some (messageId, attempt) else none
  | _ => none

def Party.calls (party : Party) (choice : Party.Choice) :
    Option (String × Nat) :=
  match party with
  | .sender sending => sending.calls choice
  | _ => none

/-- The attempt of a sender that has not called yet. -/
def Sender.uncalled : Sender → List (String × Nat)
  | .posting messageId attempt _ _ => [(messageId, attempt)]
  | _ => []

def Party.uncalled : Party → List (String × Nat)
  | .sender sending => sending.uncalled
  | _ => []

/-- The attempts of a row that end in a call. -/
def Outbox.attempts (outbox : Outbox) (messageId : String) : Nat :=
  min (outbox.delivery messageId).attemptCount Auth.maxSendAttempts

def sendAttempts : Tickets (Recorded Outbox (String × Nat)) Party String :=
  { last := fun recorded => recorded.shared.attempts
    used := fun recorded => recorded.notes
    held := Party.uncalled }

/-- A row that is being sent has a lease. -/
def Delivery.Recoverable (row : Delivery) : Prop :=
  row.status ≠ .received ∧ (row.status = .sending → row.lockedUntil.isSome)

section

variable {settings : Settings} {geometry : Geometry}
  {outbox after : Outbox} {choice : Party.Choice}

/-! ## What a step writes -/

/-- At most one row changes; its attempts do not go down. -/
def Outbox.Writes (outbox after : Outbox) : Prop :=
  after.deliveries = outbox.deliveries ∨
    ∃ messageId row,
      after.deliveries = outbox.deliveries.put messageId row ∧
        (outbox.delivery messageId).attemptCount ≤ row.attemptCount ∧
        row.Recoverable

theorem Outbox.writes_claimed {messageId : String} {now : Time}
    {message : OutgoingMessage} {claimed row : Delivery}
    (claims : outbox.claimOutbound messageId now = some (message, claimed))
    (written : after.deliveries = outbox.deliveries.put messageId row)
    (counted : row.attemptCount = claimed.attemptCount)
    (recoverable : row.Recoverable) : outbox.Writes after := by
  obtain ⟨_, _, rfl⟩ := Outbox.claimOutbound_eq claims
  refine .inr ⟨messageId, row, written, ?_, recoverable⟩
  rw [counted]
  exact Nat.le_succ _

theorem Delivery.recoverable_mark {row : Delivery}
    {status : Auth.MessageStatus} {metaMessageId : Option String}
    (here : status ≠ .received) (idle : status ≠ .sending) :
    (row.mark status metaMessageId).Recoverable :=
  ⟨here, fun sending => absurd sending idle⟩

theorem Outbox.writes_mark {messageId : String}
    {status : Auth.MessageStatus} {metaMessageId : Option String}
    (here : status ≠ .received) (idle : status ≠ .sending) :
    outbox.Writes (outbox.markOutbound messageId status metaMessageId) :=
  .inr ⟨messageId, _, rfl, Nat.le_refl _,
    Delivery.recoverable_mark here idle⟩

theorem Sender.Moves.writes {sender : Sender} {next : Option Sender}
    (moves : sender.Moves settings outbox choice after next) :
    outbox.Writes after := by
  cases moves with
  | swept => exact .inl rfl
  | skipped => exact .inl rfl
  | failed claims =>
      apply Outbox.writes_claimed claims
      · rfl
      · rfl
      · exact Delivery.recoverable_mark (by decide) (by decide)
  | blocked claims =>
      apply Outbox.writes_claimed claims
      · rfl
      · rfl
      · exact Delivery.recoverable_mark (by decide) (by decide)
  | claimed claims =>
      apply Outbox.writes_claimed claims
      · rfl
      · rfl
      · obtain ⟨_, _, rfl⟩ := Outbox.claimOutbound_eq claims
        constructor
        · intro received
          cases received
        · exact fun _ => rfl
  | called => exact .inl rfl
  | uncalled => exact Outbox.writes_mark (by decide) (by decide)
  | refused => exact Outbox.writes_mark (by decide) (by decide)
  | accepted => exact Outbox.writes_mark (by decide) (by decide)
  | raised => exact .inl rfl

theorem Party.writes {party : Party} {next : Option Party}
    (resumed : party.resume settings geometry outbox choice =
      some (after, next)) : outbox.Writes after := by
  rcases Party.resume_cases resumed with
    ⟨driver, answer, store, further, rfl, _, rfl, rfl⟩ |
    ⟨sending, further, rfl, moves, rfl⟩ |
    ⟨prompt, rfl, created, rfl⟩ |
    ⟨challengeId, status, rfl, rfl, rfl⟩
  · exact .inl rfl
  · exact moves.writes
  · exact .inl (Outbox.requestCode_rows created).1
  · exact .inl rfl

theorem Outbox.Writes.attempts (writes : outbox.Writes after)
    (messageId : String) :
    outbox.attempts messageId ≤ after.attempts messageId := by
  unfold Outbox.attempts
  rcases writes with same | ⟨written, row, put, counted, _⟩
  · rw [Outbox.delivery_of_same same]
  · rw [Outbox.delivery_of_put put]
    by_cases same : messageId = written
    · subst same
      rw [if_pos rfl]
      omega
    · rw [if_neg same]

theorem Outbox.Writes.recoverable (writes : outbox.Writes after)
    (before : ∀ messageId, (outbox.delivery messageId).Recoverable)
    (messageId : String) : (after.delivery messageId).Recoverable := by
  rcases writes with same | ⟨written, row, put, _, recoverable⟩
  · rw [Outbox.delivery_of_same same]
    exact before messageId
  · rw [Outbox.delivery_of_put put]
    split
    · exact recoverable
    · exact before messageId

/-! ## Calls -/

theorem Sender.calling_of_plain {messageId : String} {attempt : Nat}
    {checkedAt : Time} {rest : List String} {next : Option Sender}
    (ran : (Sender.posting messageId attempt checkedAt rest).resume settings
      outbox choice = some (after, next))
    (plain : choice.answer = .plain) :
    next = some (.calling messageId attempt rest) := by
  unfold Sender.resume at ran
  simp only [plain, Option.some.injEq, Prod.mk.injEq] at ran
  exact ran.2.symm

theorem Sender.next_ne_calling {messageId : String} {attempt : Nat}
    {rest left : List String} :
    Sender.next left ≠ some (.calling messageId attempt rest) := by
  intro same
  cases left with
  | nil => cases same
  | cons => cases same

/-- A sender that does not go on to its call has not started it. -/
theorem Sender.calls_eq_none {sender : Sender} {next : Option Sender}
    (ran : sender.resume settings outbox choice = some (after, next))
    (elsewhere : ∀ messageId attempt rest,
      next ≠ some (.calling messageId attempt rest)) :
    sender.calls choice = none := by
  cases sender with
  | posting messageId attempt checkedAt rest =>
      have different : choice.answer ≠ .plain := by
        intro plain
        exact elsewhere _ _ _ (Sender.calling_of_plain ran plain)
      exact if_neg different
  | _ => rfl

/-- A step that starts a call uses the attempt of its sender; no other step
starts one. -/
theorem Party.resume_calls {party : Party} {next : Option Party}
    (resumed : party.resume settings geometry outbox choice =
      some (after, next)) :
    (∃ messageId attempt checkedAt rest,
      party = .sender (.posting messageId attempt checkedAt rest) ∧
      party.calls choice = some (messageId, attempt) ∧
      next = some (.sender (.calling messageId attempt rest)) ∧
      after.deliveries = outbox.deliveries ∧
      ∀ other, after.calls other =
        (if messageId = other then 1 else 0) + outbox.calls other) ∨
    party.calls choice = none ∧
      ∀ other, after.calls other = outbox.calls other := by
  cases party with
  | sender sending =>
      obtain ⟨⟨moved, further⟩, ran, same⟩ := Option.map_eq_some_iff.mp resumed
      cases same
      have moves := Sender.resume_moves ran
      have idle : moved.journal = outbox.journal →
          (∀ messageId attempt rest,
            further ≠ some (.calling messageId attempt rest)) →
          Party.calls (.sender sending) choice = none ∧
            ∀ other, moved.calls other = outbox.calls other := by
        intro journal elsewhere
        refine ⟨Sender.calls_eq_none ran elsewhere, ?_⟩
        intro other
        unfold Outbox.calls
        rw [journal]
      cases moves with
      | @called messageId attempt checkedAt rest plain =>
          refine .inl ⟨messageId, attempt, checkedAt, rest, rfl, if_pos plain,
            rfl, rfl, ?_⟩
          intro other
          unfold Outbox.calls Outbox.record
          rw [List.countP_cons, Nat.add_comm]
          simp [Dispatched.calls]
      | blocked =>
          refine .inr ⟨rfl, ?_⟩
          intro other
          unfold Outbox.calls Outbox.record
          rw [List.countP_cons]
          rfl
      | swept => exact .inr (idle rfl fun _ _ _ => Sender.next_ne_calling)
      | skipped => exact .inr (idle rfl fun _ _ _ => Sender.next_ne_calling)
      | failed => exact .inr (idle rfl fun _ _ _ => Sender.next_ne_calling)
      | claimed =>
          refine .inr (idle rfl ?_)
          intro _ _ _ same
          cases same
      | uncalled => exact .inr (idle rfl fun _ _ _ => Sender.next_ne_calling)
      | refused => exact .inr (idle rfl fun _ _ _ => Sender.next_ne_calling)
      | accepted => exact .inr (idle rfl fun _ _ _ => Sender.next_ne_calling)
      | raised =>
          refine .inr (idle rfl ?_)
          intro _ _ _ same
          cases same
  | _ =>
      refine .inr ⟨rfl, ?_⟩
      rcases Party.resume_cases resumed with
        ⟨driver, answer, store, further, same, _, rfl, rfl⟩ |
        ⟨sending, further, same, _, rfl⟩ |
        ⟨prompt, same, created, rfl⟩ |
        ⟨challengeId, status, same, rfl, rfl⟩
      · exact fun _ => rfl
      · cases same
      · intro other
        unfold Outbox.calls
        rw [(Outbox.requestCode_rows created).2]
      · exact fun _ => rfl

/-- The attempt that a sender has after a step it had before, or has just
claimed. -/
theorem Sender.Moves.attempted {sender further : Sender}
    {next : Option Sender}
    (moves : sender.Moves settings outbox choice after next)
    (arrives : next = some further) :
    further.uncalled.Nodup ∧
      ∀ attempt ∈ further.uncalled, attempt ∈ sender.uncalled ∨
        outbox.attempts attempt.1 < attempt.2 ∧
          attempt.2 ≤ after.attempts attempt.1 := by
  have nothing : ∀ left, next = Sender.next left → further.uncalled = [] := by
    intro left same
    cases left with
    | nil => cases same.symm.trans arrives
    | cons => cases same.symm.trans arrives; rfl
  have idle : further.uncalled = [] →
      further.uncalled.Nodup ∧
        ∀ attempt ∈ further.uncalled, attempt ∈ sender.uncalled ∨
          outbox.attempts attempt.1 < attempt.2 ∧
            attempt.2 ≤ after.attempts attempt.1 := by
    intro empty
    rw [empty]
    exact ⟨.nil, fun attempt member => absurd member List.not_mem_nil⟩
  cases moves with
  | @claimed messageId rest message claimed claims few =>
      cases arrives
      refine ⟨List.nodup_singleton _, ?_⟩
      intro attempt member
      cases List.mem_singleton.mp member
      obtain ⟨_, _, rfl⟩ := Outbox.claimOutbound_eq claims
      right
      unfold Outbox.attempts
      rw [outbox.delivery_setDelivery, if_pos rfl]
      have few : (outbox.delivery messageId).attemptCount + 1 ≤
        Auth.maxSendAttempts := few
      show min (outbox.delivery messageId).attemptCount Auth.maxSendAttempts <
          (outbox.delivery messageId).attemptCount + 1 ∧
        (outbox.delivery messageId).attemptCount + 1 ≤
          min ((outbox.delivery messageId).attemptCount + 1)
            Auth.maxSendAttempts
      omega
  | called => cases arrives; exact idle rfl
  | raised => cases arrives
  | swept => exact idle (nothing _ rfl)
  | skipped => exact idle (nothing _ rfl)
  | failed => exact idle (nothing _ rfl)
  | blocked => exact idle (nothing _ rfl)
  | uncalled => exact idle (nothing _ rfl)
  | refused => exact idle (nothing _ rfl)
  | accepted => exact idle (nothing _ rfl)

theorem Party.spends {party : Party} {next : Option Party}
    (resumed : party.resume settings geometry outbox choice =
      some (after, next)) (notes : List (String × Nat)) :
    sendAttempts.Spends { shared := outbox, notes := notes } party
      { shared := after
        notes := (party.calls choice).toList ++ notes } next := by
  constructor
  · exact (Party.writes resumed).attempts
  · rcases Party.resume_calls resumed with
      ⟨messageId, attempt, checkedAt, rest, rfl, called, rfl, _, _⟩ |
      ⟨uncalled, _⟩
    · right
      refine ⟨(messageId, attempt), List.mem_singleton_self _, ?_, ?_⟩
      · show (Party.calls _ choice).toList ++ notes = _
        rw [called]
        rfl
      · intro further arrives
        cases arrives
        exact List.not_mem_nil
    · left
      show (Party.calls _ choice).toList ++ notes = notes
      rw [uncalled]
      rfl
  · intro further arrives
    rcases Party.resume_cases resumed with
      ⟨driver, answer, store, next', rfl, _, rfl, rfl⟩ |
      ⟨sending, next', rfl, moves, rfl⟩ |
      ⟨prompt, rfl, created, rfl⟩ |
      ⟨challengeId, status, rfl, rfl, rfl⟩
    · obtain ⟨_, _, rfl⟩ := Option.map_eq_some_iff.mp arrives
      exact ⟨List.nodup_nil, fun _ member => absurd member List.not_mem_nil⟩
    · obtain ⟨sender, found, rfl⟩ := Option.map_eq_some_iff.mp arrives
      exact moves.attempted found
    · cases arrives
    · cases arrives

/-- A row that is neither sent nor given up can be claimed once its lease has
passed. -/
theorem Delivery.Recoverable.claimable {row : Delivery} {now : Time}
    (recoverable : row.Recoverable) (unsent : row.status ≠ .sent)
    (unfailed : row.status ≠ .failed) (unblocked : row.status ≠ .blocked24h)
    (passed : row.lockedUntil.all (· < now) = true) :
    row.claimable now = true := by
  obtain ⟨here, leased⟩ := recoverable
  cases status : row.status with
  | received => exact absurd status here
  | pending => simp [Delivery.claimable, status]
  | sending =>
      obtain ⟨expires, locked⟩ := Option.isSome_iff_exists.mp (leased status)
      rw [locked, Option.all_some] at passed
      simp only [Delivery.claimable, status, locked, Option.any_some, passed]
      decide
  | sent => exact absurd status unsent
  | failed => exact absurd status unfailed
  | blocked24h => exact absurd status unblocked

end

/-! ## A reply that is refused as often as it may be called -/

end JanSetu.Whatsapp
