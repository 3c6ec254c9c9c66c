import JanSetu.Auth.Verification

/-!
# One login for a phone verification

A poll consumes a verified row and hands out tokens for it; the row is marked
verified by a plain `UPDATE` after a read.  The life of one verification goes
from pending to verified to consumed, and back to verified by a handler that
has read it as pending and marks it after a poll has consumed it.
-/

namespace JanSetu.Auth

open Process (Label)

/-- What becomes of one verification: its status, once it is there, and how
many token pairs it has yielded. -/
structure Life where
  status : Option VerificationStatus
  issued : Nat

def Store.life (store : Store) (verificationId : String) : Life :=
  { status := (store.verifications.find verificationId).map (·.status)
    issued := store.verificationIssues.countP
      (·.verificationId = verificationId) }

/-- What one step does; `marks` says that it marks the verification. -/
inductive Life.Move (marks : Prop) : Life → Life → Prop where
  | rest (life : Life) : Life.Move marks life life
  | opened (issued : Nat) :
      Life.Move marks { status := none, issued := issued }
        { status := some .pending, issued := issued }
  | marked (status : VerificationStatus) (issued : Nat) :
      marks →
      Life.Move marks { status := some status, issued := issued }
        { status := some .verified, issued := issued }
  | consumed (issued : Nat) :
      Life.Move marks { status := some .verified, issued := issued }
        { status := some .consumed, issued := issued + 1 }

/-- At most one token pair, and none while a poll can still consume. -/
structure Life.Once (life : Life) : Prop where
  atMost : life.issued ≤ 1
  spent : 0 < life.issued → life.status = some .consumed

theorem Life.Move.once {marks : Prop} {before after : Life}
    (move : Life.Move marks before after)
    (unspent : marks → before.status ≠ some .consumed)
    (once : before.Once) : after.Once := by
  cases move with
  | rest => exact once
  | opened issued =>
      constructor
      · exact once.atMost
      · intro positive
        have consumed := once.spent positive
        cases consumed
  | marked status issued marks =>
      constructor
      · exact once.atMost
      · intro positive
        exact absurd (once.spent positive) (unspent marks)
  | consumed issued =>
      constructor
      · show issued + 1 ≤ 1
        by_contra more
        have positive : 0 < issued := by omega
        have consumed := once.spent positive
        cases consumed
      · exact fun _ => rfl

/-- A consumed verification stays consumed. -/
theorem Life.Move.stays {marks : Prop} {before after : Life}
    (move : Life.Move marks before after)
    (unspent : marks → before.status ≠ some .consumed)
    (spent : before.status = some .consumed) :
    after.status = some .consumed := by
  cases move with
  | rest => exact spent
  | opened => cases spent
  | marked _ _ marks => exact absurd spent (unspent marks)
  | consumed => rfl

/-! ## Steps -/

/-- The step of a handler that marks the verification: its user is upserted, so
that the transaction is not rolled back. -/
def Handler.Marks (store : Store) (handler : Handler) (choice : Choice)
    (verificationId : String) : Prop :=
  ∃ contactId message now id,
    handler = .markVerified contactId message verificationId ∧
    choice = .fresh now id ∧
    (store.upsertUserForVerifiedPhone (normalizePhone message.waId) contactId
      id).isSome = true

section

variable {settings : Settings} {sha256 : String → String}
  {parseUuid : String → Option String} {store after : Store}
  {handler : Handler} {choice : Choice} {verificationId : String}
  {marks : Prop}

theorem Life.Move.of_same
    (verifications : after.verifications = store.verifications)
    (issues : after.verificationIssues = store.verificationIssues) :
    Life.Move marks (store.life verificationId)
      (after.life verificationId) := by
  have same : after.life verificationId = store.life verificationId := by
    unfold Store.life
    rw [verifications, issues]
  rw [same]
  exact .rest _

theorem insertCode_life {phone : String} {unsent : Option String}
    {now : Time} {inserted code : String}
    (result : store.insertCode settings sha256 phone unsent now inserted
      code = some after) :
    Life.Move marks (store.life verificationId)
      (after.life verificationId) := by
  obtain ⟨unused, approvals, rfl, _⟩ := Store.insertCode_eq result
  by_cases same : verificationId = inserted
  · subst same
    simp only [Store.life, unused, Table.find_put_self, Option.map_none,
      Option.map_some]
    exact .opened _
  · simp only [Store.life, Table.find_put_of_ne _ _ same]
    exact .rest _

theorem markVerified_life {contactId : String} {message : IncomingMessage}
    {marked : String} {now : Time} {id : String}
    (result : store.markVerified contactId message marked now id =
      some after) :
    Life.Move
      (Handler.Marks store (.markVerified contactId message marked)
        (.fresh now id) verificationId)
      (store.life verificationId) (after.life verificationId) := by
  have shape := Store.markVerified_eq result
  unfold Store.markVerified at result
  split at result
  case isFalse => cases result
  case isTrue =>
    split at result
    case h_1 =>
      cases result
      exact .of_same rfl rfl
    case h_2 upserted userId linked =>
      have marks : Handler.Marks store
          (.markVerified contactId message marked) (.fresh now id) marked :=
        ⟨contactId, message, now, id, rfl, rfl, by rw [linked]; rfl⟩
      rcases shape with ⟨held, rfl⟩ |
        ⟨_, verifications, _, _, _, rfl, _, rows⟩
      · exact .of_same rfl rfl
      · by_cases same : verificationId = marked
        · subst same
          cases found : store.verifications.find verificationId with
          | none =>
              simp only [Store.life, rows, found, Option.map_none]
              exact .rest _
          | some row =>
              simp only [Store.life, rows, found, Option.map_some, if_true]
              exact .marked _ _ marks
        · have unmarked : verifications.find verificationId =
              store.verifications.find verificationId := by
            simp [rows, same]
          simp only [Store.life, unmarked]
          exact .rest _

theorem decide_life {contactId : String} {message : IncomingMessage}
    {approves : Bool} {challengeId verifier messageId : String} {now : Time}
    (result : store.decide sha256 contactId message approves challengeId
      verifier now messageId = some after) :
    Life.Move marks (store.life verificationId)
      (after.life verificationId) := by
  rcases Store.decide_eq result with
    ⟨_, _, _, rfl⟩ | ⟨_, _, _, _, _, _, _, _, _, _, _, _, _, _, rfl⟩
  · exact .of_same rfl rfl
  · exact .of_same rfl rfl

theorem issueForVerification_life {consumed userId : String} {now : Time} :
    Life.Move marks (store.life verificationId)
      ((store.issueForVerification consumed userId now).life
        verificationId) := by
  rcases store.issueForVerification_eq consumed userId now with
    unspent | ⟨row, stored, verified, issued⟩
  · rw [unspent]
    exact .rest _
  · rw [issued]
    by_cases same : verificationId = consumed
    · subst same
      simp only [Store.life, stored, verified, Table.find_put_self,
        Option.map_some, List.countP_cons, decide_true, if_true]
      exact .consumed _
    · have other : consumed ≠ verificationId := Ne.symm same
      simp only [Store.life, Table.find_put_of_ne _ _ same,
        List.countP_cons, other, decide_false]
      exact .rest _

/-- Every step of a handler is a move of every verification. -/
theorem Handler.resume_life {next : Option Handler}
    (resumed : handler.resume settings sha256 parseUuid store choice =
      some (after, next)) (verificationId : String) :
    Life.Move (handler.Marks store choice verificationId)
      (store.life verificationId) (after.life verificationId) := by
  cases Handler.resume_writes resumed with
  | rests same => exact same ▸ .rest _
  | asks asked =>
      rw [asked]
      exact .of_same rfl rfl
  | opens created =>
      rcases Store.createApproval_eq created with
        ⟨rfl, _⟩ | ⟨_, ⟨_, _, _, rfl, _⟩, _⟩
      · exact .rest _
      · exact .of_same rfl rfl
  | inserts inserted => exact insertCode_life inserted
  | claims claimed =>
      obtain ⟨⟨_, _, rfl⟩, _⟩ := Store.claimMessage_eq claimed
      exact .of_same rfl rfl
  | blocks blocked =>
      rw [blocked]
      exact .of_same rfl rfl
  | records recorded =>
      obtain ⟨⟨_, rfl⟩, _⟩ := Store.recordSend_eq recorded
      exact .of_same rfl rfl
  | receives received =>
      obtain ⟨_, _, rfl, _⟩ := Store.receive_eq received
      exact .of_same rfl rfl
  | holds held =>
      obtain ⟨⟨_, rfl⟩, _⟩ := Store.handleInbound_eq held
      exact .of_same rfl rfl
  | decides decided => exact decide_life decided
  | verifies verified =>
      obtain ⟨⟨_, _, _, _, rfl, _⟩, _⟩ := Store.verifyCode_eq verified
      exact .of_same rfl rfl
  | marks marked => exact markVerified_life marked
  | redeems redeemed =>
      rw [redeemed]
      exact issueForVerification_life
  | @signsIn challengeId browserNonce now signed =>
      rw [signed]
      rcases store.issueForApproval_eq challengeId browserNonce now with
        same | ⟨_, _, _, _, _, issued⟩
      · rw [same]
        exact .rest _
      · rw [issued]
        exact .of_same rfl rfl

end

/-! ## Runs -/

/-- A handler marks a verification only while no poll has consumed it. -/
def MarksUnspent (world : World Store Handler)
    (label : Label Request Choice) : Prop :=
  ∀ pid choice handler verificationId, label = .resume pid choice →
    world.Running pid handler →
    handler.Marks world.shared choice verificationId →
    (world.shared.life verificationId).status ≠ some .consumed

section

variable {settings : Settings} {sha256 : String → String}
  {parseUuid : String → Option String} {world next : World Store Handler}
  {label : Label Request Choice}

/-- Every step of a run is a move of every verification, which it does not mark
once it is consumed. -/
theorem login_life
    (taken : (login settings sha256 parseUuid).system.step world label =
      some next)
    (permitted : MarksUnspent world label) (verificationId : String) :
    ∃ marks, Life.Move marks (world.shared.life verificationId)
        (next.shared.life verificationId) ∧
      (marks →
        (world.shared.life verificationId).status ≠ some .consumed) := by
  rcases Process.Program.step_cases taken with
    ⟨_, _, _, _, rfl⟩ |
    ⟨pid, choice, handler, store, after, same, running, resumed, rfl⟩ |
    ⟨_, handler, _, _, rfl⟩
  · exact ⟨False, .rest _, False.elim⟩
  · exact ⟨_, Handler.resume_life resumed verificationId,
      permitted pid choice handler verificationId same running⟩
  · obtain ⟨_, _, released⟩ := handler.release_eq world.shared
    refine ⟨False, ?_, False.elim⟩
    change Life.Move False (world.shared.life verificationId)
      ((handler.release world.shared).life verificationId)
    rw [released]
    exact .of_same rfl rfl

def OnceAt (verificationId : String) (world : World Store Handler) : Prop :=
  (world.shared.life verificationId).Once

/-- While no handler marks a verification that a poll has consumed, each
verification yields at most one token pair, and a consumed one stays
consumed. -/
theorem verification_yields_once
    (reachable : (login settings sha256 parseUuid).system.ReachableWhen
      MarksUnspent world) (verificationId : String) :
    (world.shared.life verificationId).issued ≤ 1 ∧
      ∀ labels final,
        (login settings sha256 parseUuid).system.RunWhen MarksUnspent world
          labels final →
        (world.shared.life verificationId).status = some .consumed →
        (final.shared.life verificationId).status = some .consumed := by
  have once : OnceAt verificationId world := by
    refine reachable.invariant ?_ ?_
    · rintro _ ⟨store, initial, rfl⟩
      simp only [OnceAt, World.start, Store.life, initial.verifications,
        initial.verificationIssues]
      exact ⟨Nat.zero_le 1, fun positive => absurd positive (by simp)⟩
    · intro before label after _ once permitted taken
      obtain ⟨marks, move, unspent⟩ :=
        login_life taken permitted verificationId
      exact move.once unspent once
  refine ⟨once.atMost, ?_⟩
  intro labels final runs spent
  clear reachable once
  induction runs with
  | nil => exact spent
  | cons permitted taken _ induction =>
      obtain ⟨marks, move, unspent⟩ :=
        login_life taken permitted verificationId
      exact induction (move.stays unspent spent)

end

/-! ## A run that keeps the condition, and one that does not -/

/-- The code of `codeLogin`, as a message from the id. -/
def codeMessage (waId metaMessageId : String) : IncomingMessage :=
  { waId := waId, metaMessageId := metaMessageId, receivedAt := 5
    textBody := some "js-abc234", replyId := none, contextMessageId := none }

def marksUnspent (store : Store) (handler : Handler) (_ : Choice) : Bool :=
  match handler with
  | .markVerified _ _ verificationId =>
      (store.life verificationId).status ≠ some .consumed
  | _ => true

theorem marksUnspent_of_alone {world : World Store Handler}
    {handler : Handler} {choice : Choice}
    (only : Process.OnlyRunning world 0 (some handler))
    (test : marksUnspent world.shared handler choice = true) :
    MarksUnspent world (.resume 0 choice) := by
  rintro pid _ found verificationId ⟨⟩ running ⟨_, _, _, _, rfl, _⟩
  obtain ⟨-, rfl⟩ := only.eq_of_running running
  simpa [marksUnspent] using test

theorem verification_yields_once_serial :
    ∃ world,
      (login loginSettings id some).system.ReachableWhen MarksUnspent world ∧
      (world.shared.life "verification").issued ≤ 1 ∧
      (world.shared.life "verification").issued = 1 := by
  have ran : ((login loginSettings id some).serial marksUnspent twoCitizens
      [(.requestCode { phone := "65812 34567", browserNonce := none },
        [.now 1, .now 2, .now 3, .code 4 "verification" "JS-ABC234"]),
       (.handleInbound (codeMessage "916581234567" "wamid.code"),
        [.now 6, .fresh 7 "reply", .fresh 8 "answer"]),
       (.authStatus "verification", [.now 9, .now 10])]).map
      (fun store => (store.life "verification").issued) = some 1 := by
    decide +kernel
  have initial : (login loginSettings id some).initial twoCitizens :=
    ⟨rfl, rfl, rfl, rfl, rfl, rfl, rfl, rfl, rfl, rfl, rfl⟩
  obtain ⟨world, reached, _, issued⟩ :=
    Process.Program.reachable_serial initial
      (fun _ _ _ _ _ _ _ _ same => by cases same)
      (fun _ _ _ => marksUnspent_of_alone) ran
  exact ⟨world, reached, (verification_yields_once reached _).1, issued⟩

/-- Two contacts whose ids normalise to one phone send the code; the second
marks the verification after a poll has consumed it, and the next poll is
handed another token pair. -/
theorem verification_yields_twice :
    ∃ world, (login loginSettings id some).system.Reachable world ∧
      (world.shared.life "verification").issued = 2 := by
  have ran : ((login loginSettings id some).system.run
      (World.start twoCitizens)
      [.spawn 0 (.requestCode
        { phone := "65812 34567", browserNonce := none }),
       .resume 0 (.now 1), .resume 0 (.now 2), .resume 0 (.now 3),
       .resume 0 (.code 4 "verification" "JS-ABC234"),
       .spawn 1 (.handleInbound (codeMessage "916581234567" "wamid.code")),
       .resume 1 (.now 6), .resume 1 (.fresh 7 "reply"),
       .spawn 2 (.handleInbound (codeMessage "6581234567" "wamid.other")),
       .resume 2 (.now 6), .resume 2 (.fresh 7 "second"),
       .resume 1 (.fresh 8 "answer"),
       .spawn 3 (.authStatus "verification"),
       .resume 3 (.now 9), .resume 3 (.now 10),
       .resume 2 (.fresh 11 "other"),
       .spawn 4 (.authStatus "verification"),
       .resume 4 (.now 12), .resume 4 (.now 13)]).map
      (fun world => (world.shared.life "verification").issued) =
      some 2 := by
    decide +kernel
  exact Transition.System.reachable_of_run_map initial_twoCitizens ran

end JanSetu.Auth
