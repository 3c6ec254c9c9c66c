import JanSetu.Whatsapp.Buttons
import Mathlib.Data.Fintype.EquivFin

/-!
# No dead ends

From every session that is not done the citizen can go on to the confirmation:
each step towards it is a message that can be made from the state and the
context, or the follow-up of the pipeline.
-/

namespace JanSetu.Whatsapp

/-- The message was not read before. -/
def Fresh (session : Session) (inbound : IncomingWhatsAppMessage) : Prop :=
  ∀ reading ∈ session.dialogue.readings,
    reading.inbound.metaMessageId ≠ inbound.metaMessageId

/-- A new message of the contact, whatever the geocoder, the clock and the
table of grievances answer, or a follow-up. -/
def Continues (waId : String) (geocode : Option ReverseGeocode) (now : Time)
    (grievanceId : String) (session : Session) (step : SessionStep) : Prop :=
  (∃ inbound, step = .receive inbound geocode now grievanceId ∧
    inbound.waId = waId ∧ Fresh session inbound) ∨
  ∃ mismatch headerMediaId body, step = .followUp mismatch headerMediaId body

def messageOf (waId metaMessageId messageType : String) :
    IncomingWhatsAppMessage :=
  { waId := waId
    metaMessageId := metaMessageId
    messageType := messageType
    textBody := none
    receivedAt := 0
    mediaId := none
    mediaMimeType := none
    locationLatitude := none
    locationLongitude := none
    replyId := none
    contextMessageId := none }

def tapOf (waId metaMessageId replyId : String) : IncomingWhatsAppMessage :=
  { messageOf waId metaMessageId "interactive" with replyId := some replyId }

/-- A message that leads on from the state: the location, Yes on its card, a
line of text and Done, no photo, and Confirm on the card of the draft. -/
def onward (waId metaMessageId : String) (context : Context) :
    Option ConversationState → IncomingWhatsAppMessage
  | some .confirmingLocation =>
      tapOf waId metaMessageId
        (tokenId Copy.confirmYesId context.location.sourceMessageId)
  | some .awaitingIssue =>
      if context.issue.messages = [] then
        { messageOf waId metaMessageId "text" with textBody := some "no water" }
      else tapOf waId metaMessageId Copy.issueDoneId
  | some .awaitingPhoto => tapOf waId metaMessageId Copy.photoSkipId
  | some .photoMismatch => tapOf waId metaMessageId photoContinueId
  | some .awaitingConfirmation =>
      tapOf waId metaMessageId
        (tokenId confirmGrvYesId context.draft.grievanceId)
  | _ =>
      { messageOf waId metaMessageId "location" with
        locationLatitude := some 28
        locationLongitude := some 77 }

/-- The steps that are left before the confirmation. -/
def stepsLeft (state : Option ConversationState) (context : Context) : Nat :=
  match state with
  | none | some .awaitingLocation => 6
  | some .confirmingLocation => 5
  | some .awaitingIssue => if context.issue.messages = [] then 4 else 3
  | some .awaitingPhoto | some .photoMismatch => 2
  | some .processing => 1
  | _ => 0

theorem fresh_id (session : Session) :
    ∃ id, id ≠ "" ∧ ∀ reading ∈ session.dialogue.readings,
      reading.inbound.metaMessageId ≠ id := by
  have unused := Infinite.exists_notMem_finset
    ("" :: session.dialogue.readings.map
      fun reading => reading.inbound.metaMessageId).toFinset
  obtain ⟨id, unused⟩ := unused
  simp only [List.mem_toFinset, List.mem_cons, List.mem_map, not_or,
    not_exists, not_and] at unused
  exact ⟨id, unused.1, unused.2⟩

/-! ## One step on -/

section

variable {waId id grievanceId : String} {written : Option String}
  {geocode : Option ReverseGeocode} {now : Time}

theorem onward_sender (waId id : String) (context : Context)
    (state : Option ConversationState) :
    (onward waId id context state).waId = waId ∧
      (onward waId id context state).metaMessageId = id := by
  unfold onward
  split
  case h_2 => split <;> exact ⟨rfl, rfl⟩
  all_goals exact ⟨rfl, rfl⟩

/-- A shared location is staged in every state that expects one. -/
theorem location_staged (waId id bodyPrefix : String) (context : Context)
    (geocode : Option ReverseGeocode) :
    ∃ result, stageLocationAndConfirm waId context
        (onward waId id context none) geocode bodyPrefix = some result ∧
      result.state = .confirmingLocation := by
  obtain ⟨address, shown⟩ := addressText_pair geocode 28 77
  unfold stageLocationAndConfirm
  simp only [onward, shown]
  exact ⟨_, rfl, rfl⟩

theorem yes_confirms {inbound : IncomingWhatsAppMessage} {context : Context}
    (other : isLocation inbound = false)
    (yes : Replies inbound Copy.confirmYesId
      context.location.sourceMessageId)
    (waId : String) (geocode : Option ReverseGeocode) (now : Time) :
    ∃ result, advanceConfirmingLocation waId context inbound geocode now =
        some result ∧
      result.state = .awaitingIssue := by
  unfold advanceConfirmingLocation
  rw [if_neg (by simp [other])]
  simp only
  rw [if_pos ⟨yes.2, yes.1⟩]
  exact ⟨_, rfl, rfl⟩

theorem stepsLeft_awaitingIssue (context : Context) :
    stepsLeft (some .awaitingIssue) context ≤ 4 ∧
      stepsLeft (some .awaitingPhoto) context <
        stepsLeft (some .awaitingIssue) context := by
  simp only [stepsLeft]
  split <;> decide

/-- The message makes the conversation shorter. -/
theorem onward_shorter {state : Option ConversationState}
    {stored : Option Context}
    (grounded : Grounded state (stored.getD defaultContext) written)
    (unfinished : state ≠ some .done)
    (unconfirmed : state ≠ some .awaitingConfirmation)
    (waiting : state ≠ some .processing) (waId id grievanceId : String)
    (geocode : Option ReverseGeocode) (now : Time) :
    ∃ result, advance waId state stored
        (onward waId id (stored.getD defaultContext) state) geocode now =
          some result ∧
      result.state ≠ .done ∧
      stepsLeft (some result.state) (storedContext result grievanceId) <
        stepsLeft state (stored.getD defaultContext) := by
  match state with
  | none =>
      obtain ⟨result, advanced, next⟩ := location_staged waId id
        (Copy.greeting ++ "\n\n") (stored.getD defaultContext) geocode
      refine ⟨result, advanced, ?_⟩
      rw [next]
      exact ⟨nofun, Nat.lt_succ_self 5⟩
  | some .awaitingLocation =>
      obtain ⟨result, advanced, next⟩ := location_staged waId id ""
        (stored.getD defaultContext) geocode
      refine ⟨result, advanced, ?_⟩
      rw [next]
      exact ⟨nofun, Nat.lt_succ_self 5⟩
  | some .confirmingLocation =>
      obtain ⟨token, staged, named⟩ := grounded
      have yes : Replies (onward waId id (stored.getD defaultContext)
          (some .confirmingLocation)) Copy.confirmYesId (some token) := by
        refine replies_tokenId ?_ (by decide) named
        rw [← staged]
        rfl
      rw [← staged] at yes
      obtain ⟨result, advanced, next⟩ := yes_confirms rfl yes waId geocode now
      refine ⟨result, advanced, ?_⟩
      rw [next]
      exact ⟨nofun, Nat.lt_succ_of_le (stepsLeft_awaitingIssue _).1⟩
  | some .awaitingIssue =>
      by_cases empty : (stored.getD defaultContext).issue.messages = []
      · have text : onward waId id (stored.getD defaultContext)
            (some .awaitingIssue) =
              { messageOf waId id "text" with textBody := some "no water" } :=
          if_pos empty
        rw [text]
        refine ⟨_, rfl, nofun, ?_⟩
        have described : (stored.getD defaultContext).issue.messages ++
            [issueMessage (onward waId id (stored.getD defaultContext)
              (some .awaitingIssue))] ≠ [] := by
          simp
        rw [text] at described
        simp only [stepsLeft, if_pos empty]
        exact (if_neg described).trans_lt (by decide)
      · have done : onward waId id (stored.getD defaultContext)
            (some .awaitingIssue) = tapOf waId id Copy.issueDoneId :=
          if_neg empty
        rw [done]
        have ends : advanceAwaitingIssue waId (stored.getD defaultContext)
            (tapOf waId id Copy.issueDoneId) =
              { state := .awaitingPhoto
                context := stored.getD defaultContext
                intents :=
                  [photoPromptIntent waId
                    (Copy.issueReceived ++ "\n\n" ++ Copy.photoPrompt)
                    "photo_prompt"] } :=
          if_neg empty
        refine ⟨_, congrArg some ends, nofun, ?_⟩
        exact (stepsLeft_awaitingIssue _).2
  | some .awaitingPhoto => exact ⟨_, rfl, nofun, Nat.lt_succ_self 1⟩
  | some .processing => exact absurd rfl waiting
  | some .photoMismatch => exact ⟨_, rfl, nofun, Nat.lt_succ_self 1⟩
  | some .awaitingConfirmation => exact absurd rfl unconfirmed
  | some .done => exact absurd rfl unfinished
  | some .expired => exact grounded.elim
  | some (.unknown name) => exact grounded.elim

/-- Before the confirmation there is a step that leaves fewer of them. -/
theorem session_shorter {session : Session}
    (reachable : (sessions waId).Reachable session)
    (unfinished : session.dialogue.state ≠ some .done)
    (unconfirmed : session.dialogue.state ≠ some .awaitingConfirmation)
    (given : grievanceId ≠ "") (geocode : Option ReverseGeocode)
    (now : Time) :
    ∃ step next, Continues waId geocode now grievanceId session step ∧
      (sessions waId).step session step = some next ∧
      next.dialogue.state ≠ some .done ∧
      stepsLeft next.dialogue.state next.context <
        stepsLeft session.dialogue.state session.context := by
  by_cases waiting : session.dialogue.state = some .processing
  · have followed : session.dialogue.followUp false =
        some
          { session.dialogue with
            state := some .awaitingConfirmation
            outputs := session.dialogue.outputs ++ [.followedUp] } := by
      simp [Dialogue.followUp, waiting]
    refine ⟨.followUp false none "", _, .inr ⟨_, _, _, rfl⟩,
      congrArg (Option.map _) followed, nofun, ?_⟩
    rw [waiting]
    exact Nat.lt_succ_self 0
  · obtain ⟨id, named, fresh⟩ := fresh_id session
    obtain ⟨result, advanced, further, less⟩ := onward_shorter
      (isGrounded reachable) unfinished unconfirmed waiting waId id
      grievanceId geocode now
    obtain ⟨own, same⟩ := onward_sender waId id
      (session.dialogue.context.getD defaultContext) session.dialogue.state
    generalize onward waId id (session.dialogue.context.getD defaultContext)
      session.dialogue.state = inbound at advanced own same
    rw [← same] at named fresh
    rw [← own] at advanced
    refine ⟨.receive inbound geocode now grievanceId,
      session.receive inbound geocode now grievanceId,
      .inl ⟨inbound, rfl, own, fresh⟩, if_pos ⟨own, named, given⟩, ?_, ?_⟩
    · simp [Session.receive, Dialogue.receive, advanced, further]
    · simpa [Session.receive, Session.context, Dialogue.receive, advanced]
        using less

/-- A run to the confirmation, by the steps that are left. -/
theorem confirmation_reached {session : Session}
    (reachable : (sessions waId).Reachable session)
    (unfinished : session.dialogue.state ≠ some .done)
    (given : grievanceId ≠ "") (geocode : Option ReverseGeocode)
    (now : Time) :
    ∃ steps final, (sessions waId).RunWhen
        (Continues waId geocode now grievanceId) session steps final ∧
      (sessions waId).Reachable final ∧
      final.dialogue.state = some .awaitingConfirmation := by
  induction left : stepsLeft session.dialogue.state session.context
    using Nat.strong_induction_on generalizing session with
  | _ left induction =>
      by_cases confirming : session.dialogue.state = some .awaitingConfirmation
      · exact ⟨[], session, .nil session, reachable, confirming⟩
      · obtain ⟨step, next, continues, taken, further, less⟩ :=
          session_shorter reachable unfinished confirming given geocode now
        rw [left] at less
        obtain ⟨steps, final, runs, reached, ends⟩ := induction _ less
          (reachable.next trivial taken) further rfl
        exact ⟨step :: steps, final, .cons continues taken runs, reached,
          ends⟩

end

/-- From every reachable session that is not done, the contact can send new
messages, with follow-ups between them, until the last of them finalizes the
grievance whose id the driver wrote when the pipeline was started. -/
theorem no_dead_end {waId : String} {session : Session}
    (reachable : (sessions waId).Reachable session)
    (unfinished : session.dialogue.state ≠ some .done)
    {grievanceId : String} (given : grievanceId ≠ "")
    (geocode : Option ReverseGeocode) (now : Time) :
    ∃ steps final tap result id,
      (sessions waId).RunWhen (Continues waId geocode now grievanceId)
        session steps final ∧
      tap.waId = waId ∧ Fresh final tap ∧
      advance tap.waId final.dialogue.state final.dialogue.context tap geocode
        now = some result ∧
      result.action = some .finalize ∧
      final.written = some id ∧
      result.context.draft.grievanceId = some id := by
  obtain ⟨steps, final, runs, reached, ends⟩ :=
    confirmation_reached reachable unfinished given geocode now
  have grounded := isGrounded reached
  unfold Session.IsGrounded at grounded
  rw [ends] at grounded
  obtain ⟨id, drafted, written, named⟩ := grounded
  obtain ⟨messageId, _, fresh⟩ := fresh_id final
  let tap := tapOf waId messageId (tokenId confirmGrvYesId (some id))
  have yes : Replies tap confirmGrvYesId (some id) :=
    replies_tokenId rfl (by decide) named
  rw [← drafted] at yes
  have finalizes : advanceAwaitingConfirmation final.context tap =
      { state := .done, context := final.context, action := some .finalize
        close := true } :=
    if_pos ⟨yes.2, yes.1⟩
  have advanced : advance tap.waId final.dialogue.state
      final.dialogue.context tap geocode now =
        some
          { state := .done, context := final.context
            action := some .finalize, close := true } := by
    rw [ends]
    exact congrArg some finalizes
  exact ⟨steps, final, tap, _, id, runs, rfl, fresh, advanced, rfl, written,
    drafted⟩

/-- The way out of a mismatch. -/
theorem no_dead_end_mismatch :
    ∃ session steps final tap result id,
      (sessions "919876543210").Reachable session ∧
      session.dialogue.state = some .photoMismatch ∧
      (sessions "919876543210").RunWhen
        (Continues "919876543210" none 0 "g2") session steps final ∧
      advance "919876543210" final.dialogue.state final.dialogue.context tap
        none 0 = some result ∧
      result.action = some .finalize ∧
      final.written = some id ∧
      result.context.draft.grievanceId = some id := by
  obtain ⟨session, reachable, mismatch, _⟩ := sampleMismatch_reached
  have unfinished : session.dialogue.state ≠ some .done := by
    rw [mismatch]
    decide
  have given : "g2" ≠ "" := by decide
  obtain ⟨steps, final, tap, result, id, runs, own, _, advanced, finalizes⟩ :=
    no_dead_end reachable unfinished given none 0
  rw [own] at advanced
  exact ⟨session, steps, final, tap, result, id, reachable, mismatch, runs,
    advanced, finalizes⟩

end JanSetu.Whatsapp
