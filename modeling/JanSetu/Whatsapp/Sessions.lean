import JanSetu.Whatsapp.DraftFidelity
import JanSetu.Whatsapp.StaleTaps

/-!
# Sessions

A conversation of one contact together with what its driver adds to the state
machine: the grievance id that is written when the pipeline is started, the
follow-ups, and the prompt that was sent last.
-/

namespace JanSetu.Whatsapp

/-- There is something on it to tap. -/
def OutboundIntent.isPrompt (intent : OutboundIntent) : Bool :=
  match intent.payload with
  | .text _ _ => false
  | _ => true

/-- A conversation, the id that the driver wrote into its draft, and the prompt
that was sent last for its state. -/
structure Session where
  dialogue : Dialogue
  written : Option String
  prompt : Option OutboundIntent

def Session.start : Session :=
  { dialogue := .start, written := none, prompt := none }

inductive SessionStep where
  | receive (inbound : IncomingWhatsAppMessage)
      (geocode : Option ReverseGeocode) (now : Time) (grievanceId : String)
  | followUp (mismatch : Bool) (headerMediaId : Option String)
      (body : String)

/-- The last prompt for the state after a message; one for another state is
dropped. -/
def nextPrompt (before : Option ConversationState)
    (prompt : Option OutboundIntent) (result : FsmResult) :
    Option OutboundIntent :=
  match (result.intents.filter OutboundIntent.isPrompt).getLast? with
  | some intent => some intent
  | none => if before = some result.state then prompt else none

def Session.context (session : Session) : Context :=
  session.dialogue.context.getD defaultContext

def Session.receive (session : Session) (inbound : IncomingWhatsAppMessage)
    (geocode : Option ReverseGeocode) (now : Time) (grievanceId : String) :
    Session :=
  match advance inbound.waId session.dialogue.state session.dialogue.context
      inbound geocode now with
  | none => session
  | some result =>
      { dialogue := session.dialogue.receive inbound geocode now grievanceId
        written :=
          if result.action = some .startPipeline then some grievanceId
          else session.written
        prompt :=
          nextPrompt session.dialogue.state session.prompt result }

/-- The follow-up of a mismatch that comes again finds its row persisted
before; the prompt that was sent then is the same. -/
def Session.followUp (session : Session) (waId : String) (mismatch : Bool)
    (headerMediaId : Option String) (body : String) : Option Session :=
  (session.dialogue.followUp mismatch).map fun dialogue =>
    { dialogue := dialogue
      written := session.written
      prompt := some
        (if mismatch then buildMismatchIntent waId none
        else
          buildConfirmationIntent waId
            (formatted session.context.draft.grievanceId) headerMediaId
            body) }

/-- The messages that `iter_incoming_messages` lets through have an id, and the
ids of the drafts are those of rows. -/
def sessions (waId : String) : Transition.System Session SessionStep :=
  { initial := fun session => session = .start
    step := fun session step =>
      match step with
      | .receive inbound geocode now grievanceId =>
          if inbound.waId = waId ∧ inbound.metaMessageId ≠ "" ∧
              grievanceId ≠ "" then
            some (session.receive inbound geocode now grievanceId)
          else none
      | .followUp mismatch headerMediaId body =>
          session.followUp waId mismatch headerMediaId body }

/-- Everything a step of a session can be. -/
theorem sessions_step_cases {waId : String} {session next : Session}
    {step : SessionStep}
    (taken : (sessions waId).step session step = some next) :
    next = session ∨
    (∃ inbound geocode now grievanceId result,
      step = .receive inbound geocode now grievanceId ∧
      inbound.waId = waId ∧ inbound.metaMessageId ≠ "" ∧ grievanceId ≠ "" ∧
      advance waId session.dialogue.state session.dialogue.context inbound
        geocode now = some result ∧
      next.dialogue.state = some result.state ∧
      next.context = storedContext result grievanceId ∧
      next.written =
        (if result.action = some .startPipeline then some grievanceId
        else session.written) ∧
      next.prompt =
        nextPrompt session.dialogue.state session.prompt result) ∨
    (∃ mismatch headerMediaId body,
      step = .followUp mismatch headerMediaId body ∧
      session.dialogue.state = some .processing ∧
      next.dialogue.state =
        (if mismatch then some .photoMismatch
        else some .awaitingConfirmation) ∧
      next.context = session.context ∧ next.written = session.written ∧
      next.prompt = some
        (if mismatch then buildMismatchIntent waId none
        else
          buildConfirmationIntent waId
            (formatted session.context.draft.grievanceId) headerMediaId
            body)) := by
  cases step with
  | receive inbound geocode now grievanceId =>
      simp only [sessions] at taken
      split at taken
      case isFalse => cases taken
      case isTrue named =>
        obtain ⟨rfl, token, id⟩ := named
        have received : session.receive inbound geocode now grievanceId =
            next := Option.some.inj taken
        unfold Session.receive at received
        split at received
        case h_1 => exact .inl received.symm
        case h_2 result advanced =>
          subst received
          refine .inr (.inl ⟨inbound, geocode, now, grievanceId, result, rfl,
            rfl, token, id, advanced, ?_, ?_, rfl, rfl⟩)
          · simp [Dialogue.receive, advanced]
          · simp [Session.context, Dialogue.receive, advanced]
  | followUp mismatch headerMediaId body =>
      obtain ⟨dialogue, followed, rfl⟩ := Option.map_eq_some_iff.mp taken
      unfold Dialogue.followUp at followed
      split at followed
      case isFalse => cases followed
      case isTrue processing =>
        obtain rfl := Option.some.inj followed
        exact .inr (.inr ⟨mismatch, headerMediaId, body, rfl, processing,
          rfl, rfl, rfl, rfl⟩)

/-! ## Tokens and the draft -/

/-- What every state of a session has to go on: a staged location has a token,
and once the pipeline was started the draft holds the id that was written. -/
def Grounded (state : Option ConversationState) (context : Context)
    (written : Option String) : Prop :=
  match state with
  | none | some .awaitingLocation | some .awaitingIssue
  | some .awaitingPhoto | some .done => True
  | some .confirmingLocation =>
      ∃ token, context.location.sourceMessageId = some token ∧ token ≠ ""
  | some .processing | some .photoMismatch | some .awaitingConfirmation =>
      ∃ id, context.draft.grievanceId = some id ∧ written = some id ∧ id ≠ ""
  | some .expired | some (.unknown _) => False

/-- The step lemma: one case for each kind of turn. -/
theorem Turn.grounded {inbound : IncomingWhatsAppMessage}
    {geocode : Option ReverseGeocode} {now : Time}
    {state : Option ConversationState} {context : Context}
    {result : FsmResult} {grievanceId : String} {written : Option String}
    (turn : Turn inbound geocode now state context result.state
      result.context result.action)
    (named : inbound.metaMessageId ≠ "") (given : grievanceId ≠ "")
    (grounded : Grounded state context written) :
    Grounded (some result.state) (storedContext result grievanceId)
      (if result.action = some .startPipeline then some grievanceId
      else written) := by
  obtain ⟨after, next, intents, action, close⟩ := result
  cases turn with
  | greeted _ _ => trivial
  | staged _ _ _ => exact ⟨inbound.metaMessageId, rfl, named⟩
  | confirmed _ _ => trivial
  | rejected _ _ => trivial
  | described _ => trivial
  | issueDone _ _ => trivial
  | photoShared _ => exact ⟨grievanceId, rfl, rfl, given⟩
  | photoSkipped _ _ => exact ⟨grievanceId, rfl, rfl, given⟩
  | photoReplaced _ => exact grounded
  | photoWaived _ => exact grounded
  | finalized _ => trivial
  | cancelled _ => trivial
  | stayed _ _ => exact grounded

def Session.IsGrounded (session : Session) : Prop :=
  Grounded session.dialogue.state session.context session.written

theorem isGrounded {waId : String} {session : Session}
    (reachable : (sessions waId).Reachable session) : session.IsGrounded := by
  refine reachable.invariant ?_ ?_
  · rintro session rfl
    trivial
  · intro session step next _ grounded _ taken
    rcases sessions_step_cases taken with
      rfl |
      ⟨inbound, geocode, now, grievanceId, result, _, _, named, given,
        advanced, state, context, written, _⟩ |
      ⟨mismatch, _, _, _, processing, state, context, written, _⟩
    · exact grounded
    · unfold Session.IsGrounded
      rw [state, context, written]
      exact (advance_turn advanced).1.grounded named given grounded
    · unfold Session.IsGrounded at grounded ⊢
      rw [processing] at grounded
      rw [state, context, written]
      cases mismatch
      · exact grounded
      · exact grounded

/-! ## The prompt -/

/-- The prompts of each state, with the tokens that the context holds. -/
inductive Offered (waId : String) (context : Context) :
    ConversationState → OutboundIntent → Prop where
  | location {body kind : String} :
      Offered waId context .awaitingLocation
        (locationRequestIntent waId body kind)
  | card {body : String} :
      Offered waId context .confirmingLocation
        (confirmLocationIntent waId body context.location.sourceMessageId)
  | issue : Offered waId context .awaitingIssue (askIssueIntent waId)
  | photo {body kind : String} :
      Offered waId context .awaitingPhoto (photoPromptIntent waId body kind)
  | mismatch :
      Offered waId context .photoMismatch (mismatchPromptIntent waId none)
  | confirmation {headerMediaId : Option String} {body : String} :
      Offered waId context .awaitingConfirmation
        (buildConfirmationIntent waId (formatted context.draft.grievanceId)
          headerMediaId body)

/-- The prompt, if any, belongs to the state and the context. -/
def Prompted (waId : String) (state : Option ConversationState)
    (context : Context) (prompt : Option OutboundIntent) : Prop :=
  ∀ intent, prompt = some intent →
    ∃ inState, state = some inState ∧ Offered waId context inState intent

section

variable {waId : String} {inbound : IncomingWhatsAppMessage}
  {geocode : Option ReverseGeocode} {now : Time} {result : FsmResult}
  {prompt : Option OutboundIntent} {before : Option ConversationState}

theorem prompted_of_prompt {intent : OutboundIntent}
    (isPrompt : intent.isPrompt = true)
    (sent : result.intents = [intent])
    (offered : Offered waId result.context result.state intent) :
    Prompted waId (some result.state) result.context
      (nextPrompt before prompt result) := by
  have chosen : nextPrompt before prompt result = some intent := by
    simp [nextPrompt, sent, isPrompt]
  intro other same
  cases chosen.symm.trans same
  exact ⟨_, rfl, offered⟩

/-- Without a prompt among the messages the last one stays, unless the state
changes. -/
theorem prompted_of_plain
    (sent : result.intents = [] ∨
      ∃ body kind, result.intents = [textIntent waId body kind])
    (kept : before = some result.state →
      Prompted waId before result.context prompt) :
    Prompted waId (some result.state) result.context
      (nextPrompt before prompt result) := by
  have stays : nextPrompt before prompt result =
      if before = some result.state then prompt else none := by
    unfold nextPrompt
    rcases sent with sent | ⟨body, kind, sent⟩
    · rw [sent]
      rfl
    · rw [sent]
      rfl
  rw [stays]
  split
  case isTrue same =>
    rw [← same]
    exact kept same
  case isFalse =>
    intro intent absent
    cases absent

theorem stageLocationAndConfirm_prompted {context : Context}
    {bodyPrefix : String}
    (staged : stageLocationAndConfirm waId context inbound geocode
      bodyPrefix = some result) :
    Prompted waId (some result.state) result.context
      (nextPrompt before prompt result) := by
  unfold stageLocationAndConfirm at staged
  split at staged
  case h_1 => cases staged
  case h_2 =>
    obtain rfl := Option.some.inj staged
    exact prompted_of_prompt rfl rfl .card

/-- After every turn the last prompt belongs to the state. -/
theorem advance_prompted {stored : Option Context}
    (advanced : advance waId before stored inbound geocode now = some result)
    (prompted : Prompted waId before (stored.getD defaultContext) prompt) :
    Prompted waId (some result.state) result.context
      (nextPrompt before prompt result) := by
  unfold advance at advanced
  simp only at advanced
  split at advanced
  case h_1 | h_2 =>
    unfold advanceNew at advanced
    simp only at advanced
    split at advanced
    · exact stageLocationAndConfirm_prompted advanced
    · obtain rfl := Option.some.inj advanced
      exact prompted_of_prompt rfl rfl .location
  case h_3 =>
    unfold advanceAwaitingLocation at advanced
    split at advanced
    · exact stageLocationAndConfirm_prompted advanced
    · obtain rfl := Option.some.inj advanced
      exact prompted_of_prompt rfl rfl .location
  case h_4 =>
    unfold advanceConfirmingLocation at advanced
    simp only at advanced
    split at advanced
    · exact stageLocationAndConfirm_prompted advanced
    · split at advanced
      · obtain rfl := Option.some.inj advanced
        exact prompted_of_prompt rfl rfl .issue
      · split at advanced
        · obtain rfl := Option.some.inj advanced
          exact prompted_of_prompt rfl rfl .location
        · split at advanced
          · cases advanced
          · obtain rfl := Option.some.inj advanced
            exact prompted_of_prompt rfl rfl .card
  case h_5 =>
    obtain rfl := Option.some.inj advanced
    unfold advanceAwaitingIssue
    simp only
    split
    · split
      · exact prompted_of_plain (.inr ⟨_, _, rfl⟩) fun _ => prompted
      · exact prompted_of_prompt rfl rfl .photo
    · split
      · refine prompted_of_plain (.inl rfl) fun _ intent last => ?_
        -- The card of the issue step says nothing about the issue.
        obtain ⟨inState, same, offered⟩ := prompted intent last
        cases same
        cases offered
        exact ⟨_, rfl, .issue⟩
      · exact prompted_of_plain (.inl rfl) fun _ => prompted
  case h_6 =>
    obtain rfl := Option.some.inj advanced
    unfold advanceAwaitingPhoto
    simp only
    split
    · exact prompted_of_plain (.inr ⟨_, _, rfl⟩) nofun
    · split
      · exact prompted_of_plain (.inr ⟨_, _, rfl⟩) nofun
      · split
        · exact prompted_of_plain (.inr ⟨_, _, rfl⟩) fun _ => prompted
        · exact prompted_of_prompt rfl rfl .photo
  case h_7 =>
    obtain rfl := Option.some.inj advanced
    exact prompted_of_plain (.inr ⟨_, _, rfl⟩) fun _ => prompted
  case h_8 =>
    obtain rfl := Option.some.inj advanced
    unfold advancePhotoMismatch
    simp only
    split
    · exact prompted_of_plain (.inr ⟨_, _, rfl⟩) nofun
    · split
      · exact prompted_of_plain (.inr ⟨_, _, rfl⟩) nofun
      · exact prompted_of_prompt rfl rfl .mismatch
  case h_9 =>
    obtain rfl := Option.some.inj advanced
    unfold advanceAwaitingConfirmation
    simp only
    split
    · exact prompted_of_plain (.inl rfl) nofun
    · split
      · exact prompted_of_plain (.inl rfl) nofun
      · exact prompted_of_plain (.inl rfl) fun _ => prompted
  case h_10 | h_11 =>
    obtain rfl := Option.some.inj advanced
    exact prompted_of_plain (.inl rfl) fun _ => prompted

/-- The id that the driver writes is on no prompt yet. -/
theorem Prompted.stored (grievanceId : String)
    (turn : result.action = some .startPipeline →
      result.state = .processing)
    (prompted : Prompted waId (some result.state) result.context prompt) :
    Prompted waId (some result.state) (storedContext result grievanceId)
      prompt := by
  unfold storedContext
  split
  case isFalse => exact prompted
  case isTrue starts =>
    intro intent last
    obtain ⟨inState, same, offered⟩ := prompted intent last
    rw [turn starts] at same
    cases same
    cases offered

end

def Session.IsPrompted (waId : String) (session : Session) : Prop :=
  Prompted waId session.dialogue.state session.context session.prompt

theorem isPrompted {waId : String} {session : Session}
    (reachable : (sessions waId).Reachable session) :
    session.IsPrompted waId := by
  refine reachable.invariant ?_ ?_
  · rintro session rfl intent last
    cases last
  · intro session step next _ prompted _ taken
    rcases sessions_step_cases taken with
      rfl |
      ⟨inbound, geocode, now, grievanceId, result, _, rfl, _, _, advanced,
        state, context, _, prompt⟩ |
      ⟨mismatch, headerMediaId, body, _, processing, state, context, _,
        prompt⟩
    · exact prompted
    · unfold Session.IsPrompted
      rw [state, context, prompt]
      exact (advance_prompted advanced prompted).stored grievanceId
        (advance_turn advanced).1.starts
    · unfold Session.IsPrompted
      rw [state, context, prompt]
      intro intent last
      obtain rfl := Option.some.inj last
      cases mismatch
      · exact ⟨_, rfl, .confirmation⟩
      · exact ⟨_, rfl, .mismatch⟩

end JanSetu.Whatsapp
