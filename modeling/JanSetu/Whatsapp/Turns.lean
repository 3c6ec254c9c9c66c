import JanSetu.Library.Transition
import JanSetu.Whatsapp.Conversation

/-!
# Turns of a conversation

What one inbound message can do to the state and the context, and the
conversation as a transition system: its messages in any order, the pipeline
follow-ups that leave `processing`, and the grievance id that the driver writes
into the draft when the pipeline is started.
-/

namespace JanSetu.Whatsapp

/-- The content that the issue step accepts. -/
def AcceptsIssue (inbound : IncomingWhatsAppMessage) : Prop :=
  (parseConfirmReply inbound.replyId).base ≠ some Copy.issueDoneId ∧
    inbound.messageType ∈ issueContentTypes

instance (inbound : IncomingWhatsAppMessage) :
    Decidable (AcceptsIssue inbound) :=
  inferInstanceAs (Decidable (_ ∧ _))

def Replies (inbound : IncomingWhatsAppMessage) (base : String)
    (token : Option String) : Prop :=
  (parseConfirmReply inbound.replyId).base = some base ∧
    (parseConfirmReply inbound.replyId).token = token

/-- The states that stage a shared location. -/
def ExpectsLocation : Option ConversationState → Prop
  | none | some .expired | some .awaitingLocation
  | some .confirmingLocation => True
  | _ => False

def addMessage (issue : Context.Issue) (inbound : IncomingWhatsAppMessage) :
    Context.Issue :=
  { messages := issue.messages ++ [issueMessage inbound]
    sourceMessageId :=
      match issue.sourceMessageId with
      | none => some inbound.metaMessageId
      | some source => some source }

/-- The state and the context before a message, and the state, the context and
the action after it. -/
inductive Turn (inbound : IncomingWhatsAppMessage)
    (geocode : Option ReverseGeocode) (now : Time) :
    Option ConversationState → Context →
      ConversationState → Context → Option Action → Prop where
  | greeted {state : Option ConversationState} {context : Context} :
      state = none ∨ state = some .expired →
      isLocation inbound = false →
      Turn inbound geocode now state context .awaitingLocation context none
  | staged {state : Option ConversationState} {context : Context}
      {address : String} :
      ExpectsLocation state →
      isLocation inbound = true →
      addressText geocode inbound.locationLatitude
        inbound.locationLongitude = some address →
      Turn inbound geocode now state context .confirmingLocation
        { context with location := stageLocation inbound geocode } none
  | confirmed {context : Context} :
      isLocation inbound = false →
      Replies inbound Copy.confirmYesId context.location.sourceMessageId →
      Turn inbound geocode now (some .confirmingLocation) context
        .awaitingIssue
        { context with
          location := { context.location with confirmedAt := some now } }
        none
  | rejected {context : Context} :
      isLocation inbound = false →
      Replies inbound Copy.confirmNoId context.location.sourceMessageId →
      Turn inbound geocode now (some .confirmingLocation) context
        .awaitingLocation { context with location := defaultLocation } none
  | described {context : Context} :
      AcceptsIssue inbound →
      Turn inbound geocode now (some .awaitingIssue) context .awaitingIssue
        { context with issue := addMessage context.issue inbound } none
  | issueDone {context : Context} :
      (parseConfirmReply inbound.replyId).base = some Copy.issueDoneId →
      context.issue.messages ≠ [] →
      Turn inbound geocode now (some .awaitingIssue) context .awaitingPhoto
        context none
  | photoShared {context : Context} :
      isPhoto inbound = true →
      Turn inbound geocode now (some .awaitingPhoto) context .processing
        { context with photo := sharedPhoto inbound } (some .startPipeline)
  | photoSkipped {context : Context} :
      isPhoto inbound = false →
      (parseConfirmReply inbound.replyId).base = some Copy.photoSkipId →
      Turn inbound geocode now (some .awaitingPhoto) context .processing
        { context with photo := skippedPhoto } (some .startPipeline)
  | photoReplaced {context : Context} :
      isPhoto inbound = true →
      Turn inbound geocode now (some .photoMismatch) context .processing
        { context with
          photo := sharedPhoto inbound
          draft :=
            { context.draft with
              recheckCount := context.draft.recheckCount + 1 } }
        (some .recheckPhoto)
  | photoWaived {context : Context} :
      (parseConfirmReply inbound.replyId).base = some photoContinueId →
      Turn inbound geocode now (some .photoMismatch) context .processing
        context (some .proceedWithoutPhoto)
  | finalized {context : Context} :
      Replies inbound confirmGrvYesId context.draft.grievanceId →
      Turn inbound geocode now (some .awaitingConfirmation) context .done
        context (some .finalize)
  | cancelled {context : Context} :
      Replies inbound confirmGrvNoId context.draft.grievanceId →
      Turn inbound geocode now (some .awaitingConfirmation) context .done
        context (some .cancel)
  -- A re-prompt, or a message that is ignored.
  | stayed {state : ConversationState} {context : Context} :
      (ExpectsLocation (some state) → isLocation inbound = false) →
      (state = .awaitingIssue → ¬ AcceptsIssue inbound) →
      Turn inbound geocode now (some state) context state context none

/-- The actions with which the conversation closes. -/
def closes : Option Action → Bool
  | some .finalize | some .cancel => true
  | _ => false

section

variable {inbound : IncomingWhatsAppMessage}
  {geocode : Option ReverseGeocode} {now : Time} {waId : String}
  {context : Context} {result : FsmResult}

theorem stageLocationAndConfirm_turn {state : Option ConversationState}
    {bodyPrefix : String} (expects : ExpectsLocation state)
    (location : isLocation inbound = true)
    (staged : stageLocationAndConfirm waId context inbound geocode bodyPrefix =
      some result) :
    Turn inbound geocode now state context result.state result.context
      result.action ∧ result.close = closes result.action := by
  unfold stageLocationAndConfirm at staged
  cases address : addressText geocode inbound.locationLatitude
      inbound.locationLongitude with
  | none => simp [address] at staged
  | some address =>
      simp only [address, Option.some.injEq] at staged
      subst staged
      exact ⟨.staged expects location ‹_›, rfl⟩

theorem advanceNew_turn {state : Option ConversationState}
    (fresh : state = none ∨ state = some .expired)
    (advanced : advanceNew waId context inbound geocode = some result) :
    Turn inbound geocode now state context result.state result.context
      result.action ∧ result.close = closes result.action := by
  unfold advanceNew at advanced
  split at advanced
  case isTrue location =>
    have expects : ExpectsLocation state := by
      rcases fresh with rfl | rfl <;> trivial
    exact stageLocationAndConfirm_turn expects location advanced
  case isFalse other =>
    obtain rfl := Option.some.inj advanced
    exact ⟨.greeted fresh (by simpa using other), rfl⟩

theorem advanceAwaitingLocation_turn
    (advanced : advanceAwaitingLocation waId context inbound geocode =
      some result) :
    Turn inbound geocode now (some .awaitingLocation) context result.state
      result.context result.action ∧ result.close = closes result.action := by
  unfold advanceAwaitingLocation at advanced
  split at advanced
  case isTrue location =>
    exact stageLocationAndConfirm_turn trivial location advanced
  case isFalse other =>
    obtain rfl := Option.some.inj advanced
    exact ⟨.stayed (fun _ => by simpa using other) nofun, rfl⟩

theorem advanceConfirmingLocation_turn
    (advanced : advanceConfirmingLocation waId context inbound geocode now =
      some result) :
    Turn inbound geocode now (some .confirmingLocation) context result.state
      result.context result.action ∧ result.close = closes result.action := by
  unfold advanceConfirmingLocation at advanced
  split at advanced
  case isTrue location =>
    exact stageLocationAndConfirm_turn trivial location advanced
  case isFalse other =>
    have notLocation : isLocation inbound = false := by simpa using other
    simp only at advanced
    split at advanced
    case isTrue yes =>
      obtain rfl := Option.some.inj advanced
      exact ⟨.confirmed notLocation ⟨yes.2, yes.1⟩, rfl⟩
    case isFalse =>
      split at advanced
      case isTrue no =>
        obtain rfl := Option.some.inj advanced
        exact ⟨.rejected notLocation ⟨no.2, no.1⟩, rfl⟩
      case isFalse =>
        split at advanced
        · cases advanced
        · obtain rfl := Option.some.inj advanced
          exact ⟨.stayed (fun _ => notLocation) nofun, rfl⟩

theorem advanceAwaitingIssue_turn
    (advanced : advanceAwaitingIssue waId context inbound = result) :
    Turn inbound geocode now (some .awaitingIssue) context result.state
      result.context result.action ∧ result.close = closes result.action := by
  subst advanced
  unfold advanceAwaitingIssue
  simp only
  split
  case isTrue done =>
    split
    case isTrue =>
      exact ⟨.stayed nofun fun _ accepts => accepts.1 done, rfl⟩
    case isFalse nonempty => exact ⟨.issueDone done nonempty, rfl⟩
  case isFalse other =>
    split
    case isTrue content => exact ⟨.described ⟨other, content⟩, rfl⟩
    case isFalse foreign =>
      exact ⟨.stayed nofun fun _ accepts => foreign accepts.2, rfl⟩

theorem advanceAwaitingPhoto_turn
    (advanced : advanceAwaitingPhoto waId context inbound = result) :
    Turn inbound geocode now (some .awaitingPhoto) context result.state
      result.context result.action ∧ result.close = closes result.action := by
  subst advanced
  unfold advanceAwaitingPhoto
  simp only
  split
  case isTrue photo => exact ⟨.photoShared photo, rfl⟩
  case isFalse other =>
    split
    case isTrue skip =>
      exact ⟨.photoSkipped (by simpa using other) skip, rfl⟩
    case isFalse =>
      split <;> exact ⟨.stayed nofun nofun, rfl⟩

theorem advancePhotoMismatch_turn
    (advanced : advancePhotoMismatch waId context inbound = result) :
    Turn inbound geocode now (some .photoMismatch) context result.state
      result.context result.action ∧ result.close = closes result.action := by
  subst advanced
  unfold advancePhotoMismatch
  simp only
  split
  case isTrue photo => exact ⟨.photoReplaced photo, rfl⟩
  case isFalse =>
    split
    case isTrue waive => exact ⟨.photoWaived waive, rfl⟩
    case isFalse => exact ⟨.stayed nofun nofun, rfl⟩

theorem advanceAwaitingConfirmation_turn
    (advanced : advanceAwaitingConfirmation context inbound = result) :
    Turn inbound geocode now (some .awaitingConfirmation) context
      result.state result.context result.action ∧
      result.close = closes result.action := by
  subst advanced
  unfold advanceAwaitingConfirmation
  simp only
  split
  case isTrue yes => exact ⟨.finalized ⟨yes.2, yes.1⟩, rfl⟩
  case isFalse =>
    split
    case isTrue no => exact ⟨.cancelled ⟨no.2, no.1⟩, rfl⟩
    case isFalse => exact ⟨.stayed nofun nofun, rfl⟩

/-- Everything one inbound message can do. -/
theorem advance_turn {state : Option ConversationState}
    {stored : Option Context}
    (advanced : advance waId state stored inbound geocode now = some result) :
    Turn inbound geocode now state (stored.getD defaultContext) result.state
      result.context result.action ∧
      result.close = closes result.action := by
  unfold advance at advanced
  simp only at advanced
  split at advanced
  · exact advanceNew_turn (.inl rfl) advanced
  · exact advanceNew_turn (.inr rfl) advanced
  · exact advanceAwaitingLocation_turn advanced
  · exact advanceConfirmingLocation_turn advanced
  · exact advanceAwaitingIssue_turn (Option.some.inj advanced)
  · exact advanceAwaitingPhoto_turn (Option.some.inj advanced)
  · obtain rfl := Option.some.inj advanced
    exact ⟨.stayed nofun nofun, rfl⟩
  · exact advancePhotoMismatch_turn (Option.some.inj advanced)
  · exact advanceAwaitingConfirmation_turn (Option.some.inj advanced)
  · obtain rfl := Option.some.inj advanced
    exact ⟨.stayed nofun nofun, rfl⟩
  · obtain rfl := Option.some.inj advanced
    exact ⟨.stayed nofun nofun, rfl⟩

end

/-! ## Runs -/

/-- What a conversation has put out: an action of the state machine, or a
follow-up that left `processing`. -/
inductive Output where
  | emitted (action : Action)
  | followedUp
deriving DecidableEq

/-- A message and the state it was read in. -/
structure Reading where
  state : Option ConversationState
  inbound : IncomingWhatsAppMessage
deriving DecidableEq

/-- A conversation before its first message (`state` is `none`) or as it is
stored; the outputs and the readings so far, the oldest first, are kept for the
statements about runs. -/
structure Dialogue where
  state : Option ConversationState
  context : Option Context
  closed : Bool
  outputs : List Output
  readings : List Reading
deriving DecidableEq

def Dialogue.start : Dialogue :=
  { state := none, context := none, closed := false, outputs := []
    readings := [] }

inductive DialogueStep where
  | receive (inbound : IncomingWhatsAppMessage)
      (geocode : Option ReverseGeocode) (now : Time) (grievanceId : String)
  | followUp (mismatch : Bool)
deriving DecidableEq

/-- The context as the driver stores it: with the id of the new draft when the
pipeline is started. -/
def storedContext (result : FsmResult) (grievanceId : String) : Context :=
  if result.action = some .startPipeline then
    { result.context with
      draft := { result.context.draft with grievanceId := some grievanceId } }
  else result.context

/-- A message on which `advance` raises is rolled back. -/
def Dialogue.receive (dialogue : Dialogue) (inbound : IncomingWhatsAppMessage)
    (geocode : Option ReverseGeocode) (now : Time) (grievanceId : String) :
    Dialogue :=
  match advance inbound.waId dialogue.state dialogue.context inbound geocode
      now with
  | none => dialogue
  | some result =>
      { state := some result.state
        context := some (storedContext result grievanceId)
        closed := dialogue.closed || result.close
        outputs := dialogue.outputs ++ result.action.toList.map .emitted
        readings :=
          dialogue.readings ++ [{ state := dialogue.state
                                  inbound := inbound }] }

def Dialogue.followUp (dialogue : Dialogue) (mismatch : Bool) :
    Option Dialogue :=
  if dialogue.state = some .processing then
    some
      { dialogue with
        state :=
          if mismatch then some .photoMismatch else some .awaitingConfirmation
        outputs := dialogue.outputs ++ [.followedUp] }
  else none

def dialogues : Transition.System Dialogue DialogueStep :=
  { initial := fun dialogue => dialogue = .start
    step := fun dialogue step =>
      match step with
      | .receive inbound geocode now grievanceId =>
          some (dialogue.receive inbound geocode now grievanceId)
      | .followUp mismatch => dialogue.followUp mismatch }

/-- Everything a step of a conversation can be. -/
theorem dialogues_step_cases {dialogue next : Dialogue} {step : DialogueStep}
    (taken : dialogues.step dialogue step = some next) :
    next = dialogue ∨
    (∃ inbound geocode now grievanceId result,
      step = .receive inbound geocode now grievanceId ∧
      Turn inbound geocode now dialogue.state
        (dialogue.context.getD defaultContext) result.state result.context
        result.action ∧
      next =
        { state := some result.state
          context := some (storedContext result grievanceId)
          closed := dialogue.closed || closes result.action
          outputs := dialogue.outputs ++ result.action.toList.map .emitted
          readings :=
            dialogue.readings ++ [{ state := dialogue.state
                                    inbound := inbound }] }) ∨
    (∃ mismatch, step = .followUp mismatch ∧
      dialogue.state = some .processing ∧
      next =
        { dialogue with
          state :=
            if mismatch then some .photoMismatch
            else some .awaitingConfirmation
          outputs := dialogue.outputs ++ [.followedUp] }) := by
  cases step with
  | receive inbound geocode now grievanceId =>
      have received : dialogue.receive inbound geocode now grievanceId =
          next := Option.some.inj taken
      unfold Dialogue.receive at received
      split at received
      · exact .inl received.symm
      · rename_i result advanced
        obtain ⟨turn, closing⟩ := advance_turn advanced
        rw [closing] at received
        exact .inr (.inl ⟨inbound, geocode, now, grievanceId, result, rfl,
          turn, received.symm⟩)
  | followUp mismatch =>
      have followed : dialogue.followUp mismatch = some next := taken
      unfold Dialogue.followUp at followed
      split at followed
      · rename_i processing
        exact .inr (.inr ⟨mismatch, rfl, processing,
          (Option.some.inj followed).symm⟩)
      · cases followed

/-! ## A sample conversation -/

def sampleMessage (metaMessageId messageType : String) :
    IncomingWhatsAppMessage :=
  { waId := "919876543210"
    metaMessageId := metaMessageId
    messageType := messageType
    textBody := none
    receivedAt := 0
    mediaId := none
    mediaMimeType := none
    locationLatitude := none
    locationLongitude := none
    replyId := none
    contextMessageId := none }

def sampleText (metaMessageId body : String) : IncomingWhatsAppMessage :=
  { sampleMessage metaMessageId "text" with textBody := some body }

def sampleLocation (metaMessageId : String) (lat lon : ℚ) :
    IncomingWhatsAppMessage :=
  { sampleMessage metaMessageId "location" with
    locationLatitude := some lat
    locationLongitude := some lon }

def sampleImage (metaMessageId mediaId : String) : IncomingWhatsAppMessage :=
  { sampleMessage metaMessageId "image" with mediaId := some mediaId }

def sampleTap (metaMessageId replyId : String) : IncomingWhatsAppMessage :=
  { sampleMessage metaMessageId "interactive" with replyId := some replyId }

def sampleReceive (inbound : IncomingWhatsAppMessage) : DialogueStep :=
  .receive inbound none 0 "g1"

/-- From the first message to the photo step, with a location that is replaced
before it is confirmed. -/
def sampleUpToPhoto : List DialogueStep :=
  [sampleReceive (sampleText "m1" "hello"),
    sampleReceive (sampleLocation "m2" 28 77),
    sampleReceive (sampleLocation "m3" 19 73),
    sampleReceive (sampleTap "m4" "loc_confirm_yes:m2"),
    sampleReceive (sampleTap "m5" "loc_confirm_yes:m3"),
    sampleReceive (sampleText "m6" "no water"),
    sampleReceive (sampleTap "m7" "issue_done")]

end JanSetu.Whatsapp
