import JanSetu.Whatsapp.Turns

/-!
# Stale taps

Old cards stay tappable, so any id of any card can arrive in any state.  A tap
that does not belong to the card of the current step changes nothing.
-/

namespace JanSetu.Whatsapp

/-- The button ids of the prompts of a step. -/
def promptButtons : ConversationState → Context → List String
  | .confirmingLocation, context =>
      [tokenId Copy.confirmYesId context.location.sourceMessageId,
        tokenId Copy.confirmNoId context.location.sourceMessageId]
  | .awaitingIssue, _ => [Copy.issueDoneId]
  | .awaitingPhoto, _ => [Copy.photoShareId, Copy.photoSkipId]
  | .photoMismatch, _ => [Copy.photoShareId, photoContinueId]
  | .awaitingConfirmation, context =>
      [tokenId confirmGrvYesId context.draft.grievanceId,
        tokenId confirmGrvNoId context.draft.grievanceId]
  | _, _ => []

/-- At most one message, whose buttons all belong to the step. -/
structure Prompts (state : ConversationState) (context : Context)
    (intents : List OutboundIntent) : Prop where
  atMostOne : intents.length ≤ 1
  offered : ∀ intent ∈ intents, ∀ id ∈ intent.payload.buttonIds,
    id ∈ promptButtons state context

section

variable {state : ConversationState} {context : Context}
  {waId body kind : String} {inbound : IncomingWhatsAppMessage}
  {geocode : Option ReverseGeocode} {now : Time} {result : FsmResult}

theorem prompts_nil : Prompts state context [] :=
  { atMostOne := Nat.zero_le _, offered := by simp }

theorem prompts_singleton {intent : OutboundIntent}
    (offered : ∀ id ∈ intent.payload.buttonIds,
      id ∈ promptButtons state context) : Prompts state context [intent] :=
  { atMostOne := Nat.le_refl _, offered := by simpa using offered }

theorem prompts_text : Prompts state context [textIntent waId body kind] :=
  prompts_singleton (by simp [textIntent, Payload.buttonIds])

theorem prompts_locationRequest :
    Prompts state context [locationRequestIntent waId body kind] :=
  prompts_singleton (by simp [locationRequestIntent, Payload.buttonIds])

theorem prompts_confirmLocation :
    Prompts .confirmingLocation context
      [confirmLocationIntent waId body context.location.sourceMessageId] :=
  prompts_singleton (by
    simp [confirmLocationIntent, confirmLocationButtons, Payload.buttonIds,
      promptButtons])

theorem prompts_askIssue :
    Prompts .awaitingIssue context [askIssueIntent waId] :=
  prompts_singleton (by
    simp [askIssueIntent, buttonsIntent, Payload.buttonIds, promptButtons])

theorem prompts_photo :
    Prompts .awaitingPhoto context [photoPromptIntent waId body kind] :=
  prompts_singleton (by
    simp [photoPromptIntent, buttonsIntent, Payload.buttonIds, promptButtons])

theorem prompts_mismatch {note : Option String} :
    Prompts .photoMismatch context [mismatchPromptIntent waId note] :=
  prompts_singleton (by
    simp [mismatchPromptIntent, buttonsIntent, Payload.buttonIds,
      promptButtons])

/-- The card that the pipeline follow-up sends for the draft. -/
theorem prompts_confirmation {draftId : String}
    {headerMediaId : Option String}
    (draft : context.draft.grievanceId = some draftId) :
    Prompts .awaitingConfirmation context
      [buildConfirmationIntent waId draftId headerMediaId body] :=
  prompts_singleton (by
    cases headerMediaId <;>
      simp [buildConfirmationIntent, buttonsIntent, Payload.buttonIds,
        promptButtons, draft])

theorem stageLocationAndConfirm_prompts
    (staged : stageLocationAndConfirm waId context inbound geocode body =
      some result) :
    Prompts result.state result.context result.intents := by
  unfold stageLocationAndConfirm at staged
  split at staged
  · cases staged
  · obtain rfl := Option.some.inj staged
    exact prompts_confirmLocation

/-- `promptButtons` is what the state machine sends: every message of a turn
offers buttons of the step that the turn leads to. -/
theorem advance_prompts {before : Option ConversationState}
    {stored : Option Context}
    (advanced : advance waId before stored inbound geocode now =
      some result) :
    Prompts result.state result.context result.intents := by
  unfold advance at advanced
  simp only at advanced
  split at advanced
  case h_1 | h_2 =>
    unfold advanceNew at advanced
    simp only at advanced
    split at advanced
    · exact stageLocationAndConfirm_prompts advanced
    · obtain rfl := Option.some.inj advanced
      exact prompts_locationRequest
  case h_3 =>
    unfold advanceAwaitingLocation at advanced
    split at advanced
    · exact stageLocationAndConfirm_prompts advanced
    · obtain rfl := Option.some.inj advanced
      exact prompts_locationRequest
  case h_4 =>
    unfold advanceConfirmingLocation at advanced
    simp only at advanced
    split at advanced
    · exact stageLocationAndConfirm_prompts advanced
    · split at advanced
      · obtain rfl := Option.some.inj advanced
        exact prompts_askIssue
      · split at advanced
        · obtain rfl := Option.some.inj advanced
          exact prompts_locationRequest
        · split at advanced
          · cases advanced
          · obtain rfl := Option.some.inj advanced
            exact prompts_confirmLocation
  case h_5 =>
    obtain rfl := Option.some.inj advanced
    unfold advanceAwaitingIssue
    simp only
    split
    · split
      · exact prompts_text
      · exact prompts_photo
    · split
      · exact prompts_nil
      · exact prompts_nil
  case h_6 =>
    obtain rfl := Option.some.inj advanced
    unfold advanceAwaitingPhoto
    simp only
    split
    · exact prompts_text
    · split
      · exact prompts_text
      · split
        · exact prompts_text
        · exact prompts_photo
  case h_7 =>
    obtain rfl := Option.some.inj advanced
    exact prompts_text
  case h_8 =>
    obtain rfl := Option.some.inj advanced
    unfold advancePhotoMismatch
    simp only
    split
    · exact prompts_text
    · split
      · exact prompts_text
      · exact prompts_mismatch
  case h_9 =>
    obtain rfl := Option.some.inj advanced
    unfold advanceAwaitingConfirmation
    simp only
    split
    · exact prompts_nil
    · split
      · exact prompts_nil
      · exact prompts_nil
  case h_10 | h_11 =>
    obtain rfl := Option.some.inj advanced
    exact prompts_nil

end

/-! ## Reply ids -/

/-- The ids that carry no token. -/
def plainIds : List String :=
  [Copy.issueDoneId, Copy.photoShareId, Copy.photoSkipId, photoContinueId]

def IsLocationBase (base : String) : Prop :=
  base = Copy.confirmYesId ∨ base = Copy.confirmNoId

def IsGrievanceBase (base : String) : Prop :=
  base = confirmGrvYesId ∨ base = confirmGrvNoId

theorem IsLocationBase.not_grievance {base : String}
    (is : IsLocationBase base) : ¬ IsGrievanceBase base := by
  rcases is with rfl | rfl
  · unfold IsGrievanceBase
    decide
  · unfold IsGrievanceBase
    decide

theorem IsLocationBase.not_plain {base : String} (is : IsLocationBase base) :
    base ∉ plainIds := by
  rcases is with rfl | rfl <;> decide

theorem IsGrievanceBase.not_plain {base : String} (is : IsGrievanceBase base) :
    base ∉ plainIds := by
  rcases is with rfl | rfl <;> decide

theorem parseConfirmReply_tokenId {base : String} {token : Option String}
    (free : ':' ∉ base.toList) :
    (parseConfirmReply (some (tokenId base token))).base = some base := by
  have shape : tokenId base token =
      base ++ String.ofList [':'] ++ formatted token := rfl
  simp [parseConfirmReply, shape, Python.partition_append free]

theorem parseConfirmReply_plain {base : String} (plain : base ∈ plainIds) :
    (parseConfirmReply (some base)).base = some base := by
  simp only [plainIds, List.mem_cons, List.not_mem_nil, or_false] at plain
  rcases plain with rfl | rfl | rfl | rfl <;> decide

/-- A reply that parses with a token is the id of the card with that token. -/
theorem Replies.replyId {inbound : IncomingWhatsAppMessage}
    {base token : String} (replies : Replies inbound base (some token)) :
    inbound.replyId = some (tokenId base (some token)) := by
  obtain ⟨isBase, isToken⟩ := replies
  cases given : inbound.replyId with
  | none => simp [given, parseConfirmReply] at isBase
  | some replyId =>
      rw [given] at isBase isToken
      unfold parseConfirmReply at isBase isToken
      simp only at isBase isToken
      split at isBase
      · cases isBase
      · rename_i nonempty
        rw [if_neg nonempty] at isToken
        generalize parts : Python.partition ':' replyId = split
          at isBase isToken
        obtain ⟨before, found, after⟩ := split
        simp only at isBase isToken
        split at isToken
        · cases isToken
        · rename_i carries
          have whole := Python.eq_of_partition parts carries
          have sameBase : before = base := Option.some.inj isBase
          have sameToken : after = token := Option.some.inj isToken
          rw [whole, sameBase, sameToken]
          rfl

theorem Replies.missing {inbound : IncomingWhatsAppMessage}
    {base token id : String} {state : ConversationState} {context : Context}
    (replies : Replies inbound base (some token))
    (given : inbound.replyId = some id)
    (missing : id ∉ promptButtons state context) :
    tokenId base (some token) ∉ promptButtons state context := by
  have same := Option.some.inj (given.symm.trans replies.replyId)
  rwa [← same]

/-- An offered id whose base carries no token is that base. -/
theorem plain_of_offered {state : ConversationState} {context : Context}
    {id base : String} (offered : id ∈ promptButtons state context)
    (parsed : (parseConfirmReply (some id)).base = some base)
    (plain : base ∈ plainIds) : id = base := by
  have withToken : ∀ other token, ':' ∉ other.toList → other ∉ plainIds →
      id ≠ tokenId other token := by
    rintro other token free outside rfl
    rw [parseConfirmReply_tokenId free] at parsed
    exact outside (Option.some.inj parsed ▸ plain)
  have withoutToken : id ∈ plainIds → id = base := by
    intro isPlain
    rw [parseConfirmReply_plain isPlain] at parsed
    exact Option.some.inj parsed
  cases state <;> simp [promptButtons] at offered
  case confirmingLocation =>
    rcases offered with same | same
    · exact absurd same (withToken _ _ (by decide) (by decide))
    · exact absurd same (withToken _ _ (by decide) (by decide))
  case awaitingConfirmation =>
    rcases offered with same | same
    · exact absurd same (withToken _ _ (by decide) (by decide))
    · exact absurd same (withToken _ _ (by decide) (by decide))
  case awaitingIssue => exact withoutToken (offered ▸ by decide)
  case awaitingPhoto =>
    rcases offered with rfl | rfl
    · exact withoutToken (by decide)
    · exact withoutToken (by decide)
  case photoMismatch =>
    rcases offered with rfl | rfl
    · exact withoutToken (by decide)
    · exact withoutToken (by decide)

/-! ## Taps that do not belong to the current card -/

/-- A location tap with another token than the staged location's, a
confirmation tap with another token than the draft's, or an id that some step
offers, in whatever context, and the current one does not. -/
def StaleTap (state : ConversationState) (context : Context)
    (inbound : IncomingWhatsAppMessage) : Prop :=
  (∃ base token, IsLocationBase base ∧ Replies inbound base token ∧
    token ≠ context.location.sourceMessageId) ∨
  (∃ base token, IsGrievanceBase base ∧ Replies inbound base token ∧
    token ≠ context.draft.grievanceId) ∨
  (∃ id other elsewhere, inbound.replyId = some id ∧
    id ∈ promptButtons other elsewhere ∧ id ∉ promptButtons state context)

theorem StaleTap.plain {state : ConversationState} {context : Context}
    {inbound : IncomingWhatsAppMessage} {base : String}
    (stale : StaleTap state context inbound)
    (parsed : (parseConfirmReply inbound.replyId).base = some base)
    (plain : base ∈ plainIds) : base ∉ promptButtons state context := by
  rcases stale with
    ⟨other, token, isLocation, replies, _⟩ |
    ⟨other, token, isGrievance, replies, _⟩ |
    ⟨id, other, elsewhere, given, offered, missing⟩
  · have same : other = base := Option.some.inj (replies.1.symm.trans parsed)
    exact absurd plain (same ▸ isLocation.not_plain)
  · have same : other = base := Option.some.inj (replies.1.symm.trans parsed)
    exact absurd plain (same ▸ isGrievance.not_plain)
  · rw [given] at parsed
    rw [← plain_of_offered offered parsed plain]
    exact missing

theorem StaleTap.location {context : Context}
    {inbound : IncomingWhatsAppMessage} {base : String}
    (stale : StaleTap .confirmingLocation context inbound)
    (staged : context.location.sourceMessageId.isSome = true)
    (isLocation : IsLocationBase base) :
    ¬ Replies inbound base context.location.sourceMessageId := by
  intro replies
  obtain ⟨token, carries⟩ := Option.isSome_iff_exists.mp staged
  rcases stale with
    ⟨other, given, _, otherReplies, different⟩ |
    ⟨other, given, isGrievance, otherReplies, _⟩ |
    ⟨id, other, elsewhere, given, offered, missing⟩
  · exact different (otherReplies.2.symm.trans replies.2)
  · have same : other = base :=
      Option.some.inj (otherReplies.1.symm.trans replies.1)
    exact isLocation.not_grievance (same ▸ isGrievance)
  · rw [carries] at replies
    apply replies.missing given missing
    rw [← carries]
    rcases isLocation with rfl | rfl
    · simp [promptButtons]
    · simp [promptButtons]

theorem StaleTap.grievance {context : Context}
    {inbound : IncomingWhatsAppMessage} {base : String}
    (stale : StaleTap .awaitingConfirmation context inbound)
    (drafted : context.draft.grievanceId.isSome = true)
    (isGrievance : IsGrievanceBase base) :
    ¬ Replies inbound base context.draft.grievanceId := by
  intro replies
  obtain ⟨token, carries⟩ := Option.isSome_iff_exists.mp drafted
  rcases stale with
    ⟨other, given, isLocation, otherReplies, _⟩ |
    ⟨other, given, _, otherReplies, different⟩ |
    ⟨id, other, elsewhere, given, offered, missing⟩
  · have same : base = other :=
      Option.some.inj (replies.1.symm.trans otherReplies.1)
    exact isLocation.not_grievance (same ▸ isGrievance)
  · exact different (otherReplies.2.symm.trans replies.2)
  · rw [carries] at replies
    apply replies.missing given missing
    rw [← carries]
    rcases isGrievance with rfl | rfl
    · simp [promptButtons]
    · simp [promptButtons]

/-! ## What the current card carries -/

/-- The staged location has a token and an address to show, and a conversation
whose pipeline was started has a draft. -/
def Ready (state : Option ConversationState) (context : Context) : Prop :=
  match state with
  | some .confirmingLocation =>
      context.location.sourceMessageId.isSome = true ∧
        (stagedAddress context.location).isSome = true
  | some .processing | some .photoMismatch | some .awaitingConfirmation =>
      context.draft.grievanceId.isSome = true
  | some .expired => False
  | none | some .awaitingLocation | some .awaitingIssue
  | some .awaitingPhoto | some .done | some (.unknown _) => True

theorem stagedAddress_stageLocation {inbound : IncomingWhatsAppMessage}
    {geocode : Option ReverseGeocode} {address : String}
    (shown : addressText geocode inbound.locationLatitude
      inbound.locationLongitude = some address) :
    (stagedAddress (stageLocation inbound geocode)).isSome = true := by
  unfold addressText at shown
  simp only at shown
  unfold stagedAddress stageLocation
  simp only
  split at shown
  case isTrue named =>
    rw [if_pos named, shown]
    rfl
  case isFalse unnamed =>
    rw [if_neg unnamed]
    split
    · simp [shown]
    · rfl

theorem Turn.ready {inbound : IncomingWhatsAppMessage}
    {geocode : Option ReverseGeocode} {now : Time}
    {state : Option ConversationState} {context : Context}
    {result : FsmResult} {grievanceId : String}
    (turn : Turn inbound geocode now state context result.state
      result.context result.action)
    (ready : Ready state context) :
    Ready (some result.state) (storedContext result grievanceId) := by
  obtain ⟨after, next, intents, action, close⟩ := result
  simp only at turn
  cases turn with
  | greeted _ _ => trivial
  | staged _ _ shown => exact ⟨rfl, stagedAddress_stageLocation shown⟩
  | confirmed _ _ => trivial
  | rejected _ _ => trivial
  | described _ => trivial
  | issueDone _ _ => trivial
  | photoShared _ => rfl
  | photoSkipped _ _ => rfl
  | photoReplaced _ => exact ready
  | photoWaived _ => exact ready
  | finalized _ => trivial
  | cancelled _ => trivial
  | stayed _ _ => exact ready

def Dialogue.IsReady (dialogue : Dialogue) : Prop :=
  Ready dialogue.state (dialogue.context.getD defaultContext)

theorem isReady {dialogue : Dialogue}
    (reachable : dialogues.Reachable dialogue) : dialogue.IsReady := by
  refine reachable.invariant ?_ ?_
  · intro dialogue initial
    obtain rfl : dialogue = .start := initial
    trivial
  · intro dialogue step next _ ready _ taken
    rcases dialogues_step_cases taken with
      rfl |
      ⟨inbound, geocode, now, grievanceId, result, rfl, turn, rfl⟩ |
      ⟨mismatch, rfl, processing, rfl⟩
    · exact ready
    · exact turn.ready ready
    · have drafted : Ready (some .processing)
          (dialogue.context.getD defaultContext) := processing ▸ ready
      cases mismatch
      · exact drafted
      · exact drafted

/-- In a conversation that stands ready only a shared location can make
`advance` raise. -/
theorem advance_returns {state : Option ConversationState}
    {stored : Option Context} {inbound : IncomingWhatsAppMessage}
    (ready : Ready state (stored.getD defaultContext))
    (other : isLocation inbound = false) (waId : String)
    (geocode : Option ReverseGeocode) (now : Time) :
    ∃ result, advance waId state stored inbound geocode now =
      some result := by
  unfold advance
  simp only
  split
  case h_1 | h_2 => simp [advanceNew, other]
  case h_3 => simp [advanceAwaitingLocation, other]
  case h_4 =>
    obtain ⟨address, shown⟩ := Option.isSome_iff_exists.mp ready.2
    unfold advanceConfirmingLocation
    simp only [other, shown]
    split
    · simp at *
    · split
      · exact ⟨_, rfl⟩
      · split
        · exact ⟨_, rfl⟩
        · exact ⟨_, rfl⟩
  all_goals exact ⟨_, rfl⟩

theorem IncomingWhatsAppMessage.IsButtonReply.type_ne
    {inbound : IncomingWhatsAppMessage} (tap : inbound.IsButtonReply)
    {type : String} (interactive : "interactive" ≠ type)
    (button : "button" ≠ type) : inbound.messageType ≠ type := by
  rcases tap with same | same
  · rw [same]
    exact interactive
  · rw [same]
    exact button

/-- In every reachable state a stale tap leaves state and context as they are
and asks for nothing, and is answered at most with the prompt of the step. -/
theorem stale_taps_ignored {dialogue : Dialogue}
    (reachable : dialogues.Reachable dialogue) {state : ConversationState}
    {context : Context} (inState : dialogue.state = some state)
    (stored : dialogue.context = some context)
    {inbound : IncomingWhatsAppMessage} (tap : inbound.IsButtonReply)
    (stale : StaleTap state context inbound)
    (geocode : Option ReverseGeocode) (now : Time) :
    ∃ result, advance inbound.waId dialogue.state dialogue.context inbound
        geocode now = some result ∧
      result.state = state ∧ result.context = context ∧
      result.action = none ∧ result.close = false ∧
      Prompts state context result.intents := by
  have ready : Ready dialogue.state
      (dialogue.context.getD defaultContext) := isReady reachable
  have notLocation : isLocation inbound = false := by
    have other : inbound.messageType ≠ "location" :=
      tap.type_ne (by decide) (by decide)
    simp [isLocation, other]
  have noPhoto : isPhoto inbound = false := by
    have other : inbound.messageType ≠ "image" :=
      tap.type_ne (by decide) (by decide)
    simp [isPhoto, other]
  have noContent : inbound.messageType ∉ issueContentTypes := by
    rcases tap with same | same <;> rw [same] <;> decide
  obtain ⟨result, advanced⟩ :=
    advance_returns ready notLocation inbound.waId geocode now
  have prompts := advance_prompts advanced
  obtain ⟨turn, closing⟩ := advance_turn advanced
  rw [inState, stored] at turn ready
  rw [Option.getD_some] at turn ready
  refine ⟨result, advanced, ?_⟩
  clear advanced
  obtain ⟨after, next, intents, action, close⟩ := result
  simp only at turn closing prompts ⊢
  cases turn with
  | greeted fresh _ =>
      rcases fresh with none | expired
      · cases none
      · obtain rfl := Option.some.inj expired
        exact ready.elim
  | staged _ location _ => simp [notLocation] at location
  | confirmed _ replies =>
      exact absurd replies (stale.location ready.1 (.inl rfl))
  | rejected _ replies =>
      exact absurd replies (stale.location ready.1 (.inr rfl))
  | described accepts => exact absurd accepts.2 noContent
  | issueDone done _ =>
      have missing := stale.plain done (by decide)
      simp [promptButtons] at missing
  | photoShared photo => simp [noPhoto] at photo
  | photoSkipped _ skip =>
      have missing := stale.plain skip (by decide)
      simp [promptButtons] at missing
  | photoReplaced photo => simp [noPhoto] at photo
  | photoWaived waive =>
      have missing := stale.plain waive (by decide)
      simp [promptButtons] at missing
  | finalized replies =>
      exact absurd replies (stale.grievance ready (.inl rfl))
  | cancelled replies =>
      exact absurd replies (stale.grievance ready (.inr rfl))
  | stayed _ _ => exact ⟨rfl, rfl, rfl, closing, prompts⟩

/-- A Yes on the card of a location that was replaced, before the new one is
confirmed. -/
theorem stale_taps_ignored_replaced :
    ∃ dialogue context result, dialogues.Reachable dialogue ∧
      dialogue.state = some .confirmingLocation ∧
      dialogue.context = some context ∧
      advance "919876543210" dialogue.state dialogue.context
        (sampleTap "m4" "loc_confirm_yes:m2") none 0 = some result ∧
      result.state = .confirmingLocation ∧ result.context = context := by
  have observed : (dialogues.run .start (sampleUpToPhoto.take 3)).map
      (fun dialogue => (dialogue.state, dialogue.context.map fun context =>
        context.location.sourceMessageId)) =
      some (some .confirmingLocation, some (some "m3")) := by
    decide +kernel
  obtain ⟨dialogue, reachable, same⟩ :=
    Transition.System.reachable_of_run_map rfl observed
  simp only [Prod.mk.injEq] at same
  obtain ⟨inState, stores⟩ := same
  obtain ⟨context, stored, token⟩ := Option.map_eq_some_iff.mp stores
  have replies : Replies (sampleTap "m4" "loc_confirm_yes:m2")
      Copy.confirmYesId (some "m2") := by
    constructor <;> decide +kernel
  have stale : StaleTap .confirmingLocation context
      (sampleTap "m4" "loc_confirm_yes:m2") := by
    refine .inl ⟨_, _, .inl rfl, replies, ?_⟩
    rw [token]
    decide
  obtain ⟨result, advanced, sameState, sameContext, _⟩ :=
    stale_taps_ignored reachable inState stored (.inl rfl) stale none 0
  exact ⟨dialogue, context, result, reachable, inState, stored, advanced,
    sameState, sameContext⟩

end JanSetu.Whatsapp
