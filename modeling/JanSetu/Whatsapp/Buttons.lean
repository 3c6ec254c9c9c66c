import JanSetu.Whatsapp.Sessions

/-!
# What the buttons do

Every button of the last prompt is read by the state that it was sent for.
The photo button of the mismatch prompt has no branch of its own there, as it
has in the photo step, and brings back the prompt that it is on.
-/

namespace JanSetu.Whatsapp

/-- The citizen taps on the message: on one of its reply buttons, or on the
native button that shares a location. -/
def Taps (intent : OutboundIntent) (tap : IncomingWhatsAppMessage) : Prop :=
  match intent.payload with
  | .text _ _ => False
  | .locationRequest _ _ =>
      isLocation tap = true ∧ tap.locationLongitude.isSome = true
  | payload =>
      tap.IsButtonReply ∧ ∃ id ∈ payload.buttonIds, tap.replyId = some id

/-- Nothing comes of it but the same state, context and prompt. -/
def Reproduces (state : ConversationState) (context : Context)
    (intent : OutboundIntent) (result : FsmResult) : Prop :=
  result.state = state ∧ result.context = context ∧
    result.action = none ∧ result.intents = [intent]

theorem replies_tokenId {tap : IncomingWhatsAppMessage}
    {base token : String} (tapped : tap.replyId = some (tokenId base token))
    (free : ':' ∉ base.toList) (named : token ≠ "") :
    Replies tap base (some token) := by
  have shape : tokenId base (some token) =
      base ++ String.ofList [':'] ++ token := rfl
  unfold Replies
  rw [tapped]
  constructor
  · exact parseConfirmReply_tokenId free
  · simp [parseConfirmReply, shape, Python.partition_append free, named]

section

variable {tap : IncomingWhatsAppMessage}

theorem IncomingWhatsAppMessage.IsButtonReply.not_location
    (reply : tap.IsButtonReply) : isLocation tap = false := by
  have other : tap.messageType ≠ "location" :=
    reply.type_ne (by decide) (by decide)
  simp [isLocation, other]

theorem IncomingWhatsAppMessage.IsButtonReply.not_photo
    (reply : tap.IsButtonReply) : isPhoto tap = false := by
  have other : tap.messageType ≠ "image" :=
    reply.type_ne (by decide) (by decide)
  simp [isPhoto, other]

/-- A tap on a card with two buttons is a reply with one of the two ids. -/
theorem tapped_one {intent : OutboundIntent} {first second : String}
    (two : intent.payload.buttonIds = [first, second])
    (taps : Taps intent tap) :
    tap.IsButtonReply ∧
      (tap.replyId = some first ∨ tap.replyId = some second) := by
  have tapped : tap.IsButtonReply ∧
      ∃ id ∈ intent.payload.buttonIds, tap.replyId = some id := by
    unfold Taps at taps
    split at taps
    · exact taps.elim
    · rename_i location
      rw [location] at two
      cases two
    · exact taps
  obtain ⟨reply, id, offered, tapped⟩ := tapped
  simp only [two, List.mem_cons, List.not_mem_nil, or_false] at offered
  rcases offered with rfl | rfl
  · exact ⟨reply, .inl tapped⟩
  · exact ⟨reply, .inr tapped⟩

end

/-! ## One tap in each state -/

section

variable {waId : String} {context : Context} {tap : IncomingWhatsAppMessage}
  {geocode : Option ReverseGeocode} {now : Time}

/-- There is an address to show for any pair of coordinates. -/
theorem addressText_pair (geocode : Option ReverseGeocode) (lat lon : ℚ) :
    ∃ address, addressText geocode (some lat) (some lon) = some address := by
  unfold addressText
  simp only
  split
  case isTrue truthy =>
    cases display : geocode.bind ReverseGeocode.displayAddress with
    | none => simp [display, Python.truthy] at truthy
    | some address => exact ⟨address, rfl⟩
  case isFalse => exact ⟨_, rfl⟩

theorem tap_location (location : isLocation tap = true)
    (paired : tap.locationLongitude.isSome = true) :
    ∃ result, advanceAwaitingLocation waId context tap geocode = some result ∧
      result.state = .confirmingLocation := by
  obtain ⟨lon, lonAt⟩ := Option.isSome_iff_exists.mp paired
  have latitude : tap.locationLatitude.isSome = true := by
    have both := location
    rw [isLocation, Bool.and_eq_true] at both
    exact both.2
  obtain ⟨lat, latAt⟩ := Option.isSome_iff_exists.mp latitude
  obtain ⟨address, shown⟩ := addressText_pair geocode lat lon
  rw [← latAt, ← lonAt] at shown
  unfold advanceAwaitingLocation stageLocationAndConfirm
  rw [if_pos location, shown]
  exact ⟨_, rfl, rfl⟩

theorem tap_card {token : String}
    (staged : context.location.sourceMessageId = some token)
    (reply : tap.IsButtonReply)
    (one : Replies tap Copy.confirmYesId (some token) ∨
      Replies tap Copy.confirmNoId (some token)) :
    ∃ result, advanceConfirmingLocation waId context tap geocode now =
        some result ∧ result.state ≠ .confirmingLocation := by
  unfold advanceConfirmingLocation
  rw [if_neg (by simp [reply.not_location]), staged]
  simp only
  rcases one with ⟨base, isToken⟩ | ⟨base, isToken⟩
  · rw [if_pos ⟨isToken, base⟩]
    exact ⟨_, rfl, by simp⟩
  · have notYes : Copy.confirmNoId ≠ Copy.confirmYesId := by decide
    rw [if_neg (by simp [base, notYes]), if_pos ⟨isToken, base⟩]
    exact ⟨_, rfl, by simp⟩

theorem tap_issueDone (tapped : tap.replyId = some Copy.issueDoneId) :
    (advanceAwaitingIssue waId context tap).state ≠ .awaitingIssue ∨
      (advanceAwaitingIssue waId context tap).intents ≠
        [askIssueIntent waId] := by
  have base : (parseConfirmReply tap.replyId).base =
      some Copy.issueDoneId := by
    rw [tapped]
    decide
  unfold advanceAwaitingIssue
  simp only
  rw [if_pos base]
  split
  · exact .inr (by simp [textIntent, askIssueIntent, buttonsIntent])
  · exact .inl (by simp)

theorem tap_photo {body kind : String} (reply : tap.IsButtonReply)
    (one : tap.replyId = some Copy.photoShareId ∨
      tap.replyId = some Copy.photoSkipId) :
    (advanceAwaitingPhoto waId context tap).state ≠ .awaitingPhoto ∨
      (advanceAwaitingPhoto waId context tap).intents ≠
        [photoPromptIntent waId body kind] := by
  unfold advanceAwaitingPhoto
  simp only
  rw [if_neg (by simp [reply.not_photo])]
  rcases one with tapped | tapped
  · have base : (parseConfirmReply tap.replyId).base =
        some Copy.photoShareId := by
      rw [tapped]
      decide
    have notSkip : Copy.photoShareId ≠ Copy.photoSkipId := by decide
    rw [if_neg (by simp [base, notSkip]), if_pos base]
    exact .inr (by simp [textIntent, photoPromptIntent, buttonsIntent])
  · have base : (parseConfirmReply tap.replyId).base =
        some Copy.photoSkipId := by
      rw [tapped]
      decide
    rw [if_pos base]
    exact .inl (by simp)

/-- The photo button of the mismatch prompt brings the prompt back, the other
one goes on without a photo. -/
theorem tap_mismatch (reply : tap.IsButtonReply)
    (one : tap.replyId = some Copy.photoShareId ∨
      tap.replyId = some photoContinueId) :
    Reproduces .photoMismatch context (mismatchPromptIntent waId none)
        (advancePhotoMismatch waId context tap) ↔
      tap.replyId = some Copy.photoShareId := by
  unfold advancePhotoMismatch
  simp only
  rw [if_neg (by simp [reply.not_photo])]
  have apart : photoContinueId ≠ Copy.photoShareId := by decide
  rcases one with tapped | tapped
  · have base : (parseConfirmReply tap.replyId).base =
        some Copy.photoShareId := by
      rw [tapped]
      decide
    rw [if_neg (by simp [base, apart.symm])]
    exact iff_of_true ⟨rfl, rfl, rfl, rfl⟩ tapped
  · have base : (parseConfirmReply tap.replyId).base =
        some photoContinueId := by
      rw [tapped]
      decide
    rw [if_pos base]
    refine iff_of_false ?_ (by simp [tapped, apart])
    rintro ⟨state, _⟩
    cases state

theorem tap_confirmation {id : String}
    (drafted : context.draft.grievanceId = some id)
    (one : Replies tap confirmGrvYesId (some id) ∨
      Replies tap confirmGrvNoId (some id)) :
    (advanceAwaitingConfirmation context tap).state = .done := by
  unfold advanceAwaitingConfirmation
  simp only
  rw [drafted]
  rcases one with ⟨base, isToken⟩ | ⟨base, isToken⟩
  · rw [if_pos ⟨isToken, base⟩]
  · have notYes : confirmGrvNoId ≠ confirmGrvYesId := by decide
    rw [if_neg (by simp [base, notYes]), if_pos ⟨isToken, base⟩]

end

/-- A tap on any button of the last prompt of a reachable session does
something, unless it is the photo button of the mismatch prompt. -/
theorem offered_tap_does_something_iff {waId : String} {session : Session}
    (reachable : (sessions waId).Reachable session) {intent : OutboundIntent}
    (last : session.prompt = some intent) {tap : IncomingWhatsAppMessage}
    (own : tap.waId = waId) (taps : Taps intent tap)
    (geocode : Option ReverseGeocode) (now : Time) :
    ∃ state result, session.dialogue.state = some state ∧
      advance tap.waId session.dialogue.state session.dialogue.context tap
        geocode now = some result ∧
      (¬ Reproduces state session.context intent result ↔
        ¬ (state = .photoMismatch ∧
          tap.replyId = some Copy.photoShareId)) := by
  obtain ⟨state, inState, offered⟩ := isPrompted reachable intent last
  have grounded := isGrounded reachable
  unfold Session.IsGrounded at grounded
  rw [inState] at grounded
  rw [own, inState]
  cases offered with
  | location =>
      obtain ⟨location, paired⟩ := taps
      obtain ⟨result, advanced, next⟩ := tap_location location paired
      refine ⟨_, result, rfl, advanced, iff_of_true ?_ (by simp)⟩
      rintro ⟨same, _⟩
      rw [next] at same
      cases same
  | card =>
      obtain ⟨token, staged, named⟩ := grounded
      obtain ⟨reply, one⟩ := tapped_one rfl taps
      rw [staged] at one
      obtain ⟨result, advanced, next⟩ := tap_card staged reply
        (one.imp (replies_tokenId · (by decide) named)
          (replies_tokenId · (by decide) named))
      refine ⟨_, result, rfl, advanced, iff_of_true ?_ (by simp)⟩
      rintro ⟨same, _⟩
      exact next same
  | issue =>
      obtain ⟨_, id, offered, tapped⟩ := taps
      obtain rfl := List.mem_singleton.mp offered
      refine ⟨_, _, rfl, rfl, iff_of_true ?_ (by simp)⟩
      rintro ⟨same, _, _, intents⟩
      rcases tap_issueDone tapped with other | other
      · exact other same
      · exact other intents
  | photo =>
      obtain ⟨reply, one⟩ := tapped_one rfl taps
      refine ⟨_, _, rfl, rfl, iff_of_true ?_ (by simp)⟩
      rintro ⟨same, _, _, intents⟩
      rcases tap_photo reply one with other | other
      · exact other same
      · exact other intents
  | mismatch =>
      obtain ⟨reply, one⟩ := tapped_one rfl taps
      refine ⟨_, _, rfl, rfl, ?_⟩
      rw [← Session.context, tap_mismatch reply one]
      simp
  | @confirmation headerMediaId body =>
      obtain ⟨id, drafted, _, named⟩ := grounded
      rw [drafted] at taps
      have one : tap.replyId = some (tokenId confirmGrvYesId (some id)) ∨
          tap.replyId = some (tokenId confirmGrvNoId (some id)) := by
        cases headerMediaId with
        | none => exact (tapped_one rfl taps).2
        | some headerMediaId => exact (tapped_one rfl taps).2
      have next := tap_confirmation drafted
        (one.imp (replies_tokenId · (by decide) named)
          (replies_tokenId · (by decide) named))
      refine ⟨_, _, rfl, rfl, iff_of_true ?_ (by simp)⟩
      rintro ⟨same, _⟩
      rw [← Session.context, next] at same
      cases same

def DialogueStep.inSession : DialogueStep → SessionStep
  | .receive inbound geocode now grievanceId =>
      .receive inbound geocode now grievanceId
  | .followUp mismatch => .followUp mismatch none ""

/-- A session whose first photo does not match. -/
def sampleMismatch : List SessionStep :=
  (sampleUpToPhoto ++
    [sampleReceive (sampleImage "m8" "photo1"), .followUp true]).map
      DialogueStep.inSession

theorem sampleMismatch_reached :
    ∃ session, (sessions "919876543210").Reachable session ∧
      session.dialogue.state = some .photoMismatch ∧
      session.prompt = some (mismatchPromptIntent "919876543210" none) := by
  have observed : ((sessions "919876543210").run .start sampleMismatch).map
      (fun session => (session.dialogue.state, session.prompt)) =
        some (some .photoMismatch,
          some (mismatchPromptIntent "919876543210" none)) := by
    decide +kernel
  obtain ⟨session, reachable, same⟩ :=
    Transition.System.reachable_of_run_map rfl observed
  simp only [Prod.mk.injEq] at same
  exact ⟨session, reachable, same⟩

theorem offered_tap_continues :
    ∃ session result, (sessions "919876543210").Reachable session ∧
      session.dialogue.state = some .photoMismatch ∧
      advance "919876543210" session.dialogue.state session.dialogue.context
        (sampleTap "m9" "photo_continue") none 0 = some result ∧
      ¬ Reproduces .photoMismatch session.context
        (mismatchPromptIntent "919876543210" none) result := by
  obtain ⟨session, reachable, inState, last⟩ := sampleMismatch_reached
  have taps : Taps (mismatchPromptIntent "919876543210" none)
      (sampleTap "m9" "photo_continue") :=
    ⟨.inl rfl, photoContinueId, .tail _ (.head _), rfl⟩
  obtain ⟨state, result, same, advanced, does⟩ :=
    offered_tap_does_something_iff reachable last rfl taps none 0
  cases inState.symm.trans same
  refine ⟨session, result, reachable, inState, advanced, does.mpr ?_⟩
  rintro ⟨_, tapped⟩
  revert tapped
  decide

/-- The photo button of the mismatch prompt brings the prompt back. -/
theorem mismatch_photo_button_dead :
    ∃ session result, (sessions "919876543210").Reachable session ∧
      session.prompt = some (mismatchPromptIntent "919876543210" none) ∧
      Taps (mismatchPromptIntent "919876543210" none)
        (sampleTap "m9" "photo_share") ∧
      advance "919876543210" session.dialogue.state session.dialogue.context
        (sampleTap "m9" "photo_share") none 0 = some result ∧
      Reproduces .photoMismatch session.context
        (mismatchPromptIntent "919876543210" none) result := by
  obtain ⟨session, reachable, inState, last⟩ := sampleMismatch_reached
  have taps : Taps (mismatchPromptIntent "919876543210" none)
      (sampleTap "m9" "photo_share") :=
    ⟨.inl rfl, Copy.photoShareId, .head _, rfl⟩
  have tapped : (sampleTap "m9" "photo_share").replyId =
      some Copy.photoShareId := rfl
  have back : Reproduces .photoMismatch session.context
      (mismatchPromptIntent "919876543210" none)
      (advancePhotoMismatch "919876543210" session.context
        (sampleTap "m9" "photo_share")) :=
    (tap_mismatch (.inl rfl) (.inl tapped)).mpr tapped
  refine ⟨session, _, reachable, last, taps, ?_, back⟩
  rw [inState]
  rfl

end JanSetu.Whatsapp
