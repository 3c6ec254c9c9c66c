import JanSetu.Pipeline.Degrade
import JanSetu.Whatsapp.Processing
import JanSetu.Whatsapp.Turns

/-!
# The limits of interactive messages

WhatsApp rejects a message whose body, titles, ids or number of buttons are
beyond its limits.  The fixed parts of every prompt are within them; the
address, the summary of the complaint and the tokens have no bound.
-/

namespace JanSetu.Whatsapp

/-- The body of an interactive message. -/
def Payload.interactiveBody : Payload → Option String
  | .text _ _ => none
  | .locationRequest _ body => some body
  | .replyButtons _ body _ => some body
  | .documentButton _ _ _ body _ => some body

def Payload.buttons : Payload → List Button
  | .text _ _ => []
  | .locationRequest _ _ => []
  | .replyButtons _ _ buttons => buttons
  | .documentButton _ _ _ _ buttons => buttons

structure Button.Fits (button : Button) : Prop where
  title : button.2.length ≤ 20
  id : button.1.length ≤ 256

structure Payload.Fits (payload : Payload) : Prop where
  body : ∀ body, payload.interactiveBody = some body → body.length ≤ 1024
  three : payload.buttons.length ≤ 3
  buttons : ∀ button ∈ payload.buttons, Button.Fits button

def Fitting (intents : List OutboundIntent) : Prop :=
  ∀ intent ∈ intents, intent.payload.Fits

/-! ## Lengths of the copy -/

theorem length_of_spelled {text : String} {chars : List Char}
    (spelled : String.ofList chars = text) : text.length = chars.length := by
  rw [← spelled, String.length_ofList]

theorem spelled_append {left right : String} {chars others : List Char}
    (first : String.ofList chars = left)
    (second : String.ofList others = right) :
    String.ofList (chars ++ others) = left ++ right := by
  rw [← first, ← second, String.ofList_append]

theorem length_twice (before between text : String) :
    (before ++ text ++ between ++ text).length =
      (before ++ between).length + 2 * text.length := by
  simp only [String.length_append]
  omega

section

-- The characters of a literal are matched one by one.
set_option maxRecDepth 4000

theorem length_greeting : (Copy.greeting ++ "\n\n").length = 168 :=
  length_of_spelled
    (spelled_append (spelled_append (spelled_append rfl rfl) rfl) rfl)

theorem length_locationRequest : Copy.locationRequest.length = 114 :=
  length_of_spelled (spelled_append rfl rfl)

theorem length_locationReprompt : Copy.locationReprompt.length = 162 :=
  length_of_spelled (spelled_append (spelled_append rfl rfl) rfl)

theorem length_confirmLocation (address : String) :
    (Copy.confirmLocation address).length = 64 + 2 * address.length := by
  unfold Copy.confirmLocation
  rw [length_twice]
  exact congrArg (· + 2 * address.length)
    (length_of_spelled (spelled_append rfl rfl))

theorem length_askIssue : Copy.askIssue.length = 161 :=
  length_of_spelled (spelled_append (spelled_append rfl rfl) rfl)

theorem length_photoPrompt : Copy.photoPrompt.length = 180 :=
  length_of_spelled
    (spelled_append (spelled_append (spelled_append rfl rfl) rfl) rfl)

theorem length_issueReceived :
    (Copy.issueReceived ++ "\n\n" ++ Copy.photoPrompt).length = 242 := by
  rw [String.length_append, length_photoPrompt]
  exact congrArg (· + 180) (length_of_spelled (spelled_append rfl rfl))

theorem length_imageMismatchPrompt (note : String) :
    (Copy.imageMismatchPrompt note).length = 209 + 2 * note.length := by
  unfold Copy.imageMismatchPrompt
  rw [@String.append_assoc (_ ++ note), length_twice]
  exact congrArg (· + 2 * note.length)
    (length_of_spelled
      (spelled_append (spelled_append rfl rfl) (spelled_append rfl rfl)))

theorem length_pdfConfirm (summary : String) :
    (Copy.pdfConfirm summary).length = 189 + summary.length := by
  unfold Copy.pdfConfirm
  rw [String.length_append]
  exact congrArg (· + summary.length)
    (length_of_spelled
      (spelled_append (spelled_append (spelled_append rfl rfl) rfl) rfl))

end

theorem length_tokenId (base : String) (token : Option String) :
    (tokenId base token).length =
      base.length + 1 + (formatted token).length := by
  unfold tokenId
  rw [String.length_append, String.length_append]
  rfl

/-! ## One prompt -/

section

variable {waId body : String}

theorem fits_text {kind : String} :
    (textIntent waId body kind).payload.Fits :=
  { body := nofun
    three := Nat.zero_le _
    buttons := by simp [textIntent, Payload.buttons] }

theorem fits_locationRequest {kind : String} (short : body.length ≤ 1024) :
    (locationRequestIntent waId body kind).payload.Fits := by
  refine ⟨?_, Nat.zero_le _, ?_⟩
  · rintro other same
    cases same
    exact short
  · simp [locationRequestIntent, Payload.buttons]

theorem fits_replyButtons {buttons : List Button} :
    (Payload.replyButtons waId body buttons).Fits ↔
      body.length ≤ 1024 ∧ buttons.length ≤ 3 ∧
        ∀ button ∈ buttons, Button.Fits button := by
  constructor
  · rintro ⟨short, three, each⟩
    exact ⟨short body rfl, three, each⟩
  · rintro ⟨short, three, each⟩
    refine ⟨?_, three, each⟩
    rintro other same
    cases same
    exact short

theorem fits_documentButton {mediaId filename : String}
    {buttons : List Button} :
    (Payload.documentButton waId mediaId filename body buttons).Fits ↔
      (Payload.replyButtons waId body buttons).Fits := by
  constructor
  · rintro ⟨short, three, each⟩
    exact ⟨short, three, each⟩
  · rintro ⟨short, three, each⟩
    exact ⟨short, three, each⟩

end

/-- Two buttons whose ids carry a token. -/
theorem fits_tokenButtons {waId body yesId yesTitle noId noTitle : String}
    {token : Option String} (yesFits : yesTitle.length ≤ 20)
    (noFits : noTitle.length ≤ 20) (longer : noId.length ≤ yesId.length) :
    (Payload.replyButtons waId body
        [(tokenId yesId token, yesTitle), (tokenId noId token, noTitle)]).Fits ↔
      body.length ≤ 1024 ∧
        yesId.length + 1 + (formatted token).length ≤ 256 := by
  rw [fits_replyButtons]
  constructor
  · rintro ⟨short, _, each⟩
    have id : (tokenId yesId token).length ≤ 256 := (each _ (.head _)).id
    rw [length_tokenId] at id
    exact ⟨short, id⟩
  · rintro ⟨short, id⟩
    refine ⟨short, Nat.le_succ 2, ?_⟩
    simp only [List.mem_cons, List.not_mem_nil, or_false]
    rintro button (rfl | rfl)
    · refine ⟨yesFits, ?_⟩
      rw [length_tokenId]
      exact id
    · refine ⟨noFits, ?_⟩
      rw [length_tokenId]
      omega

/-- Two buttons whose ids are fixed. -/
theorem fits_plainButtons {waId body : String} {first second : Button}
    (firstFits : first.Fits) (secondFits : second.Fits) :
    (Payload.replyButtons waId body [first, second]).Fits ↔
      body.length ≤ 1024 := by
  rw [fits_replyButtons]
  refine ⟨And.left, fun short => ⟨short, Nat.le_succ 2, ?_⟩⟩
  simp only [List.mem_cons, List.not_mem_nil, or_false]
  rintro button (rfl | rfl)
  · exact firstFits
  · exact secondFits

/-! ## The cards -/

/-- A location card with its address twice in the body, after what is put
before it, and its token in both ids. -/
def CardFits (bodyPrefix address : String) (token : Option String) : Prop :=
  bodyPrefix.length + 64 + 2 * address.length ≤ 1024 ∧
    (formatted token).length ≤ 240

theorem fits_confirmLocation {waId bodyPrefix address : String}
    {token : Option String} :
    (confirmLocationIntent waId (bodyPrefix ++ Copy.confirmLocation address)
        token).payload.Fits ↔ CardFits bodyPrefix address token := by
  have base : Copy.confirmYesId.length = 15 := by decide
  unfold confirmLocationIntent confirmLocationButtons CardFits
  rw [fits_tokenButtons (by decide) (by decide)
    (by decide), String.length_append, length_confirmLocation, base]
  omega

theorem fits_askIssue {waId : String} :
    (askIssueIntent waId).payload.Fits := by
  refine fits_replyButtons.mpr
    ⟨length_askIssue.trans_le (by decide), by decide, ?_⟩
  simp only [List.mem_singleton, forall_eq]
  exact ⟨by decide, by decide⟩

theorem fits_photoPrompt {waId body kind : String}
    (short : body.length ≤ 1024) :
    (photoPromptIntent waId body kind).payload.Fits :=
  (fits_plainButtons ⟨by decide, by decide⟩
    ⟨by decide, by decide⟩).mpr short

theorem fits_mismatchPrompt {waId : String} {note : Option String} :
    (mismatchPromptIntent waId note).payload.Fits ↔
      209 + 2 * (note.getD "").length ≤ 1024 := by
  unfold mismatchPromptIntent buttonsIntent
  rw [fits_plainButtons ⟨by decide, by decide⟩
    ⟨by decide, by decide⟩, length_imageMismatchPrompt]

theorem fits_confirmation {waId draftId body : String}
    {headerMediaId : Option String} :
    (buildConfirmationIntent waId draftId headerMediaId body).payload.Fits ↔
      body.length ≤ 1024 ∧ draftId.length ≤ 244 := by
  have base : confirmGrvYesId.length = 11 := by decide
  have plain : (buildConfirmationIntent waId draftId headerMediaId
        body).payload.Fits ↔
      (Payload.replyButtons waId body
        [(tokenId confirmGrvYesId (some draftId), Copy.confirmGrvYesTitle),
          (tokenId confirmGrvNoId (some draftId),
            Copy.confirmGrvNoTitle)]).Fits := by
    cases headerMediaId with
    | none => exact Iff.rfl
    | some headerMediaId => exact fits_documentButton
  rw [plain, fits_tokenButtons (by decide) (by decide)
    (by decide), base]
  simp only [formatted]
  omega

/-- The fields of a grievance that its summary shows, in characters. -/
def shownLength (grievance : Grievance) : Nat :=
  let department :=
    departmentForCategory (textOr grievance.category "other")
  let priority := if grievance.priority = some .priority then 8 else 6
  (categoryOrDefault grievance.category).label.length +
    ((department.map (·.name)).getD "").length + priority +
    (textOr grievance.locationAddress "unresolved").length +
    (textOr grievance.issueText "(no description)").length

theorem length_renderConfirmationSummary (grievance : Grievance) :
    (renderConfirmationSummary grievance).length =
      28 + shownLength grievance := by
  have arrow : " -> ".length = 4 := by decide
  have priority : "\nPriority: ".length = 11 := by decide
  have location : "\nLocation: ".length = 11 := by decide
  have lines : "\n\n".length = 2 := by decide
  have high : "priority".length = 8 := by decide
  have normal : "normal".length = 6 := by decide
  unfold renderConfirmationSummary shownLength
  simp only [String.length_append, arrow, priority, location, lines]
  split
  case h_1 same =>
    rw [high, if_pos same]
    omega
  case h_2 other =>
    rw [normal, if_neg other]
    omega

/-! ## The state machine -/

/-- The location card that the message is answered with, if any, is within the
limits: of the shared location, or of the staged one when it is shown again. -/
def LocationCardFits (state : Option ConversationState) (context : Context)
    (inbound : IncomingWhatsAppMessage) (geocode : Option ReverseGeocode) :
    Prop :=
  let shared := fun bodyPrefix => ∀ address,
    addressText geocode inbound.locationLatitude inbound.locationLongitude =
      some address →
    CardFits bodyPrefix address (some inbound.metaMessageId)
  let staged := context.location.sourceMessageId
  match state with
  | none | some .expired =>
      isLocation inbound = true → shared (Copy.greeting ++ "\n\n")
  | some .awaitingLocation => isLocation inbound = true → shared ""
  | some .confirmingLocation =>
      if isLocation inbound then shared ""
      else
        ¬ Replies inbound Copy.confirmYesId staged →
        ¬ Replies inbound Copy.confirmNoId staged →
        ∀ address, stagedAddress context.location = some address →
          CardFits "" address staged
  | _ => True

section

variable {waId bodyPrefix : String} {inbound : IncomingWhatsAppMessage}
  {geocode : Option ReverseGeocode} {now : Time} {context : Context}
  {result : FsmResult}

theorem fitting_nil : Fitting [] := by
  simp [Fitting]

theorem fitting_singleton {intent : OutboundIntent} :
    Fitting [intent] ↔ intent.payload.Fits := by
  simp [Fitting]

theorem stageLocationAndConfirm_fits
    (staged : stageLocationAndConfirm waId context inbound geocode
      bodyPrefix = some result) :
    Fitting result.intents ↔ ∀ address,
      addressText geocode inbound.locationLatitude
        inbound.locationLongitude = some address →
      CardFits bodyPrefix address (some inbound.metaMessageId) := by
  unfold stageLocationAndConfirm at staged
  split at staged
  case h_1 => cases staged
  case h_2 address found =>
    obtain rfl := Option.some.inj staged
    rw [fitting_singleton, fits_confirmLocation, found]
    simp

theorem fits_greeting {kind : String} :
    (locationRequestIntent waId
      (Copy.greeting ++ "\n\n" ++ Copy.locationRequest) kind).payload.Fits := by
  refine fits_locationRequest ?_
  rw [String.length_append, length_greeting, length_locationRequest]
  decide

theorem advance_fits {state : Option ConversationState}
    {stored : Option Context}
    (advanced : advance waId state stored inbound geocode now =
      some result) :
    Fitting result.intents ↔
      LocationCardFits state (stored.getD defaultContext) inbound geocode := by
  unfold advance at advanced
  unfold LocationCardFits
  simp only at advanced ⊢
  split at advanced
  case h_1 | h_2 =>
    unfold advanceNew at advanced
    simp only at advanced
    split at advanced
    case isTrue location =>
      simp only [location, true_imp_iff]
      exact stageLocationAndConfirm_fits advanced
    case isFalse other =>
      obtain rfl := Option.some.inj advanced
      refine iff_of_true ?_ fun location => absurd location other
      exact fitting_singleton.mpr fits_greeting
  case h_3 =>
    unfold advanceAwaitingLocation at advanced
    split at advanced
    case isTrue location =>
      simp only [location, true_imp_iff]
      exact stageLocationAndConfirm_fits advanced
    case isFalse other =>
      obtain rfl := Option.some.inj advanced
      refine iff_of_true ?_ fun location => absurd location other
      exact fitting_singleton.mpr
        (fits_locationRequest (length_locationReprompt.trans_le (by decide)))
  case h_4 =>
    unfold advanceConfirmingLocation at advanced
    simp only at advanced
    split at advanced
    case isTrue location =>
      rw [if_pos location]
      exact stageLocationAndConfirm_fits advanced
    case isFalse other =>
      rw [if_neg other]
      split at advanced
      case isTrue yes =>
        obtain rfl := Option.some.inj advanced
        refine iff_of_true (fitting_singleton.mpr fits_askIssue) ?_
        exact fun noYes => absurd ⟨yes.2, yes.1⟩ noYes
      case isFalse noYes =>
        split at advanced
        case isTrue no =>
          obtain rfl := Option.some.inj advanced
          refine iff_of_true ?_ fun _ noNo => absurd ⟨no.2, no.1⟩ noNo
          exact fitting_singleton.mpr (fits_locationRequest
            (length_locationRequest.trans_le (by decide)))
        case isFalse noNo =>
          split at advanced
          case h_1 => cases advanced
          case h_2 address shown =>
            obtain rfl := Option.some.inj advanced
            have noYes' : ¬ Replies inbound Copy.confirmYesId
                (stored.getD defaultContext).location.sourceMessageId :=
              fun yes => noYes ⟨yes.2, yes.1⟩
            have noNo' : ¬ Replies inbound Copy.confirmNoId
                (stored.getD defaultContext).location.sourceMessageId :=
              fun no => noNo ⟨no.2, no.1⟩
            simp only [noYes', noNo', not_false_iff, true_imp_iff, shown,
              Option.some.injEq, forall_eq']
            rw [fitting_singleton, ← fits_confirmLocation, String.empty_append]
  case h_5 =>
    obtain rfl := Option.some.inj advanced
    refine iff_of_true ?_ trivial
    unfold advanceAwaitingIssue
    simp only
    split
    · split
      · exact fitting_singleton.mpr fits_text
      · exact fitting_singleton.mpr
          (fits_photoPrompt (length_issueReceived.trans_le (by decide)))
    · split
      · exact fitting_nil
      · exact fitting_nil
  case h_6 =>
    obtain rfl := Option.some.inj advanced
    refine iff_of_true ?_ trivial
    unfold advanceAwaitingPhoto
    simp only
    split
    · exact fitting_singleton.mpr fits_text
    · split
      · exact fitting_singleton.mpr fits_text
      · split
        · exact fitting_singleton.mpr fits_text
        · exact fitting_singleton.mpr
            (fits_photoPrompt (length_photoPrompt.trans_le (by decide)))
  case h_7 =>
    obtain rfl := Option.some.inj advanced
    exact iff_of_true (fitting_singleton.mpr fits_text) trivial
  case h_8 =>
    obtain rfl := Option.some.inj advanced
    refine iff_of_true ?_ trivial
    unfold advancePhotoMismatch
    simp only
    split
    · exact fitting_singleton.mpr fits_text
    · split
      · exact fitting_singleton.mpr fits_text
      · exact fitting_singleton.mpr (fits_mismatchPrompt.mpr (by decide))
  case h_9 =>
    obtain rfl := Option.some.inj advanced
    refine iff_of_true ?_ trivial
    unfold advanceAwaitingConfirmation
    simp only
    split
    · exact fitting_nil
    · split
      · exact fitting_nil
      · exact fitting_nil
  case h_10 | h_11 =>
    obtain rfl := Option.some.inj advanced
    exact iff_of_true fitting_nil trivial

/-- A prompt of the state machine fits exactly when a location card among them
does, the mismatch prompt when its note is short, and the confirmation card
when the fields of the grievance and its id are. -/
theorem prompts_fit_iff {state : Option ConversationState}
    {stored : Option Context}
    (advanced : advance waId state stored inbound geocode now = some result)
    (note headerMediaId : Option String) (draftId : String)
    (grievance : Grievance) :
    (Fitting result.intents ↔
      LocationCardFits state (stored.getD defaultContext) inbound geocode) ∧
    ((buildMismatchIntent waId note).payload.Fits ↔
      209 + 2 * (note.getD "").length ≤ 1024) ∧
    ((buildConfirmationIntent waId draftId headerMediaId
        (Copy.pdfConfirm (renderConfirmationSummary
          grievance))).payload.Fits ↔
      217 + shownLength grievance ≤ 1024 ∧ draftId.length ≤ 244) := by
  refine ⟨advance_fits advanced, fits_mismatchPrompt, ?_⟩
  rw [fits_confirmation, length_pdfConfirm, length_renderConfirmationSummary]
  omega

end

def sampleGeocode : ReverseGeocode :=
  { status := "ok", displayAddress := some "Ward 12" }

theorem prompts_fit_shared :
    ∃ result, advance "919876543210" (some .awaitingLocation) none
        (sampleLocation "m2" 28 77) (some sampleGeocode) 0 = some result ∧
      Fitting result.intents := by
  obtain ⟨result, advanced⟩ : ∃ result, advance "919876543210"
      (some .awaitingLocation) none (sampleLocation "m2" 28 77)
      (some sampleGeocode) 0 = some result := ⟨_, rfl⟩
  refine ⟨result, advanced, (prompts_fit_iff advanced none none ""
    Pipeline.Degrade.potholeDraft).1.mpr ?_⟩
  have place : addressText (some sampleGeocode) (some 28) (some 77) =
      some "Ward 12" := by
    decide
  intro _ address shown
  obtain rfl := Option.some.inj (shown.symm.trans place)
  have name : "Ward 12".length = 7 := length_of_spelled rfl
  have token : (formatted (some "m2")).length = 2 := length_of_spelled rfl
  constructor
  · rw [name]
    decide
  · rw [sampleLocation, sampleMessage, token]
    decide

theorem textOr_of_nonempty {text : String} (nonempty : text ≠ "")
    (default : String) : textOr (some text) default = text := by
  simp [textOr, Python.truthy, nonempty]

/-- A text that is too long for a body is too long for the card. -/
theorem confirmation_unfit {grievance : Grievance} {text : String}
    (described : grievance.issueText = some text)
    (long : 1024 ≤ text.length) (waId draftId : String)
    (headerMediaId : Option String) :
    ¬ (buildConfirmationIntent waId draftId headerMediaId
        (Copy.pdfConfirm
          (renderConfirmationSummary grievance))).payload.Fits := by
  have nonempty : text ≠ "" := by
    rintro rfl
    rw [String.length_empty] at long
    omega
  have shown : text.length ≤ shownLength grievance := by
    unfold shownLength
    rw [described, textOr_of_nonempty nonempty]
    exact Nat.le_add_left _ _
  rw [fits_confirmation, length_pdfConfirm, length_renderConfirmationSummary]
  omega

/-- A complaint whose text is as long as a body may be. -/
def longComplaint : Grievance :=
  { Pipeline.Degrade.potholeDraft with
    issueText := some (String.ofList (List.replicate 1024 'a')) }

theorem long_complaint_unfit :
    ¬ (buildConfirmationIntent "919876543210"
        "0b6f7d4e-5a0e-4c1b-9a52-0f6f0c1f4a11" none
        (Copy.pdfConfirm
          (renderConfirmationSummary longComplaint))).payload.Fits := by
  refine confirmation_unfit rfl ?_ _ _ _
  rw [String.length_ofList, List.length_replicate]

end JanSetu.Whatsapp
