import JanSetu.Library.Transition
import JanSetu.Pipeline.Transcripts
import JanSetu.Whatsapp.Parser
import JanSetu.Whatsapp.Turns

/-!
# The state machine on what the parser lets through

`advance` over messages whose members are decoded values of any shape, so that
every operation of it that can raise is one that can raise here.  The states,
the texts and the buttons are those of the typed state machine.
-/

namespace JanSetu.Whatsapp.Raw

open Python (Json Raised Platform Returns)

/-! ## Payloads -/

/-- What the `build_*` functions have in common. -/
def outboundPayload (recipient : Json) (messageType : String)
    (content : Json) : Json :=
  .object
    [("messaging_product", .string "whatsapp"),
      ("recipient_type", .string "individual"),
      ("to", recipient),
      ("type", .string messageType),
      (messageType, content)]

def buildTextPayload (recipient : Json) (body : String) : Json :=
  outboundPayload recipient "text"
    (.object [("preview_url", .bool false), ("body", .string body)])

def buildLocationRequestPayload (recipient : Json) (body : String) : Json :=
  outboundPayload recipient "interactive"
    (.object
      [("type", .string "location_request_message"),
        ("body", .object [("text", .string body)]),
        ("action", .object [("name", .string "send_location")])])

def replyButton (button : Button) : Json :=
  .object
    [("type", .string "reply"),
      ("reply", .object
        [("id", .string button.1), ("title", .string button.2)])]

def buildReplyButtonsPayload (recipient : Json) (body : String)
    (buttons : List Button) : Json :=
  outboundPayload recipient "interactive"
    (.object
      [("type", .string "button"),
        ("body", .object [("text", .string body)]),
        ("action", .object [("buttons", .array (buttons.map replyButton))])])

def buildDocumentButtonPayload (recipient : Json)
    (headerMediaId headerFilename body : String) (buttons : List Button) :
    Json :=
  outboundPayload recipient "interactive"
    (.object
      [("type", .string "button"),
        ("header", .object
          [("type", .string "document"),
            ("document", .object
              [("id", .string headerMediaId),
                ("filename", .string headerFilename)])]),
        ("body", .object [("text", .string body)]),
        ("action", .object [("buttons", .array (buttons.map replyButton))])])

structure OutboundIntent where
  replyKind : String
  messageType : String
  payload : Json
  textBody : Option String

def locationRequestIntent (waId : Json) (body replyKind : String) :
    OutboundIntent :=
  { replyKind := replyKind
    messageType := "interactive"
    payload := buildLocationRequestPayload waId body
    textBody := some body }

def textIntent (waId : Json) (body replyKind : String) : OutboundIntent :=
  { replyKind := replyKind
    messageType := "text"
    payload := buildTextPayload waId body
    textBody := some body }

def buttonsIntent (waId : Json) (body : String) (buttons : List Button)
    (replyKind : String) : OutboundIntent :=
  { replyKind := replyKind
    messageType := "interactive"
    payload := buildReplyButtonsPayload waId body buttons
    textBody := some body }

def askIssueIntent (waId : Json) : OutboundIntent :=
  buttonsIntent waId Copy.askIssue
    [(Copy.issueDoneId, Copy.issueDoneTitle)] "ask_issue"

def photoPromptIntent (waId : Json) (body replyKind : String) :
    OutboundIntent :=
  buttonsIntent waId body
    [(Copy.photoShareId, Copy.photoShareTitle),
      (Copy.photoSkipId, Copy.photoSkipTitle)] replyKind

def processingWaitIntent (waId : Json) : OutboundIntent :=
  textIntent waId Copy.processingWait "processing_wait"

def stillProcessingIntent (waId : Json) : OutboundIntent :=
  textIntent waId Copy.stillProcessing "still_processing"

def mismatchPromptIntent (waId : Json) (note : Option String) :
    OutboundIntent :=
  buttonsIntent waId (Copy.imageMismatchPrompt (note.getD ""))
    [(Copy.photoShareId, Copy.photoShareTitle),
      (photoContinueId, Copy.photoContinueTitle)] "image_mismatch"

/-! ## Contexts -/

structure Context.Location where
  lat : Option Python.Float
  lon : Option Python.Float
  displayAddress : Json
  sourceMessageId : Json
  geocodeStatus : Json
  confirmedAt : Option Time

structure Context.Message where
  messageId : Json
  receivedAt : Time
  type : Json
  text : Json
  mediaId : Json
  mimeType : Json

structure Context.Issue where
  messages : List Context.Message
  sourceMessageId : Json

structure Context.Photo where
  mediaId : Json
  mimeType : Json
  skipped : Option Bool

structure Context where
  location : Context.Location
  issue : Context.Issue
  photo : Context.Photo
  draft : Context.Draft

structure FsmResult where
  state : ConversationState
  context : Context
  intents : List OutboundIntent := []
  action : Option Action := none
  close : Bool := false

def defaultLocation : Context.Location :=
  { lat := none, lon := none, displayAddress := .null, sourceMessageId := .null
    geocodeStatus := .null, confirmedAt := none }

def defaultContext : Context :=
  { location := defaultLocation
    issue := { messages := [], sourceMessageId := .null }
    photo := { mediaId := .null, mimeType := .null, skipped := none }
    draft := { grievanceId := none, recheckCount := 0 } }

/-- What `advance` reads of the geocoder's result. -/
structure ReverseGeocode where
  status : Json
  displayAddress : Json

/-- `reply_id.partition` is a method of strings only. -/
def parseConfirmReply (replyId : Json) : Except Raised ConfirmReply :=
  if replyId.truthy then
    match replyId with
    | .string text => .ok (Whatsapp.parseConfirmReply (some text))
    | _ => .error .attributeError
  else .ok { base := none, token := none }

/-- Whether a token is the value that was staged. -/
def isToken (token : Option String) (staged : Json) : Bool :=
  match token, staged with
  | none, .null => true
  | some token, .string text => token = text
  | _, _ => false

/-- `{value:.5f}`; an integer coordinate is formatted unrounded. -/
def fixed5 : Python.Float → String
  | .finite value => Copy.fixed5 value
  | .infinity => "inf"
  | .negativeInfinity => "-inf"
  | .nan => "nan"

/-- `RAW_COORDINATES.format`; `None` has no format of five decimals. -/
def formatCoordinates :
    Option Python.Float → Option Python.Float → Except Raised String
  | some lat, some lon =>
      .ok ("अक्षांश/Lat " ++ fixed5 lat ++ ", देशांतर/Lon " ++ fixed5 lon)
  | _, _ => .error .typeError

def isLocation (inbound : IncomingWhatsAppMessage) : Bool :=
  inbound.messageType.text = some "location" &&
    inbound.locationLatitude.isSome

def issueMessage (inbound : IncomingWhatsAppMessage) : Context.Message :=
  { messageId := inbound.metaMessageId
    receivedAt := inbound.receivedAt
    type := inbound.messageType
    text := inbound.textBody
    mediaId := inbound.mediaId
    mimeType := inbound.mediaMimeType }

def isPhoto (inbound : IncomingWhatsAppMessage) : Bool :=
  inbound.messageType.text = some "image" && inbound.mediaId.truthy

def sharedPhoto (inbound : IncomingWhatsAppMessage) : Context.Photo :=
  { mediaId := inbound.mediaId
    mimeType := inbound.mediaMimeType
    skipped := some false }

def skippedPhoto : Context.Photo :=
  { mediaId := .null, mimeType := .null, skipped := some true }

def stageLocation (inbound : IncomingWhatsAppMessage)
    (geocode : Option ReverseGeocode) : Context.Location :=
  { lat := inbound.locationLatitude
    lon := inbound.locationLongitude
    displayAddress := geocode.elim .null ReverseGeocode.displayAddress
    sourceMessageId := inbound.metaMessageId
    geocodeStatus := geocode.elim .null ReverseGeocode.status
    confirmedAt := none }

section

variable (platform : Platform)

def addressText (geocode : Option ReverseGeocode)
    (lat lon : Option Python.Float) : Except Raised String :=
  let display := geocode.elim .null ReverseGeocode.displayAddress
  if display.truthy then .ok (platform.str display)
  else formatCoordinates lat lon

def confirmLocationIntent (waId : Json) (body : String) (token : Json) :
    OutboundIntent :=
  buttonsIntent waId body
    [(Copy.confirmYesId ++ ":" ++ platform.str token, Copy.confirmYesTitle),
      (Copy.confirmNoId ++ ":" ++ platform.str token, Copy.confirmNoTitle)]
    "confirm_location"

/-! ## The transitions -/

def stageLocationAndConfirm (waId : Json) (context : Context)
    (inbound : IncomingWhatsAppMessage) (geocode : Option ReverseGeocode)
    (bodyPrefix : String) : Except Raised FsmResult := do
  let address ← addressText platform geocode inbound.locationLatitude
    inbound.locationLongitude
  let body := bodyPrefix ++ Copy.confirmLocation address
  return { state := .confirmingLocation
           context := { context with location := stageLocation inbound geocode }
           intents :=
             [confirmLocationIntent platform waId body inbound.metaMessageId] }

def advanceNew (waId : Json) (context : Context)
    (inbound : IncomingWhatsAppMessage) (geocode : Option ReverseGeocode) :
    Except Raised FsmResult :=
  let greetingPrefix := Copy.greeting ++ "\n\n"
  if isLocation inbound then
    stageLocationAndConfirm platform waId context inbound geocode greetingPrefix
  else
    .ok
      { state := .awaitingLocation
        context := context
        intents :=
          [locationRequestIntent waId (greetingPrefix ++ Copy.locationRequest)
            "greeting_location"] }

def advanceAwaitingLocation (waId : Json) (context : Context)
    (inbound : IncomingWhatsAppMessage) (geocode : Option ReverseGeocode) :
    Except Raised FsmResult :=
  if isLocation inbound then
    stageLocationAndConfirm platform waId context inbound geocode ""
  else
    .ok
      { state := .awaitingLocation
        context := context
        intents :=
          [locationRequestIntent waId Copy.locationReprompt
            "location_reprompt"] }

/-- The address of the staged location, as the re-prompt shows it. -/
def stagedAddress (location : Context.Location) : Except Raised String :=
  if location.displayAddress.truthy then
    .ok (platform.str location.displayAddress)
  else if location.lat.isSome then
    formatCoordinates location.lat location.lon
  else .ok ""

def advanceConfirmingLocation (waId : Json) (context : Context)
    (inbound : IncomingWhatsAppMessage) (geocode : Option ReverseGeocode)
    (now : Time) : Except Raised FsmResult :=
  if isLocation inbound then
    stageLocationAndConfirm platform waId context inbound geocode ""
  else do
    let reply ← parseConfirmReply inbound.replyId
    let stagedToken := context.location.sourceMessageId
    if isToken reply.token stagedToken ∧
        reply.base = some Copy.confirmYesId then
      return { state := .awaitingIssue
               context :=
                 { context with
                   location :=
                     { context.location with confirmedAt := some now } }
               intents := [askIssueIntent waId] }
    else if isToken reply.token stagedToken ∧
        reply.base = some Copy.confirmNoId then
      return { state := .awaitingLocation
               context := { context with location := defaultLocation }
               intents :=
                 [locationRequestIntent waId Copy.locationRequest
                   "location_request"] }
    else
      let address ← stagedAddress platform context.location
      return { state := .confirmingLocation
               context := context
               intents :=
                 [confirmLocationIntent platform waId
                   (Copy.confirmLocation address) stagedToken] }

def advanceAwaitingIssue (waId : Json) (context : Context)
    (inbound : IncomingWhatsAppMessage) : Except Raised FsmResult := do
  let reply ← parseConfirmReply inbound.replyId
  if reply.base = some Copy.issueDoneId then
    if context.issue.messages.isEmpty then
      return { state := .awaitingIssue
               context := context
               intents := [textIntent waId Copy.issueEmpty "issue_empty"] }
    else
      let body := Copy.issueReceived ++ "\n\n" ++ Copy.photoPrompt
      return { state := .awaitingPhoto
               context := context
               intents := [photoPromptIntent waId body "photo_prompt"] }
  else if ← inbound.messageType.isIn issueContentTypes then
    return { state := .awaitingIssue
             context :=
               { context with
                 issue :=
                   { messages :=
                       context.issue.messages ++ [issueMessage inbound]
                     sourceMessageId :=
                       match context.issue.sourceMessageId with
                       | .null => inbound.metaMessageId
                       | source => source } } }
  else return { state := .awaitingIssue, context := context }

def advanceAwaitingPhoto (waId : Json) (context : Context)
    (inbound : IncomingWhatsAppMessage) : Except Raised FsmResult := do
  let reply ← parseConfirmReply inbound.replyId
  if isPhoto inbound then
    return { state := .processing
             context := { context with photo := sharedPhoto inbound }
             intents := [processingWaitIntent waId]
             action := some .startPipeline }
  else if reply.base = some Copy.photoSkipId then
    return { state := .processing
             context := { context with photo := skippedPhoto }
             intents := [processingWaitIntent waId]
             action := some .startPipeline }
  else if reply.base = some Copy.photoShareId then
    return { state := .awaitingPhoto
             context := context
             intents :=
               [textIntent waId Copy.photoInstruction "photo_instruction"] }
  else
    return { state := .awaitingPhoto
             context := context
             intents :=
               [photoPromptIntent waId Copy.photoPrompt "photo_prompt"] }

def advanceProcessing (waId : Json) (context : Context) : FsmResult :=
  { state := .processing
    context := context
    intents := [stillProcessingIntent waId] }

def advancePhotoMismatch (waId : Json) (context : Context)
    (inbound : IncomingWhatsAppMessage) : Except Raised FsmResult := do
  let reply ← parseConfirmReply inbound.replyId
  if isPhoto inbound then
    return { state := .processing
             context :=
               { context with
                 photo := sharedPhoto inbound
                 draft :=
                   { context.draft with
                     recheckCount := context.draft.recheckCount + 1 } }
             intents := [processingWaitIntent waId]
             action := some .recheckPhoto }
  else if reply.base = some photoContinueId then
    return { state := .processing
             context := context
             intents := [processingWaitIntent waId]
             action := some .proceedWithoutPhoto }
  else
    return { state := .photoMismatch
             context := context
             intents := [mismatchPromptIntent waId none] }

def advanceAwaitingConfirmation (context : Context)
    (inbound : IncomingWhatsAppMessage) : Except Raised FsmResult := do
  let reply ← parseConfirmReply inbound.replyId
  let draftId := context.draft.grievanceId
  if reply.token = draftId ∧ reply.base = some confirmGrvYesId then
    return { state := .done, context := context, action := some .finalize
             close := true }
  else if reply.token = draftId ∧ reply.base = some confirmGrvNoId then
    return { state := .done, context := context, action := some .cancel
             close := true }
  else return { state := .awaitingConfirmation, context := context }

def advance (waId : Json) (state : Option ConversationState)
    (context : Option Context) (inbound : IncomingWhatsAppMessage)
    (geocode : Option ReverseGeocode) (now : Time) :
    Except Raised FsmResult :=
  let context := context.getD defaultContext
  match state with
  | none => advanceNew platform waId context inbound geocode
  | some .expired => advanceNew platform waId context inbound geocode
  | some .awaitingLocation =>
      advanceAwaitingLocation platform waId context inbound geocode
  | some .confirmingLocation =>
      advanceConfirmingLocation platform waId context inbound geocode now
  | some .awaitingIssue => advanceAwaitingIssue waId context inbound
  | some .awaitingPhoto => advanceAwaitingPhoto waId context inbound
  | some .processing => .ok (advanceProcessing waId context)
  | some .photoMismatch => advancePhotoMismatch waId context inbound
  | some .awaitingConfirmation => advanceAwaitingConfirmation context inbound
  | some .done => .ok { state := .done, context := context }
  | some (.unknown name) => .ok { state := .unknown name, context := context }

end

/-! ## Typed messages -/

def ofOptional : Option String → Json
  | none => .null
  | some text => .string text

def IncomingWhatsAppMessage.ofTyped
    (inbound : Whatsapp.IncomingWhatsAppMessage) : IncomingWhatsAppMessage :=
  { waId := .string inbound.waId
    profileName := .null
    metaMessageId := .string inbound.metaMessageId
    messageType := .string inbound.messageType
    textBody := ofOptional inbound.textBody
    rawPayload := .null
    receivedAt := inbound.receivedAt
    mediaId := ofOptional inbound.mediaId
    mediaMimeType := ofOptional inbound.mediaMimeType
    locationLatitude := inbound.locationLatitude.map .finite
    locationLongitude := inbound.locationLongitude.map .finite
    locationName := .null
    locationAddress := .null
    locationUrl := .null
    replyId := ofOptional inbound.replyId
    interactiveType := .null
    buttonPayload := .null
    contextMessageId := ofOptional inbound.contextMessageId }

def ReverseGeocode.ofTyped (geocode : Whatsapp.ReverseGeocode) :
    ReverseGeocode :=
  { status := .string geocode.status
    displayAddress := ofOptional geocode.displayAddress }

def Context.Location.ofTyped (location : Whatsapp.Context.Location) :
    Context.Location :=
  { lat := location.lat.map .finite
    lon := location.lon.map .finite
    displayAddress := ofOptional location.displayAddress
    sourceMessageId := ofOptional location.sourceMessageId
    geocodeStatus := ofOptional location.geocodeStatus
    confirmedAt := location.confirmedAt }

def Context.Message.ofTyped (message : Whatsapp.Context.Message) :
    Context.Message :=
  { messageId := .string message.messageId
    receivedAt := message.receivedAt
    type := .string message.type
    text := ofOptional message.text
    mediaId := ofOptional message.mediaId
    mimeType := ofOptional message.mimeType }

def Context.Photo.ofTyped (photo : Whatsapp.Context.Photo) : Context.Photo :=
  { mediaId := ofOptional photo.mediaId
    mimeType := ofOptional photo.mimeType
    skipped := photo.skipped }

def Context.ofTyped (context : Whatsapp.Context) : Context :=
  { location := .ofTyped context.location
    issue :=
      { messages := context.issue.messages.map .ofTyped
        sourceMessageId := ofOptional context.issue.sourceMessageId }
    photo := .ofTyped context.photo
    draft := context.draft }

def payloadOfTyped : Payload → Json
  | .text recipient body => buildTextPayload (.string recipient) body
  | .locationRequest recipient body =>
      buildLocationRequestPayload (.string recipient) body
  | .replyButtons recipient body buttons =>
      buildReplyButtonsPayload (.string recipient) body buttons
  | .documentButton recipient headerMediaId headerFilename body buttons =>
      buildDocumentButtonPayload (.string recipient) headerMediaId
        headerFilename body buttons

def OutboundIntent.ofTyped (intent : Whatsapp.OutboundIntent) :
    OutboundIntent :=
  { replyKind := intent.replyKind
    messageType := intent.messageType
    payload := payloadOfTyped intent.payload
    textBody := intent.textBody }

def FsmResult.ofTyped (result : Whatsapp.FsmResult) : FsmResult :=
  { state := result.state
    context := .ofTyped result.context
    intents := result.intents.map .ofTyped
    action := result.action
    close := result.close }

/-- The result of the typed state machine, none where it raises. -/
def ofResult : Option Whatsapp.FsmResult → Except Raised FsmResult
  | some result => .ok (.ofTyped result)
  | none => .error .typeError

section

variable {platform : Platform} {waId : String} {context : Whatsapp.Context}
  {inbound : Whatsapp.IncomingWhatsAppMessage}
  {geocode : Option Whatsapp.ReverseGeocode} {now : Time}
  {bodyPrefix : String}

@[simp] theorem parseConfirmReply_ofOptional (replyId : Option String) :
    parseConfirmReply (ofOptional replyId) =
      .ok (Whatsapp.parseConfirmReply replyId) := by
  cases replyId with
  | none => rfl
  | some text =>
      by_cases empty : text = ""
      · subst empty
        rfl
      · simp [parseConfirmReply, ofOptional, Json.truthy, empty]

theorem parseConfirmReply_ofTyped :
    parseConfirmReply (IncomingWhatsAppMessage.ofTyped inbound).replyId =
      .ok (Whatsapp.parseConfirmReply inbound.replyId) :=
  parseConfirmReply_ofOptional inbound.replyId

@[simp] theorem isToken_ofOptional (token staged : Option String) :
    isToken token (ofOptional staged) = decide (token = staged) := by
  cases token with
  | none => cases staged <;> simp [isToken, ofOptional]
  | some token => cases staged <;> simp [isToken, ofOptional]

@[simp] theorem truthy_ofOptional (text : Option String) :
    (ofOptional text).truthy = Python.truthy text := by
  cases text <;> rfl

@[simp] theorem isLocation_ofTyped :
    isLocation (.ofTyped inbound) = Whatsapp.isLocation inbound := by
  simp [isLocation, IncomingWhatsAppMessage.ofTyped, Json.text,
    Whatsapp.isLocation]

@[simp] theorem isPhoto_ofTyped :
    isPhoto (.ofTyped inbound) = Whatsapp.isPhoto inbound := by
  simp [isPhoto, IncomingWhatsAppMessage.ofTyped, Json.text,
    Whatsapp.isPhoto]

theorem str_ofOptional (formatsNone : platform.str .null = "None")
    (text : Option String) :
    platform.str (ofOptional text) = formatted text := by
  cases text with
  | none => exact formatsNone
  | some text => rfl

theorem formatCoordinates_ofTyped (lat lon : Option ℚ) :
    formatCoordinates (lat.map .finite) (lon.map .finite) =
      match Whatsapp.formatCoordinates lat lon with
      | some text => .ok text
      | none => .error .typeError := by
  cases lat with
  | none => rfl
  | some lat => cases lon <;> rfl

theorem displayAddress_ofTyped :
    (geocode.map ReverseGeocode.ofTyped).elim .null
        ReverseGeocode.displayAddress =
      ofOptional (geocode.bind Whatsapp.ReverseGeocode.displayAddress) := by
  cases geocode <;> rfl

theorem addressText_ofTyped (lat lon : Option ℚ) :
    addressText platform (geocode.map .ofTyped) (lat.map .finite)
        (lon.map .finite) =
      match Whatsapp.addressText geocode lat lon with
      | some text => .ok text
      | none => .error .typeError := by
  unfold addressText Whatsapp.addressText
  simp only [displayAddress_ofTyped, truthy_ofOptional]
  cases display : geocode.bind Whatsapp.ReverseGeocode.displayAddress with
  | none =>
      simp only [Python.truthy, Bool.false_eq_true, if_false]
      exact formatCoordinates_ofTyped lat lon
  | some text =>
      split
      · rfl
      · exact formatCoordinates_ofTyped lat lon

theorem stageLocation_ofTyped :
    stageLocation (.ofTyped inbound) (geocode.map .ofTyped) =
      .ofTyped (Whatsapp.stageLocation inbound geocode) := by
  cases geocode <;> rfl

theorem stageLocationAndConfirm_ofTyped :
    stageLocationAndConfirm platform (.string waId) (.ofTyped context)
        (.ofTyped inbound) (geocode.map .ofTyped) bodyPrefix =
      ofResult (Whatsapp.stageLocationAndConfirm waId context inbound geocode
        bodyPrefix) := by
  unfold stageLocationAndConfirm Whatsapp.stageLocationAndConfirm
  rw [stageLocation_ofTyped]
  have address : addressText platform (geocode.map .ofTyped)
      (IncomingWhatsAppMessage.ofTyped inbound).locationLatitude
      (IncomingWhatsAppMessage.ofTyped inbound).locationLongitude = _ :=
    addressText_ofTyped inbound.locationLatitude inbound.locationLongitude
  rw [address]
  cases Whatsapp.addressText geocode inbound.locationLatitude
      inbound.locationLongitude with
  | none => rfl
  | some text => rfl

theorem advanceNew_ofTyped :
    advanceNew platform (.string waId) (.ofTyped context) (.ofTyped inbound)
        (geocode.map .ofTyped) =
      ofResult (Whatsapp.advanceNew waId context inbound geocode) := by
  unfold advanceNew Whatsapp.advanceNew
  rw [isLocation_ofTyped]
  dsimp only
  split
  · exact stageLocationAndConfirm_ofTyped
  · rfl

theorem advanceAwaitingLocation_ofTyped :
    advanceAwaitingLocation platform (.string waId) (.ofTyped context)
        (.ofTyped inbound) (geocode.map .ofTyped) =
      ofResult (Whatsapp.advanceAwaitingLocation waId context inbound
        geocode) := by
  unfold advanceAwaitingLocation Whatsapp.advanceAwaitingLocation
  rw [isLocation_ofTyped]
  split
  · exact stageLocationAndConfirm_ofTyped
  · rfl

theorem stagedAddress_ofTyped (location : Whatsapp.Context.Location) :
    stagedAddress platform (.ofTyped location) =
      match Whatsapp.stagedAddress location with
      | some text => .ok text
      | none => .error .typeError := by
  have display : (Context.Location.ofTyped location).displayAddress =
      ofOptional location.displayAddress := rfl
  unfold stagedAddress Whatsapp.stagedAddress
  rw [display, truthy_ofOptional]
  split
  · rename_i named
    cases address : location.displayAddress with
    | none =>
        rw [address] at named
        cases named
    | some text => rfl
  · cases latitude : location.lat with
    | none => simp [Context.Location.ofTyped, latitude]
    | some lat =>
        simp only [Context.Location.ofTyped, latitude, Option.map_some,
          Option.isSome_some, if_true]
        exact formatCoordinates_ofTyped (some lat) location.lon

theorem confirmLocationIntent_ofTyped
    (formatsNone : platform.str .null = "None") (body : String)
    (token : Option String) :
    confirmLocationIntent platform (.string waId) body (ofOptional token) =
      .ofTyped (Whatsapp.confirmLocationIntent waId body token) := by
  unfold confirmLocationIntent
  rw [str_ofOptional formatsNone]
  rfl

theorem advanceConfirmingLocation_ofTyped
    (formatsNone : platform.str .null = "None") :
    advanceConfirmingLocation platform (.string waId) (.ofTyped context)
        (.ofTyped inbound) (geocode.map .ofTyped) now =
      ofResult (Whatsapp.advanceConfirmingLocation waId context inbound
        geocode now) := by
  unfold advanceConfirmingLocation Whatsapp.advanceConfirmingLocation
  rw [isLocation_ofTyped]
  split
  · exact stageLocationAndConfirm_ofTyped
  · rw [parseConfirmReply_ofTyped]
    have staged : (Context.ofTyped context).location.sourceMessageId =
        ofOptional context.location.sourceMessageId := rfl
    change (if _ then _ else _) = _
    simp only [staged, isToken_ofOptional, decide_eq_true_eq]
    split
    · rfl
    · split
      · rfl
      · have shown : stagedAddress platform (Context.ofTyped context).location =
            _ := stagedAddress_ofTyped context.location
        rw [shown]
        cases Whatsapp.stagedAddress context.location with
        | none => rfl
        | some address =>
            simp only [confirmLocationIntent_ofTyped formatsNone]
            rfl

theorem isEmpty_ofTyped :
    (Context.ofTyped context).issue.messages.isEmpty = true ↔
      context.issue.messages = [] := by
  simp [Context.ofTyped]

theorem addMessage_ofTyped :
    ({ (Context.ofTyped context) with
       issue :=
         { messages :=
             (Context.ofTyped context).issue.messages ++
               [issueMessage (.ofTyped inbound)]
           sourceMessageId :=
             match (Context.ofTyped context).issue.sourceMessageId with
             | .null => (IncomingWhatsAppMessage.ofTyped inbound).metaMessageId
             | source => source } } : Context) =
      .ofTyped { context with issue := addMessage context.issue inbound } := by
  unfold addMessage Context.ofTyped
  rw [List.map_append]
  cases context.issue.sourceMessageId <;> rfl

theorem advanceAwaitingIssue_ofTyped :
    advanceAwaitingIssue (.string waId) (.ofTyped context)
        (.ofTyped inbound) =
      .ok (.ofTyped (Whatsapp.advanceAwaitingIssue waId context inbound)) := by
  unfold advanceAwaitingIssue Whatsapp.advanceAwaitingIssue
  rw [parseConfirmReply_ofTyped]
  change (if _ then _ else _) = _
  dsimp only
  split
  · simp only [isEmpty_ofTyped]
    split
    · rfl
    · rfl
  · have tested :
        (IncomingWhatsAppMessage.ofTyped inbound).messageType.isIn
            issueContentTypes =
          .ok (decide (inbound.messageType ∈ issueContentTypes)) := rfl
    rw [tested]
    change (if _ then _ else _) = _
    rw [addMessage_ofTyped]
    simp only [decide_eq_true_eq]
    split
    · rfl
    · rfl

theorem advanceAwaitingPhoto_ofTyped :
    advanceAwaitingPhoto (.string waId) (.ofTyped context)
        (.ofTyped inbound) =
      .ok (.ofTyped (Whatsapp.advanceAwaitingPhoto waId context inbound)) := by
  unfold advanceAwaitingPhoto Whatsapp.advanceAwaitingPhoto
  rw [parseConfirmReply_ofTyped, isPhoto_ofTyped]
  change (if _ then _ else _) = _
  dsimp only
  split
  · rfl
  · split
    · rfl
    · split
      · rfl
      · rfl

theorem advancePhotoMismatch_ofTyped :
    advancePhotoMismatch (.string waId) (.ofTyped context)
        (.ofTyped inbound) =
      .ok (.ofTyped (Whatsapp.advancePhotoMismatch waId context inbound)) := by
  unfold advancePhotoMismatch Whatsapp.advancePhotoMismatch
  rw [parseConfirmReply_ofTyped, isPhoto_ofTyped]
  change (if _ then _ else _) = _
  dsimp only
  split
  · rfl
  · split
    · rfl
    · rfl

theorem advanceAwaitingConfirmation_ofTyped :
    advanceAwaitingConfirmation (.ofTyped context) (.ofTyped inbound) =
      .ok (.ofTyped
        (Whatsapp.advanceAwaitingConfirmation context inbound)) := by
  unfold advanceAwaitingConfirmation Whatsapp.advanceAwaitingConfirmation
  rw [parseConfirmReply_ofTyped]
  have draft : (Context.ofTyped context).draft = context.draft := rfl
  change (if _ then _ else _) = _
  dsimp only
  rw [draft]
  split
  · rfl
  · split
    · rfl
    · rfl

/-- On messages whose members have their declared types the two state machines
are one. -/
theorem advance_ofTyped (formatsNone : platform.str .null = "None")
    (state : Option ConversationState) (stored : Option Whatsapp.Context) :
    advance platform (.string waId) state (stored.map .ofTyped)
        (.ofTyped inbound) (geocode.map .ofTyped) now =
      ofResult (Whatsapp.advance waId state stored inbound geocode now) := by
  have context : (stored.map Context.ofTyped).getD defaultContext =
      .ofTyped (stored.getD Whatsapp.defaultContext) := by
    cases stored <;> rfl
  unfold advance Whatsapp.advance
  rw [context]
  dsimp only
  split
  · exact advanceNew_ofTyped
  · exact advanceNew_ofTyped
  · exact advanceAwaitingLocation_ofTyped
  · exact advanceConfirmingLocation_ofTyped formatsNone
  · exact advanceAwaitingIssue_ofTyped
  · exact advanceAwaitingPhoto_ofTyped
  · rfl
  · exact advancePhotoMismatch_ofTyped
  · exact advanceAwaitingConfirmation_ofTyped
  · rfl
  · rfl

end

/-! ## What raises -/

/-- A reply id that is read is a text, or one that counts as none. -/
def ReplyIsText (replyId : Json) : Prop :=
  replyId.truthy = true → ∃ text, replyId = .string text

/-- The card of a staged location has an address to show. -/
def HasAddress (inbound : IncomingWhatsAppMessage)
    (geocode : Option ReverseGeocode) : Prop :=
  (geocode.elim .null ReverseGeocode.displayAddress).truthy = true ∨
    inbound.locationLongitude.isSome = true

/-- The states and messages for which the reply id is read. -/
def ReadsReply (state : Option ConversationState)
    (inbound : IncomingWhatsAppMessage) : Prop :=
  match state with
  | some .confirmingLocation => isLocation inbound = false
  | some .awaitingIssue => True
  | some .awaitingPhoto => True
  | some .photoMismatch => True
  | some .awaitingConfirmation => True
  | _ => False

structure AdvanceBorne (state : Option ConversationState)
    (inbound : IncomingWhatsAppMessage) (geocode : Option ReverseGeocode) :
    Prop where
  address : ExpectsLocation state → isLocation inbound = true →
    HasAddress inbound geocode
  reply : ReadsReply state inbound → ReplyIsText inbound.replyId

/-- A staged latitude comes with an address or with a longitude. -/
def StagedBorne (location : Context.Location) : Prop :=
  location.lat.isSome = true →
    location.displayAddress.truthy = true ∨ location.lon.isSome = true

section

variable {platform : Platform} {waId : Json} {context : Context}
  {inbound : IncomingWhatsAppMessage} {geocode : Option ReverseGeocode}
  {now : Time} {bodyPrefix : String}

theorem returns_parseConfirmReply {replyId : Json} :
    Returns (parseConfirmReply replyId) ↔ ReplyIsText replyId := by
  unfold parseConfirmReply ReplyIsText
  split
  · rename_i read
    simp only [read, true_implies]
    cases replyId with
    | string text => simp [Python.returns_ok]
    | _ => simp [Python.not_returns_error]
  · rename_i unread
    simp [unread, Python.returns_ok]

theorem returns_formatCoordinates {lat lon : Option Python.Float} :
    Returns (formatCoordinates lat lon) ↔
      lat.isSome = true ∧ lon.isSome = true := by
  cases lat with
  | none => simp [formatCoordinates, Python.not_returns_error]
  | some lat =>
      cases lon with
      | none => simp [formatCoordinates, Python.not_returns_error]
      | some lon => simp [formatCoordinates, Python.returns_ok]

theorem returns_stageLocationAndConfirm
    (location : isLocation inbound = true) :
    Returns (stageLocationAndConfirm platform waId context inbound geocode
      bodyPrefix) ↔ HasAddress inbound geocode := by
  have latitude : inbound.locationLatitude.isSome = true :=
    (Bool.and_eq_true_iff.mp location).2
  unfold stageLocationAndConfirm addressText HasAddress
  rw [Python.returns_bind_of (fun _ => Python.returns_pure _)]
  dsimp only
  split
  · simp [*, Python.returns_ok]
  · simp [*, returns_formatCoordinates]

/-- The staged address can be shown again. -/
theorem returns_stagedAddress {location : Context.Location}
    (staged : StagedBorne location) :
    Returns (stagedAddress platform location) := by
  unfold stagedAddress
  split
  · exact Python.returns_ok _
  · rename_i unnamed
    split
    · rename_i latitude
      have longitude := (staged latitude).resolve_left unnamed
      exact returns_formatCoordinates.mpr ⟨latitude, longitude⟩
    · exact Python.returns_ok _

theorem returns_advanceNew :
    Returns (advanceNew platform waId context inbound geocode) ↔
      (isLocation inbound = true → HasAddress inbound geocode) := by
  unfold advanceNew
  dsimp only
  split
  · rename_i location
    simp only [location, true_implies]
    exact returns_stageLocationAndConfirm location
  · simp [*, Python.returns_ok]

theorem returns_advanceAwaitingLocation :
    Returns (advanceAwaitingLocation platform waId context inbound geocode) ↔
      (isLocation inbound = true → HasAddress inbound geocode) := by
  unfold advanceAwaitingLocation
  split
  · rename_i location
    simp only [location, true_implies]
    exact returns_stageLocationAndConfirm location
  · simp [*, Python.returns_ok]

theorem returns_advanceConfirmingLocation
    (staged : StagedBorne context.location) :
    Returns (advanceConfirmingLocation platform waId context inbound geocode
        now) ↔
      (isLocation inbound = true → HasAddress inbound geocode) ∧
        (isLocation inbound = false → ReplyIsText inbound.replyId) := by
  unfold advanceConfirmingLocation
  split
  · rename_i location
    simp only [location, true_implies, Bool.true_eq_false, false_implies,
      and_true]
    exact returns_stageLocationAndConfirm location
  · rename_i other
    rw [Bool.not_eq_true] at other
    simp only [other, Bool.false_eq_true, false_implies, true_implies, true_and]
    rw [← returns_parseConfirmReply]
    refine Python.returns_bind_of ?_
    intro reply
    split
    · exact Python.returns_pure _
    · split
      · exact Python.returns_pure _
      · rw [Python.returns_bind_of (fun _ => Python.returns_pure _)]
        exact returns_stagedAddress staged

theorem returns_advanceAwaitingIssue
    (hashable : inbound.messageType.hashable = true) :
    Returns (advanceAwaitingIssue waId context inbound) ↔
      ReplyIsText inbound.replyId := by
  rw [← returns_parseConfirmReply]
  refine Python.returns_bind_of ?_
  intro reply
  split
  · split
    · exact Python.returns_pure _
    · exact Python.returns_pure _
  · have tested : Returns (inbound.messageType.isIn issueContentTypes) :=
      Json.returns_isIn.mpr hashable
    rw [Python.returns_bind]
    obtain ⟨found, done⟩ := tested
    refine ⟨found, done, ?_⟩
    split
    · exact Python.returns_pure _
    · exact Python.returns_pure _

theorem returns_advanceAwaitingPhoto :
    Returns (advanceAwaitingPhoto waId context inbound) ↔
      ReplyIsText inbound.replyId := by
  rw [← returns_parseConfirmReply]
  refine Python.returns_bind_of ?_
  intro reply
  split
  · exact Python.returns_pure _
  · split
    · exact Python.returns_pure _
    · split
      · exact Python.returns_pure _
      · exact Python.returns_pure _

theorem returns_advancePhotoMismatch :
    Returns (advancePhotoMismatch waId context inbound) ↔
      ReplyIsText inbound.replyId := by
  rw [← returns_parseConfirmReply]
  refine Python.returns_bind_of ?_
  intro reply
  split
  · exact Python.returns_pure _
  · split
    · exact Python.returns_pure _
    · exact Python.returns_pure _

theorem returns_advanceAwaitingConfirmation :
    Returns (advanceAwaitingConfirmation context inbound) ↔
      ReplyIsText inbound.replyId := by
  rw [← returns_parseConfirmReply]
  refine Python.returns_bind_of ?_
  intro reply
  dsimp only
  split
  · exact Python.returns_pure _
  · split
    · exact Python.returns_pure _
    · exact Python.returns_pure _

/-- What one message of a hashable type can raise on a context whose staged
location can be shown. -/
theorem returns_advance {state : Option ConversationState}
    {stored : Option Context}
    (staged : StagedBorne (stored.getD defaultContext).location)
    (hashable : inbound.messageType.hashable = true) :
    Returns (advance platform waId state stored inbound geocode now) ↔
      AdvanceBorne state inbound geocode := by
  have borne : AdvanceBorne state inbound geocode ↔
      (ExpectsLocation state → isLocation inbound = true →
        HasAddress inbound geocode) ∧
      (ReadsReply state inbound → ReplyIsText inbound.replyId) :=
    ⟨fun both => ⟨both.address, both.reply⟩, fun both => ⟨both.1, both.2⟩⟩
  rw [borne]
  unfold advance
  dsimp only
  split
  · rw [returns_advanceNew]
    simp [ExpectsLocation, ReadsReply]
  · rw [returns_advanceNew]
    simp [ExpectsLocation, ReadsReply]
  · rw [returns_advanceAwaitingLocation]
    simp [ExpectsLocation, ReadsReply]
  · rw [returns_advanceConfirmingLocation staged]
    simp [ExpectsLocation, ReadsReply]
  · rw [returns_advanceAwaitingIssue hashable]
    simp [ExpectsLocation, ReadsReply]
  · rw [returns_advanceAwaitingPhoto]
    simp [ExpectsLocation, ReadsReply]
  · simp [ExpectsLocation, ReadsReply, Python.returns_ok]
  · rw [returns_advancePhotoMismatch]
    simp [ExpectsLocation, ReadsReply]
  · rw [returns_advanceAwaitingConfirmation]
    simp [ExpectsLocation, ReadsReply]
  · simp [ExpectsLocation, ReadsReply, Python.returns_ok]
  · simp [ExpectsLocation, ReadsReply, Python.returns_ok]

/-! ## Contexts that are reached -/

variable {result : FsmResult}

theorem stageLocationAndConfirm_staged
    (done : stageLocationAndConfirm platform waId context inbound geocode
      bodyPrefix = .ok result) : StagedBorne result.context.location := by
  obtain ⟨address, shown, same⟩ := Python.bind_ok.mp done
  obtain rfl := Python.pure_ok.mp same
  intro latitude
  unfold addressText at shown
  dsimp only at shown
  split at shown
  · exact .inl ‹_›
  · have formats : Returns (formatCoordinates inbound.locationLatitude
        inbound.locationLongitude) := ⟨address, shown⟩
    exact .inr (returns_formatCoordinates.mp formats).2

theorem advanceNew_staged
    (done : advanceNew platform waId context inbound geocode = .ok result)
    (staged : StagedBorne context.location) :
    StagedBorne result.context.location := by
  unfold advanceNew at done
  dsimp only at done
  split at done
  · exact stageLocationAndConfirm_staged done
  · obtain rfl := Except.ok.inj done
    exact staged

theorem advanceAwaitingLocation_staged
    (done : advanceAwaitingLocation platform waId context inbound geocode =
      .ok result)
    (staged : StagedBorne context.location) :
    StagedBorne result.context.location := by
  unfold advanceAwaitingLocation at done
  split at done
  · exact stageLocationAndConfirm_staged done
  · obtain rfl := Except.ok.inj done
    exact staged

theorem advanceConfirmingLocation_staged
    (done : advanceConfirmingLocation platform waId context inbound geocode
      now = .ok result)
    (staged : StagedBorne context.location) :
    StagedBorne result.context.location := by
  unfold advanceConfirmingLocation at done
  split at done
  · exact stageLocationAndConfirm_staged done
  · obtain ⟨reply, _, rest⟩ := Python.bind_ok.mp done
    dsimp only at rest
    split at rest
    · obtain rfl := Python.pure_ok.mp rest
      exact staged
    · split at rest
      · obtain rfl := Python.pure_ok.mp rest
        intro latitude
        cases latitude
      · obtain ⟨address, _, last⟩ := Python.bind_ok.mp rest
        obtain rfl := Python.pure_ok.mp last
        exact staged

/-- The steps after the location leave it as it is. -/
theorem advanceAwaitingIssue_location
    (done : advanceAwaitingIssue waId context inbound = .ok result) :
    result.context.location = context.location := by
  obtain ⟨reply, _, rest⟩ := Python.bind_ok.mp done
  split at rest
  · split at rest
    · obtain rfl := Python.pure_ok.mp rest
      rfl
    · obtain rfl := Python.pure_ok.mp rest
      rfl
  · obtain ⟨found, _, last⟩ := Python.bind_ok.mp rest
    split at last
    · obtain rfl := Python.pure_ok.mp last
      rfl
    · obtain rfl := Python.pure_ok.mp last
      rfl

theorem advanceAwaitingPhoto_location
    (done : advanceAwaitingPhoto waId context inbound = .ok result) :
    result.context.location = context.location := by
  obtain ⟨reply, _, rest⟩ := Python.bind_ok.mp done
  split at rest
  · obtain rfl := Python.pure_ok.mp rest
    rfl
  · split at rest
    · obtain rfl := Python.pure_ok.mp rest
      rfl
    · split at rest
      · obtain rfl := Python.pure_ok.mp rest
        rfl
      · obtain rfl := Python.pure_ok.mp rest
        rfl

theorem advancePhotoMismatch_location
    (done : advancePhotoMismatch waId context inbound = .ok result) :
    result.context.location = context.location := by
  obtain ⟨reply, _, rest⟩ := Python.bind_ok.mp done
  split at rest
  · obtain rfl := Python.pure_ok.mp rest
    rfl
  · split at rest
    · obtain rfl := Python.pure_ok.mp rest
      rfl
    · obtain rfl := Python.pure_ok.mp rest
      rfl

theorem advanceAwaitingConfirmation_location
    (done : advanceAwaitingConfirmation context inbound = .ok result) :
    result.context.location = context.location := by
  obtain ⟨reply, _, rest⟩ := Python.bind_ok.mp done
  dsimp only at rest
  split at rest
  · obtain rfl := Python.pure_ok.mp rest
    rfl
  · split at rest
    · obtain rfl := Python.pure_ok.mp rest
      rfl
    · obtain rfl := Python.pure_ok.mp rest
      rfl

/-- A message leaves a location that can be shown. -/
theorem advance_staged {state : Option ConversationState}
    {stored : Option Context}
    (done : advance platform waId state stored inbound geocode now =
      .ok result)
    (staged : StagedBorne (stored.getD defaultContext).location) :
    StagedBorne result.context.location := by
  unfold advance at done
  dsimp only at done
  split at done
  · exact advanceNew_staged done staged
  · exact advanceNew_staged done staged
  · exact advanceAwaitingLocation_staged done staged
  · exact advanceConfirmingLocation_staged done staged
  · rw [advanceAwaitingIssue_location done]
    exact staged
  · rw [advanceAwaitingPhoto_location done]
    exact staged
  · obtain rfl := Except.ok.inj done
    exact staged
  · rw [advancePhotoMismatch_location done]
    exact staged
  · rw [advanceAwaitingConfirmation_location done]
    exact staged
  · obtain rfl := Except.ok.inj done
    exact staged
  · obtain rfl := Except.ok.inj done
    exact staged

end

/-- A conversation before its first message or as it is stored. -/
structure Dialogue where
  state : Option ConversationState
  context : Option Context

inductive DialogueStep where
  | receive (waId : Json) (inbound : IncomingWhatsAppMessage)
      (geocode : Option ReverseGeocode) (now : Time) (grievanceId : String)
  | followUp (mismatch : Bool)

/-- The driver writes the id of the new draft into the context. -/
def storedContext (result : FsmResult) (grievanceId : String) : Context :=
  if result.action = some .startPipeline then
    { result.context with
      draft := { result.context.draft with grievanceId := some grievanceId } }
  else result.context

/-- A message on which `advance` raises is rolled back. -/
def Dialogue.receive (platform : Platform) (dialogue : Dialogue) (waId : Json)
    (inbound : IncomingWhatsAppMessage) (geocode : Option ReverseGeocode)
    (now : Time) (grievanceId : String) : Dialogue :=
  match advance platform waId dialogue.state dialogue.context inbound geocode
      now with
  | .error _ => dialogue
  | .ok result =>
      { state := some result.state
        context := some (storedContext result grievanceId) }

def Dialogue.followUp (dialogue : Dialogue) (mismatch : Bool) :
    Option Dialogue :=
  if dialogue.state = some .processing then
    some
      { dialogue with
        state :=
          if mismatch then some .photoMismatch else some .awaitingConfirmation }
  else none

def dialogues (platform : Platform) :
    Transition.System Dialogue DialogueStep :=
  { initial := fun dialogue => dialogue = { state := none, context := none }
    step := fun dialogue step =>
      match step with
      | .receive waId inbound geocode now grievanceId =>
          some
            (dialogue.receive platform waId inbound geocode now grievanceId)
      | .followUp mismatch => dialogue.followUp mismatch }

/-- Written by the parser for some payload. -/
def Parsed (platform : Platform) (inbound : IncomingWhatsAppMessage) : Prop :=
  ∃ now payload messages,
    iterIncomingMessages platform now payload = .ok messages ∧
      inbound ∈ messages

section

variable {platform : Platform} {dialogue next : Dialogue}
  {inbound : IncomingWhatsAppMessage} {geocode : Option ReverseGeocode}
  {now : Time}

/-- The staged location of a conversation can be shown. -/
def Dialogue.Shown (dialogue : Dialogue) : Prop :=
  StagedBorne (dialogue.context.getD defaultContext).location

theorem storedContext_location (result : FsmResult) (grievanceId : String) :
    (storedContext result grievanceId).location = result.context.location := by
  unfold storedContext
  split
  · rfl
  · rfl

theorem dialogues_step_shown {step : DialogueStep} (shown : dialogue.Shown)
    (taken : (dialogues platform).step dialogue step = some next) :
    next.Shown := by
  cases step with
  | receive waId inbound geocode now grievanceId =>
      have received : dialogue.receive platform waId inbound geocode now
          grievanceId = next := Option.some.inj taken
      subst received
      unfold Dialogue.receive
      cases done : advance platform waId dialogue.state dialogue.context inbound
          geocode now with
      | error raised => exact shown
      | ok result =>
          have staged := advance_staged done shown
          rw [← storedContext_location result grievanceId] at staged
          exact staged
  | followUp mismatch =>
      have followed : dialogue.followUp mismatch = some next := taken
      unfold Dialogue.followUp at followed
      split at followed
      · obtain rfl := Option.some.inj followed
        exact shown
      · cases followed

theorem shown_of_reachable
    (reachable : (dialogues platform).Reachable dialogue) :
    dialogue.Shown := by
  apply reachable.invariant
  · intro start initial
    obtain rfl := initial
    intro latitude
    cases latitude
  · intro state step next _ shown _ taken
    exact dialogues_step_shown shown taken

/-- In every conversation, whatever it has received, a message of the parser
is consumed exactly when a location that is staged has an address to show and a
reply that is read is a text. -/
theorem advance_returns_iff_borne
    (reachable : (dialogues platform).Reachable dialogue)
    (parsed : Parsed platform inbound) :
    Returns (advance platform inbound.waId dialogue.state dialogue.context
        inbound geocode now) ↔
      AdvanceBorne dialogue.state inbound geocode := by
  obtain ⟨read, payload, messages, walked, member⟩ := parsed
  obtain ⟨names, message, reads⟩ :=
    exists_of_mem_iterIncomingMessages walked member
  exact returns_advance (shown_of_reachable reachable)
    (readMessage_messageType reads)

end

/-! ## Three messages -/

def samplePayload (message : Json) : Json :=
  .object
    [("entry", .array
      [.object
        [("changes", .array
          [.object [("value", .object [("messages", .array [message])])]])]])]

def sampleMembers (messageType : String) (member : String × Json) : Json :=
  .object
    [("from", .string "919876543210"), ("id", .string "m1"),
      ("type", .string messageType), member]

def sampleInbound (messageType : String) (member : String × Json) :
    IncomingWhatsAppMessage :=
  { waId := .string "919876543210"
    profileName := .null
    metaMessageId := .string "m1"
    messageType := .string messageType
    textBody := .null
    rawPayload := sampleMembers messageType member
    receivedAt := 0
    mediaId := .null
    mediaMimeType := .null
    locationLatitude := none
    locationLongitude := none
    locationName := .null
    locationAddress := .null
    locationUrl := .null
    replyId := .null
    interactiveType := .null
    buttonPayload := .null
    contextMessageId := .null }

def greetingMember : String × Json :=
  ("text", .object [("body", .string "hello")])

def latitudeMember : String × Json :=
  ("location", .object [("latitude", .float (.finite 28))])

def confirmMember : String × Json :=
  ("interactive", .object
    [("type", .string "button_reply"),
      ("button_reply", .object
        [("id", .string (Copy.confirmYesId ++ ":m1"))])])

def greetingInbound : IncomingWhatsAppMessage :=
  { sampleInbound "text" greetingMember with textBody := .string "hello" }

/-- A location whose longitude is missing. -/
def latitudeInbound : IncomingWhatsAppMessage :=
  { sampleInbound "location" latitudeMember with
    locationLatitude := some (.finite 28) }

/-- A tap on the button that confirms the location. -/
def confirmInbound : IncomingWhatsAppMessage :=
  { sampleInbound "interactive" confirmMember with
    replyId := .string (Copy.confirmYesId ++ ":m1")
    interactiveType := .string "button_reply" }

theorem confirmInbound_parsed :
    Parsed Pipeline.Evidence.plainPlatform confirmInbound :=
  ⟨0, samplePayload (sampleMembers "interactive" confirmMember),
    [confirmInbound], by rfl, List.mem_cons_self⟩

theorem latitudeInbound_parsed :
    Parsed Pipeline.Evidence.plainPlatform latitudeInbound :=
  ⟨0, samplePayload (sampleMembers "location" latitudeMember),
    [latitudeInbound], by rfl, List.mem_cons_self⟩

theorem dialogue_starts (platform : Platform) :
    (dialogues platform).Reachable { state := none, context := none } :=
  .start rfl

/-- The geocoder has an address for the latitude. -/
def sampleGeocode : ReverseGeocode :=
  { status := .string "ok", displayAddress := .string "Ward 5" }

/-- After a greeting and the location. -/
def stagedDialogue : Dialogue :=
  { state := some .confirmingLocation
    context :=
      some
        { defaultContext with
          location := stageLocation latitudeInbound (some sampleGeocode) } }

theorem stagedDialogue_reached :
    (dialogues Pipeline.Evidence.plainPlatform).Reachable stagedDialogue :=
  ⟨_, [.receive greetingInbound.waId greetingInbound none 0 "g",
      .receive latitudeInbound.waId latitudeInbound (some sampleGeocode) 1 "g"],
    rfl, Transition.System.runWhen_of_run (fun _ _ _ => trivial) rfl⟩

theorem confirmation_consumed :
    Returns (advance Pipeline.Evidence.plainPlatform confirmInbound.waId
      stagedDialogue.state stagedDialogue.context confirmInbound none 2) := by
  apply (advance_returns_iff_borne stagedDialogue_reached
    confirmInbound_parsed).mpr
  constructor
  · intro _ location
    cases location
  · exact fun _ _ => ⟨_, rfl⟩

theorem latitude_alone_raises :
    ¬ ∀ (platform : Platform) (dialogue : Dialogue)
        (inbound : IncomingWhatsAppMessage) (geocode : Option ReverseGeocode)
        (now : Time), (dialogues platform).Reachable dialogue →
          Parsed platform inbound →
            Returns (advance platform inbound.waId dialogue.state
              dialogue.context inbound geocode now) := by
  intro total
  obtain ⟨result, returned⟩ := total _ _ _ none 0
    (dialogue_starts Pipeline.Evidence.plainPlatform) latitudeInbound_parsed
  cases returned

end JanSetu.Whatsapp.Raw
