import JanSetu.Pipeline.Store
import JanSetu.Python.Text
import JanSetu.Whatsapp.Client
import JanSetu.Whatsapp.Copy

/-!
# The conversation state machine

`advance` of `conversation.py`, one definition for each state it branches on,
and the two prompts that the pipeline follow-up sends.  A location without a
longitude raises where its coordinates are formatted; `advance` is then `none`.
Times stand for their `isoformat()`.
-/

namespace JanSetu.Whatsapp

open Python (strip lower partition truthy)

inductive ConversationState where
  | awaitingLocation
  | confirmingLocation
  | awaitingIssue
  | awaitingPhoto
  | processing
  | photoMismatch
  | awaitingConfirmation
  | done
  | expired
  | unknown (name : String)
deriving DecidableEq

/-- Inbound types that count as grievance content while accumulating the
issue. -/
def issueContentTypes : List String :=
  ["text", "audio", "voice", "image", "video", "document"]

def confirmGrvYesId : String := "grv_confirm"

def confirmGrvNoId : String := "grv_cancel"

def photoContinueId : String := "photo_continue"

structure OutboundIntent where
  replyKind : String
  messageType : String
  payload : Payload
  textBody : Option String
deriving DecidableEq

inductive Action where
  | startPipeline
  | recheckPhoto
  | proceedWithoutPhoto
  | finalize
  | cancel
deriving DecidableEq

structure Context.Location where
  lat : Option ℚ
  lon : Option ℚ
  displayAddress : Option String
  sourceMessageId : Option String
  geocodeStatus : Option String
  confirmedAt : Option Time
deriving DecidableEq

structure Context.Message where
  messageId : String
  receivedAt : Time
  type : String
  text : Option String
  mediaId : Option String
  mimeType : Option String
deriving DecidableEq

structure Context.Issue where
  messages : List Context.Message
  sourceMessageId : Option String
deriving DecidableEq

structure Context.Photo where
  mediaId : Option String
  mimeType : Option String
  skipped : Option Bool
deriving DecidableEq

structure Context.Draft where
  grievanceId : Option String
  recheckCount : Nat
deriving DecidableEq

structure Context where
  location : Context.Location
  issue : Context.Issue
  photo : Context.Photo
  draft : Context.Draft
deriving DecidableEq

structure FsmResult where
  state : ConversationState
  context : Context
  intents : List OutboundIntent := []
  action : Option Action := none
  close : Bool := false
deriving DecidableEq

def defaultLocation : Context.Location :=
  { lat := none, lon := none, displayAddress := none, sourceMessageId := none
    geocodeStatus := none, confirmedAt := none }

def defaultContext : Context :=
  { location := defaultLocation
    issue := { messages := [], sourceMessageId := none }
    photo := { mediaId := none, mimeType := none, skipped := none }
    draft := { grievanceId := none, recheckCount := 0 } }

structure ConfirmReply where
  base : Option String
  token : Option String
deriving DecidableEq

/-- Split a confirm button id `"<base>:<token>"`. -/
def parseConfirmReply (replyId : Option String) : ConfirmReply :=
  match replyId with
  | none => { base := none, token := none }
  | some replyId =>
      if replyId = "" then { base := none, token := none }
      else
        let (base, _, token) := partition ':' replyId
        { base := some base, token := if token = "" then none else some token }

/-- What an f-string makes of a value that may be `None`. -/
def formatted : Option String → String
  | some text => text
  | none => "None"

/-- A button id of a card that carries a token. -/
def tokenId (base : String) (token : Option String) : String :=
  base ++ ":" ++ formatted token

structure ReverseGeocode where
  status : String
  displayAddress : Option String
deriving DecidableEq

/-- `RAW_COORDINATES.format` raises when a coordinate is `None`. -/
def formatCoordinates : Option ℚ → Option ℚ → Option String
  | some lat, some lon => some (Copy.rawCoordinates lat lon)
  | _, _ => none

def addressText (geocode : Option ReverseGeocode) (lat lon : Option ℚ) :
    Option String :=
  let display := geocode.bind ReverseGeocode.displayAddress
  if truthy display then display else formatCoordinates lat lon

/-! ## Intents -/

def locationRequestIntent (waId body replyKind : String) : OutboundIntent :=
  { replyKind := replyKind
    messageType := "interactive"
    payload := .locationRequest waId body
    textBody := some body }

def textIntent (waId body replyKind : String) : OutboundIntent :=
  { replyKind := replyKind
    messageType := "text"
    payload := .text waId body
    textBody := some body }

def buttonsIntent (waId body : String) (buttons : List Button)
    (replyKind : String) : OutboundIntent :=
  { replyKind := replyKind
    messageType := "interactive"
    payload := .replyButtons waId body buttons
    textBody := some body }

def confirmLocationButtons (token : Option String) : List Button :=
  [(tokenId Copy.confirmYesId token, Copy.confirmYesTitle),
    (tokenId Copy.confirmNoId token, Copy.confirmNoTitle)]

def confirmLocationIntent (waId body : String) (token : Option String) :
    OutboundIntent :=
  { replyKind := "confirm_location"
    messageType := "interactive"
    payload := .replyButtons waId body (confirmLocationButtons token)
    textBody := some body }

def askIssueIntent (waId : String) : OutboundIntent :=
  buttonsIntent waId Copy.askIssue
    [(Copy.issueDoneId, Copy.issueDoneTitle)] "ask_issue"

def photoPromptIntent (waId body replyKind : String) : OutboundIntent :=
  buttonsIntent waId body
    [(Copy.photoShareId, Copy.photoShareTitle),
      (Copy.photoSkipId, Copy.photoSkipTitle)] replyKind

def processingWaitIntent (waId : String) : OutboundIntent :=
  textIntent waId Copy.processingWait "processing_wait"

def stillProcessingIntent (waId : String) : OutboundIntent :=
  textIntent waId Copy.stillProcessing "still_processing"

def mismatchPromptIntent (waId : String) (note : Option String) :
    OutboundIntent :=
  buttonsIntent waId (Copy.imageMismatchPrompt (note.getD ""))
    [(Copy.photoShareId, Copy.photoShareTitle),
      (photoContinueId, Copy.photoContinueTitle)] "image_mismatch"

/-- The confirm card that the pipeline follow-up sends. -/
def buildConfirmationIntent (waId draftId : String)
    (headerMediaId : Option String) (body : String) : OutboundIntent :=
  let buttons :=
    [(tokenId confirmGrvYesId (some draftId), Copy.confirmGrvYesTitle),
      (tokenId confirmGrvNoId (some draftId), Copy.confirmGrvNoTitle)]
  match headerMediaId with
  | none => buttonsIntent waId body buttons "pdf_confirm"
  | some headerMediaId =>
      { replyKind := "pdf_confirm"
        messageType := "interactive"
        payload :=
          .documentButton waId headerMediaId (draftId ++ ".pdf") body buttons
        textBody := some body }

def buildMismatchIntent (waId : String) (note : Option String) :
    OutboundIntent :=
  mismatchPromptIntent waId note

def isStatusQuery : Option String → Bool
  | none => false
  | some textBody =>
      lower (strip textBody) = "status" || lower (strip textBody) = "स्थिति"

/-! ## The transitions -/

def isLocation (inbound : IncomingWhatsAppMessage) : Bool :=
  inbound.messageType = "location" && inbound.locationLatitude.isSome

def stageLocation (inbound : IncomingWhatsAppMessage)
    (geocode : Option ReverseGeocode) : Context.Location :=
  { lat := inbound.locationLatitude
    lon := inbound.locationLongitude
    displayAddress := geocode.bind ReverseGeocode.displayAddress
    sourceMessageId := some inbound.metaMessageId
    geocodeStatus := geocode.map ReverseGeocode.status
    confirmedAt := none }

def stageLocationAndConfirm (waId : String) (context : Context)
    (inbound : IncomingWhatsAppMessage) (geocode : Option ReverseGeocode)
    (bodyPrefix : String) : Option FsmResult :=
  match addressText geocode inbound.locationLatitude
      inbound.locationLongitude with
  | none => none
  | some address =>
      let body := bodyPrefix ++ Copy.confirmLocation address
      some
        { state := .confirmingLocation
          context := { context with location := stageLocation inbound geocode }
          intents :=
            [confirmLocationIntent waId body (some inbound.metaMessageId)] }

/-- No active conversation yet, or an expired one: the greeting is merged into
the first functional message. -/
def advanceNew (waId : String) (context : Context)
    (inbound : IncomingWhatsAppMessage) (geocode : Option ReverseGeocode) :
    Option FsmResult :=
  let greetingPrefix := Copy.greeting ++ "\n\n"
  if isLocation inbound then
    stageLocationAndConfirm waId context inbound geocode greetingPrefix
  else
    some
      { state := .awaitingLocation
        context := context
        intents :=
          [locationRequestIntent waId (greetingPrefix ++ Copy.locationRequest)
            "greeting_location"] }

def advanceAwaitingLocation (waId : String) (context : Context)
    (inbound : IncomingWhatsAppMessage) (geocode : Option ReverseGeocode) :
    Option FsmResult :=
  if isLocation inbound then
    stageLocationAndConfirm waId context inbound geocode ""
  else
    some
      { state := .awaitingLocation
        context := context
        intents :=
          [locationRequestIntent waId Copy.locationReprompt
            "location_reprompt"] }

/-- The address of the staged location, as the re-prompt shows it. -/
def stagedAddress (location : Context.Location) : Option String :=
  if truthy location.displayAddress then location.displayAddress
  else if location.lat.isSome then
    formatCoordinates location.lat location.lon
  else some ""

def advanceConfirmingLocation (waId : String) (context : Context)
    (inbound : IncomingWhatsAppMessage) (geocode : Option ReverseGeocode)
    (now : Time) : Option FsmResult :=
  if isLocation inbound then
    stageLocationAndConfirm waId context inbound geocode ""
  else
    let reply := parseConfirmReply inbound.replyId
    let stagedToken := context.location.sourceMessageId
    if reply.token = stagedToken ∧ reply.base = some Copy.confirmYesId then
      some
        { state := .awaitingIssue
          context :=
            { context with
              location := { context.location with confirmedAt := some now } }
          intents := [askIssueIntent waId] }
    else if reply.token = stagedToken ∧ reply.base = some Copy.confirmNoId then
      some
        { state := .awaitingLocation
          context := { context with location := defaultLocation }
          intents :=
            [locationRequestIntent waId Copy.locationRequest
              "location_request"] }
    else
      -- A stale token, an unknown reply or free text: the card is shown again.
      match stagedAddress context.location with
      | none => none
      | some address =>
          some
            { state := .confirmingLocation
              context := context
              intents :=
                [confirmLocationIntent waId (Copy.confirmLocation address)
                  stagedToken] }

def issueMessage (inbound : IncomingWhatsAppMessage) : Context.Message :=
  { messageId := inbound.metaMessageId
    receivedAt := inbound.receivedAt
    type := inbound.messageType
    text := inbound.textBody
    mediaId := inbound.mediaId
    mimeType := inbound.mediaMimeType }

def advanceAwaitingIssue (waId : String) (context : Context)
    (inbound : IncomingWhatsAppMessage) : FsmResult :=
  let base := (parseConfirmReply inbound.replyId).base
  if base = some Copy.issueDoneId then
    if context.issue.messages = [] then
      { state := .awaitingIssue
        context := context
        intents := [textIntent waId Copy.issueEmpty "issue_empty"] }
    else
      let body := Copy.issueReceived ++ "\n\n" ++ Copy.photoPrompt
      { state := .awaitingPhoto
        context := context
        intents := [photoPromptIntent waId body "photo_prompt"] }
  else if inbound.messageType ∈ issueContentTypes then
    { state := .awaitingIssue
      context :=
        { context with
          issue :=
            { messages := context.issue.messages ++ [issueMessage inbound]
              sourceMessageId :=
                match context.issue.sourceMessageId with
                | none => some inbound.metaMessageId
                | some source => some source } } }
  else
    { state := .awaitingIssue, context := context }

/-- An image with a media id: what the photo steps accept. -/
def isPhoto (inbound : IncomingWhatsAppMessage) : Bool :=
  inbound.messageType = "image" && truthy inbound.mediaId

def sharedPhoto (inbound : IncomingWhatsAppMessage) : Context.Photo :=
  { mediaId := inbound.mediaId
    mimeType := inbound.mediaMimeType
    skipped := some false }

def skippedPhoto : Context.Photo :=
  { mediaId := none, mimeType := none, skipped := some true }

def advanceAwaitingPhoto (waId : String) (context : Context)
    (inbound : IncomingWhatsAppMessage) : FsmResult :=
  let base := (parseConfirmReply inbound.replyId).base
  if isPhoto inbound then
    { state := .processing
      context := { context with photo := sharedPhoto inbound }
      intents := [processingWaitIntent waId]
      action := some .startPipeline }
  else if base = some Copy.photoSkipId then
    { state := .processing
      context := { context with photo := skippedPhoto }
      intents := [processingWaitIntent waId]
      action := some .startPipeline }
  else if base = some Copy.photoShareId then
    { state := .awaitingPhoto
      context := context
      intents :=
        [textIntent waId Copy.photoInstruction "photo_instruction"] }
  else
    { state := .awaitingPhoto
      context := context
      intents := [photoPromptIntent waId Copy.photoPrompt "photo_prompt"] }

def advanceProcessing (waId : String) (context : Context) : FsmResult :=
  { state := .processing
    context := context
    intents := [stillProcessingIntent waId] }

def advancePhotoMismatch (waId : String) (context : Context)
    (inbound : IncomingWhatsAppMessage) : FsmResult :=
  let base := (parseConfirmReply inbound.replyId).base
  if isPhoto inbound then
    { state := .processing
      context :=
        { context with
          photo := sharedPhoto inbound
          draft :=
            { context.draft with
              recheckCount := context.draft.recheckCount + 1 } }
      intents := [processingWaitIntent waId]
      action := some .recheckPhoto }
  else if base = some photoContinueId then
    { state := .processing
      context := context
      intents := [processingWaitIntent waId]
      action := some .proceedWithoutPhoto }
  else
    { state := .photoMismatch
      context := context
      intents := [mismatchPromptIntent waId none] }

def advanceAwaitingConfirmation (context : Context)
    (inbound : IncomingWhatsAppMessage) : FsmResult :=
  let reply := parseConfirmReply inbound.replyId
  let draftId := context.draft.grievanceId
  if reply.token = draftId ∧ reply.base = some confirmGrvYesId then
    { state := .done, context := context, action := some .finalize
      close := true }
  else if reply.token = draftId ∧ reply.base = some confirmGrvNoId then
    { state := .done, context := context, action := some .cancel
      close := true }
  else
    { state := .awaitingConfirmation, context := context }

/-- The next state and the replies for one inbound message; `now` is what
`utc_now()` returns. -/
def advance (waId : String) (state : Option ConversationState)
    (context : Option Context) (inbound : IncomingWhatsAppMessage)
    (geocode : Option ReverseGeocode) (now : Time) : Option FsmResult :=
  let context := context.getD defaultContext
  match state with
  | none => advanceNew waId context inbound geocode
  | some .expired => advanceNew waId context inbound geocode
  | some .awaitingLocation =>
      advanceAwaitingLocation waId context inbound geocode
  | some .confirmingLocation =>
      advanceConfirmingLocation waId context inbound geocode now
  | some .awaitingIssue => some (advanceAwaitingIssue waId context inbound)
  | some .awaitingPhoto => some (advanceAwaitingPhoto waId context inbound)
  | some .processing => some (advanceProcessing waId context)
  | some .photoMismatch => some (advancePhotoMismatch waId context inbound)
  | some .awaitingConfirmation =>
      some (advanceAwaitingConfirmation context inbound)
  | some .done => some { state := .done, context := context }
  | some (.unknown name) =>
      some { state := .unknown name, context := context }

/-! ## The draft -/

def Context.Message.toIssueMessage (message : Context.Message) :
    IssueMessage :=
  { type := message.type
    text := message.text
    mediaId := message.mediaId
    mimeType := message.mimeType
    localPath := none
    recordingId := none
    segmentIndex := none }

/-- What `create_draft_grievance` reads of the context. -/
def Context.toDraft (context : Context) : Pipeline.DraftContext :=
  { lat := context.location.lat
    lon := context.location.lon
    displayAddress := context.location.displayAddress
    messages := context.issue.messages.map Context.Message.toIssueMessage
    photoMediaId := context.photo.mediaId }

end JanSetu.Whatsapp
