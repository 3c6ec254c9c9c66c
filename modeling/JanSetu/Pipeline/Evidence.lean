import JanSetu.Pipeline.Classify

/-!
# Reading the evidence

The voice notes, the photo and the address of a complaint, from the outcomes
of the requests and of the file reads that they need.
-/

namespace JanSetu.Pipeline.Evidence

open Python (Json Raised Outcome Platform Returns)

structure Settings where
  whatsappAccessToken : Option String
  whatsappGraphApiVersion : String
  sarvamApiKey : Option String

/-! ## Media -/

/-- The lookup of a media id, and the download from the URL that it names. -/
structure MediaOutcomes where
  lookup : Outcome
  download : Outcome

def lookupUrl (settings : Settings) (mediaId : String) : String :=
  "https://graph.facebook.com/" ++ settings.whatsappGraphApiVersion ++ "/" ++
    mediaId

/-- `info["url"]`, with the errors of a missing URL turned into one that the
callers catch. -/
def mediaUrl (info : Json) : Except Raised Json :=
  match info.item "url" with
  | .ok url => .ok url
  | .error .keyError => .error .httpError
  | .error .typeError => .error .httpError
  | .error raised => .error raised

def downloadWhatsappMedia (platform : Platform) (settings : Settings)
    (mediaId : String) (media : MediaOutcomes) :
    Except Raised (List UInt8 × Json) :=
  if Python.truthy settings.whatsappAccessToken then do
    let lookup ←
      platform.get (.string (lookupUrl settings mediaId)) media.lookup
    lookup.raiseForStatus
    let info ← lookup.json
    let url ← mediaUrl info
    let mimeType := info.getD "mime_type" (.string "application/octet-stream")
    let download ← platform.get url media.download
    download.raiseForStatus
    pure (download.content, mimeType)
  else .error .runtimeError

/-- `normalize_mime_type`; only a string has a `partition`. -/
def normalizeMimeType (mimeType : Json) : Except Raised (Option String) :=
  if mimeType.truthy then
    match mimeType with
    | .string text =>
        let essence :=
          Python.lower (Python.strip (Python.partition ';' text).1)
        .ok (if essence = "" then none else some essence)
    | _ => .error .attributeError
  else .ok none

/-! ## Speech -/

structure TranscriptionResult where
  ok : Bool
  text : Json
  detectedLanguage : Json

def untranscribed : TranscriptionResult :=
  { ok := false, text := .null, detectedLanguage := .null }

def transcribeClip (settings : Settings) (mimeType : Json)
    (speech : Outcome) : Except Raised TranscriptionResult :=
  if Python.truthy settings.sarvamApiKey then do
    let _ ← normalizeMimeType mimeType
    match speech.json with
    | .error raised =>
        if raised.isHttpError || raised.isValueError then .ok untranscribed
        else .error raised
    | .ok body =>
        let transcript := (body.member "transcript").getD .null
        if transcript.truthy then do
          -- The length is taken for the log.
          let _ ← transcript.length
          pure
            { ok := true, text := transcript
              detectedLanguage := body.get "language_code" }
        else pure untranscribed
  else .ok untranscribed

/-! ## Voice notes and typed text -/

/-- What one message needs: the local file, or the media request, and the
transcription. -/
structure ClipOutcomes where
  read : Option (List UInt8)
  media : MediaOutcomes
  speech : Outcome

abbrev Entry := IssueMessage × ClipOutcomes

/-- One entry of the transcript metadata. -/
structure Recording where
  recordingId : String
  segmentIndex : Int
  text : Json
  language : Json
  mimeType : Json

structure IssueText where
  text : String
  detectedLanguage : Json
  flags : List String
  transcripts : List Recording

/-- The accumulators of `_combine_issue_text`. -/
structure Combining where
  parts : List Json
  detectedLanguage : Json
  flags : List String
  transcripts : List Recording
  audioIndex : Nat

/-- What `_combine_issue_text` makes of one message. -/
inductive Reading where
  | skipped
  | typed (text : String)
  /-- A voice note with neither a file nor a media id. -/
  | unsourced
  | failed
  | heard (text language mimeType : Json)

def IsClip (message : IssueMessage) : Prop :=
  message.type = "audio" ∨ message.type = "voice"

instance (message : IssueMessage) : Decidable (IsClip message) :=
  inferInstanceAs (Decidable (_ ∨ _))

def IsTyped (message : IssueMessage) : Prop :=
  message.type = "text" ∧ Python.truthy message.text = true

instance (message : IssueMessage) : Decidable (IsTyped message) :=
  inferInstanceAs (Decidable (_ ∧ _))

/-- The bytes and the MIME type of a voice note; none without a source. -/
def readClip (platform : Platform) (settings : Settings) (entry : Entry) :
    Except Raised (Option (List UInt8 × Json)) :=
  let message := entry.1
  let outcomes := entry.2
  if Python.truthy message.localPath then
    match outcomes.read with
    | some content =>
        let mimeType :=
          if Python.truthy message.mimeType then message.mimeType.getD ""
          else "audio/ogg"
        .ok (some (content, .string mimeType))
    | none => .error .osError
  else if Python.truthy message.mediaId then do
    let media ← downloadWhatsappMedia platform settings
      (message.mediaId.getD "") outcomes.media
    pure (some media)
  else .ok none

def readMessage (platform : Platform) (settings : Settings) (entry : Entry) :
    Except Raised Reading :=
  if IsTyped entry.1 then .ok (.typed (entry.1.text.getD ""))
  else if IsClip entry.1 then
    match readClip platform settings entry with
    | .error raised =>
        if raised.isHttpError || raised = .osError then .ok .failed
        else .error raised
    | .ok none => .ok .unsourced
    | .ok (some (_, mimeType)) => do
        let result ← transcribeClip settings mimeType entry.2.speech
        if result.ok && result.text.truthy then
          pure (.heard result.text result.detectedLanguage mimeType)
        else pure .failed
  else .ok .skipped

def recordingOf (message : IssueMessage) (audioIndex : Nat)
    (text language mimeType : Json) : Recording :=
  { recordingId :=
      if Python.truthy message.recordingId then message.recordingId.getD ""
      else "legacy-" ++ toString audioIndex
    segmentIndex := message.segmentIndex.getD 0
    text := text
    language := language.orElse (.string "und")
    mimeType := mimeType }

def Combining.read (state : Combining) (message : IssueMessage) :
    Reading → Combining
  | .skipped => state
  | .typed text => { state with parts := state.parts ++ [.string text] }
  | .unsourced => { state with audioIndex := state.audioIndex + 1 }
  | .failed =>
      { state with
        flags := state.flags ++ ["transcription_failed"]
        audioIndex := state.audioIndex + 1 }
  | .heard text language mimeType =>
      { parts := state.parts ++ [text]
        detectedLanguage := state.detectedLanguage.orElse language
        flags := state.flags
        transcripts := state.transcripts ++
          [recordingOf message (state.audioIndex + 1) text language mimeType]
        audioIndex := state.audioIndex + 1 }

def Combining.start : Combining :=
  { parts := [], detectedLanguage := .null, flags := [], transcripts := []
    audioIndex := 0 }

def Combining.step (platform : Platform) (settings : Settings)
    (state : Combining) (entry : Entry) : Except Raised Combining := do
  let reading ← readMessage platform settings entry
  pure (state.read entry.1 reading)

def asText : Json → Except Raised String
  | .string text => .ok text
  | _ => .error .typeError

/-- `"\n".join(parts)`, which takes only strings. -/
def joinLines (parts : List Json) : Except Raised String := do
  let texts ← parts.mapM asText
  pure (String.intercalate "\n" texts)

def combineIssueText (platform : Platform) (settings : Settings)
    (entries : List Entry) : Except Raised IssueText := do
  let state ← entries.foldlM (Combining.step platform settings) .start
  let text ← joinLines state.parts
  pure
    { text := Python.strip text
      detectedLanguage := state.detectedLanguage
      flags := state.flags
      transcripts := state.transcripts }

/-! ## The photo -/

structure PhotoOutcomes where
  read : Option (List UInt8)
  media : MediaOutcomes

/-- `_fetch_photo`, less the MIME type, which only goes into the request. -/
def fetchPhoto (platform : Platform) (settings : Settings)
    (row : Grievance) (photo : PhotoOutcomes) :
    Except Raised (Option (List UInt8)) :=
  if Python.truthy row.photoPath then .ok photo.read
  else if Python.truthy row.photoMediaId then
    match downloadWhatsappMedia platform settings
        (row.photoMediaId.getD "") photo.media with
    | .ok (content, _) => .ok (some content)
    | .error raised => if raised.isHttpError then .ok none else .error raised
  else .ok none

/-! ## The address -/

inductive GeocodeStatus where
  | ok
  | empty
  | failed
deriving DecidableEq

structure ReverseGeocode where
  status : GeocodeStatus
  displayAddress : Json

structure GeocodeOutcomes where
  /-- The row of the cache, by its address. -/
  cached : Option (Option String)
  request : Outcome

/-- A `String` or `Text` column takes no value but null or a string, and no
more characters than it is declared with.  The texts of the model are those
that PostgreSQL takes: no lone surrogates, which are no characters here, and no
null characters, in a text column and in a JSONB one. -/
def textColumn (limit : Option Nat) : Json → Except Raised (Option String)
  | .null => .ok none
  | .string text =>
      if limit.all (text.length ≤ ·) then .ok (some text)
      else .error .databaseError
  | _ => .error .databaseError

def ofText : Option String → Json
  | some text => .string text
  | none => .null

/-- `NominatimGeocoder.reverse`. -/
def reverse (request : Outcome) : Except Raised ReverseGeocode :=
  match request.json with
  | .error raised =>
      if raised.isHttpError || raised.isValueError then
        .ok { status := .failed, displayAddress := .null }
      else .error raised
  | .ok data =>
      let display := (data.member "display_name").getD .null
      if display.truthy then
        .ok { status := .ok, displayAddress := display }
      else .ok { status := .empty, displayAddress := .null }

def reverseGeocodeCached (longitude : Option ℚ)
    (outcomes : GeocodeOutcomes) : Except Raised Json :=
  -- A position without a longitude cannot be rounded.
  if longitude.isNone then .error .typeError
  else
    match outcomes.cached with
    | some address => .ok (ofText address)
    | none => do
        let result ← reverse outcomes.request
        if result.status = .failed then pure result.displayAddress
        else do
          let _ ← textColumn none result.displayAddress
          pure result.displayAddress

end JanSetu.Pipeline.Evidence
