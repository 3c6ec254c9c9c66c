import JanSetu.Db.Session
import JanSetu.Python.Integers

/-!
# The webhook parser

`iter_incoming_messages` over a payload of any shape.  The members that it
copies are whatever the payload holds; what it calls on them can raise.
-/

namespace JanSetu.Whatsapp.Raw

open Python (Json Raised Platform Returns)

/-- An inbound message as the parser builds it: apart from the time and the
coordinates nothing has been converted. -/
structure IncomingWhatsAppMessage where
  waId : Json
  profileName : Json
  metaMessageId : Json
  messageType : Json
  textBody : Json
  rawPayload : Json
  receivedAt : Time
  mediaId : Json
  mediaMimeType : Json
  locationLatitude : Option Python.Float
  locationLongitude : Option Python.Float
  locationName : Json
  locationAddress : Json
  locationUrl : Json
  replyId : Json
  interactiveType : Json
  buttonPayload : Json
  contextMessageId : Json

/-- `datetime.fromtimestamp(seconds, tz=utc)`.  Outside of the years 1 to 9999
it raises `ValueError`, or `OSError` where the C library has no such year. -/
def fromTimestamp (value : ℤ) : Except Raised Time :=
  if value < -2 ^ 63 ∨ 2 ^ 63 ≤ value then .error .overflowError
  else if -62135596800 ≤ value ∧ value ≤ 253402300799 then
    .ok (value * 1000000)
  else .error .valueError

def parseWhatsappTimestamp (now : Time) (value : Json) : Except Raised Time :=
  match value with
  | .null => .ok now
  | _ =>
      match (do fromTimestamp (← Python.intOf value)) with
      | .error .typeError => .ok now
      | .error .valueError => .ok now
      | .error .osError => .ok now
      | result => result

def mediaMessageTypes : List String :=
  ["image", "audio", "video", "document", "voice", "sticker"]

structure MessageContent where
  textBody : Json := .null
  mediaId : Json := .null
  mediaMimeType : Json := .null

def extractMessageContent (message messageType : Json) :
    Except Raised MessageContent :=
  if messageType.text = some "text" then
    let body := message.getD "text" (.object [])
    .ok { textBody := if body.isObject then body.get "body" else .null }
  else do
    if ← messageType.isIn mediaMessageTypes then
      let media ← message.getKey messageType
      if media.isObject then
        return { textBody := media.get "caption"
                 mediaId := media.get "id"
                 mediaMimeType := media.get "mime_type" }
    return {}

def asFloat (platform : Platform) (value : Json) :
    Except Raised (Option Python.Float) :=
  match platform.float value with
  | .ok value => .ok (some value)
  | .error .typeError => .ok none
  | .error .valueError => .ok none
  | .error raised => .error raised

structure Location where
  latitude : Option Python.Float := none
  longitude : Option Python.Float := none
  name : Json := .null
  address : Json := .null
  url : Json := .null

def extractLocation (platform : Platform) (message messageType : Json) :
    Except Raised Location :=
  let location := message.getD "location" (.object [])
  if messageType.text = some "location" && location.isObject then do
    let latitude ← asFloat platform (location.get "latitude")
    let longitude ← asFloat platform (location.get "longitude")
    return { latitude := latitude
             longitude := longitude
             name := location.get "name"
             address := location.get "address"
             url := location.get "url" }
  else .ok {}

structure Reply where
  replyId : Json := .null
  interactiveType : Json := .null
  buttonPayload : Json := .null

def extractReply (message messageType : Json) : Except Raised Reply :=
  if messageType.text = some "interactive" then do
    let interactive := message.getD "interactive" (.object [])
    if interactive.isObject then
      let interactiveType := interactive.get "type"
      let reply ←
        if interactiveType.truthy then interactive.getKey interactiveType
        else .ok (.object [])
      return { replyId := if reply.isObject then reply.get "id" else .null
               interactiveType := interactiveType }
    else return {}
  else if messageType.text = some "button" then
    let button := message.getD "button" (.object [])
    if button.isObject then
      .ok { replyId := button.get "payload"
            interactiveType := .string "button"
            buttonPayload := button.get "payload" }
    else .ok {}
  else .ok {}

/-- One item of the `dict` of the contacts' names. -/
def contactName (contact : Json) : Except Raised (Json × Json) := do
  let waId ← contact.callGet "wa_id" .null
  let profile ← contact.callGet "profile" (.object [])
  let name ← profile.callGet "name" .null
  if waId.hashable then return (waId, name)
  else .error .typeError

/-- Equal as keys of a `dict`. -/
def sameKey : Json → Json → Bool
  | .null, .null => true
  | .string left, .string right => left = right
  | .float .infinity, .float .infinity => true
  | .float .negativeInfinity, .float .negativeInfinity => true
  | left, right =>
      match number left, number right with
      | some left, some right => left = right
      | _, _ => false
where
  number : Json → Option ℚ
    | .bool value => some (if value then 1 else 0)
    | .int value => some value
    | .float (.finite value) => some value
    | _ => none

/-- `contact_names.get(wa_id)`; of two contacts with one id the later counts. -/
def nameOf (names : List (Json × Json)) (waId : Json) : Except Raised Json :=
  if waId.hashable then
    .ok ((names.reverse.find? fun entry => sameKey entry.1 waId).elim .null
      Prod.snd)
  else .error .typeError

/-- One pass of the innermost loop; a message without sender or id is
skipped. -/
def readMessage (platform : Platform) (now : Time)
    (names : List (Json × Json)) (message : Json) :
    Except Raised (Option IncomingWhatsAppMessage) := do
  let waId ← message.callGet "from" .null
  let metaMessageId ← message.callGet "id" .null
  if waId.truthy && metaMessageId.truthy then
    let messageType := message.getD "type" (.string "unknown")
    let content ← extractMessageContent message messageType
    let location ← extractLocation platform message messageType
    let reply ← extractReply message messageType
    let context := message.getD "context" (.object [])
    let name ← nameOf names waId
    let receivedAt ← parseWhatsappTimestamp now (message.get "timestamp")
    return some
      { waId := waId
        profileName := name
        metaMessageId := metaMessageId
        messageType := messageType
        textBody := content.textBody
        rawPayload := message
        receivedAt := receivedAt
        mediaId := content.mediaId
        mediaMimeType := content.mediaMimeType
        locationLatitude := location.latitude
        locationLongitude := location.longitude
        locationName := location.name
        locationAddress := location.address
        locationUrl := location.url
        replyId := reply.replyId
        interactiveType := reply.interactiveType
        buttonPayload := reply.buttonPayload
        contextMessageId :=
          if context.isObject then context.get "id" else .null }
  else return none

def readChange (platform : Platform) (now : Time) (change : Json) :
    Except Raised (List IncomingWhatsAppMessage) := do
  let value ← change.callGet "value" (.object [])
  let contacts ← value.callGet "contacts" (.array [])
  let names ← (← contacts.iterate).mapM contactName
  let messages ← value.callGet "messages" (.array [])
  let read ← (← messages.iterate).mapM (readMessage platform now names)
  return read.filterMap id

def readEntry (platform : Platform) (now : Time) (entry : Json) :
    Except Raised (List IncomingWhatsAppMessage) := do
  let changes ← entry.callGet "changes" (.array [])
  let read ← (← changes.iterate).mapM (readChange platform now)
  return read.flatten

/-- The messages of a payload; `now` is what `datetime.now` returns. -/
def iterIncomingMessages (platform : Platform) (now : Time) (payload : Json) :
    Except Raised (List IncomingWhatsAppMessage) := do
  let entries ← payload.callGet "entry" (.array [])
  let read ← (← entries.iterate).mapM (readEntry platform now)
  return read.flatten

/-! ## The payloads that are read -/

/-- A walk over the items of a value that each can be walked. -/
def Each (borne : Json → Prop) (value : Json) : Prop :=
  value.Iterable ∧ ∀ item ∈ value.items, borne item

/-- An integer coordinate is one that a double can hold. -/
def CoordinateBorne (value : Json) : Prop :=
  ∀ number, value = .int number → Platform.fitsDouble number = true

/-- The timestamp is no infinity and no second outside of 64 bits. -/
def TimestampBorne (value : Json) : Prop :=
  value ≠ .float .infinity ∧ value ≠ .float .negativeInfinity ∧
    ∀ seconds, Python.intOf value = .ok seconds →
      -2 ^ 63 ≤ seconds ∧ seconds < 2 ^ 63

def LocationBorne (message messageType : Json) : Prop :=
  let location := message.getD "location" (.object [])
  messageType = .string "location" → location.IsObject →
    CoordinateBorne (location.get "latitude") ∧
      CoordinateBorne (location.get "longitude")

def ReplyBorne (message messageType : Json) : Prop :=
  let interactive := message.getD "interactive" (.object [])
  messageType = .string "interactive" → interactive.IsObject →
    (interactive.get "type").truthy = true →
      (interactive.get "type").hashable = true

/-- A message with a sender and an id. -/
structure KeptBorne (message : Json) : Prop where
  sender : (message.get "from").hashable = true
  messageType : (message.getD "type" (.string "unknown")).hashable = true
  location : LocationBorne message (message.getD "type" (.string "unknown"))
  reply : ReplyBorne message (message.getD "type" (.string "unknown"))
  timestamp : TimestampBorne (message.get "timestamp")

def MessageBorne (message : Json) : Prop :=
  message.IsObject ∧
    ((message.get "from").truthy = true → (message.get "id").truthy = true →
      KeptBorne message)

structure ContactBorne (contact : Json) : Prop where
  isObject : contact.IsObject
  waId : (contact.get "wa_id").hashable = true
  profile : (contact.getD "profile" (.object [])).IsObject

structure ValueBorne (value : Json) : Prop where
  isObject : value.IsObject
  contacts : Each ContactBorne (value.getD "contacts" (.array []))
  messages : Each MessageBorne (value.getD "messages" (.array []))

def ChangeBorne (change : Json) : Prop :=
  change.IsObject ∧ ValueBorne (change.getD "value" (.object []))

def EntryBorne (entry : Json) : Prop :=
  entry.IsObject ∧ Each ChangeBorne (entry.getD "changes" (.array []))

def PayloadBorne (payload : Json) : Prop :=
  payload.IsObject ∧ Each EntryBorne (payload.getD "entry" (.array []))

section

variable {platform : Platform} {now : Time} {α : Type}

theorem returns_callGet_bind {value default : Json} {name : String}
    {next : Json → Except Raised α} :
    Returns (value.callGet name default >>= next) ↔
      value.IsObject ∧ Returns (next (value.getD name default)) := by
  rw [Python.returns_bind]
  constructor
  · intro read
    obtain ⟨found, called, rest⟩ := read
    obtain ⟨isObject, same⟩ := Json.callGet_ok.mp called
    subst same
    exact ⟨isObject, rest⟩
  · intro read
    obtain ⟨isObject, rest⟩ := read
    exact ⟨_, Json.callGet_ok.mpr ⟨isObject, rfl⟩, rest⟩

/-- A walk returns when its body does on every item. -/
theorem returns_walk {β : Type} {value : Json} {step : Json → Except Raised α}
    {next : List α → Except Raised β} {rests : Prop}
    (rest : ∀ read, Returns (next read) ↔ rests) :
    Returns (value.iterate >>= fun items => items.mapM step >>= next) ↔
      Each (fun item => Returns (step item)) value ∧ rests := by
  rw [Python.returns_bind]
  constructor
  · intro walked
    obtain ⟨items, iterated, after⟩ := walked
    obtain ⟨iterable, same⟩ := Json.iterate_ok.mp iterated
    subst same
    obtain ⟨each, rests⟩ := (Python.returns_bind_and rest).mp after
    exact ⟨⟨iterable, Python.returns_mapM.mp each⟩, rests⟩
  · intro both
    obtain ⟨each, rests⟩ := both
    exact ⟨value.items, Json.iterate_ok.mpr ⟨each.1, rfl⟩,
      (Python.returns_bind_and rest).mpr
        ⟨Python.returns_mapM.mpr each.2, rests⟩⟩

theorem returns_last_walk {β : Type} {value : Json}
    {step : Json → Except Raised α} {combine : List α → β} :
    Returns (value.iterate >>= fun items =>
        items.mapM step >>= fun read => pure (combine read)) ↔
      Each (fun item => Returns (step item)) value := by
  rw [returns_walk fun read => iff_true_intro
    (Python.returns_pure (combine read)), and_true]

theorem returns_asFloat {value : Json} :
    Returns (asFloat platform value) ↔ CoordinateBorne value := by
  unfold asFloat CoordinateBorne Platform.float
  cases value with
  | int number =>
      cases fits : Platform.fitsDouble number with
      | true => simp [fits, Python.returns_ok]
      | false => simp [fits, Python.not_returns_error]
  | string text =>
      cases read : platform.floatOfText text with
      | none => simp [read, Python.returns_ok]
      | some number => simp [read, Python.returns_ok]
  | _ => simp [Python.returns_ok]

theorem fromTimestamp_cases (seconds : ℤ) :
    (fromTimestamp seconds = .error .overflowError ∧
        ¬ (-2 ^ 63 ≤ seconds ∧ seconds < 2 ^ 63)) ∨
      ((fromTimestamp seconds = .error .valueError ∨
          fromTimestamp seconds = .ok (seconds * 1000000)) ∧
        -2 ^ 63 ≤ seconds ∧ seconds < 2 ^ 63) := by
  unfold fromTimestamp
  split
  · refine .inl ⟨rfl, ?_⟩
    omega
  · refine .inr ⟨?_, by omega, by omega⟩
    split
    · exact .inr rfl
    · exact .inl rfl

theorem finite_of_intOf {value : Json}
    (converts : Python.intOf value ≠ .error .overflowError) :
    value ≠ .float .infinity ∧ value ≠ .float .negativeInfinity := by
  constructor
  · intro same
    subst same
    exact converts rfl
  · intro same
    subst same
    exact converts rfl

/-- The exceptions that the conversion of a timestamp lets through. -/
theorem returns_parseWhatsappTimestamp {value : Json} :
    Returns (parseWhatsappTimestamp now value) ↔ TimestampBorne value := by
  unfold parseWhatsappTimestamp TimestampBorne
  split
  · simp [Python.returns_ok, Python.intOf]
  · cases converted : Python.intOf value with
    | error raised =>
        have failed : (do fromTimestamp (← (.error raised : Except Raised ℤ))) =
            .error raised := rfl
        rw [failed]
        obtain caught | ⟨overflow, infinite⟩ := Python.intOf_error converted
        · have finite := finite_of_intOf (by
            intro overflow
            rw [overflow] at converted
            obtain rfl := Except.error.inj converted
            simp at caught)
          obtain rfl | rfl := caught
          · simp [finite, Python.returns_ok]
          · simp [finite, Python.returns_ok]
        · subst overflow
          obtain rfl | rfl := infinite
          · simp [Python.not_returns_error]
          · simp [Python.not_returns_error]
    | ok seconds =>
        have finite := finite_of_intOf (by
          rw [converted]
          intro same
          cases same)
        have ran : (do fromTimestamp (← (.ok seconds : Except Raised ℤ))) =
            fromTimestamp seconds := rfl
        rw [ran]
        simp only [Except.ok.injEq, forall_eq', ne_eq, finite, not_false_eq_true,
          true_and]
        obtain ⟨overflow, outside⟩ | ⟨result, inside⟩ :=
          fromTimestamp_cases seconds
        · simp only [overflow, outside, Python.not_returns_error]
        · obtain failed | done := result
          · simp only [failed, inside, and_self, Python.returns_ok]
          · simp only [done, inside, and_self, Python.returns_ok]

/-- Only a type that is no key of a set stops the reading of the content. -/
theorem returns_extractMessageContent {message messageType : Json} :
    Returns (extractMessageContent message messageType) ↔
      messageType.hashable = true := by
  unfold extractMessageContent
  split
  · rename_i isText
    rw [Json.text_eq.mp isText]
    simp [Python.returns_ok, Json.hashable]
  · rw [Python.returns_bind]
    constructor
    · intro read
      obtain ⟨found, tested, _⟩ := read
      exact Json.returns_isIn.mp ⟨found, tested⟩
    · intro hashable
      obtain ⟨found, tested⟩ := Json.returns_isIn.mpr hashable
      refine ⟨found, tested, ?_⟩
      cases found with
      | false => exact Python.returns_pure _
      | true =>
          obtain ⟨media, read⟩ := Json.returns_getKey.mpr hashable
          rw [if_pos rfl, Python.returns_bind]
          refine ⟨media, read, ?_⟩
          split
          · exact Python.returns_pure _
          · exact Python.returns_pure _

theorem returns_extractLocation {message messageType : Json} :
    Returns (extractLocation platform message messageType) ↔
      LocationBorne message messageType := by
  unfold extractLocation LocationBorne
  dsimp only
  split
  · rename_i located
    rw [Bool.and_eq_true, decide_eq_true_eq, Json.text_eq,
      Json.isObject_iff] at located
    simp only [located, true_implies]
    refine Iff.trans (Python.returns_bind_and fun _ =>
      Python.returns_bind_of fun _ => Python.returns_pure _) ?_
    rw [returns_asFloat, returns_asFloat]
  · rename_i elsewhere
    rw [Bool.and_eq_true, decide_eq_true_eq, Json.text_eq,
      Json.isObject_iff] at elsewhere
    constructor
    · intro _ isLocation isObject
      exact absurd ⟨isLocation, isObject⟩ elsewhere
    · intro _
      exact Python.returns_ok _

theorem returns_extractReply {message messageType : Json} :
    Returns (extractReply message messageType) ↔
      ReplyBorne message messageType := by
  unfold extractReply ReplyBorne
  dsimp only
  split
  · rename_i interactive
    rw [Json.text_eq] at interactive
    simp only [interactive, true_implies]
    split
    · rename_i isObject
      rw [Json.isObject_iff] at isObject
      simp only [isObject, true_implies]
      split
      · rename_i typed
        rw [Python.returns_bind_of (fun _ => Python.returns_pure _)]
        simp only [typed, true_implies]
        exact Json.returns_getKey
      · rename_i untyped
        rw [Python.returns_bind_of (fun _ => Python.returns_pure _)]
        simp [untyped, Python.returns_ok]
    · rename_i unlike
      rw [Json.isObject_iff] at unlike
      simp [unlike, Python.returns_pure]
  · rename_i other
    rw [Json.text_eq] at other
    constructor
    · intro _ interactive
      exact absurd interactive other
    · intro _
      split
      · split
        · exact Python.returns_ok _
        · exact Python.returns_ok _
      · exact Python.returns_ok _

theorem returns_nameOf {names : List (Json × Json)} {waId : Json} :
    Returns (nameOf names waId) ↔ waId.hashable = true := by
  unfold nameOf
  split
  · simp [*, Python.returns_ok]
  · simp [*, Python.not_returns_error]

theorem returns_contactName {contact : Json} :
    Returns (contactName contact) ↔ ContactBorne contact := by
  unfold contactName
  rw [returns_callGet_bind, returns_callGet_bind, returns_callGet_bind]
  constructor
  · intro read
    obtain ⟨isObject, _, profile, rest⟩ := read
    refine ⟨isObject, ?_, profile⟩
    by_contra unhashable
    change (contact.getD "wa_id" .null).hashable ≠ true at unhashable
    rw [if_neg unhashable] at rest
    exact Python.not_returns_error _ rest
  · intro borne
    refine ⟨borne.isObject, borne.isObject, borne.profile, ?_⟩
    have hashable : (contact.getD "wa_id" .null).hashable = true := borne.waId
    rw [if_pos hashable]
    exact Python.returns_pure _

theorem returns_readMessage {names : List (Json × Json)} {message : Json} :
    Returns (readMessage platform now names message) ↔
      MessageBorne message := by
  unfold readMessage MessageBorne
  rw [returns_callGet_bind, returns_callGet_bind]
  dsimp only
  split
  · rename_i kept
    rw [Bool.and_eq_true] at kept
    refine Iff.trans (and_congr_right fun _ => and_congr_right fun _ =>
      Python.returns_bind_and fun _ => Python.returns_bind_and fun _ =>
        Python.returns_bind_and fun _ => Python.returns_bind_and fun _ =>
          Python.returns_bind_of fun _ => Python.returns_pure _) ?_
    rw [returns_extractMessageContent, returns_extractLocation,
      returns_extractReply, returns_nameOf, returns_parseWhatsappTimestamp]
    constructor
    · intro read
      obtain ⟨isObject, _, messageType, location, reply, sender, timestamp⟩ :=
        read
      refine ⟨isObject, ?_⟩
      intro _ _
      exact ⟨sender, messageType, location, reply, timestamp⟩
    · intro borne
      obtain ⟨isObject, keeps⟩ := borne
      have whole := keeps kept.1 kept.2
      exact ⟨isObject, isObject, whole.messageType, whole.location, whole.reply,
        whole.sender, whole.timestamp⟩
  · rename_i skipped
    rw [Bool.and_eq_true] at skipped
    constructor
    · intro read
      refine ⟨read.1, ?_⟩
      intro sender id
      exact absurd ⟨sender, id⟩ skipped
    · intro borne
      exact ⟨borne.1, borne.1, Python.returns_pure _⟩

theorem returns_readChange {change : Json} :
    Returns (readChange platform now change) ↔ ChangeBorne change := by
  unfold readChange ChangeBorne
  rw [returns_callGet_bind, returns_callGet_bind]
  -- The names of the contacts do not decide whether a message is read.
  have messages (names : List (Json × Json)) (found : Json) :
      Each (fun message => Returns (readMessage platform now names message))
          found ↔
        Each MessageBorne found := by
    simp only [returns_readMessage]
  refine Iff.trans (and_congr_right fun _ => and_congr_right fun _ =>
    returns_walk fun names => Iff.trans returns_callGet_bind
      (and_congr_right fun _ =>
        Iff.trans returns_last_walk (messages names _))) ?_
  simp only [returns_contactName]
  constructor
  · intro read
    obtain ⟨isObject, isValue, contacts, _, messages⟩ := read
    exact ⟨isObject, isValue, contacts, messages⟩
  · intro borne
    obtain ⟨isObject, value⟩ := borne
    exact ⟨isObject, value.isObject, value.contacts, value.isObject,
      value.messages⟩

theorem returns_readEntry {entry : Json} :
    Returns (readEntry platform now entry) ↔ EntryBorne entry := by
  unfold readEntry EntryBorne
  rw [returns_callGet_bind, returns_last_walk]
  simp only [returns_readChange]

/-- The parser returns on exactly the payloads of the shape above. -/
theorem returns_iterIncomingMessages {payload : Json} :
    Returns (iterIncomingMessages platform now payload) ↔
      PayloadBorne payload := by
  unfold iterIncomingMessages PayloadBorne
  rw [returns_callGet_bind, returns_last_walk]
  simp only [returns_readEntry]

/-! ## The messages that are read -/

variable {inbound : IncomingWhatsAppMessage}

theorem exists_of_mem_readChange {change : Json}
    {messages : List IncomingWhatsAppMessage}
    (read : readChange platform now change = .ok messages)
    (member : inbound ∈ messages) :
    ∃ names message,
      readMessage platform now names message = .ok (some inbound) := by
  unfold readChange at read
  obtain ⟨value, _, rest⟩ := Python.bind_ok.mp read
  obtain ⟨contacts, _, rest⟩ := Python.bind_ok.mp rest
  obtain ⟨items, _, rest⟩ := Python.bind_ok.mp rest
  obtain ⟨names, _, rest⟩ := Python.bind_ok.mp rest
  obtain ⟨found, _, rest⟩ := Python.bind_ok.mp rest
  obtain ⟨listed, _, rest⟩ := Python.bind_ok.mp rest
  obtain ⟨results, walked, last⟩ := Python.bind_ok.mp rest
  obtain rfl := Python.pure_ok.mp last
  obtain ⟨result, inside, same⟩ := List.mem_filterMap.mp member
  obtain ⟨message, _, reads⟩ := Python.exists_of_mem_mapM walked inside
  exact ⟨names, message, reads.trans (congrArg _ same)⟩

theorem exists_of_mem_readEntry {entry : Json}
    {messages : List IncomingWhatsAppMessage}
    (read : readEntry platform now entry = .ok messages)
    (member : inbound ∈ messages) :
    ∃ names message,
      readMessage platform now names message = .ok (some inbound) := by
  unfold readEntry at read
  obtain ⟨changes, _, rest⟩ := Python.bind_ok.mp read
  obtain ⟨items, _, rest⟩ := Python.bind_ok.mp rest
  obtain ⟨results, walked, last⟩ := Python.bind_ok.mp rest
  obtain rfl := Python.pure_ok.mp last
  obtain ⟨found, inside, held⟩ := List.mem_flatten.mp member
  obtain ⟨change, _, reads⟩ := Python.exists_of_mem_mapM walked inside
  exact exists_of_mem_readChange reads held

/-- Every message of a payload has been read from one of its items. -/
theorem exists_of_mem_iterIncomingMessages {payload : Json}
    {messages : List IncomingWhatsAppMessage}
    (parsed : iterIncomingMessages platform now payload = .ok messages)
    (member : inbound ∈ messages) :
    ∃ names message,
      readMessage platform now names message = .ok (some inbound) := by
  unfold iterIncomingMessages at parsed
  obtain ⟨entries, _, rest⟩ := Python.bind_ok.mp parsed
  obtain ⟨items, _, rest⟩ := Python.bind_ok.mp rest
  obtain ⟨results, walked, last⟩ := Python.bind_ok.mp rest
  obtain rfl := Python.pure_ok.mp last
  obtain ⟨found, inside, held⟩ := List.mem_flatten.mp member
  obtain ⟨entry, _, reads⟩ := Python.exists_of_mem_mapM walked inside
  exact exists_of_mem_readEntry reads held

theorem readMessage_messageType {names : List (Json × Json)} {message : Json}
    (read : readMessage platform now names message = .ok (some inbound)) :
    inbound.messageType.hashable = true := by
  unfold readMessage at read
  obtain ⟨waId, _, rest⟩ := Python.bind_ok.mp read
  obtain ⟨metaMessageId, _, rest⟩ := Python.bind_ok.mp rest
  split at rest
  · obtain ⟨content, extracted, rest⟩ := Python.bind_ok.mp rest
    obtain ⟨location, _, rest⟩ := Python.bind_ok.mp rest
    obtain ⟨reply, _, rest⟩ := Python.bind_ok.mp rest
    obtain ⟨name, _, rest⟩ := Python.bind_ok.mp rest
    obtain ⟨receivedAt, _, last⟩ := Python.bind_ok.mp rest
    obtain rfl := Option.some.inj (Python.pure_ok.mp last)
    exact returns_extractMessageContent.mp ⟨content, extracted⟩
  · cases Python.pure_ok.mp rest

end

end JanSetu.Whatsapp.Raw
