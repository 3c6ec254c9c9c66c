import JanSetu.Officials.Login
import JanSetu.Pipeline.Transcripts
import JanSetu.Whatsapp.Parser
import JanSetu.Whatsapp.Store
import Mathlib.Algebra.Order.Ring.Nat
import Mathlib.Data.List.Sort

/-!
# The webhook endpoint

`receive_webhook` and the part of `drive_event` that reads the event, for a
body of any bytes.  The endpoint parses the payload before it commits the
event and counts its statuses after that.
-/

namespace JanSetu.Whatsapp.Raw

open Officials (Environment)
open Python (Json Raised Platform Returns)

structure Settings where
  environment : Environment
  whatsappAppSecret : Option String
  autoReplyEnabled : Bool

structure Request where
  rawBody : List UInt8
  xHubSignature256 : Option String

/-- What is computed outside of the program: the digest of a message under a
key, the decoding of a body, and whether the column of the payloads takes a
value. -/
structure Web where
  platform : Platform
  hexdigest : String → List UInt8 → String
  json : List UInt8 → Except Raised Json
  accepts : Json → Bool

def isDevelopmentEnvironment (environment : Environment) : Bool :=
  environment = .development || environment = .test

structure WebhookEvent where
  payload : Json
  signatureValid : Bool

inductive Response where
  | accepted (messagesSeen : Nat)
  | refused (status : Nat) (detail : String)
deriving DecidableEq

/-- The event that the endpoint has committed, and how it ends. -/
structure Received where
  event : Option WebhookEvent
  response : Except Raised Response

def Received.refused (status : Nat) (detail : String) : Received :=
  { event := none, response := .ok (.refused status detail) }

def Received.raised (raised : Raised) : Received :=
  { event := none, response := .error raised }

/-- The number of entries and the number of statuses, for the log. -/
def countStatuses (payload : Json) : Except Raised (Nat × Nat) := do
  let entryCount ← (payload.getD "entry" (.array [])).length
  let entries ← payload.callGet "entry" (.array [])
  let seen ← (← entries.iterate).mapM fun entry => do
    let changes ← entry.callGet "changes" (.array [])
    let counts ← (← changes.iterate).mapM fun change => do
      let value ← change.callGet "value" (.object [])
      let statuses ← value.callGet "statuses" (.array [])
      statuses.length
    return counts.sum
  return (entryCount, seen.sum)

section

variable (web : Web) (settings : Settings)

def verifyMetaSignature (rawBody : List UInt8)
    (signatureHeader appSecret : Option String) : Except Raised Bool :=
  match appSecret with
  | none => .ok true
  | some secretValue =>
      match signatureHeader with
      | none => .ok false
      | some header =>
          if Python.startsWith header "sha256=" then
            let digest := web.hexdigest secretValue rawBody
            match Officials.compareDigest header ("sha256=" ++ digest) with
            | some same => .ok same
            | none => .error .typeError
          else .ok false

/-- The endpoint with a payload that is a `dict`. -/
def acceptPayload (payload : Json) (signatureValid : Bool) (now : Time) :
    Received :=
  match iterIncomingMessages web.platform now payload with
  | .error raised => .raised raised
  | .ok incomingMessages =>
      if web.accepts payload then
        { event :=
            some { payload := payload, signatureValid := signatureValid }
          response := do
            let _ ← countStatuses payload
            return .accepted incomingMessages.length }
      else .raised .databaseError

def receiveWebhook (request : Request) (now : Time) : Received :=
  if settings.whatsappAppSecret.isNone &&
      !isDevelopmentEnvironment settings.environment then
    .refused 503 "WHATSAPP_APP_SECRET is required outside development."
  else
    match verifyMetaSignature web request.rawBody request.xHubSignature256
        settings.whatsappAppSecret with
    | .error raised => .raised raised
    | .ok false => .refused 401 "Invalid signature"
    | .ok true =>
        match web.json request.rawBody with
        | .error .jsonDecodeError => .refused 400 "Invalid JSON payload"
        | .error raised => .raised raised
        | .ok payload =>
            if payload.isObject then acceptPayload web payload true now
            else .refused 400 "Webhook payload must be an object"

/-! ## The drive of an event -/

/-- What `claim_event` returns to the winner of the claim. -/
structure Claim where
  payload : Json
  attemptCount : Nat

inductive Driven where
  | skipped
  | poisoned
  | storeFailed
  | unfinished
  | processed (messagesStored : Nat)
deriving DecidableEq

/-- The storing of the messages, with a flag for each that is new, and the
turn of one message: whatever they do, and whatever they raise. -/
structure Handlers where
  store : List IncomingWhatsAppMessage → Except Raised (List Bool)
  handleInbound : IncomingWhatsAppMessage → Except Raised Unit

def freshMessages (messages : List IncomingWhatsAppMessage)
    (created : List Bool) : List IncomingWhatsAppMessage :=
  ((messages.zip created).filterMap fun (incoming, isNew) =>
    if isNew then some incoming else none).insertionSort
      fun first second => first.receivedAt ≤ second.receivedAt

/-- `drive_event` after its claim.  The parsing of the payload is the one part
of it that no `except` clause surrounds. -/
def driveEvent (handlers : Handlers) (claim : Option Claim) (now : Time) :
    Except Raised Driven :=
  match claim with
  | none => .ok .skipped
  | some claim =>
      if maxEventAttempts < claim.attemptCount then .ok .poisoned
      else do
        let messages ← iterIncomingMessages web.platform now claim.payload
        match handlers.store messages with
        | .error _ => return .storeFailed
        | .ok created =>
            let turns := (freshMessages messages created).map
              handlers.handleInbound
            let allOk := turns.all fun turn => turn.toBool
            if settings.autoReplyEnabled && !allOk then return .unfinished
            else return .processed (created.countP id)

/-! ## The webhooks that are kept -/

/-- The endpoint is configured and the signature of the body holds. -/
structure IsAuthentic (request : Request) : Prop where
  configured : settings.whatsappAppSecret.isSome = true ∨
    isDevelopmentEnvironment settings.environment = true
  signed : verifyMetaSignature web request.rawBody request.xHubSignature256
    settings.whatsappAppSecret = .ok true

/-- The event is committed with the payload of the body and acknowledged, and
no drive of it raises. -/
def IsKept (request : Request) (now : Time) : Prop :=
  ∃ payload messagesSeen,
    web.json request.rawBody = .ok payload ∧
      receiveWebhook web settings request now =
        { event := some { payload := payload, signatureValid := true }
          response := .ok (.accepted messagesSeen) } ∧
      ∀ handlers claim later,
        (∀ claimed ∈ claim, claimed.payload = payload) →
          Returns (driveEvent web settings handlers claim later)

/-- The statuses of every change can be counted. -/
def StatusesSized (payload : Json) : Prop :=
  ∀ entry ∈ (payload.getD "entry" (.array [])).items,
    ∀ change ∈ (entry.getD "changes" (.array [])).items,
      ((change.getD "value" (.object [])).getD "statuses" (.array [])).Iterable

variable {web settings} {request : Request} {now : Time}

theorem returns_countStatuses {payload : Json} (borne : PayloadBorne payload) :
    Returns (countStatuses payload) ↔ StatusesSized payload := by
  obtain ⟨isObject, iterable, entries⟩ := borne
  have counted : Returns (countStatuses payload) ↔
      payload.IsObject ∧
        Each (fun entry => entry.IsObject ∧
          Each (fun change => change.IsObject ∧
            (change.getD "value" (.object [])).IsObject ∧
              ((change.getD "value" (.object [])).getD "statuses"
                (.array [])).Iterable)
            (entry.getD "changes" (.array [])))
          (payload.getD "entry" (.array [])) := by
    obtain ⟨entryCount, sized⟩ := Json.returns_length.mpr iterable
    unfold countStatuses
    rw [sized]
    refine Iff.trans returns_callGet_bind (and_congr_right fun _ => ?_)
    rw [returns_last_walk]
    simp only [returns_callGet_bind, returns_last_walk, Json.returns_length]
  rw [counted]
  constructor
  · intro each entry member change inner
    exact ((each.2.2 entry member).2.2 change inner).2.2
  · intro sized
    refine ⟨isObject, iterable, ?_⟩
    intro entry member
    obtain ⟨isEntry, walked, changes⟩ := entries entry member
    refine ⟨isEntry, walked, ?_⟩
    intro change inner
    obtain ⟨isChange, value⟩ := changes change inner
    exact ⟨isChange, value.isObject, sized entry member change inner⟩

/-- A drive raises when it parses a payload that cannot be parsed. -/
theorem returns_driveEvent {handlers : Handlers} {claim : Claim} :
    Returns (driveEvent web settings handlers (some claim) now) ↔
      maxEventAttempts < claim.attemptCount ∨ PayloadBorne claim.payload := by
  unfold driveEvent
  dsimp only
  split
  · simp [*, Python.returns_ok]
  · rename_i attempts
    simp only [attempts, false_or]
    rw [← returns_iterIncomingMessages]
    refine Python.returns_bind_of ?_
    intro messages
    split
    · exact Python.returns_pure _
    · split
      · exact Python.returns_pure _
      · exact Python.returns_pure _

/-- What the endpoint does with a body that it may read. -/
theorem receiveWebhook_of_authentic {payload : Json}
    (authentic : IsAuthentic web settings request)
    (decoded : web.json request.rawBody = .ok payload) :
    receiveWebhook web settings request now =
      if payload.isObject then acceptPayload web payload true now
      else .refused 400 "Webhook payload must be an object" := by
  have configured : ¬ (settings.whatsappAppSecret.isNone &&
      !isDevelopmentEnvironment settings.environment) = true := by
    obtain secret | development := authentic.configured
    · obtain ⟨value, same⟩ := Option.isSome_iff_exists.mp secret
      simp [same]
    · simp [development]
  unfold receiveWebhook
  rw [if_neg configured, authentic.signed]
  simp only [decoded]

theorem acceptPayload_accepted {payload : Json} {event : WebhookEvent}
    {messagesSeen : Nat} :
    acceptPayload web payload true now =
        { event := some event, response := .ok (.accepted messagesSeen) } ↔
      ∃ incoming, iterIncomingMessages web.platform now payload = .ok incoming ∧
        web.accepts payload = true ∧ Returns (countStatuses payload) ∧
          event = { payload := payload, signatureValid := true } ∧
            messagesSeen = incoming.length := by
  unfold acceptPayload
  cases read : iterIncomingMessages web.platform now payload with
  | error raised => simp [Received.raised]
  | ok incoming =>
      simp only [Except.ok.injEq, exists_eq_left']
      cases web.accepts payload with
      | false => simp [Received.raised]
      | true =>
          cases countStatuses payload with
          | error raised =>
              simp [Python.not_returns_error, Bind.bind, Except.bind]
          | ok counts =>
              simp [Python.returns_ok, Bind.bind, Except.bind, Pure.pure,
                Except.pure, eq_comm]

/-- An authentic webhook is kept exactly when its body decodes to a `dict`
that the column takes, of the shape that the walks over it bear. -/
theorem kept_iff_payload_borne
    (authentic : IsAuthentic web settings request) :
    IsKept web settings request now ↔
      ∃ payload, web.json request.rawBody = .ok payload ∧
        web.accepts payload = true ∧ PayloadBorne payload ∧
          StatusesSized payload := by
  constructor
  · intro kept
    obtain ⟨payload, messagesSeen, decoded, received, _⟩ := kept
    rw [receiveWebhook_of_authentic authentic decoded] at received
    split at received
    · obtain ⟨incoming, read, accepts, counted, _⟩ :=
        acceptPayload_accepted.mp received
      have borne : PayloadBorne payload :=
        returns_iterIncomingMessages.mp ⟨incoming, read⟩
      exact ⟨payload, decoded, accepts, borne,
        (returns_countStatuses borne).mp counted⟩
    · cases received
  · intro shaped
    obtain ⟨payload, decoded, accepts, borne, sized⟩ := shaped
    have parses : Returns (iterIncomingMessages web.platform now payload) :=
      returns_iterIncomingMessages.mpr borne
    obtain ⟨incoming, read⟩ := parses
    refine ⟨payload, incoming.length, decoded, ?_, ?_⟩
    · rw [receiveWebhook_of_authentic authentic decoded,
        if_pos (Json.isObject_iff.mpr borne.1)]
      exact acceptPayload_accepted.mpr ⟨incoming, read, accepts,
        (returns_countStatuses borne).mpr sized, rfl, rfl⟩
    · intro handlers claim later same
      cases claim with
      | none => exact Python.returns_ok _
      | some claimed =>
          apply returns_driveEvent.mpr
          rw [same claimed rfl]
          exact .inr borne

end

/-! ## Two bodies -/

def bytes (text : String) : List UInt8 :=
  text.toUTF8.data.toList

/-- One text with its sender's name, and no statuses. -/
def textBody : List UInt8 :=
  bytes ("\x7b\"entry\": [\x7b\"changes\": [\x7b\"value\": " ++
    "\x7b\"contacts\": [\x7b\"wa_id\": \"919900000001\", " ++
    "\"profile\": \x7b\"name\": \"Asha\"\x7d\x7d], " ++
    "\"messages\": [\x7b\"from\": \"919900000001\", " ++
    "\"id\": \"wamid.1\", \"timestamp\": \"1700000000\", " ++
    "\"type\": \"text\", \"text\": \x7b\"body\": \"No water\"\x7d\x7d], " ++
    "\"statuses\": []\x7d\x7d]\x7d]\x7d")

def textPayload : Json :=
  .object
    [("entry", .array [.object [("changes", .array [.object [("value", .object
      [("contacts", .array
          [.object
            [("wa_id", .string "919900000001"),
              ("profile", .object [("name", .string "Asha")])]]),
        ("messages", .array
          [.object
            [("from", .string "919900000001"), ("id", .string "wamid.1"),
              ("timestamp", .string "1700000000"), ("type", .string "text"),
              ("text", .object [("body", .string "No water")])]]),
        ("statuses", .array [])])]])]])]

def nullBody : List UInt8 := bytes "\x7b\"entry\": null\x7d"

/-- The digests are those under the key `secret`. -/
def sampleWeb : Web :=
  { platform := Pipeline.Evidence.plainPlatform
    hexdigest := fun _ body =>
      if body = nullBody then
        "aab8df2a0b857bfa3798a854aa6e7b04d1e6add86d5d4b71c97cb3df60b59e55"
      else "28d8fa566ff56e81b22d09c483f6b4b4b30c1fff151c463ccaa11765e2a1b32e"
    json := fun body =>
      if body = nullBody then .ok (.object [("entry", .null)])
      else if body = textBody then .ok textPayload
      else .error .jsonDecodeError
    accepts := fun _ => true }

def sampleSettings : Settings :=
  { environment := .production
    whatsappAppSecret := some "secret"
    autoReplyEnabled := true }

def signedRequest (body : List UInt8) : Request :=
  { rawBody := body
    xHubSignature256 := some ("sha256=" ++ sampleWeb.hexdigest "secret" body) }

theorem nullBody_authentic :
    IsAuthentic sampleWeb sampleSettings (signedRequest nullBody) :=
  ⟨.inl rfl, by decide +kernel⟩

theorem textBody_authentic :
    IsAuthentic sampleWeb sampleSettings (signedRequest textBody) :=
  ⟨.inl rfl, by decide +kernel⟩

theorem text_webhook_kept :
    IsKept sampleWeb sampleSettings (signedRequest textBody) 0 := by
  apply (kept_iff_payload_borne textBody_authentic).mpr
  have decoded : sampleWeb.json (signedRequest textBody).rawBody =
      .ok textPayload := by
    unfold sampleWeb signedRequest
    dsimp only
    rw [if_neg (by decide +kernel), if_pos rfl]
  have read :
      Returns (iterIncomingMessages sampleWeb.platform 0 textPayload) :=
    ⟨_, rfl⟩
  refine ⟨textPayload, decoded, rfl, returns_iterIncomingMessages.mp read, ?_⟩
  intro entry member change inner
  obtain rfl := List.mem_singleton.mp member
  obtain rfl := List.mem_singleton.mp inner
  trivial

theorem null_entry_not_kept :
    ¬ ∀ (web : Web) (settings : Settings) (request : Request) (payload : Json)
        (now : Time), IsAuthentic web settings request →
          web.json request.rawBody = .ok payload → payload.IsObject →
            IsKept web settings request now := by
  intro kept
  obtain ⟨payload, seen, decoded, received, _⟩ :=
    kept sampleWeb sampleSettings (signedRequest nullBody)
      (.object [("entry", .null)]) 0 nullBody_authentic rfl ⟨_, rfl⟩
  rw [receiveWebhook_of_authentic nullBody_authentic rfl] at received
  cases received

end JanSetu.Whatsapp.Raw
