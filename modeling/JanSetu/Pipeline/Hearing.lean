import JanSetu.Pipeline.Evidence

/-!
# Which evidence is borne

The answers that make the reading of voice notes, photo and address raise, by
their shape.  Everything else is borne: it leaves a flag, or nothing.
-/

namespace JanSetu.Pipeline.Evidence

open Python (Json Raised Outcome Platform Returns)

variable {platform : Platform} {settings : Settings}

/-! ## Media -/

structure MediaBorne (platform : Platform) (settings : Settings)
    (mediaId : String) (media : MediaOutcomes) : Prop where
  token : Python.truthy settings.whatsappAccessToken = true
  address : platform.validUrl (lookupUrl settings mediaId) = true
  decodable : ¬ media.lookup.Undecodable
  shallow : ¬ media.lookup.TooDeep
  url : ∀ info url, media.lookup.Gives info →
    info.member "url" = some url →
    ∃ text, url = .string text ∧ platform.validUrl text = true

/-- The bytes of a media id, with the MIME type that the lookup names. -/
def MediaOutcomes.Delivers (media : MediaOutcomes) (content : List UInt8)
    (mimeType : Json) : Prop :=
  ∃ info url response, media.lookup.Gives info ∧
    info.member "url" = some url ∧
    media.download = .answered response ∧ response.isSuccess = true ∧
    content = response.content ∧
    mimeType =
      info.getD "mime_type" (.string "application/octet-stream")

theorem get_valid {url : String} (valid : platform.validUrl url = true)
    (outcome : Outcome) :
    platform.get (.string url) outcome = outcome.answer := by
  simp [Platform.get, valid]

/-- The part of the download that follows the lookup. -/
def fetchFrom (platform : Platform) (info : Json) (download : Outcome) :
    Except Raised (List UInt8 × Json) := do
  let url ← mediaUrl info
  let response ← platform.get url download
  response.raiseForStatus
  pure (response.content,
    info.getD "mime_type" (.string "application/octet-stream"))

theorem download_eq {mediaId : String} {media : MediaOutcomes}
    (token : Python.truthy settings.whatsappAccessToken = true)
    (address : platform.validUrl (lookupUrl settings mediaId) = true) :
    downloadWhatsappMedia platform settings mediaId media =
      (do
        let info ← media.lookup.json
        fetchFrom platform info media.download) := by
  unfold downloadWhatsappMedia fetchFrom Outcome.json
  rw [get_valid address]
  simp [token]

/-- A lookup without a URL counts as a failed request; one with a URL that is
no URL raises. -/
theorem fetchFrom_cases (platform : Platform) (info : Json)
    (download : Outcome) :
    (∃ url response, info.member "url" = some url ∧
      download = .answered response ∧ response.isSuccess = true ∧
      (∃ text, url = .string text ∧ platform.validUrl text = true) ∧
      fetchFrom platform info download =
        .ok (response.content,
          info.getD "mime_type" (.string "application/octet-stream"))) ∨
    (∃ raised, fetchFrom platform info download = .error raised ∧
      raised.isHttpError = true ∧
      (∀ url, info.member "url" = some url →
        ∃ text, url = .string text ∧ platform.validUrl text = true) ∧
      ∀ url response, info.member "url" = some url →
        download = .answered response → response.isSuccess = false) ∨
    (∃ raised url, fetchFrom platform info download = .error raised ∧
      raised.isHttpError = false ∧ raised ≠ .osError ∧
      info.member "url" = some url ∧
      ¬ ∃ text, url = .string text ∧ platform.validUrl text = true) := by
  unfold fetchFrom mediaUrl
  cases found : info.item "url" with
  | error raised =>
      have missing : ∀ url, info.member "url" ≠ some url := by
        intro url there
        rw [Json.item_ok.mpr there] at found
        cases found
      refine .inr (.inl ⟨.httpError, ?_, rfl, ?_, ?_⟩)
      · rcases Json.item_error found with ⟨rfl, _⟩ | ⟨rfl, _⟩ <;> rfl
      · intro url there
        exact absurd there (missing url)
      · intro url _ there
        exact absurd there (missing url)
  | ok url =>
      have there := Json.item_ok.mp found
      simp only [Bind.bind, Except.bind]
      by_cases valid : ∃ text, url = .string text ∧
          platform.validUrl text = true
      · obtain ⟨text, rfl, valid⟩ := valid
        have borne : ∀ url, info.member "url" = some url →
            ∃ text, url = .string text ∧ platform.validUrl text = true := by
          intro url again
          cases there.symm.trans again
          exact ⟨text, rfl, valid⟩
        rw [get_valid valid]
        cases download with
        | failed =>
            refine .inr (.inl ⟨.httpError, rfl, rfl, borne, ?_⟩)
            intro url response _ same
            cases same
        | answered response =>
            cases success : response.isSuccess with
            | false =>
                refine .inr (.inl ⟨.httpStatusError response.status, ?_, rfl,
                  borne, ?_⟩)
                · simp [Outcome.answer, Python.Response.raiseForStatus,
                    success]
                · intro url other _ same
                  cases same
                  exact success
            | true =>
                refine .inl ⟨_, response, there, rfl, success,
                  ⟨text, rfl, valid⟩, ?_⟩
                simp [Outcome.answer, Python.Response.raiseForStatus, success,
                  pure, Except.pure]
      · refine .inr (.inr ?_)
        cases url with
        | string text =>
            have invalid : platform.validUrl text = false := by
              cases same : platform.validUrl text with
              | false => rfl
              | true => exact absurd ⟨text, rfl, same⟩ valid
            exact ⟨.invalidUrl, _, by simp [Platform.get, invalid], rfl,
              by simp, there, valid⟩
        | _ => exact ⟨.typeError, _, rfl, rfl, by simp, there, valid⟩

/-- What becomes of a media id. -/
theorem download_cases (platform : Platform) (settings : Settings)
    (mediaId : String) (media : MediaOutcomes) :
    (∃ content mimeType, media.Delivers content mimeType ∧
      downloadWhatsappMedia platform settings mediaId media =
        .ok (content, mimeType) ∧
      MediaBorne platform settings mediaId media) ∨
    (∃ raised, downloadWhatsappMedia platform settings mediaId media =
        .error raised ∧
      raised.isHttpError = true ∧
      (∀ content mimeType, ¬ media.Delivers content mimeType) ∧
      MediaBorne platform settings mediaId media) ∨
    (∃ raised, downloadWhatsappMedia platform settings mediaId media =
        .error raised ∧
      raised.isHttpError = false ∧ raised ≠ .osError ∧
      ¬ MediaBorne platform settings mediaId media) := by
  cases token : Python.truthy settings.whatsappAccessToken with
  | false =>
      refine .inr (.inr ⟨.runtimeError, ?_, rfl, nofun, ?_⟩)
      · simp [downloadWhatsappMedia, token]
      · intro borne
        rw [borne.token] at token
        cases token
  | true =>
  cases address : platform.validUrl (lookupUrl settings mediaId) with
  | false =>
      refine .inr (.inr ⟨.invalidUrl, ?_, rfl, nofun, ?_⟩)
      · simp [downloadWhatsappMedia, token, Platform.get, address,
          Bind.bind, Except.bind]
      · intro borne
        rw [borne.address] at address
        cases address
  | true =>
  rw [download_eq token address]
  cases answered : media.lookup.json with
  | error raised =>
      have ungiven : ∀ info, ¬ media.lookup.Gives info := by
        intro info gives
        rw [Outcome.json_ok.mpr gives] at answered
        cases answered
      have undelivered : ∀ content mimeType,
          ¬ media.Delivers content mimeType := by
        rintro content mimeType ⟨info, _, _, gives, _⟩
        exact ungiven info gives
      by_cases caught : raised.isHttpError = true
      · refine .inr (.inl ⟨raised, rfl, caught, undelivered, token, address,
          ?_, ?_, fun info _ gives => absurd gives (ungiven info)⟩)
        · intro undecodable
          obtain ⟨other, failed, through, _⟩ :=
            Outcome.json_undecodable undecodable
          cases answered.symm.trans failed
          rw [caught] at through
          cases through
        · intro deep
          cases answered.symm.trans (Outcome.json_tooDeep.mp deep)
          cases caught
      · refine .inr (.inr ⟨raised, rfl, by simpa using caught, ?_, ?_⟩)
        · rintro rfl
          rcases Outcome.json_error answered with http | ⟨value, _⟩ |
            ⟨same, _⟩
          · exact caught http
          · cases value
          · cases same
        · intro borne
          rcases Outcome.json_error answered with http |
            ⟨_, undecodable⟩ | ⟨_, deep⟩
          · exact caught http
          · exact borne.decodable undecodable
          · exact borne.shallow deep
  | ok info =>
      have gives := Outcome.json_ok.mp answered
      have decodable : ¬ media.lookup.Undecodable := by
        intro undecodable
        obtain ⟨_, failed, _⟩ := Outcome.json_undecodable undecodable
        cases answered.symm.trans failed
      have shallow : ¬ media.lookup.TooDeep := by
        intro deep
        cases answered.symm.trans (Outcome.json_tooDeep.mp deep)
      change _ ∨ (∃ raised, fetchFrom platform info media.download =
        .error raised ∧ _) ∨ (∃ raised,
          fetchFrom platform info media.download = .error raised ∧ _)
      rcases fetchFrom_cases platform info media.download with
        ⟨url, response, there, same, success, valid, fetched⟩ |
        ⟨raised, fetched, caught, valid, unanswered⟩ |
        ⟨raised, url, fetched, through, other, there, invalid⟩
      · refine .inl ⟨_, _, ⟨info, url, response, gives, there, same, success,
          rfl, rfl⟩, fetched, token, address, decodable, shallow, ?_⟩
        intro info' url' gives' there'
        cases gives.unique gives'
        cases there.symm.trans there'
        exact valid
      · refine .inr (.inl ⟨raised, fetched, caught, ?_, token, address,
          decodable, shallow, ?_⟩)
        · rintro content mimeType ⟨info', url, response, gives', there, same,
            success, _⟩
          cases gives.unique gives'
          rw [unanswered url response there same] at success
          cases success
        · intro info' url gives' there
          cases gives.unique gives'
          exact valid url there
      · exact .inr (.inr ⟨raised, fetched, through, other, fun borne =>
          invalid (borne.url info url gives there)⟩)

/-! ## Speech -/

/-- What is handed to the transcription, and what comes back from it, is of a
kind that can be read. -/
structure SpeechReadable (mimeType : Json) (speech : Outcome) : Prop where
  mimeType : mimeType.truthy = true → ∃ text, mimeType = .string text
  shallow : ¬ speech.TooDeep
  transcript : ∀ body transcript, speech.Gives body →
    body.member "transcript" = some transcript →
    transcript.truthy = true → ∃ text, transcript = .string text

def SpeechBorne (settings : Settings) (mimeType : Json) (speech : Outcome) :
    Prop :=
  Python.truthy settings.sarvamApiKey = true → SpeechReadable mimeType speech

/-- The service gives a text for the clip. -/
def Speaks (settings : Settings) (speech : Outcome) (text : String)
    (language : Json) : Prop :=
  Python.truthy settings.sarvamApiKey = true ∧
    ∃ body, speech.Gives body ∧
      body.member "transcript" = some (.string text) ∧ text ≠ "" ∧
      language = body.get "language_code"

theorem normalizeMimeType_cases (mimeType : Json) :
    (Returns (normalizeMimeType mimeType) ∧
      (mimeType.truthy = true → ∃ text, mimeType = .string text)) ∨
    (∃ raised, normalizeMimeType mimeType = .error raised ∧
      ¬ (mimeType.truthy = true → ∃ text, mimeType = .string text)) := by
  unfold normalizeMimeType
  cases truthy : mimeType.truthy with
  | false => exact .inl ⟨Python.returns_ok _, nofun⟩
  | true =>
      cases mimeType with
      | string text => exact .inl ⟨Python.returns_ok _, fun _ => ⟨text, rfl⟩⟩
      | _ => exact .inr ⟨.attributeError, rfl, by simp⟩

/-- A transcript is a text, or it is passed over, or it is no text although
there is something. -/
theorem transcript_cases (body : Json) :
    (∃ text, body.member "transcript" = some (.string text) ∧ text ≠ "") ∨
    (((body.member "transcript").getD .null).truthy = false) ∨
    ∃ transcript, body.member "transcript" = some transcript ∧
      transcript.truthy = true ∧ transcript.text = none := by
  cases found : body.member "transcript" with
  | none => exact .inr (.inl rfl)
  | some transcript =>
      cases truthy : transcript.truthy with
      | false => exact .inr (.inl truthy)
      | true =>
          cases transcript with
          | string text =>
              refine .inl ⟨text, rfl, ?_⟩
              rintro rfl
              cases truthy
          | _ => exact .inr (.inr ⟨_, rfl, truthy, rfl⟩)

/-- What becomes of a clip that was read. -/
theorem transcribe_cases (settings : Settings) (mimeType : Json)
    (speech : Outcome) :
    (∃ text language, Speaks settings speech text language ∧
      transcribeClip settings mimeType speech =
        .ok { ok := true, text := .string text
              detectedLanguage := language } ∧
      SpeechBorne settings mimeType speech) ∨
    (transcribeClip settings mimeType speech = .ok untranscribed ∧
      (∀ text language, ¬ Speaks settings speech text language) ∧
      SpeechBorne settings mimeType speech) ∨
    (¬ SpeechBorne settings mimeType speech ∧
      ((∃ raised, transcribeClip settings mimeType speech = .error raised) ∨
        ∃ text language, transcribeClip settings mimeType speech =
            .ok { ok := true, text := text, detectedLanguage := language } ∧
          text.truthy = true ∧ text.text = none)) := by
  cases configured : Python.truthy settings.sarvamApiKey with
  | false =>
      refine .inr (.inl ⟨by simp [transcribeClip, configured], ?_, ?_⟩)
      · rintro text language ⟨key, _⟩
        rw [configured] at key
        cases key
      · intro key
        rw [configured] at key
        cases key
  | true =>
  unfold transcribeClip
  simp only [configured, if_true]
  rcases normalizeMimeType_cases mimeType with
    ⟨⟨essence, normalized⟩, mime⟩ | ⟨raised, failed, unread⟩
  · rw [normalized]
    simp only [Bind.bind, Except.bind]
    cases answered : speech.json with
    | error raised =>
        have ungiven : ∀ body, ¬ speech.Gives body := by
          intro body gives
          cases answered.symm.trans (Outcome.json_ok.mpr gives)
        by_cases deep : speech.TooDeep
        · cases answered.symm.trans (Outcome.json_tooDeep.mp deep)
          exact .inr (.inr ⟨fun borne => (borne configured).shallow deep,
            .inl ⟨_, rfl⟩⟩)
        · have caught : (raised.isHttpError || raised.isValueError) = true := by
            rcases Outcome.json_error answered with http | ⟨value, _⟩ |
              ⟨_, deep'⟩
            · simp [http]
            · simp [value]
            · exact absurd deep' deep
          refine .inr (.inl ⟨by simp [caught], ?_, ?_⟩)
          · rintro text language ⟨_, body, gives, _⟩
            exact ungiven body gives
          · intro _
            exact ⟨mime, deep, fun body _ gives => absurd gives (ungiven body)⟩
    | ok body =>
        have gives := Outcome.json_ok.mp answered
        have shallow : ¬ speech.TooDeep := by
          intro deep
          cases answered.symm.trans (Outcome.json_tooDeep.mp deep)
        simp only
        rcases transcript_cases body with ⟨text, found, some⟩ | nothing |
          ⟨transcript, found, truthy, untextual⟩
        · refine .inl ⟨text, body.get "language_code",
            ⟨configured, body, gives, found, some, rfl⟩, ?_, ?_⟩
          · simp [found, Json.truthy, some, Json.length, pure, Except.pure]
          · intro _
            refine ⟨mime, shallow, ?_⟩
            intro body' transcript gives' found' _
            cases gives.unique gives'
            cases found.symm.trans found'
            exact ⟨text, rfl⟩
        · refine .inr (.inl ⟨by simp [nothing, pure, Except.pure], ?_, ?_⟩)
          · rintro text language ⟨_, body', gives', found, some, _⟩
            cases gives.unique gives'
            rw [found] at nothing
            simp [Json.truthy, some] at nothing
          · intro _
            refine ⟨mime, shallow, ?_⟩
            intro body' transcript gives' found truthy
            cases gives.unique gives'
            rw [found] at nothing
            simp [truthy] at nothing
        · refine .inr (.inr ⟨?_, ?_⟩)
          · intro borne
            obtain ⟨text, rfl⟩ :=
              (borne configured).transcript body transcript gives found truthy
            cases untextual
          · rw [found]
            simp only [Option.getD_some, truthy, if_true]
            cases measured : transcript.length with
            | error raised => exact .inl ⟨raised, rfl⟩
            | ok count =>
                exact .inr ⟨transcript, body.get "language_code", rfl, truthy,
                  untextual⟩
  · rw [failed]
    exact .inr (.inr ⟨fun borne => unread (borne configured).mimeType,
      .inl ⟨raised, rfl⟩⟩)

/-! ## One voice note -/

/-- A file or a media id stands behind the message. -/
def Sourced (message : IssueMessage) : Prop :=
  Python.truthy message.localPath = true ∨
    Python.truthy message.mediaId = true

def localMimeType (message : IssueMessage) : String :=
  if Python.truthy message.mimeType then message.mimeType.getD ""
  else "audio/ogg"

/-- The bytes of a voice note can be had. -/
def ClipDelivers (entry : Entry) (content : List UInt8) (mimeType : Json) :
    Prop :=
  if Python.truthy entry.1.localPath then
    entry.2.read = some content ∧
      mimeType = .string (localMimeType entry.1)
  else entry.2.media.Delivers content mimeType

structure ClipBorne (platform : Platform) (settings : Settings)
    (entry : Entry) : Prop where
  media : Python.truthy entry.1.localPath = false →
    MediaBorne platform settings (entry.1.mediaId.getD "") entry.2.media
  speech : ∀ content mimeType, ClipDelivers entry content mimeType →
    SpeechBorne settings mimeType entry.2.speech

def EntryBorne (platform : Platform) (settings : Settings) (entry : Entry) :
    Prop :=
  IsClip entry.1 → Sourced entry.1 → ClipBorne platform settings entry

/-- The message is a voice note with a source that yields this text. -/
def Yields (settings : Settings) (entry : Entry) (text : String)
    (language : Json) : Prop :=
  IsClip entry.1 ∧ Sourced entry.1 ∧
    (∃ content mimeType, ClipDelivers entry content mimeType) ∧
    Speaks settings entry.2.speech text language

theorem Speaks.unique {speech : Outcome} {text other : String}
    {language language' : Json} (first : Speaks settings speech text language)
    (second : Speaks settings speech other language') :
    text = other ∧ language = language' := by
  obtain ⟨_, body, gives, found, _, rfl⟩ := first
  obtain ⟨_, body', gives', found', _, rfl⟩ := second
  cases gives.unique gives'
  cases found.symm.trans found'
  exact ⟨rfl, rfl⟩

theorem MediaOutcomes.Delivers.unique {media : MediaOutcomes}
    {content content' : List UInt8} {mimeType mimeType' : Json}
    (first : media.Delivers content mimeType)
    (second : media.Delivers content' mimeType') :
    content = content' ∧ mimeType = mimeType' := by
  obtain ⟨info, _, response, gives, _, same, _, rfl, rfl⟩ := first
  obtain ⟨info', _, response', gives', _, same', _, rfl, rfl⟩ := second
  cases gives.unique gives'
  cases same.symm.trans same'
  exact ⟨rfl, rfl⟩

theorem ClipDelivers.unique {entry : Entry} {content content' : List UInt8}
    {mimeType mimeType' : Json} (first : ClipDelivers entry content mimeType)
    (second : ClipDelivers entry content' mimeType') :
    content = content' ∧ mimeType = mimeType' := by
  unfold ClipDelivers at first second
  split at first
  next isLocal =>
      rw [if_pos isLocal] at second
      cases first.1.symm.trans second.1
      exact ⟨rfl, first.2.trans second.2.symm⟩
  next remote =>
      rw [if_neg remote] at second
      exact first.unique second

/-- What becomes of the bytes of a voice note with a source. -/
theorem readClip_cases (platform : Platform) (settings : Settings)
    (entry : Entry) (sourced : Sourced entry.1) :
    (∃ content mimeType, ClipDelivers entry content mimeType ∧
      readClip platform settings entry = .ok (some (content, mimeType)) ∧
      (Python.truthy entry.1.localPath = false →
        MediaBorne platform settings (entry.1.mediaId.getD "")
          entry.2.media)) ∨
    (∃ raised, readClip platform settings entry = .error raised ∧
      (raised.isHttpError || raised = .osError) = true ∧
      (∀ content mimeType, ¬ ClipDelivers entry content mimeType) ∧
      (Python.truthy entry.1.localPath = false →
        MediaBorne platform settings (entry.1.mediaId.getD "")
          entry.2.media)) ∨
    (∃ raised, readClip platform settings entry = .error raised ∧
      (raised.isHttpError || raised = .osError) = false ∧
      Python.truthy entry.1.localPath = false ∧
      ¬ MediaBorne platform settings (entry.1.mediaId.getD "")
        entry.2.media) := by
  cases isLocal : Python.truthy entry.1.localPath with
  | true =>
      cases found : entry.2.read with
      | some content =>
          refine .inl ⟨content, .string (localMimeType entry.1), ?_, ?_, nofun⟩
          · simp [ClipDelivers, isLocal, found]
          · simp [readClip, isLocal, found, localMimeType]
      | none =>
          refine .inr (.inl ⟨.osError, ?_, rfl, ?_, nofun⟩)
          · simp [readClip, isLocal, found]
          · simp [ClipDelivers, isLocal, found]
  | false =>
      have remote : Python.truthy entry.1.mediaId = true := by
        rcases sourced with file | media
        · rw [isLocal] at file
          cases file
        · exact media
      have read : readClip platform settings entry =
          (do
            let media ← downloadWhatsappMedia platform settings
              (entry.1.mediaId.getD "") entry.2.media
            pure (some media)) := by
        simp [readClip, isLocal, remote]
      rw [read]
      rcases download_cases platform settings (entry.1.mediaId.getD "")
          entry.2.media with
        ⟨content, mimeType, delivers, downloaded, borne⟩ |
        ⟨raised, failed, caught, undelivered, borne⟩ |
        ⟨raised, failed, through, other, unborne⟩
      · refine .inl ⟨content, mimeType, ?_, ?_, fun _ => borne⟩
        · simpa [ClipDelivers, isLocal] using delivers
        · rw [downloaded]
          rfl
      · refine .inr (.inl ⟨raised, ?_, by simp [caught], ?_, fun _ => borne⟩)
        · rw [failed]
          rfl
        · simpa [ClipDelivers, isLocal] using undelivered
      · refine .inr (.inr ⟨raised, ?_, by simp [through, other], rfl,
          unborne⟩)
        rw [failed]
        rfl

/-- A part of the text that cannot be joined: no string. -/
def Unjoinable (reading : Reading) : Prop :=
  ∃ text language mimeType, reading = .heard text language mimeType ∧
    text.text = none

theorem IsTyped.not_clip {message : IssueMessage} (typed : IsTyped message) :
    ¬ IsClip message := by
  have text := typed.1
  rintro (audio | voice)
  · rw [text] at audio
    exact absurd audio (by decide)
  · rw [text] at voice
    exact absurd voice (by decide)

/-- What becomes of a voice note with a source. -/
theorem clip_cases (platform : Platform) (settings : Settings) (entry : Entry)
    (clip : IsClip entry.1) (sourced : Sourced entry.1) :
    (∃ text language mimeType,
      (∃ content, ClipDelivers entry content mimeType) ∧
      Speaks settings entry.2.speech text language ∧
      readMessage platform settings entry =
        .ok (.heard (.string text) language mimeType) ∧
      ClipBorne platform settings entry) ∨
    (readMessage platform settings entry = .ok .failed ∧
      (∀ text language, ¬ Yields settings entry text language) ∧
      ClipBorne platform settings entry) ∨
    (¬ ClipBorne platform settings entry ∧
      ((∃ raised, readMessage platform settings entry = .error raised) ∨
        ∃ reading, readMessage platform settings entry = .ok reading ∧
          Unjoinable reading)) := by
  have untyped : ¬ IsTyped entry.1 := fun typed => typed.not_clip clip
  unfold readMessage
  simp only [untyped, clip, if_true, if_false]
  rcases readClip_cases platform settings entry sourced with
    ⟨content, mimeType, delivers, read, media⟩ |
    ⟨raised, failed, caught, undelivered, media⟩ |
    ⟨raised, failed, through, remote, unborne⟩
  · have only : ∀ content' mimeType', ClipDelivers entry content' mimeType' →
        SpeechBorne settings mimeType entry.2.speech →
        SpeechBorne settings mimeType' entry.2.speech := by
      intro content' mimeType' delivers' borne
      rw [← (delivers.unique delivers').2]
      exact borne
    rw [read]
    simp only [Bind.bind, Except.bind]
    rcases transcribe_cases settings mimeType entry.2.speech with
      ⟨text, language, speaks, transcribed, borne⟩ |
      ⟨transcribed, silent, borne⟩ | ⟨unborne, outcome⟩
    · refine .inl ⟨text, language, mimeType, ⟨content, delivers⟩, speaks, ?_,
        media, fun content' mimeType' delivers' =>
          only content' mimeType' delivers' borne⟩
      obtain ⟨_, _, _, _, some, _⟩ := speaks
      rw [transcribed]
      simp [Json.truthy, some, pure, Except.pure]
    · refine .inr (.inl ⟨?_, ?_, media, fun content' mimeType' delivers' =>
          only content' mimeType' delivers' borne⟩)
      · rw [transcribed]
        rfl
      · rintro text language ⟨_, _, _, speaks⟩
        exact silent text language speaks
    · refine .inr (.inr ⟨fun borne =>
        unborne (borne.speech content mimeType delivers), ?_⟩)
      rcases outcome with ⟨raised, failed⟩ |
        ⟨text, language, transcribed, truthy, untextual⟩
      · rw [failed]
        exact .inl ⟨raised, rfl⟩
      · rw [transcribed]
        refine .inr ⟨.heard text language mimeType, ?_, text, language,
          mimeType, rfl, untextual⟩
        simp [truthy, pure, Except.pure]
  · rw [failed]
    refine .inr (.inl ⟨by simp_all, ?_, media, ?_⟩)
    · rintro text language ⟨_, _, ⟨content, mimeType, delivers⟩, _⟩
      exact undelivered content mimeType delivers
    · intro content mimeType delivers
      exact absurd delivers (undelivered content mimeType)
  · rw [failed]
    exact .inr (.inr ⟨fun borne => unborne (borne.media remote),
      .inl ⟨raised, by simp_all⟩⟩)

/-! ## All messages -/

def Reading.parts : Reading → List Json
  | .typed text => [.string text]
  | .heard text _ _ => [text]
  | _ => []

def Reading.flags : Reading → List String
  | .failed => ["transcription_failed"]
  | _ => []

def Reading.languages : Reading → List Json
  | .heard _ language _ => [language]
  | _ => []

/-- A text among the messages: typed, or yielded by a voice note. -/
def Worded (settings : Settings) (entries : List Entry) (text : String) :
    Prop :=
  ∃ entry ∈ entries, (IsTyped entry.1 ∧ entry.1.text = some text) ∨
    ∃ language, Yields settings entry text language

/-- A voice note with a source yielded no text. -/
def Unheard (settings : Settings) (entry : Entry) : Prop :=
  IsClip entry.1 ∧ Sourced entry.1 ∧
    ∀ text language, ¬ Yields settings entry text language

/-- The languages that come with the texts of the voice notes, in order. -/
inductive Languages (settings : Settings) : List Entry → List Json → Prop
  | nil : Languages settings [] []
  | heard {entry : Entry} {text : String} {language : Json}
      {entries : List Entry} {languages : List Json} :
      Yields settings entry text language →
      Languages settings entries languages →
      Languages settings (entry :: entries) (language :: languages)
  | unheard {entry : Entry} {entries : List Entry} {languages : List Json} :
      (∀ text language, ¬ Yields settings entry text language) →
      Languages settings entries languages →
      Languages settings (entry :: entries) languages

theorem Languages.unique {entries : List Entry} {left right : List Json}
    (first : Languages settings entries left)
    (second : Languages settings entries right) : left = right := by
  induction first generalizing right with
  | nil => cases second with
    | nil => rfl
  | heard yields _ induction =>
      cases second with
      | heard yields' rest =>
          obtain ⟨_, _, _, speaks⟩ := yields
          obtain ⟨_, _, _, speaks'⟩ := yields'
          rw [(speaks.unique speaks').2, induction rest]
      | unheard silent _ => exact absurd yields (silent _ _)
  | unheard silent _ induction =>
      cases second with
      | heard yields _ => exact absurd yields (silent _ _)
      | unheard _ rest => exact induction rest

/-- The first language that is not empty, or else the last one. -/
def settled (languages : List Json) : Json :=
  (languages.find? Json.truthy).getD (languages.getLastD .null)

theorem foldl_orElse (language : Json) (languages : List Json) :
    languages.foldl Json.orElse language =
      if language.truthy then language
      else (languages.find? Json.truthy).getD
        (languages.getLastD language) := by
  induction languages generalizing language with
  | nil => simp
  | cons head languages induction =>
      rw [List.foldl_cons, induction]
      cases first : language.truthy with
      | true => simp [Json.orElse, first]
      | false =>
          cases second : head.truthy with
          | true => simp [Json.orElse, first, second]
          | false =>
              simp [Json.orElse, first, second, List.getLast?_cons]

section

variable (platform settings)

/-- What a message that does not raise is read as. -/
def readingOf (entry : Entry) : Reading :=
  match readMessage platform settings entry with
  | .ok reading => reading
  | .error _ => .skipped

end

theorem readMessage_eq {entry : Entry}
    (returns : Returns (readMessage platform settings entry)) :
    readMessage platform settings entry =
      .ok (readingOf platform settings entry) := by
  obtain ⟨reading, same⟩ := returns
  simp [readingOf, same]

theorem readingOf_eq {entry : Entry} {reading : Reading}
    (read : readMessage platform settings entry = .ok reading) :
    readingOf platform settings entry = reading := by
  simp [readingOf, read]

/-- What a message that is borne is read as. -/
inductive Reads (settings : Settings) (entry : Entry) : Reading → Prop
  | typed {text : String} :
      IsTyped entry.1 → entry.1.text = some text →
      Reads settings entry (.typed text)
  | heard {content : List UInt8} {text : String} {language mimeType : Json} :
      IsClip entry.1 → Sourced entry.1 →
      ClipDelivers entry content mimeType →
      Speaks settings entry.2.speech text language →
      Reads settings entry (.heard (.string text) language mimeType)
  | failed : Unheard settings entry → Reads settings entry .failed
  | unsourced : IsClip entry.1 → ¬ Sourced entry.1 →
      Reads settings entry .unsourced
  | skipped : ¬ IsTyped entry.1 → ¬ IsClip entry.1 →
      Reads settings entry .skipped

theorem reads_of_borne {entry : Entry}
    (borne : EntryBorne platform settings entry) :
    Returns (readMessage platform settings entry) ∧
      Reads settings entry (readingOf platform settings entry) := by
  have done : ∀ reading,
      readMessage platform settings entry = .ok reading →
      Reads settings entry reading →
      Returns (readMessage platform settings entry) ∧
        Reads settings entry (readingOf platform settings entry) := by
    intro reading read reads
    rw [readingOf_eq read]
    exact ⟨⟨reading, read⟩, reads⟩
  by_cases typed : IsTyped entry.1
  · refine done (.typed (entry.1.text.getD "")) ?_ (.typed typed ?_)
    · simp [readMessage, typed]
    · cases text : entry.1.text with
      | some text => rfl
      | none =>
          have truthy := typed.2
          rw [text] at truthy
          cases truthy
  · by_cases clip : IsClip entry.1
    · by_cases sourced : Sourced entry.1
      · rcases clip_cases platform settings entry clip sourced with
          ⟨text, language, mimeType, ⟨content, delivers⟩, speaks, read, _⟩ |
          ⟨read, silent, _⟩ | ⟨unborne, _⟩
        · exact done _ read (.heard clip sourced delivers speaks)
        · exact done _ read (.failed ⟨clip, sourced, silent⟩)
        · exact absurd (borne clip sourced) unborne
      · refine done .unsourced ?_ (.unsourced clip sourced)
        have file : Python.truthy entry.1.localPath = false := by
          simpa using fun file => sourced (.inl file)
        have media : Python.truthy entry.1.mediaId = false := by
          simpa using fun media => sourced (.inr media)
        simp [readMessage, typed, clip, readClip, file, media]
    · refine done .skipped ?_ (.skipped typed clip)
      simp [readMessage, typed, clip]

/-- A message is borne when it is read, and read as something that can be
joined to the text. -/
theorem entryBorne_iff {entry : Entry} :
    EntryBorne platform settings entry ↔
      Returns (readMessage platform settings entry) ∧
        ∀ part ∈ (readingOf platform settings entry).parts,
          part.text ≠ none := by
  constructor
  · intro borne
    obtain ⟨returns, reads⟩ := reads_of_borne borne
    refine ⟨returns, ?_⟩
    generalize readingOf platform settings entry = reading at reads
    cases reads <;> simp [Reading.parts, Json.text]
  · rintro ⟨returns, textual⟩ clip sourced
    rcases clip_cases platform settings entry clip sourced with
      ⟨_, _, _, _, _, _, borne⟩ | ⟨_, _, borne⟩ |
      ⟨_, ⟨raised, failed⟩ | ⟨reading, read, text, language, mimeType, rfl,
        untextual⟩⟩
    · exact borne
    · exact borne
    · rw [failed] at returns
      exact absurd returns (Python.not_returns_error raised)
    · refine absurd untextual (textual text ?_)
      rw [readingOf_eq read]
      exact .head _

theorem returns_joinLines {parts : List Json} :
    Returns (joinLines parts) ↔ ∀ part ∈ parts, part.text ≠ none := by
  unfold joinLines
  rw [Python.returns_bind_of (fun _ => Python.returns_pure _),
    Python.returns_mapM]
  have each : ∀ part, Returns (asText part) ↔ part.text ≠ none := by
    intro part
    cases part <;>
      simp [asText, Json.text, Python.returns_ok, Python.not_returns_error]
  simp only [each]

theorem joinLines_ok {parts : List Json} {text : String}
    (joined : joinLines parts = .ok text) :
    text = String.intercalate "\n" (parts.filterMap Json.text) := by
  have lines : ∀ {texts : List String}, parts.mapM asText = .ok texts →
      parts.filterMap Json.text = texts := by
    clear joined
    induction parts with
    | nil =>
        intro texts read
        simpa [Python.pure_ok] using read
    | cons part parts induction =>
        intro texts read
        rw [List.mapM_cons] at read
        simp only [Python.bind_ok, Python.pure_ok] at read
        obtain ⟨first, same, rest, others, rfl⟩ := read
        cases part with
        | string text =>
            cases same
            simp [Json.text, induction others]
        | _ => cases same
  unfold joinLines at joined
  obtain ⟨texts, read, same⟩ := Python.bind_ok.mp joined
  rw [lines read]
  exact (Python.pure_ok.mp same).symm

section

variable (state : Combining) (message : IssueMessage) (reading : Reading)

theorem read_parts :
    (state.read message reading).parts = state.parts ++ reading.parts := by
  cases reading <;> simp [Combining.read, Reading.parts]

theorem read_flags :
    (state.read message reading).flags = state.flags ++ reading.flags := by
  cases reading <;> simp [Combining.read, Reading.flags]

theorem read_detectedLanguage :
    (state.read message reading).detectedLanguage =
      reading.languages.foldl Json.orElse state.detectedLanguage := by
  cases reading <;> rfl

end

def combined (platform : Platform) (settings : Settings)
    (entries : List Entry) (state : Combining) : Combining :=
  entries.foldl
    (fun state entry =>
      state.read entry.1 (readingOf platform settings entry)) state

theorem combined_eq (platform : Platform) (settings : Settings)
    (entries : List Entry) (state : Combining) :
    (combined platform settings entries state).parts =
        state.parts ++
          entries.flatMap (fun entry =>
            (readingOf platform settings entry).parts) ∧
      (combined platform settings entries state).flags =
        state.flags ++
          entries.flatMap (fun entry =>
            (readingOf platform settings entry).flags) ∧
      (combined platform settings entries state).detectedLanguage =
        (entries.flatMap fun entry =>
          (readingOf platform settings entry).languages).foldl Json.orElse
          state.detectedLanguage := by
  induction entries generalizing state with
  | nil => simp [combined]
  | cons entry entries induction =>
      obtain ⟨parts, flags, language⟩ := induction
        (state.read entry.1 (readingOf platform settings entry))
      change (combined platform settings entries _).parts = _ ∧
        (combined platform settings entries _).flags = _ ∧
        (combined platform settings entries _).detectedLanguage = _
      rw [parts, flags, language, read_parts, read_flags,
        read_detectedLanguage]
      simp

theorem fold_ok {entries : List Entry} {state final : Combining} :
    entries.foldlM (Combining.step platform settings) state = .ok final ↔
      (∀ entry ∈ entries, Returns (readMessage platform settings entry)) ∧
        combined platform settings entries state = final := by
  apply Python.foldlM_ok
  · intro state entry returns
    simp only [Combining.step, readMessage_eq returns]
    rfl
  · rintro state entry raises ⟨after, stepped⟩
    obtain ⟨reading, read, _⟩ := Python.bind_ok.mp stepped
    exact raises ⟨reading, read⟩

/-- The messages are combined as long as every voice note is borne. -/
theorem returns_combineIssueText {entries : List Entry} :
    Returns (combineIssueText platform settings entries) ↔
      ∀ entry ∈ entries, EntryBorne platform settings entry := by
  unfold combineIssueText
  rw [Python.returns_bind]
  simp only [fold_ok, entryBorne_iff]
  have joined : ∀ state : Combining,
      Returns (do
        let text ← joinLines state.parts
        pure
          { text := Python.strip text
            detectedLanguage := state.detectedLanguage
            flags := state.flags
            transcripts := state.transcripts : IssueText }) ↔
        ∀ part ∈ state.parts, part.text ≠ none := by
    intro state
    rw [Python.returns_bind_of (fun _ => Python.returns_pure _)]
    exact returns_joinLines
  obtain ⟨parts, _, _⟩ := combined_eq platform settings entries .start
  have whole : (combined platform settings entries .start).parts =
      entries.flatMap fun entry =>
        (readingOf platform settings entry).parts := by
    rw [parts]
    rfl
  constructor
  · rintro ⟨state, ⟨returns, rfl⟩, rest⟩ entry member
    refine ⟨returns entry member, ?_⟩
    have textual := (joined _).mp rest
    rw [whole] at textual
    intro part there
    exact textual part (List.mem_flatMap.mpr ⟨entry, member, there⟩)
  · intro all
    refine ⟨_, ⟨fun entry member => (all entry member).1, rfl⟩,
      (joined _).mpr ?_⟩
    rw [whole]
    intro part there
    obtain ⟨entry, member, there⟩ := List.mem_flatMap.mp there
    exact (all entry member).2 part there

/-- What is combined, by the accumulators at the end of the loop. -/
theorem combine_state {entries : List Entry} {issue : IssueText}
    (done : combineIssueText platform settings entries = .ok issue) :
    issue =
      { text := Python.strip (String.intercalate "\n"
          ((combined platform settings entries .start).parts.filterMap
            Json.text))
        detectedLanguage :=
          (combined platform settings entries .start).detectedLanguage
        flags := (combined platform settings entries .start).flags
        transcripts :=
          (combined platform settings entries .start).transcripts } := by
  unfold combineIssueText at done
  simp only [Python.bind_ok, Python.pure_ok, fold_ok] at done
  obtain ⟨state, ⟨_, rfl⟩, text, joined, rfl⟩ := done
  rw [joinLines_ok joined]

/-- What is combined, message by message. -/
theorem combine_eq {entries : List Entry} {issue : IssueText}
    (done : combineIssueText platform settings entries = .ok issue) :
    issue.text = Python.strip (String.intercalate "\n"
        ((entries.flatMap fun entry =>
          (readingOf platform settings entry).parts).filterMap Json.text)) ∧
      issue.flags = entries.flatMap (fun entry =>
        (readingOf platform settings entry).flags) ∧
      issue.detectedLanguage = settled (entries.flatMap fun entry =>
        (readingOf platform settings entry).languages) := by
  rw [combine_state done]
  have gathered := combined_eq platform settings entries .start
  refine ⟨?_, ?_, ?_⟩
  · simp only [gathered.1]
    rfl
  · simp only [gathered.2.1]
    rfl
  · simp only [gathered.2.2, foldl_orElse]
    rfl

section

variable {entries : List Entry}

theorem mem_failed_iff
    (borne : ∀ entry ∈ entries, EntryBorne platform settings entry) :
    "transcription_failed" ∈ entries.flatMap (fun entry =>
        (readingOf platform settings entry).flags) ↔
      ∃ entry ∈ entries, Unheard settings entry := by
  have each : ∀ entry ∈ entries,
      ("transcription_failed" ∈ (readingOf platform settings entry).flags ↔
        Unheard settings entry) := by
    intro entry member
    obtain ⟨_, reads⟩ := reads_of_borne (borne entry member)
    generalize readingOf platform settings entry = reading at reads
    cases reads with
    | typed typed _ =>
        simp only [Reading.flags, List.not_mem_nil, false_iff]
        exact fun unheard => typed.not_clip unheard.1
    | heard clip sourced delivers speaks =>
        simp only [Reading.flags, List.not_mem_nil, false_iff]
        exact fun unheard => unheard.2.2 _ _
          ⟨clip, sourced, ⟨_, _, delivers⟩, speaks⟩
    | failed unheard => simp [Reading.flags, unheard]
    | unsourced _ unsourced =>
        simp only [Reading.flags, List.not_mem_nil, false_iff]
        exact fun unheard => unsourced unheard.2.1
    | skipped _ unclipped =>
        simp only [Reading.flags, List.not_mem_nil, false_iff]
        exact fun unheard => unclipped unheard.1
  rw [List.mem_flatMap]
  constructor
  · rintro ⟨entry, member, flagged⟩
    exact ⟨entry, member, (each entry member).mp flagged⟩
  · rintro ⟨entry, member, unheard⟩
    exact ⟨entry, member, (each entry member).mpr unheard⟩

theorem mem_parts_iff
    (borne : ∀ entry ∈ entries, EntryBorne platform settings entry)
    (text : String) :
    Json.string text ∈ entries.flatMap (fun entry =>
        (readingOf platform settings entry).parts) ↔
      Worded settings entries text := by
  have each : ∀ entry ∈ entries,
      (Json.string text ∈ (readingOf platform settings entry).parts ↔
        (IsTyped entry.1 ∧ entry.1.text = some text) ∨
          ∃ language, Yields settings entry text language) := by
    intro entry member
    obtain ⟨_, reads⟩ := reads_of_borne (borne entry member)
    generalize readingOf platform settings entry = reading at reads
    cases reads with
    | typed typed same =>
        simp only [Reading.parts, List.mem_singleton, Json.string.injEq]
        constructor
        · rintro rfl
          exact .inl ⟨typed, same⟩
        · rintro (⟨_, same'⟩ | ⟨_, clip, _⟩)
          · exact Option.some.inj (same'.symm.trans same)
          · exact absurd clip typed.not_clip
    | heard clip sourced delivers speaks =>
        simp only [Reading.parts, List.mem_singleton, Json.string.injEq]
        constructor
        · rintro rfl
          exact .inr ⟨_, clip, sourced, ⟨_, _, delivers⟩, speaks⟩
        · rintro (⟨typed, _⟩ | ⟨_, _, _, _, speaks'⟩)
          · exact absurd clip typed.not_clip
          · exact (speaks'.unique speaks).1
    | failed unheard =>
        simp only [Reading.parts, List.not_mem_nil, false_iff]
        rintro (⟨typed, _⟩ | ⟨language, yields⟩)
        · exact typed.not_clip unheard.1
        · exact unheard.2.2 text language yields
    | unsourced clip unsourced =>
        simp only [Reading.parts, List.not_mem_nil, false_iff]
        rintro (⟨typed, _⟩ | ⟨_, _, sourced, _⟩)
        · exact typed.not_clip clip
        · exact unsourced sourced
    | skipped untyped unclipped =>
        simp only [Reading.parts, List.not_mem_nil, false_iff]
        rintro (⟨typed, _⟩ | ⟨_, clip, _⟩)
        · exact untyped typed
        · exact unclipped clip
  rw [List.mem_flatMap]
  constructor
  · rintro ⟨entry, member, part⟩
    exact ⟨entry, member, (each entry member).mp part⟩
  · rintro ⟨entry, member, worded⟩
    exact ⟨entry, member, (each entry member).mpr worded⟩

theorem languages_of_readings
    (borne : ∀ entry ∈ entries, EntryBorne platform settings entry) :
    Languages settings entries (entries.flatMap fun entry =>
      (readingOf platform settings entry).languages) := by
  induction entries with
  | nil => exact .nil
  | cons entry entries induction =>
      have rest := induction fun other member => borne other (.tail _ member)
      obtain ⟨_, reads⟩ := reads_of_borne (borne entry (.head _))
      rw [List.flatMap_cons]
      generalize readingOf platform settings entry = reading at reads
      cases reads with
      | typed typed _ =>
          exact .unheard (fun _ _ yields => typed.not_clip yields.1) rest
      | heard clip sourced delivers speaks =>
          exact .heard ⟨clip, sourced, ⟨_, _, delivers⟩, speaks⟩ rest
      | failed unheard => exact .unheard unheard.2.2 rest
      | unsourced _ unsourced =>
          exact .unheard (fun _ _ yields => unsourced yields.2.1) rest
      | skipped _ unclipped =>
          exact .unheard (fun _ _ yields => unclipped yields.1) rest

/-- Messages that are combined without raising: a voice note without a text is
flagged, and the text is blank when every text among them is. -/
theorem combine_ok {issue : IssueText}
    (done : combineIssueText platform settings entries = .ok issue) :
    ("transcription_failed" ∈ issue.flags ↔
        ∃ entry ∈ entries, Unheard settings entry) ∧
      (Python.strip issue.text ≠ "" ↔
        ∃ text, Worded settings entries text ∧ Python.strip text ≠ "") ∧
      ∃ languages, Languages settings entries languages ∧
        issue.detectedLanguage = settled languages := by
  have borne := returns_combineIssueText.mp ⟨issue, done⟩
  obtain ⟨text, flags, language⟩ := combine_eq done
  refine ⟨?_, ?_, _, languages_of_readings borne, language⟩
  · rw [flags]
    exact mem_failed_iff borne
  · rw [text, ne_eq, Python.strip_strip_eq_empty,
      Python.strip_intercalate_eq_empty]
    simp only [List.mem_filterMap, Json.text_eq]
    constructor
    · intro inked
      push Not at inked
      obtain ⟨line, ⟨part, member, rfl⟩, inked⟩ := inked
      exact ⟨line, (mem_parts_iff borne line).mp member, inked⟩
    · rintro ⟨line, worded, inked⟩ blank
      exact inked (blank line
        ⟨_, (mem_parts_iff borne line).mpr worded, rfl⟩)

end

/-! ## The photo -/

def PhotoBorne (platform : Platform) (settings : Settings) (row : Grievance)
    (photo : PhotoOutcomes) : Prop :=
  Python.truthy row.photoPath = false →
    Python.truthy row.photoMediaId = true →
    MediaBorne platform settings (row.photoMediaId.getD "") photo.media

/-- The bytes of the photo can be had. -/
def PhotoShows (row : Grievance) (photo : PhotoOutcomes)
    (content : List UInt8) : Prop :=
  if Python.truthy row.photoPath then photo.read = some content
  else Python.truthy row.photoMediaId = true ∧
    ∃ mimeType, photo.media.Delivers content mimeType

/-- What becomes of the photo. -/
theorem photo_cases (platform : Platform) (settings : Settings)
    (row : Grievance) (photo : PhotoOutcomes) :
    (PhotoBorne platform settings row photo ∧
      ∃ bytes, fetchPhoto platform settings row photo = .ok bytes ∧
        ∀ content, PhotoShows row photo content ↔ bytes = some content) ∨
    (¬ PhotoBorne platform settings row photo ∧
      ¬ Returns (fetchPhoto platform settings row photo)) := by
  unfold fetchPhoto PhotoShows PhotoBorne
  cases path : Python.truthy row.photoPath with
  | true => exact .inl ⟨nofun, photo.read, rfl, by simp⟩
  | false =>
  cases media : Python.truthy row.photoMediaId with
  | false => exact .inl ⟨nofun, none, rfl, by simp⟩
  | true =>
  rcases download_cases platform settings (row.photoMediaId.getD "")
      photo.media with
    ⟨content, mimeType, delivers, downloaded, borne⟩ |
    ⟨raised, failed, caught, undelivered, borne⟩ |
    ⟨raised, failed, through, _, unborne⟩
  · refine .inl ⟨fun _ _ => borne, some content, by simp [downloaded], ?_⟩
    intro other
    simp only [Bool.false_eq_true, if_false, true_and, Option.some.injEq]
    constructor
    · rintro ⟨_, delivers'⟩
      exact (delivers.unique delivers').1
    · rintro rfl
      exact ⟨mimeType, delivers⟩
  · refine .inl ⟨fun _ _ => borne, none, by simp [failed, caught], ?_⟩
    intro other
    simp only [Bool.false_eq_true, if_false, true_and, reduceCtorEq,
      iff_false]
    rintro ⟨_, delivers⟩
    exact undelivered _ _ delivers
  · refine .inr ⟨fun borne => unborne (borne rfl rfl), ?_⟩
    simp [failed, through, Python.not_returns_error]

/-! ## The address -/

structure AddressBorne (longitude : Option ℚ) (outcomes : GeocodeOutcomes) :
    Prop where
  longitude : longitude ≠ none
  shallow : outcomes.cached = none → ¬ outcomes.request.TooDeep
  display : outcomes.cached = none → ∀ data display,
    outcomes.request.Gives data →
    data.member "display_name" = some display → display.truthy = true →
    ∃ text, display = .string text

/-- What becomes of the request for an address. -/
theorem reverse_cases (request : Outcome) :
    (¬ request.TooDeep ∧ (∀ data display, request.Gives data →
        data.member "display_name" = some display → display.truthy = true →
        ∃ text, display = .string text) ∧
      ∃ result address, reverse request = .ok result ∧
        result.displayAddress = ofText address) ∨
    (request.TooDeep ∧ reverse request = .error .recursionError) ∨
    ∃ data display result, request.Gives data ∧
      data.member "display_name" = some display ∧ display.truthy = true ∧
      (¬ ∃ text, display = .string text) ∧ reverse request = .ok result ∧
      result.status = .ok ∧ result.displayAddress = display := by
  unfold reverse
  cases answered : request.json with
  | error raised =>
      have ungiven : ∀ data, ¬ request.Gives data := by
        intro data gives
        cases answered.symm.trans (Outcome.json_ok.mpr gives)
      by_cases deep : request.TooDeep
      · cases answered.symm.trans (Outcome.json_tooDeep.mp deep)
        exact .inr (.inl ⟨deep, rfl⟩)
      · have caught : (raised.isHttpError || raised.isValueError) = true := by
          rcases Outcome.json_error answered with http | ⟨value, _⟩ |
            ⟨_, deep'⟩
          · simp [http]
          · simp [value]
          · exact absurd deep' deep
        refine .inl ⟨deep, fun data _ gives => absurd gives (ungiven data),
          { status := .failed, displayAddress := .null }, none, ?_, rfl⟩
        simp [caught]
  | ok data =>
      have gives := Outcome.json_ok.mp answered
      have shallow : ¬ request.TooDeep := by
        intro deep
        cases answered.symm.trans (Outcome.json_tooDeep.mp deep)
      simp only
      cases truthy : ((data.member "display_name").getD .null).truthy with
      | false =>
          refine .inl ⟨shallow, ?_,
            { status := .empty, displayAddress := .null }, none, rfl, rfl⟩
          intro data' display gives' found truthy'
          cases gives.unique gives'
          rw [found] at truthy
          cases truthy.symm.trans truthy'
      | true =>
          cases found : data.member "display_name" with
          | none =>
              rw [found] at truthy
              cases truthy
          | some display =>
              rw [found] at truthy
              by_cases text : ∃ text, display = .string text
              · obtain ⟨text, rfl⟩ := text
                refine .inl ⟨shallow, ?_, { status := .ok, displayAddress := .string text },
                  some text, rfl, rfl⟩
                intro data' display gives' found' _
                cases gives.unique gives'
                cases found.symm.trans found'
                exact ⟨text, rfl⟩
              · exact .inr (.inr ⟨data, display,
                  { status := .ok, displayAddress := display }, gives, found,
                  truthy, text, rfl, rfl, rfl⟩)

/-- What becomes of the address. -/
theorem geocode_cases (longitude : Option ℚ) (outcomes : GeocodeOutcomes) :
    (AddressBorne longitude outcomes ∧
      ∃ address, reverseGeocodeCached longitude outcomes =
        .ok (ofText address)) ∨
    (¬ AddressBorne longitude outcomes ∧
      ¬ Returns (reverseGeocodeCached longitude outcomes)) := by
  unfold reverseGeocodeCached
  cases longitude with
  | none =>
      exact .inr ⟨fun borne => borne.longitude rfl,
        Python.not_returns_error _⟩
  | some longitude =>
  cases cached : outcomes.cached with
  | some address =>
      refine .inl ⟨⟨by simp, ?_, ?_⟩, address, rfl⟩
      · intro none
        rw [cached] at none
        cases none
      · intro none
        rw [cached] at none
        cases none
  | none =>
  simp only [Option.isNone_some, Bool.false_eq_true, if_false]
  rcases reverse_cases outcomes.request with
    ⟨shallow, display, result, address, reversed, same⟩ |
    ⟨deep, reversed⟩ |
    ⟨data, display, result, gives, found, truthy, untextual, reversed, done,
      same⟩
  · refine .inl ⟨⟨by simp, fun _ => shallow, fun _ => display⟩, address, ?_⟩
    rw [reversed]
    simp only [Bind.bind, Except.bind, same]
    split
    · rfl
    · cases address <;> rfl
  · refine .inr ⟨fun borne => borne.shallow cached deep, ?_⟩
    rw [reversed]
    exact Python.not_returns_error _
  · refine .inr ⟨fun borne => untextual
      (borne.display cached data display gives found truthy), ?_⟩
    rw [reversed]
    simp only [Bind.bind, Except.bind, done, same]
    have refused : textColumn none display = .error .databaseError := by
      cases display with
      | string text => exact absurd ⟨text, rfl⟩ untextual
      | null => cases truthy
      | _ => rfl
    rw [refused]
    exact Python.not_returns_error _

end JanSetu.Pipeline.Evidence
