import JanSetu.Pipeline.Core
import JanSetu.Python.Httpx

/-!
# Extraction

`extract_issue` asks one model after another until one of them gives an answer
that can be used.  Which answers raise, which are passed over and which are
used is read off the shape of the answer alone.
-/

namespace JanSetu.Pipeline.Classify

open Python (Json Raised Outcome Platform Returns)

/-- The settings of the three providers. -/
structure Settings where
  googleApiKey : Option String
  googleModels : String
  groqApiKey : Option String
  groqModels : String
  openrouterApiKey : Option String
  openrouterModels : String

/-- `StructuredExtraction`, with whatever a model may put in its members. -/
structure StructuredExtraction where
  summary : String
  categoryId : String
  alternatives : List String
  confidence : ℚ
  assetScope : AssetScope
  ownerHint : String
  safety : SafetyLevel
  requestedAction : Json
  landmark : Json
  incidentTime : Json
  missingFacts : List String
  clarificationQuestion : Json
  evidence : List String
  imageObservations : List String
  contradictions : List String
  multipleIssues : Bool
  degraded : Bool
  degradationReason : Option String
  actualModel : Json
  actualProvider : Option String
  latencyMs : Option Nat
  requestedModels : List String
  raw : Option (List (String × Json))

/-! ## Parsing -/

def firstChars (count : Nat) (text : String) : String :=
  String.ofList (text.toList.take count)

/-- What `\{.*\}` finds: from the first opening brace to the last closing one
after it. -/
def braces (text : String) : Option String :=
  let opened := text.toList.dropWhile (· ≠ '\x7b')
  let closed := (opened.reverse.dropWhile (· ≠ '\x7d')).reverse
  if closed.isEmpty then none else some (String.ofList closed)

def extractJson (platform : Platform) (text : String) :
    Except Raised (Option (List (String × Json))) :=
  match braces text with
  | none => .ok none
  | some found =>
      match platform.loads found with
      | .value (.object members) => .ok (some members)
      | .value _ => .ok none
      | .notJson => .ok none
      -- Only a `JSONDecodeError` is caught.
      | .tooManyDigits => .error .valueError
      | .tooDeep => .error .recursionError

/-- `max(0.0, min(1.0, value))`; neither comparison holds of a NaN. -/
def clamp : Python.Float → ℚ
  | .finite value => max 0 (min 1 value)
  | .infinity => 1
  | .negativeInfinity => 0
  | .nan => 1

def boundedConfidence (platform : Platform) (value : Json) (default : ℚ) :
    Except Raised ℚ :=
  match platform.float value with
  | .ok number => .ok (clamp number)
  | .error raised =>
      if raised = .typeError ∨ raised.isValueError then .ok default
      else .error raised

/-- `canonical_category_key`, which looks its argument up in a `dict`. -/
def canonicalKey (value : Json) : Except Raised (Option String) :=
  if value.truthy then
    match value with
    | .string key => .ok (canonicalCategoryKey (some key))
    | value => if value.hashable then .ok none else .error .typeError
  else .ok none

def assetScopeOf : Json → AssetScope
  | .string "public" => .publicAsset
  | .string "private" => .privateAsset
  | _ => .unknown

def safetyOf : Json → SafetyLevel
  | .string "none" => .none
  | .string "immediate" => .immediate
  | _ => .possible

def ownerHints : List String :=
  ["ulb", "water_utility", "discom", "state_road", "national_highway",
    "railway", "development_authority", "police", "health", "private",
    "unknown"]

/-- The test for membership in a `set` hashes the value first. -/
def ownerHintOf (value : Json) : Except Raised String :=
  if value.hashable then
    match value with
    | .string hint => .ok (if hint ∈ ownerHints then hint else "unknown")
    | _ => .ok "unknown"
  else .error .typeError

def isCanonical (key : String) : Bool :=
  (canonicalCategory key).isSome

/-- `tuple(map(str, data.get(name, [])))[:limit]`. -/
def strings (platform : Platform) (data : Json) (name : String)
    (limit : Nat) : Except Raised (List String) := do
  let items ← (data.getD name (.array [])).iterate
  pure ((items.map platform.str).take limit)

def alternatives (data : Json) (categoryId : String) :
    Except Raised (List String) := do
  let items ← (data.getD "alternative_category_ids" (.array [])).iterate
  let keys ← items.mapM canonicalKey
  pure
    (((keys.filterMap id).filter fun key =>
      isCanonical key && key ≠ categoryId).take 3)

/-- `data.get("category_id") or data.get("category")`. -/
def categoryOf (data : Json) : Json :=
  (data.get "category_id").orElse (data.get "category")

/-- The part of `parse_extraction` that reads what stands beside the category. -/
def readMembers (platform : Platform) (members : List (String × Json))
    (categoryId : String) : Except Raised StructuredExtraction := do
  let data := Json.object members
  let ownerHint ← ownerHintOf (data.getD "owner_hint" (.string "unknown"))
  let alternatives ← alternatives data categoryId
  let confidence ← boundedConfidence platform (data.get "confidence") 0
  let missingFacts ← strings platform data "missing_facts" 5
  let evidence ← strings platform data "evidence" 8
  let imageObservations ← strings platform data "image_observations" 8
  let contradictions ← strings platform data "contradictions" 5
  pure
    { summary := firstChars 600 (Python.strip
        (platform.str ((data.get "summary").orElse (.string ""))))
      categoryId := categoryId
      alternatives := alternatives
      confidence := confidence
      assetScope := assetScopeOf (data.getD "asset_scope" (.string "unknown"))
      ownerHint := ownerHint
      safety := safetyOf (data.getD "safety" (.string "none"))
      requestedAction := data.get "requested_action"
      landmark := data.get "landmark"
      incidentTime := data.get "incident_time"
      missingFacts := missingFacts
      clarificationQuestion := data.get "clarification_question"
      evidence := evidence
      imageObservations := imageObservations
      contradictions := contradictions
      multipleIssues :=
        (data.getD "multiple_issues" (.bool false)).truthy
      degraded := false
      degradationReason := none
      actualModel := .null
      actualProvider := none
      latencyMs := none
      requestedModels := []
      raw := some members }

def parseMembers (platform : Platform) (members : List (String × Json)) :
    Except Raised (Option StructuredExtraction) := do
  let key ← canonicalKey (categoryOf (.object members))
  match key with
  | none => pure none
  | some categoryId =>
      if isCanonical categoryId then
        let extraction ← readMembers platform members categoryId
        pure (some extraction)
      else pure none

/-- `parse_extraction`; `re.search` takes nothing but a string. -/
def parseExtraction (platform : Platform) (rawText : Json) :
    Except Raised (Option StructuredExtraction) :=
  match rawText with
  | .string text => do
      let found ← extractJson platform text
      match found with
      | none => pure none
      | some [] => pure none
      | some members => parseMembers platform members
  | _ => .error .typeError

/-! ## Asking -/

structure Attempt where
  provider : String
  model : String

/-- A comma-separated setting. -/
def modelChain (models : String) : List String :=
  ((Python.split ',' models).map Python.strip).filter (· ≠ "")

def openrouterModelsCap : Nat := 3

/-- `build_extraction_attempts`, less what is sent. -/
def buildExtractionAttempts (settings : Settings) (hasImage : Bool) :
    List Attempt :=
  let google :=
    if Python.truthy settings.googleApiKey then
      (modelChain settings.googleModels).map (Attempt.mk "google")
    else []
  let groq :=
    if Python.truthy settings.groqApiKey && !hasImage then
      (modelChain settings.groqModels).map (Attempt.mk "groq")
    else []
  let openrouter :=
    if Python.truthy settings.openrouterApiKey then
      let models :=
        (modelChain settings.openrouterModels).take openrouterModelsCap
      let models := if models.isEmpty then ["openrouter/free"] else models
      [Attempt.mk "openrouter" (String.intercalate "," models)]
    else []
  google ++ groq ++ openrouter

/-- What comes of one request to a model. -/
structure Reply where
  outcome : Outcome
  latencyMs : Nat

def runAttempt (reply : Reply) : Except Raised (Json × Json × Nat) := do
  let payload ← reply.outcome.json
  let choices ← payload.item "choices"
  let choice ← choices.first
  let message ← choice.item "message"
  let content ← message.item "content"
  pure (content, payload.get "model", reply.latencyMs)

/-- `httpx.HTTPError`, `KeyError`, `IndexError` and `ValueError`. -/
def passedOver (raised : Raised) : Bool :=
  raised.isHttpError || raised = .keyError || raised = .indexError ||
    raised.isValueError

def safetyTerms : List String :=
  ["live wire", "exposed wire", "open manhole", "cave in", "collapse", "fire",
    "injured", "accident", "electrocution", "करंट", "आग", "घायल",
    "खुला मैनहोल"]

def hasSafetyTerms (platform : Platform) (text : String) : Bool :=
  let normalized := (platform.casefold text).toList
  safetyTerms.any fun term =>
    normalized.tails.any (term.toList.isPrefixOf ·)

def degradedExtraction (platform : Platform) (reason text : String)
    (requested : List String) : StructuredExtraction :=
  { summary := firstChars 600 (Python.strip text)
    categoryId := "insufficient_information"
    alternatives := []
    confidence := 0
    assetScope := .unknown
    ownerHint := "unknown"
    safety := if hasSafetyTerms platform text then .possible else .none
    requestedAction := .null
    landmark := .null
    incidentTime := .null
    missingFacts := []
    clarificationQuestion := .null
    evidence := []
    imageObservations := []
    contradictions := []
    multipleIssues := false
    degraded := true
    degradationReason := some reason
    actualModel := .null
    actualProvider := none
    latencyMs := none
    requestedModels := requested
    raw := none }

/-- `actual_model or attempt["model"]`. -/
def modelOf (attempt : Attempt) (actualModel : Json) : Json :=
  actualModel.orElse (.string attempt.model)

/-- The loop of `extract_issue`. -/
def tryAttempts (platform : Platform) (text : String)
    (requested : List String) (sawQuota : Bool) :
    List (Attempt × Reply) → Except Raised StructuredExtraction
  | [] =>
      .ok (degradedExtraction platform
        (if sawQuota then "provider_quota_exhausted" else "all_models_failed")
        text requested)
  | (attempt, reply) :: rest =>
      match runAttempt reply with
      | .error (.httpStatusError status) =>
          tryAttempts platform text requested (sawQuota || status = 429) rest
      | .error raised =>
          if passedOver raised then
            tryAttempts platform text requested sawQuota rest
          else .error raised
      | .ok (raw, actualModel, latencyMs) =>
          match parseExtraction platform raw with
          | .error raised => .error raised
          | .ok none => tryAttempts platform text requested sawQuota rest
          | .ok (some parsed) =>
              .ok
                { parsed with
                  actualModel := modelOf attempt actualModel
                  actualProvider := some attempt.provider
                  latencyMs := some latencyMs
                  requestedModels := requested }

/-- The models asked about a complaint, each with its reply. -/
def asked (settings : Settings) (hasImage : Bool) (replies : Nat → Reply) :
    List (Attempt × Reply) :=
  (buildExtractionAttempts settings hasImage).mapIdx fun index attempt =>
    (attempt, replies index)

def extractIssue (platform : Platform) (settings : Settings) (text : String)
    (hasImage : Bool) (replies : Nat → Reply) :
    Except Raised StructuredExtraction :=
  let attempts := asked settings hasImage replies
  if Python.strip text = "" then
    .ok (degradedExtraction platform "missing_text" text [])
  else if attempts.isEmpty then
    .ok (degradedExtraction platform "llm_not_configured" text [])
  else
    tryAttempts platform text
      (attempts.map fun entry => entry.1.provider ++ ":" ++ entry.1.model)
      false attempts

end JanSetu.Pipeline.Classify
