import JanSetu.Library.Failover
import JanSetu.Pipeline.Answers

/-!
# The order of the providers

`extract_issue` goes from provider to provider.  Here its loop is written with
the attempts that it makes, as an instance of a search that tries one candidate
after another, and compared with the failover that it is meant to be.
-/

namespace JanSetu.Pipeline.Classify

open Python (Json Raised Outcome Platform Returns)

variable {platform : Platform}

/-! ## The loop with its attempts -/

/-- The attempt is made, and then the others. -/
def madeBefore (entry : Attempt × Reply)
    (tried : List (Attempt × Reply) × Except Raised StructuredExtraction) :
    List (Attempt × Reply) × Except Raised StructuredExtraction :=
  (entry :: tried.1, tried.2)

/-- The loop of `extract_issue`, and the attempts that it makes. -/
def tryEach (platform : Platform) (text : String)
    (requested : List String) (sawQuota : Bool) :
    List (Attempt × Reply) →
      List (Attempt × Reply) × Except Raised StructuredExtraction
  | [] =>
      ([], .ok (degradedExtraction platform
        (if sawQuota then "provider_quota_exhausted" else "all_models_failed")
        text requested))
  | (attempt, reply) :: rest =>
      match runAttempt reply with
      | .error (.httpStatusError status) =>
          madeBefore (attempt, reply)
            (tryEach platform text requested (sawQuota || status = 429) rest)
      | .error raised =>
          if passedOver raised then
            madeBefore (attempt, reply)
              (tryEach platform text requested sawQuota rest)
          else ([(attempt, reply)], .error raised)
      | .ok (raw, actualModel, latencyMs) =>
          match parseExtraction platform raw with
          | .error raised => ([(attempt, reply)], .error raised)
          | .ok none =>
              madeBefore (attempt, reply)
                (tryEach platform text requested sawQuota rest)
          | .ok (some parsed) =>
              ([(attempt, reply)], .ok
                { parsed with
                  actualModel := modelOf attempt actualModel
                  actualProvider := some attempt.provider
                  latencyMs := some latencyMs
                  requestedModels := requested })

theorem tryEach_result (text : String) (requested : List String)
    (sawQuota : Bool) (entries : List (Attempt × Reply)) :
    (tryEach platform text requested sawQuota entries).2 =
      tryAttempts platform text requested sawQuota entries := by
  induction entries generalizing sawQuota with
  | nil => rfl
  | cons head entries induction =>
      obtain ⟨attempt, reply⟩ := head
      cases ran : runAttempt reply with
      | error raised =>
          cases through : passedOver raised <;>
            cases raised <;>
              simp [tryEach, tryAttempts, ran, through, madeBefore, induction]
      | ok answer =>
          cases parsed : parseExtraction platform answer.1 with
          | error raised => simp [tryEach, tryAttempts, ran, parsed]
          | ok found =>
              cases found <;>
                simp [tryEach, tryAttempts, ran, parsed, madeBefore, induction]

/-! ## The search that it is -/

/-- What is returned for a reply from which `parsed` is read. -/
def answeredBy (requested : List String) (attempt : Attempt)
    (actualModel : Json) (latencyMs : Nat) (parsed : StructuredExtraction) :
    StructuredExtraction :=
  { parsed with
    actualModel := modelOf attempt actualModel
    actualProvider := some attempt.provider
    latencyMs := some latencyMs
    requestedModels := requested }

/-- What a reply does to the search. -/
def verdict (platform : Platform) (requested : List String)
    (entry : Attempt × Reply) :
    Failover.Verdict Raised StructuredExtraction :=
  match runAttempt entry.2 with
  | .error raised => if passedOver raised then .passed else .failed raised
  | .ok (raw, actualModel, latencyMs) =>
      match parseExtraction platform raw with
      | .error raised => .failed raised
      | .ok none => .passed
      | .ok (some parsed) =>
          .taken (answeredBy requested entry.1 actualModel latencyMs parsed)

/-- The attempt was answered that its quota is used up. -/
def quotaSpent (reply : Reply) : Bool :=
  match reply.outcome with
  | .failed => false
  | .answered response => response.status = 429

/-- What is returned for the result of the search. -/
def conclude (platform : Platform) (text : String) (requested : List String)
    (quota : Bool) :
    Except Raised (Option StructuredExtraction) →
      Except Raised StructuredExtraction
  | .error raised => .error raised
  | .ok (some extraction) => .ok extraction
  | .ok none =>
      .ok (degradedExtraction platform
        (if quota then "provider_quota_exhausted" else "all_models_failed")
        text requested)

theorem navigate_notHttp {payload : Json} {raised : Raised}
    (failed : navigate payload = .error raised) :
    raised.isHttpError = false := by
  have item : ∀ {value : Json} {name : String} {raised : Raised},
      value.item name = .error raised → raised.isHttpError = false := by
    intro value name raised failed
    rcases Json.item_error failed with ⟨rfl, _⟩ | ⟨rfl, _⟩ <;> rfl
  unfold navigate at failed
  simp only [Bind.bind, Except.bind] at failed
  cases choices : payload.item "choices" with
  | error first =>
      rw [choices] at failed
      rw [← Except.error.inj failed]
      exact item choices
  | ok found =>
      simp only [choices] at failed
      cases indexed : found.first with
      | error second =>
          rw [indexed] at failed
          rw [← Except.error.inj failed]
          rcases Json.first_error indexed with rfl | rfl | rfl <;> rfl
      | ok choice =>
          simp only [indexed] at failed
          cases messages : choice.item "message" with
          | error third =>
              rw [messages] at failed
              rw [← Except.error.inj failed]
              exact item messages
          | ok message =>
              simp only [messages] at failed
              exact item failed

/-- An attempt ends in a status error exactly when it is answered with that
status, and it is no success. -/
theorem runAttempt_status {reply : Reply} {status : Nat} :
    runAttempt reply = .error (.httpStatusError status) ↔
      ∃ response, reply.outcome = .answered response ∧
        response.isSuccess = false ∧ response.status = status := by
  rw [runAttempt_eq]
  cases sent : reply.outcome with
  | failed => simp [Outcome.json, Outcome.answer, Bind.bind, Except.bind]
  | answered response =>
      rw [Outcome.json_answered]
      cases success : response.isSuccess with
      | false => simp [Bind.bind, Except.bind, success]
      | true =>
          constructor
          · intro failed
            cases decoded : response.body with
            | value payload =>
                simp only [decoded, Python.Decoded.result, if_true,
                  Bind.bind, Except.bind] at failed
                cases walked : navigate payload with
                | error raised =>
                    rw [walked] at failed
                    have kind := navigate_notHttp walked
                    rw [Except.error.inj failed] at kind
                    cases kind
                | ok content =>
                    rw [walked] at failed
                    cases failed
            | _ =>
                simp [decoded, Python.Decoded.result, Bind.bind,
                  Except.bind] at failed
          · rintro ⟨other, same, fails, _⟩
            rw [← Outcome.answered.inj same, success] at fails
            cases fails

theorem quotaSpent_iff {reply : Reply} :
    quotaSpent reply = true ↔
      runAttempt reply = .error (.httpStatusError 429) := by
  rw [runAttempt_status]
  unfold quotaSpent
  cases reply.outcome with
  | failed => simp
  | answered response =>
      simp only [decide_eq_true_eq, Outcome.answered.injEq]
      constructor
      · intro spent
        refine ⟨response, rfl, ?_, spent⟩
        simp [Python.Response.isSuccess, spent]
      · rintro ⟨other, rfl, _, spent⟩
        exact spent

section

variable {text : String} {requested : List String} {sawQuota : Bool}
  {entry : Attempt × Reply} {rest : List (Attempt × Reply)}

theorem tryEach_passed (passes : verdict platform requested entry = .passed) :
    tryEach platform text requested sawQuota (entry :: rest) =
      madeBefore entry (tryEach platform text requested
        (sawQuota || quotaSpent entry.2) rest) := by
  obtain ⟨attempt, reply⟩ := entry
  have unspent : ∀ {result}, runAttempt reply = result →
      result ≠ .error (.httpStatusError 429) → quotaSpent reply = false := by
    intro result ran other
    rw [← Bool.not_eq_true, quotaSpent_iff, ran]
    exact other
  cases ran : runAttempt reply with
  | error raised =>
      cases raised with
      | httpStatusError status =>
          have spent : quotaSpent reply = decide (status = 429) := by
            rw [Bool.eq_iff_iff, quotaSpent_iff, ran]
            simp
          simp [tryEach, ran, spent]
      | _ =>
          have saw := unspent ran (by simp)
          simp_all [tryEach, verdict]
  | ok answer =>
      have saw := unspent ran (by simp)
      cases parsed : parseExtraction platform answer.1 with
      | error raised => simp [verdict, ran, parsed] at passes
      | ok found =>
          cases found with
          | none => simp [tryEach, ran, parsed, saw]
          | some extraction => simp [verdict, ran, parsed] at passes

theorem tryEach_failed {raised : Raised}
    (fails : verdict platform requested entry = .failed raised) :
    tryEach platform text requested sawQuota (entry :: rest) =
      ([entry], .error raised) := by
  obtain ⟨attempt, reply⟩ := entry
  cases ran : runAttempt reply with
  | error other =>
      cases through : passedOver other with
      | true => simp [verdict, ran, through] at fails
      | false =>
          have same : other = raised := by
            simpa [verdict, ran, through] using fails
          rw [← same]
          cases other with
          | httpStatusError status =>
              simp [passedOver, Raised.isHttpError] at through
          | _ => simp [tryEach, ran, through]
  | ok answer =>
      cases parsed : parseExtraction platform answer.1 with
      | error other =>
          have same : other = raised := by
            simpa [verdict, ran, parsed] using fails
          simp [tryEach, ran, parsed, same]
      | ok found =>
          cases found <;> simp [verdict, ran, parsed] at fails

theorem tryEach_taken {extraction : StructuredExtraction}
    (takes : verdict platform requested entry = .taken extraction) :
    tryEach platform text requested sawQuota (entry :: rest) =
      ([entry], .ok extraction) := by
  obtain ⟨attempt, reply⟩ := entry
  cases ran : runAttempt reply with
  | error other =>
      cases through : passedOver other <;>
        simp [verdict, ran, through] at takes
  | ok answer =>
      cases parsed : parseExtraction platform answer.1 with
      | error other => simp [verdict, ran, parsed] at takes
      | ok found =>
          cases found with
          | none => simp [verdict, ran, parsed] at takes
          | some read =>
              have same : answeredBy requested attempt answer.2.1 answer.2.2
                  read = extraction := by
                simpa [verdict, ran, parsed] using takes
              simp [tryEach, ran, parsed, ← same, answeredBy]

end

/-- The loop is the search, and reports the quota when some attempt met it. -/
theorem tryEach_search (text : String) (requested : List String)
    (sawQuota : Bool) (entries : List (Attempt × Reply)) :
    tryEach platform text requested sawQuota entries =
      ((Failover.search (verdict platform requested) entries).1,
        conclude platform text requested
          (sawQuota || entries.any fun entry => quotaSpent entry.2)
          (Failover.search (verdict platform requested) entries).2) := by
  induction entries generalizing sawQuota with
  | nil => simp [tryEach, Failover.search, conclude]
  | cons entry entries induction =>
      cases judged : verdict platform requested entry with
      | taken extraction =>
          rw [tryEach_taken judged, Failover.search_taken judged]
          rfl
      | failed raised =>
          rw [tryEach_failed judged, Failover.search_failed judged]
          rfl
      | passed =>
          rw [tryEach_passed judged, Failover.search_passed judged, induction]
          simp [madeBefore, Bool.or_assoc]

/-- `extract_issue`, and the attempts that it makes. -/
def extractIssueMade (platform : Platform) (settings : Settings)
    (text : String) (hasImage : Bool) (replies : Nat → Reply) :
    List (Attempt × Reply) × Except Raised StructuredExtraction :=
  let attempts := asked settings hasImage replies
  if Python.strip text = "" then
    ([], .ok (degradedExtraction platform "missing_text" text []))
  else if attempts.isEmpty then
    ([], .ok (degradedExtraction platform "llm_not_configured" text []))
  else
    tryEach platform text
      (attempts.map fun entry => entry.1.provider ++ ":" ++ entry.1.model)
      false attempts

theorem extractIssueMade_result (platform : Platform) (settings : Settings)
    (text : String) (hasImage : Bool) (replies : Nat → Reply) :
    (extractIssueMade platform settings text hasImage replies).2 =
      extractIssue platform settings text hasImage replies := by
  unfold extractIssueMade extractIssue
  simp only
  split
  · rfl
  · split
    · rfl
    · exact tryEach_result _ _ _ _

/-! ## The plan -/

/-- The place of a provider in the chain. -/
def providerRank (provider : String) : Nat :=
  if provider = "google" then 0 else if provider = "groq" then 1 else 2

/-- The providers follow each other in their order, and the one that sees no
images is left out for a photo. -/
structure Planned (hasImage : Bool) (attempts : List Attempt) : Prop where
  ordered : attempts.Pairwise fun earlier later =>
    providerRank earlier.provider ≤ providerRank later.provider
  sighted : hasImage = true → ∀ attempt ∈ attempts, attempt.provider ≠ "groq"

/-- One provider's attempts. -/
def AllOf (provider : String) (attempts : List Attempt) : Prop :=
  ∀ attempt ∈ attempts, attempt.provider = provider

theorem AllOf.ordered {provider : String} {attempts : List Attempt}
    (only : AllOf provider attempts) :
    attempts.Pairwise fun earlier later =>
      providerRank earlier.provider ≤ providerRank later.provider := by
  rw [List.pairwise_iff_forall_sublist]
  intro earlier later both
  have first := only earlier (both.subset (by simp))
  have second := only later (both.subset (by simp))
  rw [first, second]

theorem planned_chains {hasImage : Bool}
    {google groq openrouter : List Attempt} (first : AllOf "google" google)
    (second : AllOf "groq" groq) (third : AllOf "openrouter" openrouter)
    (sighted : hasImage = true → groq = []) :
    Planned hasImage (google ++ groq ++ openrouter) := by
  constructor
  case ordered =>
    rw [List.pairwise_append, List.pairwise_append]
    refine ⟨⟨first.ordered, second.ordered, ?_⟩, third.ordered, ?_⟩
    · intro earlier member later member'
      rw [first earlier member]
      exact Nat.zero_le _
    · intro earlier member later member'
      rw [third later member']
      rcases List.mem_append.mp member with member | member
      · rw [first earlier member]
        decide
      · rw [second earlier member]
        decide
  case sighted =>
    intro photo attempt member
    rw [sighted photo, List.append_nil] at member
    rcases List.mem_append.mp member with member | member
    · rw [first attempt member]
      decide
    · rw [third attempt member]
      decide

theorem planned (settings : Settings) (hasImage : Bool) :
    Planned hasImage (buildExtractionAttempts settings hasImage) := by
  have chain : ∀ (provider models : String),
      AllOf provider ((modelChain models).map (Attempt.mk provider)) := by
    intro provider models attempt member
    obtain ⟨model, _, rfl⟩ := List.mem_map.mp member
    rfl
  have none : ∀ provider, AllOf provider [] := by
    intro provider attempt member
    cases member
  unfold buildExtractionAttempts
  apply planned_chains
  · split
    · exact chain _ _
    · exact none _
  · split
    · exact chain _ _
    · exact none _
  · split
    · intro attempt member
      rw [List.mem_singleton.mp member]
    · exact none _
  · intro photo
    simp [photo]

theorem asked_attempts (settings : Settings) (hasImage : Bool)
    (replies : Nat → Reply) :
    (asked settings hasImage replies).map (·.1) =
      buildExtractionAttempts settings hasImage := by
  unfold asked
  apply List.ext_getElem
  · simp
  · intro index _ _
    simp

/-! ## Failing over -/

/-- The reply to the attempt contains an extraction that can be parsed, and
this is what is made of it. -/
def Contains (platform : Platform) (requested : List String)
    (entry : Attempt × Reply) (extraction : StructuredExtraction) : Prop :=
  ∃ raw actualModel latencyMs parsed,
    runAttempt entry.2 = .ok (raw, actualModel, latencyMs) ∧
    parseExtraction platform raw = .ok (some parsed) ∧
    extraction = answeredBy requested entry.1 actualModel latencyMs parsed

def Parseable (platform : Platform) (requested : List String)
    (entry : Attempt × Reply) : Prop :=
  ∃ extraction, Contains platform requested entry extraction

/-- The outcome of failing over through the attempts. -/
structure Settled (platform : Platform) (requested : List String)
    (entries made : List (Attempt × Reply))
    (extraction : StructuredExtraction) : Prop where
  /-- The first extraction that can be parsed is returned, and no later attempt
  has been made. -/
  first : ∀ before entry after found, entries = before ++ entry :: after →
    (∀ earlier ∈ before, ¬ Parseable platform requested earlier) →
    Contains platform requested entry found →
      extraction = found ∧ made = before ++ [entry]
  degraded : extraction.degraded = true ↔
    ∀ entry ∈ entries, ¬ Parseable platform requested entry
  quota : extraction.degraded = true →
    (extraction.degradationReason = some "provider_quota_exhausted" ↔
      ∃ entry ∈ entries, quotaSpent entry.2 = true)
  requested : extraction.requestedModels = requested

/-- The promise of the provider chain about a text. -/
def FailsOver (platform : Platform) (settings : Settings) (text : String)
    (hasImage : Bool) (replies : Nat → Reply) : Prop :=
  Python.strip text ≠ "" →
    Planned hasImage ((asked settings hasImage replies).map (·.1)) ∧
    ∃ made extraction,
      extractIssueMade platform settings text hasImage replies =
        (made, .ok extraction) ∧
      Settled platform
        ((asked settings hasImage replies).map fun entry =>
          entry.1.provider ++ ":" ++ entry.1.model)
        (asked settings hasImage replies) made extraction

section

variable {text : String} {requested : List String}
  {entry : Attempt × Reply} {entries made : List (Attempt × Reply)}
  {extraction : StructuredExtraction}

theorem verdict_taken :
    verdict platform requested entry = .taken extraction ↔
      Contains platform requested entry extraction := by
  unfold verdict Contains
  constructor
  · intro takes
    cases ran : runAttempt entry.2 with
    | error raised =>
        simp only [ran] at takes
        split at takes <;> cases takes
    | ok answer =>
        simp only [ran] at takes
        cases parsed : parseExtraction platform answer.1 with
        | error raised => simp [parsed] at takes
        | ok found =>
            cases found with
            | none => simp [parsed] at takes
            | some read =>
                simp only [parsed, Failover.Verdict.taken.injEq] at takes
                exact ⟨_, _, _, read, rfl, parsed, takes.symm⟩
  · rintro ⟨raw, actualModel, latencyMs, parsed, ran, reads, rfl⟩
    simp [ran, reads]

theorem not_parseable (passes : verdict platform requested entry = .passed) :
    ¬ Parseable platform requested entry := by
  rintro ⟨extraction, contained⟩
  rw [verdict_taken.mpr contained] at passes
  cases passes

theorem Contains.unique {other : StructuredExtraction}
    (first : Contains platform requested entry extraction)
    (second : Contains platform requested entry other) :
    extraction = other := by
  have same := (verdict_taken.mpr first).symm.trans (verdict_taken.mpr second)
  simpa using same

theorem Contains.sound
    (contained : Contains platform requested entry extraction) :
    extraction.degraded = false ∧ extraction.requestedModels = requested := by
  obtain ⟨_, _, _, parsed, _, reads, rfl⟩ := contained
  exact ⟨(parseExtraction_some reads).2, rfl⟩

/-- A degraded extraction after attempts none of which can be parsed. -/
theorem settled_degraded {reason : String}
    (unparseable : ∀ entry ∈ entries, ¬ Parseable platform requested entry)
    (quota : reason = "provider_quota_exhausted" ↔
      ∃ entry ∈ entries, quotaSpent entry.2 = true) :
    Settled platform requested entries made
      (degradedExtraction platform reason text requested) := by
  constructor
  case first =>
    intro before entry after found same _ contained
    have member : entry ∈ entries := by
      rw [same]
      simp
    exact absurd ⟨found, contained⟩ (unparseable entry member)
  case degraded =>
    exact ⟨fun _ => unparseable, fun _ => rfl⟩
  case quota =>
    intro _
    simpa [degradedExtraction] using quota
  case requested => rfl

/-- The extraction of the last attempt made, those before it having none. -/
theorem settled_found {before after : List (Attempt × Reply)}
    (passed : ∀ earlier ∈ before, ¬ Parseable platform requested earlier)
    (contained : Contains platform requested entry extraction) :
    Settled platform requested (before ++ entry :: after) (before ++ [entry])
      extraction := by
  obtain ⟨sound, listed⟩ := contained.sound
  constructor
  case first =>
    intro before' entry' after' found same passed' contained'
    obtain ⟨rfl, rfl⟩ := Failover.first_unique same passed ⟨_, contained⟩
      passed' ⟨_, contained'⟩
    exact ⟨contained.unique contained', rfl⟩
  case degraded =>
    rw [sound]
    constructor
    · intro degraded
      cases degraded
    · intro none
      exact absurd ⟨extraction, contained⟩ (none entry (by simp))
  case quota =>
    intro degraded
    rw [sound] at degraded
    cases degraded
  case requested => exact listed

/-- A loop that returns has failed over as it should. -/
theorem tryEach_settled
    (returns : Returns (tryEach platform text requested false entries).2) :
    ∃ made extraction,
      tryEach platform text requested false entries =
        (made, .ok extraction) ∧
      Settled platform requested entries made extraction := by
  rw [tryEach_search] at returns ⊢
  cases found : (Failover.search (verdict platform requested) entries).2 with
  | error raised =>
      rw [found] at returns
      exact absurd returns (Python.not_returns_error raised)
  | ok result =>
      cases result with
      | none =>
          obtain ⟨_, passed⟩ := Failover.search_none found
          refine ⟨_, _, rfl, settled_degraded
            (fun entry member => not_parseable (passed entry member)) ?_⟩
          rw [Bool.false_or, ← List.any_eq_true]
          cases entries.any fun entry => quotaSpent entry.2 <;> simp
      | some extraction =>
          obtain ⟨before, entry, after, rfl, passed, taken, made⟩ :=
            Failover.search_some found
          refine ⟨_, extraction, rfl, ?_⟩
          rw [made]
          exact settled_found
            (fun earlier member => not_parseable (passed earlier member))
            (verdict_taken.mp taken)

end

/-- The chain keeps its promise exactly when every attempt, up to the first one
that is answered with a usable extraction, gets an answer that is borne. -/
theorem failsOver_iff (platform : Platform) (settings : Settings)
    (text : String) (hasImage : Bool) (replies : Nat → Reply) :
    FailsOver platform settings text hasImage replies ↔
      (Python.strip text ≠ "" → ∀ entry,
        Reached platform (asked settings hasImage replies) entry →
          ReplyBorne platform entry.2) := by
  rw [← returns_extractIssue, ← extractIssueMade_result]
  constructor
  · intro fails
    by_cases blank : Python.strip text = ""
    · simp [extractIssueMade, blank, Python.returns_ok]
    · obtain ⟨_, made, extraction, done, _⟩ := fails blank
      rw [done]
      exact Python.returns_ok extraction
  · intro returns said
    rw [asked_attempts]
    refine ⟨planned settings hasImage, ?_⟩
    unfold extractIssueMade at returns ⊢
    by_cases none : asked settings hasImage replies = []
    · refine ⟨[], degradedExtraction platform "llm_not_configured" text [],
        by simp [said, none], ?_⟩
      rw [none]
      exact settled_degraded nofun (by simp)
    · simp only [said, if_false, none, List.isEmpty_iff] at returns ⊢
      exact tryEach_settled returns

/-! ## A refusal that ends the chain -/

def twoProviders : Settings :=
  { googleApiKey := some "key", googleModels := "gemini-3.6-flash"
    groqApiKey := none, groqModels := ""
    openrouterApiKey := some "key", openrouterModels := "openrouter/free" }

def brokenLamp : String :=
  "\x7b\"category_id\": \"streetlight_out\"\x7d"

def brokenLampMembers : List (String × Json) :=
  [("category_id", .string "streetlight_out")]

/-- The decoder on one answer. -/
def lampDecoder : Platform :=
  { loads := fun text =>
      if text = brokenLamp then .value (.object brokenLampMembers)
      else .notJson
    repr := fun _ => ""
    floatOfText := fun _ => none
    casefold := fun text => text
    validUrl := fun _ => false }

/-- A completion with this content. -/
def completion (content : Json) : Reply :=
  { outcome := .answered
      { status := 200
        body := .value (.object
          [("choices", .array
            [.object [("message", .object [("content", content)])]])])
        content := [] }
    latencyMs := 900 }

/-- The first provider refuses without content, the second answers. -/
def refusedThenAnswered (index : Nat) : Reply :=
  if index = 0 then completion .null else completion (.string brokenLamp)

theorem brokenLamp_parsed :
    ∃ parsed, parseExtraction lampDecoder (.string brokenLamp) =
      .ok (some parsed) := by
  have found : braces brokenLamp = some brokenLamp := by
    decide +kernel
  have known : canonicalCategoryKey (some "streetlight_out") =
      some "streetlight_out" := by
    decide +kernel
  have canonical : isCanonical "streetlight_out" = true := by
    decide +kernel
  have loaded : lampDecoder.loads brokenLamp =
      .value (.object brokenLampMembers) := by
    simp [lampDecoder]
  have returns : Returns (readMembers lampDecoder brokenLampMembers
      "streetlight_out") := by
    rw [returns_readMembers]
    constructor <;>
      simp [brokenLampMembers, Listed, Json.getD, Json.get, Json.member,
        List.lookup_cons, Json.hashable, Json.Iterable, Json.items]
  obtain ⟨parsed, read⟩ := returns
  refine ⟨parsed, ?_⟩
  have category : canonicalKey (categoryOf (.object brokenLampMembers)) =
      .ok (some "streetlight_out") :=
    canonicalKey_some.mpr ⟨_, rfl, known⟩
  have members : parseMembers lampDecoder brokenLampMembers =
      .ok (some parsed) := by
    rw [parseMembers_known category canonical, read]
    rfl
  simp only [parseExtraction, extractJson, found, loaded]
  exact members

/-- The second attempt has an extraction, and the chain never gets to it. -/
theorem refusal_ends_chain :
    (∃ attempt, (asked twoProviders false refusedThenAnswered)[1]? =
        some (attempt, completion (.string brokenLamp)) ∧
      Parseable lampDecoder [] (attempt, completion (.string brokenLamp))) ∧
    extractIssue lampDecoder twoProviders "no light" false
        refusedThenAnswered = .error .typeError ∧
    ¬ FailsOver lampDecoder twoProviders "no light" false
        refusedThenAnswered := by
  have raised : extractIssue lampDecoder twoProviders "no light" false
      refusedThenAnswered = .error .typeError := by
    rfl
  obtain ⟨parsed, reads⟩ := brokenLamp_parsed
  refine ⟨⟨_, rfl, _, _, _, _, parsed, rfl, reads, rfl⟩, raised, ?_⟩
  intro fails
  obtain ⟨_, made, extraction, done, _⟩ := fails (by decide +kernel)
  rw [← extractIssueMade_result, done] at raised
  cases raised

end JanSetu.Pipeline.Classify
