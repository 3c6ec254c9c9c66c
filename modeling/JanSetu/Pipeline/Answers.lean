import JanSetu.Pipeline.Classify

/-!
# Which answers of a model are borne

By the shape of an answer alone: which ones `extract_issue` uses, and which
ones make it raise.  It raises exactly when one of the models that it asks,
those up to the first usable answer, gives an answer that is not borne.
-/

namespace JanSetu.Pipeline.Classify

open Python (Json Raised Outcome Platform Returns)

variable {platform : Platform}

/-! ## The members of an answer -/

/-- A value that can be looked up as a category. -/
def KeyLike (value : Json) : Prop :=
  value.truthy = true → value.hashable = true

/-- The member can be iterated over, or is missing. -/
def Listed (data : Json) (name : String) : Prop :=
  (data.getD name (.array [])).Iterable

/-- The category of an answer, when it is one of the taxonomy. -/
def NamesCategory (data : Json) (key : String) : Prop :=
  ∃ name, categoryOf data = .string name ∧
    canonicalCategoryKey (some name) = some key ∧ isCanonical key = true

/-- What stands beside the category is of a kind that can be read. -/
structure Readable (data : Json) : Prop where
  ownerHint :
    (data.getD "owner_hint" (.string "unknown")).hashable = true
  alternatives : Listed data "alternative_category_ids"
  candidates :
    ∀ item ∈ (data.getD "alternative_category_ids" (.array [])).items,
      KeyLike item
  confidence : ∀ value, data.get "confidence" = .int value →
    Python.Platform.fitsDouble value = true
  missingFacts : Listed data "missing_facts"
  evidence : Listed data "evidence"
  imageObservations : Listed data "image_observations"
  contradictions : Listed data "contradictions"

/-- The object that a text of the model holds. -/
def Holds (platform : Platform) (content data : Json) : Prop :=
  ∃ text found members, content = .string text ∧
    braces text = some found ∧
    platform.loads found = .value (.object members) ∧ members ≠ [] ∧
    data = .object members

structure ContentBorne (platform : Platform) (content : Json) : Prop where
  decodable : ∃ text, content = .string text ∧
    ∀ found, braces text = some found →
      platform.loads found ≠ .tooManyDigits ∧
        platform.loads found ≠ .tooDeep
  category : ∀ data, Holds platform content data → KeyLike (categoryOf data)
  readable : ∀ data key, Holds platform content data →
    NamesCategory data key → Readable data

def ContentUsable (platform : Platform) (content : Json) : Prop :=
  ∃ data key, Holds platform content data ∧ NamesCategory data key

theorem returns_canonicalKey {value : Json} :
    Returns (canonicalKey value) ↔ KeyLike value := by
  unfold canonicalKey KeyLike
  cases truthy : value.truthy with
  | false => simp [Python.returns_ok]
  | true =>
      cases value <;>
        simp [Json.hashable, Python.returns_ok, Python.not_returns_error]

theorem canonicalKey_some {value : Json} {key : String} :
    canonicalKey value = .ok (some key) ↔
      ∃ name, value = .string name ∧
        canonicalCategoryKey (some name) = some key := by
  cases value with
  | string name =>
      by_cases empty : name = ""
      · subst empty
        simp [canonicalKey, Json.truthy, canonicalCategoryKey]
      · simp [canonicalKey, Json.truthy, empty]
  | _ =>
      simp only [canonicalKey]
      split <;> simp [Json.hashable]

theorem returns_ownerHintOf {value : Json} :
    Returns (ownerHintOf value) ↔ value.hashable = true := by
  cases value <;>
    simp [ownerHintOf, Json.hashable, Python.returns_ok,
      Python.not_returns_error]

theorem returns_strings {data : Json} {name : String} {limit : Nat} :
    Returns (strings platform data name limit) ↔ Listed data name := by
  unfold strings
  rw [Python.returns_bind_of (fun _ => Python.returns_pure _),
    Json.returns_iterate]
  rfl

theorem returns_alternatives {data : Json} {categoryId : String} :
    Returns (alternatives data categoryId) ↔
      Listed data "alternative_category_ids" ∧
        ∀ item ∈ (data.getD "alternative_category_ids" (.array [])).items,
          KeyLike item := by
  have keys : ∀ items : List Json,
      Returns (do
        let keys ← items.mapM canonicalKey
        pure
          (((keys.filterMap id).filter fun key =>
            isCanonical key && key ≠ categoryId).take 3)) ↔
        ∀ item ∈ items, KeyLike item := by
    intro items
    rw [Python.returns_bind_of (fun _ => Python.returns_pure _),
      Python.returns_mapM]
    simp only [returns_canonicalKey]
  unfold alternatives
  rw [Python.returns_bind]
  constructor
  · rintro ⟨items, iterated, rest⟩
    obtain ⟨listed, rfl⟩ := Json.iterate_ok.mp iterated
    exact ⟨listed, (keys _).mp rest⟩
  · rintro ⟨listed, candidates⟩
    exact ⟨_, Json.iterate_ok.mpr ⟨listed, rfl⟩, (keys _).mpr candidates⟩

theorem returns_boundedConfidence {value : Json} {default : ℚ} :
    Returns (boundedConfidence platform value default) ↔
      ∀ number, value = .int number →
        Python.Platform.fitsDouble number = true := by
  cases value with
  | int number =>
      by_cases fits : Python.Platform.fitsDouble number = true
      · simp [boundedConfidence, Platform.float, fits, Python.returns_ok]
      · simp [boundedConfidence, Platform.float, fits, Raised.isValueError,
          Python.not_returns_error]
  | string text =>
      cases parsed : platform.floatOfText text <;>
        simp [boundedConfidence, Platform.float, parsed, Raised.isValueError,
          Python.returns_ok]
  | _ => simp [boundedConfidence, Platform.float, Python.returns_ok]

theorem returns_readMembers {members : List (String × Json)}
    {categoryId : String} :
    Returns (readMembers platform members categoryId) ↔
      Readable (.object members) := by
  have parts : Returns (readMembers platform members categoryId) ↔
      Returns (ownerHintOf
        ((Json.object members).getD "owner_hint" (.string "unknown"))) ∧
      Returns (alternatives (.object members) categoryId) ∧
      Returns (boundedConfidence platform
        ((Json.object members).get "confidence") 0) ∧
      Returns (strings platform (.object members) "missing_facts" 5) ∧
      Returns (strings platform (.object members) "evidence" 8) ∧
      Returns (strings platform (.object members) "image_observations" 8) ∧
      Returns (strings platform (.object members) "contradictions" 5) := by
    unfold readMembers
    simp only [Python.returns_bind, Python.returns_pure, and_true]
    constructor
    · rintro ⟨_, hint, _, alternatives, _, confidence, _, missing, _, evidence,
        _, observed, _, contradicting⟩
      exact ⟨⟨_, hint⟩, ⟨_, alternatives⟩, ⟨_, confidence⟩, ⟨_, missing⟩,
        ⟨_, evidence⟩, ⟨_, observed⟩, _, contradicting⟩
    · rintro ⟨⟨_, hint⟩, ⟨_, alternatives⟩, ⟨_, confidence⟩, ⟨_, missing⟩,
        ⟨_, evidence⟩, ⟨_, observed⟩, _, contradicting⟩
      exact ⟨_, hint, _, alternatives, _, confidence, _, missing, _, evidence,
        _, observed, _, contradicting⟩
  rw [parts, returns_ownerHintOf, returns_alternatives,
    returns_boundedConfidence, returns_strings, returns_strings,
    returns_strings, returns_strings]
  constructor
  · rintro ⟨hint, ⟨listed, candidates⟩, confidence, missing, evidence,
      observed, contradicting⟩
    exact ⟨hint, listed, candidates, confidence, missing, evidence, observed,
      contradicting⟩
  · intro readable
    exact ⟨readable.ownerHint, ⟨readable.alternatives, readable.candidates⟩,
      readable.confidence, readable.missingFacts, readable.evidence,
      readable.imageObservations, readable.contradictions⟩

theorem readMembers_degraded {members : List (String × Json)}
    {categoryId : String} {extraction : StructuredExtraction}
    (read : readMembers platform members categoryId = .ok extraction) :
    extraction.degraded = false := by
  unfold readMembers at read
  simp only [Python.bind_ok, Python.pure_ok] at read
  obtain ⟨_, _, _, _, _, _, _, _, _, _, _, _, _, _, rfl⟩ := read
  rfl

theorem NamesCategory.unique {data : Json} {left right : String}
    (first : NamesCategory data left) (second : NamesCategory data right) :
    left = right := by
  obtain ⟨name, names, canonical, _⟩ := first
  obtain ⟨other, names', canonical', _⟩ := second
  rw [names] at names'
  cases names'
  rw [canonical] at canonical'
  exact Option.some.inj canonical'

/-- The category of an answer is looked up, or the lookup raises. -/
theorem category_cases (data : Json) :
    (¬ Returns (canonicalKey (categoryOf data)) ∧
      ¬ KeyLike (categoryOf data)) ∨
    (∃ key, canonicalKey (categoryOf data) = .ok (some key) ∧
      isCanonical key = true ∧ NamesCategory data key) ∨
    ∃ key, canonicalKey (categoryOf data) = .ok key ∧
      (∀ found, key = some found → isCanonical found = false) ∧
      KeyLike (categoryOf data) ∧ ∀ key, ¬ NamesCategory data key := by
  by_cases returns : Returns (canonicalKey (categoryOf data))
  · have keyLike := returns_canonicalKey.mp returns
    obtain ⟨key, found⟩ := returns
    have unnamed : (∀ name, key = some name → isCanonical name = false) →
        ∀ name, ¬ NamesCategory data name := by
      intro foreign name named
      obtain ⟨text, same, canonical, known⟩ := named
      have again := canonicalKey_some.mpr ⟨text, same, canonical⟩
      rw [found] at again
      rw [foreign name (Except.ok.inj again)] at known
      cases known
    cases key with
    | none => exact .inr (.inr ⟨none, found, by simp, keyLike,
        unnamed (by simp)⟩)
    | some key =>
        by_cases canonical : isCanonical key = true
        · obtain ⟨name, same, named⟩ := canonicalKey_some.mp found
          exact .inr (.inl ⟨key, found, canonical, name, same, named,
            canonical⟩)
        · have foreign : ∀ name, some key = some name →
              isCanonical name = false := by
            intro name same
            rw [← Option.some.inj same]
            simpa using canonical
          exact .inr (.inr ⟨some key, found, foreign, keyLike,
            unnamed foreign⟩)
  · exact .inl ⟨returns, fun keyLike =>
      returns (returns_canonicalKey.mpr keyLike)⟩

section

variable {members : List (String × Json)}

theorem parseMembers_known {key : String}
    (found : canonicalKey (categoryOf (.object members)) = .ok (some key))
    (canonical : isCanonical key = true) :
    parseMembers platform members =
      (do
        let extraction ← readMembers platform members key
        pure (some extraction)) := by
  unfold parseMembers
  rw [found]
  simp [Bind.bind, Except.bind, canonical]

theorem parseMembers_unknown {key : Option String}
    (found : canonicalKey (categoryOf (.object members)) = .ok key)
    (foreign : ∀ name, key = some name → isCanonical name = false) :
    parseMembers platform members = .ok none := by
  unfold parseMembers
  rw [found]
  cases key with
  | none => rfl
  | some key => simp [Bind.bind, Except.bind, foreign key rfl, pure,
      Except.pure]

theorem returns_parseMembers :
    Returns (parseMembers platform members) ↔
      KeyLike (categoryOf (.object members)) ∧
        ∀ key, NamesCategory (.object members) key →
          Readable (.object members) := by
  rcases category_cases (.object members) with ⟨raises, unlike⟩ |
    ⟨key, found, canonical, named⟩ | ⟨key, found, foreign, keyLike, unnamed⟩
  · have stops : ¬ Returns (parseMembers platform members) := by
      intro returns
      obtain ⟨key, found, _⟩ := Python.returns_bind.mp returns
      exact raises ⟨key, found⟩
    simp [stops, unlike]
  · have keyLike := returns_canonicalKey.mp ⟨_, found⟩
    rw [parseMembers_known found canonical,
      Python.returns_bind_of (fun _ => Python.returns_pure _),
      returns_readMembers]
    constructor
    · intro readable
      exact ⟨keyLike, fun _ _ => readable⟩
    · rintro ⟨_, readable⟩
      exact readable key named
  · rw [parseMembers_unknown found foreign]
    constructor
    · intro _
      exact ⟨keyLike, fun key named => absurd named (unnamed key)⟩
    · intro _
      exact Python.returns_ok _

theorem parseMembers_some {extraction : StructuredExtraction}
    (parsed : parseMembers platform members = .ok (some extraction)) :
    (∃ key, NamesCategory (.object members) key) ∧
      extraction.degraded = false := by
  rcases category_cases (.object members) with ⟨raises, _⟩ |
    ⟨key, found, canonical, named⟩ | ⟨key, found, foreign, _, _⟩
  · obtain ⟨key, found, _⟩ := Python.bind_ok.mp parsed
    exact absurd ⟨key, found⟩ raises
  · rw [parseMembers_known found canonical] at parsed
    simp only [Python.bind_ok, Python.pure_ok] at parsed
    obtain ⟨read, done, same⟩ := parsed
    cases same
    exact ⟨⟨key, named⟩, readMembers_degraded done⟩
  · rw [parseMembers_unknown found foreign] at parsed
    cases parsed

theorem parseMembers_none
    (parsed : parseMembers platform members = .ok none) (key : String) :
    ¬ NamesCategory (.object members) key := by
  rcases category_cases (.object members) with ⟨raises, _⟩ |
    ⟨known, found, canonical, _⟩ | ⟨_, _, _, _, unnamed⟩
  · obtain ⟨key, found, _⟩ := Python.bind_ok.mp parsed
    exact absurd ⟨key, found⟩ raises
  · rw [parseMembers_known found canonical] at parsed
    simp only [Python.bind_ok, Python.pure_ok] at parsed
    obtain ⟨_, _, same⟩ := parsed
    cases same
  · exact unnamed key

end

/-! ## The text of an answer -/

theorem Holds.unique {content left right : Json}
    (first : Holds platform content left)
    (second : Holds platform content right) : left = right := by
  obtain ⟨text, found, members, rfl, match₁, loaded, _, rfl⟩ := first
  obtain ⟨text', found', members', same, match₂, loaded', _, rfl⟩ := second
  cases same
  rw [match₁] at match₂
  cases match₂
  rw [loaded] at loaded'
  cases loaded'
  rfl

/-- What is between the braces of the text is decoded without an error that
gets through. -/
def Decodes (platform : Platform) (text : String) : Prop :=
  ∀ found, braces text = some found →
    platform.loads found ≠ .tooManyDigits ∧
      platform.loads found ≠ .tooDeep

/-- What becomes of the text of an answer: it cannot be decoded, it holds no
members, or some. -/
theorem extractJson_cases (platform : Platform) (text : String) :
    (¬ Returns (extractJson platform text) ∧ ¬ Decodes platform text) ∨
    (∃ members, extractJson platform text = .ok members ∧
      (members = none ∨ members = some []) ∧
      (∀ data, ¬ Holds platform (.string text) data) ∧
      Decodes platform text) ∨
    ∃ members, extractJson platform text = .ok (some members) ∧
      Holds platform (.string text) (.object members) ∧
      members ≠ [] ∧ Decodes platform text := by
  cases matched : braces text with
  | none =>
      refine .inr (.inl ⟨none, ?_, .inl rfl, ?_, ?_⟩)
      · simp [extractJson, matched]
      · rintro data ⟨text', found, _, same, present, _⟩
        cases same
        rw [matched] at present
        cases present
      · simp [Decodes, matched]
  | some found =>
      -- Whatever the text holds is what is between its braces.
      have only : ∀ data, Holds platform (.string text) data →
          platform.loads found = .value data ∧
            ∃ members, data = .object members ∧ members ≠ [] := by
        rintro data ⟨text', found', members, same, present, loads, some, rfl⟩
        cases same
        rw [matched] at present
        cases present
        exact ⟨loads, members, rfl, some⟩
      have decodes : platform.loads found ≠ .tooManyDigits →
          platform.loads found ≠ .tooDeep → Decodes platform text := by
        intro digits depth found' present
        rw [matched] at present
        cases present
        exact ⟨digits, depth⟩
      cases loaded : platform.loads found with
      | tooManyDigits =>
          refine .inl ⟨?_, fun decodes => (decodes found matched).1 loaded⟩
          simp [extractJson, matched, loaded, Python.not_returns_error]
      | tooDeep =>
          refine .inl ⟨?_, fun decodes => (decodes found matched).2 loaded⟩
          simp [extractJson, matched, loaded, Python.not_returns_error]
      | notJson =>
          refine .inr (.inl ⟨none, ?_, .inl rfl, ?_, ?_⟩)
          · simp [extractJson, matched, loaded]
          · intro data holds
            rw [loaded] at only
            cases (only data holds).1
          · exact decodes (by simp [loaded]) (by simp [loaded])
      | value json =>
          have decoded : Decodes platform text :=
            decodes (by simp [loaded]) (by simp [loaded])
          have is : ∀ data, Holds platform (.string text) data →
              json = data ∧ ∃ members, data = .object members ∧
                members ≠ [] := by
            intro data holds
            obtain ⟨loads, full⟩ := only data holds
            rw [loaded] at loads
            cases loads
            exact ⟨rfl, full⟩
          cases json with
          | object members =>
              cases members with
              | nil =>
                  refine .inr (.inl ⟨some [], ?_, .inr rfl, ?_, decoded⟩)
                  · simp [extractJson, matched, loaded]
                  · intro data holds
                    obtain ⟨rfl, members, same, full⟩ := is data holds
                    cases same
                    exact full rfl
              | cons member members =>
                  refine .inr (.inr ⟨member :: members, ?_, ?_, ?_, decoded⟩)
                  · simp [extractJson, matched, loaded]
                  · exact ⟨text, found, _, rfl, matched, loaded, by simp,
                      rfl⟩
                  · simp
          | _ =>
              refine .inr (.inl ⟨none, ?_, .inl rfl, ?_, decoded⟩)
              · simp [extractJson, matched, loaded]
              · intro data holds
                obtain ⟨rfl, members, same, _⟩ := is data holds
                cases same

/-- What becomes of the content of an answer: it cannot be read, it holds no
object, or the object that it holds is parsed. -/
theorem content_cases (platform : Platform) (content : Json) :
    (¬ Returns (parseExtraction platform content) ∧
      ¬ ContentBorne platform content) ∨
    (parseExtraction platform content = .ok none ∧
      (∀ data, ¬ Holds platform content data) ∧
      ContentBorne platform content) ∨
    ∃ members, Holds platform content (.object members) ∧
      parseExtraction platform content = parseMembers platform members ∧
      (ContentBorne platform content ↔
        KeyLike (categoryOf (.object members)) ∧
          ∀ key, NamesCategory (.object members) key →
            Readable (.object members)) := by
  cases content with
  | string text =>
      rcases extractJson_cases platform text with ⟨raises, undecodable⟩ |
        ⟨members, parsed, nothing, none, decodes⟩ |
        ⟨members, parsed, holds, full, decodes⟩
      · refine .inl ⟨?_, ?_⟩
        · unfold parseExtraction
          rw [Python.returns_bind]
          rintro ⟨found, extracted, _⟩
          exact raises ⟨found, extracted⟩
        · intro borne
          obtain ⟨text', same, decodes⟩ := borne.decodable
          cases same
          exact undecodable decodes
      · refine .inr (.inl ⟨?_, none, ⟨text, rfl, decodes⟩, ?_, ?_⟩)
        · rcases nothing with rfl | rfl <;>
            simp [parseExtraction, parsed, Bind.bind, Except.bind, pure,
              Except.pure]
        · exact fun data holds => absurd holds (none data)
        · exact fun data _ holds => absurd holds (none data)
      · refine .inr (.inr ⟨members, holds, ?_, ?_⟩)
        · cases members with
          | nil => exact absurd rfl full
          | cons member members =>
              simp [parseExtraction, parsed, Bind.bind, Except.bind]
        · constructor
          · intro borne
            exact ⟨borne.category _ holds, fun key named =>
              borne.readable _ key holds named⟩
          · rintro ⟨keyLike, readable⟩
            refine ⟨⟨text, rfl, decodes⟩, ?_, ?_⟩
            · intro data other
              rw [other.unique holds]
              exact keyLike
            · intro data key other named
              rw [other.unique holds] at named ⊢
              exact readable key named
  | _ =>
      refine .inl ⟨by simp [parseExtraction, Python.not_returns_error], ?_⟩
      intro borne
      obtain ⟨text, same, _⟩ := borne.decodable
      cases same

theorem returns_parseExtraction {content : Json} :
    Returns (parseExtraction platform content) ↔
      ContentBorne platform content := by
  rcases content_cases platform content with ⟨raises, unborne⟩ |
    ⟨parsed, _, borne⟩ | ⟨members, _, parsed, borne⟩
  · simp [raises, unborne]
  · simp [parsed, borne, Python.returns_ok]
  · rw [parsed, borne]
    exact returns_parseMembers

theorem parseExtraction_some {content : Json}
    {extraction : StructuredExtraction}
    (parsed : parseExtraction platform content = .ok (some extraction)) :
    ContentUsable platform content ∧ extraction.degraded = false := by
  rcases content_cases platform content with ⟨raises, _⟩ |
    ⟨same, _, _⟩ | ⟨members, holds, same, _⟩
  · exact absurd ⟨_, parsed⟩ raises
  · rw [same] at parsed
    cases parsed
  · rw [same] at parsed
    obtain ⟨⟨key, named⟩, sound⟩ := parseMembers_some parsed
    exact ⟨⟨_, key, holds, named⟩, sound⟩

theorem parseExtraction_none {content : Json}
    (parsed : parseExtraction platform content = .ok none) :
    ¬ ContentUsable platform content := by
  rintro ⟨data, key, holds, named⟩
  rcases content_cases platform content with ⟨raises, _⟩ |
    ⟨_, nothing, _⟩ | ⟨members, present, same, _⟩
  · exact raises ⟨_, parsed⟩
  · exact nothing data holds
  · rw [same] at parsed
    rw [holds.unique present] at named
    exact parseMembers_none parsed key named

/-! ## The reply of a model -/

/-- `payload["choices"][0]["message"]["content"]` is there. -/
def Carries (payload content : Json) : Prop :=
  ∃ choices choice message, payload.member "choices" = some choices ∧
    choices.first = .ok choice ∧
    choice.member "message" = some message ∧
    message.member "content" = some content

/-- On the way to the content nothing is indexed that has no members. -/
structure PayloadBorne (payload : Json) : Prop where
  object : payload.IsObject
  choices : ∀ choices, payload.member "choices" = some choices →
    choices.Iterable
  choice : ∀ choices choice, payload.member "choices" = some choices →
    choices.first = .ok choice → choice.IsObject
  message : ∀ choices choice message,
    payload.member "choices" = some choices →
    choices.first = .ok choice →
    choice.member "message" = some message → message.IsObject

structure ReplyBorne (platform : Platform) (reply : Reply) : Prop where
  shallow : ¬ reply.outcome.TooDeep
  payload : ∀ payload, reply.outcome.Gives payload → PayloadBorne payload
  content : ∀ payload content, reply.outcome.Gives payload →
    Carries payload content → ContentBorne platform content

def ReplyUsable (platform : Platform) (reply : Reply) : Prop :=
  ∃ payload content, reply.outcome.Gives payload ∧
    Carries payload content ∧ ContentUsable platform content

theorem Carries.unique {payload left right : Json}
    (first : Carries payload left) (second : Carries payload right) :
    left = right := by
  obtain ⟨choices, choice, message, at₁, at₂, at₃, at₄⟩ := first
  obtain ⟨choices', choice', message', at₁', at₂', at₃', at₄'⟩ := second
  cases at₁.symm.trans at₁'
  cases at₂.symm.trans at₂'
  cases at₃.symm.trans at₃'
  exact Option.some.inj (at₄.symm.trans at₄')

/-- The way from the payload to the content. -/
def navigate (payload : Json) : Except Raised Json := do
  let choices ← payload.item "choices"
  let choice ← choices.first
  let message ← choice.item "message"
  message.item "content"

theorem runAttempt_eq (reply : Reply) :
    runAttempt reply =
      (do
        let payload ← reply.outcome.json
        let content ← navigate payload
        pure (content, payload.get "model", reply.latencyMs)) := by
  simp [runAttempt, navigate]

theorem navigate_ok {payload content : Json} :
    navigate payload = .ok content ↔ Carries payload content := by
  simp only [navigate, Python.bind_ok, Json.item_ok]
  constructor
  · rintro ⟨choices, at₁, choice, at₂, message, at₃, at₄⟩
    exact ⟨choices, choice, message, at₁, at₂, at₃, at₄⟩
  · rintro ⟨choices, choice, message, at₁, at₂, at₃, at₄⟩
    exact ⟨choices, at₁, choice, at₂, message, at₃, at₄⟩

/-- Once the choices are there, it depends on them alone. -/
theorem payloadBorne_iff {payload found : Json}
    (there : payload.member "choices" = some found) :
    PayloadBorne payload ↔
      found.Iterable ∧ ∀ choice, found.first = .ok choice →
        choice.IsObject ∧ ∀ message,
          choice.member "message" = some message → message.IsObject := by
  constructor
  · intro borne
    refine ⟨borne.choices found there, fun choice indexed => ?_⟩
    exact ⟨borne.choice found choice there indexed, fun message present =>
      borne.message found choice message there indexed present⟩
  · rintro ⟨iterable, chosen⟩
    refine ⟨Json.isObject_of_member there, ?_, ?_, ?_⟩
    · intro other again
      cases there.symm.trans again
      exact iterable
    · intro other choice again indexed
      cases there.symm.trans again
      exact (chosen choice indexed).1
    · intro other choice message again indexed present
      cases there.symm.trans again
      exact (chosen choice indexed).2 message present

/-- Once the choice is there too, it depends on its message alone. -/
theorem payloadBorne_chosen {payload found choice : Json}
    (there : payload.member "choices" = some found)
    (indexed : found.first = .ok choice) :
    PayloadBorne payload ↔
      choice.IsObject ∧ ∀ message,
        choice.member "message" = some message → message.IsObject := by
  rw [payloadBorne_iff there]
  constructor
  · rintro ⟨_, chosen⟩
    exact chosen choice indexed
  · intro borne
    refine ⟨Json.iterable_of_first indexed, fun other again => ?_⟩
    cases indexed.symm.trans again
    exact borne

theorem payloadBorne_of_carries {payload content : Json}
    (carries : Carries payload content) : PayloadBorne payload := by
  obtain ⟨choices, choice, message, there, indexed, present, said⟩ := carries
  rw [payloadBorne_chosen there indexed]
  refine ⟨Json.isObject_of_member present, fun other again => ?_⟩
  cases present.symm.trans again
  exact Json.isObject_of_member said

/-- Short of the content, either a member is missing, and the attempt is passed
over, or something is indexed that cannot be, and the error gets through. -/
theorem navigate_error {payload : Json} {raised : Raised}
    (failed : navigate payload = .error raised) :
    (passedOver raised = true ∧ PayloadBorne payload) ∨
      (passedOver raised = false ∧ ¬ PayloadBorne payload) := by
  unfold navigate at failed
  cases choices : payload.item "choices" with
  | error first =>
      rw [choices] at failed
      obtain rfl : first = raised := Except.error.inj failed
      rcases Json.item_error choices with ⟨rfl, object⟩ | ⟨rfl, unlike⟩
      · have missing : ∀ found, payload.member "choices" ≠ some found := by
          intro found there
          rw [Json.item_ok.mpr there] at choices
          cases choices
        refine .inl ⟨rfl, object, ?_, ?_, ?_⟩
        · intro found there
          exact absurd there (missing found)
        · intro found _ there
          exact absurd there (missing found)
        · intro found _ _ there
          exact absurd there (missing found)
      · exact .inr ⟨rfl, fun borne => unlike borne.object⟩
  | ok found =>
      have there := Json.item_ok.mp choices
      rw [choices] at failed
      simp only [Bind.bind, Except.bind] at failed
      cases indexed : found.first with
      | error second =>
          rw [indexed] at failed
          obtain rfl : second = raised := Except.error.inj failed
          rw [payloadBorne_iff there]
          by_cases iterable : found.Iterable
          · refine .inl ⟨?_, iterable, fun choice other => ?_⟩
            · rcases Json.first_error indexed with rfl | rfl | rfl
              · rfl
              · rfl
              · exact absurd iterable (Json.first_typeError.mp indexed)
            · rw [indexed] at other
              cases other
          · rw [Json.first_typeError.mpr iterable] at indexed
            cases indexed
            exact .inr ⟨rfl, fun borne => iterable borne.1⟩
      | ok choice =>
          rw [indexed] at failed
          simp only at failed
          rw [payloadBorne_chosen there indexed]
          cases messages : choice.item "message" with
          | error third =>
              rw [messages] at failed
              obtain rfl : third = raised := Except.error.inj failed
              rcases Json.item_error messages with ⟨rfl, object⟩ |
                ⟨rfl, unlike⟩
              · refine .inl ⟨rfl, object, fun message present => ?_⟩
                rw [Json.item_ok.mpr present] at messages
                cases messages
              · exact .inr ⟨rfl, fun borne => unlike borne.1⟩
          | ok message =>
              have present := Json.item_ok.mp messages
              rw [messages] at failed
              simp only at failed
              rcases Json.item_error failed with ⟨rfl, object⟩ |
                ⟨rfl, unlike⟩
              · refine .inl ⟨rfl, Json.isObject_of_member present,
                  fun other again => ?_⟩
                cases present.symm.trans again
                exact object
              · exact .inr ⟨rfl, fun borne =>
                  unlike (borne.2 message present)⟩

/-- What becomes of one attempt. -/
theorem attempt_cases (platform : Platform) (reply : Reply) :
    (∃ raised, runAttempt reply = .error raised ∧
      passedOver raised = true ∧ ReplyBorne platform reply ∧
      ¬ ReplyUsable platform reply) ∨
    (∃ raised, runAttempt reply = .error raised ∧
      passedOver raised = false ∧ ¬ ReplyBorne platform reply) ∨
    ∃ payload content, reply.outcome.Gives payload ∧
      Carries payload content ∧
      runAttempt reply =
        .ok (content, payload.get "model", reply.latencyMs) ∧
      (ReplyBorne platform reply ↔ ContentBorne platform content) ∧
      (ReplyUsable platform reply ↔ ContentUsable platform content) := by
  rw [runAttempt_eq]
  cases answered : reply.outcome.json with
  | error raised =>
      have ungiven : ∀ payload, ¬ reply.outcome.Gives payload := by
        intro payload gives
        rw [Outcome.json_ok.mpr gives] at answered
        cases answered
      have unusable : ¬ ReplyUsable platform reply := by
        rintro ⟨payload, _, gives, _⟩
        exact ungiven payload gives
      by_cases deep : reply.outcome.TooDeep
      · rw [Outcome.json_tooDeep.mp deep] at answered
        cases answered
        exact .inr (.inl ⟨.recursionError, rfl, rfl, fun borne =>
          borne.shallow deep⟩)
      · have caught : passedOver raised = true := by
          rcases Outcome.json_error answered with caught | ⟨caught, _⟩ |
            ⟨_, deep'⟩
          · simp [passedOver, caught]
          · simp [passedOver, caught]
          · exact absurd deep' deep
        refine .inl ⟨raised, rfl, caught, ⟨deep, ?_, ?_⟩, unusable⟩
        · intro payload gives
          exact absurd gives (ungiven payload)
        · intro payload _ gives
          exact absurd gives (ungiven payload)
  | ok payload =>
      have gives := Outcome.json_ok.mp answered
      have shallow : ¬ reply.outcome.TooDeep := by
        intro deep
        rw [Outcome.json_tooDeep.mp deep] at answered
        cases answered
      cases walked : navigate payload with
      | error raised =>
          have walks : (do
              let content ← navigate payload
              pure (content, payload.get "model", reply.latencyMs)) =
              (Except.error raised : Except Raised (Json × Json × Nat)) := by
            rw [walked]
            rfl
          have uncarried : ∀ content, ¬ Carries payload content := by
            intro content carries
            rw [navigate_ok.mpr carries] at walked
            cases walked
          rcases navigate_error walked with ⟨caught, borne⟩ |
            ⟨through, unborne⟩
          · refine .inl ⟨raised, walks, caught, ⟨shallow, ?_, ?_⟩, ?_⟩
            · intro other gives'
              rw [← gives.unique gives']
              exact borne
            · intro other content gives' carries
              rw [← gives.unique gives'] at carries
              exact absurd carries (uncarried content)
            · rintro ⟨other, content, gives', carries, _⟩
              rw [← gives.unique gives'] at carries
              exact uncarried content carries
          · exact .inr (.inl ⟨raised, walks, through, fun borne =>
              unborne (borne.payload payload gives)⟩)
      | ok content =>
          have carries := navigate_ok.mp walked
          refine .inr (.inr ⟨payload, content, gives, carries, ?_, ?_, ?_⟩)
          · change (do
                let content ← navigate payload
                pure (content, payload.get "model", reply.latencyMs)) = _
            rw [walked]
            rfl
          · constructor
            · intro borne
              exact borne.content payload content gives carries
            · intro borne
              refine ⟨shallow, ?_, ?_⟩
              · intro other gives'
                rw [← gives.unique gives']
                exact payloadBorne_of_carries carries
              · intro other content' gives' carries'
                rw [← gives.unique gives'] at carries'
                rw [← carries.unique carries']
                exact borne
          · constructor
            · rintro ⟨other, content', gives', carries', usable⟩
              rw [← gives.unique gives'] at carries'
              rw [← carries.unique carries'] at usable
              exact usable
            · intro usable
              exact ⟨payload, content, gives, carries, usable⟩

/-! ## One model after another -/

/-- The models that are asked: those before it gave no usable answer. -/
def Reached (platform : Platform) (entries : List (Attempt × Reply))
    (entry : Attempt × Reply) : Prop :=
  ∃ before after, entries = before ++ entry :: after ∧
    ∀ earlier ∈ before, ¬ ReplyUsable platform earlier.2

theorem not_reached_nil (entry : Attempt × Reply) :
    ¬ Reached platform [] entry := by
  rintro ⟨before, after, same, _⟩
  simp at same

theorem reached_cons {head entry : Attempt × Reply}
    {entries : List (Attempt × Reply)} :
    Reached platform (head :: entries) entry ↔
      entry = head ∨
        (¬ ReplyUsable platform head.2 ∧ Reached platform entries entry) := by
  constructor
  · rintro ⟨before, after, same, unusable⟩
    cases before with
    | nil =>
        simp only [List.nil_append, List.cons.injEq] at same
        exact .inl same.1.symm
    | cons first before =>
        simp only [List.cons_append, List.cons.injEq] at same
        obtain ⟨rfl, rfl⟩ := same
        refine .inr ⟨unusable _ (.head _), before, after, rfl, ?_⟩
        intro earlier member
        exact unusable earlier (.tail _ member)
  · rintro (rfl | ⟨unusable, before, after, rfl, rest⟩)
    · exact ⟨[], entries, rfl, nofun⟩
    · refine ⟨head :: before, after, rfl, ?_⟩
      intro earlier member
      rcases List.mem_cons.mp member with rfl | member
      · exact unusable
      · exact rest earlier member

theorem Reached.mem {entries : List (Attempt × Reply)}
    {entry : Attempt × Reply} (reached : Reached platform entries entry) :
    entry ∈ entries := by
  obtain ⟨before, after, rfl, _⟩ := reached
  simp

/-- Only one model that is asked gives a usable answer. -/
theorem Reached.unique {entries : List (Attempt × Reply)}
    {left right : Attempt × Reply} (first : Reached platform entries left)
    (second : Reached platform entries right)
    (usable : ReplyUsable platform left.2)
    (usable' : ReplyUsable platform right.2) : left = right := by
  induction entries with
  | nil => exact absurd first (not_reached_nil left)
  | cons head entries induction =>
      rcases reached_cons.mp first with rfl | ⟨unusable, first⟩
      · rcases reached_cons.mp second with rfl | ⟨unusable, _⟩
        · rfl
        · exact absurd usable unusable
      · rcases reached_cons.mp second with rfl | ⟨_, second⟩
        · exact absurd usable' unusable
        · exact induction first second

/-- The loop after an attempt that was passed over. -/
theorem tryAttempts_passed {text : String} {requested : List String}
    {sawQuota : Bool} {attempt : Attempt} {reply : Reply}
    {rest : List (Attempt × Reply)} {raised : Raised}
    (failed : runAttempt reply = .error raised)
    (caught : passedOver raised = true) :
    ∃ quota, tryAttempts platform text requested sawQuota
        ((attempt, reply) :: rest) =
      tryAttempts platform text requested quota rest := by
  cases raised with
  | httpStatusError status =>
      refine ⟨sawQuota || status = 429, ?_⟩
      simp [tryAttempts, failed]
  | _ =>
      refine ⟨sawQuota, ?_⟩
      simp_all [tryAttempts]

theorem tryAttempts_raised {text : String} {requested : List String}
    {sawQuota : Bool} {attempt : Attempt} {reply : Reply}
    {rest : List (Attempt × Reply)} {raised : Raised}
    (failed : runAttempt reply = .error raised)
    (through : passedOver raised = false) :
    tryAttempts platform text requested sawQuota ((attempt, reply) :: rest) =
      .error raised := by
  cases raised with
  | httpStatusError status => simp [passedOver, Raised.isHttpError] at through
  | _ => simp_all [tryAttempts]

/-- `extract_issue` raises exactly when a model that it asks gives an answer
that is not borne. -/
theorem returns_tryAttempts {text : String} {requested : List String}
    {entries : List (Attempt × Reply)} (sawQuota : Bool) :
    Returns (tryAttempts platform text requested sawQuota entries) ↔
      ∀ entry, Reached platform entries entry →
        ReplyBorne platform entry.2 := by
  induction entries generalizing sawQuota with
  | nil => simp [tryAttempts, Python.returns_ok, not_reached_nil]
  | cons head entries induction =>
      obtain ⟨attempt, reply⟩ := head
      have unused : ¬ ReplyUsable platform reply →
          ((∀ entry, Reached platform ((attempt, reply) :: entries) entry →
              ReplyBorne platform entry.2) ↔
            ReplyBorne platform reply ∧
              ∀ entry, Reached platform entries entry →
                ReplyBorne platform entry.2) := by
        intro unusable
        constructor
        · intro borne
          refine ⟨borne _ (reached_cons.mpr (.inl rfl)), ?_⟩
          intro entry reached
          exact borne entry (reached_cons.mpr (.inr ⟨unusable, reached⟩))
        · rintro ⟨first, rest⟩ entry reached
          rcases reached_cons.mp reached with rfl | ⟨_, reached⟩
          · exact first
          · exact rest entry reached
      rcases attempt_cases platform reply with
        ⟨raised, failed, caught, borne, unusable⟩ |
        ⟨raised, failed, through, unborne⟩ |
        ⟨payload, content, _, _, answered, borne, usable⟩
      · obtain ⟨quota, same⟩ := tryAttempts_passed failed caught
        rw [same, induction quota, unused unusable]
        simp [borne]
      · rw [tryAttempts_raised failed through]
        constructor
        · intro returns
          exact absurd returns (Python.not_returns_error raised)
        · intro all
          exact absurd (all _ (reached_cons.mpr (.inl rfl))) unborne
      · cases parsed : parseExtraction platform content with
        | error raised =>
            have unborne : ¬ ReplyBorne platform reply := by
              rw [borne, ← returns_parseExtraction, parsed]
              exact Python.not_returns_error raised
            simp only [tryAttempts, answered, parsed]
            constructor
            · intro returns
              exact absurd returns (Python.not_returns_error raised)
            · intro all
              exact absurd (all _ (reached_cons.mpr (.inl rfl))) unborne
        | ok found =>
            have bears : ReplyBorne platform reply := by
              rw [borne, ← returns_parseExtraction, parsed]
              exact Python.returns_ok found
            cases found with
            | none =>
                have unusable : ¬ ReplyUsable platform reply := by
                  rw [usable]
                  exact parseExtraction_none parsed
                have same : tryAttempts platform text requested sawQuota
                      ((attempt, reply) :: entries) =
                    tryAttempts platform text requested sawQuota entries := by
                  simp [tryAttempts, answered, parsed]
                rw [same, induction sawQuota, unused unusable]
                simp [bears]
            | some extraction =>
                have used : ReplyUsable platform reply :=
                  usable.mpr (parseExtraction_some parsed).1
                simp only [tryAttempts, answered, parsed]
                constructor
                · intro _ entry reached
                  rcases reached_cons.mp reached with rfl | ⟨unusable, _⟩
                  · exact bears
                  · exact absurd used unusable
                · intro _
                  exact Python.returns_ok _

/-- The extraction comes from the first usable answer, or says that there is
none. -/
theorem tryAttempts_ok {text : String} {requested : List String}
    {sawQuota : Bool} {entries : List (Attempt × Reply)}
    {extraction : StructuredExtraction}
    (done : tryAttempts platform text requested sawQuota entries =
      .ok extraction) :
    (extraction.degraded = true ∧ extraction.actualModel = .null ∧
      ∀ entry ∈ entries, ¬ ReplyUsable platform entry.2) ∨
    (extraction.degraded = false ∧
      ∃ entry payload, Reached platform entries entry ∧
        ReplyUsable platform entry.2 ∧ entry.2.outcome.Gives payload ∧
        extraction.actualModel = modelOf entry.1 (payload.get "model")) := by
  induction entries generalizing sawQuota with
  | nil =>
      have same := Except.ok.inj done
      subst same
      exact .inl ⟨rfl, rfl, nofun⟩
  | cons head entries induction =>
      obtain ⟨attempt, reply⟩ := head
      have passed : ∀ {quota},
          tryAttempts platform text requested quota entries =
            .ok extraction →
          ¬ ReplyUsable platform reply →
          (extraction.degraded = true ∧ extraction.actualModel = .null ∧
            ∀ entry ∈ (attempt, reply) :: entries,
              ¬ ReplyUsable platform entry.2) ∨
          (extraction.degraded = false ∧
            ∃ entry payload,
              Reached platform ((attempt, reply) :: entries) entry ∧
              ReplyUsable platform entry.2 ∧
              entry.2.outcome.Gives payload ∧
              extraction.actualModel =
                modelOf entry.1 (payload.get "model")) := by
        intro quota rest unusable
        rcases induction rest with ⟨degraded, unnamed, none⟩ |
          ⟨sound, entry, payload, reached, used, gives, named⟩
        · refine .inl ⟨degraded, unnamed, ?_⟩
          intro entry member
          rcases List.mem_cons.mp member with rfl | member
          · exact unusable
          · exact none entry member
        · exact .inr ⟨sound, entry, payload,
            reached_cons.mpr (.inr ⟨unusable, reached⟩), used, gives, named⟩
      rcases attempt_cases platform reply with
        ⟨raised, failed, caught, _, unusable⟩ |
        ⟨raised, failed, through, _⟩ |
        ⟨payload, content, gives, _, answered, _, usable⟩
      · obtain ⟨quota, same⟩ := tryAttempts_passed failed caught
        rw [same] at done
        exact passed done unusable
      · rw [tryAttempts_raised failed through] at done
        cases done
      · cases parsed : parseExtraction platform content with
        | error raised =>
            simp [tryAttempts, answered, parsed] at done
        | ok found =>
            cases found with
            | none =>
                simp only [tryAttempts, answered, parsed] at done
                refine passed done ?_
                rw [usable]
                exact parseExtraction_none parsed
            | some result =>
                simp only [tryAttempts, answered, parsed] at done
                have same := Except.ok.inj done
                obtain ⟨useful, sound⟩ := parseExtraction_some parsed
                refine .inr ⟨?_, (attempt, reply), payload,
                  reached_cons.mpr (.inl rfl), usable.mpr useful, gives, ?_⟩
                · rw [← same]
                  exact sound
                · rw [← same]

section

variable {settings : Settings} {text : String} {hasImage : Bool}
  {replies : Nat → Reply}

theorem returns_extractIssue :
    Returns (extractIssue platform settings text hasImage replies) ↔
      (Python.strip text ≠ "" → ∀ entry,
        Reached platform (asked settings hasImage replies) entry →
          ReplyBorne platform entry.2) := by
  unfold extractIssue
  by_cases blank : Python.strip text = ""
  · simp [blank, Python.returns_ok]
  · by_cases none : asked settings hasImage replies = []
    · simp [blank, none, Python.returns_ok, not_reached_nil]
    · have some : (asked settings hasImage replies).isEmpty = false := by
        simpa using none
      simp only [blank, some, if_false, Bool.false_eq_true, ne_eq,
        not_false_eq_true, forall_const]
      exact returns_tryAttempts false

theorem extractIssue_ok {extraction : StructuredExtraction}
    (done : extractIssue platform settings text hasImage replies =
      .ok extraction) :
    (extraction.degraded = true ∧ extraction.actualModel = .null ∧
      (Python.strip text ≠ "" →
        ∀ entry ∈ asked settings hasImage replies,
          ¬ ReplyUsable platform entry.2)) ∨
    (extraction.degraded = false ∧ Python.strip text ≠ "" ∧
      ∃ entry payload,
        Reached platform (asked settings hasImage replies) entry ∧
        ReplyUsable platform entry.2 ∧ entry.2.outcome.Gives payload ∧
        extraction.actualModel = modelOf entry.1 (payload.get "model")) := by
  unfold extractIssue at done
  by_cases blank : Python.strip text = ""
  · simp only [blank, if_true] at done
    have same := Except.ok.inj done
    subst same
    exact .inl ⟨rfl, rfl, fun some => absurd blank some⟩
  · by_cases none : asked settings hasImage replies = []
    · simp only [blank, none, List.isEmpty_nil, if_false, if_true] at done
      have same := Except.ok.inj done
      subst same
      refine .inl ⟨rfl, rfl, ?_⟩
      rw [none]
      intro _ entry member
      cases member
    · have some : (asked settings hasImage replies).isEmpty = false := by
        simpa using none
      simp only [blank, some, if_false, Bool.false_eq_true] at done
      rcases tryAttempts_ok done with ⟨degraded, unnamed, none⟩ |
        ⟨sound, used⟩
      · exact .inl ⟨degraded, unnamed, fun _ => none⟩
      · exact .inr ⟨sound, blank, used⟩

end

end JanSetu.Pipeline.Classify
