import JanSetu.Whatsapp.Turns

/-!
# The draft and the messages it was made of

What a conversation has read determines its draft: the location that was
confirmed last, every message accepted as issue content, and the photo that
started the pipeline.
-/

namespace JanSetu.Whatsapp

def Reading.Stages (reading : Reading) : Prop :=
  ExpectsLocation reading.state ∧ isLocation reading.inbound = true

def Reading.Accepts (reading : Reading) : Prop :=
  reading.state = some .awaitingIssue ∧ AcceptsIssue reading.inbound

instance (reading : Reading) : Decidable reading.Accepts :=
  inferInstanceAs (Decidable (_ ∧ _))

/-- The issue content read so far, in arrival order. -/
def accepted (readings : List Reading) : List Context.Message :=
  (readings.filter (·.Accepts)).map (issueMessage ·.inbound)

/-- `location` is the last location that was staged. -/
def StagedBy (readings : List Reading) (location : IncomingWhatsAppMessage) :
    Prop :=
  ∃ before state between,
    readings = before ++ { state := state, inbound := location } :: between ∧
      ExpectsLocation state ∧ isLocation location = true ∧
      ∀ reading ∈ between, ¬ reading.Stages

/-- `location` was the staged location when the citizen last tapped Yes, the
tap carried its token, and the location step is over since. -/
def ConfirmedBy (readings : List Reading)
    (location : IncomingWhatsAppMessage) : Prop :=
  ∃ before yes after,
    readings =
        before ++ { state := some .confirmingLocation, inbound := yes } ::
          after ∧
      StagedBy before location ∧
      Replies yes Copy.confirmYesId (some location.metaMessageId) ∧
      ∀ reading ∈ after, ¬ ExpectsLocation reading.state

def Holds (stored : Context.Location) (location : IncomingWhatsAppMessage) :
    Prop :=
  stored.lat = location.locationLatitude ∧
    stored.lon = location.locationLongitude ∧
    stored.sourceMessageId = some location.metaMessageId

/-! ## One more reading -/

theorem accepted_append (readings : List Reading) (reading : Reading) :
    accepted (readings ++ [reading]) =
      accepted readings ++
        if reading.Accepts then [issueMessage reading.inbound] else [] := by
  unfold accepted
  rw [List.filter_append, List.map_append]
  by_cases accepts : reading.Accepts
  · simp [accepts]
  · simp [accepts]

theorem accepted_append_other {readings : List Reading} {reading : Reading}
    (other : ¬ reading.Accepts) :
    accepted (readings ++ [reading]) = accepted readings := by
  rw [accepted_append]
  simp [other]

theorem StagedBy.append {readings : List Reading}
    {location : IncomingWhatsAppMessage} {reading : Reading}
    (staged : StagedBy readings location) (other : ¬ reading.Stages) :
    StagedBy (readings ++ [reading]) location := by
  obtain ⟨before, state, between, rfl, expects, isLocation, none⟩ := staged
  refine ⟨before, state, between ++ [reading], by simp, expects, isLocation,
    ?_⟩
  intro later member
  rcases List.mem_append.mp member with earlier | last
  · exact none later earlier
  · rw [List.mem_singleton.mp last]
    exact other

theorem ConfirmedBy.append {readings : List Reading}
    {location : IncomingWhatsAppMessage} {reading : Reading}
    (confirmed : ConfirmedBy readings location)
    (ended : ¬ ExpectsLocation reading.state) :
    ConfirmedBy (readings ++ [reading]) location := by
  obtain ⟨before, yes, after, rfl, staged, replies, none⟩ := confirmed
  refine ⟨before, yes, after ++ [reading], by simp, staged, replies, ?_⟩
  intro later member
  rcases List.mem_append.mp member with earlier | last
  · exact none later earlier
  · rw [List.mem_singleton.mp last]
    exact ended

/-! ## The invariant -/

/-- Nothing is described before the location is confirmed. -/
def Undescribed (context : Context) (readings : List Reading) : Prop :=
  context.issue.messages = [] ∧ accepted readings = []

/-- The location step is over and everything described since is kept. -/
structure Described (context : Context) (readings : List Reading) : Prop where
  confirmed : ∃ location, ConfirmedBy readings location ∧
    Holds context.location location
  confirmedAt : context.location.confirmedAt.isSome = true
  messages : context.issue.messages = accepted readings

/-- What the context holds of the readings, up to the start of the
pipeline. -/
def Faithful (state : Option ConversationState) (context : Context)
    (readings : List Reading) : Prop :=
  match state with
  | none | some .awaitingLocation => Undescribed context readings
  | some .confirmingLocation =>
      Undescribed context readings ∧ ∃ location, StagedBy readings location ∧
        Holds context.location location
  | some .awaitingIssue => Described context readings
  | some .awaitingPhoto =>
      Described context readings ∧ context.issue.messages ≠ []
  | some .expired => False
  | some .processing | some .photoMismatch | some .awaitingConfirmation
  | some .done | some (.unknown _) => True

theorem Faithful.undescribed {state : Option ConversationState}
    {context : Context} {readings : List Reading}
    (faithful : Faithful state context readings)
    (expects : ExpectsLocation state) : Undescribed context readings := by
  unfold ExpectsLocation at expects
  split at expects
  · exact faithful
  · exact faithful.elim
  · exact faithful
  · exact faithful.1
  · exact expects.elim

theorem Undescribed.append {context : Context} {readings : List Reading}
    {state : Option ConversationState} {inbound : IncomingWhatsAppMessage}
    (undescribed : Undescribed context readings)
    (before : state ≠ some .awaitingIssue) :
    Undescribed context
      (readings ++ [{ state := state, inbound := inbound }]) := by
  have other : ¬ Reading.Accepts { state := state, inbound := inbound } :=
    fun accepts => before accepts.1
  exact ⟨undescribed.1, (accepted_append_other other).trans undescribed.2⟩

theorem Described.append {context : Context} {readings : List Reading}
    {state : Option ConversationState} {inbound : IncomingWhatsAppMessage}
    (described : Described context readings) (ended : ¬ ExpectsLocation state)
    (other : ¬ Reading.Accepts { state := state, inbound := inbound }) :
    Described context
      (readings ++ [{ state := state, inbound := inbound }]) := by
  obtain ⟨⟨location, confirmed, holds⟩, confirmedAt, messages⟩ := described
  refine ⟨⟨location, confirmed.append ended, holds⟩, confirmedAt, ?_⟩
  rw [accepted_append_other other]
  exact messages

theorem not_awaitingIssue_of_expectsLocation
    {state : Option ConversationState} (expects : ExpectsLocation state) :
    state ≠ some .awaitingIssue := by
  rintro rfl
  exact expects

/-- The step lemma: one case for each kind of turn. -/
theorem Turn.faithful {inbound : IncomingWhatsAppMessage}
    {geocode : Option ReverseGeocode} {now : Time}
    {state : Option ConversationState} {context next : Context}
    {after : ConversationState} {action : Option Action}
    {readings : List Reading}
    (turn : Turn inbound geocode now state context after next action)
    (faithful : Faithful state context readings) :
    Faithful (some after) next
      (readings ++ [{ state := state, inbound := inbound }]) := by
  cases turn with
  | greeted fresh _ =>
      have expects : ExpectsLocation state := by
        rcases fresh with rfl | rfl <;> trivial
      exact (faithful.undescribed expects).append
        (not_awaitingIssue_of_expectsLocation expects)
  | staged expects location _ =>
      have undescribed : Undescribed context
          (readings ++ [{ state := state, inbound := inbound }]) :=
        (faithful.undescribed expects).append
          (not_awaitingIssue_of_expectsLocation expects)
      refine ⟨undescribed, inbound, ?_, rfl, rfl, rfl⟩
      exact ⟨readings, state, [], rfl, expects, location, by simp⟩
  | confirmed _ replies =>
      obtain ⟨undescribed, location, staged, lat, lon, token⟩ := faithful
      rw [token] at replies
      have nothing : Undescribed context
          (readings ++ [{ state := some .confirmingLocation
                          inbound := inbound }]) :=
        undescribed.append (by simp)
      have confirmed : ConfirmedBy
          (readings ++ [{ state := some .confirmingLocation
                          inbound := inbound }]) location :=
        ⟨readings, inbound, [], rfl, staged, replies, by simp⟩
      exact ⟨⟨location, confirmed, lat, lon, token⟩, rfl,
        nothing.1.trans nothing.2.symm⟩
  | rejected _ _ =>
      exact Undescribed.append faithful.1 (by simp)
  | described accepts =>
      obtain ⟨⟨location, confirmed, holds⟩, confirmedAt, messages⟩ := faithful
      refine ⟨⟨location, confirmed.append id, holds⟩, confirmedAt, ?_⟩
      have accepting : Reading.Accepts
          { state := some .awaitingIssue, inbound := inbound } :=
        ⟨rfl, accepts⟩
      rw [accepted_append, if_pos accepting, ← messages]
      rfl
  | issueDone done nonempty =>
      have other : ¬ Reading.Accepts
          { state := some .awaitingIssue, inbound := inbound } :=
        fun accepting => accepting.2.1 done
      exact ⟨Described.append faithful id other, nonempty⟩
  | photoShared _ => trivial
  | photoSkipped _ _ => trivial
  | photoReplaced _ => trivial
  | photoWaived _ => trivial
  | finalized _ => trivial
  | cancelled _ => trivial
  | stayed noLocation noContent =>
      cases after with
      | awaitingLocation => exact Undescribed.append faithful (by simp)
      | confirmingLocation =>
          obtain ⟨undescribed, location, staged, holds⟩ := faithful
          have other : ¬ Reading.Stages
              { state := some .confirmingLocation, inbound := inbound } := by
            intro stages
            have shared : isLocation inbound = true := stages.2
            simp [noLocation stages.1] at shared
          exact ⟨undescribed.append (by simp), location, staged.append other,
            holds⟩
      | awaitingIssue =>
          have other : ¬ Reading.Accepts
              { state := some .awaitingIssue, inbound := inbound } :=
            fun accepting => noContent rfl accepting.2
          exact Described.append faithful id other
      | awaitingPhoto =>
          have other : ¬ Reading.Accepts
              { state := some .awaitingPhoto, inbound := inbound } := by
            simp [Reading.Accepts]
          exact ⟨Described.append faithful.1 id other, faithful.2⟩
      | expired => exact faithful.elim
      | processing => trivial
      | photoMismatch => trivial
      | awaitingConfirmation => trivial
      | done => trivial
      | unknown name => trivial

/-- The pipeline is started only into `processing`. -/
theorem Turn.starts {inbound : IncomingWhatsAppMessage}
    {geocode : Option ReverseGeocode} {now : Time}
    {state : Option ConversationState} {context next : Context}
    {after : ConversationState} {action : Option Action}
    (turn : Turn inbound geocode now state context after next action)
    (starts : action = some .startPipeline) : after = .processing := by
  cases turn with
  | photoShared _ => rfl
  | photoSkipped _ _ => rfl
  | _ => cases starts

def Dialogue.IsFaithful (dialogue : Dialogue) : Prop :=
  Faithful dialogue.state (dialogue.context.getD defaultContext)
    dialogue.readings

theorem isFaithful_step {dialogue next : Dialogue} {step : DialogueStep}
    (faithful : dialogue.IsFaithful)
    (taken : dialogues.step dialogue step = some next) : next.IsFaithful := by
  rcases dialogues_step_cases taken with
    rfl |
    ⟨inbound, geocode, now, grievanceId, result, rfl, turn, rfl⟩ |
    ⟨mismatch, rfl, _, rfl⟩
  · exact faithful
  · have further := turn.faithful faithful
    unfold Dialogue.IsFaithful
    by_cases starts : result.action = some .startPipeline
    · simp only [turn.starts starts]
      trivial
    · simpa [storedContext, starts] using further
  · cases mismatch
    · trivial
    · trivial

theorem isFaithful {dialogue : Dialogue}
    (reachable : dialogues.Reachable dialogue) : dialogue.IsFaithful := by
  refine reachable.invariant ?_ ?_
  · intro dialogue initial
    obtain rfl : dialogue = .start := initial
    exact ⟨rfl, rfl⟩
  · intro dialogue step next _ holds _ taken
    exact isFaithful_step holds taken

/-- At every start of the pipeline the draft holds the coordinates of the
location that was confirmed last, the accepted issue content in arrival order,
and the photo that was accepted, or none when the step was skipped. -/
theorem draft_faithful {dialogue : Dialogue}
    (reachable : dialogues.Reachable dialogue)
    {inbound : IncomingWhatsAppMessage} {geocode : Option ReverseGeocode}
    {now : Time} {result : FsmResult}
    (advanced : advance inbound.waId dialogue.state dialogue.context inbound
      geocode now = some result)
    (starts : result.action = some .startPipeline) (humanId contactId : String)
    (conversationId userId : Option String) (draftedAt : Time) :
    let readings :=
      dialogue.readings ++ [{ state := dialogue.state, inbound := inbound }]
    let draft := Pipeline.draftGrievance humanId contactId conversationId
      userId .whatsapp result.context.toDraft draftedAt
    (∃ location, ConfirmedBy readings location ∧
      result.context.location.confirmedAt.isSome = true ∧
      draft.locationLatitude = location.locationLatitude ∧
      draft.locationLongitude = location.locationLongitude) ∧
    accepted readings ≠ [] ∧
    result.context.issue.messages = accepted readings ∧
    draft.issueMessages =
      (accepted readings).map Context.Message.toIssueMessage ∧
    dialogue.state = some .awaitingPhoto ∧
    (isPhoto inbound = true ∧ draft.photoMediaId = inbound.mediaId ∨
      isPhoto inbound = false ∧
        (parseConfirmReply inbound.replyId).base = some Copy.photoSkipId ∧
        draft.photoMediaId = none) := by
  obtain ⟨turn, _⟩ := advance_turn advanced
  have held : Faithful dialogue.state
      (dialogue.context.getD defaultContext) dialogue.readings :=
    isFaithful reachable
  generalize dialogue.context.getD defaultContext = before at turn held
  generalize dialogue.state = state at turn held ⊢
  obtain ⟨after, context, intents, action, close⟩ := result
  obtain rfl : action = some .startPipeline := starts
  have other : ¬ Reading.Accepts
      { state := some .awaitingPhoto, inbound := inbound } := by
    simp [Reading.Accepts]
  cases turn with
  | photoShared photo =>
      obtain ⟨described, nonempty⟩ := held
      obtain ⟨⟨location, confirmed, lat, lon, _⟩, confirmedAt, messages⟩ :=
        described.append id other
      refine ⟨⟨location, confirmed, confirmedAt, lat, lon⟩, ?_, messages, ?_,
        rfl, .inl ⟨photo, rfl⟩⟩
      · rw [← messages]
        exact nonempty
      · rw [← messages]
        rfl
  | photoSkipped noPhoto skip =>
      obtain ⟨described, nonempty⟩ := held
      obtain ⟨⟨location, confirmed, lat, lon, _⟩, confirmedAt, messages⟩ :=
        described.append id other
      refine ⟨⟨location, confirmed, confirmedAt, lat, lon⟩, ?_, messages, ?_,
        rfl, .inr ⟨noPhoto, skip, rfl⟩⟩
      · rw [← messages]
        exact nonempty
      · rw [← messages]
        rfl

theorem draft_faithful_shared :
    ∃ dialogue result location, dialogues.Reachable dialogue ∧
      advance "919876543210" dialogue.state dialogue.context
        (sampleImage "m8" "photo1") none 0 = some result ∧
      ConfirmedBy (dialogue.readings ++
        [{ state := dialogue.state
           inbound := sampleImage "m8" "photo1" }]) location ∧
      location.locationLatitude = some 19 ∧
      result.context.toDraft.photoMediaId = some "photo1" := by
  have observed : (dialogues.run .start sampleUpToPhoto).map
      (fun dialogue => (advance "919876543210" dialogue.state dialogue.context
        (sampleImage "m8" "photo1") none 0).map fun result =>
          (result.action, result.context.toDraft.lat)) =
        some (some (some .startPipeline, some 19)) := by
    decide +kernel
  obtain ⟨dialogue, reachable, same⟩ :=
    Transition.System.reachable_of_run_map rfl observed
  obtain ⟨result, advanced, facts⟩ := Option.map_eq_some_iff.mp same
  simp only [Prod.mk.injEq] at facts
  obtain ⟨⟨location, confirmed, _, lat, _⟩, _, _, _, _, photo⟩ :=
    draft_faithful reachable advanced facts.1 "JS-1" "c1" none none 0
  have shared : isPhoto (sampleImage "m8" "photo1") = true := by
    decide +kernel
  refine ⟨dialogue, result, location, reachable, advanced, confirmed,
    lat.symm.trans facts.2, ?_⟩
  rcases photo with ⟨_, media⟩ | ⟨other, _⟩
  · exact media
  · rw [shared] at other
    cases other

end JanSetu.Whatsapp
