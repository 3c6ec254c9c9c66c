import JanSetu.Auth.Codes
import JanSetu.Whatsapp.StaleTaps

/-!
# Login buttons among the others

Every tap goes through `parse_login_approval_id` before the state machine.
What it accepts is what `build_login_approval_id` builds, and nothing that the
state machine offers: the part before the first colon is the decision of a
login there, and the base of a card here.
-/

namespace JanSetu.Auth

open Python (split splitChars)

section

variable {decision challengeId verifier replyId : String}

theorem split_loginApprovalId (decisionFree : ':' ∉ decision.toList)
    (challengeFree : ':' ∉ challengeId.toList)
    (verifierFree : ':' ∉ verifier.toList) :
    split ':' (buildLoginApprovalId decision challengeId verifier) =
      [decision, challengeId, verifier] := by
  have chars : (buildLoginApprovalId decision challengeId verifier).toList =
      decision.toList ++
        ':' :: (challengeId.toList ++ ':' :: verifier.toList) := by
    simp [buildLoginApprovalId]
  rw [split, chars, Python.splitChars_append decisionFree,
    Python.splitChars_append challengeFree,
    Python.splitChars_of_free verifierFree]
  simp

/-- Three pieces are those of the id that is built from them. -/
theorem eq_of_split
    (pieces : split ':' replyId = [decision, challengeId, verifier]) :
    replyId = buildLoginApprovalId decision challengeId verifier := by
  have joined := Python.intercalate_split ':' replyId
  rw [pieces] at joined
  rw [← joined]
  apply String.toList_injective
  simp [buildLoginApprovalId]

theorem decision_free
    (decides : decision = loginApprovalYes ∨ decision = loginApprovalNo) :
    ':' ∉ decision.toList := by
  rcases decides with rfl | rfl <;> decide

/-- Everything an accepted id is. -/
theorem parseLoginApprovalId_eq_some
    (parsed : parseLoginApprovalId (some replyId) =
      some (decision, challengeId, verifier)) :
    split ':' replyId = [decision, challengeId, verifier] ∧
      (decision = loginApprovalYes ∨ decision = loginApprovalNo) := by
  unfold parseLoginApprovalId at parsed
  simp only at parsed
  split at parsed
  case isTrue => cases parsed
  case isFalse =>
    split at parsed
    case h_1 first second third pieces =>
      split at parsed
      case isTrue => cases parsed
      case isFalse known =>
        split at parsed
        case isTrue => cases parsed
        case isFalse =>
          cases parsed
          refine ⟨pieces, ?_⟩
          by_contra other
          exact known (not_or.mp other)
    case h_2 => cases parsed

theorem parseLoginApprovalId_build
    (decides : decision = loginApprovalYes ∨ decision = loginApprovalNo)
    (challengeFree : ':' ∉ challengeId.toList)
    (verifierFree : ':' ∉ verifier.toList)
    (isId : challengeId.length = 36) (long : 16 ≤ verifier.length)
    (short :
      (buildLoginApprovalId decision challengeId verifier).length ≤ 256) :
    parseLoginApprovalId
        (some (buildLoginApprovalId decision challengeId verifier)) =
      some (decision, challengeId, verifier) := by
  have present : buildLoginApprovalId decision challengeId verifier ≠ "" := by
    intro empty
    have lengths := congrArg String.length empty
    simp only [buildLoginApprovalId, String.length_append] at lengths
    have none : "".length = 0 := rfl
    omega
  have known : ¬ (decision ≠ loginApprovalYes ∧ decision ≠ loginApprovalNo) :=
    fun other => decides.elim other.1 other.2
  unfold parseLoginApprovalId
  simp only
  rw [if_neg (not_or.mpr ⟨present, not_lt.mpr short⟩),
    split_loginApprovalId (decision_free decides) challengeFree verifierFree]
  simp only
  rw [if_neg known, if_neg (not_or.mpr ⟨not_lt.mpr long, not_not.mpr isId⟩)]

/-- An id with another first part than a decision is not accepted. -/
theorem parseLoginApprovalId_other {base : String} {pieces : List String}
    (first : split ':' replyId = base :: pieces)
    (other : base ≠ loginApprovalYes ∧ base ≠ loginApprovalNo) :
    parseLoginApprovalId (some replyId) = none := by
  cases parsed : parseLoginApprovalId (some replyId) with
  | none => rfl
  | some parts =>
      obtain ⟨same, decides⟩ := parseLoginApprovalId_eq_some parsed
      rw [first, List.cons.injEq] at same
      rw [same.1] at other
      exact (decides.elim other.1 other.2).elim

end

end JanSetu.Auth

namespace JanSetu.Whatsapp

open Auth

theorem parse_tokenId {base : String} (token : Option String)
    (free : ':' ∉ base.toList)
    (other : base ≠ loginApprovalYes ∧ base ≠ loginApprovalNo) :
    parseLoginApprovalId (some (tokenId base token)) = none := by
  have chars : (tokenId base token).toList =
      base.toList ++ ':' :: (formatted token).toList := by
    simp [tokenId]
  have first : Python.split ':' (tokenId base token) =
      base :: (Python.splitChars ':' (formatted token).toList).map
        String.ofList := by
    rw [Python.split, chars, Python.splitChars_append free, List.map_cons,
      String.ofList_toList]
  exact parseLoginApprovalId_other first other

/-- No id of a prompt is one of a login. -/
theorem parse_promptButtons {state : ConversationState} {context : Context}
    {id : String} (offered : id ∈ promptButtons state context) :
    parseLoginApprovalId (some id) = none := by
  cases state <;> simp [promptButtons] at offered
  case confirmingLocation =>
    rcases offered with rfl | rfl
    · exact parse_tokenId _ (by decide) (by decide)
    · exact parse_tokenId _ (by decide) (by decide)
  case awaitingConfirmation =>
    rcases offered with rfl | rfl
    · exact parse_tokenId _ (by decide) (by decide)
    · exact parse_tokenId _ (by decide) (by decide)
  case awaitingIssue =>
    subst offered
    decide
  case awaitingPhoto =>
    rcases offered with rfl | rfl <;> decide
  case photoMismatch =>
    rcases offered with rfl | rfl <;> decide

/-- The id is on a reply button of a message that the state machine, in
whatever state and context, or the pipeline follow-up builds. -/
inductive OffersButton (id : String) : Prop where
  | advance {waId : String} {state : Option ConversationState}
      {context : Option Context} {inbound : IncomingWhatsAppMessage}
      {geocode : Option ReverseGeocode} {now : Time} {result : FsmResult}
      {intent : OutboundIntent} :
      advance waId state context inbound geocode now = some result →
      intent ∈ result.intents → id ∈ intent.payload.buttonIds →
      OffersButton id
  | mismatch {waId : String} {note : Option String} :
      id ∈ (buildMismatchIntent waId note).payload.buttonIds →
      OffersButton id
  | confirmation {waId draftId body : String}
      {headerMediaId : Option String} :
      id ∈ (buildConfirmationIntent waId draftId headerMediaId
        body).payload.buttonIds →
      OffersButton id

/-- Every button that is offered is one of the prompt of some step. -/
theorem OffersButton.prompt {id : String} (offers : OffersButton id) :
    ∃ state context, id ∈ promptButtons state context := by
  cases offers with
  | advance advanced sent onIt =>
      exact ⟨_, _, (advance_prompts advanced).offered _ sent _ onIt⟩
  | mismatch onIt =>
      exact ⟨.photoMismatch, defaultContext,
        prompts_mismatch.offered _ List.mem_cons_self _ onIt⟩
  | @confirmation _ draftId _ _ onIt =>
      have drafted : { defaultContext with
          draft := { grievanceId := some draftId, recheckCount := 0 } :
            Context }.draft.grievanceId = some draftId := rfl
      exact ⟨.awaitingConfirmation, _,
        (prompts_confirmation drafted).offered _ List.mem_cons_self _ onIt⟩

/-- What is built from well-formed parts is parsed into them, what is parsed
is what is built from the parts, and no button of the conversation is. -/
theorem login_ids_round_trip :
    (∀ decision challengeId verifier : String,
      decision = loginApprovalYes ∨ decision = loginApprovalNo →
      challengeId.length = 36 → ':' ∉ challengeId.toList →
      16 ≤ verifier.length → ':' ∉ verifier.toList →
      (buildLoginApprovalId decision challengeId verifier).length ≤ 256 →
      parseLoginApprovalId
          (some (buildLoginApprovalId decision challengeId verifier)) =
        some (decision, challengeId, verifier)) ∧
    (∀ replyId decision challengeId verifier,
      parseLoginApprovalId replyId =
        some (decision, challengeId, verifier) →
      replyId = some (buildLoginApprovalId decision challengeId verifier)) ∧
    ∀ id, OffersButton id → parseLoginApprovalId (some id) = none := by
  refine ⟨?_, ?_, ?_⟩
  · intro decision challengeId verifier decides isId challengeFree long
      verifierFree short
    exact parseLoginApprovalId_build decides challengeFree verifierFree isId
      long short
  · intro replyId decision challengeId verifier parsed
    cases replyId with
    | none => cases parsed
    | some replyId =>
        rw [eq_of_split (parseLoginApprovalId_eq_some parsed).1]
  · intro id offers
    obtain ⟨state, context, offered⟩ := offers.prompt
    exact parse_promptButtons offered

/-- A login button, and the card of a location whose message id looks like the
rest of one. -/
theorem login_ids_sample :
    parseLoginApprovalId (some (buildLoginApprovalId loginApprovalNo
        "3f2504e0-4f89-41d3-9a0c-0305e82c3301" "q0aVJ1Zq-Xk_5RtY")) =
      some (loginApprovalNo, "3f2504e0-4f89-41d3-9a0c-0305e82c3301",
        "q0aVJ1Zq-Xk_5RtY") ∧
    parseLoginApprovalId (some (tokenId Copy.confirmYesId
        (some "3f2504e0-4f89-41d3-9a0c-0305e82c3301:q0aVJ1Zq-Xk_5RtY"))) =
      none := by
  refine ⟨login_ids_round_trip.1 _ _ _ (.inr rfl) (by decide) (by decide)
    (by decide) (by decide) (by decide), ?_⟩
  have offered : OffersButton (tokenId Copy.confirmYesId
      (some "3f2504e0-4f89-41d3-9a0c-0305e82c3301:q0aVJ1Zq-Xk_5RtY")) :=
    @OffersButton.advance _ "919876543210" (some .awaitingLocation) none
      (sampleLocation "3f2504e0-4f89-41d3-9a0c-0305e82c3301:q0aVJ1Zq-Xk_5RtY"
        28 77) none 0 _ _ rfl (.head _) (.head _)
  exact login_ids_round_trip.2.2 _ offered

end JanSetu.Whatsapp
