import JanSetu.Whatsapp.ActionProtocol

/-!
# The number of photo rechecks

`image_recheck_cap` of the settings is read nowhere.  The context counts the
replacement photos, and each of them starts a recheck whatever the count is.
-/

namespace JanSetu.Whatsapp

/-- The default of `Settings.image_recheck_cap`. -/
def imageRecheckCap : Nat := 2

/-- The photo rechecks that the conversation has started. -/
def Dialogue.rechecks (dialogue : Dialogue) : Nat :=
  dialogue.actions.count .recheckPhoto

def Dialogue.recheckCount (dialogue : Dialogue) : Nat :=
  (dialogue.context.getD defaultContext).draft.recheckCount

/-- A photo is read in `photo_mismatch`. -/
def Rechecks (dialogue : Dialogue) : DialogueStep → Prop
  | .receive inbound _ _ _ =>
      dialogue.state = some .photoMismatch ∧ isPhoto inbound = true
  | .followUp _ => False

instance (dialogue : Dialogue) (step : DialogueStep) :
    Decidable (Rechecks dialogue step) := by
  cases step
  · exact inferInstanceAs (Decidable (_ ∧ _))
  · exact inferInstanceAs (Decidable False)

/-- No photo is read in `photo_mismatch` once the count is at the cap. -/
def WithinCap (cap : Nat) (dialogue : Dialogue) (step : DialogueStep) : Prop :=
  Rechecks dialogue step → dialogue.recheckCount < cap

/-! ## One step -/

section

variable {dialogue next : Dialogue} {step : DialogueStep}

theorem advance_replaced {inbound : IncomingWhatsAppMessage}
    (photo : isPhoto inbound = true) (waId : String) (stored : Option Context)
    (geocode : Option ReverseGeocode) (now : Time) :
    ∃ result, advance waId (some .photoMismatch) stored inbound geocode now =
        some result ∧ result.action = some .recheckPhoto := by
  refine ⟨_, rfl, ?_⟩
  simp [advancePhotoMismatch, photo]

/-- A turn counts a replacement photo when it emits the recheck, and it emits
the recheck for a photo in `photo_mismatch` only. -/
theorem Turn.recheckCount {inbound : IncomingWhatsAppMessage}
    {geocode : Option ReverseGeocode} {now : Time}
    {state : Option ConversationState} {context after : Context}
    {reached : ConversationState} {action : Option Action}
    (turn : Turn inbound geocode now state context reached after action) :
    (action = some .recheckPhoto →
        state = some .photoMismatch ∧ isPhoto inbound = true) ∧
      after.draft.recheckCount =
        context.draft.recheckCount +
          if action = some .recheckPhoto then 1 else 0 := by
  cases turn with
  | photoReplaced photo => exact ⟨fun _ => ⟨rfl, photo⟩, rfl⟩
  | _ => exact ⟨nofun, rfl⟩

theorem rechecks_emitted (outputs : List Output) (action : Option Action) :
    ((outputs ++ action.toList.map Output.emitted).filterMap
        Output.action).count .recheckPhoto =
      (outputs.filterMap Output.action).count .recheckPhoto +
        if action = some .recheckPhoto then 1 else 0 := by
  cases action with
  | none => simp
  | some action =>
      rw [List.filterMap_append, List.count_append]
      cases action <;> rfl

/-- The step lemma: the count in the context and the number of rechecks grow
together, by the photos that are read in `photo_mismatch`. -/
theorem rechecks_step (taken : dialogues.step dialogue step = some next) :
    next.rechecks =
        dialogue.rechecks + (if Rechecks dialogue step then 1 else 0) ∧
      next.recheckCount =
        dialogue.recheckCount + (if Rechecks dialogue step then 1 else 0) := by
  cases step with
  | receive inbound geocode now grievanceId =>
      have received : dialogue.receive inbound geocode now grievanceId =
          next := Option.some.inj taken
      unfold Dialogue.receive at received
      split at received
      case h_1 raises =>
        subst received
        have quiet : ¬ Rechecks dialogue
            (.receive inbound geocode now grievanceId) := by
          rintro ⟨mismatch, photo⟩
          obtain ⟨result, advanced, _⟩ := advance_replaced photo inbound.waId
            dialogue.context geocode now
          rw [mismatch, advanced] at raises
          cases raises
        simp [quiet]
      case h_2 result advanced =>
        subst received
        obtain ⟨emits, counted⟩ := (advance_turn advanced).1.recheckCount
        have same : Rechecks dialogue
              (.receive inbound geocode now grievanceId) ↔
            result.action = some .recheckPhoto := by
          constructor
          · rintro ⟨mismatch, photo⟩
            obtain ⟨other, returns, recheck⟩ := advance_replaced photo
              inbound.waId dialogue.context geocode now
            rw [mismatch, returns] at advanced
            cases advanced
            exact recheck
          · exact emits
        simp only [same]
        refine ⟨rechecks_emitted dialogue.outputs result.action, ?_⟩
        have kept : (storedContext result grievanceId).draft.recheckCount =
            result.context.draft.recheckCount := by
          unfold storedContext
          split <;> rfl
        exact kept.trans counted
  | followUp mismatch =>
      have followed : dialogue.followUp mismatch = some next := taken
      unfold Dialogue.followUp at followed
      split at followed
      case isTrue =>
        obtain rfl := Option.some.inj followed
        refine ⟨?_, rfl⟩
        -- A follow-up puts out no action.
        have same := actions_append dialogue.outputs .followedUp
        rw [Output.action, Option.toList_none, List.append_nil] at same
        have quiet : ¬ Rechecks dialogue (.followUp mismatch) := id
        rw [Dialogue.rechecks, Dialogue.actions, same, if_neg quiet]
        rfl
      case isFalse => cases followed

end

/-! ## Runs -/

section

variable {allowed : Dialogue → DialogueStep → Prop}
  {dialogue final : Dialogue} {steps : List DialogueStep}

theorem rechecks_mono
    (runs : dialogues.RunWhen allowed dialogue steps final) :
    dialogue.rechecks ≤ final.rechecks := by
  induction runs with
  | nil => exact Nat.le_refl _
  | cons _ taken _ induction =>
      have grows := (rechecks_step taken).1
      omega

/-- A run that starts within the cap ends within it exactly when it keeps to
the condition. -/
theorem rechecks_le_iff {cap : Nat}
    (runs : dialogues.RunWhen Transition.System.Always dialogue steps final)
    (counted : dialogue.recheckCount = dialogue.rechecks)
    (within : dialogue.rechecks ≤ cap) :
    final.rechecks ≤ cap ↔
      dialogues.RunWhen (WithinCap cap) dialogue steps final := by
  induction runs with
  | nil => exact ⟨fun _ => .nil _, fun _ => within⟩
  | @cons dialogue next final step steps _ taken rest induction =>
      obtain ⟨grows, counts⟩ := rechecks_step taken
      have counted' : next.recheckCount = next.rechecks := by
        rw [counts, grows, counted]
      by_cases fits : next.rechecks ≤ cap
      · rw [induction counted' fits]
        constructor
        · intro kept
          refine .cons ?_ taken kept
          intro photo
          rw [if_pos photo] at grows
          omega
        · intro kept
          cases kept with
          | cons _ taken' kept =>
              cases taken.symm.trans taken'
              exact kept
      · have further := rechecks_mono rest
        refine iff_of_false (by omega) ?_
        intro kept
        cases kept with
        | cons permitted _ _ =>
            by_cases photo : Rechecks dialogue step
            · have below := permitted photo
              rw [if_pos photo] at grows
              omega
            · rw [if_neg photo] at grows
              omega

/-- A run of a conversation starts no more rechecks than the cap allows exactly
when no photo is read in `photo_mismatch` once the count is at the cap. -/
theorem photo_rechecks_capped_iff (cap : Nat)
    (runs : dialogues.RunWhen Transition.System.Always .start steps final) :
    final.rechecks ≤ cap ↔
      dialogues.RunWhen (WithinCap cap) .start steps final :=
  rechecks_le_iff runs rfl (Nat.zero_le cap)

end

/-- A conversation up to its first photo, and three photos that follow
mismatches. -/
def sampleRechecks : List DialogueStep :=
  sampleUpToPhoto ++
    [sampleReceive (sampleImage "m8" "photo1"), .followUp true,
      sampleReceive (sampleImage "m9" "photo2"), .followUp true,
      sampleReceive (sampleImage "m10" "photo3"), .followUp true,
      sampleReceive (sampleImage "m11" "photo4")]

theorem photo_rechecks_within_cap :
    ∃ final, dialogues.RunWhen (WithinCap imageRecheckCap) .start
        (sampleRechecks.take 12) final ∧
      final.rechecks = imageRecheckCap := by
  have observed : (dialogues.run .start (sampleRechecks.take 12)).map
      Dialogue.rechecks = some 2 := by
    decide +kernel
  obtain ⟨final, ran, twice⟩ := Option.map_eq_some_iff.mp observed
  have runs : dialogues.RunWhen Transition.System.Always .start
      (sampleRechecks.take 12) final :=
    Transition.System.runWhen_of_run (fun _ _ _ => trivial) ran
  refine ⟨final, (photo_rechecks_capped_iff imageRecheckCap runs).mp ?_, twice⟩
  rw [twice]
  decide

/-- A third recheck is started where the settings allow two. -/
theorem third_recheck_started :
    ∃ final, dialogues.RunWhen Transition.System.Always .start sampleRechecks
        final ∧
      final.rechecks = 3 ∧ ¬ final.rechecks ≤ imageRecheckCap := by
  have observed : (dialogues.run .start sampleRechecks).map
      Dialogue.rechecks = some 3 := by
    decide +kernel
  obtain ⟨final, ran, thrice⟩ := Option.map_eq_some_iff.mp observed
  refine ⟨final,
    Transition.System.runWhen_of_run (fun _ _ _ => trivial) ran, thrice, ?_⟩
  rw [thrice]
  decide

end JanSetu.Whatsapp
