import JanSetu.Whatsapp.Turns
import Mathlib.Computability.RegularExpressions
import Mathlib.Data.List.Chain

/-!
# The action protocol

The side effects a conversation asks its driver for come in the order of a
regular expression, with a follow-up between any two of them, and the
conversation closes with the last one.
-/

namespace JanSetu.Whatsapp

open RegularExpression (char)

def anyRecheck : RegularExpression Action :=
  char .recheckPhoto + char .proceedWithoutPhoto

def anyEnding : RegularExpression Action :=
  1 + char .finalize + char .cancel

/-- `start_pipeline (recheck_photo | proceed_without_photo)*
(finalize | cancel)?` -/
def actionProtocol : RegularExpression Action :=
  char .startPipeline * anyRecheck.star * anyEnding

def Output.action : Output → Option Action
  | .emitted action => some action
  | .followedUp => none

def Dialogue.actions (dialogue : Dialogue) : List Action :=
  dialogue.outputs.filterMap Output.action

/-- No action directly follows another. -/
def Separated (outputs : List Output) : Prop :=
  outputs.IsChain fun left right => left = .followedUp ∨ right = .followedUp

/-! ## Words of the protocol -/

def IsRecheck (action : Action) : Prop :=
  action = .recheckPhoto ∨ action = .proceedWithoutPhoto

/-- The actions of a conversation whose pipeline was started and that has not
closed. -/
def Started (actions : List Action) : Prop :=
  ∃ rechecks, actions = .startPipeline :: rechecks ∧
    ∀ action ∈ rechecks, IsRecheck action

def Ended (actions : List Action) : Prop :=
  ∃ earlier last, actions = earlier ++ [last] ∧ Started earlier ∧
    closes (some last) = true

theorem closes_iff {action : Action} :
    closes (some action) = true ↔ action = .finalize ∨ action = .cancel := by
  cases action <;> simp [closes]

theorem Started.append {actions : List Action} {action : Action}
    (started : Started actions) (recheck : IsRecheck action) :
    Started (actions ++ [action]) := by
  obtain ⟨rechecks, rfl, all⟩ := started
  refine ⟨rechecks ++ [action], rfl, ?_⟩
  intro other member
  rcases List.mem_append.mp member with earlier | last
  · exact all other earlier
  · rw [List.mem_singleton.mp last]
    exact recheck

theorem Started.not_closing {actions : List Action} {action : Action}
    (started : Started actions) (member : action ∈ actions) :
    closes (some action) = false := by
  obtain ⟨rechecks, rfl, all⟩ := started
  rcases List.mem_cons.mp member with first | later
  · rw [first]
    rfl
  · rcases all action later with rfl | rfl <;> rfl

theorem rechecks_mem_star {rechecks : List Action}
    (all : ∀ action ∈ rechecks, IsRecheck action) :
    rechecks ∈ anyRecheck.star.matches' := by
  rw [RegularExpression.matches'_star, Language.mem_kstar]
  refine ⟨rechecks.map fun action => [action], ?_, ?_⟩
  · simp [← List.flatMap_def]
  · intro word member
    obtain ⟨action, present, rfl⟩ := List.mem_map.mp member
    rcases all action present with rfl | rfl
    · exact .inl rfl
    · exact .inr rfl

theorem started_append_mem {actions last : List Action}
    (started : Started actions)
    (ending : last ∈ anyEnding.matches') :
    actions ++ last ∈ actionProtocol.matches' := by
  obtain ⟨rechecks, rfl, all⟩ := started
  have first : [Action.startPipeline] ∈ (char Action.startPipeline).matches' :=
    rfl
  have begins : Action.startPipeline :: rechecks ∈
      (char Action.startPipeline * anyRecheck.star).matches' :=
    Language.mem_mul.mpr ⟨_, first, _, rechecks_mem_star all, rfl⟩
  exact Language.mem_mul.mpr ⟨_, begins, _, ending, rfl⟩

theorem Started.mem_protocol {actions : List Action}
    (started : Started actions) : actions ∈ actionProtocol.matches' := by
  have nothing : [] ∈ anyEnding.matches' := .inl (.inl rfl)
  simpa using started_append_mem started nothing

theorem Ended.mem_protocol {actions : List Action} (ended : Ended actions) :
    actions ∈ actionProtocol.matches' := by
  obtain ⟨earlier, last, rfl, started, closing⟩ := ended
  have ending : [last] ∈ anyEnding.matches' := by
    rcases closes_iff.mp closing with rfl | rfl
    · exact .inl (.inr rfl)
    · exact .inr rfl
  exact started_append_mem started ending

/-! ## The invariant -/

/-- What the state says about the actions so far. -/
def Standing (state : Option ConversationState) (closed : Bool)
    (outputs : List Output) : Prop :=
  match state with
  | none | some .awaitingLocation | some .confirmingLocation
  | some .awaitingIssue | some .awaitingPhoto =>
      outputs = [] ∧ closed = false
  | some .processing =>
      Started (outputs.filterMap Output.action) ∧ closed = false
  | some .photoMismatch | some .awaitingConfirmation =>
      Started (outputs.filterMap Output.action) ∧ closed = false ∧
        outputs.getLast? = some .followedUp
  | some .done =>
      Ended (outputs.filterMap Output.action) ∧ closed = true
  | some .expired | some (.unknown _) => False

structure Dialogue.OnProtocol (dialogue : Dialogue) : Prop where
  separated : Separated dialogue.outputs
  standing : Standing dialogue.state dialogue.closed dialogue.outputs

theorem Separated.append {outputs : List Output} {output : Output}
    (separated : Separated outputs)
    (apart : outputs.getLast? = some .followedUp ∨ output = .followedUp) :
    Separated (outputs ++ [output]) := by
  refine List.isChain_append.mpr ⟨separated, List.isChain_singleton _, ?_⟩
  intro left last right first
  have same : right = output := by simpa using first.symm
  rcases apart with followed | followed
  · rw [followed] at last
    exact .inl (Option.some.inj last).symm
  · exact .inr (same.trans followed)

theorem actions_append (outputs : List Output) (output : Output) :
    (outputs ++ [output]).filterMap Output.action =
      outputs.filterMap Output.action ++ output.action.toList := by
  cases output <;> simp [Output.action]

theorem Started.recheck {outputs : List Output} {action : Action}
    (started : Started (outputs.filterMap Output.action))
    (recheck : IsRecheck action) :
    Started ((outputs ++ [Output.emitted action]).filterMap Output.action) := by
  rw [actions_append]
  exact started.append recheck

theorem Started.ended {outputs : List Output} {action : Action}
    (started : Started (outputs.filterMap Output.action))
    (closing : closes (some action) = true) :
    Ended ((outputs ++ [Output.emitted action]).filterMap Output.action) := by
  rw [actions_append]
  exact ⟨_, action, rfl, started, closing⟩

theorem separated_singleton (output : Output) : Separated [output] :=
  List.isChain_singleton output

/-- The step lemma: one case for each kind of turn. -/
theorem Turn.standing {inbound : IncomingWhatsAppMessage}
    {geocode : Option ReverseGeocode} {now : Time}
    {state : Option ConversationState} {context next : Context}
    {after : ConversationState} {action : Option Action} {closed : Bool}
    {outputs : List Output}
    (turn : Turn inbound geocode now state context after next action)
    (separated : Separated outputs)
    (standing : Standing state closed outputs) :
    Separated (outputs ++ action.toList.map .emitted) ∧
      Standing (some after) (closed || closes action)
        (outputs ++ action.toList.map .emitted) := by
  cases turn with
  | greeted fresh _ =>
      rcases fresh with rfl | rfl
      · obtain ⟨rfl, rfl⟩ := standing
        exact ⟨separated, rfl, rfl⟩
      · exact standing.elim
  | staged expects _ _ =>
      have nothing : outputs = [] ∧ closed = false := by
        unfold ExpectsLocation at expects
        split at expects
        · exact standing
        · exact standing.elim
        · exact standing
        · exact standing
        · exact expects.elim
      obtain ⟨rfl, rfl⟩ := nothing
      exact ⟨separated, rfl, rfl⟩
  | confirmed _ _ =>
      obtain ⟨rfl, rfl⟩ := standing
      exact ⟨separated, rfl, rfl⟩
  | rejected _ _ =>
      obtain ⟨rfl, rfl⟩ := standing
      exact ⟨separated, rfl, rfl⟩
  | described _ =>
      obtain ⟨rfl, rfl⟩ := standing
      exact ⟨separated, rfl, rfl⟩
  | issueDone _ _ =>
      obtain ⟨rfl, rfl⟩ := standing
      exact ⟨separated, rfl, rfl⟩
  | photoShared _ =>
      obtain ⟨rfl, rfl⟩ := standing
      exact ⟨separated_singleton _, ⟨[], rfl, nofun⟩, rfl⟩
  | photoSkipped _ _ =>
      obtain ⟨rfl, rfl⟩ := standing
      exact ⟨separated_singleton _, ⟨[], rfl, nofun⟩, rfl⟩
  | photoReplaced _ =>
      obtain ⟨started, rfl, last⟩ := standing
      exact ⟨separated.append (.inl last), started.recheck (.inl rfl), rfl⟩
  | photoWaived _ =>
      obtain ⟨started, rfl, last⟩ := standing
      exact ⟨separated.append (.inl last), started.recheck (.inr rfl), rfl⟩
  | finalized _ =>
      obtain ⟨started, rfl, last⟩ := standing
      exact ⟨separated.append (.inl last), started.ended rfl, rfl⟩
  | cancelled _ =>
      obtain ⟨started, rfl, last⟩ := standing
      exact ⟨separated.append (.inl last), started.ended rfl, rfl⟩
  | stayed _ _ =>
      have same : (closed || closes none) = closed := by simp [closes]
      rw [same]
      simpa using ⟨separated, standing⟩

theorem onProtocol_step {dialogue next : Dialogue} {step : DialogueStep}
    (holds : dialogue.OnProtocol)
    (taken : dialogues.step dialogue step = some next) : next.OnProtocol := by
  obtain ⟨separated, standing⟩ := holds
  rcases dialogues_step_cases taken with
    rfl |
    ⟨inbound, geocode, now, grievanceId, result, rfl, turn, rfl⟩ |
    ⟨mismatch, rfl, processing, rfl⟩
  · exact ⟨separated, standing⟩
  · obtain ⟨apart, further⟩ := turn.standing separated standing
    exact ⟨apart, further⟩
  · rw [processing] at standing
    obtain ⟨started, active⟩ := standing
    have actions : Started ((dialogue.outputs ++ [Output.followedUp]).filterMap
        Output.action) := by
      rw [actions_append]
      simpa [Output.action] using started
    have last : (dialogue.outputs ++ [Output.followedUp]).getLast? =
        some .followedUp := List.getLast?_concat
    refine ⟨separated.append (.inr rfl), ?_⟩
    cases mismatch
    · exact ⟨actions, active, last⟩
    · exact ⟨actions, active, last⟩

theorem onProtocol {dialogue : Dialogue}
    (reachable : dialogues.Reachable dialogue) : dialogue.OnProtocol := by
  refine reachable.invariant ?_ ?_
  · intro dialogue initial
    obtain rfl : dialogue = .start := initial
    exact ⟨List.isChain_nil, rfl, rfl⟩
  · intro dialogue step next _ holds _ taken
    exact onProtocol_step holds taken

/-- A closed conversation has ended, an open one has not. -/
theorem Standing.cases {state : Option ConversationState} {closed : Bool}
    {outputs : List Output} (standing : Standing state closed outputs) :
    (closed = false ∧ (outputs = [] ∨
      Started (outputs.filterMap Output.action))) ∨
    (closed = true ∧ state = some .done ∧
      Ended (outputs.filterMap Output.action)) := by
  unfold Standing at standing
  split at standing
  case h_6 => exact .inl ⟨standing.2, .inr standing.1⟩
  case h_7 => exact .inl ⟨standing.2.1, .inr standing.1⟩
  case h_8 => exact .inl ⟨standing.2.1, .inr standing.1⟩
  case h_9 => exact .inr ⟨standing.2, rfl, standing.1⟩
  case h_10 => exact standing.elim
  case h_11 => exact standing.elim
  all_goals exact .inl ⟨standing.2, .inl standing.1⟩

theorem Ended.closing_mem {actions : List Action} (ended : Ended actions) :
    Action.finalize ∈ actions ∨ Action.cancel ∈ actions := by
  obtain ⟨earlier, last, rfl, _, closing⟩ := ended
  rcases closes_iff.mp closing with rfl | rfl
  · simp
  · simp

theorem Started.no_closing {actions : List Action}
    (started : Started actions) :
    ¬ (Action.finalize ∈ actions ∨ Action.cancel ∈ actions) := by
  rintro (member | member)
  · cases started.not_closing member
  · cases started.not_closing member

/-- In every run the actions are none or a word of the protocol, a follow-up
stands between any two, the conversation is closed when one of them is
`finalize` or `cancel`, and nothing is put out after that. -/
theorem actions_follow_protocol {dialogue : Dialogue}
    (reachable : dialogues.Reachable dialogue) :
    (dialogue.actions = [] ∨ dialogue.actions ∈ actionProtocol.matches') ∧
      Separated dialogue.outputs ∧
      (dialogue.closed = true ↔
        .finalize ∈ dialogue.actions ∨ .cancel ∈ dialogue.actions) ∧
      (dialogue.closed = true →
        ∀ step next, dialogues.step dialogue step = some next →
          next.outputs = dialogue.outputs ∧ next.closed = true) := by
  obtain ⟨separated, standing⟩ := onProtocol reachable
  have word : dialogue.actions = [] ∨
      dialogue.actions ∈ actionProtocol.matches' := by
    rcases standing.cases with ⟨_, nothing | started⟩ | ⟨_, _, ended⟩
    · exact .inl (by simp [Dialogue.actions, nothing])
    · exact .inr started.mem_protocol
    · exact .inr ended.mem_protocol
  have closing : dialogue.closed = true ↔
      .finalize ∈ dialogue.actions ∨ .cancel ∈ dialogue.actions := by
    rcases standing.cases with ⟨open', nothing | started⟩ | ⟨closed, _, ended⟩
    · simp [open', Dialogue.actions, nothing]
    · exact iff_of_false (by simp [open']) started.no_closing
    · exact iff_of_true closed ended.closing_mem
  refine ⟨word, separated, closing, ?_⟩
  intro closed step next taken
  have done : dialogue.state = some .done := by
    rcases standing.cases with ⟨open', _⟩ | ⟨_, done, _⟩
    · simp [closed] at open'
    · exact done
  rcases dialogues_step_cases taken with
    rfl |
    ⟨inbound, geocode, now, grievanceId, result, rfl, turn, rfl⟩ |
    ⟨mismatch, rfl, processing, rfl⟩
  · exact ⟨rfl, closed⟩
  · rw [done] at turn
    generalize result.state = after, result.context = context,
      result.action = action at turn
    cases turn with
    | greeted fresh _ => simp at fresh
    | staged expects _ _ => exact expects.elim
    | stayed _ _ => simp [closed]
  · simp [done] at processing

theorem actions_follow_protocol_replaced :
    ∃ dialogue : Dialogue,
      dialogue.actions ∈ actionProtocol.matches' ∧
        dialogue.actions = [.startPipeline, .recheckPhoto, .finalize] := by
  have observed : (dialogues.run .start (sampleUpToPhoto ++
      [sampleReceive (sampleImage "m8" "photo1"), .followUp true,
        sampleReceive (sampleImage "m9" "photo2"), .followUp false,
        sampleReceive (sampleTap "m10" "grv_confirm:g1")])).map
      Dialogue.actions =
        some [.startPipeline, .recheckPhoto, .finalize] := by
    decide +kernel
  obtain ⟨dialogue, reachable, actions⟩ :=
    Transition.System.reachable_of_run_map rfl observed
  have word := (actions_follow_protocol reachable).1
  rw [actions] at word
  refine ⟨dialogue, ?_, actions⟩
  rw [actions]
  simpa using word

end JanSetu.Whatsapp
