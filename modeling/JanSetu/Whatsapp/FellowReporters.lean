import JanSetu.Pipeline.Reporters
import JanSetu.Whatsapp.Processing

/-!
# The number of fellow reporters

A citizen whose complaint was merged is told how many other people have
reported the issue.  The number is the count of the master, and this has been
one from the start and counts the citizen's own complaint.
-/

namespace JanSetu.Whatsapp

open Pipeline (FinalizeOutcome Geometry Runs Serial)

/-- The grievances of a cluster that are not the citizen's own. -/
def fellowReporters (own : String → Bool) (store : Pipeline.Store)
    (masterId : String) : List String :=
  (store.cluster masterId).filter fun id => !own id

/-- What `finalize_followup` goes on to send names this many other people. -/
def Tells (id : String) (outcome : FinalizeOutcome) (count : Nat) : Prop :=
  FollowupStage.next id .finalize (.finalized outcome) =
    .more (.replying "registered_final"
      (Copy.registeredFinal outcome.humanId ++
        Copy.duplicateNote (toString count))
      ("registered_final:" ++ id))

/-! ## The number in a message -/

theorem duplicateNote_injective {first second : Nat}
    (same : Copy.duplicateNote (toString first) =
      Copy.duplicateNote (toString second)) : first = second := by
  have lists := congrArg String.toList same
  simp only [Copy.duplicateNote, String.toList_append, List.append_assoc,
    List.append_cancel_left_eq] at lists
  have sizes := congrArg List.length lists
  simp only [List.length_append] at sizes
  obtain ⟨digits, _⟩ := List.append_inj lists (by omega)
  rw [Nat.toString_eq_repr, Nat.toString_eq_repr, Nat.toList_repr,
    Nat.toList_repr] at digits
  rw [← @Nat.ofDigitChars_ten_toDigits first, digits,
    Nat.ofDigitChars_ten_toDigits]

theorem Tells.unique {id : String} {outcome : FinalizeOutcome}
    {first second : Nat} (one : Tells id outcome first)
    (two : Tells id outcome second) : first = second := by
  unfold Tells at one two
  rw [one] at two
  obtain ⟨_, body, _⟩ :=
    FollowupStage.replying.inj (Progress.more.inj two)
  apply duplicateNote_injective
  have lists := congrArg String.toList body
  rw [String.toList_append, String.toList_append] at lists
  exact String.toList_injective (List.append_cancel_left lists)

section

variable {settings : Pipeline.Settings} {geometry : Geometry}
  {store after : Pipeline.Store} {id masterId : String}
  {known master : Grievance} {confirmedAt : Time}
  {choice : Pipeline.Choice} {outcome : FinalizeOutcome}

/-- A merge tells the count that it has written to the master. -/
theorem merge_tells
    (merged : (Pipeline.Task.searched id known confirmedAt
      (some (masterId, master))).resume settings geometry store choice =
        some (after, .finalized outcome)) :
    Tells id outcome (master.reportCount + 1) := by
  have outcome_eq : outcome.status = .duplicate ∧
      outcome.reportCount = some (master.reportCount + 1) := by
    unfold Pipeline.Task.resume at merged
    split at merged
    case isTrue => cases merged
    case isFalse =>
      have commits : store.mergeDuplicate id known confirmedAt masterId master
          choice.now = some (after, .finalized outcome) := by
        cases answer : choice.answer with
        | plain =>
            rw [answer] at merged
            exact merged
        | _ =>
            rw [answer] at merged
            cases merged
      clear merged
      unfold Pipeline.Store.mergeDuplicate at commits
      dsimp only at commits
      split at commits
      case h_1 => cases commits
      case h_2 =>
        split at commits
        case h_1 => cases commits
        case h_2 =>
          cases commits
          exact ⟨rfl, rfl⟩
  unfold Tells FollowupStage.next registeredFinalBody
  simp only [outcome_eq, if_true]

/-- In no serial run is a citizen whose complaint was merged told the right
number: it counts the citizen's own complaint too. -/
theorem fellow_reporters_miscounted {world : World Pipeline.Store Pipeline.Job}
    (reachable : (Pipeline.program settings geometry
      Pipeline.Unreported).system.ReachableWhen
        (Serial fun _ => true) world)
    {pid : Nat}
    (runs : Runs world pid
      (.searched id known confirmedAt (some (masterId, master))))
    (merged : (Pipeline.Task.searched id known confirmedAt
      (some (masterId, master))).resume settings geometry world.shared choice =
        some (after, .finalized outcome))
    (own : String → Bool) (citizens : own id = true) :
    ¬ Tells id outcome (fellowReporters own after masterId).length := by
  intro right
  have told := (merge_tells merged).unique right
  rcases Pipeline.Task.resume_cases merged with ⟨_, _, raised⟩ | ⟨_, moves⟩
  · cases raised
  · obtain ⟨member, fits⟩ :=
      Pipeline.merge_covers_cluster reachable runs moves
    have fewer : (fellowReporters own after masterId).length <
        (after.cluster masterId).length := by
      apply List.length_filter_lt_length_iff_exists.mpr
      exact ⟨id, member, by simp [citizens]⟩
    omega

end

/-! ## One other reporter, and two are told -/

/-- The window of `g` is open. -/
def windowOpen : Grievance :=
  { Pipeline.reviewedGrievance with
    status := .pendingWindow, windowExpiresAt := some 100 }

/-- The citizen confirms `h`, and the search has found `g`. -/
theorem pair_merged : ∃ world after outcome,
    (Pipeline.program Pipeline.defaultSettings Pipeline.flatMap
      Pipeline.Unreported).system.ReachableWhen
        (Serial fun _ => true) world ∧
      Runs world 0
        (.searched "h" Pipeline.reviewedGrievance 1
          (some ("g", windowOpen))) ∧
      (Pipeline.Task.searched "h" Pipeline.reviewedGrievance 1
        (some ("g", windowOpen))).resume Pipeline.defaultSettings
          Pipeline.flatMap world.shared ⟨2, .plain⟩ =
        some (after, .finalized outcome) ∧
      outcome.reportCount = some 2 ∧
      fellowReporters (· = "h") after "g" = ["g"] := by
  let system := (Pipeline.program Pipeline.defaultSettings Pipeline.flatMap
    Pipeline.Unreported).system
  let task : Pipeline.Task := .searched "h" Pipeline.reviewedGrievance 1
    (some ("g", windowOpen))
  let middle : World Pipeline.Store Pipeline.Job :=
    (World.start Pipeline.sharedPlace).put Pipeline.sharedPlace 0
      (some (.request (.tapConfirm "h")))
  have spawned : system.step (World.start Pipeline.sharedPlace)
      (.spawn 0 (.tapConfirm "h")) = some middle := rfl
  have ran : (system.run middle
      [.resume 0 ⟨1, .plain⟩, .resume 0 ⟨1, .plain⟩,
        .resume 0 ⟨1, .plain⟩]).map
      (fun world => (world.processes 0,
        (task.resume Pipeline.defaultSettings Pipeline.flatMap world.shared
          ⟨2, .plain⟩).map fun result =>
            (result.2, fellowReporters (· = "h") result.1 "g"))) =
      some (some (.request task),
        some (.finalized
          { status := .duplicate, humanId := "JS-20260625-00001"
            duplicateOfHumanId := some "JS-20260625-00001"
            reportCount := some 2 }, ["g"])) := by
    decide +kernel
  obtain ⟨world, ran, observed⟩ := Option.map_eq_some_iff.mp ran
  obtain ⟨running, resumed⟩ := Prod.mk.inj observed
  obtain ⟨⟨after, progress⟩, merged, same⟩ := Option.map_eq_some_iff.mp resumed
  obtain ⟨rfl, fellows⟩ := Prod.mk.inj same
  have quiet : (World.start Pipeline.sharedPlace :
      World Pipeline.Store Pipeline.Job).Quiet := fun _ => rfl
  have initial : system.initial (World.start Pipeline.sharedPlace) :=
    ⟨_, Pipeline.sharedPlace_initial, rfl⟩
  have reached : system.ReachableWhen (Serial fun _ => true) middle :=
    Transition.System.ReachableWhen.next (.start initial) (.of_quiet quiet)
      spawned
  have serially : ∀ label ∈ ([.resume 0 ⟨1, .plain⟩, .resume 0 ⟨1, .plain⟩,
      .resume 0 ⟨1, .plain⟩] :
        List (Process.Label Pipeline.Request Pipeline.Choice)),
      ∀ state, Serial (fun _ => true) state label := by
    intro label member state
    constructor
    · rintro pid request rfl
      simp at member
    · exact fun _ _ _ _ _ => rfl
  exact ⟨world, after, _,
    reached.run (Transition.System.runWhen_of_run serially ran),
    ⟨_, running, rfl⟩, merged, rfl, fellows⟩

theorem fellow_reporters_miscounted_pair : ∃ after outcome,
    outcome.reportCount = some 2 ∧
      fellowReporters (· = "h") after "g" = ["g"] ∧
      ¬ Tells "h" outcome (fellowReporters (· = "h") after "g").length := by
  obtain ⟨world, after, outcome, reached, runs, merged, count, fellows⟩ :=
    pair_merged
  exact ⟨after, outcome, count, fellows,
    fellow_reporters_miscounted reached runs merged (· = "h")
      (decide_eq_true rfl)⟩

/-- The other reporter is one, and the message says two. -/
theorem fellow_reporters_off_by_one :
    ¬ ∀ (settings : Pipeline.Settings) (geometry : Geometry)
      (world : World Pipeline.Store Pipeline.Job) (pid : Nat)
      (id masterId : String) (known master : Grievance) (confirmedAt : Time)
      (choice : Pipeline.Choice) (after : Pipeline.Store)
      (outcome : FinalizeOutcome) (own : String → Bool),
      (Pipeline.program settings geometry
        Pipeline.Unreported).system.ReachableWhen
          (Serial fun _ => true) world →
      Runs world pid
        (.searched id known confirmedAt (some (masterId, master))) →
      (Pipeline.Task.searched id known confirmedAt
        (some (masterId, master))).resume settings geometry world.shared
          choice = some (after, .finalized outcome) →
      own id = true →
        Tells id outcome (fellowReporters own after masterId).length := by
  intro tells
  obtain ⟨world, after, outcome, reached, runs, merged, _, fellows⟩ :=
    pair_merged
  have right := tells _ _ world 0 "h" "g" _ _ 1 _ after outcome (· = "h")
    reached runs merged (decide_eq_true rfl)
  rw [fellows] at right
  have same := (merge_tells merged).unique right
  revert same
  decide +kernel

end JanSetu.Whatsapp
