import JanSetu.Pipeline.Serial

/-!
# The derived columns follow the policy

`run_pipeline`, `reextract_grievance`, `update_review` and `official_action`
each recompute the priority, the disposition, the aggregation key and the
routing snapshot.  In a serial run of these they are what
`evaluate_routing_policy` makes of the stored category, safety level, asset
scope and address; an official's redirect alone sets the disposition by itself.
-/

namespace JanSetu.Pipeline

open Process (Label)

/-- The policy for the category, on what is stored. -/
def storedPolicy (row : Grievance) (key : String) : RoutingDecision :=
  evaluateRoutingPolicy (some key) (row.safetyLevel.getD .none)
    (row.assetScope.getD .unknown) (Python.truthy row.locationAddress)

/-- The review status is `redirected` when the last of the four writers was an
official who redirected: each of them sets it, and nobody else to that. -/
def storedDisposition (row : Grievance) (key : String) : Disposition :=
  if row.reviewStatus = some .redirected then .redirect
  else (storedPolicy row key).disposition

structure PolicedFor (row : Grievance) (key : String) : Prop where
  categoryId : row.categoryId = some key
  priority : row.priority = some (storedPolicy row key).priority
  disposition : row.disposition = some (storedDisposition row key)
  aggregationKey :
    row.aggregationKey = some (categoryOrDefault (some key)).aggregationKey
  snapshotCategory : row.routingSnapshot.map (·.categoryId) = some key
  snapshotDisposition :
    row.routingSnapshot.map (·.disposition) =
      some (storedDisposition row key)

/-- Once a category is set, the derived columns are those of the policy. -/
def Policed (row : Grievance) : Prop :=
  ∀ key, row.category = some key → PolicedFor row key

/-- The four operations, from their request to their write. -/
def Task.decides : Task → Bool
  | .opened operation _ => operation.extracts || operation.reviews
  | .loaded operation _ _ => operation.extracts || operation.reviews
  | _ => false

theorem reviewStatusOf_ne_redirected (policy : RoutingDecision) :
    some (reviewStatusOf policy) ≠ some .redirected := by
  unfold reviewStatusOf
  split <;> exact nofun

/-- A writer that gives the review to the citizen or to an official. -/
theorem PolicedFor.of_policy {row : Grievance} {key : String}
    {policy : RoutingDecision} {snapshot : RoutingSnapshot}
    (isPolicy : policy = storedPolicy row key)
    (review : row.reviewStatus = some (reviewStatusOf policy))
    (categoryId : row.categoryId = some key)
    (priority : row.priority = some policy.priority)
    (disposition : row.disposition = some policy.disposition)
    (aggregationKey : row.aggregationKey =
      some (categoryOrDefault (some key)).aggregationKey)
    (snapshots : row.routingSnapshot = some snapshot)
    (category : snapshot.categoryId = key)
    (disposed : snapshot.disposition = policy.disposition) :
    PolicedFor row key := by
  have isDisposition : storedDisposition row key = policy.disposition := by
    unfold storedDisposition
    rw [review, if_neg (reviewStatusOf_ne_redirected policy), isPolicy]
  constructor
  · exact categoryId
  · rw [priority, isPolicy]
  · rw [disposition, isDisposition]
  · exact aggregationKey
  · rw [snapshots, Option.map_some, category]
  · rw [snapshots, Option.map_some, disposed, isDisposition]

section

variable {settings : Settings} {id : String} {known : Grievance}
  {answer : Answer} {operation : Operation}
  {fields : Grievance → Grievance} {next : Grievance → Progress}

theorem Policed.stamp {row : Grievance} (policed : Policed row)
    (now : Time) : Policed { row with updatedAt := now } := by
  intro key category
  obtain ⟨categoryId, priority, disposition, aggregationKey, snapshot,
    disposed⟩ := policed key category
  exact ⟨categoryId, priority, disposition, aggregationKey, snapshot,
    disposed⟩

/-- The receipt is no part of it. -/
theorem Policed.receipt {status : GrievanceStatus} {row : Grievance}
    (policed : Policed (fields row)) :
    Policed (withReceipt settings id status fields row) := by
  unfold withReceipt
  split
  · intro key category
    obtain ⟨categoryId, priority, disposition, aggregationKey, snapshot,
      disposed⟩ := policed key category
    exact ⟨categoryId, priority, disposition, aggregationKey, snapshot,
      disposed⟩
  · exact policed

theorem RunPipeline.policed (work : PipelineWork)
    (route : Option JurisdictionRoute) (text : String) (row : Grievance) :
    Policed (RunPipeline.fields work route text row) := by
  rintro key ⟨⟩
  have isPolicy : RunPipeline.policy row work =
      storedPolicy (RunPipeline.fields work route text row)
        work.extraction.categoryId := rfl
  exact .of_policy isPolicy rfl rfl rfl rfl rfl rfl rfl rfl

theorem Reextract.policed (extraction : StructuredExtraction)
    (route : Option JurisdictionRoute) (row : Grievance) :
    Policed (Reextract.fields extraction route row) := by
  rintro key ⟨⟩
  have again : ∀ category : Category,
      category = categoryOrDefault (some category.key) →
      category.aggregationKey =
        (categoryOrDefault (some category.key)).aggregationKey :=
    fun _ same => congrArg Category.aggregationKey same
  have isDefault : Reextract.category row extraction =
      categoryOrDefault (some (Reextract.category row extraction).key) := by
    unfold Reextract.category
    split <;> exact (categoryOrDefault_key _).symm
  have isPolicy : Reextract.policy row extraction =
      storedPolicy (Reextract.fields extraction route row)
        (Reextract.category row extraction).key := rfl
  exact .of_policy isPolicy rfl rfl rfl rfl
    (congrArg some (again _ isDefault)) rfl rfl rfl

theorem UpdateReview.policed (body : ReviewPatch) (categoryKey : String)
    (assetScope : AssetScope) (row : Grievance) :
    Policed (UpdateReview.fields body categoryKey assetScope row) := by
  rintro key ⟨⟩
  have isPolicy : UpdateReview.policy categoryKey assetScope row =
      storedPolicy (UpdateReview.fields body categoryKey assetScope row)
        categoryKey := rfl
  exact .of_policy isPolicy rfl rfl rfl rfl rfl rfl rfl rfl

theorem OfficialAction.policed (body : OfficialAction) (categoryKey : String)
    (row : Grievance) : Policed (OfficialAction.fields body categoryKey row) := by
  rintro key ⟨⟩
  have isDisposition :
      storedDisposition (OfficialAction.fields body categoryKey row)
          categoryKey =
        if body.action = .redirect then .redirect
        else (storedPolicy (OfficialAction.fields body categoryKey row)
          categoryKey).disposition := by
    unfold storedDisposition
    cases action : body.action <;> simp [OfficialAction.fields, action,
      OfficialAction.reviewStatus]
  exact ⟨rfl, rfl, congrArg some isDisposition.symm, rfl, rfl,
    congrArg some isDisposition.symm⟩

/-- Each of the four writes what the policy says. -/
theorem Operation.Writes.policed
    (writes : operation.Writes settings id known answer fields next)
    (decides : (operation.extracts || operation.reviews) = true) :
    Policed (fields known) := by
  cases writes with
  | runPipeline => exact (RunPipeline.policed _ _ _ known).receipt
  | reextract => exact Reextract.policed _ _ known
  | updateReview => exact UpdateReview.policed _ _ _ known
  | officialAction => exact OfficialAction.policed _ _ known
  | _ => cases decides

end

/-! ## Runs -/

def policed : TaskInvariant :=
  { shared := fun store => ∀ id, store.Every id Policed
    own := fun _ _ => True
    waiting := fun _ _ => True
    pair := fun _ _ => True }

theorem policed_enters {world : World Store Job} {pid : Nat} {store : Store}
    {task : Task} : policed.Enters world pid store task :=
  ⟨trivial, fun _ _ _ _ => ⟨trivial, trivial⟩⟩

section

variable {settings : Settings} {geometry : Geometry}
  {world : World Store Job}

/-- In every state of a serial run, each grievance that has a category has the
derived columns of its policy. -/
theorem policy_coherent
    (reachable : (program settings geometry Policed).system.ReachableWhen
      (Serial Task.decides) world) (id : String) :
    world.shared.Every id Policed := by
  have holds : policed.Holds world := by
    refine TaskInvariant.holds ?initially ?sameRows ?started ?selected
      ?dispatches ?moved reachable
    case initially => exact fun store ⟨_, _, admits⟩ id row => admits id row
    case sameRows =>
      intro store after same
      refine ⟨?_, fun _ _ => trivial, fun _ _ => trivial⟩
      intro before id row found
      rw [same.1] at found
      exact before id row found
    case started => exact fun _ _ _ _ _ _ _ _ => policed_enters
    case selected => exact fun _ _ _ _ _ _ _ _ _ _ => trivial
    case dispatches => exact fun _ _ _ _ _ => policed_enters
    case moved =>
      intro world pid task choice after progress reached holding serially runs
        _ moves
      have decides := serially.serves pid choice task rfl runs
      refine ⟨?_, fun _ _ _ _ _ => trivial, fun _ _ => trivial,
        fun _ _ => policed_enters⟩
      intro id
      refine moves.every ?_ ?_ (holding.shared id)
      · intro humanId contactId userId context now key category
        cases category
      · intro known writes current touches here before
        cases touches with
        | @wrote operation _ _ fields _ writes =>
            have stored := Serial.stored reached (fun _ _ same => same) runs
            have found : world.shared.grievances.find id = some current :=
              here.resolve_left (by simp [Task.merges])
            have same : current = known :=
              Option.some.inj (found.symm.trans stored)
            subst same
            show Policed (RowSession.set
              { known := current, current := current } choice.now
              fields).current
            rcases set_over current choice.now fields with same | same
            · rw [same]
              exact before
            · rw [same]
              exact (writes.policed decides).stamp choice.now
        | _ => cases decides
  exact holds.shared id

end

/-- A draft on which nothing has run. -/
def draftedGrievance : Grievance :=
  draftGrievance "JS-20260625-00001" "contact" none (some "citizen") .web
    { lat := some 28, lon := some 77, displayAddress := some "Ward 12"
      messages := [], photoMediaId := none } 0

/-- What the model returns for a report of a broken streetlight. -/
theorem policy_coherent_redirected :
    ∃ world, (program defaultSettings flatMap Policed).system.ReachableWhen
        (Serial Task.decides) world ∧
      world.shared.Every "g" Policed ∧
      (world.shared.grievances.find "g").map (fun row =>
        (row.category, row.priority, row.disposition)) =
        some (some "pothole_surface_damage", some .priority,
          some .redirect) := by
  have ran : ((program defaultSettings flatMap Policed).serial
      (fun _ job _ => job.task.all Task.decides)
      (.single "g" draftedGrievance)
      [(.runPipeline "g",
        [⟨1, .plain⟩,
         ⟨2, .work { clips := [], displayAddress := none, photoRead := false
                     extraction := streetlightExtraction }⟩]),
       (.updateReview "g" "citizen"
          { categoryId := some "pothole_surface_damage", assetScope := none
            summary := none, clarificationAnswer := none },
        [⟨3, .plain⟩, ⟨3, .plain⟩]),
       (.officialAction "g"
          { role := .admin, jurisdictionId := demoJurisdictionId
            departmentKeys := [] }
          { action := .redirect, categoryId := none, assetScope := none
            safetyLevel := none, departmentKey := none },
        [⟨4, .plain⟩, ⟨4, .plain⟩])]).map
      (fun store => (store.grievances.find "g").map fun row =>
        (row.category, row.priority, row.disposition)) =
      some (some (some "pothole_surface_damage", some .priority,
        some .redirect)) := by
    decide +kernel
  have initial : (program defaultSettings flatMap Policed).initial
      (.single "g" draftedGrievance) := Store.single_initial nofun
  obtain ⟨world, reached, _, observed⟩ :=
    Process.Program.reachable_serial initial
      (fun _ _ quiet _ => Serial.of_quiet quiet)
      (fun _ _ _ => Serial.of_alone) ran
  exact ⟨world, reached, policy_coherent reached "g", observed⟩

end JanSetu.Pipeline
