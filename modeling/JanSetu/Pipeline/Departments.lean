import JanSetu.Pipeline.FailClosed
import JanSetu.Pipeline.Policy

/-!
# The department of a grievance

It is derived twice: from the category, by the dispatcher and by
`run_pipeline` for `department_key`, and from the resolved route, for the
snapshot.  The two are one unless an override in force names another department
than the category's own.
-/

namespace JanSetu.Pipeline

open Process (Label)

/-- The department `dispatch_grievance` sends to. -/
def dispatchDepartment (row : Grievance) : Option String :=
  (departmentForCategory
    (row.category.filter (· ≠ "") |>.getD "other")).map (·.key)

/-- The column says what the snapshot says, and so does the dispatcher once it
is enabled. -/
def Departments (row : Grievance) : Prop :=
  ∀ snapshot, row.routingSnapshot = some snapshot →
    row.departmentKey = some snapshot.departmentKey ∧
      (snapshot.dispatchEnabled = true →
        dispatchDepartment row = some snapshot.departmentKey)

/-- No override in force brings another department into a write: neither into
one of `run_pipeline`, nor with a live dispatch into one of
`reextract_grievance`. -/
def Task.keepsDepartment (routes : List JurisdictionRouteRow)
    (choice : Choice) : Task → Bool
  | .loaded .runPipeline _ known =>
      match choice.answer with
      | .work work =>
          let key := work.extraction.categoryId
          (originalText known.issueMessages).isNone ||
            (overrideInForce routes (some key) (jurisdictionOf known)
              choice.now).all fun row =>
                row.departmentKey =
                  (categoryOrDefault (some key)).departmentKey
      | _ => true
  | .loaded .reextract _ known =>
      match choice.answer with
      | .extraction extraction =>
          let category := Reextract.category known extraction
          !Python.truthy known.issueText || extraction.degraded ||
            (overrideInForce routes (some category.key)
              (jurisdictionOf known) choice.now).all fun row =>
                !row.dispatchEnabled ||
                  row.departmentKey = category.departmentKey
      | _ => true
  | _ => true

/-- Serial steps, none of which brings in another department. -/
structure KeepsDepartment (world : World Store Job)
    (label : Label Request Choice) : Prop where
  serial : Serial (fun _ => true) world label
  keeps : ∀ pid choice task, label = .resume pid choice →
    Runs world pid task →
    task.keepsDepartment world.shared.routes choice = true

/-! ## The category's own department -/

theorem categoryOrDefault_mem (key : Option String) :
    categoryOrDefault key ∈ categoryRows := by
  have unmapped : unmappedService ∈ categoryRows :=
    List.mem_of_find?_eq_some canonicalCategory_unmapped
  unfold categoryOrDefault
  split
  case h_1 => exact unmapped
  case h_2 canonical _ =>
    cases found : canonicalCategory canonical with
    | none => exact unmapped
    | some category => exact List.mem_of_find?_eq_some found

/-- Every category has a department, so that the lookup never fails. -/
theorem departmentForCategory_key (categoryKey : String) :
    (departmentForCategory categoryKey).map (·.key) =
      some (categoryOrDefault (some categoryKey)).departmentKey := by
  have each : ∀ category ∈ categoryRows,
      (departments.find? (·.key = category.departmentKey)).map (·.key) =
        some category.departmentKey := by
    decide +kernel
  exact each _ (categoryOrDefault_mem (some categoryKey))

theorem dispatchDepartment_category {row : Grievance} {key : String}
    (category : row.category = some key) :
    dispatchDepartment row =
      some (categoryOrDefault (some key)).departmentKey := by
  unfold dispatchDepartment
  rw [departmentForCategory_key, category]
  by_cases empty : key = ""
  · subst empty
    decide +kernel
  · simp [Option.filter, empty]

theorem routeForCategory_elim (categoryKey : String) :
    (routeForCategory categoryKey).elim
        (categoryOrDefault (some categoryKey)).departmentKey
        (·.departmentKey) =
      (categoryOrDefault (some categoryKey)).departmentKey := by
  cases found : routeForCategory categoryKey with
  | none => rfl
  | some route => exact routeForCategory_department found

section

variable {settings : Settings} {id : String} {known : Grievance}
  {now : Time} {answer : Answer} {operation : Operation}
  {fields : Grievance → Grievance} {next : Grievance → Progress}
  {routes : List JurisdictionRouteRow}

/-! ## What one write does -/

theorem Departments.of_columns {row other : Grievance}
    (departments : Departments row)
    (snapshot : other.routingSnapshot = row.routingSnapshot)
    (departmentKey : other.departmentKey = row.departmentKey)
    (category : other.category = row.category) : Departments other := by
  intro stored found
  rw [snapshot] at found
  obtain ⟨column, dispatched⟩ := departments stored found
  refine ⟨departmentKey.trans column, fun enabled => ?_⟩
  unfold dispatchDepartment
  rw [category]
  exact dispatched enabled

/-- A writer of a snapshot that either does not dispatch or dispatches to the
category's own department. -/
theorem Departments.of_snapshot {row : Grievance} {key : String}
    {snapshot : RoutingSnapshot}
    (stored : row.routingSnapshot = some snapshot)
    (departmentKey : row.departmentKey = some snapshot.departmentKey)
    (category : row.category = some key)
    (own : snapshot.dispatchEnabled = true →
      snapshot.departmentKey =
        (categoryOrDefault (some key)).departmentKey) :
    Departments row := by
  intro found same
  have is : snapshot = found := Option.some.inj (stored.symm.trans same)
  subst is
  refine ⟨departmentKey, fun enabled => ?_⟩
  rw [dispatchDepartment_category category, own enabled]

/-- The department of the route in force, when an override names the
category's own. -/
theorem resolveRoute_department {key jurisdictionId : String}
    {route : JurisdictionRoute}
    (own : ∀ row, overrideInForce routes (some key) jurisdictionId now =
      some row → row.departmentKey =
        (categoryOrDefault (some key)).departmentKey)
    (resolved : resolveRoute routes (some key) jurisdictionId now =
      some route) :
    route.departmentKey = (categoryOrDefault (some key)).departmentKey := by
  rw [resolveRoute_eq] at resolved
  split at resolved
  case h_1 row found =>
    cases resolved
    exact own row found
  case h_2 => exact routeForCategory_department resolved

theorem Reextract.category_default (row : Grievance)
    (extraction : StructuredExtraction) :
    categoryOrDefault (some (Reextract.category row extraction).key) =
      Reextract.category row extraction := by
  unfold Reextract.category
  split <;> exact categoryOrDefault_key _

theorem RunPipeline.departments {work : PipelineWork} {text : String}
    (texts : originalText known.issueMessages = some text)
    (keeps : (Task.loaded .runPipeline id known).keepsDepartment routes
      ⟨now, .work work⟩ = true) :
    Departments
      (withReceipt settings id (RunPipeline.nextStatus known work)
        (RunPipeline.fields work
          (resolveRoute routes (some work.extraction.categoryId)
            (jurisdictionOf known) now) text) known) := by
  have own : ∀ row, overrideInForce routes
      (some work.extraction.categoryId) (jurisdictionOf known) now =
        some row → row.departmentKey =
          (categoryOrDefault (some work.extraction.categoryId)).departmentKey := by
    intro row found
    simpa [Task.keepsDepartment, texts, found] using keeps
  have elim : (resolveRoute routes (some work.extraction.categoryId)
      (jurisdictionOf known) now).elim
        (categoryOrDefault (some work.extraction.categoryId)).departmentKey
        (·.departmentKey) =
      (categoryOrDefault
        (some work.extraction.categoryId)).departmentKey := by
    cases resolved : resolveRoute routes (some work.extraction.categoryId)
        (jurisdictionOf known) now with
    | none => rfl
    | some route => exact resolveRoute_department own resolved
  refine .of_snapshot (withReceipt_column settings (fun _ => rfl) _ _ known)
    ((withReceipt_column settings (fun _ => rfl) _ _ known).trans
      (congrArg some elim.symm))
    (withReceipt_column settings (fun _ => rfl) _ _ known) fun _ => elim

theorem Reextract.departments {extraction : StructuredExtraction}
    (texts : Python.truthy known.issueText = true)
    (whole : extraction.degraded = false)
    (keeps : (Task.loaded .reextract id known).keepsDepartment routes
      ⟨now, .extraction extraction⟩ = true) :
    Departments
      (Reextract.fields extraction
        (resolveRoute routes (some (Reextract.category known extraction).key)
          (jurisdictionOf known) now) known) := by
  refine .of_snapshot rfl rfl rfl ?_
  intro enabled
  rw [Reextract.category_default]
  cases resolved : resolveRoute routes
      (some (Reextract.category known extraction).key)
      (jurisdictionOf known) now with
  | none => rfl
  | some route =>
      show route.departmentKey = _
      have live : route.dispatchEnabled = true := by
        rw [resolved] at enabled
        exact enabled
      rw [resolveRoute_eq] at resolved
      split at resolved
      case h_1 row found =>
        cases resolved
        have kept : row.dispatchEnabled = false ∨ row.departmentKey =
            (Reextract.category known extraction).departmentKey := by
          simpa [Task.keepsDepartment, texts, whole, found] using keeps
        exact kept.resolve_left (ne_false_of_eq_true live)
      case h_2 =>
        rw [routeForCategory_disabled resolved] at live
        cases live

theorem UpdateReview.departments (body : ReviewPatch) (categoryKey : String)
    (assetScope : AssetScope) (row : Grievance) :
    Departments (UpdateReview.fields body categoryKey assetScope row) :=
  .of_snapshot rfl (congrArg some (routeForCategory_elim categoryKey).symm)
    rfl fun _ => routeForCategory_elim categoryKey

/-- An official may name any department, since the snapshot never
dispatches. -/
theorem OfficialAction.departments (body : OfficialAction)
    (categoryKey : String) (row : Grievance) :
    Departments (OfficialAction.fields body categoryKey row) := by
  refine .of_snapshot rfl rfl rfl ?_
  intro enabled
  rw [routingSnapshot_disabled] at enabled
  cases enabled

theorem Operation.Writes.departments
    (writes : operation.Writes settings id known answer fields next)
    (commits : operation.Commits settings routes id known now answer fields)
    (keeps : (Task.loaded operation id known).keepsDepartment routes
      ⟨now, answer⟩ = true)
    (before : Departments known) : Departments (fields known) := by
  cases writes with
  | runPipeline work =>
      obtain ⟨text, texts, same⟩ := commits
      rw [same]
      exact RunPipeline.departments texts keeps
  | reextract extraction =>
      obtain ⟨texts, whole, same⟩ := commits
      rw [same]
      exact Reextract.departments texts whole keeps
  | updateReview => exact UpdateReview.departments _ _ _ known
  | officialAction => exact OfficialAction.departments _ _ known
  | recheckImage proceed check verdict =>
      exact before.of_columns
        (withReceipt_column settings (fun _ => rfl) _ _ known)
        (withReceipt_column settings (fun _ => rfl) _ _ known)
        (withReceipt_column settings (fun _ => rfl) _ _ known)
  | _ => exact before.of_columns rfl rfl rfl

/-- What finalizes and dispatches writes none of the three columns. -/
theorem set_departments {session : RowSession} {time : Time}
    {change : Grievance → Grievance}
    (same : (change session.known).routingSnapshot =
        session.known.routingSnapshot ∧
      (change session.known).departmentKey = session.known.departmentKey ∧
      (change session.known).category = session.known.category)
    (before : Departments session.current) :
    Departments (session.set time change).current := by
  obtain ⟨snapshot, departmentKey, category⟩ := same
  exact before.of_columns
    (RowSession.routingSnapshot_isColumn.set_same session time snapshot)
    (RowSession.departmentKey_isColumn.set_same session time departmentKey)
    (RowSession.category_isColumn.set_same session time category)

theorem registeredThen_departments {session : RowSession}
    {confirmedAt time : Time} {change : Grievance → Grievance}
    (same : ∀ row, (change row).routingSnapshot = row.routingSnapshot ∧
      (change row).departmentKey = row.departmentKey ∧
      (change row).category = row.category)
    (before : Departments session.current) :
    Departments
      (registeredThen session confirmedAt time change).current :=
  set_departments (same _) (set_departments ⟨rfl, rfl, rfl⟩ before)

theorem Task.Touches.departments {task : Task} {current : Grievance}
    {writes : RowSession → RowSession}
    (touches : task.Touches settings routes now answer id known writes)
    (stored : ∀ operation, task = .loaded operation id known →
      current = known)
    (keeps : task.keepsDepartment routes ⟨now, answer⟩ = true)
    (before : Departments current) :
    Departments
      (writes { known := known, current := current : RowSession }).current := by
  cases touches with
  | @wrote operation _ _ fields _ writes commits =>
      have same := stored operation rfl
      subst same
      have after := writes.departments commits keeps before
      show Departments (RowSession.set
        { known := current, current := current } now fields).current
      rcases set_over current now fields with same | same
      · rw [same]
        exact before
      · rw [same]
        exact after.of_columns rfl rfl rfl
  | confirmed confirms =>
      cases confirms <;> exact set_departments ⟨rfl, rfl, rfl⟩ before
  | openedWindow =>
      exact registeredThen_departments (fun _ => ⟨rfl, rfl, rfl⟩) before
  | merged =>
      exact registeredThen_departments (fun _ => ⟨rfl, rfl, rfl⟩) before
  | reported => exact set_departments ⟨rfl, rfl, rfl⟩ before
  | submitted => exact set_departments ⟨rfl, rfl, rfl⟩ before
  | retried => exact set_departments ⟨rfl, rfl, rfl⟩ before

end

/-! ## Runs -/

/-- Every call went to the department of the snapshot that was read. -/
def CalledDepartment (read _stored : Grievance) : Prop :=
  ∀ snapshot, read.routingSnapshot = some snapshot →
    dispatchDepartment read = some snapshot.departmentKey

def departed : TaskInvariant :=
  { shared := fun store =>
      (∀ id, store.Every id Departments) ∧ store.Calls CalledDepartment
    own := fun _ task => ∀ id known, task.sending = some (id, known) →
      Departments known
    waiting := fun _ _ => True
    pair := fun _ _ => True }

theorem departed_enters {world : World Store Job} {pid : Nat}
    {store : Store} {task : Task}
    (own : ∀ id known, task.sending = some (id, known) →
      Departments known) :
    departed.Enters world pid store task :=
  ⟨own, fun _ _ _ _ => ⟨trivial, trivial⟩⟩

/-- What passes the guard of `dispatch_grievance` is sent where the snapshot
says. -/
theorem Departments.called {read : Grievance} (departments : Departments read)
    (enabled : dispatchDisabled read = false) (stored : Grievance) :
    CalledDepartment read stored := by
  intro snapshot found
  refine (departments snapshot found).2 ?_
  simpa [dispatchDisabled, found] using enabled

section

variable {settings : Settings} {geometry : Geometry}
  {world : World Store Job}

theorem departed_holds
    (reachable : (program settings geometry
      Departments).system.ReachableWhen KeepsDepartment world) :
    departed.Holds world := by
  refine TaskInvariant.holds ?initially ?sameRows ?started ?selected ?dispatches
    ?moved reachable
  case initially =>
    rintro store ⟨_, journal, admits⟩
    refine ⟨fun id row => admits id row, ?_⟩
    intro id read stored member
    rw [journal] at member
    cases member
  case sameRows =>
    intro store after same
    refine ⟨?_, fun _ own => own, fun _ _ => trivial⟩
    rintro ⟨rows, calls⟩
    constructor
    · intro id row found
      rw [same.1] at found
      exact rows id row found
    · intro id read stored member
      rw [same.2] at member
      exact calls id read stored member
  case started =>
    intro world pid request task _ _ _ doing
    apply departed_enters
    intro id known sends
    cases request <;> cases doing <;> cases sends
  case selected => exact fun _ _ _ _ _ _ _ _ _ _ => trivial
  case dispatches =>
    intro world pid store id _
    apply departed_enters
    intro other known sends
    cases sends
  case moved =>
    intro world pid task choice after progress reached holding permitted runs
      _ moves
    have keeps := permitted.keeps pid choice task rfl runs
    refine ⟨⟨?_, ?_⟩, fun _ _ _ _ own => own, fun _ _ => trivial, ?_⟩
    · intro id
      refine moves.every ?_ ?_ (holding.shared.1 id)
      · intro humanId contactId userId context now snapshot found
        cases found
      · intro known writes current touches here before
        refine touches.departments ?_ keeps before
        rintro operation rfl
        have stored :=
          Serial.stored reached (fun _ _ allowed => allowed.serial) runs
        have found : world.shared.grievances.find id = some current :=
          here.resolve_left (by simp [Task.merges])
        exact Option.some.inj (found.symm.trans stored)
    · apply moves.calls holding.shared.2
      rintro id known stored rfl _
      have enabled := (guarded_holds reached).own runs id known rfl
      exact (holding.own runs id known rfl).called enabled stored
    · rintro next rfl
      apply departed_enters
      intro id knows sends
      rcases moves.sending sends with
        ⟨_, rfl, found⟩ | ⟨known, _, _, sending, rfl⟩
      · exact holding.shared.1 id knows found
      · exact (holding.own runs id known sending).of_columns rfl rfl rfl

/-- In every state of a serial run in which no override in force brings in
another department, each grievance's column and the dispatcher agree with its
snapshot, and so did every call of the dispatcher. -/
theorem department_consistent
    (reachable : (program settings geometry
      Departments).system.ReachableWhen KeepsDepartment world) :
    (∀ id, world.shared.Every id Departments) ∧
      world.shared.Calls CalledDepartment :=
  (departed_holds reachable).shared

end

/-- A reviewed row that turns the dispatch of streetlights on. -/
def streetlightRoute (departmentKey : String) : JurisdictionRouteRow :=
  { jurisdictionId := demoJurisdictionId, taxonomyVersion := taxonomyVersion
    categoryId := "streetlight_out", departmentKey := departmentKey
    owningAgency := "Ward office", slaHours := some 72
    dispatchEnabled := true, effectiveFrom := none, effectiveTo := none }

/-- A draft where streetlights are dispatched to the department. -/
def overriddenStore (departmentKey : String) : Store :=
  { Store.single "g" draftedGrievance with
    routes := [streetlightRoute departmentKey] }

theorem overriddenStore_initial (departmentKey : String) :
    (program defaultSettings flatMap Departments).initial
      (overriddenStore departmentKey) := by
  have single : (program defaultSettings flatMap Departments).initial
      (.single "g" draftedGrievance) := Store.single_initial nofun
  exact single

/-- The pipeline, the confirmation and the dispatch of the draft. -/
def dispatchScript : List (Request × List Choice) :=
  [(.runPipeline "g",
    [⟨1, .plain⟩,
     ⟨2, .work { clips := [], displayAddress := none, photoRead := false
                 extraction := streetlightExtraction }⟩]),
   (.tapConfirm "g",
    [⟨3, .plain⟩, ⟨3, .plain⟩, ⟨3, .plain⟩, ⟨3, .plain⟩, ⟨3, .plain⟩,
     ⟨3, .plain⟩, ⟨4, .accepted "ref"⟩, ⟨4, .plain⟩])]

/-- The department of the row, or of the dispatcher, and of the snapshot. -/
def Store.departmentsOf (store : Store) (id : String) :
    Option (Option String × Option String) ×
      List (Option String × Option String) :=
  ((store.grievances.find id).map fun row =>
     (row.departmentKey, row.routingSnapshot.map (·.departmentKey)),
   store.journal.filterMap fun
     | .called _ read _ =>
         some (dispatchDepartment read,
           read.routingSnapshot.map (·.departmentKey))
     | _ => none)

theorem keepsDepartment_of_alone {world : World Store Job} {job : Job}
    {choice : Choice} (only : Process.OnlyRunning world 0 (some job))
    (test : job.task.all (·.keepsDepartment world.shared.routes choice) =
      true) : KeepsDepartment world (.resume 0 choice) := by
  constructor
  · apply Serial.of_alone only
    cases job.task <;> rfl
  · rintro pid _ task ⟨⟩ runs
    rw [task_of_alone only runs] at test
    exact test

theorem department_consistent_dispatched :
    ∃ world, (program defaultSettings flatMap
        Departments).system.ReachableWhen KeepsDepartment world ∧
      ((∀ id, world.shared.Every id Departments) ∧
        world.shared.Calls CalledDepartment) ∧
      world.shared.departmentsOf "g" =
        (some (some "electrical", some "electrical"),
          [(some "electrical", some "electrical")]) := by
  have ran : ((program defaultSettings flatMap Departments).serial
      (fun store job choice =>
        job.task.all (·.keepsDepartment store.routes choice))
      (overriddenStore "electrical") dispatchScript).map
      (·.departmentsOf "g") =
      some (some (some "electrical", some "electrical"),
        [(some "electrical", some "electrical")]) := by
    decide +kernel
  have spawns : ∀ (world : World Store Job) (request : Request),
      world.Quiet → request ∈ dispatchScript.map Prod.fst →
      KeepsDepartment world (.spawn 0 request) :=
    fun _ _ quiet _ => ⟨Serial.of_quiet quiet, fun _ _ _ same => by
      cases same⟩
  obtain ⟨world, reached, _, observed⟩ :=
    Process.Program.reachable_serial (overriddenStore_initial "electrical")
      spawns (fun _ _ _ => keepsDepartment_of_alone) ran
  exact ⟨world, reached, department_consistent reached, observed⟩

/-- With an override that names another department, the column and the
dispatcher follow the category and not the route. -/
theorem department_overridden :
    ∃ world, (program defaultSettings flatMap
        Departments).system.ReachableWhen (Serial fun _ => true) world ∧
      ¬ world.shared.Every "g" Departments ∧
      ¬ world.shared.Calls CalledDepartment := by
  have ran : ((program defaultSettings flatMap Departments).serial
      (fun _ _ _ => true) (overriddenStore "public_works")
      dispatchScript).map (·.departmentsOf "g") =
      some (some (some "electrical", some "public_works"),
        [(some "electrical", some "public_works")]) := by
    decide +kernel
  have permitted : ∀ (world : World Store Job) (job : Job) (choice : Choice),
      Process.OnlyRunning world 0 (some job) → true = true →
      Serial (fun _ => true) world (.resume 0 choice) := by
    intro world job choice only _
    apply Serial.of_alone only
    cases job.task <;> rfl
  obtain ⟨world, reached, _, observed⟩ :=
    Process.Program.reachable_serial (overriddenStore_initial "public_works")
      (fun _ _ quiet _ => Serial.of_quiet quiet) permitted ran
  obtain ⟨rows, calls⟩ := Prod.mk.inj observed
  refine ⟨world, reached, ?_, ?_⟩
  · intro departments
    obtain ⟨row, found, same⟩ := Option.map_eq_some_iff.mp rows
    obtain ⟨column, keys⟩ := Prod.mk.inj same
    obtain ⟨snapshot, stored, key⟩ := Option.map_eq_some_iff.mp keys
    have agrees := (departments row found snapshot stored).1
    rw [column, key] at agrees
    revert agrees
    decide
  · intro called
    have member : (some "electrical", some "public_works") ∈
        [(some "electrical", some "public_works")] := .head _
    rw [← calls] at member
    obtain ⟨entry, recorded, same⟩ := List.mem_filterMap.mp member
    cases entry with
    | called id read stored =>
        obtain ⟨sent, keys⟩ := Prod.mk.inj (Option.some.inj same)
        obtain ⟨snapshot, found, key⟩ := Option.map_eq_some_iff.mp keys
        have agrees := called id read stored recorded snapshot found
        rw [sent, key] at agrees
        revert agrees
        decide
    | _ => cases same

end JanSetu.Pipeline
