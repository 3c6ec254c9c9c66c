import JanSetu.Pipeline.Invariant

/-!
# The receipts on disk

`_build_and_store_pdf` writes a file before its transaction commits, and
`dispatch_grievance` attaches the file whose path it has loaded.  Here the
steps of the pipeline are taken over the tables and the files: a builder stores
its receipt in one step and commits, or fails, in another.
-/

namespace JanSetu.Pipeline

open Process (Label Program)

/-- What the receipt says of the row it is built from. -/
structure PdfSummary where
  humanId : String
  categoryLabel : String
  departmentName : Option String
  priority : Priority
  term : Term
  address : Option String
  description : String
  flags : List String
deriving DecidableEq

/-- The summary of `_build_and_store_pdf`. -/
def pdfSummary (row : Grievance) : PdfSummary :=
  { humanId := row.humanId
    categoryLabel := (categoryOrDefault row.category).label
    departmentName :=
      departmentName (row.category.filter (· ≠ "") |>.getD "other")
    priority := row.priority.getD .normal
    term := row.term.getD .shortTerm
    address := row.locationAddress
    description := row.issueText.getD ""
    flags := row.flags }

def receiptPath (settings : Settings) (id : String) : String :=
  settings.uploadDir ++ "/" ++ id ++ "/summary.pdf"

/-- The columns of a grievance that its receipt is about. -/
structure Ticket where
  category : Option String
  departmentKey : Option String
  priority : Option Priority
  address : Option String
  description : Option String
deriving DecidableEq

def Ticket.of (row : Grievance) : Ticket :=
  { category := row.category
    departmentKey := row.departmentKey
    priority := row.priority
    address := row.locationAddress
    description := row.issueText }

/-- The department a grievance is assigned to. -/
def Ticket.departmentName (ticket : Ticket) : Option String :=
  ticket.departmentKey.bind fun key =>
    (departments.find? (·.key = key)).map (·.name)

/-- The receipt says of category, department, priority, address and description
what the grievance does. -/
structure PdfSummary.Matches (summary : PdfSummary) (ticket : Ticket) :
    Prop where
  category :
    summary.categoryLabel = (categoryOrDefault ticket.category).label
  department : ticket.departmentName = summary.departmentName
  priority : summary.priority = ticket.priority.getD .normal
  address : summary.address = ticket.address
  description : summary.description = ticket.description.getD ""

instance (summary : PdfSummary) (ticket : Ticket) :
    Decidable (summary.Matches ticket) :=
  decidable_of_iff
    (summary.categoryLabel = (categoryOrDefault ticket.category).label ∧
      ticket.departmentName = summary.departmentName ∧
      summary.priority = ticket.priority.getD .normal ∧
      summary.address = ticket.address ∧
      summary.description = ticket.description.getD "")
    ⟨fun same => ⟨same.1, same.2.1, same.2.2.1, same.2.2.2.1, same.2.2.2.2⟩,
      fun same => ⟨same.category, same.department, same.priority,
        same.address, same.description⟩⟩

/-! ## Builders -/

/-- A builder at work: the row it loaded, and the row as its session holds it
when the receipt is built. -/
structure Building where
  id : String
  known : Grievance
  row : Grievance

/-- The receipt that the transaction of the next step builds. -/
def Task.building (routes : List JurisdictionRouteRow) (choice : Choice)
    (task : Task) : Option Building :=
  match task, choice.answer with
  | .loaded .runPipeline id known, .work work =>
      match originalText known.issueMessages with
      | none => none
      | some text =>
          if RunPipeline.nextStatus known work = .awaitingConfirmation then
            let route :=
              resolveRoute routes (some work.extraction.categoryId)
                (jurisdictionOf known) choice.now
            some
              { id := id, known := known
                row := RunPipeline.fields work route text known }
          else none
  | .loaded .acceptPhotoMismatch id known, .plain =>
      if known.status = .photoMismatch then
        some
          { id := id, known := known, row := acceptPhotoMismatchFields known }
      else none
  | .loaded (.recheckImage proceed) id known, .photo check =>
      let verdict := RecheckImage.imageMatchStatus known proceed check
      if RecheckImage.nextStatus verdict = .awaitingConfirmation then
        some
          { id := id, known := known
            row := RecheckImage.fields verdict known }
      else none
  | _, _ => none

/-- The grievance whose ticket a task is about to revise: a pipeline, a second
extraction, a review or an official action. -/
def Task.revising : Task → Option String
  | .loaded .runPipeline id _ => some id
  | .loaded .reextract id _ => some id
  | .loaded (.updateReview _ _) id _ => some id
  | .loaded (.officialAction _ _) id _ => some id
  | _ => none

def Store.ticketOf (store : Store) (id : String) : Option Ticket :=
  (store.grievances.find id).map Ticket.of

/-! ## Steps over tables and files -/

/-- A call of the dispatcher: the receipt it is given, and the grievance in the
table at that moment. -/
structure DispatchCall where
  id : String
  stored : Grievance
  given : Option PdfSummary

/-- The tables and the upload directory.  `revised` and `calls` are kept for the
statements about runs and read by no step: the grievances whose ticket was
revised after their receipt, and what the dispatcher was called with. -/
structure Archive where
  store : Store
  files : Table String PdfSummary
  revised : List String
  calls : List DispatchCall

/-- A process, with the step it has already stored the receipt of. -/
structure Clerk where
  job : Job
  built : Option Choice

inductive Deed where
  | build (choice : Choice)
  | act (choice : Choice)
deriving DecidableEq

namespace Archive

/-- `save_upload` of a receipt.  The grievance counts as revised when the new
receipt does not say what the table does. -/
def keep (settings : Settings) (archive : Archive) (building : Building) :
    Archive :=
  let summary := pdfSummary building.row
  { archive with
    files := archive.files.put (receiptPath settings building.id) summary
    revised :=
      if (archive.store.ticketOf building.id).all (summary.Matches ·) then
        archive.revised
      else building.id :: archive.revised }

def build (settings : Settings) (archive : Archive) (clerk : Clerk)
    (choice : Choice) : Option (Archive × Option Clerk) :=
  match clerk.built,
    clerk.job.task.bind (·.building archive.store.routes choice) with
  | none, some building =>
      some
        (archive.keep settings building,
         some { clerk with built := some choice })
  | _, _ => none

/-- `pdf_bytes` of `dispatch_grievance`, unless the file cannot be read. -/
def attachment (archive : Archive) (known : Grievance) :
    Option (Option PdfSummary) :=
  if Python.truthy known.pdfPath then
    (archive.files.find (known.pdfPath.getD "")).map some
  else some none

/-- The calls of the dispatcher in a step. -/
def called (archive : Archive) (task : Option Task) (choice : Choice) :
    Option (List DispatchCall) :=
  match task, choice.answer with
  | some (.dispatching id known), .plain =>
      match archive.attachment known, archive.store.grievances.find id with
      | some given, some stored =>
          some [{ id := id, stored := stored, given := given }]
      | _, _ => none
  | _, _ => some []

/-- The grievances that are revised after a step which leads to this store. -/
def revisedIn (archive : Archive) (task : Option Task)
    (building : Option Building) (after : Store) : List String :=
  match building, task.bind (·.revising) with
  | some building, _ => archive.revised.filter (· ≠ building.id)
  | none, none => archive.revised
  | none, some id =>
      if archive.store.ticketOf id = after.ticketOf id then archive.revised
      else id :: archive.revised

/-- A step of the pipeline.  One that builds a receipt has stored it before. -/
def act (settings : Settings) (geometry : Geometry) (archive : Archive)
    (clerk : Clerk) (choice : Choice) : Option (Archive × Option Clerk) :=
  let task := clerk.job.task
  let building := task.bind (·.building archive.store.routes choice)
  if choice.answer ≠ .raises ∧ clerk.built ≠ building.map fun _ => choice then
    none
  else
    match archive.called task choice,
      clerk.job.resume settings geometry archive.store choice with
    | some calls, some (after, next) =>
        some
          ({ store := after, files := archive.files
             revised := archive.revisedIn task building after
             calls := calls ++ archive.calls },
           next.map fun job => { job := job, built := none })
    | _, _ => none

/-- Every receipt on record is on file and says what its grievance does. -/
def Filed (settings : Settings) (archive : Archive) : Prop :=
  ∀ id row path, archive.store.grievances.find id = some row →
    row.pdfPath = some path →
    path = receiptPath settings id ∧
      ∃ summary, archive.files.find path = some summary ∧
        summary.Matches (.of row)

end Archive

/-- The pipeline over tables and files. -/
def filing (settings : Settings) (geometry : Geometry)
    (admissible : Grievance → Prop) :
    Program Archive Clerk Request Deed :=
  { initial := fun archive =>
      (program settings geometry admissible).initial archive.store ∧
        archive.Filed settings ∧ archive.revised = [] ∧ archive.calls = []
    start := fun request => { job := Job.start request, built := none }
    resume := fun archive clerk deed =>
      match deed with
      | .build choice => archive.build settings clerk choice
      | .act choice => archive.act settings geometry clerk choice
    release := fun archive clerk =>
      { archive with store := clerk.job.release archive.store } }

/-! ## The pipeline without its files -/

def withoutFiles (world : World Archive Clerk) : World Store Job :=
  { shared := world.shared.store
    processes := fun pid => (world.processes pid).map (·.job) }

section

variable {settings : Settings} {geometry : Geometry}
  {admissible : Grievance → Prop} {archive after : Archive} {clerk : Clerk}
  {choice : Choice} {next : Option Clerk}

theorem withoutFiles_put (world : World Archive Clerk) (archive : Archive)
    (pid : Nat) (clerk : Option Clerk) :
    withoutFiles (world.put archive pid clerk) =
      (withoutFiles world).put archive.store pid (clerk.map (·.job)) := by
  unfold withoutFiles World.put
  congr 1
  funext other
  by_cases same : other = pid
  · simp [same]
  · simp [same]

/-- A receipt is stored for a step that has not been taken. -/
theorem Archive.build_cases
    (built : archive.build settings clerk choice = some (after, next)) :
    ∃ task building, clerk.job.task = some task ∧
      task.building archive.store.routes choice = some building ∧
      after = archive.keep settings building ∧
      next = some { clerk with built := some choice } := by
  unfold Archive.build at built
  split at built
  case h_1 building _ found =>
    cases built
    obtain ⟨task, doing, builds⟩ := Option.bind_eq_some_iff.mp found
    exact ⟨task, building, doing, builds, rfl, rfl⟩
  case h_2 => cases built

/-- A step over the files is one of the pipeline. -/
theorem Archive.act_cases
    (acted : archive.act settings geometry clerk choice =
      some (after, next)) :
    ∃ store job calls,
      clerk.job.resume settings geometry archive.store choice =
        some (store, job) ∧
      archive.called clerk.job.task choice = some calls ∧
      after =
        { store := store, files := archive.files
          revised := archive.revisedIn clerk.job.task
            (clerk.job.task.bind (·.building archive.store.routes choice))
            store
          calls := calls ++ archive.calls } ∧
      next = job.map fun job => { job := job, built := none } := by
  unfold Archive.act at acted
  dsimp only at acted
  split at acted
  case isTrue => cases acted
  case isFalse =>
    split at acted
    case h_1 calls store job called resumed =>
      cases acted
      exact ⟨store, job, calls, resumed, called, rfl, rfl⟩
    case h_2 => cases acted

/-- The step of the pipeline in a step over the files: a receipt that is only
stored is none. -/
def unfiled : Label Request Deed → Option (Label Request Choice)
  | .spawn pid request => some (.spawn pid request)
  | .resume _ (.build _) => none
  | .resume pid (.act choice) => some (.resume pid choice)
  | .crash pid => some (.crash pid)

theorem filing_step {state next : World Archive Clerk}
    {label : Label Request Deed}
    (taken : (filing settings geometry admissible).system.step state label =
      some next) :
    unfiled label = none ∧ withoutFiles next = withoutFiles state ∨
      ∃ unfiledLabel, unfiled label = some unfiledLabel ∧
        (program settings geometry admissible).system.step
          (withoutFiles state) unfiledLabel = some (withoutFiles next) := by
  have stepped : (filing settings geometry admissible).step state label =
      some next := taken
  rcases Program.step_cases stepped with
    ⟨pid, request, rfl, free, rfl⟩ |
    ⟨pid, deed, clerk, archive, after, rfl, running, resumed, rfl⟩ |
    ⟨pid, clerk, rfl, running, rfl⟩
  · refine .inr ⟨.spawn pid request, rfl, ?_⟩
    have idle : (withoutFiles state).processes pid = none := by
      simp [withoutFiles, free]
    simp only [Program.system, Program.step, idle, withoutFiles_put]
    rfl
  · have job : (withoutFiles state).processes pid = some clerk.job := by
      unfold World.Running at running
      simp [withoutFiles, running]
    cases deed with
    | build choice =>
        obtain ⟨task, building, _, _, rfl, rfl⟩ := Archive.build_cases resumed
        -- Nothing but a file is written.
        refine .inl ⟨rfl, ?_⟩
        rw [withoutFiles_put]
        unfold World.put
        have put : Function.update (withoutFiles state).processes pid
            (some clerk.job) = (withoutFiles state).processes := by
          rw [← job, Function.update_eq_self]
        exact congrArg (World.mk _) put
    | act choice =>
        obtain ⟨store, further, calls, ran, _, rfl, rfl⟩ :=
          Archive.act_cases resumed
        refine .inr ⟨.resume pid choice, rfl, ?_⟩
        have ran' : (program settings geometry admissible).resume
            (withoutFiles state).shared clerk.job choice =
            some (store, further) := ran
        simp only [Program.system, Program.step, job, ran', withoutFiles_put]
        cases further <;> rfl
  · refine .inr ⟨.crash pid, rfl, ?_⟩
    have job : (withoutFiles state).processes pid = some clerk.job := by
      unfold World.Running at running
      simp [withoutFiles, running]
    simp only [Program.system, Program.step, job, withoutFiles_put]
    rfl

/-- What is reached with the files is reached without them. -/
theorem filing_reachable {world : World Archive Clerk}
    {allowed : World Archive Clerk → Label Request Deed → Prop}
    (reachable : (filing settings geometry admissible).system.ReachableWhen
      allowed world) :
    (program settings geometry admissible).system.Reachable
      (withoutFiles world) := by
  have reaches : ∀ world : World Archive Clerk,
      (filing settings geometry admissible).system.initial world →
      (program settings geometry admissible).system.Reachable
        (withoutFiles world) := by
    intro start initial
    obtain ⟨archive, initially, rfl⟩ := initial
    exact .start ⟨archive.store, initially.1, rfl⟩
  have preserved : ∀ (state : World Archive Clerk) label next,
      (filing settings geometry admissible).system.ReachableWhen allowed
        state →
      (program settings geometry admissible).system.Reachable
        (withoutFiles state) →
      allowed state label →
      (filing settings geometry admissible).system.step state label =
        some next →
      (program settings geometry admissible).system.Reachable
        (withoutFiles next) := by
    intro state label next _ before _ taken
    rcases filing_step taken with ⟨_, same⟩ | ⟨unfiledLabel, _, step⟩
    · rw [same]
      exact before
    · exact before.next trivial step
  exact reachable.invariant reaches preserved

end

end JanSetu.Pipeline
