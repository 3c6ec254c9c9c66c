import JanSetu.Pipeline.CurrentReceipts
import JanSetu.Web.Atomicity
import JanSetu.Web.Downloads

/-!
# Whose evidence is sent

The paths that a row holds are in the directory of its own complaint, whatever
is filed, replaced or rebuilt in the runs of `Drafting`, and no complaint
changes its owner.  So whatever the endpoints of `Downloads` send is a file of
the complaint that was asked for, and no file is ever sent to two citizens.
-/

namespace JanSetu.Web

open Pipeline
open Process (Label Program)

/-! ## Rows in place -/

def MessagesBelow (settings : Pipeline.Settings) (id : String)
    (messages : List IssueMessage) : Prop :=
  ∀ message ∈ messages, ∀ path, message.localPath = some path →
    Below settings id path

def PathBelow (settings : Pipeline.Settings) (id : String)
    (stored : Option String) : Prop :=
  ∀ path, stored = some path → Below settings id path

/-- The paths that a row holds are in its own directory. -/
structure InPlace (settings : Pipeline.Settings) (id : String)
    (row : Grievance) : Prop where
  named : FileName id
  messages : MessagesBelow settings id row.issueMessages
  photo : PathBelow settings id row.photoPath
  pdf : PathBelow settings id row.pdfPath

def Placed (settings : Pipeline.Settings) (store : Store) : Prop :=
  ∀ id, store.Every id (InPlace settings id)

/-- The paths that a flush sets are in place. -/
structure SetsBelow (settings : Pipeline.Settings) (id : String)
    (known : Grievance) (change : Grievance → Grievance) : Prop where
  messages : (change known).issueMessages = known.issueMessages ∨
    MessagesBelow settings id (change known).issueMessages
  photo : (change known).photoPath = known.photoPath ∨
    PathBelow settings id (change known).photoPath
  pdf : (change known).pdfPath = known.pdfPath ∨
    PathBelow settings id (change known).pdfPath

/-! ## Requests as the API makes them -/

/-- A draft is filed with a form that was accepted, and a photo is replaced by
one that was saved for the complaint. -/
def Ask.Made (settings : Pipeline.Settings) : Ask → Prop
  | .createDraft request =>
      ∃ limits platform form citizen admitted,
        ComplaintForm.accept limits platform form citizen = .ok admitted ∧
          admitted.request = request
  | .call (.request (.replacePhoto id _ path)) _ => Below settings id path
  | _ => True

/-- An id and a name that is given to a file can be names of a directory and
a file. -/
def Choice.Named (choice : Choice) : Prop :=
  (∀ id, choice.answer = .pipeline (.inserted id) → FileName id) ∧
    ∀ name, choice.answer = .saved name → FileName name

def Made (settings : Pipeline.Settings) (_ : World Backend Actor) :
    Label Ask Choice → Prop
  | .spawn _ ask => ask.Made settings
  | .resume _ choice => choice.Named
  | .crash _ => True

/-- Runs start from rows in place. -/
def filing (settings : Pipeline.Settings) (geometry : Geometry) :
    Program Backend Actor Ask Choice :=
  { drafting settings geometry fun _ => True with
    initial := fun backend => Placed settings backend.store }

section

variable {settings : Pipeline.Settings} {id path : String}
  {row : Grievance} {session : RowSession}
  {change : Grievance → Grievance}

theorem InPlace.below (own : InPlace settings id row)
    (stored : Stores row path) : Below settings id path := by
  cases stored with
  | voiceNote member located => exact own.messages _ member path located
  | photo held => exact own.photo path held
  | pdf held => exact own.pdf path held

theorem below_receipt (settings : Pipeline.Settings) (id : String) :
    Below settings id (receiptPath settings id) := by
  refine ⟨"summary.pdf", ⟨by decide, by decide, by decide, by decide⟩, ?_⟩
  simp [receiptPath, uploadPath, String.append_assoc]

/-- What a column had, and every value that is set has, it has after the
flush. -/
theorem column_set {Value : Type} [DecidableEq Value]
    {column : Grievance → Value} {property : Value → Prop}
    (isColumn : RowSession.IsColumn column) (now : Time)
    (own : property (column session.current))
    (sets : column (change session.known) = column session.known ∨
      property (column (change session.known))) :
    property (column (session.set now change).current) := by
  rcases sets with same | sets
  · rw [isColumn.set_same session now same]
    exact own
  · have cases : column (session.set now change).current =
          column session.current ∨
        column (session.set now change).current =
          column (change session.known) := isColumn.set_cases session now
    rcases cases with old | new
    · rw [old]
      exact own
    · rw [new]
      exact sets

theorem InPlace.set (own : InPlace settings id session.current)
    (now : Time) (sets : SetsBelow settings id session.known change) :
    InPlace settings id (session.set now change).current :=
  { named := own.named
    messages := column_set RowSession.issueMessages_isColumn now own.messages
      sets.messages
    photo := column_set RowSession.photoPath_isColumn now own.photo sets.photo
    pdf := column_set RowSession.pdfPath_isColumn now own.pdf sets.pdf }

theorem SetsBelow.of_same {known : Grievance}
    (messages : (change known).issueMessages = known.issueMessages)
    (photo : (change known).photoPath = known.photoPath)
    (pdf : (change known).pdfPath = known.pdfPath) :
    SetsBelow settings id known change :=
  ⟨.inl messages, .inl photo, .inl pdf⟩

end

/-! ## What a task leaves in place -/

/-- No draft is filed, and a photo is replaced by one of the complaint. -/
def Operation.Files (settings : Pipeline.Settings) (id : String) :
    Operation → Prop
  | .storeUploads _ => False
  | .replacePhoto _ path => Below settings id path
  | _ => True

def Task.Files (settings : Pipeline.Settings) : Task → Prop
  | .createDraft _ => False
  | .opened operation id => Operation.Files settings id operation
  | .loaded operation id _ => Operation.Files settings id operation
  | _ => True

/-- Rows stay in place, and complaints with their owners. -/
structure Keeps (settings : Pipeline.Settings) (store after : Store) :
    Prop where
  placed : Placed settings store → Placed settings after
  owners : ∀ id user, store.Has id (·.userId = user) →
    after.Has id (·.userId = user)

section

variable {settings : Pipeline.Settings} {geometry : Geometry}
  {store after : Store} {task next : Task} {id : String} {now : Time}
  {answer : Pipeline.Answer} {choice : Pipeline.Choice}
  {progress : Progress} {known current row : Grievance}

theorem Keeps.of_same (same : after.grievances = store.grievances) :
    Keeps settings store after := by
  constructor
  · intro placed id row found
    exact placed id row (same ▸ found)
  · intro id user has
    exact has.of_same same

/-- A row is new, and in place. -/
theorem keeps_of_put (absent : store.grievances.find id = none)
    (grievances : after.grievances = store.grievances.put id row)
    (own : InPlace settings id row) : Keeps settings store after := by
  constructor
  · intro placed other stored found
    rw [grievances, Table.find_put] at found
    split at found
    case isTrue same =>
      cases found
      exact same ▸ own
    case isFalse => exact placed other stored found
  · rintro other user ⟨stored, found, owned⟩
    have different : other ≠ id := by
      rintro rfl
      rw [absent] at found
      cases found
    refine ⟨stored, ?_, owned⟩
    rw [grievances, Table.find_put_of_ne _ _ different, found]

theorem files_leads (files : Task.Files settings task)
    (leads : task.Leads settings geometry store now after next) :
    Task.Files settings next := by
  cases leads with
  | created => exact files.elim
  | loaded => exact files
  | passed which =>
      rcases which with rfl | rfl | rfl
      · trivial
      · trivial
      · trivial
  | _ => trivial

theorem setsBelow_of_writes {operation : Operation}
    {fields : Grievance → Grievance} {next : Grievance → Progress}
    (files : Operation.Files settings id operation)
    (writes : operation.Writes settings id known answer fields next) :
    SetsBelow settings id known fields := by
  have receipt : (fields known).pdfPath = known.pdfPath ∨
      PathBelow settings id (fields known).pdfPath := by
    rcases writes.pdfPath with same | built
    · exact .inl same
    · right
      rw [built]
      rintro path ⟨⟩
      exact below_receipt settings id
  cases writes with
  | storeUploads => exact files.elim
  | replacePhoto userId photo =>
      refine ⟨.inl rfl, .inr ?_, receipt⟩
      rintro path ⟨⟩
      exact files
  | runPipeline =>
      refine ⟨.inl ?_, .inl ?_, receipt⟩
      · exact withReceipt_column settings (fun _ => rfl) _ _ known
      · exact withReceipt_column settings (fun _ => rfl) _ _ known
  | recheckImage =>
      refine ⟨.inl ?_, .inl ?_, receipt⟩
      · exact withReceipt_column settings (fun _ => rfl) _ _ known
      · exact withReceipt_column settings (fun _ => rfl) _ _ known
  | _ => exact ⟨.inl rfl, .inl rfl, receipt⟩

/-- Every write of a task leaves the row in place. -/
theorem inPlace_of_touches {routes : List JurisdictionRouteRow}
    {writes : RowSession → RowSession}
    (files : Task.Files settings task)
    (touches : task.Touches settings routes now answer id known writes)
    (own : InPlace settings id current) :
    InPlace settings id
      (writes { known := known, current := current }).current := by
  cases touches with
  | wrote writes => exact own.set now (setsBelow_of_writes files writes)
  | confirmed confirms =>
      cases confirms <;> exact own.set now (.of_same rfl rfl rfl)
  | openedWindow =>
      exact (own.set _ (.of_same rfl rfl rfl)).set now (.of_same rfl rfl rfl)
  | merged =>
      exact (own.set _ (.of_same rfl rfl rfl)).set now (.of_same rfl rfl rfl)
  | reported => exact own.set now (.of_same rfl rfl rfl)
  | submitted => exact own.set now (.of_same rfl rfl rfl)
  | retried => exact own.set now (.of_same rfl rfl rfl)

/-- A row is new only if a draft was filed. -/
theorem filed_before
    (moves : task.Moves settings geometry store now answer after progress)
    (files : Task.Files settings task)
    (found : after.Has id fun _ => True) : store.Has id fun _ => True := by
  cases moves with
  | created => exact files.elim
  | searched _ _ grievances => exact found.of_same grievances.symm
  | wrote _ wrote => exact wrote.has_before (fun _ _ => trivial) found
  | confirmed _ wrote => exact wrote.has_before (fun _ _ => trivial) found
  | openedWindow wrote => exact wrote.has_before (fun _ _ => trivial) found
  | merged wrote wroteMaster =>
      exact wrote.has_before (fun _ _ => trivial)
        (wroteMaster.has_before (fun _ _ => trivial) found)
  | submitted wrote => exact wrote.has_before (fun _ _ => trivial) found
  | retried wrote => exact wrote.has_before (fun _ _ => trivial) found
  | _ => exact found

theorem userId_isColumn : RowSession.IsColumn (·.userId) :=
  ⟨fun _ _ => rfl, fun _ _ _ => rfl⟩

theorem change_userId {fields : Grievance → Grievance}
    (change : Change settings known fields) :
    (fields known).userId = known.userId := by
  cases change with
  | wrote writes =>
      cases writes with
      | runPipeline =>
          exact withReceipt_column settings (fun _ => rfl) _ _ known
      | recheckImage =>
          exact withReceipt_column settings (fun _ => rfl) _ _ known
      | _ => rfl
  | confirmed confirms => cases confirms <;> rfl
  | _ => rfl

theorem keeps_of_task (files : Task.Files settings task)
    (resumed : task.resume settings geometry store choice =
      some (after, progress)) : Keeps settings store after := by
  rcases Task.resume_cases resumed with ⟨_, rfl, _⟩ | ⟨_, moves⟩
  · exact .of_same (task.release_grievances store)
  constructor
  · intro placed id row found
    obtain ⟨before, was, _⟩ :=
      filed_before moves files ⟨row, found, trivial⟩
    obtain ⟨later, there, kept⟩ := moves.has
      (fun _ _ _ touches _ own => inPlace_of_touches files touches own)
      ⟨before, was, placed id before was⟩
    obtain rfl : later = row := Option.some.inj (there.symm.trans found)
    exact kept
  · rintro id user ⟨before, found, rfl⟩
    exact moves.column_kept userId_isColumn (fun _ _ => change_userId) found

end

/-! ## What a process leaves in place -/

/-- A draft between its two commits, whose uploads are saved in place. -/
structure Draft.Tidy (settings : Pipeline.Settings) (draft : Draft) :
    Prop where
  named : FileName draft.id
  form : draft.request.WellFormed
  messages : MessagesBelow settings draft.id draft.messages
  photo : PathBelow settings draft.id draft.photoPath

/-- Nothing that a process has to write is out of place. -/
structure Actor.Tidy (settings : Pipeline.Settings) (actor : Actor) :
    Prop where
  request : ∀ request, actor = .creating request → request.WellFormed
  draft : ∀ draft, actor.draft = some draft → draft.Tidy settings
  task : ∀ task, actor.task = some task → Task.Files settings task

section

variable {settings : Pipeline.Settings} {geometry : Geometry}
  {backend after : Backend} {draft : Draft} {request : DraftRequest}
  {task : Task} {actor process : Actor} {choice : Choice}
  {next : Option Actor} {id name : String} {now : Time}

theorem Actor.Tidy.of_draft (drafting : actor.draft = some draft)
    (tidy : draft.Tidy settings) : actor.Tidy settings := by
  obtain ⟨idle, _, _⟩ := Actor.draft_alone drafting
  constructor
  · rintro request rfl
    cases drafting
  · intro other same
    rw [drafting] at same
    cases same
    exact tidy
  · intro task doing
    rw [idle] at doing
    cases doing

theorem Actor.Tidy.of_task (others : ∀ request, actor ≠ .creating request)
    (idle : actor.draft = none)
    (files : ∀ task, actor.task = some task → Task.Files settings task) :
    actor.Tidy settings := by
  refine ⟨fun request same => absurd same (others request), ?_, files⟩
  intro draft drafting
  rw [idle] at drafting
  cases drafting

theorem Draft.Tidy.nextClip (tidy : draft.Tidy settings)
    (clips : List AudioClip) : (draft.nextClip clips).Tidy settings :=
  .of_draft (draft.nextClip_draft clips) tidy

theorem files_resumed {further : Task} {store later : Store}
    {choice : Pipeline.Choice}
    (files : Task.Files settings task)
    (resumed : task.resume settings geometry store choice =
      some (later, .more further)) : Task.Files settings further := by
  rcases Task.resume_cases resumed with ⟨_, _, same⟩ | ⟨_, moves⟩
  · cases same
  · exact files_leads files moves.leads

/-- The first commit: the row has no files yet. -/
theorem keeps_of_creating (form : request.WellFormed) (named : FileName id)
    (resumed : resumeCreating backend request id now = some (after, next)) :
    Keeps settings backend.store after.store ∧
      ∀ process, next = some process → process.Tidy settings := by
  cases found : backend.store.grievances.find id with
  | some row =>
      simp only [resumeCreating, Store.createDraft, found] at resumed
      cases resumed
  | none =>
      simp only [resumeCreating, Store.createDraft, found] at resumed
      cases resumed
      refine ⟨keeps_of_put found rfl ⟨named, ?_, ?_, ?_⟩, ?_⟩
      · intro message member path located
        obtain ⟨text, rfl⟩ := form.typed message member
        cases located
      · intro path held
        cases held
      · intro path held
        cases held
      · rintro process ⟨⟩
        refine Draft.Tidy.nextClip ⟨named, form, ?_, ?_⟩ _
        · intro message member
          cases member
        · intro path held
          cases held

/-- The second commit: the files are those that were saved. -/
theorem keeps_of_storing (tidy : draft.Tidy settings)
    (resumed : resumeStoring backend draft now = some (after, next)) :
    Keeps settings backend.store after.store ∧ next = none := by
  obtain ⟨⟨store, progress⟩, written, same⟩ :=
    Option.map_eq_some_iff.mp resumed
  obtain ⟨rfl, rfl⟩ := Prod.mk.inj same
  obtain ⟨current, wrote, _⟩ := Store.write_wrote written
  refine ⟨⟨?_, ?_⟩, rfl⟩
  · intro placed id
    refine wrote.every ?_ (placed id)
    rintro rfl own
    refine own.set now ⟨.inr ?_, .inr tidy.photo, .inl rfl⟩
    intro message member path located
    rcases List.mem_append.mp member with typed | saved
    · obtain ⟨text, rfl⟩ := tidy.form.typed message typed
      cases located
    · exact tidy.messages message saved path located
  · intro id user has
    refine wrote.has ?_ has
    rintro rfl own
    exact (userId_isColumn.set_same _ _ rfl).trans own

theorem saved_below (settings : Pipeline.Settings) (id : String)
    (named : FileName name) :
    Below settings id (uploadPath settings id name) :=
  ⟨name, named, rfl⟩

theorem recoverNext_tidy {ids : List String}
    (arrived : Actor.recoverNext ids = some process) :
    process.Tidy settings := by
  cases ids with
  | nil => cases arrived
  | cons id rest =>
      cases arrived
      refine .of_task (fun _ => by simp) rfl ?_
      rintro task ⟨⟩
      trivial

theorem keeps_of_party {running : Party} {answer : Pipeline.Answer}
    {further : Option Party}
    (tidy : (Actor.party running).Tidy settings)
    (resumed : running.resume settings geometry backend
      { now := now, answer := answer } = some (after, further)) :
    Keeps settings backend.store after.store ∧
      ∀ party, further = some party → (Actor.party party).Tidy settings := by
  constructor
  · rcases Party.resume_store resumed with
      same | ⟨task, progress, doing, stepped⟩
    · exact .of_same same
    · exact keeps_of_task (tidy.task task doing) stepped
  · rintro party rfl
    refine .of_task (fun _ => by simp) rfl ?_
    intro task doing
    have does : party.task = some task := doing
    rcases party_task_cases resumed does with
      ⟨earlier, was, stepped⟩ | ⟨_, rfl⟩ | ⟨claim, _, _, rfl⟩
    · exact files_resumed (tidy.task earlier was) stepped
    · trivial
    · unfold Claim.task
      split <;> trivial

theorem Actor.resume_keeps (tidy : actor.Tidy settings)
    (named : choice.Named)
    (resumed : actor.resume settings geometry backend choice =
      some (after, next)) :
    Keeps settings backend.store after.store ∧
      ∀ process, next = some process → process.Tidy settings := by
  unfold Actor.resume at resumed
  dsimp only at resumed
  split at resumed
  case h_1 request id answered =>
    exact keeps_of_creating (tidy.request request rfl)
      (named.1 id answered) resumed
  case h_2 draft clip rest name answered =>
    cases resumed
    refine ⟨.of_same rfl, ?_⟩
    rintro process ⟨⟩
    have own := tidy.draft draft rfl
    have saved : Draft.Tidy settings
        { draft with
          messages := draft.messages ++
            [clip.message (uploadPath settings draft.id name)] } := by
      refine ⟨own.named, own.form, ?_, own.photo⟩
      intro message member path located
      rcases List.mem_append.mp member with earlier | new
      · exact own.messages message earlier path located
      · rw [List.mem_singleton.mp new] at located
        cases located
        exact saved_below settings draft.id (named.2 name answered)
    exact saved.nextClip rest
  case h_3 draft name answered =>
    cases resumed
    refine ⟨.of_same rfl, ?_⟩
    rintro process ⟨⟩
    have own := tidy.draft draft rfl
    refine .of_draft rfl ⟨own.named, own.form, own.messages, ?_⟩
    rintro path ⟨⟩
    exact saved_below settings draft.id (named.2 name answered)
  case h_4 draft answered =>
    obtain ⟨keeps, rfl⟩ :=
      keeps_of_storing (tidy.draft draft rfl) resumed
    exact ⟨keeps, by simp⟩
  case h_5 running answer answered =>
    obtain ⟨⟨further, party⟩, moved, same⟩ :=
      Option.map_eq_some_iff.mp resumed
    obtain ⟨rfl, rfl⟩ := Prod.mk.inj same
    obtain ⟨keeps, arrives⟩ := keeps_of_party tidy moved
    refine ⟨keeps, ?_⟩
    intro process arrived
    obtain ⟨party, is, rfl⟩ := Option.map_eq_some_iff.mp arrived
    exact arrives party is
  case h_6 limit ids answered =>
    split at resumed
    case isFalse => cases resumed
    case isTrue =>
      cases resumed
      exact ⟨.of_same rfl, fun process => recoverNext_tidy⟩
  case h_7 task rest answer answered =>
    obtain ⟨⟨store, progress⟩, moved, same⟩ :=
      Option.map_eq_some_iff.mp resumed
    obtain ⟨rfl, rfl⟩ := Prod.mk.inj same
    have files := tidy.task task rfl
    refine ⟨keeps_of_task files moved, ?_⟩
    intro process arrived
    cases progress with
    | more further =>
        cases arrived
        refine .of_task (fun _ => by simp) rfl ?_
        rintro task ⟨⟩
        exact files_resumed files moved
    | _ => exact recoverNext_tidy arrived
  case h_8 =>
    cases resumed
    exact ⟨.of_same rfl, by simp⟩
  case h_9 => cases resumed

end

/-! ## Runs -/

section

variable {settings : Pipeline.Settings} {geometry : Geometry}
  {world later : World Backend Actor} {labels : List (Label Ask Choice)}

theorem start_tidy {ask : Ask} (made : ask.Made settings) :
    (Actor.start ask).Tidy settings := by
  cases ask with
  | createDraft request =>
      obtain ⟨limits, platform, form, citizen, admitted, passed, rfl⟩ := made
      refine ⟨?_, ?_, ?_⟩
      · rintro _ ⟨⟩
        exact wellFormed_of_accept passed
      · rintro draft ⟨⟩
      · rintro task ⟨⟩
  | sweepStuckProcessing limit =>
      exact .of_task (fun _ => by simp [Actor.start]) rfl (by rintro task ⟨⟩)
  | call call other =>
      refine .of_task (fun _ => by simp [Actor.start]) rfl ?_
      intro task doing
      cases call with
      | worker => cases doing
      | request asked =>
          cases asked with
          | createDraft => cases other
          | sweepExpiredWindows => cases doing
          | sweepStuckDispatching => cases doing
          | replacePhoto id userId path =>
              cases doing
              exact made
          | _ =>
              cases doing
              trivial

/-- All rows in place, and nothing to be written that is not. -/
def tidiness (settings : Pipeline.Settings) :
    Process.Invariant Backend Actor :=
  { shared := fun backend => Placed settings backend.store
    own := fun _ actor => actor.Tidy settings
    pair := fun _ _ => True }

theorem release_keeps (actor : Actor) (backend : Backend) :
    Keeps settings backend.store (actor.release backend).store :=
  .of_same (Actor.release_tables actor backend).1

theorem tidiness_holds
    (reached : (filing settings geometry).system.ReachableWhen
      (Made settings) world) : (tidiness settings).Holds world := by
  refine Process.Invariant.holds ?_ ?_ ?_ ?_ reached
  · exact fun backend placed => placed
  · intro world pid ask _ _ made
    exact ⟨start_tidy made, fun _ _ _ _ => ⟨trivial, trivial⟩⟩
  · intro world pid choice actor after next _ holds named running resumed
    obtain ⟨keeps, arrives⟩ :=
      Actor.resume_keeps (holds.2.1 pid actor running) named resumed
    refine ⟨keeps.placed holds.1, ?_, ?_⟩
    · intro other process _ found
      exact holds.2.1 other process found
    · intro process arrived
      exact ⟨arrives process arrived, fun _ _ _ _ => ⟨trivial, trivial⟩⟩
  · intro world pid actor _ holds _ running
    refine ⟨(release_keeps actor world.shared).placed holds.1, ?_⟩
    intro other process _ found
    exact holds.2.1 other process found

/-- Complaints stay with their owners. -/
def KeepsOwners (world later : World Backend Actor) : Prop :=
  ∀ id user, world.shared.store.Has id (·.userId = user) →
    later.shared.store.Has id (·.userId = user)

theorem owners_kept
    (reached : (filing settings geometry).system.ReachableWhen
      (Made settings) world)
    (ran : (filing settings geometry).system.RunWhen (Made settings) world
      labels later) : KeepsOwners world later := by
  refine Transition.System.RunWhen.relates ?_ ?_ ?_ reached ran
  · exact fun _ _ _ owned => owned
  · intro first second third before after id user owned
    exact after id user (before id user owned)
  · intro world label next reached made taken
    rcases Process.Program.step_cases taken with
      ⟨pid, ask, rfl, _, rfl⟩ |
      ⟨pid, choice, actor, after, further, rfl, running, resumed, rfl⟩ |
      ⟨pid, actor, rfl, _, rfl⟩
    · exact fun _ _ owned => owned
    · have tidy := (tidiness_holds reached).2.1 pid actor running
      exact (Actor.resume_keeps tidy made resumed).1.owners
    · have keeps : Keeps settings world.shared.store _ :=
        release_keeps actor world.shared
      exact keeps.owners

/-- What a citizen is sent is a file of the complaint that was asked for. -/
theorem sent_inside
    (rooted : (Python.Path.ofText settings.uploadDir).names ≠ [])
    (reached : (filing settings geometry).system.ReachableWhen
      (Made settings) world)
    {isFile : Python.Path → Bool} {guessType : String → Option String}
    {id : String} {user : Citizen} {download : Download}
    {response : FileResponse}
    (sent : download.answer settings.uploadDir isFile guessType
      (world.shared.store.grievances.find id) user = .ok response) :
    FileName id ∧ world.shared.store.Has id (·.userId = some user.userId) ∧
      ∃ name, FileName name ∧ response.path = filePath settings id name := by
  obtain ⟨row, path, found, own, stored, resolved⟩ := Download.answer_ok sent
  have inPlace := (tidiness_holds reached).1 id row found
  obtain ⟨name, named, rfl⟩ := inPlace.below stored
  rw [ofText_uploadPath rooted inPlace.named named,
    artifactPath_filePath inPlace.named named] at resolved
  exact ⟨inPlace.named, ⟨row, found, own⟩, name, named, resolved⟩

/-- Whatever a citizen is sent is a file in the directory of the complaint that
was asked for, and however much later, nobody else is sent that file, nor is it
sent for another complaint. -/
theorem no_file_of_others
    (rooted : (Python.Path.ofText settings.uploadDir).names ≠ [])
    (reached : (filing settings geometry).system.ReachableWhen
      (Made settings) world)
    (ran : (filing settings geometry).system.RunWhen (Made settings) world
      labels later)
    {isFile isFileLater : Python.Path → Bool}
    {guessType guessTypeLater : String → Option String}
    {id other : String} {user stranger : Citizen}
    {download asked : Download} {response given : FileResponse}
    (sent : download.answer settings.uploadDir isFile guessType
      (world.shared.store.grievances.find id) user = .ok response)
    (answered : asked.answer settings.uploadDir isFileLater guessTypeLater
      (later.shared.store.grievances.find other) stranger = .ok given) :
    (∃ name, FileName name ∧ response.path = filePath settings id name) ∧
      (given.path = response.path →
        other = id ∧ stranger.userId = user.userId) := by
  obtain ⟨idNamed, owned, name, named, located⟩ :=
    sent_inside rooted reached sent
  obtain ⟨otherNamed, ownedLater, nameLater, namedLater, locatedLater⟩ :=
    sent_inside rooted (reached.run ran) answered
  refine ⟨⟨name, named, located⟩, ?_⟩
  intro same
  obtain ⟨rfl, rfl⟩ := filePath_inj otherNamed namedLater idNamed named
    (locatedLater.symm.trans (same.trans located))
  refine ⟨rfl, ?_⟩
  obtain ⟨row, found, kept⟩ := owners_kept reached ran _ _ owned
  obtain ⟨stored, foundLater, own⟩ := ownedLater
  obtain rfl : stored = row := Option.some.inj (foundLater.symm.trans found)
  exact Option.some.inj (own.symm.trans kept)

end

/-! ## A voice note is heard before and after the complaint is cancelled -/

theorem voicedForm_lat : (-90 : ℚ) ≤ 28 ∧ (28 : ℚ) ≤ 90 := by
  norm_num

theorem voicedForm_lon : (-180 : ℚ) ≤ 77 ∧ (77 : ℚ) ≤ 180 := by
  norm_num

theorem voicedForm_text (typed : String)
    (filled : some "The light is out" = some typed) :
    typed.length ≤ 5000 := by
  cases filled
  decide

theorem voicedForm_landmark (named : String) (filled : none = some named) :
    named.length ≤ 300 := by
  cases filled

def voicedForm : ComplaintForm :=
  { lat := 28
    lon := 77
    text := some "The light is out"
    landmark := none
    photo := some
      { filename := some "light.jpg", contentType := some "image/jpeg"
        data := [1] }
    audio :=
      [{ filename := some "note.webm", contentType := some "audio/webm"
         data := [2, 3] }]
    audioMetadata := ["metadata"]
    latInRange := voicedForm_lat
    lonInRange := voicedForm_lon
    textLength := voicedForm_text
    landmarkLength := voicedForm_landmark }

def voicedLimits : UploadLimits :=
  { maxAudioBytes := 10485760, maxImageBytes := 5242880 }

/-- It decodes the metadata of the form. -/
def voicedPlatform : Python.Platform :=
  { loads := fun _ =>
      .value
        (.object [("recording_id", .string "r"), ("segment_index", .int 0)])
    repr := fun _ => ""
    floatOfText := fun _ => none
    casefold := fun text => text
    validUrl := fun _ => true }

def voicedCitizen : Citizen :=
  { userId := "citizen", contactId := some "contact" }

theorem voicedForm_accepted :
    voicedForm.accept voicedLimits voicedPlatform voicedCitizen =
      .ok
        { request := voicedRequest
          clips := [[2, 3]]
          photo := some [1] } := by
  decide +kernel

abbrev filingRuns : Program Backend Actor Ask Choice :=
  filing defaultSettings flatMap

theorem filing_initial : filingRuns.initial emptyBackend := by
  intro id row found
  cases found

/-- Ids and names that are given can be names of files. -/
def named (_ : Backend) (_ : Actor) (choice : Choice) : Bool :=
  match choice.answer with
  | .pipeline (.inserted id) => id = "g"
  | .saved name => name ∈ ["a.webm", "b.jpg"]
  | _ => true

theorem made_of_named {world : World Backend Actor} {actor : Actor}
    {choice : Choice} (test : named world.shared actor choice = true) :
    Made defaultSettings world (.resume 0 choice) := by
  have names : ∀ name ∈ ["g", "a.webm", "b.jpg"], FileName name := by
    intro name member
    have all : ∀ name ∈ ["g", "a.webm", "b.jpg"],
        name ≠ "" ∧ name ≠ "." ∧ name ≠ ".." ∧ '/' ∉ name.toList := by
      decide
    obtain ⟨nonempty, ordinary, below, whole⟩ := all name member
    exact ⟨nonempty, ordinary, below, whole⟩
  constructor
  · intro id answered
    unfold named at test
    rw [answered] at test
    exact names id (by simp [of_decide_eq_true test])
  · intro name answered
    unfold named at test
    rw [answered] at test
    have member : name ∈ ["a.webm", "b.jpg"] := of_decide_eq_true test
    exact names name (.tail _ member)

/-- What comes of asking for the voice note, and the status. -/
def hears (backend : Backend) :
    Except Refusal FileResponse × Option GrievanceStatus :=
  (Download.answer defaultSettings.uploadDir (fun _ => true) (fun _ => none)
    (backend.store.grievances.find "g") voicedCitizen (.voiceNote 1),
   (backend.store.grievances.find "g").map (·.status))

/-- The file of the voice note. -/
def heardNote : FileResponse :=
  { path := filePath defaultSettings "g" "a.webm"
    mediaType := "audio/webm"
    filename := none }

def filesNote : Ask × List Choice :=
  (.createDraft voicedRequest,
    [⟨0, .pipeline (.inserted "g")⟩, ⟨1, .saved "a.webm"⟩,
     ⟨2, .saved "b.jpg"⟩, ⟨3, .pipeline .plain⟩])

def cancelsNote : Ask × List Choice :=
  (.call (.request (.cancel "g")) rfl,
    [⟨4, .pipeline .plain⟩, ⟨5, .pipeline .plain⟩])

theorem no_file_of_others_cancelled :
    ∃ world later : World Backend Actor,
      hears world.shared = (.ok heardNote, some .processing) ∧
      hears later.shared = (.ok heardNote, some .cancelled) ∧
      ∃ name, FileName name ∧
        heardNote.path = filePath defaultSettings "g" name := by
  have ran : ((filingRuns.serial named emptyBackend [filesNote]).bind
      fun middle => (filingRuns.serial named middle [cancelsNote]).map
        fun final => (hears middle, hears final)) =
      some
        ((.ok heardNote, some .processing),
          (.ok heardNote, some .cancelled)) := by
    decide +kernel
  have spawned : ∀ (world : World Backend Actor) ask, world.Quiet →
      ask ∈ [filesNote].map Prod.fst ∨ ask ∈ [cancelsNote].map Prod.fst →
      Made defaultSettings world (.spawn 0 ask) := by
    intro world ask _ asked
    rcases asked with filed | cancelled
    · rw [List.mem_singleton.mp filed]
      exact ⟨_, _, _, _, _, voicedForm_accepted, rfl⟩
    · rw [List.mem_singleton.mp cancelled]
      trivial
  obtain ⟨world, later, labels, reached, runs, _, heard, heardLater⟩ :=
    Process.Program.runs_serial filing_initial spawned
      (fun _ _ _ _ => made_of_named) ran
  refine ⟨world, later, heard, heardLater, ?_⟩
  obtain ⟨sent, _⟩ := Prod.mk.inj heard
  obtain ⟨answered, _⟩ := Prod.mk.inj heardLater
  exact (no_file_of_others (by decide) reached runs sent answered).1

end JanSetu.Web
