import JanSetu.Pipeline.Evidence
import JanSetu.Pipeline.Serial

/-!
# Dispatchers and the count of their failures

A run of `dispatch_grievance` marks the grievance, reads its receipt, calls the
dispatcher and writes what came of it.  Failed calls are counted, up to the
last attempt; what is raised outside of the one exception that is caught leaves
the mark behind and the counter alone.
-/

namespace JanSetu.Pipeline

open Python (Json Raised Outcome)

/-! ## The dispatchers -/

/-- What comes of a call of `dispatch`: a reference, the `DispatchError` that
its caller catches, or another exception. -/
inductive Dispatched where
  | ref (ref : Json)
  | dispatchError
  | raises (raised : Raised)

def MockApiDispatcher.dispatch (outcome : Outcome) : Dispatched :=
  match outcome.json >>= (·.item "ref") with
  | .ok ref => .ref ref
  | .error raised =>
      if raised.isHttpError || raised = .keyError || raised.isValueError then
        .dispatchError
      else .raises raised

/-- `uuid.uuid4().hex[:8]`. -/
def hexDigits (token : List (Fin 16)) : String :=
  String.ofList ((token.take 8).map fun digit => Nat.digitChar digit.val)

def SmtpDispatcher.dispatch (token : List (Fin 16))
    (sent : Except Raised Unit) : Dispatched :=
  match sent with
  | .ok () => .ref (.string ("MAIL-" ++ hexDigits token))
  | .error .osError => .dispatchError
  | .error raised => .raises raised

/-- `get_dispatcher`, with what comes of its external call. -/
inductive Dispatcher where
  | mockApi (outcome : Outcome)
  | smtp (token : List (Fin 16)) (sent : Except Raised Unit)

def Dispatcher.dispatch : Dispatcher → Dispatched
  | .mockApi outcome => MockApiDispatcher.dispatch outcome
  | .smtp token sent => SmtpDispatcher.dispatch token sent

/-! ## A run of `dispatch_grievance` -/

/-- `dispatch_ref` is a `String(255)`; no text with a null character can be
stored. -/
def dispatchRefColumn (ref : Json) : Except Raised (Option String) := do
  let text ← Evidence.textColumn (some 255) ref
  if text.any fun text => text.toList.contains '\x00' then
    .error .databaseError
  else pure text

def submittedWithFields (ref : Option String) (row : Grievance) : Grievance :=
  { row with status := .submitted, dispatchRef := ref }

def Store.submitWith (store : Store) (id : String) (known : Grievance)
    (ref : Option String) (now : Time) : Option (Store × Progress) :=
  store.write id known now (submittedWithFields ref) (some (.submitted, ref))
    fun knows => .finalized (finalizeOutcome .submitted knows)

/-- What a run meets outside of the database. -/
structure DispatchRun where
  markedAt : Time
  /-- The read of the receipt, where the grievance has a path. -/
  receipt : Except Raised Unit
  dispatcher : Dispatcher
  reportedAt : Time

def DispatchRun.receiptRead (run : DispatchRun) (row : Grievance) :
    Except Raised Unit :=
  if Python.truthy row.pdfPath then run.receipt else .ok ()

/-- The part of a run behind the mark. -/
def Store.callAndReport (store : Store) (id : String) (known : Grievance)
    (run : DispatchRun) : Option (Store × Progress) :=
  match run.receiptRead known with
  | .error _ => some (store, .raised)
  | .ok () =>
      match store.callDispatcher id known with
      | none => none
      | some (called, _) =>
          match run.dispatcher.dispatch with
          | .raises _ => some (called, .raised)
          | .dispatchError => called.retryOrFail id known run.reportedAt
          | .ref ref =>
              match dispatchRefColumn ref with
              | .error _ => some (called, .raised)
              | .ok ref => called.submitWith id known ref run.reportedAt

/-- A whole run, when nobody else writes the grievance meanwhile. -/
def Store.dispatchGrievance (store : Store) (id : String)
    (run : DispatchRun) : Option (Store × Progress) :=
  match store.load .dispatch id with
  | .more (.loaded _ _ known) =>
      match store.dispatch id known run.markedAt with
      | some (marked, .more (.dispatching _ knows)) =>
          marked.callAndReport id knows run
      | finished => finished
  | progress => some (store, progress)

/-- What can be stored as a reference. -/
def StorableRef (ref : Json) : Prop :=
  ref = .null ∨
    ∃ text, ref = .string text ∧ text.length ≤ 255 ∧ '\x00' ∉ text.toList

/-- The body of a success is an object, and its reference can be stored. -/
def PayloadCounted (payload : Json) : Prop :=
  payload.IsObject ∧ ∀ ref, payload.member "ref" = some ref → StorableRef ref

/-- The call ends in a reference that can be stored, or in a failure that is
caught. -/
def Dispatcher.Borne : Dispatcher → Prop
  | .mockApi outcome =>
      ¬ outcome.TooDeep ∧
        ∀ payload, outcome.Gives payload → PayloadCounted payload
  | .smtp _ sent => sent = .ok () ∨ sent = .error .osError

/-- The receipt of the grievance can be read, and the call is borne. -/
structure DispatchRun.Borne (run : DispatchRun) (row : Grievance) : Prop where
  receipt : Python.truthy row.pdfPath = true → run.receipt = .ok ()
  call : run.dispatcher.Borne

/-- How a run ends that has marked the grievance. -/
inductive Ending where
  | submitted (ref : Option String)
  | counted
  | escaped

def DispatchRun.ending (run : DispatchRun) (row : Grievance) : Ending :=
  match run.receiptRead row with
  | .error _ => .escaped
  | .ok () =>
      match run.dispatcher.dispatch with
      | .raises _ => .escaped
      | .dispatchError => .counted
      | .ref ref =>
          match dispatchRefColumn ref with
          | .error _ => .escaped
          | .ok ref => .submitted ref

theorem dispatchRefColumn_ok {ref : Json} :
    (∃ text, dispatchRefColumn ref = .ok text) ↔ StorableRef ref := by
  unfold dispatchRefColumn StorableRef
  cases ref with
  | null => simp [Evidence.textColumn, Bind.bind, Except.bind, pure,
      Except.pure]
  | string text =>
      by_cases short : text.length ≤ 255
      · by_cases zero : '\x00' ∈ text.toList
        · simp [Evidence.textColumn, short, zero, Bind.bind, Except.bind]
        · simp [Evidence.textColumn, short, zero, Bind.bind, Except.bind,
            pure, Except.pure]
      · simp [Evidence.textColumn, short, Bind.bind, Except.bind]
  | _ => simp [Evidence.textColumn, Bind.bind, Except.bind]

theorem hexDigit_ne_zero (digit : Fin 16) : Nat.digitChar digit.val ≠ '\x00' := by
  revert digit
  decide

/-- The references of the mails can be stored. -/
theorem storableRef_mail (token : List (Fin 16)) :
    StorableRef (.string ("MAIL-" ++ hexDigits token)) := by
  refine .inr ⟨_, rfl, ?_, ?_⟩
  · have few := List.length_take_le 8 token
    simp only [hexDigits, String.length_append, String.length_ofList,
      List.length_map]
    have prefixed : "MAIL-".length = 5 := rfl
    omega
  · simp only [hexDigits, String.toList_append, String.toList_ofList,
      List.mem_append, List.mem_map, not_or, not_exists, not_and]
    refine ⟨by decide, ?_⟩
    intro digit _
    exact hexDigit_ne_zero digit

/-- What is raised out of `dispatch`, or returned and not storable. -/
def Dispatched.Escapes : Dispatched → Prop
  | .ref returned => ¬ StorableRef returned
  | .dispatchError => False
  | .raises _ => True

theorem mockApi_escapes (outcome : Outcome) :
    (MockApiDispatcher.dispatch outcome).Escapes ↔
      ¬ (Dispatcher.mockApi outcome).Borne := by
  unfold MockApiDispatcher.dispatch
  simp only [Dispatcher.Borne]
  cases answered : outcome.json with
  | error raised =>
      have ungiven : ∀ payload, ¬ outcome.Gives payload := by
        intro payload gives
        rw [Outcome.json_ok.mpr gives] at answered
        cases answered
      by_cases deep : outcome.TooDeep
      · rw [Outcome.json_tooDeep.mp deep] at answered
        obtain rfl := Except.error.inj answered
        simp [deep, Bind.bind, Except.bind, Raised.isHttpError,
          Raised.isValueError, Dispatched.Escapes]
      · have counted : (raised.isHttpError || decide (raised = .keyError) ||
            raised.isValueError) = true := by
          rcases Outcome.json_error answered with caught | ⟨caught, _⟩ |
            ⟨_, deep'⟩
          · simp [caught]
          · simp [caught]
          · exact absurd deep' deep
        have bears : ¬ outcome.TooDeep ∧
            ∀ payload, outcome.Gives payload → PayloadCounted payload :=
          ⟨deep, fun payload gives => absurd gives (ungiven payload)⟩
        simp only [Bind.bind, Except.bind, counted, if_true,
          Dispatched.Escapes, false_iff, not_not]
        exact bears
  | ok payload =>
      have gives := Outcome.json_ok.mp answered
      have shallow : ¬ outcome.TooDeep := by
        intro deep
        rw [Outcome.json_tooDeep.mp deep] at answered
        cases answered
      have only : (∀ other, outcome.Gives other → PayloadCounted other) ↔
          PayloadCounted payload := by
        constructor
        · intro all
          exact all payload gives
        · intro counted other gives'
          rw [gives'.unique gives]
          exact counted
      rw [only]
      simp only [Bind.bind, Except.bind, shallow, not_false_eq_true, true_and]
      unfold PayloadCounted
      cases item : payload.item "ref" with
      | error raised =>
          have missing : ∀ ref, payload.member "ref" ≠ some ref := by
            intro ref there
            rw [Json.item_ok.mpr there] at item
            cases item
          rcases Json.item_error item with ⟨rfl, object⟩ | ⟨rfl, unlike⟩
          · simp [object, missing, Dispatched.Escapes]
          · simp [unlike, Raised.isHttpError, Raised.isValueError,
              Dispatched.Escapes]
      | ok ref =>
          have there := Json.item_ok.mp item
          have object := Json.isObject_of_member there
          simp [object, there, Dispatched.Escapes]

theorem smtp_escapes (token : List (Fin 16)) (sent : Except Raised Unit) :
    (SmtpDispatcher.dispatch token sent).Escapes ↔
      ¬ (Dispatcher.smtp token sent).Borne := by
  simp only [Dispatcher.Borne]
  cases sent with
  | ok done =>
      simp [SmtpDispatcher.dispatch, Dispatched.Escapes, storableRef_mail]
  | error raised =>
      cases raised <;> simp [SmtpDispatcher.dispatch, Dispatched.Escapes]

theorem Dispatcher.escapes_iff (dispatcher : Dispatcher) :
    dispatcher.dispatch.Escapes ↔ ¬ dispatcher.Borne := by
  cases dispatcher with
  | mockApi outcome => exact mockApi_escapes outcome
  | smtp token sent => exact smtp_escapes token sent

/-- A run escapes exactly when it is not borne. -/
theorem DispatchRun.ending_escaped (run : DispatchRun) (row : Grievance) :
    run.ending row = .escaped ↔ ¬ run.Borne row := by
  have borne : run.Borne row ↔
      run.receiptRead row = .ok () ∧ ¬ run.dispatcher.dispatch.Escapes := by
    rw [Dispatcher.escapes_iff, not_not]
    unfold receiptRead
    constructor
    · intro borne
      refine ⟨?_, borne.call⟩
      split
      case isTrue present => exact borne.receipt present
      case isFalse => rfl
    · rintro ⟨read, call⟩
      refine ⟨fun present => ?_, call⟩
      rwa [if_pos present] at read
  rw [borne]
  unfold ending
  cases read : run.receiptRead row with
  | error raised => simp
  | ok done =>
      cases called : run.dispatcher.dispatch with
      | raises raised => simp [Dispatched.Escapes]
      | dispatchError => simp [Dispatched.Escapes]
      | ref ref =>
          have storable := @dispatchRefColumn_ok ref
          cases column : dispatchRefColumn ref with
          | error raised =>
              rw [column] at storable
              simpa [Dispatched.Escapes, column] using storable
          | ok text =>
              rw [column] at storable
              simpa [Dispatched.Escapes, column] using storable

/-! ## What a run leaves -/

/-- What is left of the columns that a run reads and counts. -/
structure Left (row later : Grievance) (status : GrievanceStatus)
    (attempts : Nat) : Prop where
  status : later.status = status
  attempts : later.dispatchAttempts = attempts
  snapshot : later.routingSnapshot = row.routingSnapshot
  pdfPath : later.pdfPath = row.pdfPath

def Ending.status (row : Grievance) : Ending → GrievanceStatus
  | .submitted _ => .submitted
  | .counted => refusedStatus row
  | .escaped => .dispatching

def Ending.attempts (row : Grievance) : Ending → Nat
  | .counted => row.dispatchAttempts + 1
  | _ => row.dispatchAttempts

def DispatchRun.statusLeft (run : DispatchRun) (row : Grievance) :
    GrievanceStatus :=
  if dispatchDisabled row then .registered else (run.ending row).status row

def DispatchRun.attemptsLeft (run : DispatchRun) (row : Grievance) : Nat :=
  if dispatchDisabled row then row.dispatchAttempts
  else (run.ending row).attempts row

/-- The grievance is in the table and nobody holds it. -/
structure Store.Holds (store : Store) (id : String) (row : Grievance) :
    Prop where
  found : store.grievances.find id = some row
  free : id ∉ store.locked

section

variable {store : Store} {id : String} {row : Grievance} {now : Time}
  {fields : Grievance → Grievance}

/-- A session that was alone knows what it has written. -/
theorem set_known (row : Grievance) (now : Time)
    (change : Grievance → Grievance) :
    (RowSession.set { known := row, current := row } now change).known =
      (RowSession.set { known := row, current := row } now change).current := by
  unfold RowSession.set
  dsimp only
  split
  · rfl
  · exact (writeBack_self _ _).symm

theorem Store.Holds.write {event : Option (GrievanceStatus × Option String)}
    {next : Grievance → Progress} (holds : store.Holds id row) (now : Time)
    (fields : Grievance → Grievance) :
    ∃ after later, store.write id row now fields event next =
        some (after, next later) ∧ after.Holds id later ∧
      later = (RowSession.set { known := row, current := row } now
        fields).current := by
  have committed : ∃ after knows,
      store.write id row now fields event next = some (after, next knows) ∧
      knows = (RowSession.set { known := row, current := row } now
        fields).known ∧
      after.grievances.find id =
        some (RowSession.set { known := row, current := row } now
          fields).current ∧
      after.locked = store.locked :=
    Store.write_found holds.found holds.free
  obtain ⟨after, knows, wrote, rfl, stored, locks⟩ := committed
  rw [set_known] at wrote
  refine ⟨after, _, wrote, ⟨stored, ?_⟩, rfl⟩
  rw [locks]
  exact holds.free

end

/-! ## Sequences of runs -/

/-- The run marked the grievance, which it had loaded as `row`, and did not end
in `submitted`. -/
def Unsubmitted (row later : Grievance) : Prop :=
  dispatchDisabled row = false ∧ later.status ≠ .submitted

instance (row later : Grievance) : Decidable (Unsubmitted row later) :=
  inferInstanceAs (Decidable (_ ∧ _))

/-- How many runs of the sequence have failed. -/
def Store.failures (id : String) : Store → List DispatchRun → Nat
  | _, [] => 0
  | store, run :: runs =>
      match store.dispatchGrievance id run with
      | none => 0
      | some (after, _) =>
          let failed :=
            match store.grievances.find id, after.grievances.find id with
            | some row, some later => if Unsubmitted row later then 1 else 0
            | _, _ => 0
          failed + after.failures id runs

section

variable {store : Store} {id : String} {row later : Grievance}
  {run : DispatchRun}

theorem Unsubmitted.of_counted (enabled : dispatchDisabled row = false)
    (status : later.status = refusedStatus row) : Unsubmitted row later := by
  refine ⟨enabled, ?_⟩
  rw [status]
  unfold refusedStatus
  split <;> exact nofun

/-- A run that is borne ends in `submitted`, or fails and is counted. -/
theorem Left.counts (enabled : dispatchDisabled row = false)
    (borne : run.Borne row)
    (left : Left row later (run.statusLeft row) (run.attemptsLeft row)) :
    (later.status = .submitted ∧ ¬ Unsubmitted row later ∧
      later.dispatchAttempts = row.dispatchAttempts) ∨
    (later.status = refusedStatus row ∧ Unsubmitted row later ∧
      later.dispatchAttempts = row.dispatchAttempts + 1) := by
  obtain ⟨status, attempts, _, _⟩ := left
  unfold DispatchRun.statusLeft at status
  unfold DispatchRun.attemptsLeft at attempts
  rw [enabled, if_neg nofun] at status attempts
  cases ended : run.ending row with
  | escaped => exact absurd borne (run.ending_escaped row |>.mp ended)
  | submitted ref =>
      rw [ended] at status attempts
      exact .inl ⟨status, fun fails => fails.2 status, attempts⟩
  | counted =>
      rw [ended] at status attempts
      exact .inr ⟨status, .of_counted enabled status, attempts⟩

/-- A run that is not borne fails, and is not counted. -/
theorem Left.uncounted (enabled : dispatchDisabled row = false)
    (unborne : ¬ run.Borne row)
    (left : Left row later (run.statusLeft row) (run.attemptsLeft row)) :
    Unsubmitted row later ∧ later.status = .dispatching ∧
      later.dispatchAttempts = row.dispatchAttempts := by
  obtain ⟨status, attempts, _, _⟩ := left
  unfold DispatchRun.statusLeft at status
  unfold DispatchRun.attemptsLeft at attempts
  rw [enabled, if_neg nofun, (run.ending_escaped row).mpr unborne] at status
  rw [enabled, if_neg nofun, (run.ending_escaped row).mpr unborne] at attempts
  refine ⟨⟨enabled, ?_⟩, status, attempts⟩
  rw [status]
  exact nofun

end

end JanSetu.Pipeline
