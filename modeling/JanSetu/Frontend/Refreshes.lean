import JanSetu.Frontend.Client
import Mathlib.Data.List.Nodup

/-!
# One refresh for all who wait

What an event of the client changes, which uses of `fetch` a call makes, and
which refresh a call goes on with.
-/

namespace JanSetu.Frontend

open SingleFlight (Promise Slot)

/-- The stages after the last `fetch`. -/
def CallStage.Fetched {Body : Type*} : CallStage Body → Prop
  | .fetching | .refreshing _ => False
  | .readingError _ _ | .reading | .settled _ => True

namespace Sent

variable {Init : Type*}

def url : Sent Init → String
  | .own _ url _ _ => url
  | .refresh _ url => url

def byCall (id : Nat) : Sent Init → Bool
  | .own other _ _ _ => other = id
  | .refresh _ _ => false

def refreshId? : Sent Init → Option Nat
  | .own _ _ _ _ => none
  | .refresh id _ => some id

end Sent

namespace Client

variable {Init Body : Type*}

/-! ## What an event changes -/

variable {apiBase : String} {client next : Client Init Body}
  {event : Event Init Body} {id refresh : Nat}

def Waits (client : Client Init Body) (id refresh : Nat) : Prop :=
  ∃ asked, client.calls[id]? =
    some { asked := asked, stage := .refreshing refresh }

/-- The slot, the calls and the log after an event. -/
inductive Change (apiBase : String) (client next : Client Init Body) :
    Prop where
  | stays :
      next.calls = client.calls → next.log = client.log →
      next.refresh = client.refresh → Change apiBase client next
  | begins (path : String) (options : RequestOptions Init)
      (authorization : Option String) :
      next.calls = client.calls ++
        [{ asked := .request path options, stage := .fetching }] →
      next.log = .own client.calls.length (apiBase ++ path) options.init
        authorization :: client.log →
      next.refresh = client.refresh → Change apiBase client next
  | restores :
      next.calls = client.calls ++
        [{ asked := .restoreSession
           stage := .refreshing (client.refreshAccessToken apiBase).1 }] →
      next.log = (client.refreshAccessToken apiBase).2.log →
      next.refresh = (client.refresh.join .fetching).2 →
      Change apiBase client next
  | joins (id : Nat) (path : String) (options : RequestOptions Init) :
      client.calls[id]? =
        some { asked := .request path options, stage := .fetching } →
      options.isRetry = false →
      next.calls = client.calls.set id
        { asked := .request path options
          stage := .refreshing (client.refreshAccessToken apiBase).1 } →
      next.log = (client.refreshAccessToken apiBase).2.log →
      next.refresh = (client.refresh.join .fetching).2 →
      Change apiBase client next
  | retries (id refresh : Nat) (path : String) (options : RequestOptions Init)
      (authorization : Option String) :
      client.calls[id]? =
        some { asked := .request path options
               stage := .refreshing refresh } →
      next.calls = client.calls.set id
        { asked := .request path { options with isRetry := true }
          stage := .fetching } →
      next.log = .own id (apiBase ++ path) options.init authorization ::
        client.log →
      next.refresh = client.refresh → Change apiBase client next
  | ends (id : Nat) (asked : Asked Init) (before after : CallStage Body) :
      client.calls[id]? = some { asked := asked, stage := before } →
      after.Fetched →
      next.calls = client.calls.set id { asked := asked, stage := after } →
      next.log = client.log → next.refresh = client.refresh →
      Change apiBase client next
  | advances (id : Nat) (stage : RefreshStage) :
      client.refresh.Outstanding id →
      next.calls = client.calls → next.log = client.log →
      next.refresh = client.refresh.advance id stage →
      Change apiBase client next
  | lands (id : Nat) (result : Option String) :
      client.refresh.Outstanding id →
      next.calls = client.calls → next.log = client.log →
      next.refresh = client.refresh.settle id result →
      Change apiBase client next

theorem afterFetch_change {path : String} {options : RequestOptions Init}
    (fetching : client.calls[id]? =
      some { asked := .request path options, stage := .fetching })
    (outcome : FetchOutcome) :
    Change apiBase client
      (client.afterFetch apiBase id path options outcome) := by
  cases outcome with
  | rejected => exact .ends id _ _ _ fetching (by trivial) rfl rfl rfl
  | response status statusText =>
      dsimp only [afterFetch]
      split
      case isTrue expired =>
        have first : options.isRetry = false := by
          simp only [Bool.and_eq_true, Bool.not_eq_true'] at expired
          exact expired.2
        exact .joins id path options fetching first rfl rfl rfl
      case isFalse =>
        split
        · exact .ends id _ _ _ fetching (by trivial) rfl rfl rfl
        · split
          · exact .ends id _ _ _ fetching (by trivial) rfl rfl rfl
          · exact .ends id _ _ _ fetching (by trivial) rfl rfl rfl

theorem afterRefresh_change {asked : Asked Init}
    (waiting : client.calls[id]? =
      some { asked := asked, stage := .refreshing refresh })
    (newToken : Option String) :
    Change apiBase client (client.afterRefresh apiBase id newToken asked) := by
  cases asked with
  | restoreSession => exact .ends id _ _ _ waiting (by trivial) rfl rfl rfl
  | request path options =>
      dsimp only [afterRefresh]
      split
      · exact .retries id refresh path options _ waiting rfl rfl rfl
      · exact .ends id _ _ _ waiting (by trivial) rfl rfl rfl

theorem afterRefreshFetch_change
    (pending : client.refresh.promises[id]? = some (.pending .fetching))
    (outcome : FetchOutcome) :
    Change apiBase client (client.afterRefreshFetch id outcome) := by
  cases outcome with
  | rejected => exact .lands id none ⟨_, pending⟩ rfl rfl rfl
  | response status statusText =>
      dsimp only [afterRefreshFetch]
      split
      · exact .advances id .reading ⟨_, pending⟩ rfl rfl rfl
      · exact .lands id none ⟨_, pending⟩ rfl rfl rfl

theorem afterRefreshRead_change
    (pending : client.refresh.promises[id]? = some (.pending .reading))
    (body : RefreshBody) :
    Change apiBase client (client.afterRefreshRead id body) := by
  cases body with
  | notJson | null => exact .lands id none ⟨_, pending⟩ rfl rfl rfl
  | object accessToken =>
      exact .lands id accessToken ⟨_, pending⟩ rfl rfl rfl

theorem step_change (taken : client.step apiBase event = some next) :
    Change apiBase client next := by
  cases event with
  | request path options =>
      cases taken
      exact .begins path options _ rfl rfl rfl
  | restoreSession =>
      cases taken
      exact .restores rfl rfl rfl
  | fetched id outcome =>
      dsimp only [step] at taken
      split at taken
      case h_1 fetching =>
        cases taken
        exact afterFetch_change fetching outcome
      case h_2 => cases taken
  | refreshed id =>
      dsimp only [step] at taken
      split at taken
      case h_1 waiting =>
        split at taken
        case h_1 newToken _ =>
          cases taken
          exact afterRefresh_change waiting newToken
        case h_2 => cases taken
      case h_2 => cases taken
  | readError id body =>
      dsimp only [step] at taken
      split at taken
      case h_1 reading =>
        cases taken
        exact .ends id _ _ _ reading (by trivial) rfl rfl rfl
      case h_2 => cases taken
  | read id body =>
      dsimp only [step] at taken
      split at taken
      case h_1 reading =>
        cases body <;> cases taken <;>
          exact .ends id _ _ _ reading (by trivial) rfl rfl rfl
      case h_2 => cases taken
  | refreshFetched id outcome =>
      dsimp only [step] at taken
      split at taken
      case h_1 pending =>
        cases taken
        exact afterRefreshFetch_change pending outcome
      case h_2 => cases taken
  | refreshRead id body =>
      dsimp only [step] at taken
      split at taken
      case h_1 pending =>
        cases taken
        exact afterRefreshRead_change pending body
      case h_2 => cases taken
  | setAccessToken token =>
      cases taken
      exact .stays rfl rfl rfl
  | navigate pathname =>
      cases taken
      exact .stays rfl rfl rfl

/-! ## The uses of `fetch` -/

def own (client : Client Init Body) (id : Nat) : List (Sent Init) :=
  client.log.filter (·.byCall id)

def refreshesSent (client : Client Init Body) : List Nat :=
  client.log.filterMap (·.refreshId?)

/-- The refreshes that were sent and have not ended. -/
def outstanding (client : Client Init Body) : List Nat :=
  client.refreshesSent.filter fun id => client.refresh.Outstanding id

section

variable {other : Nat} {url : String} {init : Init}
  {authorization : Option String}

theorem own_of_log (log : next.log = client.log) :
    next.own id = client.own id := by
  rw [own, own, log]

theorem own_of_refresh
    (log : next.log = (client.refreshAccessToken apiBase).2.log) :
    next.own id = client.own id := by
  unfold own
  rw [log]
  dsimp only [refreshAccessToken]
  cases client.refresh.inFlight <;> simp [Sent.byCall]

theorem own_of_own
    (log : next.log = .own id url init authorization :: client.log) :
    next.own id = .own id url init authorization :: client.own id := by
  rw [own, own, log]
  simp [Sent.byCall]

theorem own_of_other (different : other ≠ id)
    (log : next.log = .own id url init authorization :: client.log) :
    next.own other = client.own other := by
  rw [own, own, log]
  simp [Sent.byCall, Ne.symm different]

theorem refreshesSent_of_own
    (log : next.log = .own id url init authorization :: client.log) :
    next.refreshesSent = client.refreshesSent := by
  have none : (Sent.own id url init authorization).refreshId? = none := rfl
  rw [refreshesSent, log, List.filterMap_cons_none none, refreshesSent]

/-- Every promise was made with a use of `fetch`, the last one first. -/
def AllSent (client : Client Init Body) : Prop :=
  client.refreshesSent =
    (List.range client.refresh.promises.length).reverse

theorem AllSent.of_same (sent : client.AllSent)
    (refreshes : next.refreshesSent = client.refreshesSent)
    (promises : next.refresh.promises.length =
      client.refresh.promises.length) : next.AllSent := by
  rw [AllSent, refreshes, promises, sent]

theorem refreshesSent_of_log (log : next.log = client.log) :
    next.refreshesSent = client.refreshesSent := by
  rw [refreshesSent, log, refreshesSent]

theorem AllSent.joined (sent : client.AllSent)
    (log : next.log = (client.refreshAccessToken apiBase).2.log)
    (joined : next.refresh = (client.refresh.join .fetching).2) :
    next.AllSent := by
  unfold AllSent refreshesSent at sent ⊢
  rw [log, joined]
  dsimp only [refreshAccessToken]
  cases kept : client.refresh.inFlight with
  | some id => simpa [Slot.join, kept] using sent
  | none =>
      have made : (Sent.refresh client.refresh.promises.length
          (apiBase ++ "/auth/refresh") : Sent Init).refreshId? =
          some client.refresh.promises.length := rfl
      simp only [Slot.join, kept]
      rw [List.filterMap_cons_some made, sent, List.length_append,
        List.length_singleton, List.range_succ, List.reverse_concat]

end

/-! ## What holds of every call -/

end Client

/-- How often a call may have used `fetch` for its own path. -/
def Call.allowance {Init Body : Type*} (call : Call Init Body) : Nat :=
  match call.asked with
  | .request _ options => if options.isRetry then 2 else 1
  | .restoreSession => 0

structure Call.Sound {Init Body : Type*} (apiBase : String)
    (sent : List (Sent Init)) (call : Call Init Body) : Prop where
  length_le : sent.length ≤ call.allowance
  urls : ∀ one ∈ sent, ∃ path options,
    call.asked = .request path options ∧ one.url = apiBase ++ path
  /-- A call that was made again waits for no refresh. -/
  waitsOnce : ∀ path options refresh,
    call = { asked := .request path options
             stage := .refreshing refresh } → options.isRetry = false

namespace Client

variable {Init Body : Type*} {apiBase : String}
  {client next : Client Init Body} {event : Event Init Body}
  {id refresh : Nat} {call : Call Init Body}

structure Sound (apiBase : String) (client : Client Init Body) : Prop where
  slot : client.refresh.Sound
  sent : client.AllSent
  calls : ∀ id (call : Call Init Body), client.calls[id]? = some call →
    call.Sound apiBase (client.own id)
  unused : ∀ id, client.calls[id]? = none → client.own id = []

theorem Sound.keep (sound : client.Sound apiBase)
    (slot : next.refresh.Sound) (sent : next.AllSent)
    (calls : next.calls = client.calls) (log : next.log = client.log) :
    next.Sound apiBase where
  slot := slot
  sent := sent
  calls := fun id call found => by
    rw [own_of_log log]
    exact sound.calls id call (calls ▸ found)
  unused := fun id absent => by
    rw [own_of_log log]
    exact sound.unused id (calls ▸ absent)

/-- A new call, with what it sent. -/
theorem Sound.add (sound : client.Sound apiBase)
    (slot : next.refresh.Sound) (sent : next.AllSent)
    (calls : next.calls = client.calls ++ [call])
    (others : ∀ other, other ≠ client.calls.length →
      next.own other = client.own other)
    (new : call.Sound apiBase (next.own client.calls.length)) :
    next.Sound apiBase where
  slot := slot
  sent := sent
  calls := by
    intro id found present
    rw [calls] at present
    rcases Nat.lt_trichotomy id client.calls.length with before | rfl | after
    · rw [List.getElem?_append_left before] at present
      rw [others id (Nat.ne_of_lt before)]
      exact sound.calls id found present
    · rw [List.getElem?_concat_length] at present
      cases present
      exact new
    · have inside := (List.getElem?_eq_some_iff.mp present).1
      rw [List.length_append, List.length_singleton] at inside
      omega
  unused := by
    intro id absent
    rw [calls, List.getElem?_eq_none_iff, List.length_append,
      List.length_singleton] at absent
    rw [others id (by omega)]
    exact sound.unused id (List.getElem?_eq_none_iff.mpr (by omega))

/-- A call that goes on, with what it sent. -/
theorem Sound.set {before : Call Init Body} (sound : client.Sound apiBase)
    (slot : next.refresh.Sound) (sent : next.AllSent)
    (found : client.calls[id]? = some before)
    (calls : next.calls = client.calls.set id call)
    (others : ∀ other, other ≠ id → next.own other = client.own other)
    (moved : call.Sound apiBase (next.own id)) :
    next.Sound apiBase where
  slot := slot
  sent := sent
  calls := by
    intro other one present
    have inside := (List.getElem?_eq_some_iff.mp found).1
    rw [calls] at present
    by_cases same : other = id
    · subst same
      rw [List.getElem?_set_self inside] at present
      cases present
      exact moved
    · rw [List.getElem?_set_ne (Ne.symm same)] at present
      rw [others other same]
      exact sound.calls other one present
  unused := by
    intro other absent
    rw [calls, List.getElem?_eq_none_iff, List.length_set,
      ← List.getElem?_eq_none_iff] at absent
    have different : other ≠ id := by
      rintro rfl
      rw [found] at absent
      cases absent
    rw [others other different]
    exact sound.unused other absent

theorem Change.sound (sound : client.Sound apiBase)
    (change : Change apiBase client next) : next.Sound apiBase := by
  cases change with
  | stays calls log refresh =>
      exact sound.keep (refresh ▸ sound.slot)
        (sound.sent.of_same (refreshesSent_of_log log) (by rw [refresh]))
        calls log
  | begins path options authorization calls log refresh =>
      refine sound.add (refresh ▸ sound.slot)
        (sound.sent.of_same (refreshesSent_of_own log) (by rw [refresh])) calls
        (fun other different => own_of_other different log) ?_
      have none : client.own client.calls.length = [] :=
        sound.unused _ (List.getElem?_eq_none_iff.mpr (Nat.le_refl _))
      rw [own_of_own log, none]
      constructor
      · simp only [List.length_singleton, Call.allowance]
        split <;> omega
      · intro one member
        cases List.mem_singleton.mp member
        exact ⟨path, options, rfl, rfl⟩
      · nofun
  | restores calls log refresh =>
      refine sound.add (refresh ▸ Slot.join_sound sound.slot _)
        (sound.sent.joined log refresh) calls
        (fun other _ => own_of_refresh log) ?_
      have none : client.own client.calls.length = [] :=
        sound.unused _ (List.getElem?_eq_none_iff.mpr (Nat.le_refl _))
      rw [own_of_refresh log, none]
      exact ⟨Nat.zero_le _, nofun, nofun⟩
  | joins id path options found first calls log refresh =>
      have before := sound.calls id _ found
      refine sound.set (refresh ▸ Slot.join_sound sound.slot _)
        (sound.sent.joined log refresh) found calls
        (fun other _ => own_of_refresh log) ?_
      rw [own_of_refresh log]
      refine ⟨before.length_le, before.urls, ?_⟩
      rintro _ _ _ same
      cases same
      exact first
  | retries id waited path options authorization found calls log refresh =>
      have before := sound.calls id _ found
      have first := before.waitsOnce path options waited rfl
      refine sound.set (refresh ▸ sound.slot)
        (sound.sent.of_same (refreshesSent_of_own log) (by rw [refresh])) found
        calls (fun other different => own_of_other different log) ?_
      rw [own_of_own log]
      constructor
      · have once : (client.own id).length ≤ 1 := by
          simpa [Call.allowance, first] using before.length_le
        simpa [Call.allowance] using once
      · rw [List.forall_mem_cons]
        refine ⟨⟨path, _, rfl, rfl⟩, ?_⟩
        intro one member
        obtain ⟨_, _, asked, spelled⟩ := before.urls one member
        cases asked
        exact ⟨path, _, rfl, spelled⟩
      · rintro _ _ _ same
        cases same
  | ends id asked before after found fetched calls log refresh =>
      have sent := sound.calls id _ found
      refine sound.set (refresh ▸ sound.slot)
        (sound.sent.of_same (refreshesSent_of_log log) (by rw [refresh])) found
        calls (fun other _ => own_of_log log) ?_
      rw [own_of_log log]
      refine ⟨sent.length_le, sent.urls, ?_⟩
      rintro _ _ _ same
      cases same
      exact fetched.elim
  | advances id stage outstanding calls log refresh =>
      exact sound.keep (refresh ▸ Slot.advance_sound sound.slot outstanding)
        (sound.sent.of_same (refreshesSent_of_log log)
          (by rw [refresh]; exact List.length_set)) calls log
  | lands id result outstanding calls log refresh =>
      exact sound.keep (refresh ▸ Slot.settle_sound sound.slot outstanding)
        (sound.sent.of_same (refreshesSent_of_log log)
          (by rw [refresh]; exact List.length_set)) calls log

theorem sound_loaded (pathname : String) :
    (loaded pathname : Client Init Body).Sound apiBase :=
  { slot := Slot.sound_empty
    sent := rfl
    calls := fun _ _ present => by cases present
    unused := fun _ _ => rfl }

theorem system_sound (reachable : (system apiBase).Reachable client) :
    client.Sound apiBase := by
  refine reachable.invariant ?_ ?_
  · rintro _ ⟨pathname, rfl⟩
    exact sound_loaded pathname
  · intro state event next _ sound _ taken
    exact (step_change taken).sound sound

/-! ## Waiting for a refresh -/

/-- The calls after an event are those before it, one added or one moved. -/
theorem waits_append (calls : next.calls = client.calls ++ [call])
    (waits : next.Waits id refresh) :
    call.stage = .refreshing refresh ∨ client.Waits id refresh := by
  obtain ⟨asked, found⟩ := waits
  rw [calls, List.getElem?_append] at found
  split at found
  · exact .inr ⟨asked, found⟩
  · rw [List.getElem?_singleton] at found
    split at found
    · cases found
      exact .inl rfl
    · cases found

theorem waits_set {other : Nat} (calls : next.calls = client.calls.set other call)
    (waits : next.Waits id refresh) :
    call.stage = .refreshing refresh ∨ client.Waits id refresh := by
  obtain ⟨asked, found⟩ := waits
  rw [calls, List.getElem?_set] at found
  split at found
  · split at found
    · cases found
      exact .inl rfl
    · cases found
  · exact .inr ⟨asked, found⟩

/-- A call begins to wait only for a refresh that is outstanding. -/
theorem Change.waits (sound : client.refresh.Sound)
    (change : Change apiBase client next) (waits : next.Waits id refresh) :
    client.Waits id refresh ∨ next.refresh.Outstanding refresh := by
  have joined (same : (.refreshing (client.refreshAccessToken apiBase).1 :
      CallStage Body) = .refreshing refresh)
      (slot : next.refresh = (client.refresh.join .fetching).2) :
      next.refresh.Outstanding refresh := by
    cases same
    rw [slot]
    exact Slot.join_outstanding sound .fetching
  cases change with
  | stays calls _ _ | advances _ _ _ calls _ _ | lands _ _ _ calls _ _ =>
      obtain ⟨asked, found⟩ := waits
      exact .inl ⟨asked, calls ▸ found⟩
  | begins _ _ _ calls _ _ =>
      rcases waits_append calls waits with same | before
      · cases same
      · exact .inl before
  | restores calls _ slot =>
      rcases waits_append calls waits with same | before
      · exact .inr (joined same slot)
      · exact .inl before
  | joins _ _ _ _ _ calls _ slot =>
      rcases waits_set calls waits with same | before
      · exact .inr (joined same slot)
      · exact .inl before
  | retries _ _ _ _ _ _ calls _ _ =>
      rcases waits_set calls waits with same | before
      · cases same
      · exact .inl before
  | ends _ _ _ after _ fetched calls _ _ =>
      rcases waits_set calls waits with same | before
      · cases same
        exact fetched.elim
      · exact .inl before

end Client

/-- The call waits for this refresh, or is past waiting for one. -/
def Call.HeldTo {Init Body : Type*} (refresh : Nat) (call : Call Init Body) :
    Prop :=
  call.stage = .refreshing refresh ∨ call.stage.Fetched ∨
    (call.stage = .fetching ∧ ∃ path options,
      call.asked = .request path options ∧ options.isRetry = true)

namespace Client

variable {Init Body : Type*} {apiBase : String}
  {client next : Client Init Body} {event : Event Init Body}
  {id refresh : Nat} {call : Call Init Body} {result : Option String}

def HeldTo (client : Client Init Body) (id refresh : Nat) : Prop :=
  ∃ call, client.calls[id]? = some call ∧ call.HeldTo refresh

theorem HeldTo.append (held : client.HeldTo id refresh)
    (calls : next.calls = client.calls ++ [call]) :
    next.HeldTo id refresh := by
  obtain ⟨before, found, past⟩ := held
  have inside := (List.getElem?_eq_some_iff.mp found).1
  refine ⟨before, ?_, past⟩
  rw [calls, List.getElem?_append_left inside, found]

theorem HeldTo.set {other : Nat} (held : client.HeldTo id refresh)
    (calls : next.calls = client.calls.set other call)
    (moved : id = other → call.HeldTo refresh) : next.HeldTo id refresh := by
  obtain ⟨before, found, past⟩ := held
  have inside := (List.getElem?_eq_some_iff.mp found).1
  by_cases same : id = other
  · subst same
    exact ⟨call, by rw [calls, List.getElem?_set_self inside], moved rfl⟩
  · refine ⟨before, ?_, past⟩
    rw [calls, List.getElem?_set_ne (Ne.symm same), found]

theorem Change.heldTo (change : Change apiBase client next)
    (held : client.HeldTo id refresh) : next.HeldTo id refresh := by
  cases change with
  | stays calls _ _ | advances _ _ _ calls _ _ | lands _ _ _ calls _ _ =>
      obtain ⟨before, found, past⟩ := held
      exact ⟨before, calls ▸ found, past⟩
  | begins _ _ _ calls _ _ | restores calls _ _ => exact held.append calls
  | joins other path options fetching first calls _ _ =>
      refine held.set calls ?_
      rintro rfl
      -- a call that fetches for the first time is not held to a refresh
      obtain ⟨before, found, past⟩ := held
      cases fetching.symm.trans found
      rcases past with waiting | fetched | ⟨_, _, _, asked, retry⟩
      · cases waiting
      · exact fetched.elim
      · cases asked
        rw [first] at retry
        cases retry
  | retries _ _ path options _ _ calls _ _ =>
      exact held.set calls fun _ => .inr (.inr ⟨rfl, path, _, rfl, rfl⟩)
  | ends _ _ _ _ _ fetched calls _ _ =>
      exact held.set calls fun _ => .inr (.inl fetched)

theorem Change.settledWith (change : Change apiBase client next)
    (settled : client.refresh.SettledWith refresh result) :
    next.refresh.SettledWith refresh result := by
  cases change with
  | stays _ _ slot | begins _ _ _ _ _ slot | retries _ _ _ _ _ _ _ _ slot
  | ends _ _ _ _ _ _ _ _ slot =>
      rw [slot]
      exact settled
  | restores _ _ slot | joins _ _ _ _ _ _ _ slot =>
      rw [slot]
      exact Slot.join_settledWith settled
  | advances _ _ outstanding _ _ slot =>
      rw [slot]
      exact Slot.advance_settledWith outstanding settled
  | lands _ _ outstanding _ _ slot =>
      rw [slot]
      exact Slot.settle_settledWith outstanding settled

/-! ## Single flight -/

/-- A call that waits goes on, whenever it does, with the result the refresh
settled with, and that result stays. -/
def GetsResult (apiBase : String) (client : Client Init Body)
    (id refresh : Nat) : Prop :=
  ∀ events final next,
    (system apiBase).RunWhen Transition.System.Always client events final →
    final.step apiBase (.refreshed id) = some next →
    ∃ asked result,
      final.calls[id]? =
        some { asked := asked, stage := .refreshing refresh } ∧
      final.refresh.SettledWith refresh result ∧
      next = final.afterRefresh apiBase id result asked ∧
      ∀ events later,
        (system apiBase).RunWhen Transition.System.Always final events later →
        later.refresh.SettledWith refresh result

structure SingleFlight (apiBase : String) (client : Client Init Body) :
    Prop where
  atMostOne : client.outstanding.length ≤ 1
  joinsOutstanding : ∀ event next id refresh,
    client.step apiBase event = some next → next.Waits id refresh →
      ¬ client.Waits id refresh → refresh ∈ next.outstanding
  sameResult : ∀ id refresh, client.Waits id refresh →
    client.GetsResult apiBase id refresh
  wakes : ∀ id refresh result, client.Waits id refresh →
    client.refresh.SettledWith refresh result →
      ∃ next, client.step apiBase (.refreshed id) = some next
  atMostTwice : ∀ id path options stage,
    client.calls[id]? =
        some { asked := .request path options, stage := stage } →
      (client.own id).length ≤ 2 ∧
        ∀ sent ∈ client.own id, sent.url = apiBase ++ path
  /-- When a refresh ends, none is outstanding. -/
  lands : ∀ event next refresh, refresh ∈ client.outstanding →
    client.step apiBase event = some next → refresh ∉ next.outstanding →
      next.outstanding = []
  /-- Then a 401 sends a new one. -/
  again : client.outstanding = [] → ∀ id path options statusText,
    client.calls[id]? =
        some { asked := .request path options, stage := .fetching } →
      options.auth = true → options.isRetry = false →
        ∃ next, client.step apiBase (.fetched id (.response 401 statusText)) =
            some next ∧
          next.outstanding = [client.refresh.promises.length] ∧
          next.Waits id client.refresh.promises.length

theorem mem_outstanding (sound : client.Sound apiBase) :
    refresh ∈ client.outstanding ↔ client.refresh.Outstanding refresh := by
  rw [outstanding, List.mem_filter, sound.sent, List.mem_reverse,
    List.mem_range, decide_eq_true_iff]
  exact and_iff_right_of_imp Slot.Outstanding.lt

theorem outstanding_nodup (sound : client.Sound apiBase) :
    client.outstanding.Nodup := by
  unfold outstanding
  rw [sound.sent]
  exact (List.nodup_reverse.mpr List.nodup_range).filter _

theorem length_outstanding (sound : client.Sound apiBase) :
    client.outstanding.length ≤ 1 := by
  have nodup := outstanding_nodup sound
  cases refreshes : client.outstanding with
  | nil => exact Nat.zero_le 1
  | cons one rest =>
      cases rest with
      | nil => exact Nat.le_refl 1
      | cons two rest =>
          rw [refreshes] at nodup
          have first : client.refresh.Outstanding one := by
            rw [← mem_outstanding sound, refreshes]
            exact List.mem_cons_self
          have second : client.refresh.Outstanding two := by
            rw [← mem_outstanding sound, refreshes]
            exact List.mem_cons_of_mem _ List.mem_cons_self
          have same := sound.slot.unique first second
          simp [same] at nodup

theorem outstanding_eq_nil (sound : client.Sound apiBase) :
    client.outstanding = [] ↔ ∀ id, ¬ client.refresh.Outstanding id := by
  rw [List.eq_nil_iff_forall_not_mem]
  exact forall_congr' fun id => not_congr (mem_outstanding sound)

theorem outstanding_eq_singleton (sound : client.Sound apiBase)
    (outstanding : client.refresh.Outstanding refresh) :
    client.outstanding = [refresh] := by
  have member := (mem_outstanding sound).mpr outstanding
  have short := length_outstanding sound
  obtain ⟨one, alone⟩ := List.length_eq_one_iff.mp
    (Nat.le_antisymm short (List.length_pos_of_mem member))
  rw [alone] at member ⊢
  rw [List.mem_singleton.mp member]

theorem Waits.getsResult (waits : client.Waits id refresh) :
    client.GetsResult apiBase id refresh := by
  intro events final next runs goesOn
  obtain ⟨asked, found⟩ := waits
  have held : final.HeldTo id refresh :=
    runs.preserves (fun client => client.HeldTo id refresh)
      (fun _ _ _ before _ taken => (step_change taken).heldTo before)
      ⟨_, found, .inl rfl⟩
  obtain ⟨call, present, past⟩ := held
  unfold step at goesOn
  dsimp only at goesOn
  split at goesOn
  case h_2 => cases goesOn
  case h_1 asked waited waiting =>
    cases waiting.symm.trans present
    have same : waited = refresh := by
      rcases past with same | fetched | ⟨fetching, _⟩
      · cases same
        rfl
      · exact fetched.elim
      · cases fetching
    subst same
    split at goesOn
    case h_2 => cases goesOn
    case h_1 result settled =>
      cases goesOn
      refine ⟨asked, result, waiting, settled, rfl, ?_⟩
      intro events later runs
      exact runs.preserves
        (fun client => client.refresh.SettledWith waited result)
        (fun _ _ _ before _ taken => (step_change taken).settledWith before)
        settled

theorem Waits.wakes (waits : client.Waits id refresh)
    (settled : client.refresh.SettledWith refresh result) :
    ∃ next, client.step apiBase (.refreshed id) = some next := by
  obtain ⟨asked, found⟩ := waits
  refine ⟨client.afterRefresh apiBase id result asked, ?_⟩
  unfold Slot.SettledWith at settled
  simp only [step, found, settled]

/-- A refresh ends only by settling. -/
theorem Change.landed (sound : client.refresh.Sound)
    (change : Change apiBase client next)
    (outstanding : client.refresh.Outstanding refresh)
    (ended : ¬ next.refresh.Outstanding refresh) (other : Nat) :
    ¬ next.refresh.Outstanding other := by
  have joined (slot : next.refresh = (client.refresh.join .fetching).2) :
      next.refresh.Outstanding refresh := by
    rw [slot, Slot.join, (sound refresh).mp outstanding]
    exact outstanding
  cases change with
  | stays _ _ slot | begins _ _ _ _ _ slot | retries _ _ _ _ _ _ _ _ slot
  | ends _ _ _ _ _ _ _ _ slot =>
      rw [slot] at ended
      exact absurd outstanding ended
  | restores _ _ slot | joins _ _ _ _ _ _ _ slot =>
      exact absurd (joined slot) ended
  | advances id stage pending _ _ slot =>
      have same := sound.unique pending outstanding
      subst same
      rw [slot] at ended
      exact absurd ⟨stage, List.getElem?_set_self outstanding.lt⟩ ended
  | lands id result pending _ _ slot =>
      rw [slot]
      exact Slot.settle_landed sound pending other

theorem Sound.again (sound : client.Sound apiBase) {path statusText : String}
    {options : RequestOptions Init} (landed : client.outstanding = [])
    (fetching : client.calls[id]? =
      some { asked := .request path options, stage := .fetching })
    (auth : options.auth = true) (first : options.isRetry = false) :
    ∃ next, client.step apiBase (.fetched id (.response 401 statusText)) =
        some next ∧
      next.outstanding = [client.refresh.promises.length] ∧
      next.Waits id client.refresh.promises.length := by
  have inside := (List.getElem?_eq_some_iff.mp fetching).1
  have made := Slot.join_of_landed sound.slot
    ((outstanding_eq_nil sound).mp landed) RefreshStage.fetching
  have taken : client.step apiBase (.fetched id (.response 401 statusText)) =
      some ((client.refreshAccessToken apiBase).2.setStage id
        (.request path options)
        (.refreshing (client.refreshAccessToken apiBase).1)) := by
    simp [step, fetching, afterFetch, auth, first]
  have pending := Slot.join_outstanding sound.slot RefreshStage.fetching
  rw [made] at pending
  refine ⟨_, taken, outstanding_eq_singleton
    ((step_change taken).sound sound) pending, .request path options, ?_⟩
  have number : (client.refreshAccessToken apiBase).1 =
      client.refresh.promises.length := made
  rw [setStage, number]
  exact List.getElem?_set_self inside

/-- In every interleaving at most one refresh is outstanding, who waits gets
the result of the one that was when it began to wait, a request is sent at most
twice, and once a refresh has ended a 401 starts another. -/
theorem single_flight (reachable : (system apiBase).Reachable client) :
    client.SingleFlight apiBase := by
  have sound := system_sound reachable
  refine
    { atMostOne := length_outstanding sound
      joinsOutstanding := ?_
      sameResult := fun _ _ waits => waits.getsResult
      wakes := fun _ _ _ waits settled => waits.wakes settled
      atMostTwice := ?_
      lands := ?_
      again := fun landed _ _ _ _ fetching auth first =>
        sound.again landed fetching auth first }
  · intro event next id refresh taken waits before
    have change := step_change taken
    rw [mem_outstanding (change.sound sound)]
    exact (change.waits sound.slot waits).resolve_left before
  · intro id path options stage found
    have sent := sound.calls id _ found
    constructor
    · refine Nat.le_trans sent.length_le ?_
      simp only [Call.allowance]
      split <;> omega
    · intro one member
      obtain ⟨_, _, asked, spelled⟩ := sent.urls one member
      cases asked
      exact spelled
  · intro event next refresh outstanding taken ended
    have change := step_change taken
    have after := change.sound sound
    rw [mem_outstanding sound] at outstanding
    rw [mem_outstanding after] at ended
    exact (outstanding_eq_nil after).mpr
      (change.landed sound.slot outstanding ended)

/-- Two requests find the token expired and wait for one refresh. -/
def twoExpired : Client Unit String :=
  { memoryToken := none
    pathname := "/track"
    refresh := { inFlight := some 0, promises := [.pending .fetching] }
    calls :=
      [{ asked := .request "/grievances" ⟨true, false, ()⟩
         stage := .refreshing 0 },
        { asked := .request "/profile" ⟨true, false, ()⟩
          stage := .refreshing 0 }]
    log :=
      [.refresh 0 "/api/auth/refresh", .own 1 "/api/profile" () none,
        .own 0 "/api/grievances" () none] }

theorem single_flight_two_requests : twoExpired.SingleFlight "/api" := by
  have ran : (system "/api").run (loaded "/track")
      [.request "/grievances" ⟨true, false, ()⟩,
        .request "/profile" ⟨true, false, ()⟩,
        .fetched 1 (.response 401 "Unauthorized"),
        .fetched 0 (.response 401 "Unauthorized")] = some twoExpired := by
    decide
  exact single_flight ⟨loaded "/track", _, ⟨"/track", rfl⟩,
    Transition.System.runWhen_of_run (fun _ _ _ => trivial) ran⟩

end Client

end JanSetu.Frontend
