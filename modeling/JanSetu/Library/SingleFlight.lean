import Mathlib.Tactic.TypeStar

/-!
# Single flight

Callers that share one asynchronous computation: the first starts it, those
that come while it is pending wait for the same promise, and the computation
itself empties the place it was kept in when it ends.  Promises are known by
their position among all that were made.
-/

namespace SingleFlight

inductive Promise (Stage Result : Type*) where
  | pending (stage : Stage)
  | settled (result : Result)
deriving DecidableEq

structure Slot (Stage Result : Type*) where
  inFlight : Option Nat
  promises : List (Promise Stage Result)
deriving DecidableEq

namespace Slot

variable {Stage Result : Type*}

def empty : Slot Stage Result :=
  { inFlight := none, promises := [] }

/-- The promise to wait for, made with its first stage if there is none. -/
def join (slot : Slot Stage Result) (first : Stage) :
    Nat × Slot Stage Result :=
  match slot.inFlight with
  | some id => (id, slot)
  | none =>
      (slot.promises.length,
        { inFlight := some slot.promises.length
          promises := slot.promises ++ [.pending first] })

def advance (slot : Slot Stage Result) (id : Nat) (stage : Stage) :
    Slot Stage Result :=
  { slot with promises := slot.promises.set id (.pending stage) }

/-- The end of the computation, which also gives up its place. -/
def settle (slot : Slot Stage Result) (id : Nat) (result : Result) :
    Slot Stage Result :=
  { inFlight := none
    promises := slot.promises.set id (.settled result) }

def Outstanding (slot : Slot Stage Result) (id : Nat) : Prop :=
  ∃ stage, slot.promises[id]? = some (.pending stage)

instance (slot : Slot Stage Result) (id : Nat) :
    Decidable (slot.Outstanding id) :=
  match found : slot.promises[id]? with
  | some (.pending stage) => isTrue ⟨stage, found⟩
  | some (.settled _) =>
      isFalse fun ⟨_, pending⟩ => nomatch found.symm.trans pending
  | none => isFalse fun ⟨_, pending⟩ => nomatch found.symm.trans pending

def SettledWith (slot : Slot Stage Result) (id : Nat) (result : Result) :
    Prop :=
  slot.promises[id]? = some (.settled result)

/-- The place holds the promise that is pending, if one is. -/
def Sound (slot : Slot Stage Result) : Prop :=
  ∀ id, slot.Outstanding id ↔ slot.inFlight = some id

variable {slot : Slot Stage Result} {id other : Nat} {first stage : Stage}
  {result : Result}

theorem Outstanding.lt (outstanding : slot.Outstanding id) :
    id < slot.promises.length := by
  obtain ⟨stage, found⟩ := outstanding
  exact (List.getElem?_eq_some_iff.mp found).1

theorem SettledWith.lt (settled : slot.SettledWith id result) :
    id < slot.promises.length :=
  (List.getElem?_eq_some_iff.mp settled).1

theorem not_outstanding_of_settledWith
    (settled : slot.SettledWith id result) : ¬ slot.Outstanding id := by
  rintro ⟨stage, pending⟩
  rw [SettledWith, pending] at settled
  cases settled

theorem sound_empty : (empty : Slot Stage Result).Sound := by
  intro id
  simp [empty, Outstanding]

theorem Sound.unique (sound : slot.Sound) (one : slot.Outstanding id)
    (two : slot.Outstanding other) : id = other := by
  have same : some id = some other := by
    rw [← (sound id).mp one, ← (sound other).mp two]
  exact Option.some.inj same

theorem Sound.inFlight_eq_none (sound : slot.Sound)
    (landed : ∀ id, ¬ slot.Outstanding id) : slot.inFlight = none :=
  Option.eq_none_iff_forall_ne_some.mpr fun id kept =>
    landed id ((sound id).mpr kept)

/-! ## Joining -/

theorem join_sound (sound : slot.Sound) (first : Stage) :
    (slot.join first).2.Sound := by
  unfold join
  cases kept : slot.inFlight with
  | some id => exact sound
  | none =>
      intro id
      have landed : ¬ slot.Outstanding id := by
        rw [sound, kept]
        intro same
        cases same
      rcases Nat.lt_trichotomy id slot.promises.length with before | rfl | after
      · have old : (slot.promises ++ [Promise.pending first])[id]? =
            slot.promises[id]? := List.getElem?_append_left before
        simp only [Outstanding, old, Option.some.injEq]
        exact ⟨fun pending => absurd pending landed,
          fun same => absurd same (Nat.ne_of_gt before)⟩
      · exact ⟨fun _ => rfl, fun _ => ⟨first, List.getElem?_concat_length⟩⟩
      · have absent : (slot.promises ++ [Promise.pending first])[id]? =
            none := by
          simp
          omega
        simp only [Outstanding, absent, Option.some.injEq]
        constructor
        · rintro ⟨stage, same⟩
          cases same
        · intro same
          exact absurd same (Nat.ne_of_lt after)

/-- Who joins waits for a promise that is pending. -/
theorem join_outstanding (sound : slot.Sound) (first : Stage) :
    (slot.join first).2.Outstanding (slot.join first).1 := by
  unfold join
  cases kept : slot.inFlight with
  | some id => exact (sound id).mpr kept
  | none => exact ⟨first, List.getElem?_concat_length⟩

theorem join_settledWith (settled : slot.SettledWith id result) :
    (slot.join first).2.SettledWith id result := by
  unfold join
  cases slot.inFlight with
  | some id => exact settled
  | none =>
      unfold SettledWith
      rw [List.getElem?_append_left settled.lt]
      exact settled

/-- With nothing pending a new promise is made. -/
theorem join_of_landed (sound : slot.Sound)
    (landed : ∀ id, ¬ slot.Outstanding id) (first : Stage) :
    (slot.join first).1 = slot.promises.length := by
  rw [join, sound.inFlight_eq_none landed]

/-! ## Going on and ending -/

theorem advance_sound (sound : slot.Sound)
    (outstanding : slot.Outstanding id) : (slot.advance id stage).Sound := by
  intro other
  have kept := sound other
  have inside := outstanding.lt
  by_cases same : id = other
  · subst same
    have pending : (slot.advance id stage).Outstanding id :=
      ⟨stage, List.getElem?_set_self inside⟩
    exact iff_of_true pending (kept.mp outstanding)
  · simpa [Outstanding, advance, List.getElem?_set, same] using kept

theorem advance_settledWith (outstanding : slot.Outstanding other)
    (settled : slot.SettledWith id result) :
    (slot.advance other stage).SettledWith id result := by
  have different : other ≠ id := by
    rintro rfl
    exact not_outstanding_of_settledWith settled outstanding
  simpa [SettledWith, advance, List.getElem?_set, different] using settled

theorem settle_landed (sound : slot.Sound)
    (outstanding : slot.Outstanding id) (other : Nat) :
    ¬ (slot.settle id result).Outstanding other := by
  rintro ⟨stage, pending⟩
  simp only [settle, List.getElem?_set] at pending
  split at pending
  case isTrue => split at pending <;> cases pending
  case isFalse different =>
    exact different (sound.unique outstanding ⟨stage, pending⟩)

theorem settle_sound (sound : slot.Sound)
    (outstanding : slot.Outstanding id) : (slot.settle id result).Sound :=
  fun other =>
    ⟨fun pending => absurd pending (settle_landed sound outstanding other),
      nofun⟩

theorem settle_settledWith {before : Result}
    (outstanding : slot.Outstanding other)
    (settled : slot.SettledWith id before) :
    (slot.settle other result).SettledWith id before := by
  have different : other ≠ id := by
    rintro rfl
    exact not_outstanding_of_settledWith settled outstanding
  simpa [SettledWith, settle, List.getElem?_set, different] using settled

end Slot

end SingleFlight
