import Mathlib.Algebra.Order.Group.Defs
import Mathlib.Algebra.Order.Sub.Basic
import Mathlib.Order.Bounds.Basic

/-!
# Slots of a shared rate limit

Callers of a shared resource are given slots, one after the other.  A slot is
neither before the caller has asked nor before the slot of the caller before
it has passed by that caller's interval, and it is the least such time.  Who
remembers the end of the last interval and nothing else can give such slots.
-/

universe u

structure Grant (Moment : Type u) where
  now : Moment
  slot : Moment
  interval : Moment
  wait : Moment
deriving DecidableEq

namespace Grant

variable {Moment : Type u} [AddCommGroup Moment] [LinearOrder Moment]

/-- A caller that asks at `now`, after the grants of `earlier` with the last
one first, may be given this time. -/
def Open (earlier : List (Grant Moment)) (now time : Moment) : Prop :=
  now ≤ time ∧
    ∀ previous ∈ earlier.head?, previous.slot + previous.interval ≤ time

structure Fits (earlier : List (Grant Moment)) (grant : Grant Moment) :
    Prop where
  least : IsLeast {time | Open earlier grant.now time} grant.slot
  wait : grant.wait = grant.slot - grant.now

/-- Each of the grants, the last one first, fits those before it. -/
inductive Spaced : List (Grant Moment) → Prop where
  | nil : Spaced []
  | cons {grant : Grant Moment} {earlier : List (Grant Moment)} :
      Fits earlier grant → Spaced earlier → Spaced (grant :: earlier)

/-- The end of the last interval, or no time at all before the first grant. -/
def upcoming (earlier : List (Grant Moment)) : Option Moment :=
  earlier.head?.map fun previous => previous.slot + previous.interval

/-- The grant to a caller who asks at `now`, when the next slot is not before
`next`. -/
def reserve (now next interval : Moment) : Grant Moment :=
  let slot := max now next
  { now := now, slot := slot, interval := interval
    wait := max 0 (slot - now) }

section

variable {earlier later : List (Grant Moment)} {grant : Grant Moment}
  {now next interval : Moment}

/-- The time that is remembered is the end of the last interval, or has passed
when there is none. -/
def Remembers (earlier : List (Grant Moment)) (now next : Moment) : Prop :=
  upcoming earlier = some next ∨ upcoming earlier = none ∧ next ≤ now

theorem Spaced.fits (spaced : Spaced (later ++ grant :: earlier)) :
    Fits earlier grant := by
  induction later with
  | nil =>
      cases spaced with
      | cons fits _ => exact fits
  | cons last later induction =>
      cases spaced with
      | cons _ spaced => exact induction spaced

variable [IsOrderedAddMonoid Moment]

theorem reserve_fits (remembers : Remembers earlier now next) :
    Fits earlier (reserve now next interval) := by
  have asked : now ≤ max now next := le_max_left now next
  constructor
  · cases earlier with
    | nil =>
        have passed : next ≤ now := by
          rcases remembers with same | ⟨_, passed⟩
          · cases same
          · exact passed
        refine ⟨⟨asked, by simp⟩, ?_⟩
        rintro time ⟨notBefore, _⟩
        exact max_le notBefore (passed.trans notBefore)
    | cons previous earlier =>
        have same : previous.slot + previous.interval = next := by
          rcases remembers with same | ⟨none, _⟩
          · exact Option.some.inj same
          · cases none
        refine ⟨⟨asked, ?_⟩, ?_⟩
        · intro other isPrevious
          cases isPrevious
          rw [same]
          exact le_max_right now next
        · rintro time ⟨notBefore, spaced⟩
          have after := spaced previous rfl
          rw [same] at after
          exact max_le notBefore after
  · exact max_eq_right (sub_nonneg.mpr asked)

/-- With intervals that are not negative any two slots are apart, not only
those that follow each other. -/
theorem Spaced.apart {grants : List (Grant Moment)} (spaced : Spaced grants)
    (nonneg : ∀ grant ∈ grants, 0 ≤ grant.interval) :
    grants.Pairwise fun later earlier =>
      earlier.slot + earlier.interval ≤ later.slot := by
  induction spaced with
  | nil => exact .nil
  | @cons grant earlier fits spaced induction =>
      have before := induction fun other member =>
        nonneg other (List.mem_cons_of_mem _ member)
      refine List.pairwise_cons.mpr ⟨?_, before⟩
      cases earlier with
      | nil => simp
      | cons previous earlier =>
          have follows : previous.slot + previous.interval ≤ grant.slot :=
            fits.least.1.2 previous rfl
          have waits : 0 ≤ previous.interval :=
            nonneg previous (by simp)
          intro other member
          rcases List.mem_cons.mp member with rfl | older
          · exact follows
          · have apart := List.rel_of_pairwise_cons before older
            calc other.slot + other.interval
                ≤ previous.slot := apart
              _ ≤ previous.slot + previous.interval :=
                  le_add_of_nonneg_right waits
              _ ≤ grant.slot := follows

/-- Times that are apart take their time. -/
theorem span_of_apart {slots : List Moment} {start finish interval : Moment}
    (apart : slots.Pairwise fun later earlier => earlier + interval ≤ later)
    (within : ∀ slot ∈ slots, start ≤ slot ∧ slot ≤ finish)
    (nonempty : slots ≠ []) :
    start + (slots.length - 1) • interval ≤ finish := by
  have last : ∀ slot ∈ slots.head?,
      start + (slots.length - 1) • interval ≤ slot := by
    clear nonempty
    induction slots with
    | nil => simp
    | cons slot slots induction =>
        obtain ⟨before, apart⟩ := List.pairwise_cons.mp apart
        have earlier := induction apart fun other member =>
          within other (List.mem_cons_of_mem _ member)
        intro same isHead
        cases isHead
        cases slots with
        | nil => simpa using (within slot List.mem_cons_self).1
        | cons previous slots =>
            calc start + (previous :: slots).length • interval
                = start + slots.length • interval + interval := by
                  rw [List.length_cons, succ_nsmul, add_assoc]
              _ ≤ previous + interval :=
                  add_le_add_left (earlier previous rfl) interval
              _ ≤ slot := before previous List.mem_cons_self
  cases slots with
  | nil => exact absurd rfl nonempty
  | cons slot slots =>
      exact (last slot rfl).trans (within slot List.mem_cons_self).2

end

end Grant
