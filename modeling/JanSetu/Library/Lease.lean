import JanSetu.Library.Process

/-!
# Claims with a number

Rows are claimed under a key, and each claim takes the next number of its key.
A process holds its claims until it reports them; a claim that has been taken
over is still held by whoever made it.  As long as only the last claim of a key
is reported, a key whose last claim is held is busy.
-/

universe u v w x y

namespace Process

structure Leases (Shared : Type u) (Local : Type v) (Key : Type y) where
  /-- The number of the last claim of a key. -/
  last : Shared → Key → Nat
  busy : Shared → Key → Prop
  held : Local → List (Key × Nat)

namespace Leases

variable {Shared : Type u} {Local : Type v} {Request : Type w}
  {Choice : Type x} {Key : Type y} {leases : Leases Shared Local Key}
  {program : Program Shared Local Request Choice}
  {allowed : World Shared Local → Label Request Choice → Prop}
  {shared after : Shared} {process : Local} {next : Option Local}

/-- The claim was numbered; while it is the last one, its key is busy. -/
def Counted (leases : Leases Shared Local Key) (shared : Shared)
    (claim : Key × Nat) : Prop :=
  claim.2 ≤ leases.last shared claim.1 ∧
    (claim.2 = leases.last shared claim.1 → leases.busy shared claim.1)

/-- Every claim that is held is counted, and none is held twice. -/
def counted (leases : Leases Shared Local Key) : Invariant Shared Local :=
  { shared := fun _ => True
    own := fun shared process =>
      ∀ claim ∈ leases.held process, leases.Counted shared claim
    pair := fun left right =>
      ∀ first ∈ leases.held left, ∀ second ∈ leases.held right,
        first ≠ second }

/-- What a step of a process may do to a key: keep it busy, claim it once more,
or report its last claim, which the process then no longer holds. -/
inductive Keeps (leases : Leases Shared Local Key) (shared : Shared)
    (process : Local) (after : Shared) (next : Option Local) (key : Key) :
    Prop where
  | kept :
      leases.last after key = leases.last shared key →
      (leases.busy shared key → leases.busy after key) →
      Keeps leases shared process after next key
  | claimed :
      leases.last shared key < leases.last after key →
      Keeps leases shared process after next key
  | reported :
      leases.last after key = leases.last shared key →
      (key, leases.last shared key) ∈ leases.held process →
      (∀ further, next = some further →
        (key, leases.last shared key) ∉ leases.held further) →
      Keeps leases shared process after next key

/-- A claim that a process holds after a step was held before, or has just been
made. -/
def Holds (leases : Leases Shared Local Key) (shared : Shared)
    (process : Local) (after : Shared) (claim : Key × Nat) : Prop :=
  claim ∈ leases.held process ∨
    leases.last shared claim.1 < claim.2 ∧
      claim.2 = leases.last after claim.1 ∧ leases.busy after claim.1

/-- A claim of another process stays counted, and so does one that the process
goes on holding. -/
theorem Keeps.counted {claim : Key × Nat}
    (keeps : leases.Keeps shared process after next claim.1)
    (unreported : claim ∉ leases.held process ∨
      ∃ further, next = some further ∧ claim ∈ leases.held further)
    (counts : leases.Counted shared claim) : leases.Counted after claim := by
  obtain ⟨bound, busy⟩ := counts
  cases keeps with
  | kept same busier =>
      constructor
      · rw [same]
        exact bound
      · intro last
        apply busier
        apply busy
        rw [last, same]
  | claimed further =>
      constructor
      · omega
      · intro last
        omega
  | reported same holds dropped =>
      have older : claim.2 ≠ leases.last shared claim.1 := by
        intro last
        rw [← last] at holds dropped
        rcases unreported with apart | ⟨further, arrives, still⟩
        · exact apart holds
        · exact dropped further arrives still
      constructor
      · rw [same]
        exact bound
      · intro last
        rw [same] at last
        exact absurd last older

/-- The lease rule.  A step says what it does to each key and where the claims
come from that are held after it. -/
theorem counted_holds
    (started : ∀ request, leases.held (program.start request) = [])
    (resumed : ∀ world pid choice process shared after,
      program.system.ReachableWhen allowed world →
      leases.counted.Holds world → allowed world (.resume pid choice) →
      world.Running pid process →
      program.resume world.shared process choice = some (shared, after) →
      (∀ key, leases.Keeps world.shared process shared after key) ∧
        ∀ further, after = some further → ∀ claim ∈ leases.held further,
          leases.Holds world.shared process shared claim)
    (released : ∀ shared process key,
      leases.last (program.release shared process) key =
          leases.last shared key ∧
        (leases.busy shared key →
          leases.busy (program.release shared process) key))
    {world : World Shared Local}
    (reachable : program.system.ReachableWhen allowed world) :
    leases.counted.Holds world := by
  refine Invariant.holds (fun _ _ => trivial) ?spawned ?resumed ?crashed
    reachable
  case spawned =>
    intro world pid request _ _ _
    have nothing := started request
    refine ⟨?_, ?_⟩
    · intro claim member
      simp [nothing] at member
    · intro other right _ _
      constructor
      · intro claim member
        simp [nothing] at member
      · intro _ _ claim member
        simp [nothing] at member
  case resumed =>
    intro world pid choice process shared after reached holding permitted
      running result
    obtain ⟨keeps, comes⟩ :=
      resumed world pid choice process shared after reached holding permitted
        running result
    obtain ⟨_, owns, pairs⟩ := holding
    refine ⟨trivial, ?_, ?_⟩
    · intro other right different runningOther claim member
      apply (keeps claim.1).counted
      · left
        intro shares
        exact pairs other pid right process different runningOther running
          claim member claim shares rfl
      · exact owns other right runningOther claim member
    · intro further arrives
      refine ⟨?_, ?_⟩
      · intro claim member
        rcases comes further arrives claim member with
          before | ⟨_, last, busy⟩
        · apply (keeps claim.1).counted
          · exact .inr ⟨further, arrives, member⟩
          · exact owns pid process running claim before
        · exact ⟨Nat.le_of_eq last, fun _ => busy⟩
      · intro other right different runningOther
        have apart : ∀ first ∈ leases.held further,
            ∀ second ∈ leases.held right, first ≠ second := by
          intro first member second memberOther same
          subst same
          rcases comes further arrives first member with before | ⟨made, _⟩
          · exact pairs pid other process right (Ne.symm different) running
              runningOther first before first memberOther rfl
          · -- A claim of another process has an older number.
            have bound := (owns other right runningOther first memberOther).1
            omega
        refine ⟨apart, ?_⟩
        intro second memberOther first member same
        exact apart first member second memberOther same.symm
  case crashed =>
    intro world pid process _ holding _ _
    refine ⟨trivial, ?_⟩
    intro other right _ runningOther claim member
    obtain ⟨bound, busy⟩ := holding.2.1 other right runningOther claim member
    obtain ⟨same, busier⟩ := released world.shared process claim.1
    constructor
    · rw [same]
      exact bound
    · intro last
      apply busier
      apply busy
      rw [last, same]

end Leases

end Process
