import Mathlib.Data.List.Nodup
import Mathlib.Data.List.Perm.Subperm
import JanSetu.Library.Process

/-!
# Numbered tickets

A counter of a key hands out its numbers.  A process may hold a ticket that has
been handed out, and may use it once; a ticket whose holder crashes is lost.
However the processes interleave, no more tickets of a key are used than its
counter says.
-/

universe u v w x y

namespace Process

structure Tickets (Shared : Type u) (Local : Type v) (Key : Type y) where
  /-- The last number of a key that has been handed out. -/
  last : Shared → Key → Nat
  /-- The tickets that have been used. -/
  used : Shared → List (Key × Nat)
  held : Local → List (Key × Nat)

namespace Tickets

variable {Shared : Type u} {Local : Type v} {Request : Type w}
  {Choice : Type x} {Key : Type y} {tickets : Tickets Shared Local Key}
  {program : Program Shared Local Request Choice}
  {allowed : World Shared Local → Label Request Choice → Prop}
  {shared after : Shared} {process : Local} {next : Option Local}

/-- A ticket that was handed out. -/
def Numbered (tickets : Tickets Shared Local Key) (shared : Shared)
    (ticket : Key × Nat) : Prop :=
  0 < ticket.2 ∧ ticket.2 ≤ tickets.last shared ticket.1

/-- A ticket that is held was handed out and not used, and nobody else holds
it. -/
def handedOut (tickets : Tickets Shared Local Key) :
    Invariant Shared Local :=
  { shared := fun shared =>
      (tickets.used shared).Nodup ∧
        ∀ ticket ∈ tickets.used shared, tickets.Numbered shared ticket
    own := fun shared process =>
      (tickets.held process).Nodup ∧
        ∀ ticket ∈ tickets.held process,
          tickets.Numbered shared ticket ∧ ticket ∉ tickets.used shared
    pair := fun left right =>
      ∀ ticket ∈ tickets.held left, ticket ∉ tickets.held right }

/-- What a step of a process may do: hand out further numbers to itself, and use
a ticket that it held. -/
structure Spends (tickets : Tickets Shared Local Key) (shared : Shared)
    (process : Local) (after : Shared) (next : Option Local) : Prop where
  grows : ∀ key, tickets.last shared key ≤ tickets.last after key
  uses : tickets.used after = tickets.used shared ∨
    ∃ ticket ∈ tickets.held process,
      tickets.used after = ticket :: tickets.used shared ∧
        ∀ further, next = some further → ticket ∉ tickets.held further
  comes : ∀ further, next = some further →
    (tickets.held further).Nodup ∧
      ∀ ticket ∈ tickets.held further, ticket ∈ tickets.held process ∨
        tickets.last shared ticket.1 < ticket.2 ∧
          ticket.2 ≤ tickets.last after ticket.1

theorem Numbered.mono {ticket : Key × Nat}
    (grows : tickets.last shared ticket.1 ≤ tickets.last after ticket.1)
    (numbered : tickets.Numbered shared ticket) :
    tickets.Numbered after ticket := by
  obtain ⟨positive, bound⟩ := numbered
  exact ⟨positive, Nat.le_trans bound grows⟩

/-- A step that hands out nothing and uses nothing. -/
theorem Spends.of_same (last : tickets.last after = tickets.last shared)
    (used : tickets.used after = tickets.used shared)
    (held : ∀ further, next = some further →
      (tickets.held further).Sublist (tickets.held process))
    (distinct : (tickets.held process).Nodup) :
    tickets.Spends shared process after next := by
  constructor
  · intro key
    exact Nat.le_of_eq (congrFun last key).symm
  · exact .inl used
  · intro further arrives
    refine ⟨distinct.sublist (held further arrives), ?_⟩
    intro ticket member
    exact .inl ((held further arrives).subset member)

/-- What is used after a step was used before it, or was the process's own and
is so no more. -/
theorem Spends.used_cases {ticket : Key × Nat}
    (spends : tickets.Spends shared process after next)
    (member : ticket ∈ tickets.used after) :
    ticket ∈ tickets.used shared ∨
      ticket ∈ tickets.held process ∧
        ∀ further, next = some further → ticket ∉ tickets.held further := by
  rcases spends.uses with same | ⟨spent, held, used, dropped⟩
  · rw [same] at member
    exact .inl member
  · rw [used] at member
    rcases List.mem_cons.mp member with rfl | before
    · exact .inr ⟨held, dropped⟩
    · exact .inl before

/-- A ticket that is neither the one that is used nor handed out by the step is
as it was. -/
theorem Spends.unused {ticket : Key × Nat}
    (spends : tickets.Spends shared process after next)
    (kept : ticket ∉ tickets.held process ∨
      ∃ further, next = some further ∧ ticket ∈ tickets.held further)
    (numbered : tickets.Numbered shared ticket)
    (unused : ticket ∉ tickets.used shared) :
    tickets.Numbered after ticket ∧ ticket ∉ tickets.used after := by
  refine ⟨numbered.mono (spends.grows ticket.1), ?_⟩
  intro member
  rcases spends.used_cases member with before | ⟨held, dropped⟩
  · exact unused before
  · rcases kept with apart | ⟨further, arrives, still⟩
    · exact apart held
    · exact dropped further arrives still

/-- The ticket rule. -/
theorem handedOut_holds
    (initially : ∀ shared, program.initial shared → tickets.used shared = [])
    (started : ∀ request, tickets.held (program.start request) = [])
    (resumed : ∀ world pid choice process shared after,
      program.system.ReachableWhen allowed world →
      tickets.handedOut.Holds world → allowed world (.resume pid choice) →
      world.Running pid process →
      program.resume world.shared process choice = some (shared, after) →
      tickets.Spends world.shared process shared after)
    (released : ∀ shared process,
      tickets.last (program.release shared process) = tickets.last shared ∧
        tickets.used (program.release shared process) = tickets.used shared)
    {world : World Shared Local}
    (reachable : program.system.ReachableWhen allowed world) :
    tickets.handedOut.Holds world := by
  refine Invariant.holds ?initially ?spawned ?resumed ?crashed reachable
  case initially =>
    intro shared initial
    have nothing := initially shared initial
    refine ⟨?_, ?_⟩
    · rw [nothing]
      exact .nil
    · intro ticket member
      simp [nothing] at member
  case spawned =>
    intro world pid request _ _ _
    have nothing := started request
    refine ⟨⟨?_, ?_⟩, ?_⟩
    · rw [nothing]
      exact .nil
    · intro ticket member
      simp [nothing] at member
    · intro other right _ _
      constructor
      · intro ticket member
        simp [nothing] at member
      · intro ticket _ member
        simp [nothing] at member
  case resumed =>
    intro world pid choice process shared after reached holding permitted
      running result
    have spends := resumed world pid choice process shared after reached
      holding permitted running result
    obtain ⟨⟨distinct, numbered⟩, owns, pairs⟩ := holding
    refine ⟨⟨?_, ?_⟩, ?_, ?_⟩
    · rcases spends.uses with same | ⟨spent, held, used, _⟩
      · rw [same]
        exact distinct
      · rw [used]
        exact List.nodup_cons.mpr
          ⟨((owns pid process running).2 spent held).2, distinct⟩
    · intro ticket member
      rcases spends.used_cases member with before | ⟨held, _⟩
      · exact (numbered ticket before).mono (spends.grows ticket.1)
      · exact ((owns pid process running).2 ticket held).1.mono
          (spends.grows ticket.1)
    · intro other right different runningOther
      obtain ⟨apart, holds⟩ := owns other right runningOther
      refine ⟨apart, ?_⟩
      intro ticket member
      obtain ⟨before, unused⟩ := holds ticket member
      apply spends.unused ?_ before unused
      exact .inl (pairs other pid right process different runningOther running
        ticket member)
    · intro further arrives
      obtain ⟨apart, comes⟩ := spends.comes further arrives
      refine ⟨⟨apart, ?_⟩, ?_⟩
      · intro ticket member
        rcases comes ticket member with before | ⟨new, bound⟩
        · obtain ⟨numberedBefore, unused⟩ :=
            (owns pid process running).2 ticket before
          exact spends.unused (.inr ⟨further, arrives, member⟩)
            numberedBefore unused
        · refine ⟨⟨by omega, bound⟩, ?_⟩
          -- Whatever is used was handed out before the step.
          intro used
          have older : tickets.Numbered world.shared ticket := by
            rcases spends.used_cases used with before | ⟨_, dropped⟩
            · exact numbered ticket before
            · exact absurd member (dropped further arrives)
          have below := older.2
          omega
      · intro other right different runningOther
        have disjoint : ∀ ticket ∈ tickets.held further,
            ticket ∉ tickets.held right := by
          intro ticket member memberOther
          rcases comes ticket member with before | ⟨new, _⟩
          · exact pairs pid other process right (Ne.symm different) running
              runningOther ticket before memberOther
          · have below :=
              ((owns other right runningOther).2 ticket memberOther).1.2
            omega
        refine ⟨disjoint, ?_⟩
        intro ticket memberOther member
        exact disjoint ticket member memberOther
  case crashed =>
    intro world pid process _ holding _ _
    obtain ⟨last, used⟩ := released world.shared process
    obtain ⟨⟨distinct, numbered⟩, owns, _⟩ := holding
    have same : ∀ ticket, tickets.Numbered world.shared ticket →
        tickets.Numbered (program.release world.shared process) ticket := by
      intro ticket before
      exact before.mono (Nat.le_of_eq (congrFun last ticket.1).symm)
    refine ⟨⟨?_, ?_⟩, ?_⟩
    · rw [used]
      exact distinct
    · intro ticket member
      rw [used] at member
      exact same ticket (numbered ticket member)
    · intro other right _ runningOther
      obtain ⟨apart, holds⟩ := owns other right runningOther
      refine ⟨apart, ?_⟩
      intro ticket member
      obtain ⟨before, unused⟩ := holds ticket member
      rw [used]
      exact ⟨same ticket before, unused⟩

/-- No more tickets of a key are used than its counter says. -/
theorem used_le_last [DecidableEq Key]
    (distinct : (tickets.used shared).Nodup)
    (numbered : ∀ ticket ∈ tickets.used shared,
      tickets.Numbered shared ticket) (key : Key) :
    (tickets.used shared).countP (fun ticket => ticket.1 = key) ≤
      tickets.last shared key := by
  have numbers : (((tickets.used shared).filter fun ticket =>
      ticket.1 = key).map Prod.snd).Nodup := by
    refine List.Nodup.map_on ?_ (distinct.filter _)
    intro first member second member' same
    have left : first.1 = key := by
      simpa using (List.mem_filter.mp member).2
    have right : second.1 = key := by
      simpa using (List.mem_filter.mp member').2
    exact Prod.ext (left.trans right.symm) same
  have inside : ((tickets.used shared).filter fun ticket =>
      ticket.1 = key).map Prod.snd ⊆
        List.range' 1 (tickets.last shared key) := by
    intro number member
    obtain ⟨ticket, found, rfl⟩ := List.mem_map.mp member
    obtain ⟨member, same⟩ := List.mem_filter.mp found
    have named : ticket.1 = key := by simpa using same
    obtain ⟨positive, bound⟩ := numbered ticket member
    rw [named] at bound
    exact List.mem_range'_1.mpr ⟨positive, by omega⟩
  have bound := (List.subperm_of_subset numbers inside).length_le
  rw [List.length_map, List.length_range'] at bound
  rw [List.countP_eq_length_filter]
  exact bound

end Tickets

end Process
