import JanSetu.Library.Process

/-!
# Programs that run another program within their own

A process of the whole is at times within the part, with a local state of the
part and a share of the store that nothing else touches.  Seen through the
part, a run of the whole is a run of the part: a step within the part is a step
of it, and every other step is none, or begins a process of the part.
-/

universe u v w x u' v' w' x'

namespace Process

open Transition.System (Always)

variable {Shared : Type u} {Local : Type v} {Request : Type w}
  {Choice : Type x} {Inner : Type u'} {Part : Type v'} {Asked : Type w'}
  {Chosen : Type x'}

theorem Program.step_of_resume
    {program : Program Shared Local Request Choice}
    {world : World Shared Local} {pid : Nat} {process : Local} {choice : Choice}
    {shared : Shared} {after : Option Local}
    (running : world.Running pid process)
    (resumed : program.resume world.shared process choice =
      some (shared, after)) :
    program.step world (.resume pid choice) =
      some (world.put shared pid after) := by
  have found : world.processes pid = some process := running
  simp only [Program.step, found, resumed]

/-- The part of a program. -/
structure Component (whole : Program Shared Local Request Choice)
    (part : Program Inner Part Asked Chosen) where
  inner : Shared → Inner
  within : Local → Option Part
  initially : ∀ shared, whole.initial shared → part.initial (inner shared)
  starts : ∀ request, within (whole.start request) = none
  outside : ∀ shared process choice after next,
    whole.resume shared process choice = some (after, next) →
    within process = none →
    inner after = inner shared ∧
      (next.bind within = none ∨
        ∃ asked, next.bind within = some (part.start asked))
  inside : ∀ shared process choice after next held,
    whole.resume shared process choice = some (after, next) →
    within process = some held →
    ∃ chosen, part.resume (inner shared) held chosen =
      some (inner after, next.bind within)
  releases : ∀ shared process,
    inner (whole.release shared process) =
      (within process).elim (inner shared) (part.release (inner shared))

namespace Component

variable {whole : Program Shared Local Request Choice}
  {part : Program Inner Part Asked Chosen} (component : Component whole part)

/-- What is seen of a world through the part. -/
def view (world : World Shared Local) : World Inner Part :=
  { shared := component.inner world.shared
    processes := fun pid => (world.processes pid).bind component.within }

theorem view_running {world : World Shared Local} {pid : Nat} {process : Local}
    (running : world.Running pid process) :
    (component.view world).processes pid = component.within process := by
  have found : world.processes pid = some process := running
  show (world.processes pid).bind component.within = _
  rw [found, Option.bind_some]

theorem view_put (world : World Shared Local) (shared : Shared) (pid : Nat)
    (process : Option Local) :
    component.view (world.put shared pid process) =
      (component.view world).put (component.inner shared) pid
        (process.bind component.within) := by
  unfold view World.put
  congr 1
  funext other
  by_cases same : other = pid
  · subst same
    simp
  · simp [same]

/-- A step that the part does not notice. -/
theorem view_put_same {world : World Shared Local} {shared : Shared} {pid : Nat}
    {process : Option Local}
    (same : component.inner shared = component.inner world.shared)
    (free : (world.processes pid).bind component.within = none)
    (idle : process.bind component.within = none) :
    component.view (world.put shared pid process) = component.view world := by
  have unchanged : Function.update (component.view world).processes pid none =
      (component.view world).processes :=
    Function.update_eq_self_iff.mpr free.symm
  rw [view_put, same, idle]
  unfold World.put
  rw [unchanged]
  rfl

variable {component}

/-- A step of the whole is one of the part, or is not noticed. -/
theorem step_view {world next : World Shared Local}
    {label : Label Request Choice}
    (taken : whole.step world label = some next) :
    component.view next = component.view world ∨
      ∃ inner, part.step (component.view world) inner =
        some (component.view next) := by
  rcases Program.step_cases taken with
    ⟨pid, request, rfl, free, rfl⟩ |
    ⟨pid, choice, process, shared, after, rfl, running, resumed, rfl⟩ |
    ⟨pid, process, rfl, running, rfl⟩
  · refine .inl (component.view_put_same rfl ?_ (component.starts request))
    rw [free]
    rfl
  · have found := component.view_running running
    cases held : component.within process with
    | none =>
        rw [held] at found
        obtain ⟨same, idle | ⟨asked, begins⟩⟩ :=
          component.outside _ _ _ _ _ resumed held
        · exact .inl (component.view_put_same same found idle)
        · refine .inr ⟨.spawn pid asked, ?_⟩
          rw [component.view_put, same, begins]
          simp only [Program.step, found]
          rfl
    | some inside =>
        rw [held] at found
        obtain ⟨chosen, stepped⟩ :=
          component.inside _ _ _ _ _ _ resumed held
        refine .inr ⟨.resume pid chosen, ?_⟩
        have here : part.resume (component.view world).shared inside chosen =
            some (component.inner shared, after.bind component.within) :=
          stepped
        rw [component.view_put]
        simp only [Program.step, found, here]
  · have found := component.view_running running
    have released := component.releases world.shared process
    cases held : component.within process with
    | none =>
        rw [held] at found released
        exact .inl (component.view_put_same released found rfl)
    | some inside =>
        rw [held] at found released
        refine .inr ⟨.crash pid, ?_⟩
        rw [component.view_put, released]
        simp only [Program.step, found]
        rfl

/-- What the whole can reach is, through the part, what the part can reach. -/
theorem reachable_view {world : World Shared Local}
    (reachable : whole.system.Reachable world) :
    part.system.Reachable (component.view world) := by
  refine @Transition.System.ReachableWhen.invariant _ _ _ _
    (fun world => part.system.Reachable (component.view world)) _ reachable
    ?_ ?_
  · rintro _ ⟨shared, initial, rfl⟩
    exact .start ⟨_, component.initially shared initial, rfl⟩
  · intro world label next _ reached _ taken
    rcases step_view taken with same | ⟨inner, stepped⟩
    · rw [same]
      exact reached
    · exact reached.next trivial stepped

end Component

end Process
