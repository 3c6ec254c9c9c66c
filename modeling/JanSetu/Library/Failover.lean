/-!
# Trying one after another

Candidates are tried in order.  Each is taken, passed over, or fails the whole
search; none is tried after the first that is not passed over.
-/

universe u v w

namespace Failover

inductive Verdict (Failure : Type u) (Value : Type v) where
  | taken (value : Value)
  | passed
  | failed (failure : Failure)

variable {Candidate : Type w} {Failure : Type u} {Value : Type v}

/-- The candidates that are tried, and what comes of the search: nothing, when
every one of them is passed over. -/
def search (judge : Candidate → Verdict Failure Value) :
    List Candidate → List Candidate × Except Failure (Option Value)
  | [] => ([], .ok none)
  | candidate :: rest =>
      match judge candidate with
      | .taken value => ([candidate], .ok (some value))
      | .failed failure => ([candidate], .error failure)
      | .passed => (candidate :: (search judge rest).1, (search judge rest).2)

variable {judge : Candidate → Verdict Failure Value}
  {candidates : List Candidate} {candidate : Candidate}

theorem search_passed (passes : judge candidate = .passed) :
    search judge (candidate :: candidates) =
      (candidate :: (search judge candidates).1,
        (search judge candidates).2) := by
  simp [search, passes]

theorem search_taken {value : Value} (takes : judge candidate = .taken value) :
    search judge (candidate :: candidates) =
      ([candidate], .ok (some value)) := by
  simp [search, takes]

theorem search_failed {failure : Failure}
    (fails : judge candidate = .failed failure) :
    search judge (candidate :: candidates) =
      ([candidate], .error failure) := by
  simp [search, fails]

/-- A search that takes nothing has tried and passed over every candidate. -/
theorem search_none (nothing : (search judge candidates).2 = .ok none) :
    (search judge candidates).1 = candidates ∧
      ∀ candidate ∈ candidates, judge candidate = .passed := by
  induction candidates with
  | nil => exact ⟨rfl, nofun⟩
  | cons candidate candidates induction =>
      cases judged : judge candidate with
      | taken value =>
          rw [search_taken judged] at nothing
          cases nothing
      | failed failure =>
          rw [search_failed judged] at nothing
          cases nothing
      | passed =>
          rw [search_passed judged] at nothing ⊢
          obtain ⟨tried, passed⟩ := induction nothing
          refine ⟨by rw [tried], ?_⟩
          intro other member
          rcases List.mem_cons.mp member with rfl | member
          · exact judged
          · exact passed other member

/-- A search that takes a value has it from the last candidate that it tried,
and has passed over those before. -/
theorem search_some {value : Value}
    (found : (search judge candidates).2 = .ok (some value)) :
    ∃ before candidate after, candidates = before ++ candidate :: after ∧
      (∀ earlier ∈ before, judge earlier = .passed) ∧
      judge candidate = .taken value ∧
      (search judge candidates).1 = before ++ [candidate] := by
  induction candidates with
  | nil => cases found
  | cons candidate candidates induction =>
      cases judged : judge candidate with
      | taken other =>
          rw [search_taken judged] at found ⊢
          have same : other = value := by simpa using found
          rw [same] at judged
          exact ⟨[], candidate, candidates, rfl, nofun, judged, rfl⟩
      | failed failure =>
          rw [search_failed judged] at found
          cases found
      | passed =>
          rw [search_passed judged] at found ⊢
          obtain ⟨before, last, after, rfl, passed, taken, tried⟩ :=
            induction found
          refine ⟨candidate :: before, last, after, rfl, ?_, taken, ?_⟩
          · intro earlier member
            rcases List.mem_cons.mp member with rfl | member
            · exact judged
            · exact passed earlier member
          · rw [tried]
            rfl

/-- Only one candidate is the first that stops the search. -/
theorem first_unique {stops : Candidate → Prop}
    {before after before' after' : List Candidate} {last last' : Candidate}
    (same : before ++ last :: after = before' ++ last' :: after')
    (passed : ∀ earlier ∈ before, ¬ stops earlier) (stopped : stops last)
    (passed' : ∀ earlier ∈ before', ¬ stops earlier)
    (stopped' : stops last') : before = before' ∧ last = last' := by
  induction before generalizing before' with
  | nil =>
      cases before' with
      | nil => exact ⟨rfl, (List.cons.inj same).1⟩
      | cons first before' =>
          rw [(List.cons.inj same).1] at stopped
          exact absurd stopped (passed' first (.head _))
  | cons first before induction =>
      cases before' with
      | nil =>
          rw [← (List.cons.inj same).1] at stopped'
          exact absurd stopped' (passed first (.head _))
      | cons first' before' =>
          obtain ⟨first_eq, rest⟩ := List.cons.inj same
          obtain ⟨before_eq, last_eq⟩ := induction rest
            (fun earlier member => passed earlier (.tail _ member))
            (fun earlier member => passed' earlier (.tail _ member))
          exact ⟨by rw [first_eq, before_eq], last_eq⟩

end Failover
