import ClusterDiscovery.Proofs.Runs
import ClusterDiscovery.Retry

/-! # Retries end with an attempt

A repeated action ends as one of its attempts does. The attempts before that one failed in a way
that a repetition may mend. The last one did not, or there was none left to make.
-/

namespace ClusterDiscovery

open ClusterDiscovery.Action

variable {World α : Type}

/-- A failure after which an attempt is repeated. -/
def FailsForNow (result : Except Failure α) : Prop :=
  ∃ f, result = .error f ∧ f.isRetryable = true

/-- How an attempt ends that follows some failed ones. The first one has the given number. -/
def attemptAfter (policy : RetryPolicy) (action : Action World α) (number : Nat)
    (s : Session World) : Nat → Except Failure α × Session World
  | 0 => action.runOn s
  | failed + 1 =>
    let first := (action.runOn s).2
    attemptAfter policy action (number + 1)
      { first with waits := first.waits ++ [policy.pauseAfter number] } failed

/-- One attempt, and the repetitions after it if it fails for now. -/
theorem retryFrom_succ_runOn (policy : RetryPolicy) (action : Action World α)
    (number repetitions : Nat) (s : Session World) :
    (retryFrom policy action number (repetitions + 1)).runOn s =
      match action.runOn s with
      | (.ok x, t) => (.ok x, t)
      | (.error f, t) =>
        if f.isRetryable then (retryFrom policy action (number + 1) repetitions).runOn
          { t with waits := t.waits ++ [policy.pauseAfter number] }
        else (.error f, t) := by
  change (action.outcomeOf >>= _).runOn s = _
  rw [bind_runOn, outcomeOf_runOn]
  obtain ⟨r, t⟩ := action.runOn s
  cases r with
  | ok x => rfl
  | error f =>
      simp only
      split
      · rw [bind_runOn]
        rfl
      · rfl

/-- A repeated action ends as its last attempt does. -/
theorem retryFrom_runOn (policy : RetryPolicy) (action : Action World α)
    (number repetitions : Nat) (s : Session World) :
    ∃ failed ≤ repetitions,
      (retryFrom policy action number repetitions).runOn s =
        attemptAfter policy action number s failed ∧
      (∀ k < failed, FailsForNow (attemptAfter policy action number s k).1) ∧
      (failed < repetitions → ¬ FailsForNow (attemptAfter policy action number s failed).1) := by
  induction repetitions generalizing number s with
  | zero => exact ⟨0, Nat.le_refl 0, rfl, nofun, nofun⟩
  | succ repetitions ih =>
      rw [retryFrom_succ_runOn]
      by_cases hfails : FailsForNow (action.runOn s).1
      · obtain ⟨f, hf, hretry⟩ := hfails
        obtain ⟨failed, hle, hend, hbefore, hlast⟩ := ih (number + 1)
          { (action.runOn s).2 with
            waits := (action.runOn s).2.waits ++ [policy.pauseAfter number] }
        refine ⟨failed + 1, Nat.succ_le_succ hle, ?_, ?_, fun h => hlast (Nat.lt_of_succ_lt_succ h)⟩
        · rw [show action.runOn s = (.error f, (action.runOn s).2) from Prod.ext hf rfl]
          simp only [if_pos hretry]
          exact hend
        · intro k hk
          cases k with
          | zero => exact ⟨f, hf, hretry⟩
          | succ k => exact hbefore k (Nat.lt_of_succ_lt_succ hk)
      · refine ⟨0, Nat.zero_le _, ?_, nofun, fun _ => hfails⟩
        change _ = action.runOn s
        rcases haction : action.runOn s with ⟨f | x, t⟩
        · have hfinal : ¬ f.isRetryable = true := fun h => hfails ⟨f, by rw [haction], h⟩
          simp only [if_neg hfinal]
        · rfl

/-- In a world that counts the attempts, each has its number. -/
theorem attemptAfter_counted {action : Action Nat α} {result : Nat → Except Failure α}
    (h : ∀ n, action.RunsTo n (result n) (n + 1)) (policy : RetryPolicy) (number : Nat)
    (s : Session Nat) (failed : Nat) :
    (attemptAfter policy action number s failed).1 = result (s.world + failed) ∧
      (attemptAfter policy action number s failed).2.world = s.world + failed + 1 := by
  induction failed generalizing number s with
  | zero =>
      obtain ⟨added, hrun⟩ := h s.world s.log s.waits
      have hrun : action.runOn s = _ := hrun
      simp only [attemptAfter, hrun, Nat.add_zero, and_self]
  | succ failed ih =>
      obtain ⟨added, hrun⟩ := h s.world s.log s.waits
      have hrun : action.runOn s = _ := hrun
      have hrest := ih (number + 1) ⟨s.world + 1, s.log ++ added,
        s.waits ++ [policy.pauseAfter number]⟩
      simp only [attemptAfter, hrun]
      rwa [Nat.add_right_comm, Nat.add_assoc] at hrest

end ClusterDiscovery
