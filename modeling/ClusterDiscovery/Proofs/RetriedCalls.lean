import ClusterDiscovery.Proofs.Retries

/-! # The calls of a retried function

A retried function is called until it succeeds, fails for good, or was called as often as the
policy allows. The last call alone decides how the whole ends, and between any two calls there is
one pause.
-/

namespace ClusterDiscovery

open ClusterDiscovery.Action

variable {α : Type}

/-- The pauses after `count` calls, the first of which has the given number. -/
def RetryPolicy.pausesFrom (policy : RetryPolicy) (number count : Nat) : List Float :=
  (List.range' number count).map policy.pauseAfter

@[simp] theorem RetryPolicy.pausesFrom_zero (policy : RetryPolicy) (number : Nat) :
    policy.pausesFrom number 0 = [] := rfl

@[simp] theorem RetryPolicy.length_pausesFrom (policy : RetryPolicy) (number count : Nat) :
    (policy.pausesFrom number count).length = count := by
  simp [pausesFrom]

theorem RetryPolicy.pausesFrom_succ (policy : RetryPolicy) (number count : Nat) :
    policy.pausesFrom number (count + 1) =
      policy.pauseAfter number :: policy.pausesFrom (number + 1) count := by
  unfold pausesFrom
  rw [List.range'_succ, List.map_cons]

/-! ## Functions with planned outcomes -/

/-- A function whose calls end as planned, where calls count from one. For every call it notes
all pauses before it. -/
def plannedCall (outcome : Nat → Except Failure α) : Action (List (List Float)) α := do
  modify fun session => { session with world := session.world ++ [session.waits] }
  ofResult (outcome (← getWorld).length)

theorem plannedCall_runOn (outcome : Nat → Except Failure α) (s : Session (List (List Float))) :
    (plannedCall outcome).runOn s =
      (outcome (s.world.length + 1), { s with world := s.world ++ [s.waits] }) := by
  have hlength : (s.world ++ [s.waits]).length = s.world.length + 1 := by simp
  rw [← hlength]
  unfold plannedCall
  rw [bind_runOn]
  change ((getWorld >>= _ : Action _ α)).runOn { s with world := s.world ++ [s.waits] } = _
  rw [bind_runOn, getWorld_runOn]
  change (ofResult (outcome (s.world ++ [s.waits]).length)).runOn _ = _
  cases outcome (s.world ++ [s.waits]).length <;> rfl

/-- After some failed calls the next one ends as planned. -/
theorem attemptAfter_planned (policy : RetryPolicy) (outcome : Nat → Except Failure α)
    (number failed : Nat) (s : Session (List (List Float))) :
    attemptAfter policy (plannedCall outcome) number s failed =
      (outcome (s.world.length + failed + 1),
        ⟨s.world ++ (List.range (failed + 1)).map fun k => s.waits ++ policy.pausesFrom number k,
          s.log, s.waits ++ policy.pausesFrom number failed⟩) := by
  induction failed generalizing number s with
  | zero =>
      rw [attemptAfter, plannedCall_runOn]
      simp
  | succ failed ih =>
      rw [attemptAfter, plannedCall_runOn, ih, List.range_succ_eq_map (n := failed + 1)]
      simp [RetryPolicy.pausesFrom_succ, Nat.add_right_comm, Nat.add_assoc]

/-! ## The last call -/

/-- No call follows this one: it succeeds, it fails with a status from 400 to 499, or it is the
last one that the policy allows. There is always a first call. -/
def IsLastCall (policy : RetryPolicy) (outcome : Nat → Except Failure α) (call : Nat) : Prop :=
  (∃ x, outcome call = .ok x) ∨
    (∃ f status, outcome call = .error f ∧ f.status? = some (.int status) ∧
      400 ≤ status ∧ status ≤ 499) ∨
    max 1 policy.maxAttempts ≤ call

theorem isRetryable_eq_false_iff {f : Failure} :
    f.isRetryable = false ↔
      ∃ status, f.status? = some (.int status) ∧ 400 ≤ status ∧ status ≤ 499 := by
  unfold Failure.isRetryable
  cases f.status? with
  | none => simp
  | some status =>
      cases status with
      | int i =>
          have hbound : i < 500 ↔ i ≤ 499 := by omega
          simp [isFinalStatus, hbound]
      | _ => simp [isFinalStatus]

/-- A call that does not fail for now succeeds or fails for good. -/
theorem not_failsForNow_iff {result : Except Failure α} :
    ¬ FailsForNow result ↔ (∃ x, result = .ok x) ∨
      ∃ f status, result = .error f ∧ f.status? = some (.int status) ∧
        400 ≤ status ∧ status ≤ 499 := by
  cases result with
  | ok x => simp [FailsForNow]
  | error f => simp [FailsForNow, isRetryable_eq_false_iff]

theorem isLastCall_iff (policy : RetryPolicy) (outcome : Nat → Except Failure α) (call : Nat) :
    IsLastCall policy outcome call ↔
      ¬ FailsForNow (outcome call) ∨ policy.repetitions < call := by
  have hbound : max 1 policy.maxAttempts ≤ call ↔ policy.repetitions < call := by
    unfold RetryPolicy.repetitions
    omega
  rw [IsLastCall, hbound, not_failsForNow_iff, or_assoc]

/-- A retried function is called up to the first call that no other follows, and ends exactly as
that call does. It pauses once between one call and the next: before the call with index `k` it
made the first `k` pauses, and after the last call it makes none. -/
theorem called_until_last_call (policy : RetryPolicy) (outcome : Nat → Except Failure α)
    (log : List LogEntry) :
    ∃ n, 1 ≤ n ∧ IsLastCall policy outcome n ∧
      (∀ call, 1 ≤ call → call < n → ¬ IsLastCall policy outcome call) ∧
      let (result, session) := (retrying policy (plannedCall outcome)).runOn ⟨[], log, []⟩
      result = outcome n ∧
        session.world.length = n ∧
        session.world = (List.range n).map (policy.pausesFrom 1) ∧
        session.waits = policy.pausesFrom 1 (n - 1) ∧ session.waits.length = n - 1 := by
  obtain ⟨failed, hle, hrun, hbefore, hlast⟩ :=
    retryFrom_runOn policy (plannedCall outcome) 1 policy.repetitions ⟨[], log, []⟩
  simp only [attemptAfter_planned, List.length_nil, Nat.zero_add] at hrun hbefore hlast
  refine ⟨failed + 1, Nat.le_add_left 1 failed, ?_, ?_, ?_⟩
  · rw [isLastCall_iff]
    obtain hfewer | rfl := Nat.lt_or_eq_of_le hle
    · exact .inl (hlast hfewer)
    · exact .inr (Nat.lt_succ_self _)
  · intro call hfirst hcall
    have hfails := hbefore (call - 1) (by omega)
    rw [Nat.sub_add_cancel hfirst] at hfails
    rw [isLastCall_iff]
    rintro (h | h)
    · exact h hfails
    · omega
  · unfold retrying
    rw [hrun]
    simp

end ClusterDiscovery
