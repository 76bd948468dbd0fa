import ClusterDiscovery.Session

/-! # Runs of actions

How an action ends depends on the world alone. What was reported and waited for before stays in
front of what the action adds. The rules below follow an action bind by bind.
-/

namespace ClusterDiscovery.Action

variable {World α β : Type} {w w₁ w₂ : World}

theorem bind_runOn (a : Action World α) (f : α → Action World β) (s : Session World) :
    (a >>= f).runOn s = match a.runOn s with
      | (.ok x, s') => (f x).runOn s'
      | (.error e, s') => (.error e, s') := by
  change (match a.runOn s with | (r, s') => ExceptT.bindCont f r s') = _
  rcases a.runOn s with ⟨_ | _, _⟩ <;> rfl

theorem outcomeOf_runOn (action : Action World α) (s : Session World) :
    action.outcomeOf.runOn s = (.ok (action.runOn s).1, (action.runOn s).2) := by
  unfold outcomeOf
  simp only [runOn, tryCatch, tryCatchThe, MonadExceptOf.tryCatch, ExceptT.tryCatch, ExceptT.run,
    ExceptT.mk, StateT.run, bind, StateT.bind, ExceptT.bind, ExceptT.bindCont]
  rcases action s with ⟨_ | _, _⟩ <;> rfl

theorem getWorld_runOn (s : Session World) :
    (getWorld : Action World World).runOn s = (.ok s.world, s) := rfl

/-- Started in the first world, an action ends with the result and in the second world. It only
adds to the log, and it does not wait. -/
def RunsTo (a : Action World α) (w : World) (r : Except Failure α) (w' : World) : Prop :=
  ∀ log waits, ∃ added, a.runOn ⟨w, log, waits⟩ = (r, ⟨w', log ++ added, waits⟩)

theorem RunsTo.result {a : Action World α} {r : Except Failure α} (h : a.RunsTo w r w₁)
    (log : List LogEntry) (waits : List Float) : (a.runOn ⟨w, log, waits⟩).1 = r := by
  obtain ⟨added, hrun⟩ := h log waits
  rw [hrun]

theorem RunsTo.unique {a : Action World α} {r r' : Except Failure α} (h : a.RunsTo w r w₁)
    (h' : a.RunsTo w r' w₂) : r = r' ∧ w₁ = w₂ := by
  obtain ⟨added, hrun⟩ := h [] []
  obtain ⟨added', hrun'⟩ := h' [] []
  rw [hrun, Prod.mk.injEq, Session.mk.injEq] at hrun'
  exact ⟨hrun'.1, hrun'.2.1⟩

theorem runsTo_pure (x : α) : RunsTo (pure x) w (.ok x) w :=
  fun log _ => ⟨[], by rw [List.append_nil]; rfl⟩

theorem runsTo_of_result {r r' : Except Failure α} (h : r = r') : RunsTo (ofResult r) w r' w :=
  fun log _ => ⟨[], by rw [List.append_nil, h]; cases r' <;> rfl⟩

theorem runsTo_throw (e : Failure) : RunsTo (throw e : Action World α) w (.error e) w :=
  fun log _ => ⟨[], by rw [List.append_nil]; rfl⟩

theorem runsTo_ofReading (r : Except Fault α) :
    RunsTo (ofReading r) w (r.mapError .fault) w :=
  fun log _ => ⟨[], by rw [List.append_nil]; cases r <;> rfl⟩

theorem runsTo_of_read {r : Except Fault α} {x : α} (h : r = .ok x) :
    RunsTo (ofReading r) w (.ok x) w := by
  subst h
  exact runsTo_ofReading (.ok x)

theorem runsTo_report (entry : LogEntry) : RunsTo (report entry) w (.ok ()) w :=
  fun _ _ => ⟨[entry], rfl⟩

theorem runsTo_getWorld : RunsTo getWorld w (.ok w) w :=
  fun log _ => ⟨[], by rw [List.append_nil]; rfl⟩

theorem runsTo_modifyWorld (change : World → World) :
    RunsTo (modifyWorld change) w (.ok ()) (change w) :=
  fun log _ => ⟨[], by rw [List.append_nil]; rfl⟩

theorem runsTo_setWorld (w' : World) : RunsTo (setWorld w') w (.ok ()) w' :=
  fun log _ => ⟨[], by rw [List.append_nil]; rfl⟩

theorem RunsTo.trans {a : Action World α} {f : α → Action World β} {x : α}
    {r : Except Failure β} (ha : a.RunsTo w (.ok x) w₁) (hf : (f x).RunsTo w₁ r w₂) :
    (a >>= f).RunsTo w r w₂ := by
  intro log waits
  obtain ⟨first, hrun⟩ := ha log waits
  obtain ⟨second, hrest⟩ := hf (log ++ first) waits
  refine ⟨first ++ second, ?_⟩
  rw [bind_runOn, hrun, ← List.append_assoc]
  exact hrest

/-- A failure ends an action where it occurs. -/
theorem RunsTo.stop {a : Action World α} {f : α → Action World β} {e : Failure}
    (ha : a.RunsTo w (.error e) w₁) : (a >>= f).RunsTo w (.error e) w₁ := by
  intro log waits
  obtain ⟨added, hrun⟩ := ha log waits
  exact ⟨added, by rw [bind_runOn, hrun]⟩

/-- When the rest of an action leaves the world as it is, results are bound like the actions. -/
theorem RunsTo.bind {a : Action World α} {f : α → Action World β} {r : Except Failure α}
    {g : α → Except Failure β} (ha : a.RunsTo w r w₁)
    (hf : ∀ x, r = .ok x → (f x).RunsTo w₁ (g x) w₁) : (a >>= f).RunsTo w (r >>= g) w₁ := by
  cases r with
  | error e => exact ha.stop
  | ok x => exact ha.trans (hf x rfl)

/-- The rest of an action succeeds and leaves the world as it is. -/
theorem RunsTo.mapTo {a : Action World α} {f : α → Action World β} {r : Except Failure α}
    {g : α → β} (ha : a.RunsTo w r w₁) (hf : ∀ x, (f x).RunsTo w₁ (.ok (g x)) w₁) :
    (a >>= f).RunsTo w (r.map g) w₁ := by
  cases r with
  | error e => exact ha.stop
  | ok x => exact ha.trans (hf x)

theorem RunsTo.map {a : Action World α} {r : Except Failure α} (h : a.RunsTo w r w₁)
    (f : α → β) : (do return f (← a) : Action World β).RunsTo w (r.map f) w₁ :=
  h.mapTo fun x => runsTo_pure (f x)

/-- To ask for the outcome of an action never fails. -/
theorem RunsTo.outcome {a : Action World α} {r : Except Failure α} (h : a.RunsTo w r w₁) :
    a.outcomeOf.RunsTo w (.ok r) w₁ := by
  intro log waits
  obtain ⟨added, hrun⟩ := h log waits
  exact ⟨added, by rw [outcomeOf_runOn, hrun]⟩

theorem runsTo_reports (entries : List LogEntry) : RunsTo (entries.forM report) w (.ok ()) w := by
  induction entries with
  | nil => exact runsTo_pure ()
  | cons entry rest ih => exact (runsTo_report entry).trans ih

end ClusterDiscovery.Action
