/-! # Traversals that may fail

A list is read member by member, and the first failure ends the reading. The lemmas below say
when such a reading succeeds, what it then gives, and which failure it has otherwise.
-/

namespace ClusterDiscovery

/-- A computation of two steps succeeds when both do. -/
theorem bind_eq_ok {α β ε : Type} {r : Except ε α} {f : α → Except ε β} {y : β}
    (h : (r >>= f) = .ok y) : ∃ x, r = .ok x ∧ f x = .ok y := by
  cases r with
  | error e => cases h
  | ok x => exact ⟨x, rfl, h⟩

/-- It fails when the first does, or when the first succeeds and the second fails. -/
theorem bind_eq_error {α β ε : Type} {r : Except ε α} {f : α → Except ε β} {e : ε}
    (h : (r >>= f) = .error e) : r = .error e ∨ ∃ x, r = .ok x ∧ f x = .error e := by
  cases r with
  | error e' => exact .inl (congrArg Except.error (Except.error.inj h))
  | ok x => exact .inr ⟨x, rfl, h⟩

/-! ## Successful readings of lists -/

theorem mapM_eq_ok {α β ε : Type} {f : α → Except ε β} {g : α → β} {xs : List α}
    (h : ∀ x ∈ xs, f x = .ok (g x)) : xs.mapM f = .ok (xs.map g) := by
  induction xs with
  | nil => rfl
  | cons x xs ih =>
      have hx : f x = .ok (g x) := h x List.mem_cons_self
      have hxs : xs.mapM f = .ok (xs.map g) := ih fun y hy => h y (List.mem_cons_of_mem x hy)
      rw [List.mapM_cons, hx, hxs]
      rfl

/-- A reading of a list succeeds when those of its members do. A view of the results is found by
viewing each. -/
theorem exists_mapM_eq_ok {α β γ ε : Type} {f : α → Except ε β} {view : β → γ} {g : α → γ}
    {xs : List α} (h : ∀ x ∈ xs, ∃ y, f x = .ok y ∧ view y = g x) :
    ∃ ys, xs.mapM f = .ok ys ∧ ys.map view = xs.map g := by
  induction xs with
  | nil => exact ⟨[], rfl, rfl⟩
  | cons x xs ih =>
      obtain ⟨y, hy, hview⟩ := h x List.mem_cons_self
      obtain ⟨ys, hys, hviews⟩ := ih fun z hz => h z (List.mem_cons_of_mem x hz)
      refine ⟨y :: ys, ?_, ?_⟩
      · rw [List.mapM_cons, hy, hys]
        rfl
      · rw [List.map_cons, List.map_cons, hview, hviews]

/-- Every result of a reading of a list is the result of one of its members. -/
theorem mem_of_mapM_eq_ok {α β ε : Type} {f : α → Except ε β} {xs : List α} {ys : List β}
    (h : xs.mapM f = .ok ys) {y : β} (hy : y ∈ ys) : ∃ x ∈ xs, f x = .ok y := by
  induction xs generalizing ys with
  | nil =>
      cases h
      cases hy
  | cons x xs ih =>
      rw [List.mapM_cons] at h
      obtain ⟨first, hx, h⟩ := bind_eq_ok h
      obtain ⟨rest, hxs, h⟩ := bind_eq_ok h
      cases h
      obtain rfl | hmem := List.mem_cons.mp hy
      · exact ⟨x, List.mem_cons_self, hx⟩
      · obtain ⟨z, hz, hzy⟩ := ih hxs hmem
        exact ⟨z, List.mem_cons_of_mem x hz, hzy⟩

/-- A reading that can fail in one way only fails in that way when one of the members does. -/
theorem mapM_eq_error {α β ε : Type} {f : α → Except ε β} {xs : List α} {e : ε}
    (only : ∀ x ∈ xs, f x = .error e ∨ ∃ y, f x = .ok y) {x : α} (hmem : x ∈ xs)
    (hx : f x = .error e) : xs.mapM f = .error e := by
  induction xs with
  | nil => cases hmem
  | cons first rest ih =>
      rw [List.mapM_cons]
      rcases only first List.mem_cons_self with hfirst | ⟨y, hfirst⟩
      · rw [hfirst]
        rfl
      · have hrest : x ∈ rest := by
          rcases List.mem_cons.mp hmem with rfl | hrest
          · rw [hfirst] at hx
            cases hx
          · exact hrest
        rw [hfirst, ih (fun z hz => only z (List.mem_cons_of_mem _ hz)) hrest]
        rfl

/-! ## Concatenation of results -/

theorem flatMapM_map_congr {α β γ ε : Type} {f : β → Except ε (List γ)} {g : α → Except ε (List γ)}
    {h : α → β} {xs : List α} (hfg : ∀ x ∈ xs, f (h x) = g x) :
    (xs.map h).flatMapM f = xs.flatMapM g := by
  induction xs with
  | nil => rfl
  | cons x xs ih =>
      rw [List.map_cons, List.flatMapM_cons, List.flatMapM_cons, hfg x List.mem_cons_self,
        ih fun y hy => hfg y (List.mem_cons_of_mem x hy)]

theorem map_flatMapM {α β γ ε : Type} (g : β → γ) (f : α → Except ε (List β)) (xs : List α) :
    (xs.flatMapM f).map (List.map g) = xs.flatMapM fun x => (f x).map (List.map g) := by
  induction xs with
  | nil => rfl
  | cons x xs ih =>
      rw [List.flatMapM_cons, List.flatMapM_cons, ← ih]
      cases f x <;> cases xs.flatMapM f <;>
        simp [Except.map, bind, Except.bind, pure, Except.pure]

/-- Every member of a concatenation stems from one of its parts. -/
theorem mem_of_flatMapM_eq_ok {α β ε : Type} {f : α → Except ε (List β)} {xs : List α}
    {ys : List β} (h : xs.flatMapM f = .ok ys) {y : β} (hy : y ∈ ys) :
    ∃ x ∈ xs, ∃ found, f x = .ok found ∧ y ∈ found := by
  induction xs generalizing ys with
  | nil =>
      cases h
      cases hy
  | cons x xs ih =>
      rw [List.flatMapM_cons] at h
      obtain ⟨first, hx, h⟩ := bind_eq_ok h
      obtain ⟨rest, hxs, h⟩ := bind_eq_ok h
      cases h
      obtain hfirst | hrest := List.mem_append.mp hy
      · exact ⟨x, List.mem_cons_self, first, hx, hfirst⟩
      · obtain ⟨z, hz, found, hfound, hmem⟩ := ih hxs hrest
        exact ⟨z, List.mem_cons_of_mem x hz, found, hfound, hmem⟩

/-- A concatenation fails with the first of its parts that fails. -/
theorem flatMapM_eq_error {α β ε : Type} {f : α → Except ε (List β)} {xs : List α} {e : ε} :
    xs.flatMapM f = .error e ↔ ∃ before x after, xs = before ++ x :: after ∧
      (∀ y ∈ before, ∃ ys, f y = .ok ys) ∧ f x = .error e := by
  induction xs with
  | nil =>
      constructor
      · intro h
        cases h
      · rintro ⟨before, x, after, h, -⟩
        cases before <;> cases h
  | cons y rest ih =>
      rw [List.flatMapM_cons]
      cases hy : f y with
      | error e' =>
          constructor
          · intro h
            cases h
            exact ⟨[], y, rest, rfl, by simp, hy⟩
          · rintro ⟨before, x, after, h, hbefore, hx⟩
            cases before with
            | nil =>
                cases h
                rw [← hx, hy]
                rfl
            | cons first before =>
                cases h
                obtain ⟨ys, hys⟩ := hbefore y List.mem_cons_self
                rw [hy] at hys
                cases hys
      | ok first =>
          have hrest : (Except.ok first >>= fun ys => do return ys ++ (← rest.flatMapM f)) =
              (.error e : Except ε (List β)) ↔ rest.flatMapM f = .error e := by
            cases rest.flatMapM f <;> simp [bind, Except.bind, pure, Except.pure]
          rw [hrest, ih]
          constructor
          · rintro ⟨before, x, after, rfl, hbefore, hx⟩
            refine ⟨y :: before, x, after, rfl, ?_, hx⟩
            intro z hz
            obtain rfl | hz := List.mem_cons.mp hz
            · exact ⟨first, hy⟩
            · exact hbefore z hz
          · rintro ⟨before, x, after, h, hbefore, hx⟩
            cases before with
            | nil =>
                cases h
                rw [hy] at hx
                cases hx
            | cons z before =>
                cases h
                exact ⟨before, x, after, rfl,
                  fun u hu => hbefore u (List.mem_cons_of_mem _ hu), hx⟩

end ClusterDiscovery
