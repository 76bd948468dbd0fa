import ClusterDiscovery.Expression.Paths
import ClusterDiscovery.Proofs.LoadedServices

/-! # Runs that leave collections as they are

Lists, mappings and sets are the objects that come with a service; an iterator that is spent can
stand for a foreign part of it. All of them are settled: only some members of collections change
them. Iterators, lazy sequences and the counters of the library change as they are used.
-/

namespace ClusterDiscovery.Expression

/-! ## What a run keeps -/

/-- An object that using it does not change. -/
def Object.isSettled : Object → Bool
  | .list _ | .map _ | .set _ => true
  | .iterator _ rest => rest.isEmpty
  | _ => false

/-- Settled objects of the first store are in their places in the second. -/
def Keeps (store after : Store) : Prop := ∀ (id : ObjectId) (o : Object),
  store[id]? = some o → o.isSettled = true → after[id]? = some o

theorem Keeps.refl (store : Store) : Keeps store store := fun _ _ h _ => h

theorem Keeps.trans {first second third : Store} (h : Keeps first second)
    (h' : Keeps second third) : Keeps first third :=
  fun id o ho hsettled => h' id o (h id o ho hsettled) hsettled

theorem Grows.keeps {store after : Store} (h : Grows store after) : Keeps store after :=
  fun id o ho _ => h id o ho

/-- The store that a computation leaves, whether it gives a value or fails. -/
def leftBy {α : Type} : EStateM.Result Fault Store α → Store
  | .ok _ store => store
  | .error _ store => store

/-- Started in a store, a computation keeps what is settled there. -/
def KeepsFrom {α : Type} (store : Store) (r : Run α) : Prop := Keeps store (leftBy (r.run store))

/-- A computation that keeps what is settled. -/
def Harmless {α : Type} (r : Run α) : Prop := ∀ store, KeepsFrom store r

section

variable {α β : Type} {r : Run α} {k : α → Run β} {store : Store}

theorem KeepsFrom.bind (hr : KeepsFrom store r)
    (hk : ∀ a after, r.run store = .ok a after → KeepsFrom after (k a)) :
    KeepsFrom store (r >>= k) := by
  unfold KeepsFrom at hr ⊢
  cases hrun : r.run store with
  | error fault after =>
      rw [run_bind_of_error hrun]
      rwa [hrun] at hr
  | ok a after =>
      rw [run_bind_of_ok hrun]
      rw [hrun] at hr
      exact hr.trans (hk a after hrun)

end

namespace Harmless

variable {α β : Type}

@[grind .]
theorem pure (a : α) : Harmless (Pure.pure a : Run α) := fun _ => .refl _

@[grind .]
theorem throw (fault : Fault) : Harmless (MonadExcept.throw fault : Run α) := fun _ => .refl _

@[grind .]
theorem get : Harmless (MonadState.get : Run Store) := fun _ => .refl _

@[grind .]
theorem lift (r : Except Fault α) : Harmless (lift r) := by
  cases r with
  | ok a => exact pure a
  | error fault => exact throw fault

@[grind .]
theorem alloc (o : Object) : Harmless (Run.alloc o) := fun store => (grows_push store o).keeps

@[grind .]
theorem allocList (items : List Value) : Harmless (Run.allocList items) := alloc _

@[grind ←]
theorem bind {r : Run α} {k : α → Run β} (hr : Harmless r) (hk : ∀ a, Harmless (k a)) :
    Harmless (r >>= k) := fun store => (hr store).bind fun a after _ => hk a after

@[grind ←]
theorem map {r : Run α} (f : α → β) (hr : Harmless r) : Harmless (f <$> r) := by
  have hbind : Harmless (r >>= fun a => Pure.pure (f a)) := hr.bind fun a => pure (f a)
  rwa [← map_eq_pure_bind] at hbind

@[grind ←]
theorem tryCatch {r : Run α} {handle : Fault → Run α} (hr : Harmless r)
    (hhandle : ∀ fault, Harmless (handle fault)) :
    Harmless (MonadExcept.tryCatch r handle) := by
  intro store
  have hstart := hr store
  unfold KeepsFrom at hstart ⊢
  cases hrun : r.run store with
  | ok a after =>
      rw [run_tryCatch_of_ok hrun]
      rwa [hrun] at hstart
  | error fault after =>
      rw [run_tryCatch_of_error hrun]
      rw [hrun] at hstart
      exact hstart.trans (hhandle fault after)

@[grind ←]
theorem mapM {f : α → Run β} (hf : ∀ a, Harmless (f a)) (items : List α) :
    Harmless (items.mapM f) := by
  induction items with
  | nil => exact pure []
  | cons a rest ih =>
      rw [List.mapM_cons]
      exact (hf a).bind fun b => ih.bind fun bs => pure (b :: bs)

@[grind ←]
theorem filterM {p : α → Run Bool} (hp : ∀ a, Harmless (p a)) (items : List α) :
    Harmless (items.filterM p) := by
  have hfrom (rest kept : List α) : Harmless (List.filterAuxM p rest kept) := by
    induction rest generalizing kept with
    | nil => exact pure kept
    | cons a rest ih =>
        unfold List.filterAuxM
        exact (hp a).bind fun chosen => ih _
  unfold List.filterM
  exact (hfrom items []).bind fun kept => pure kept.reverse

end Harmless

/-! ## Changes at one place -/

/-- Started in a store, a computation keeps what is settled there, except at one place. -/
def HarmlessBut {α : Type} (id : ObjectId) (r : Run α) : Prop :=
  ∀ store place o, place ≠ id → store[place]? = some o → o.isSettled = true →
    (leftBy (r.run store))[place]? = some o

namespace HarmlessBut

variable {α β : Type} {id : ObjectId}

theorem of_harmless {r : Run α} (h : Harmless r) : HarmlessBut id r :=
  fun store place o _ ho hsettled => h store place o ho hsettled

@[grind .]
theorem pure (a : α) : HarmlessBut id (Pure.pure a : Run α) := .of_harmless (.pure a)

@[grind .]
theorem throw (fault : Fault) : HarmlessBut id (MonadExcept.throw fault : Run α) :=
  .of_harmless (.throw fault)

@[grind .]
theorem lift (r : Except Fault α) : HarmlessBut id (lift r) := .of_harmless (.lift r)

@[grind .]
theorem get : HarmlessBut id (MonadState.get : Run Store) := .of_harmless .get

@[grind .]
theorem alloc (o : Object) : HarmlessBut id (Run.alloc o) := .of_harmless (.alloc o)

@[grind .]
theorem allocList (items : List Value) : HarmlessBut id (Run.allocList items) := alloc _

@[grind .]
theorem write (o : Object) : HarmlessBut id (Run.write id o) := by
  intro store place held hplace hheld _
  show (store.setIfInBounds id o)[place]? = some held
  rw [Array.getElem?_setIfInBounds_ne hplace.symm]
  exact hheld

@[grind ←]
theorem bind {r : Run α} {k : α → Run β} (hr : HarmlessBut id r)
    (hk : ∀ a, HarmlessBut id (k a)) : HarmlessBut id (r >>= k) := by
  intro store place o hplace ho hsettled
  have hmiddle := hr store place o hplace ho hsettled
  cases hrun : r.run store with
  | error fault after =>
      rw [run_bind_of_error hrun]
      rwa [hrun] at hmiddle
  | ok a after =>
      rw [run_bind_of_ok hrun]
      rw [hrun] at hmiddle
      exact hk a after place o hplace hmiddle hsettled

theorem read {k : Object → Run α} (hk : ∀ o, HarmlessBut id (k o)) :
    HarmlessBut id (Run.read id >>= k) :=
  bind (bind get fun _ => pure _) hk

theorem lift_bind {r : Except Fault α} {k : α → Run β}
    (hk : ∀ a, r = .ok a → HarmlessBut id (k a)) : HarmlessBut id (Expression.lift r >>= k) := by
  cases r with
  | ok a => exact hk a rfl
  | error fault => exact HarmlessBut.throw fault

end HarmlessBut

/-- What is done with an object may change it where it is not settled. -/
theorem Harmless.read {α : Type} {id : ObjectId} {k : Object → Run α}
    (hsettled : ∀ o, o.isSettled = true → Harmless (k o))
    (hother : ∀ o, o.isSettled = false → HarmlessBut id (k o)) :
    Harmless (Run.read id >>= k) := by
  intro store place o ho hplace
  have hread : (Run.read id >>= k).run store = (k (store[id]?.getD (.list []))).run store := rfl
  show (leftBy ((Run.read id >>= k).run store))[place]? = some o
  rw [hread]
  cases hheld : (store[id]?.getD (.list [])).isSettled with
  | true => exact hsettled _ hheld store place o ho hplace
  | false =>
      refine hother _ hheld store place o ?_ ho hplace
      rintro rfl
      rw [ho] at hheld
      exact Bool.false_ne_true (hheld.symm.trans hplace)

/-! ## Operators -/

@[grind .]
theorem add_harmless (a b : Value) : Harmless (add a b) := by
  unfold add
  grind

theorem repeated?_harmless {store : Store} {v : Value} {times : Int} {r : Run Value}
    (h : repeated? store v times = some r) : Harmless r := by
  unfold repeated? at h
  split at h
  · cases h
    exact (Harmless.lift _).bind fun _ => .pure _
  · cases h
    exact (Harmless.lift _).bind fun _ => .pure _
  · cases h
    exact (Harmless.lift _).bind fun _ => .pure _
  · split at h
    · cases h
      exact (Harmless.lift _).bind fun _ => .pure _
    · obtain ⟨items, -, rfl⟩ := Option.map_eq_some_iff.mp h
      exact (Harmless.lift _).bind fun _ => .allocList _

@[grind .]
theorem mul_harmless (a b : Value) : Harmless (mul a b) := by
  have hattempt {store : Store} {sequence count : Value} {r : Run Value}
      (h : (count.int?.bind fun times => repeated? store sequence times) = some r) :
      Harmless r := by
    obtain ⟨times, -, hrepeated⟩ := Option.bind_eq_some_iff.mp h
    exact repeated?_harmless hrepeated
  unfold mul
  split
  · exact .lift _
  · refine (Harmless.lift _).bind fun _ => Harmless.get.bind fun store => ?_
    simp only
    split
    · next r hr => exact hattempt hr
    · cases hr : a.int?.bind fun times => repeated? store b times with
      | none => exact .throw _
      | some r => exact hattempt hr

@[grind .]
theorem numeric_harmless (op : Arithmetic) (a b : Value) : Harmless (numeric op a b) := by
  unfold numeric
  grind

@[grind .]
theorem negate_harmless (v : Value) : Harmless (negate v) := by
  unfold negate
  grind

@[grind .]
theorem affirm_harmless (v : Value) : Harmless (affirm v) := by
  unfold affirm
  grind

@[grind .]
theorem sliceOf_harmless (v start stop step : Value) : Harmless (sliceOf v start stop step) := by
  unfold sliceOf
  grind

@[grind .]
theorem subscript_harmless (v key : Value) : Harmless (subscript v key) := by
  unfold subscript
  refine Harmless.get.bind fun store => ?_
  simp only
  split
  · exact .throw _
  · grind
  · grind
  · grind
  · grind
  · split
    · grind
    · split
      · grind
      · split
        · refine (Harmless.lift _).bind fun found => ?_
          cases found with
          | none => exact .throw _
          | some v => exact .pure v
        · exact .throw _

/-! ## Templates -/

@[grind .]
theorem fillFrom_harmless (escaping : Bool) (fuel : Nat) (supply : PercentTemplate.Supply)
    (s : List Char) : Harmless (PercentTemplate.fillFrom escaping fuel supply s) := by
  induction fuel generalizing supply s with
  | zero => exact .throw _
  | succ fuel ih =>
      unfold PercentTemplate.fillFrom
      split
      · grind
      · grind
      · next rest _ =>
          extract_lets proceed
          have hproceed (taken : PercentTemplate.Supply × List Char) :
              Harmless (proceed taken) := by
            unfold proceed
            refine (Harmless.lift _).bind fun width => (Harmless.lift _).bind fun precision => ?_
            grind
          clear_value proceed
          grind
      · grind

@[grind .]
theorem fillPercent_harmless (escaping : Bool) (template : String) (args : Value) :
    Harmless (fillPercent escaping template args) := by
  unfold fillPercent
  grind

@[grind .]
theorem rem_harmless (a b : Value) : Harmless (rem a b) := by
  unfold rem
  grind

/-! ## Members -/

@[grind .]
theorem element?_harmless (v key : Value) : Harmless (element? v key) := by
  unfold element?
  grind

@[grind .]
theorem undefinedMember_harmless (v key : Value) : Harmless (undefinedMember v key) := by
  unfold undefinedMember
  grind

@[grind .]
theorem getAttribute_harmless (v : Value) (name : String) : Harmless (getAttribute v name) := by
  unfold getAttribute
  grind

@[grind .]
theorem getItem_harmless (v key : Value) : Harmless (getItem v key) := by
  unfold getItem
  grind

@[grind .]
theorem followPath_harmless (fuel : Nat) (v : Value) (path : List Char) :
    Harmless (BraceTemplate.followPath fuel v path) := by
  induction fuel generalizing v path with
  | zero => exact .throw _
  | succ fuel ih =>
      unfold BraceTemplate.followPath
      grind

@[grind .]
theorem named?_harmless (inputs : BraceTemplate.Inputs) (name : String) :
    Harmless (inputs.named? name) := by
  unfold BraceTemplate.Inputs.named?
  grind

@[grind .]
theorem fieldValue_harmless (inputs : BraceTemplate.Inputs) (name : List Char) :
    Harmless (BraceTemplate.fieldValue inputs name) := by
  unfold BraceTemplate.fieldValue
  grind

@[grind .]
theorem fill_harmless (escaping : Bool) (inputs : BraceTemplate.Inputs) (depth fuel : Nat)
    (numbering : BraceTemplate.Numbering) (s : List Char) :
    Harmless (BraceTemplate.fill escaping inputs depth fuel numbering s) := by
  fun_induction BraceTemplate.fill escaping inputs depth fuel numbering s with
  | case1 => exact .throw _
  | case2 => exact .throw _
  | case3 => exact .pure _
  | case4 depth fuel numbering s hempty ihRest ihSpec ihAfter =>
      refine (Harmless.lift _).bind fun segment => ?_
      split
      · grind
      · refine (Harmless.lift _).bind fun named => ?_
        refine (fieldValue_harmless _ _).bind fun v => ?_
        grind

@[grind .]
theorem fillBraces_harmless (escaping : Bool) (template : String) (inputs : BraceTemplate.Inputs) :
    Harmless (fillBraces escaping template inputs) := by
  unfold fillBraces
  grind

@[grind .]
theorem followSteps_harmless (replacement : Option Value) (path : List Value) (v : Value) :
    Harmless (followSteps replacement path v) := by
  induction path generalizing v with
  | nil => exact .pure v
  | cons step rest ih =>
      unfold followSteps
      grind

@[grind .]
theorem keyOf_harmless (path : List Value) (replacement : Option Value) (caseSensitive : Bool)
    (v : Value) : Harmless (keyOf path replacement caseSensitive v) := by
  unfold keyOf
  grind

end ClusterDiscovery.Expression
