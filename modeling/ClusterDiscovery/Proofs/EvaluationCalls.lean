import ClusterDiscovery.Expression.Evaluate
import ClusterDiscovery.Proofs.HarmlessFilters

/-! # The calls that an evaluation makes

An expression reaches the members that change collections by its calls alone. The calls of an
evaluation can be read off the expression and the store, and unless one of them endangers the first
objects of the store, these stay as they were, whether the evaluation gives a value or fails.
-/

namespace ClusterDiscovery.Expression

/-! ## Calls of an expression -/

/-- What follows a computation that gives a value. -/
def onwards {α : Type} (r : Run α) (store : Store) (k : α → Store → List Call) : List Call :=
  match r.run store with
  | .ok a after => k a after
  | .error _ _ => []

mutual

/-- The calls that the evaluation of an expression makes, in their order. -/
def callsOf (scope : Scope) : Expr → Store → List Call
  | .literal _, _ => []
  | .name _, _ => []
  | .tuple items, store => callsOfAll scope items store
  | .list items, store => callsOfAll scope items store
  | .map entries, store => callsOfEntries scope entries store
  | .unary _ e, store => callsOf scope e store
  | .binary _ a b, store =>
    callsOf scope a store ++ onwards (evaluate scope a) store fun _ after => callsOf scope b after
  | .both a b, store =>
    callsOf scope a store ++ onwards (evaluate scope a) store fun x after =>
      if truthy after x then callsOf scope b after else []
  | .either a b, store =>
    callsOf scope a store ++ onwards (evaluate scope a) store fun x after =>
      if truthy after x then [] else callsOf scope b after
  | .concat items, store => callsOfAll scope items store
  | .compare first rest, store =>
    callsOf scope first store ++ onwards (evaluate scope first) store fun x after =>
      callsOfChain scope x rest after
  | .conditional test yes no, store =>
    callsOf scope test store ++ onwards (evaluate scope test) store fun t after =>
      if truthy after t then callsOf scope yes after else callsOfOption scope no after
  | .attribute e _, store => callsOf scope e store
  | .item e (.slice start stop step), store =>
    callsOf scope e store ++ onwards (evaluate scope e) store fun _ after =>
      callsOfOption scope start after ++ onwards (evaluateBound scope start) after fun _ after =>
        callsOfOption scope stop after ++ onwards (evaluateBound scope stop) after fun _ after =>
          callsOfOption scope step after
  | .item e key, store =>
    callsOf scope e store ++ onwards (evaluate scope e) store fun _ after => callsOf scope key after
  | .slice _ _ _, _ => []
  | .call f args, store =>
    callsOf scope f store ++ onwards (evaluate scope f) store fun callee after =>
      callsOfInputs scope args after ++ onwards (evaluateInputs scope args) after fun args _ =>
        [⟨callee, args⟩]
  | .filter e _ args, store =>
    callsOf scope e store ++ onwards (evaluate scope e) store fun _ after =>
      callsOfInputs scope args after
  | .test e _ args, store =>
    callsOf scope e store ++ onwards (evaluate scope e) store fun _ after =>
      callsOfInputs scope args after

def callsOfAll (scope : Scope) : List Expr → Store → List Call
  | [], _ => []
  | e :: rest, store =>
    callsOf scope e store ++ onwards (evaluate scope e) store fun _ after =>
      callsOfAll scope rest after

def callsOfEntries (scope : Scope) : List (Expr × Expr) → Store → List Call
  | [], _ => []
  | (k, e) :: rest, store =>
    callsOf scope k store ++ onwards (evaluate scope k) store fun _ after =>
      callsOf scope e after ++ onwards (evaluate scope e) after fun _ after =>
        callsOfEntries scope rest after

def callsOfNamed (scope : Scope) : List (String × Expr) → Store → List Call
  | [], _ => []
  | (_, e) :: rest, store =>
    callsOf scope e store ++ onwards (evaluate scope e) store fun _ after =>
      callsOfNamed scope rest after

def callsOfChain (scope : Scope) (left : Value) :
    List (CompareOperator × Expr) → Store → List Call
  | [], _ => []
  | (op, e) :: rest, store =>
    callsOf scope e store ++ onwards (evaluate scope e) store fun right after =>
      onwards (applyCompare op left right) after fun holds after =>
        if holds then callsOfChain scope right rest after else []

def callsOfOption (scope : Scope) : Option Expr → Store → List Call
  | none, _ => []
  | some e, store => callsOf scope e store

def callsOfInputs (scope : Scope) : Inputs → Store → List Call
  | .mk positional named rest namedRest, store =>
    callsOfAll scope positional store ++ onwards (evaluateAll scope positional) store fun _ after =>
      callsOfOption scope rest after ++ onwards (evaluateSpread scope rest) after fun _ after =>
        callsOfNamed scope named after ++ onwards (evaluateNamed scope named) after fun _ after =>
          callsOfOption scope namedRest after

end

/-! ## Operations of an evaluation -/

@[grind .]
theorem engine_harmless : engine.IsHarmless := Engine.ofDepth_harmless callDepth

mutual

theorem Literal.make_harmless : ∀ l : Literal, Harmless l.make
  | .null | .bool _ | .int _ | .float _ | .complex _ _ | .text _ | .markup _ | .range _ _ _ =>
    .pure _
  | .tuple items => (makeAll_harmless items).bind fun _ => .pure _
  | .list items => (makeAll_harmless items).bind fun _ => .allocList _
  | .map entries => (makeEntries_harmless entries).bind fun _ => .alloc _

theorem makeAll_harmless : ∀ items, Harmless (makeAll items)
  | [] => .pure _
  | l :: rest => (l.make_harmless).bind fun _ => (makeAll_harmless rest).bind fun _ => .pure _

theorem makeEntries_harmless : ∀ entries, Harmless (makeEntries entries)
  | [] => .pure _
  | (k, v) :: rest =>
    k.make_harmless.bind fun _ => v.make_harmless.bind fun _ =>
      (makeEntries_harmless rest).bind fun _ => .pure _

end

@[grind .]
theorem applyUnary_harmless (op : UnaryOperator) (v : Value) : Harmless (applyUnary op v) := by
  unfold applyUnary
  grind

@[grind .]
theorem applyBinary_harmless (op : Arithmetic) (a b : Value) : Harmless (applyBinary op a b) := by
  unfold applyBinary
  split
  case h_4 =>
    unfold applyBinary.difference
    refine Harmless.get.bind fun store => ?_
    split
    · exact numeric_harmless _ a b
    · next items _ =>
        refine (Harmless.lift _).bind fun _ => (itemsOf_harmless engine_harmless b).bind fun _ => ?_
        refine (Harmless.filterM (fun v => ?_) items).bind fun kept => .alloc _
        grind
  all_goals grind

@[grind .]
theorem applyCompare_harmless (op : CompareOperator) (a b : Value) :
    Harmless (applyCompare op a b) := by
  unfold applyCompare
  grind

@[grind .]
theorem spread_harmless (v : Value) : Harmless (spread v) := by
  unfold spread
  grind

@[grind .]
theorem spreadNamed_harmless (v : Value) : Harmless (spreadNamed v) := by
  unfold spreadNamed
  grind

theorem refuseUnknown_harmless (kind name : String) (args : Arguments) :
    Harmless (refuseUnknown kind name args) := by
  unfold refuseUnknown
  grind

/-! ## Evaluation -/

/-- Where none of the calls endangers the first objects, a computation keeps those of them that are
settled. -/
def Calm {α : Type} (count : Nat) (calls : List Call) (store : Store) (r : Run α) : Prop :=
  (∀ call ∈ calls, call.endangers count = false) → KeepsFirst count store (leftBy (r.run store))

namespace Calm

variable {α β : Type} {r : Run α} {k : α → Run β} {store : Store} {count : Nat} {calls : List Call}

theorem of_harmless (h : Harmless r) : Calm count calls store r := fun _ => h.keepsFirst store

theorem bind {after : α → Store → List Call} (hr : Calm count calls store r)
    (hk : ∀ a middle, Calm count (after a middle) middle (k a)) :
    Calm count (calls ++ onwards r store after) store (r >>= k) := by
  intro hcalls
  have hfirst := hr fun call hcall => hcalls call (List.mem_append_left _ hcall)
  cases hrun : r.run store with
  | error fault middle =>
      rw [run_bind_of_error hrun]
      rwa [hrun] at hfirst
  | ok a middle =>
      rw [run_bind_of_ok hrun]
      rw [hrun] at hfirst
      refine hfirst.trans (hk a middle fun call hcall => hcalls call (List.mem_append_right _ ?_))
      unfold onwards
      rw [hrun]
      exact hcall

theorem andThen (hr : Calm count calls store r) (hk : ∀ a, Harmless (k a)) :
    Calm count calls store (r >>= k) := by
  have hnone : (calls ++ onwards r store fun _ _ => []) = calls := by
    unfold onwards
    cases r.run store <;> exact List.append_nil calls
  have hbind : Calm count (calls ++ onwards r store fun _ _ => []) store (r >>= k) :=
    hr.bind fun a _ => of_harmless (hk a)
  rwa [hnone] at hbind

/-- What a harmless computation gives decides on the calls after it. -/
theorem after_harmless {after : α → Store → List Call} (hr : Harmless r)
    (hk : ∀ a middle, Calm count (after a middle) middle (k a)) :
    Calm count (onwards r store after) store (r >>= k) :=
  bind (of_harmless hr : Calm count [] store r) hk

theorem get {k : Store → Run α} (h : Calm count calls store (k store)) :
    Calm count calls store (MonadState.get >>= k) := h

theorem ite {c : Prop} [Decidable c] {s : Run α} {others : List Call}
    (hr : Calm count calls store r) (hs : Calm count others store s) :
    Calm count (if c then calls else others) store (if c then r else s) := by
  split
  · exact hr
  · exact hs

end Calm

variable {count : Nat}

mutual

theorem evaluate_calm (scope : Scope) : ∀ (e : Expr) (store : Store),
    Calm count (callsOf scope e store) store (evaluate scope e)
  | .literal l, store => by
      unfold evaluate
      refine .of_harmless ?_
      have hmake := l.make_harmless
      grind
  | .name _, _ => .of_harmless (.pure _)
  | .tuple items, store => (evaluateAll_calm scope items store).andThen fun _ => .pure _
  | .list items, store => (evaluateAll_calm scope items store).andThen fun _ => .allocList _
  | .map entries, store => by
      unfold evaluate callsOf
      refine (evaluateEntries_calm scope entries store).andThen fun entries => ?_
      grind
  | .unary op e, store => (evaluate_calm scope e store).andThen fun v => applyUnary_harmless op v
  | .binary op a b, store => by
      unfold evaluate callsOf
      refine (evaluate_calm scope a store).bind fun x middle => ?_
      exact (evaluate_calm scope b middle).andThen fun y => applyBinary_harmless op x y
  | .both a b, store => by
      unfold evaluate callsOf
      refine (evaluate_calm scope a store).bind fun x middle => ?_
      exact .get (.ite (evaluate_calm scope b middle) (.of_harmless (.pure x)))
  | .either a b, store => by
      unfold evaluate callsOf
      refine (evaluate_calm scope a store).bind fun x middle => ?_
      exact .get (.ite (.of_harmless (.pure x)) (evaluate_calm scope b middle))
  | .concat items, store => by
      unfold evaluate callsOf
      refine (evaluateAll_calm scope items store).andThen fun values => ?_
      grind
  | .compare first rest, store => by
      unfold evaluate callsOf
      exact (evaluate_calm scope first store).bind fun x middle =>
        evaluateChain_calm scope x rest middle
  | .conditional test yes no, store => by
      unfold evaluate callsOf
      refine (evaluate_calm scope test store).bind fun t middle => ?_
      exact .get (.ite (evaluate_calm scope yes middle) (evaluateElse_calm scope no middle))
  | .attribute e name, store =>
      (evaluate_calm scope e store).andThen fun v => getAttribute_harmless v name
  | .item e key, store => by
      have hkey : Calm count
          (callsOf scope e store ++ onwards (evaluate scope e) store fun _ middle =>
            callsOf scope key middle) store (do
            let v ← evaluate scope e
            getItem v (← evaluate scope key)) := by
        refine (evaluate_calm scope e store).bind fun v middle => ?_
        exact (evaluate_calm scope key middle).andThen fun key => getItem_harmless v key
      cases key with
      | slice start stop step =>
          unfold evaluate callsOf
          refine (evaluate_calm scope e store).bind fun v s₁ => ?_
          refine (evaluateBound_calm scope start s₁).bind fun start s₂ => ?_
          refine (evaluateBound_calm scope stop s₂).bind fun stop s₃ => ?_
          refine (evaluateBound_calm scope step s₃).andThen fun step => ?_
          exact sliceOf_harmless v start stop step
      | _ => exact hkey
  | .slice _ _ _, _ => .of_harmless (.throw _)
  | .call f args, store => by
      unfold evaluate callsOf
      refine (evaluate_calm scope f store).bind fun callee middle => ?_
      refine (evaluateInputs_calm scope args middle).bind fun args after => ?_
      exact fun hcall => callValue_keepsFirst engine_harmless (hcall _ List.mem_cons_self) after
  | .filter e name args, store => by
      unfold evaluate callsOf
      refine (evaluate_calm scope e store).bind fun v middle => ?_
      refine (evaluateInputs_calm scope args middle).andThen fun args => ?_
      have hunknown := refuseUnknown_harmless "filter" name args
      have hfilter := runFilter_harmless engine_harmless name v args
      grind
  | .test e name args, store => by
      unfold evaluate callsOf
      refine (evaluate_calm scope e store).bind fun v middle => ?_
      refine (evaluateInputs_calm scope args middle).andThen fun args => ?_
      have hunknown := refuseUnknown_harmless "test" name args
      have htest := runTest_harmless engine_harmless name v args
      grind

theorem evaluateAll_calm (scope : Scope) : ∀ (items : List Expr) (store : Store),
    Calm count (callsOfAll scope items store) store (evaluateAll scope items)
  | [], _ => .of_harmless (.pure [])
  | e :: rest, store => by
      unfold evaluateAll callsOfAll
      refine (evaluate_calm scope e store).bind fun v middle => ?_
      exact (evaluateAll_calm scope rest middle).andThen fun vs => .pure _

theorem evaluateEntries_calm (scope : Scope) : ∀ (entries : List (Expr × Expr)) (store : Store),
    Calm count (callsOfEntries scope entries store) store (evaluateEntries scope entries)
  | [], _ => .of_harmless (.pure [])
  | (k, e) :: rest, store => by
      unfold evaluateEntries callsOfEntries
      refine (evaluate_calm scope k store).bind fun key middle => ?_
      refine (evaluate_calm scope e middle).bind fun v after => ?_
      exact (evaluateEntries_calm scope rest after).andThen fun entries => .pure _

theorem evaluateNamed_calm (scope : Scope) : ∀ (named : List (String × Expr)) (store : Store),
    Calm count (callsOfNamed scope named store) store (evaluateNamed scope named)
  | [], _ => .of_harmless (.pure [])
  | (name, e) :: rest, store => by
      unfold evaluateNamed callsOfNamed
      refine (evaluate_calm scope e store).bind fun v middle => ?_
      exact (evaluateNamed_calm scope rest middle).andThen fun named => .pure _

theorem evaluateChain_calm (scope : Scope) : ∀ (left : Value)
    (chain : List (CompareOperator × Expr)) (store : Store),
    Calm count (callsOfChain scope left chain store) store (evaluateChain scope left chain)
  | _, [], _ => .of_harmless (.pure _)
  | left, (op, e) :: rest, store => by
      unfold evaluateChain callsOfChain
      refine (evaluate_calm scope e store).bind fun right middle => ?_
      refine .after_harmless (applyCompare_harmless op left right) fun holds after => ?_
      exact .ite (evaluateChain_calm scope right rest after) (.of_harmless (.pure _))

theorem evaluateElse_calm (scope : Scope) : ∀ (e : Option Expr) (store : Store),
    Calm count (callsOfOption scope e store) store (evaluateElse scope e)
  | none, _ => .of_harmless (.pure _)
  | some e, store => evaluate_calm scope e store

theorem evaluateBound_calm (scope : Scope) : ∀ (e : Option Expr) (store : Store),
    Calm count (callsOfOption scope e store) store (evaluateBound scope e)
  | none, _ => .of_harmless (.pure _)
  | some e, store => evaluate_calm scope e store

theorem evaluateInputs_calm (scope : Scope) : ∀ (args : Inputs) (store : Store),
    Calm count (callsOfInputs scope args store) store (evaluateInputs scope args)
  | .mk positional named rest namedRest, store => by
      unfold evaluateInputs callsOfInputs
      refine (evaluateAll_calm scope positional store).bind fun args s₁ => ?_
      refine (evaluateSpread_calm scope rest s₁).bind fun more s₂ => ?_
      refine (evaluateNamed_calm scope named s₂).bind fun named s₃ => ?_
      refine (evaluateNamedSpread_calm scope namedRest s₃).andThen fun extra => ?_
      exact (Harmless.lift _).bind fun joined => .pure _

theorem evaluateSpread_calm (scope : Scope) : ∀ (e : Option Expr) (store : Store),
    Calm count (callsOfOption scope e store) store (evaluateSpread scope e)
  | none, _ => .of_harmless (.pure [])
  | some e, store => (evaluate_calm scope e store).andThen fun v => spread_harmless v

theorem evaluateNamedSpread_calm (scope : Scope) : ∀ (e : Option Expr) (store : Store),
    Calm count (callsOfOption scope e store) store (evaluateNamedSpread scope e)
  | none, _ => .of_harmless (.pure [])
  | some e, store => (evaluate_calm scope e store).andThen fun v => spreadNamed_harmless v

end

end ClusterDiscovery.Expression
