import ClusterDiscovery.Expression.Compile
import ClusterDiscovery.Proofs.LoadedServices

/-! # Constant parts of expressions

The constant parts of an expression are computed when it is compiled. Where that fails, they are
left for evaluation, with two exceptions: a mapping whose keys cannot be held, and joined texts of
which one cannot be written. Neither can happen where the keys and the joined parts are single
constants, or begin with a name or a call.
-/

namespace ClusterDiscovery.Expression

open ClusterDiscovery.Number

/-! ## Parts of an expression -/

mutual

/-- Whether some part of an expression, or all of it, passes a test. -/
def Expr.anyPart (p : Expr → Bool) : Expr → Bool
  | .literal l => p (.literal l)
  | .name s => p (.name s)
  | .tuple items => p (.tuple items) || anyPartOf p items
  | .list items => p (.list items) || anyPartOf p items
  | .map entries => p (.map entries) || anyPartOfEntries p entries
  | .unary op e => p (.unary op e) || e.anyPart p
  | .binary op a b => p (.binary op a b) || a.anyPart p || b.anyPart p
  | .both a b => p (.both a b) || a.anyPart p || b.anyPart p
  | .either a b => p (.either a b) || a.anyPart p || b.anyPart p
  | .concat items => p (.concat items) || anyPartOf p items
  | .compare first rest => p (.compare first rest) || first.anyPart p || anyPartOfChain p rest
  | .conditional test yes no =>
    p (.conditional test yes no) || test.anyPart p || yes.anyPart p || anyPartOfOption p no
  | .attribute e name => p (.attribute e name) || e.anyPart p
  | .item e key => p (.item e key) || e.anyPart p || key.anyPart p
  | .slice start stop step =>
    p (.slice start stop step) || anyPartOfOption p start || anyPartOfOption p stop
      || anyPartOfOption p step
  | .call f args => p (.call f args) || f.anyPart p || anyPartOfInputs p args
  | .filter e name args => p (.filter e name args) || e.anyPart p || anyPartOfInputs p args
  | .test e name args => p (.test e name args) || e.anyPart p || anyPartOfInputs p args

def anyPartOf (p : Expr → Bool) : List Expr → Bool
  | [] => false
  | e :: rest => e.anyPart p || anyPartOf p rest

def anyPartOfEntries (p : Expr → Bool) : List (Expr × Expr) → Bool
  | [] => false
  | (k, e) :: rest => k.anyPart p || e.anyPart p || anyPartOfEntries p rest

def anyPartOfChain (p : Expr → Bool) : List (CompareOperator × Expr) → Bool
  | [] => false
  | (_, e) :: rest => e.anyPart p || anyPartOfChain p rest

def anyPartOfNamed (p : Expr → Bool) : List (String × Expr) → Bool
  | [] => false
  | (_, e) :: rest => e.anyPart p || anyPartOfNamed p rest

def anyPartOfOption (p : Expr → Bool) : Option Expr → Bool
  | none => false
  | some e => e.anyPart p

def anyPartOfInputs (p : Expr → Bool) : Inputs → Bool
  | .mk positional named rest namedRest =>
    anyPartOf p positional || anyPartOfNamed p named || anyPartOfOption p rest
      || anyPartOfOption p namedRest

end

/-! ## Faults of equality and of texts -/

/-- A step that fails, if at all, with a fault of a kind. -/
def FailsWith {α : Type} (P : Fault → Prop) (r : Except Fault α) : Prop :=
  ∀ f, r = .error f → P f

namespace FailsWith

variable {α β : Type} {P : Fault → Prop}

theorem pure (a : α) : FailsWith P (Pure.pure a) := nofun

theorem throw {f : Fault} (h : P f) : FailsWith P (throw f : Except Fault α) := by
  rintro f' ⟨⟩
  exact h

theorem bind {r : Except Fault α} {k : α → Except Fault β} (hr : FailsWith P r)
    (hk : ∀ a, FailsWith P (k a)) : FailsWith P (r >>= k) := by
  intro f h
  cases r with
  | error f' => exact hr f (congrArg Except.error (Except.error.inj h))
  | ok a => exact hk a f h

theorem ite {c : Prop} [Decidable c] {r s : Except Fault α} (hr : FailsWith P r)
    (hs : FailsWith P s) : FailsWith P (if c then r else s) := by
  split
  · exact hr
  · exact hs

variable {test : Value → Except Fault Bool} {same : Value → Value → Except Fault Bool}
  {display : Value → Except Fault String}

theorem anyOf (h : ∀ v, FailsWith P (test v)) : ∀ vs, FailsWith P (anyOf test vs)
  | [] => .pure _
  | v :: vs => (h v).bind fun _ => .ite (.pure _) (anyOf h vs)

theorem allOf (h : ∀ v, FailsWith P (test v)) : ∀ vs, FailsWith P (allOf test vs)
  | [] => .pure _
  | v :: vs => (h v).bind fun _ => .ite (allOf h vs) (.pure _)

theorem entryWith? (h : ∀ v, FailsWith P (test v)) : ∀ entries,
    FailsWith P (entryWith? test entries)
  | [] => .pure _
  | (k, _) :: rest => (h k).bind fun _ => .ite (.pure _) (entryWith? h rest)

theorem insertEntry (h : ∀ v, FailsWith P (test v)) (key value : Value) : ∀ entries,
    FailsWith P (insertEntry test key value entries)
  | [] => .pure _
  | (k, _) :: rest => (h k).bind fun _ => .ite (.pure _)
    ((insertEntry h key value rest).bind fun _ => .pure _)

theorem equalLists (h : ∀ v w, FailsWith P (same v w)) : ∀ vs ws,
    FailsWith P (equalLists same vs ws)
  | [], [] => .pure _
  | v :: vs, w :: ws => (h v w).bind fun _ => .ite (equalLists h vs ws) (.pure _)
  | [], _ :: _ => .pure _
  | _ :: _, [] => .pure _

theorem equalMaps_go (h : ∀ v w, FailsWith P (same v w)) (ys : List (Value × Value)) : ∀ xs,
    FailsWith P (equalMaps.go same ys xs)
  | [] => .pure _
  | (k, v) :: rest => by
    refine (entryWith? (h k) ys).bind fun found => ?_
    cases found with
    | none => exact .pure _
    | some w => exact (h v w).bind fun _ => .ite (equalMaps_go h ys rest) (.pure _)

theorem equalMaps (h : ∀ v w, FailsWith P (same v w)) (xs ys : List (Value × Value)) :
    FailsWith P (equalMaps same xs ys) := .ite (.pure _) (equalMaps_go h ys xs)

theorem equalSets (h : ∀ v w, FailsWith P (same v w)) (xs ys : List Value) :
    FailsWith P (equalSets same xs ys) :=
  .ite (.pure _) (allOf (fun v => anyOf (h v) ys) xs)

theorem displayAll (h : ∀ v, FailsWith P (display v)) : ∀ vs,
    FailsWith P (displayAll display vs)
  | [] => .pure _
  | v :: vs => (h v).bind fun _ => (displayAll h vs).bind fun _ => .pure _

theorem displayEntries (h : ∀ v, FailsWith P (display v)) : ∀ entries,
    FailsWith P (displayEntries display entries)
  | [] => .pure _
  | (k, v) :: rest => (h k).bind fun _ => (h v).bind fun _ =>
    (displayEntries h rest).bind fun _ => .pure _

end FailsWith

theorem equalTo_failsWith (depth : Nat) (store : Store) (a b : Value) :
    FailsWith (· = .tooDeep) (equalTo depth store a b) := by
  induction depth generalizing a b with
  | zero => exact .throw rfl
  | succ depth ih =>
      unfold equalTo
      repeat' split
      all_goals first
        | exact .pure _
        | exact ih _ _
        | exact .equalLists ih _ _
        | exact .equalMaps ih _ _
        | exact .equalSets ih _ _

theorem quotedTo_failsWith (depth : Nat) (store : Store) (opened : List ObjectId) (v : Value) :
    FailsWith (fun f => f = .badValue ∨ f = .tooDeep) (quotedTo depth store opened v) := by
  induction depth generalizing opened v with
  | zero => exact .throw (.inr rfl)
  | succ depth ih =>
      have hint (i : Int) : FailsWith (fun f => f = .badValue ∨ f = .tooDeep) (displayInt i) := by
        unfold displayInt
        split
        · exact .pure _
        · exact .throw (.inl rfl)
      have hall (opened : List ObjectId) (vs : List Value) :
          FailsWith (fun f => f = .badValue ∨ f = .tooDeep)
            (displayAll (quotedTo depth store opened) vs) := .displayAll (ih opened) vs
      cases v
      case int i => exact hint i
      all_goals
        unfold quotedTo
        dsimp only
      case' ref id => repeat' split
      all_goals first
        | exact .pure _
        | exact (hall _ _).bind fun _ => .pure _
        | exact .ite (.pure _) ((hall _ _).bind fun _ => .pure _)
        | exact (FailsWith.displayEntries (ih _) _).bind fun _ => .pure _

theorem putEntry_failsWith (store : Store) (entries : List (Value × Value)) (key value : Value) :
    FailsWith (fun f => f = .wrongType ∨ f = .tooDeep) (putEntry store entries key value) :=
  .ite (.insertEntry (fun v => fun f h => .inr (equalTo_failsWith _ store v key f h)) _ _ _)
    (.throw (.inl rfl))

theorem plainText_failsWith (store : Store) (v : Value) :
    FailsWith (fun f => f = .badValue ∨ f = .tooDeep) (plainText store v) := by
  unfold plainText
  split
  · exact .pure _
  · exact .pure _
  · exact .pure _
  · exact quotedTo_failsWith _ store [] v

/-! ## Plain values -/

/-- A value that holds no other value and can be written. -/
def Value.isPlain : Value → Bool
  | .null | .bool _ | .float _ | .complex _ _ | .text _ | .markup _ | .range _ _ _ => true
  | .int i => writableInt i
  | _ => false

def Literal.isPlain : Literal → Bool
  | .tuple _ | .list _ | .map _ => false
  | .int i => writableInt i
  | _ => true

theorem equal_of_isPlain (store : Store) {a b : Value} (ha : a.isPlain = true)
    (hb : b.isPlain = true) : ∃ same, equal store a b = .ok same := by
  cases a <;> cases b <;> first
    | exact ⟨_, rfl⟩
    | simp [Value.isPlain] at ha hb

theorem hashable_of_isPlain {store : Store} {v : Value} (h : v.isPlain = true) :
    hashable store v = true := by
  cases v <;> first
    | rfl
    | simp [Value.isPlain] at h

theorem plainText_of_isPlain (store : Store) {v : Value} (h : v.isPlain = true) :
    ∃ s, plainText store v = .ok s := by
  cases v
  case int i =>
    refine ⟨intText i, ?_⟩
    have hwritable : writableInt i = true := h
    change displayInt i = _
    rw [displayInt, if_pos hwritable]
    rfl
  all_goals first
    | exact ⟨_, rfl⟩
    | simp [Value.isPlain] at h

theorem Literal.make_of_isPlain {l : Literal} (h : l.isPlain = true) :
    ∃ v : Value, v.isPlain = true ∧ l.make = pure v := by
  cases l
  case int i => exact ⟨.int i, h, rfl⟩
  all_goals first
    | exact ⟨_, rfl, rfl⟩
    | simp [Literal.isPlain] at h

/-- Plain keys are told apart without a fault. -/
theorem insertEntry_of_isPlain (store : Store) {key : Value} (hkey : key.isPlain = true)
    (value : Value) :
    ∀ entries : List (Value × Value), (∀ entry ∈ entries, entry.1.isPlain = true) →
      ∃ entries', insertEntry (fun k => equal store k key) key value entries = .ok entries' ∧
        ∀ entry ∈ entries', entry.1.isPlain = true
  | [], _ => ⟨[(key, value)], rfl, by simpa using hkey⟩
  | (k, v) :: rest, h => by
    obtain ⟨hk, hrest⟩ := List.forall_mem_cons.mp h
    obtain ⟨same, hsame⟩ := equal_of_isPlain store hk hkey
    obtain ⟨rest', hrest', hplain⟩ := insertEntry_of_isPlain store hkey value rest hrest
    cases same with
    | true =>
        refine ⟨(k, value) :: rest, ?_, List.forall_mem_cons.mpr ⟨hk, hrest⟩⟩
        rw [insertEntry, hsame]
        rfl
    | false =>
        refine ⟨(k, v) :: rest', ?_, List.forall_mem_cons.mpr ⟨hk, hplain⟩⟩
        rw [insertEntry, hsame]
        change (insertEntry _ key value rest >>= fun rest => pure ((k, v) :: rest)) = _
        rw [hrest']
        rfl

theorem putEntry_of_isPlain (store : Store) {entries : List (Value × Value)} {key : Value}
    (hkey : key.isPlain = true) (value : Value) (h : ∀ entry ∈ entries, entry.1.isPlain = true) :
    ∃ entries', putEntry store entries key value = .ok entries' ∧
      ∀ entry ∈ entries', entry.1.isPlain = true := by
  rw [putEntry, if_pos (hashable_of_isPlain hkey)]
  exact insertEntry_of_isPlain store hkey value entries h

/-! ## Parts without a value -/

/-- An operand that begins with a name or a call. -/
def Expr.isOpen : Expr → Bool
  | .name _ | .call _ _ => true
  | .attribute e _ | .item e _ | .unary _ e | .filter e _ _ | .test e _ _ => e.isOpen
  | _ => false

/-- A computation that finds no value, if it succeeds. -/
def Valueless (r : Run (Option Value)) : Prop :=
  ∀ store v after, r.run store ≠ .ok (some v) after

namespace Valueless

theorem none : Valueless (pure none) := nofun

theorem after {α : Type} {r : Run α} {k : α → Run (Option Value)} (hk : ∀ a, Valueless (k a)) :
    Valueless (r >>= k) := by
  intro store v last h
  obtain ⟨a, middle, -, hlast⟩ := run_bind_eq_ok h
  exact hk a middle v last hlast

theorem bind {r : Run (Option Value)} {k : Option Value → Run (Option Value)}
    (hr : Valueless r) (hk : Valueless (k .none)) : Valueless (r >>= k) := by
  intro store v last h
  obtain ⟨found, middle, hfound, hlast⟩ := run_bind_eq_ok h
  cases found with
  | none => exact hk middle v last hlast
  | some w => exact hr store w middle hfound

theorem attempt {r : Run (Option Value)} (hr : Valueless r) : Valueless (attempt r) := by
  intro store v last h
  unfold Expression.attempt at h
  cases hrun : r.run store with
  | error f middle =>
      rw [run_tryCatch_of_error hrun] at h
      cases h
  | ok found middle =>
      rw [run_tryCatch_of_ok hrun] at h
      cases h
      exact hr store v last hrun

end Valueless

theorem constant_valueless : ∀ e : Expr, e.isOpen = true → Valueless (constant e)
  | .name _, _ => .none
  | .call _ _, _ => .none
  | .attribute e _, h => .attempt ((constant_valueless e h).bind .none)
  | .unary _ e, h => .attempt ((constant_valueless e h).bind .none)
  | .item e key, h => by
    have he := constant_valueless e h
    cases key
    case slice => exact .attempt (he.bind (.after fun _ => .after fun _ => .after fun _ => .none))
    all_goals exact .attempt (he.bind .none)
  | .filter e name args, h => by
    unfold constant
    split
    · exact .none
    · refine .after fun found => ?_
      cases found
      · exact .none
      · exact (constant_valueless e h).bind .none
  | .test e name args, h => by
    unfold constant
    split
    · exact .none
    · refine .after fun found => ?_
      cases found
      · exact .none
      · exact (constant_valueless e h).bind .none

/-- An operand that is a plain constant, or that has no value before it is evaluated. -/
def Expr.isPlain : Expr → Bool
  | .literal l => l.isPlain
  | e => e.isOpen

theorem constant_of_isPlain {e : Expr} (h : e.isPlain = true) :
    (∃ v : Value, v.isPlain = true ∧ constant e = pure (some v)) ∨ Valueless (constant e) := by
  cases e
  case literal l =>
    obtain ⟨v, hv, hmake⟩ := Literal.make_of_isPlain (l := l) h
    refine .inl ⟨v, hv, ?_⟩
    rw [constant, hmake]
    rfl
  all_goals exact .inr (constant_valueless _ h)

/-! ## Parts that may be at fault -/

/-- A part whose constant form may end in a fault: a mapping with a key that is not plain, or
joined texts of which one is not. -/
def Expr.isRisky (f : Fault) : Expr → Bool
  | .map entries =>
    decide (f = .wrongType ∨ f = .tooDeep) && !entries.all fun entry => entry.1.isPlain
  | .concat items => decide (f = .badValue ∨ f = .tooDeep) && !items.all fun e => e.isPlain
  | _ => false

theorem isRisky_map {f : Fault} {entries : List (Expr × Expr)} :
    Expr.isRisky f (.map entries) = false ↔
      (f = .wrongType ∨ f = .tooDeep → ∀ entry ∈ entries, entry.1.isPlain = true) := by
  simp [Expr.isRisky]

theorem isRisky_concat {f : Fault} {items : List Expr} :
    Expr.isRisky f (.concat items) = false ↔
      (f = .badValue ∨ f = .tooDeep → ∀ e ∈ items, e.isPlain = true) := by
  simp [Expr.isRisky]

/-- A computation that does not end in a fault. -/
def Avoids {α : Type} (f : Fault) (r : Run α) : Prop :=
  ∀ store after, r.run store ≠ .error f after

namespace Avoids

variable {α β : Type} {f : Fault}

theorem pure (a : α) : Avoids f (Pure.pure a) := nofun

theorem bind {r : Run α} {k : α → Run β} (hr : Avoids f r) (hk : ∀ a, Avoids f (k a)) :
    Avoids f (r >>= k) := by
  intro store after h
  obtain hfails | ⟨a, middle, -, hlast⟩ := run_bind_eq_error h
  · exact hr store after hfails
  · exact hk a middle after hlast

theorem get : Avoids f (MonadState.get : Run Store) := nofun

theorem alloc (o : Object) : Avoids f (Run.alloc o) := nofun

theorem lift {r : Except Fault α} (h : r ≠ .error f) : Avoids f (lift r) := by
  intro store after hrun
  cases r with
  | ok a => cases hrun
  | error f' =>
      cases hrun
      exact h rfl

theorem ite {c : Prop} [Decidable c] {r s : Run α} (hr : Avoids f r) (hs : Avoids f s) :
    Avoids f (if c then r else s) := by
  split
  · exact hr
  · exact hs

theorem computed {r : Run Value} (hr : Avoids f r) : Avoids f (computed r) :=
  hr.bind fun _ => .pure _

/-- Where failures give a value, there are none. -/
theorem tryCatch {r : Run α} (a : α) : Avoids f (tryCatch r fun _ => Pure.pure a) := by
  intro store after h
  cases hrun : r.run store with
  | ok b after' =>
      rw [run_tryCatch_of_ok hrun] at h
      cases h
  | error f' after' =>
      rw [run_tryCatch_of_error hrun] at h
      cases h

theorem attempt (r : Run (Option Value)) : Avoids f (attempt r) := tryCatch none

/-- Behind a computation that finds no value, nothing else is computed. -/
theorem bind_valueless {r : Run (Option Value)} {k : Option Value → Run β} (hr : Avoids f r)
    (hvalueless : Valueless r) (hk : Avoids f (k none)) : Avoids f (r >>= k) := by
  intro store after h
  obtain hfails | ⟨found, middle, hfound, hlast⟩ := run_bind_eq_error h
  · exact hr store after hfails
  · cases found with
    | none => exact hk middle after hlast
    | some v => exact hvalueless store v middle hfound

end Avoids

mutual

theorem Literal.make_avoids (f : Fault) : ∀ l : Literal, Avoids f l.make
  | .null | .bool _ | .int _ | .float _ | .complex _ _ | .text _ | .markup _ | .range _ _ _ =>
    .pure _
  | .tuple items => (makeAll_avoids f items).bind fun _ => .pure _
  | .list items => (makeAll_avoids f items).bind fun _ => .alloc _
  | .map entries => (makeEntries_avoids f entries).bind fun _ => .alloc _

theorem makeAll_avoids (f : Fault) : ∀ items, Avoids f (makeAll items)
  | [] => .pure _
  | l :: rest => (l.make_avoids f).bind fun _ => (makeAll_avoids f rest).bind fun _ => .pure _

theorem makeEntries_avoids (f : Fault) : ∀ entries, Avoids f (makeEntries entries)
  | [] => .pure _
  | (k, v) :: rest => (k.make_avoids f).bind fun _ => (v.make_avoids f).bind fun _ =>
    (makeEntries_avoids f rest).bind fun _ => .pure _

end

/-- A step behind an expression that is plain where a condition holds. -/
theorem Avoids.bind_constant {β : Type} {f : Fault} {c : Prop} {e : Expr}
    {k : Option Value → Run β} (he : Avoids f (constant e)) (hplain : c → e.isPlain = true)
    (hnone : Avoids f (k none)) (hsome : ∀ v, (c → v.isPlain = true) → Avoids f (k (some v))) :
    Avoids f (constant e >>= k) := by
  by_cases hc : c
  · obtain ⟨v, hv, hconstant⟩ | hvalueless := constant_of_isPlain (hplain hc)
    · rw [hconstant, pure_bind]
      exact hsome v fun _ => hv
    · exact he.bind_valueless hvalueless hnone
  · refine he.bind fun found => ?_
    cases found with
    | none => exact hnone
    | some v => exact hsome v fun h => absurd h hc

/-- An entry is put among others whose keys are as plain as its own. -/
theorem Avoids.put {β : Type} {f : Fault} {entries : List (Value × Value)} {key value : Value}
    {k : List (Value × Value) → Run β}
    (hkey : f = .wrongType ∨ f = .tooDeep → key.isPlain = true)
    (hentries : f = .wrongType ∨ f = .tooDeep → ∀ entry ∈ entries, entry.1.isPlain = true)
    (hk : ∀ entries', (f = .wrongType ∨ f = .tooDeep → ∀ entry ∈ entries', entry.1.isPlain = true) →
      Avoids f (k entries')) :
    Avoids f (do
      let entries ← Expression.lift (putEntry (← MonadState.get) entries key value)
      k entries) := by
  refine Avoids.get.bind fun store => ?_
  by_cases hf : f = .wrongType ∨ f = .tooDeep
  · obtain ⟨entries', hput, hplain⟩ :=
      putEntry_of_isPlain store (hkey hf) value (hentries hf)
    rw [hput]
    exact hk entries' fun _ => hplain
  · exact (Avoids.lift fun h => hf (putEntry_failsWith store entries key value f h)).bind
      fun entries' => hk entries' fun h => absurd h hf

mutual

theorem constant_avoids {f : Fault} : ∀ e : Expr, e.anyPart (Expr.isRisky f) = false →
    Avoids f (constant e)
  | .literal l, _ => .computed (l.make_avoids f)
  | .name _, _ => .pure _
  | .tuple items, h => by
    simp only [Expr.anyPart, Bool.or_eq_false_iff] at h
    exact (constantAll_avoids items h.2).bind fun _ => .pure _
  | .list items, h => by
    simp only [Expr.anyPart, Bool.or_eq_false_iff] at h
    refine (constantAll_avoids items h.2).bind fun found => ?_
    cases found
    · exact .pure _
    · exact .computed (.alloc _)
  | .map entries, h => by
    simp only [Expr.anyPart, Bool.or_eq_false_iff] at h
    refine (constantEntries_avoids entries h.2 (isRisky_map.mp h.1) [] nofun).bind fun found => ?_
    cases found
    · exact .pure _
    · exact .computed (.alloc _)
  | .unary _ _, _ => .attempt _
  | .binary _ _ _, _ => .attempt _
  | .both a b, h => by
    simp only [Expr.anyPart, Bool.or_eq_false_iff] at h
    refine (constant_avoids a h.1.2).bind fun found => ?_
    cases found
    · exact .pure _
    · exact .bind .get fun _ => .ite (constant_avoids b h.2) (.pure _)
  | .either a b, h => by
    simp only [Expr.anyPart, Bool.or_eq_false_iff] at h
    refine (constant_avoids a h.1.2).bind fun found => ?_
    cases found
    · exact .pure _
    · exact .bind .get fun _ => .ite (.pure _) (constant_avoids b h.2)
  | .concat items, h => by
    simp only [Expr.anyPart, Bool.or_eq_false_iff] at h
    exact (constantTexts_avoids items h.2 (isRisky_concat.mp h.1)).bind fun _ => .pure _
  | .compare first rest, h => by
    simp only [Expr.anyPart, Bool.or_eq_false_iff] at h
    refine (constant_avoids first h.1.2).bind fun found => ?_
    cases found
    · exact .pure _
    · exact .attempt _
  | .conditional test yes no, h => by
    simp only [Expr.anyPart, Bool.or_eq_false_iff] at h
    refine (constant_avoids test h.1.1.2).bind fun found => ?_
    cases found
    · exact .pure _
    · exact .bind .get fun _ => .ite (constant_avoids yes h.1.2) (constantElse_avoids no h.2)
  | .attribute _ _, _ => .attempt _
  | .item _ key, _ => by cases key <;> exact .attempt _
  | .slice _ _ _, _ => .pure _
  | .call _ _, _ => .pure _
  | .filter e name args, h => by
    simp only [Expr.anyPart, Bool.or_eq_false_iff] at h
    refine .ite (.pure _) ((constantInputs_avoids args h.2).bind fun found => ?_)
    cases found
    · exact .pure _
    refine (constant_avoids e h.1.2).bind fun found => ?_
    cases found
    · exact .pure _
    · exact .attempt _
  | .test e name args, h => by
    simp only [Expr.anyPart, Bool.or_eq_false_iff] at h
    refine .ite (.pure _) ((constantInputs_avoids args h.2).bind fun found => ?_)
    cases found
    · exact .pure _
    refine (constant_avoids e h.1.2).bind fun found => ?_
    cases found
    · exact .pure _
    · exact .attempt _

theorem constantAll_avoids {f : Fault} : ∀ items, anyPartOf (Expr.isRisky f) items = false →
    Avoids f (constantAll items)
  | [], _ => .pure _
  | e :: rest, h => by
    simp only [anyPartOf, Bool.or_eq_false_iff] at h
    refine (constant_avoids e h.1).bind fun found => ?_
    cases found
    · exact .pure _
    · exact (constantAll_avoids rest h.2).bind fun _ => .pure _

theorem constantEntries_avoids {f : Fault} : ∀ rest : List (Expr × Expr),
    anyPartOfEntries (Expr.isRisky f) rest = false →
    (f = .wrongType ∨ f = .tooDeep → ∀ entry ∈ rest, entry.1.isPlain = true) →
    ∀ entries : List (Value × Value),
    (f = .wrongType ∨ f = .tooDeep → ∀ entry ∈ entries, entry.1.isPlain = true) →
    Avoids f (constantEntries entries rest)
  | [], _, _, _, _ => .pure _
  | (k, e) :: rest, h, hplain, entries, hentries => by
    simp only [anyPartOfEntries, Bool.or_eq_false_iff] at h
    refine (constant_avoids k h.1.1).bind_constant (fun hf => hplain hf _ List.mem_cons_self)
      (.pure _) fun key hkey => ?_
    refine (constant_avoids e h.1.2).bind fun found => ?_
    cases found
    · exact .pure _
    · exact .put hkey hentries fun entries' hentries' => constantEntries_avoids rest h.2
        (fun hf entry hentry => hplain hf entry (List.mem_cons_of_mem _ hentry)) entries' hentries'

theorem constantTexts_avoids {f : Fault} : ∀ items, anyPartOf (Expr.isRisky f) items = false →
    (f = .badValue ∨ f = .tooDeep → ∀ e ∈ items, e.isPlain = true) →
    Avoids f (constantTexts items)
  | [], _, _ => .pure _
  | e :: rest, h, hplain => by
    simp only [anyPartOf, Bool.or_eq_false_iff] at h
    refine (constant_avoids e h.1).bind_constant (fun hf => hplain hf _ List.mem_cons_self)
      (.pure _) fun v hv => .bind .get fun store => .bind (.lift fun hfault => ?_) fun s => ?_
    · have hf := plainText_failsWith store v f hfault
      obtain ⟨s, hs⟩ := plainText_of_isPlain store (hv hf)
      rw [hs] at hfault
      cases hfault
    · exact (constantTexts_avoids rest h.2 fun hf e he =>
        hplain hf e (List.mem_cons_of_mem _ he)).bind fun _ => .pure _

theorem constantElse_avoids {f : Fault} : ∀ e?, anyPartOfOption (Expr.isRisky f) e? = false →
    Avoids f (constantElse e?)
  | none, _ => .pure _
  | some e, h => constant_avoids e h

theorem constantNamed_avoids {f : Fault} : ∀ named,
    anyPartOfNamed (Expr.isRisky f) named = false → Avoids f (constantNamed named)
  | [], _ => .pure _
  | (_, e) :: rest, h => by
    simp only [anyPartOfNamed, Bool.or_eq_false_iff] at h
    refine (constant_avoids e h.1).bind fun found => ?_
    cases found
    · exact .pure _
    · exact (constantNamed_avoids rest h.2).bind fun _ => .pure _

theorem constantInputs_avoids {f : Fault} : ∀ args,
    anyPartOfInputs (Expr.isRisky f) args = false → Avoids f (constantInputs args)
  | .mk positional named rest namedRest, h => by
    simp only [anyPartOfInputs, Bool.or_eq_false_iff] at h
    refine (constantAll_avoids positional h.1.1.1).bind fun found => ?_
    cases found
    · exact .pure _
    refine (constantNamed_avoids named h.1.1.2).bind fun found => ?_
    cases found
    · exact .pure _
    have hspread : Avoids f (constantSpread rest) := by
      cases rest
      · exact .pure _
      · exact .tryCatch none
    refine hspread.bind fun found => ?_
    cases found
    · exact .pure _
    have hnamed : Avoids f (constantNamedSpread namedRest) := by
      cases namedRest
      · exact .pure _
      · exact .tryCatch none
    refine hnamed.bind fun found => ?_
    cases found <;> exact .pure _

end

end ClusterDiscovery.Expression
