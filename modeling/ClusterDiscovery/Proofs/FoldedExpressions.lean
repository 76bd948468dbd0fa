import ClusterDiscovery.Proofs.ConstantParts
import ClusterDiscovery.Proofs.Traversal

/-! # Folded expressions

Folding replaces constant parts of an expression by what they stand for. Operands that begin with
a name or a call still do so afterwards, so folding does not bring about a fault that no part of
the expression was at risk of. It keeps the form of an expression, too.
-/

namespace ClusterDiscovery.Expression

/-! ## Folding -/

/-- Whatever a step of compilation results in, if it succeeds, is of a kind. -/
def Yields {α : Type} (P : α → Prop) (r : Compile α) : Prop := ∀ a, r = .ok a → P a

namespace Yields

variable {α β : Type} {P : α → Prop} {Q : β → Prop}

theorem pure {a : α} (h : P a) : Yields P (Pure.pure a) := by
  rintro b ⟨⟩
  exact h

theorem bind {r : Compile α} {k : α → Compile β} (hr : Yields P r)
    (hk : ∀ a, P a → Yields Q (k a)) : Yields Q (r >>= k) := by
  intro b hb
  obtain ⟨a, ha, hb⟩ := bind_eq_ok hb
  exact hk a (hr a ha) b hb

theorem after {r : Compile α} {k : α → Compile β} (hk : ∀ a, Yields Q (k a)) :
    Yields Q (r >>= k) := bind (P := fun _ => True) (fun _ _ => trivial) fun a _ => hk a

end Yields

theorem foldNode_isOpen {e : Expr} (h : e.isOpen = true) :
    Yields (fun e' => e'.isOpen = true) (foldNode e) := by
  unfold foldNode
  split
  · next v store hrun => exact absurd hrun (constant_valueless e h #[] v store)
  · exact .pure h
  · exact nofun

theorem fold_isOpen : ∀ e : Expr, e.isOpen = true → Yields (fun e' => e'.isOpen = true) (fold e)
  | .name _, h => .pure h
  | .call _ _, _ => .after fun _ => .after fun _ => .pure rfl
  | .attribute e _, h => (fold_isOpen e h).bind fun _ he => foldNode_isOpen he
  | .unary _ e, h => (fold_isOpen e h).bind fun _ he => foldNode_isOpen he
  | .item e _, h => (fold_isOpen e h).bind fun _ he => .after fun _ => foldNode_isOpen he
  | .filter e _ _, h => (fold_isOpen e h).bind fun _ he => .after fun _ => foldNode_isOpen he
  | .test e _ _, h => (fold_isOpen e h).bind fun _ he => .after fun _ => foldNode_isOpen he

theorem isPlain_of_isOpen {e : Expr} (h : e.isOpen = true) : e.isPlain = true := by
  cases e <;> first
    | exact h
    | cases h

theorem fold_isPlain {e : Expr} (h : e.isPlain = true) :
    Yields (fun e' => e'.isPlain = true) (fold e) := by
  cases e
  case literal => exact .pure h
  all_goals exact fun e' he' => isPlain_of_isOpen (fold_isOpen _ h e' he')

theorem foldAll_isPlain : ∀ items : List Expr, (∀ e ∈ items, e.isPlain = true) →
    Yields (fun items' => ∀ e ∈ items', e.isPlain = true) (foldAll items)
  | [], h => .pure h
  | e :: rest, h => by
    obtain ⟨he, hrest⟩ := List.forall_mem_cons.mp h
    exact (fold_isPlain he).bind fun e' he' => (foldAll_isPlain rest hrest).bind
      fun rest' hrest' => .pure (List.forall_mem_cons.mpr ⟨he', hrest'⟩)

theorem foldEntries_isPlain : ∀ entries : List (Expr × Expr),
    (∀ entry ∈ entries, entry.1.isPlain = true) →
    Yields (fun entries' => ∀ entry ∈ entries', entry.1.isPlain = true) (foldEntries entries)
  | [], h => .pure h
  | (k, e) :: rest, h => by
    obtain ⟨hk, hrest⟩ := List.forall_mem_cons.mp h
    exact (fold_isPlain hk).bind fun k' hk' => .after fun e' =>
      (foldEntries_isPlain rest hrest).bind fun rest' hrest' =>
        .pure (List.forall_mem_cons.mpr ⟨hk', hrest'⟩)

/-- A step of compilation that does not end in a fault, with a result of a kind if it
succeeds. -/
structure Spares {α : Type} (f : Fault) (P : α → Prop) (r : Compile α) : Prop where
  avoids : r ≠ .error (.fault f)
  yields : Yields P r

namespace Spares

variable {α β : Type} {f : Fault} {P : α → Prop} {Q : β → Prop}

theorem pure {a : α} (h : P a) : Spares f P (Pure.pure a) := ⟨nofun, .pure h⟩

theorem bind {r : Compile α} {k : α → Compile β} (hr : Spares f P r)
    (hk : ∀ a, P a → Spares f Q (k a)) : Spares f Q (r >>= k) := by
  refine ⟨fun h => ?_, hr.yields.bind fun a ha => (hk a ha).yields⟩
  cases r with
  | error issue => exact hr.avoids (congrArg Except.error (Except.error.inj h))
  | ok a => exact (hk a (hr.yields a rfl)).avoids h

theorem weaken {r : Compile α} (hr : Spares f P r) : Spares f (fun _ => True) r :=
  ⟨hr.avoids, fun _ _ => trivial⟩

theorem and {P' : α → Prop} {r : Compile α} (hr : Spares f P r) (h : Yields P' r) :
    Spares f (fun a => P a ∧ P' a) r := ⟨hr.avoids, fun a ha => ⟨hr.yields a ha, h a ha⟩⟩

end Spares

/-- No part of the expression may be at fault. -/
def Expr.Sound (f : Fault) (e : Expr) : Prop := e.anyPart (Expr.isRisky f) = false

/-- A node becomes a constant, stays as it is, or fails as the computation of its value does. -/
theorem foldNode_cases (e : Expr) :
    (∃ l, foldNode e = .ok (.literal l)) ∨ foldNode e = .ok e ∨
      ∃ f after, (constant e).run #[] = .error f after ∧ foldNode e = .error (.fault f) := by
  unfold foldNode
  cases (constant e).run #[] with
  | error f after => exact .inr (.inr ⟨f, after, rfl, rfl⟩)
  | ok value? store =>
      cases value? with
      | none => exact .inr (.inl rfl)
      | some v =>
          cases hliteral : literalOf? nestingLimit store v with
          | none => exact .inr (.inl (by simp only [hliteral]; rfl))
          | some l => exact .inl ⟨l, by simp only [hliteral]; rfl⟩

theorem foldNode_spares {f : Fault} {e : Expr} (h : e.Sound f) :
    Spares f (Expr.Sound f) (foldNode e) := by
  obtain ⟨l, hfold⟩ | hfold | ⟨f', after, hrun, hfold⟩ := foldNode_cases e
  · rw [hfold]
    exact .pure rfl
  · rw [hfold]
    exact .pure h
  · rw [hfold]
    refine ⟨fun hfault => ?_, nofun⟩
    rw [SyntaxIssue.fault.inj (Except.error.inj hfault)] at hrun
    exact constant_avoids e h #[] after hrun

section Folding

variable {f : Fault}

theorem foldEntries_isRisky {entries : List (Expr × Expr)}
    (h : Expr.isRisky f (.map entries) = false) :
    Yields (fun entries' => Expr.isRisky f (.map entries') = false) (foldEntries entries) :=
  fun entries' hfold => isRisky_map.mpr fun hf =>
    foldEntries_isPlain entries (isRisky_map.mp h hf) entries' hfold

theorem foldAll_isRisky {items : List Expr} (h : Expr.isRisky f (.concat items) = false) :
    Yields (fun items' => Expr.isRisky f (.concat items') = false) (foldAll items) :=
  fun items' hfold => isRisky_concat.mpr fun hf =>
    foldAll_isPlain items (isRisky_concat.mp h hf) items' hfold

mutual

theorem fold_spares : ∀ e : Expr, e.Sound f → Spares f (Expr.Sound f) (fold e)
  | .literal _, h => .pure h
  | .name _, h => .pure h
  | .tuple items, h => by
    simp only [Expr.Sound, Expr.anyPart, Bool.or_eq_false_iff] at h
    refine (foldAll_spares items h.2).bind fun items' hitems => foldNode_spares ?_
    simp [Expr.Sound, Expr.anyPart, Expr.isRisky, hitems]
  | .list items, h => by
    simp only [Expr.Sound, Expr.anyPart, Bool.or_eq_false_iff] at h
    refine (foldAll_spares items h.2).bind fun items' hitems => foldNode_spares ?_
    simp [Expr.Sound, Expr.anyPart, Expr.isRisky, hitems]
  | .map entries, h => by
    simp only [Expr.Sound, Expr.anyPart, Bool.or_eq_false_iff] at h
    refine ((foldEntries_spares entries h.2).and (foldEntries_isRisky h.1)).bind
      fun entries' hentries => foldNode_spares ?_
    simp only [Expr.Sound, Expr.anyPart, hentries, Bool.or_false]
  | .unary op e, h => by
    simp only [Expr.Sound, Expr.anyPart, Bool.or_eq_false_iff] at h
    refine (fold_spares e h.2).bind fun e' he => foldNode_spares ?_
    simpa [Expr.Sound, Expr.anyPart, Expr.isRisky] using he
  | .binary op a b, h => by
    simp only [Expr.Sound, Expr.anyPart, Bool.or_eq_false_iff] at h
    refine (fold_spares a h.1.2).bind fun a' ha => (fold_spares b h.2).bind fun b' hb =>
      foldNode_spares ?_
    simpa [Expr.Sound, Expr.anyPart, Expr.isRisky] using ⟨ha, hb⟩
  | .both a b, h => by
    simp only [Expr.Sound, Expr.anyPart, Bool.or_eq_false_iff] at h
    refine (fold_spares a h.1.2).bind fun a' ha => (fold_spares b h.2).bind fun b' hb =>
      foldNode_spares ?_
    simpa [Expr.Sound, Expr.anyPart, Expr.isRisky] using ⟨ha, hb⟩
  | .either a b, h => by
    simp only [Expr.Sound, Expr.anyPart, Bool.or_eq_false_iff] at h
    refine (fold_spares a h.1.2).bind fun a' ha => (fold_spares b h.2).bind fun b' hb =>
      foldNode_spares ?_
    simpa [Expr.Sound, Expr.anyPart, Expr.isRisky] using ⟨ha, hb⟩
  | .concat items, h => by
    simp only [Expr.Sound, Expr.anyPart, Bool.or_eq_false_iff] at h
    refine ((foldAll_spares items h.2).and (foldAll_isRisky h.1)).bind
      fun items' hitems => foldNode_spares ?_
    simp only [Expr.Sound, Expr.anyPart, hitems, Bool.or_false]
  | .compare first rest, h => by
    simp only [Expr.Sound, Expr.anyPart, Bool.or_eq_false_iff] at h
    refine (fold_spares first h.1.2).bind fun first' hfirst =>
      (foldChain_spares rest h.2).bind fun rest' hrest => foldNode_spares ?_
    simpa [Expr.Sound, Expr.anyPart, Expr.isRisky] using ⟨hfirst, hrest⟩
  | .conditional test yes no, h => by
    simp only [Expr.Sound, Expr.anyPart, Bool.or_eq_false_iff] at h
    refine (fold_spares test h.1.1.2).bind fun test' htest =>
      (fold_spares yes h.1.2).bind fun yes' hyes => (foldOption_spares no h.2).bind fun no' hno =>
      foldNode_spares ?_
    simpa [Expr.Sound, Expr.anyPart, Expr.isRisky, and_assoc] using ⟨htest, hyes, hno⟩
  | .attribute e name, h => by
    simp only [Expr.Sound, Expr.anyPart, Bool.or_eq_false_iff] at h
    refine (fold_spares e h.2).bind fun e' he => foldNode_spares ?_
    simpa [Expr.Sound, Expr.anyPart, Expr.isRisky] using he
  | .item e key, h => by
    simp only [Expr.Sound, Expr.anyPart, Bool.or_eq_false_iff] at h
    refine (fold_spares e h.1.2).bind fun e' he => (fold_spares key h.2).bind fun key' hkey =>
      foldNode_spares ?_
    simpa [Expr.Sound, Expr.anyPart, Expr.isRisky] using ⟨he, hkey⟩
  | .slice start stop step, h => by
    simp only [Expr.Sound, Expr.anyPart, Bool.or_eq_false_iff] at h
    refine (foldOption_spares start h.1.1.2).bind fun start' hstart =>
      (foldOption_spares stop h.1.2).bind fun stop' hstop =>
      (foldOption_spares step h.2).bind fun step' hstep => .pure ?_
    simpa [Expr.Sound, Expr.anyPart, Expr.isRisky, and_assoc] using ⟨hstart, hstop, hstep⟩
  | .call callee args, h => by
    simp only [Expr.Sound, Expr.anyPart, Bool.or_eq_false_iff] at h
    refine (fold_spares callee h.1.2).bind fun callee' hcallee => ?_
    refine (foldInputs_spares args h.2).bind fun args' hargs => .pure ?_
    simpa [Expr.Sound, Expr.anyPart, Expr.isRisky] using ⟨hcallee, hargs⟩
  | .filter e name args, h => by
    simp only [Expr.Sound, Expr.anyPart, Bool.or_eq_false_iff] at h
    refine (fold_spares e h.1.2).bind fun e' he => ?_
    refine (foldInputs_spares args h.2).bind fun args' hargs => foldNode_spares ?_
    simpa [Expr.Sound, Expr.anyPart, Expr.isRisky] using ⟨he, hargs⟩
  | .test e name args, h => by
    simp only [Expr.Sound, Expr.anyPart, Bool.or_eq_false_iff] at h
    refine (fold_spares e h.1.2).bind fun e' he => ?_
    refine (foldInputs_spares args h.2).bind fun args' hargs => foldNode_spares ?_
    simpa [Expr.Sound, Expr.anyPart, Expr.isRisky] using ⟨he, hargs⟩

theorem foldAll_spares : ∀ items, anyPartOf (Expr.isRisky f) items = false →
    Spares f (fun items' => anyPartOf (Expr.isRisky f) items' = false) (foldAll items)
  | [], h => .pure h
  | e :: rest, h => by
    simp only [anyPartOf, Bool.or_eq_false_iff] at h
    refine (fold_spares e h.1).bind fun e' he => (foldAll_spares rest h.2).bind fun rest' hrest =>
      .pure ?_
    simpa [anyPartOf] using ⟨he, hrest⟩

theorem foldEntries_spares : ∀ entries, anyPartOfEntries (Expr.isRisky f) entries = false →
    Spares f (fun entries' => anyPartOfEntries (Expr.isRisky f) entries' = false)
      (foldEntries entries)
  | [], h => .pure h
  | (k, e) :: rest, h => by
    simp only [anyPartOfEntries, Bool.or_eq_false_iff] at h
    refine (fold_spares k h.1.1).bind fun k' hk => (fold_spares e h.1.2).bind fun e' he =>
      (foldEntries_spares rest h.2).bind fun rest' hrest => .pure ?_
    simpa [anyPartOfEntries, and_assoc] using ⟨hk, he, hrest⟩

theorem foldChain_spares : ∀ rest, anyPartOfChain (Expr.isRisky f) rest = false →
    Spares f (fun rest' => anyPartOfChain (Expr.isRisky f) rest' = false) (foldChain rest)
  | [], h => .pure h
  | (_, e) :: rest, h => by
    simp only [anyPartOfChain, Bool.or_eq_false_iff] at h
    refine (fold_spares e h.1).bind fun e' he => (foldChain_spares rest h.2).bind fun rest' hrest =>
      .pure ?_
    simpa [anyPartOfChain] using ⟨he, hrest⟩

theorem foldNamed_spares : ∀ named, anyPartOfNamed (Expr.isRisky f) named = false →
    Spares f (fun named' => anyPartOfNamed (Expr.isRisky f) named' = false) (foldNamed named)
  | [], h => .pure h
  | (_, e) :: rest, h => by
    simp only [anyPartOfNamed, Bool.or_eq_false_iff] at h
    refine (fold_spares e h.1).bind fun e' he => (foldNamed_spares rest h.2).bind fun rest' hrest =>
      .pure ?_
    simpa [anyPartOfNamed] using ⟨he, hrest⟩

theorem foldOption_spares : ∀ e?, anyPartOfOption (Expr.isRisky f) e? = false →
    Spares f (fun e? => anyPartOfOption (Expr.isRisky f) e? = false) (foldOption e?)
  | none, h => .pure h
  | some e, h => (fold_spares e h).bind fun _ he => .pure he

theorem foldInputs_spares : ∀ args, anyPartOfInputs (Expr.isRisky f) args = false →
    Spares f (fun args' => anyPartOfInputs (Expr.isRisky f) args' = false) (foldInputs args)
  | .mk positional named rest namedRest, h => by
    simp only [anyPartOfInputs, Bool.or_eq_false_iff] at h
    refine (foldAll_spares positional h.1.1.1).bind fun positional' hpositional =>
      (foldNamed_spares named h.1.1.2).bind fun named' hnamed =>
      (foldOption_spares rest h.1.2).bind fun rest' hrest =>
      (foldOption_spares namedRest h.2).bind fun namedRest' hnamedRest => .pure ?_
    simpa [anyPartOfInputs, and_assoc] using ⟨hpositional, hnamed, hrest, hnamedRest⟩

end

end Folding

mutual

theorem optimize_spares {f : Fault} : ∀ e : Expr, e.Sound f →
    Spares f (fun _ => True) (optimize e)
  | .tuple items, h => by
    simp only [Expr.Sound, Expr.anyPart, Bool.or_eq_false_iff] at h
    exact (optimizeAll_spares items h.2).bind fun _ _ => .pure trivial
  | .list items, h => by
    simp only [Expr.Sound, Expr.anyPart, Bool.or_eq_false_iff] at h
    exact (optimizeAll_spares items h.2).bind fun _ _ => .pure trivial
  | .map entries, h => by
    simp only [Expr.Sound, Expr.anyPart, Bool.or_eq_false_iff] at h
    exact (optimizeEntries_spares entries h.2).bind fun _ _ => .pure trivial
  | .literal _, _ => .pure trivial
  | .name _, _ => .pure trivial
  | .unary op e, h => (fold_spares (.unary op e) h).weaken
  | .binary op a b, h => (fold_spares (.binary op a b) h).weaken
  | .both a b, h => (fold_spares (.both a b) h).weaken
  | .either a b, h => (fold_spares (.either a b) h).weaken
  | .concat items, h => (fold_spares (.concat items) h).weaken
  | .compare first rest, h => (fold_spares (.compare first rest) h).weaken
  | .conditional test yes no, h => (fold_spares (.conditional test yes no) h).weaken
  | .attribute e name, h => (fold_spares (.attribute e name) h).weaken
  | .item e key, h => (fold_spares (.item e key) h).weaken
  | .slice start stop step, h => (fold_spares (.slice start stop step) h).weaken
  | .call callee args, h => (fold_spares (.call callee args) h).weaken
  | .filter e name args, h => (fold_spares (.filter e name args) h).weaken
  | .test e name args, h => (fold_spares (.test e name args) h).weaken

theorem optimizeAll_spares {f : Fault} : ∀ items, anyPartOf (Expr.isRisky f) items = false →
    Spares f (fun _ => True) (optimizeAll items)
  | [], _ => .pure trivial
  | e :: rest, h => by
    simp only [anyPartOf, Bool.or_eq_false_iff] at h
    exact (optimize_spares e h.1).bind fun _ _ =>
      (optimizeAll_spares rest h.2).bind fun _ _ => .pure trivial

theorem optimizeEntries_spares {f : Fault} : ∀ entries,
    anyPartOfEntries (Expr.isRisky f) entries = false →
    Spares f (fun _ => True) (optimizeEntries entries)
  | [], _ => .pure trivial
  | (k, e) :: rest, h => by
    simp only [anyPartOfEntries, Bool.or_eq_false_iff] at h
    exact (optimize_spares k h.1.1).bind fun _ _ => (optimize_spares e h.1.2).bind fun _ _ =>
      (optimizeEntries_spares rest h.2).bind fun _ _ => .pure trivial

end

/-! ## Folding keeps the form -/

theorem foldNode_wellFormed {e : Expr} (h : wellFormed e = true) :
    Yields (fun e' => wellFormed e' = true) (foldNode e) := by
  intro e' he'
  obtain ⟨l, hfold⟩ | hfold | ⟨f', after, hrun, hfold⟩ := foldNode_cases e
  · cases hfold.symm.trans he'
    rfl
  · cases hfold.symm.trans he'
    exact h
  · cases hfold.symm.trans he'

/-- A key that has the form of a key by itself is no slice. -/
theorem wellFormed_item {e key : Expr} (he : wellFormed e = true) (hkey : wellFormed key = true) :
    wellFormed (.item e key) = true := by
  cases key
  case slice => simp [wellFormed] at hkey
  all_goals simp_all [wellFormed]

mutual

theorem fold_wellFormed : ∀ e : Expr, wellFormed e = true →
    Yields (fun e' => wellFormed e' = true) (fold e)
  | .literal _, h => .pure h
  | .name _, h => .pure h
  | .tuple items, h => by
    simp only [wellFormed] at h
    exact (foldAll_wellFormed items h).bind fun items' hitems => foldNode_wellFormed hitems
  | .list items, h => by
    simp only [wellFormed] at h
    exact (foldAll_wellFormed items h).bind fun items' hitems => foldNode_wellFormed hitems
  | .map entries, h => by
    simp only [wellFormed] at h
    exact (foldEntries_wellFormed entries h).bind fun _ hentries => foldNode_wellFormed hentries
  | .unary op e, h => by
    simp only [wellFormed] at h
    exact (fold_wellFormed e h).bind fun e' he => foldNode_wellFormed he
  | .binary op a b, h => by
    simp only [wellFormed, Bool.and_eq_true] at h
    refine (fold_wellFormed a h.1).bind fun a' ha => (fold_wellFormed b h.2).bind fun b' hb =>
      foldNode_wellFormed ?_
    simp [wellFormed, ha, hb]
  | .both a b, h => by
    simp only [wellFormed, Bool.and_eq_true] at h
    refine (fold_wellFormed a h.1).bind fun a' ha => (fold_wellFormed b h.2).bind fun b' hb =>
      foldNode_wellFormed ?_
    simp [wellFormed, ha, hb]
  | .either a b, h => by
    simp only [wellFormed, Bool.and_eq_true] at h
    refine (fold_wellFormed a h.1).bind fun a' ha => (fold_wellFormed b h.2).bind fun b' hb =>
      foldNode_wellFormed ?_
    simp [wellFormed, ha, hb]
  | .concat items, h => by
    simp only [wellFormed] at h
    exact (foldAll_wellFormed items h).bind fun items' hitems => foldNode_wellFormed hitems
  | .compare first rest, h => by
    simp only [wellFormed, Bool.and_eq_true] at h
    refine (fold_wellFormed first h.1).bind fun first' hfirst =>
      (foldChain_wellFormed rest h.2).bind fun rest' hrest => foldNode_wellFormed ?_
    simp [wellFormed, hfirst, hrest]
  | .conditional test yes no, h => by
    simp only [wellFormed, Bool.and_eq_true] at h
    refine (fold_wellFormed test h.1.1).bind fun test' htest =>
      (fold_wellFormed yes h.1.2).bind fun yes' hyes =>
      (foldOption_wellFormed no h.2).bind fun no' hno => foldNode_wellFormed ?_
    simp [wellFormed, htest, hyes, hno]
  | .attribute e name, h => by
    simp only [wellFormed] at h
    exact (fold_wellFormed e h).bind fun e' he => foldNode_wellFormed he
  | .item e key, h => by
    cases key
    case slice start stop step =>
      simp only [wellFormed, Bool.and_eq_true] at h
      have hslice : Yields (fun key => ∃ start stop step, key = .slice start stop step ∧
          wellFormedOption start = true ∧ wellFormedOption stop = true ∧
          wellFormedOption step = true) (fold (.slice start stop step)) :=
        (foldOption_wellFormed start h.1.1.2).bind fun start' hstart =>
          (foldOption_wellFormed stop h.1.2).bind fun stop' hstop =>
          (foldOption_wellFormed step h.2).bind fun step' hstep =>
          .pure ⟨start', stop', step', rfl, hstart, hstop, hstep⟩
      refine (fold_wellFormed e h.1.1.1).bind fun e' he => hslice.bind fun key' hkey =>
        foldNode_wellFormed ?_
      obtain ⟨start', stop', step', rfl, hstart, hstop, hstep⟩ := hkey
      simp [wellFormed, he, hstart, hstop, hstep]
    all_goals
      simp only [wellFormed, Bool.and_eq_true] at h
      exact (fold_wellFormed e (by simp [h])).bind fun e' he =>
        (fold_wellFormed _ (by simp [wellFormed, h])).bind fun key' hkey =>
        foldNode_wellFormed (wellFormed_item he hkey)
  | .slice start stop step, h => by simp [wellFormed] at h
  | .call f args, h => by
    simp only [wellFormed, Bool.and_eq_true] at h
    refine (fold_wellFormed f h.1).bind fun f' hf =>
      (foldInputs_wellFormed args h.2).bind fun args' hargs => .pure ?_
    simp [wellFormed, hf, hargs]
  | .filter e name args, h => by
    simp only [wellFormed, Bool.and_eq_true] at h
    refine (fold_wellFormed e h.1).bind fun e' he =>
      (foldInputs_wellFormed args h.2).bind fun args' hargs => foldNode_wellFormed ?_
    simp [wellFormed, he, hargs]
  | .test e name args, h => by
    simp only [wellFormed, Bool.and_eq_true] at h
    refine (fold_wellFormed e h.1).bind fun e' he =>
      (foldInputs_wellFormed args h.2).bind fun args' hargs => foldNode_wellFormed ?_
    simp [wellFormed, he, hargs]

theorem foldAll_wellFormed : ∀ items, wellFormedAll items = true →
    Yields (fun items' => wellFormedAll items' = true) (foldAll items)
  | [], h => .pure h
  | e :: rest, h => by
    simp only [wellFormedAll, Bool.and_eq_true] at h
    refine (fold_wellFormed e h.1).bind fun e' he =>
      (foldAll_wellFormed rest h.2).bind fun rest' hrest => .pure ?_
    simp [wellFormedAll, he, hrest]

theorem foldEntries_wellFormed : ∀ entries, wellFormedEntries entries = true →
    Yields (fun entries' => wellFormedEntries entries' = true) (foldEntries entries)
  | [], h => .pure h
  | (k, e) :: rest, h => by
    simp only [wellFormedEntries, Bool.and_eq_true] at h
    refine (fold_wellFormed k h.1.1).bind fun k' hk => (fold_wellFormed e h.1.2).bind fun e' he =>
      (foldEntries_wellFormed rest h.2).bind fun rest' hrest => .pure ?_
    simp [wellFormedEntries, hk, he, hrest]

theorem foldChain_wellFormed : ∀ rest, wellFormedChain rest = true →
    Yields (fun rest' => wellFormedChain rest' = true) (foldChain rest)
  | [], h => .pure h
  | (_, e) :: rest, h => by
    simp only [wellFormedChain, Bool.and_eq_true] at h
    refine (fold_wellFormed e h.1).bind fun e' he =>
      (foldChain_wellFormed rest h.2).bind fun rest' hrest => .pure ?_
    simp [wellFormedChain, he, hrest]

/-- The names of the arguments stay as they are. -/
theorem foldNamed_wellFormed : ∀ named, wellFormedNamed named = true →
    Yields (fun named' => wellFormedNamed named' = true ∧ named'.map (·.1) = named.map (·.1))
      (foldNamed named)
  | [], h => .pure ⟨h, rfl⟩
  | (_, e) :: rest, h => by
    simp only [wellFormedNamed, Bool.and_eq_true] at h
    refine (fold_wellFormed e h.1).bind fun e' he =>
      (foldNamed_wellFormed rest h.2).bind fun rest' hrest => .pure ?_
    simp [wellFormedNamed, he, hrest]

theorem foldOption_wellFormed : ∀ e?, wellFormedOption e? = true →
    Yields (fun e? => wellFormedOption e? = true) (foldOption e?)
  | none, h => .pure h
  | some e, h => (fold_wellFormed e h).bind fun _ he => .pure he

theorem foldInputs_wellFormed : ∀ args, wellFormedInputs args = true →
    Yields (fun args' => wellFormedInputs args' = true) (foldInputs args)
  | .mk positional named rest namedRest, h => by
    simp only [wellFormedInputs, Bool.and_eq_true] at h
    obtain ⟨⟨⟨⟨hnames, hpositional⟩, hnamed⟩, hrest⟩, hnamedRest⟩ := h
    refine (foldAll_wellFormed positional hpositional).bind fun positional' hpositional' =>
      (foldNamed_wellFormed named hnamed).bind fun named' hnamed' =>
      (foldOption_wellFormed rest hrest).bind fun rest' hrest' =>
      (foldOption_wellFormed namedRest hnamedRest).bind fun namedRest' hnamedRest' => .pure ?_
    simp [wellFormedInputs, hnamed'.2, hnames, hpositional', hnamed'.1, hrest', hnamedRest']

end

mutual

theorem optimize_wellFormed : ∀ e : Expr, wellFormed e = true →
    Yields (fun e' => wellFormed e' = true) (optimize e)
  | .tuple items, h => by
    simp only [wellFormed] at h
    exact (optimizeAll_wellFormed items h).bind fun items' hitems => .pure hitems
  | .list items, h => by
    simp only [wellFormed] at h
    exact (optimizeAll_wellFormed items h).bind fun items' hitems => .pure hitems
  | .map entries, h => by
    simp only [wellFormed] at h
    exact (optimizeEntries_wellFormed entries h).bind fun _ hentries => .pure hentries
  | .literal _, h => .pure h
  | .name _, h => .pure h
  | .unary op e, h => fold_wellFormed (.unary op e) h
  | .binary op a b, h => fold_wellFormed (.binary op a b) h
  | .both a b, h => fold_wellFormed (.both a b) h
  | .either a b, h => fold_wellFormed (.either a b) h
  | .concat items, h => fold_wellFormed (.concat items) h
  | .compare first rest, h => fold_wellFormed (.compare first rest) h
  | .conditional test yes no, h => fold_wellFormed (.conditional test yes no) h
  | .attribute e name, h => fold_wellFormed (.attribute e name) h
  | .item e key, h => fold_wellFormed (.item e key) h
  | .slice start stop step, h => fold_wellFormed (.slice start stop step) h
  | .call f args, h => fold_wellFormed (.call f args) h
  | .filter e name args, h => fold_wellFormed (.filter e name args) h
  | .test e name args, h => fold_wellFormed (.test e name args) h

theorem optimizeAll_wellFormed : ∀ items, wellFormedAll items = true →
    Yields (fun items' => wellFormedAll items' = true) (optimizeAll items)
  | [], h => .pure h
  | e :: rest, h => by
    simp only [wellFormedAll, Bool.and_eq_true] at h
    refine (optimize_wellFormed e h.1).bind fun e' he =>
      (optimizeAll_wellFormed rest h.2).bind fun rest' hrest => .pure ?_
    simp [wellFormedAll, he, hrest]

theorem optimizeEntries_wellFormed : ∀ entries, wellFormedEntries entries = true →
    Yields (fun entries' => wellFormedEntries entries' = true) (optimizeEntries entries)
  | [], h => .pure h
  | (k, e) :: rest, h => by
    simp only [wellFormedEntries, Bool.and_eq_true] at h
    refine (optimize_wellFormed k h.1.1).bind fun k' hk =>
      (optimize_wellFormed e h.1.2).bind fun e' he =>
      (optimizeEntries_wellFormed rest h.2).bind fun rest' hrest => .pure ?_
    simp [wellFormedEntries, hk, he, hrest]

end

end ClusterDiscovery.Expression
