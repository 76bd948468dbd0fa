import ClusterDiscovery.Expression.Parser

/-! # What the parser does to the tokens

Every step of the parser takes tokens away from the front. A fault that it ends in is that of a
token, since its fuel suffices: a step calls others of a lower rank, or takes a token first. So a
fault of the whole reading points at a token of the text, or at one that lies too deep.
-/

namespace ClusterDiscovery.Expression

namespace Parse

/-- Some tokens are taken away from the front. If that fails with a fault, a token stands for
it. -/
def Orderly {α : Type} (ts : List Token) : Except SyntaxIssue (α × List Token) → Prop
  | .ok (_, rest) => rest <:+ ts
  | .error issue => ∀ f, issue = .fault f → Token.broken (.fault f) ∈ ts

/-- A step of the parser for which a fuel suffices. The rank is the fuel that it takes beside the
share of each token, which is larger than all ranks. -/
def Steady {α : Type} (fuel rank : Nat) (p : Parse α) : Prop :=
  ∀ ts, rank + 40 * ts.length ≤ fuel → Orderly ts (p.run ts)

/-- A step of this kind where the current token is known. -/
def SteadyAt {α : Type} (t : Token) (fuel rank : Nat) (p : Parse α) : Prop :=
  ∀ ts : List Token, ts.head?.getD .finish = t → rank + 40 * ts.length ≤ fuel →
    Orderly ts (p.run ts)

variable {α β : Type} {ts rest : List Token} {t : Token} {fuel rank : Nat}

theorem Orderly.of_suffix {r : Except SyntaxIssue (α × List Token)} (hrest : rest <:+ ts)
    (h : Orderly rest r) : Orderly ts r := by
  cases r with
  | ok result => exact h.trans hrest
  | error issue => exact fun f hf => hrest.subset (h f hf)

theorem run_bind_error {p : Parse α} {k : α → Parse β} {issue : SyntaxIssue}
    (h : p.run ts = .error issue) : (p >>= k).run ts = .error issue := by
  rw [StateT.run_bind, h]
  rfl

theorem run_bind_ok {p : Parse α} {k : α → Parse β} {a : α} (h : p.run ts = .ok (a, rest)) :
    (p >>= k).run ts = (k a).run rest := by
  rw [StateT.run_bind, h]
  rfl

/-! ## Steps of all kinds -/

namespace Steady

variable {p : Parse α}

theorem zero : Steady 0 (rank + 1) p := fun _ h => by omega

/-- More fuel suffices for more. -/
theorem mono {fuel' rank' : Nat} (h : Steady fuel rank p) (hle : rank + fuel' ≤ rank' + fuel) :
    Steady fuel' rank' p := fun ts hts => h ts (by omega)

theorem pure (a : α) : Steady fuel rank (Pure.pure a) := fun _ _ => List.suffix_rfl

theorem throw {issue : SyntaxIssue} (h : ∀ f, issue ≠ .fault f) :
    Steady fuel rank (throw issue : Parse α) := fun _ _ f hf => absurd hf (h f)

theorem bind {k : α → Parse β} (hp : Steady fuel rank p) (hk : ∀ a, Steady fuel rank (k a)) :
    Steady fuel rank (p >>= k) := by
  intro ts hts
  have hp := hp ts hts
  cases hrun : p.run ts with
  | error issue =>
      rw [run_bind_error hrun]
      rw [hrun] at hp
      exact hp
  | ok result =>
      obtain ⟨a, rest⟩ := result
      rw [hrun] at hp
      have hlength : rest.length ≤ ts.length := List.IsSuffix.length_le hp
      rw [run_bind_ok hrun]
      exact (hk a rest (by omega)).of_suffix hp

theorem map {g : α → β} (hp : Steady fuel rank p) : Steady fuel rank (g <$> p) := by
  rw [map_eq_pure_bind]
  exact hp.bind fun _ => .pure _

theorem ite {c : Prop} [Decidable c] {q : Parse α} (hp : Steady fuel rank p)
    (hq : Steady fuel rank q) : Steady fuel rank (if c then p else q) := by
  split
  · exact hp
  · exact hq

theorem get : Steady fuel rank (MonadState.get : Parse (List Token)) :=
  fun _ _ => List.suffix_rfl

theorem look {k : Token → Parse α} (hk : ∀ t, SteadyAt t fuel rank (k t)) :
    Steady fuel rank (current >>= k) := fun ts hts => hk _ ts rfl hts

theorem at_token (hp : Steady fuel rank p) (t : Token) : SteadyAt t fuel rank p :=
  fun ts _ => hp ts

end Steady

/-! ## Steps at a token -/

theorem orderly_advance (t : Token) (rest : List Token) :
    Orderly (t :: rest) (advance.run (t :: rest)) := by
  rcases rest with - | ⟨next, rest⟩
  · exact List.suffix_cons t []
  · cases next
    case broken issue =>
      rintro f rfl
      exact List.mem_cons_of_mem t List.mem_cons_self
    all_goals exact List.suffix_cons t _

theorem advance_rest {u : Unit} (h : advance.run (t :: ts) = .ok (u, rest)) : rest = ts := by
  rcases ts with - | ⟨next, ts⟩
  · cases h
    rfl
  · cases next
    case broken issue => cases h
    all_goals
      cases h
      rfl

namespace SteadyAt

variable {p : Parse α}

theorem pure (a : α) : SteadyAt t fuel rank (Pure.pure a) := (Steady.pure a).at_token t

theorem ite {c : Prop} [Decidable c] {q : Parse α} (hp : c → SteadyAt t fuel rank p)
    (hq : ¬ c → SteadyAt t fuel rank q) : SteadyAt t fuel rank (if c then p else q) := by
  split
  · next h => exact hp h
  · next h => exact hq h

/-- Behind a token that is taken, its share of the fuel is free. -/
theorem advance {k : Unit → Parse α} (ht : t ≠ .finish)
    (hk : ∀ u, Steady fuel (rank + 40) (k u)) : SteadyAt t fuel rank (advance >>= k) := by
  intro ts hhead hts
  rcases ts with - | ⟨t', ts⟩
  · exact absurd hhead.symm ht
  rw [List.length_cons] at hts
  have hfirst := orderly_advance t' ts
  cases hrun : Parse.advance.run (t' :: ts) with
  | error issue =>
      rw [run_bind_error hrun]
      rw [hrun] at hfirst
      exact hfirst
  | ok result =>
      obtain ⟨u, rest⟩ := result
      obtain rfl := advance_rest hrun
      rw [run_bind_ok hrun]
      exact (hk u rest (by omega)).of_suffix (List.suffix_cons t' rest)

theorem peek {k : Token → Parse α} (hk : ∀ next, SteadyAt t fuel rank (k next)) :
    SteadyAt t fuel rank (peek >>= k) := by
  intro ts hhead hts
  rcases ts with - | ⟨t', - | ⟨next, rest⟩⟩
  · exact hk .finish _ hhead hts
  · exact hk .finish _ hhead hts
  · cases next
    case broken issue =>
      rintro f rfl
      exact List.mem_cons_of_mem t' List.mem_cons_self
    all_goals exact hk _ _ hhead hts

end SteadyAt

theorem ne_finish_of_isSymbol {s : String} (h : t.isSymbol s = true) : t ≠ .finish := by
  rintro rfl
  cases h

theorem ne_finish_of_isName {s : String} (h : t.isName s = true) : t ≠ .finish := by
  rintro rfl
  cases h

theorem ne_finish_of_comparison? {op : CompareOperator} (h : comparison? t = some op) :
    t ≠ .finish := by
  rintro rfl
  cases h

theorem ne_finish_of_sum? {op : Arithmetic} (h : sum? t = some op) : t ≠ .finish := by
  rintro rfl
  cases h

theorem ne_finish_of_product? {op : Arithmetic} (h : product? t = some op) : t ≠ .finish := by
  rintro rfl
  cases h

namespace Steady

variable {p q : Parse α}

theorem advance : Steady fuel rank advance := by
  intro ts _
  rcases ts with - | ⟨t, rest⟩
  · exact List.suffix_rfl
  · exact orderly_advance t rest

theorem current : Steady fuel rank current := get.bind fun _ => .pure _

theorem peek : Steady fuel rank peek := by
  intro ts hts
  have h := SteadyAt.peek (fun next => (Steady.pure next).at_token _) ts rfl hts
  rwa [bind_pure] at h

/-- Where a symbol is skipped, its share of the fuel is free. -/
theorem ifSymbol {s : String} (hp : Steady fuel (rank + 40) p) (hq : Steady fuel rank q) :
    Steady fuel rank (skipSymbol s >>= fun found => if found then p else q) := by
  unfold skipSymbol
  rw [bind_assoc]
  refine look fun t => ?_
  split
  · next h =>
      rw [bind_assoc]
      exact .advance (ne_finish_of_isSymbol h) fun _ => hp
  · exact hq.at_token t

theorem ifName {s : String} (hp : Steady fuel (rank + 40) p) (hq : Steady fuel rank q) :
    Steady fuel rank (skipName s >>= fun found => if found then p else q) := by
  unfold skipName
  rw [bind_assoc]
  refine look fun t => ?_
  split
  · next h =>
      rw [bind_assoc]
      exact .advance (ne_finish_of_isName h) fun _ => hp
  · exact hq.at_token t

theorem skipSymbol (s : String) : Steady fuel rank (skipSymbol s) :=
  current.bind fun _ => .ite (advance.bind fun _ => .pure _) (.pure _)

theorem skipName (s : String) : Steady fuel rank (skipName s) :=
  current.bind fun _ => .ite (advance.bind fun _ => .pure _) (.pure _)

theorem mismatch_ne_fault (expected : String) (found : Token) (f : Fault) :
    mismatch expected found ≠ .fault f := by
  unfold mismatch
  split <;> nofun

/-- A symbol that is demanded is taken. -/
theorem expectSymbol {s : String} {k : Unit → Parse α} (hk : ∀ u, Steady fuel (rank + 40) (k u)) :
    Steady fuel rank (expectSymbol s >>= k) := by
  unfold Parse.expectSymbol
  rw [bind_assoc]
  refine look fun t => ?_
  split
  · next h => exact .advance (ne_finish_of_isSymbol h) hk
  · exact (throw (mismatch_ne_fault s t)).at_token t

theorem expectName : Steady fuel rank expectName := by
  refine current.bind fun t => ?_
  cases t
  case name s => exact advance.bind fun _ => .pure _
  all_goals exact .throw (mismatch_ne_fault _ _)

theorem require (c : Bool) : Steady fuel rank (require c) := .ite (.pure _) (.throw nofun)

theorem dottedRest (count : Nat) (name : String) : Steady fuel rank (dottedRest count name) := by
  induction count generalizing name with
  | zero => exact .pure name
  | succ count ih =>
      exact (skipSymbol ".").bind fun _ => .ite (expectName.bind fun _ => ih _) (.pure _)

theorem dottedName : Steady fuel rank dottedName :=
  get.bind fun _ => expectName.bind fun _ => dottedRest _ _

theorem moreText (count : Nat) (s : String) : Steady fuel rank (moreText count s) := by
  induction count generalizing s with
  | zero => exact .pure s
  | succ count ih =>
      refine current.bind fun t => ?_
      cases t
      case text => exact advance.bind fun _ => ih _
      all_goals exact .pure _

end Steady

/-! ## The grammar -/

section Grammar

open Steady

mutual

theorem steady_expression : ∀ fuel, Steady fuel 11 (expression fuel)
  | 0 => .zero
  | fuel + 1 => ((steady_disjunction fuel).mono (by omega)).bind fun yes =>
    (steady_conditionals fuel yes).mono (by omega)

theorem steady_conditionals : ∀ fuel yes, Steady fuel 1 (conditionals fuel yes)
  | 0, _ => .zero
  | fuel + 1, yes => by
    refine .ifName ?_ (.pure yes)
    refine ((steady_disjunction fuel).mono (by omega)).bind fun test => ?_
    refine (Steady.skipName "else").bind fun found => .ite ?_ ?_
    · exact ((steady_expression fuel).mono (by omega)).map.bind fun no =>
        (steady_conditionals fuel _).mono (by omega)
    · exact (Steady.pure _).bind fun no => (steady_conditionals fuel _).mono (by omega)

theorem steady_disjunction : ∀ fuel, Steady fuel 10 (disjunction fuel)
  | 0 => .zero
  | fuel + 1 => ((steady_conjunction fuel).mono (by omega)).bind fun left =>
    (steady_disjuncts fuel left).mono (by omega)

theorem steady_disjuncts : ∀ fuel left, Steady fuel 1 (disjuncts fuel left)
  | 0, _ => .zero
  | fuel + 1, left => .ifName
    (((steady_conjunction fuel).mono (by omega)).bind fun _ =>
      (steady_disjuncts fuel _).mono (by omega))
    (.pure left)

theorem steady_conjunction : ∀ fuel, Steady fuel 9 (conjunction fuel)
  | 0 => .zero
  | fuel + 1 => ((steady_negation fuel).mono (by omega)).bind fun left =>
    (steady_conjuncts fuel left).mono (by omega)

theorem steady_conjuncts : ∀ fuel left, Steady fuel 1 (conjuncts fuel left)
  | 0, _ => .zero
  | fuel + 1, left => .ifName
    (((steady_negation fuel).mono (by omega)).bind fun _ =>
      (steady_conjuncts fuel _).mono (by omega))
    (.pure left)

theorem steady_negation : ∀ fuel, Steady fuel 8 (negation fuel)
  | 0 => .zero
  | fuel + 1 => .ifName
    (((steady_negation fuel).mono (by omega)).bind fun _ => .pure _)
    ((steady_comparison fuel).mono (by omega))

theorem steady_comparison : ∀ fuel, Steady fuel 7 (comparison fuel)
  | 0 => .zero
  | fuel + 1 => by
    refine ((steady_sum fuel).mono (by omega)).bind fun first =>
      ((steady_comparisons fuel).mono (by omega)).bind fun rest => ?_
    cases rest <;> exact .pure _

theorem steady_comparisons : ∀ fuel, Steady fuel 1 (comparisons fuel)
  | 0 => .zero
  | fuel + 1 => by
    have hnext (op : CompareOperator) : Steady (fuel + 1) 41 (do
        let e ← sum fuel
        return (op, e) :: (← comparisons fuel)) :=
      ((steady_sum fuel).mono (by omega)).bind fun _ =>
        ((steady_comparisons fuel).mono (by omega)).bind fun _ => .pure _
    unfold comparisons
    refine .look fun t => ?_
    cases hop : comparison? t with
    | some op => exact .advance (ne_finish_of_comparison? hop) fun _ => hnext op
    | none =>
        refine .ite (fun hin => .advance (ne_finish_of_isName hin) fun _ => hnext .isIn)
          fun _ => .ite (fun hnot => .peek fun after => .ite (fun _ => ?_) fun _ => .pure [])
            fun _ => .pure []
        exact .advance (ne_finish_of_isName hnot) fun _ => Steady.advance.bind fun _ =>
          hnext .notIn

theorem steady_sum : ∀ fuel, Steady fuel 6 (sum fuel)
  | 0 => .zero
  | fuel + 1 => ((steady_concatenation fuel).mono (by omega)).bind fun left =>
    (steady_summands fuel left).mono (by omega)

theorem steady_summands : ∀ fuel left, Steady fuel 1 (summands fuel left)
  | 0, _ => .zero
  | fuel + 1, left => by
    unfold summands
    refine .look fun t => ?_
    cases hop : sum? t with
    | none => exact .pure left
    | some op =>
        exact .advance (ne_finish_of_sum? hop) fun _ =>
          ((steady_concatenation fuel).mono (by omega)).bind fun _ =>
            (steady_summands fuel _).mono (by omega)

theorem steady_concatenation : ∀ fuel, Steady fuel 5 (concatenation fuel)
  | 0 => .zero
  | fuel + 1 => by
    refine ((steady_product fuel).mono (by omega)).bind fun first =>
      ((steady_concatenated fuel).mono (by omega)).bind fun rest => ?_
    cases rest <;> exact .pure _

theorem steady_concatenated : ∀ fuel, Steady fuel 1 (concatenated fuel)
  | 0 => .zero
  | fuel + 1 => .ifSymbol
    (((steady_product fuel).mono (by omega)).bind fun _ =>
      ((steady_concatenated fuel).mono (by omega)).bind fun _ => .pure _)
    (.pure [])

theorem steady_product : ∀ fuel, Steady fuel 4 (product fuel)
  | 0 => .zero
  | fuel + 1 => ((steady_power fuel).mono (by omega)).bind fun left =>
    (steady_factors fuel left).mono (by omega)

theorem steady_factors : ∀ fuel left, Steady fuel 1 (factors fuel left)
  | 0, _ => .zero
  | fuel + 1, left => by
    unfold factors
    refine .look fun t => ?_
    cases hop : product? t with
    | none => exact .pure left
    | some op =>
        exact .advance (ne_finish_of_product? hop) fun _ =>
          ((steady_power fuel).mono (by omega)).bind fun _ =>
            (steady_factors fuel _).mono (by omega)

theorem steady_power : ∀ fuel, Steady fuel 3 (power fuel)
  | 0 => .zero
  | fuel + 1 => ((steady_signed fuel true).mono (by omega)).bind fun left =>
    (steady_exponents fuel left).mono (by omega)

theorem steady_exponents : ∀ fuel left, Steady fuel 1 (exponents fuel left)
  | 0, _ => .zero
  | fuel + 1, left => .ifSymbol
    (((steady_signed fuel true).mono (by omega)).bind fun _ =>
      (steady_exponents fuel _).mono (by omega))
    (.pure left)

theorem steady_signed : ∀ fuel filtered, Steady fuel 2 (signed fuel filtered)
  | 0, _ => .zero
  | fuel + 1, filtered => by
    have hsigned (op : UnaryOperator) : Steady (fuel + 1) 42 (do
        return Expr.unary op (← signed fuel false)) :=
      ((steady_signed fuel false).mono (by omega)).bind fun _ => .pure _
    have hprimary : Steady (fuel + 1) 2 (primary fuel) := (steady_primary fuel).mono (by omega)
    refine Steady.bind (.ifSymbol (hsigned .negate) (.ifSymbol (hsigned .affirm) hprimary))
      fun e => ((steady_postfixes fuel e).mono (by omega)).bind fun _ => ?_
    exact .ite ((steady_filters fuel _).mono (by omega)) (.pure _)

theorem steady_primary : ∀ fuel, Steady fuel 1 (primary fuel)
  | 0 => .zero
  | fuel + 1 => by
    unfold primary
    refine .look fun t => ?_
    split
    · refine .advance nofun fun _ => ?_
      split <;> exact .pure _
    · exact .advance nofun fun _ => Steady.get.bind fun _ =>
        (Steady.moreText _ _).bind fun _ => .pure _
    · exact .advance nofun fun _ => .pure _
    · exact .advance nofun fun _ => .pure _
    · exact .advance nofun fun _ => ((steady_parenthesized fuel).mono (by omega)).bind fun _ =>
        .expectSymbol fun _ => .pure _
    · exact .advance nofun fun _ => ((steady_listItems fuel true).mono (by simp; omega)).bind
        fun _ => .pure _
    · exact .advance nofun fun _ => ((steady_mapEntries fuel true).mono (by simp; omega)).bind
        fun _ => .pure _
    · refine Steady.at_token (.throw ?_) _
      exact nofun

theorem steady_parenthesized : ∀ fuel, Steady fuel 12 (parenthesized fuel)
  | 0 => .zero
  | fuel + 1 => by
    unfold parenthesized
    refine Steady.current.bind fun t => .ite (.pure _) ?_
    refine Steady.current.bind fun t => ?_
    split
    · exact .pure _
    · refine ((steady_expression fuel).mono (by omega)).bind fun first => ?_
      exact Steady.current.bind fun _ =>
        .ite (((steady_tupleItems fuel).mono (by omega)).bind fun _ => .pure _) (.pure first)

theorem steady_tupleItems : ∀ fuel, Steady fuel 1 (tupleItems fuel)
  | 0 => .zero
  | fuel + 1 => by
    refine .ifSymbol ?_ (.pure [])
    refine Steady.current.bind fun _ => .ite (.pure []) ?_
    exact ((steady_expression fuel).mono (by omega)).bind fun _ =>
      ((steady_tupleItems fuel).mono (by omega)).bind fun _ => .pure _

/-- Further elements stand behind a comma. -/
theorem steady_listItems : ∀ fuel isFirst,
    Steady fuel (if isFirst then 12 else 1) (listItems fuel isFirst)
  | 0, true => .zero
  | 0, false => .zero
  | fuel + 1, isFirst => by
    refine (Steady.skipSymbol "]").bind fun _ => .ite (.pure []) ?_
    cases isFirst
    case' false =>
      refine .expectSymbol fun _ => .mono ?_ (by omega : 12 + (fuel + 1) ≤ 41 + (fuel + 1))
    case' true => change Steady _ 12 _
    all_goals
      refine (Steady.skipSymbol "]").bind fun _ => .ite (.pure []) ?_
      exact ((steady_expression fuel).mono (by omega)).bind fun _ =>
        ((steady_listItems fuel false).mono (by simp; omega)).bind fun _ => .pure _

theorem steady_mapEntries : ∀ fuel isFirst,
    Steady fuel (if isFirst then 12 else 1) (mapEntries fuel isFirst)
  | 0, true => .zero
  | 0, false => .zero
  | fuel + 1, isFirst => by
    refine (Steady.skipSymbol _).bind fun _ => .ite (.pure []) ?_
    cases isFirst
    case' false =>
      refine .expectSymbol fun _ => .mono ?_ (by omega : 12 + (fuel + 1) ≤ 41 + (fuel + 1))
    case' true => change Steady _ 12 _
    all_goals
      refine (Steady.skipSymbol _).bind fun _ => .ite (.pure []) ?_
      refine ((steady_expression fuel).mono (by omega)).bind fun key => .expectSymbol fun _ => ?_
      exact ((steady_expression fuel).mono (by omega)).bind fun _ =>
        ((steady_mapEntries fuel false).mono (by simp; omega)).bind fun _ => .pure _

theorem steady_postfixes : ∀ fuel e, Steady fuel 1 (postfixes fuel e)
  | 0, _ => .zero
  | fuel + 1, e => by
    unfold postfixes
    refine .look fun t => ?_
    split
    · refine .advance nofun fun _ => Steady.current.bind fun t => ?_
      refine Steady.advance.bind fun _ => ?_
      split
      · exact (steady_postfixes fuel _).mono (by omega)
      · exact (steady_postfixes fuel _).mono (by omega)
      · exact .throw nofun
    · refine .advance nofun fun _ => ((steady_subscripts fuel true).mono (by simp; omega)).bind
        fun keys => ?_
      split <;> exact (steady_postfixes fuel _).mono (by omega)
    · exact .advance nofun fun _ => ((steady_arguments fuel _ false).mono (by simp; omega)).bind
        fun _ => (steady_postfixes fuel _).mono (by omega)
    · exact .pure e

theorem steady_subscripts : ∀ fuel isFirst,
    Steady fuel (if isFirst then 14 else 1) (subscripts fuel isFirst)
  | 0, true => .zero
  | 0, false => .zero
  | fuel + 1, isFirst => by
    refine (Steady.skipSymbol "]").bind fun _ => .ite (.pure []) ?_
    cases isFirst
    case' false =>
      refine .expectSymbol fun _ => .mono ?_ (by omega : 14 + (fuel + 1) ≤ 41 + (fuel + 1))
    case' true => change Steady _ 14 _
    all_goals
      exact ((steady_subscriptKey fuel).mono (by omega)).bind fun _ =>
        ((steady_subscripts fuel false).mono (by simp; omega)).bind fun _ => .pure _

theorem steady_subscriptKey : ∀ fuel, Steady fuel 13 (subscriptKey fuel)
  | 0 => .zero
  | fuel + 1 => by
    refine .ifSymbol ((steady_sliceFrom fuel none).mono (by omega)) ?_
    refine ((steady_expression fuel).mono (by omega)).bind fun e => ?_
    exact .ifSymbol ((steady_sliceFrom fuel (some e)).mono (by omega)) (.pure e)

theorem steady_sliceFrom : ∀ fuel start, Steady fuel 12 (sliceFrom fuel start)
  | 0, _ => .zero
  | fuel + 1, start => by
    have hstep (stop : Option Expr) : Steady (fuel + 1) 12 (do
        if ← skipSymbol ":" then
          let t ← current
          let step ←
            if t.isSymbol "]" || t.isSymbol "," then pure none else some <$> expression fuel
          return Expr.slice start stop step
        else return .slice start stop none) := by
      refine .ifSymbol ?_ (.pure _)
      exact Steady.current.bind fun t => .ite ((Steady.pure _).bind fun _ => .pure _)
        (((steady_expression fuel).mono (by omega)).map.bind fun _ => .pure _)
    exact Steady.current.bind fun t => .ite ((Steady.pure none).bind hstep)
      (((steady_expression fuel).mono (by omega)).map.bind hstep)

/-- Further arguments stand behind a comma. -/
theorem steady_arguments : ∀ fuel g needsComma,
    Steady fuel (if needsComma then 1 else 12) (arguments fuel g needsComma)
  | 0, _, true => .zero
  | 0, _, false => .zero
  | fuel + 1, g, needsComma => by
    have hafter (g' : Gathered) : Steady (fuel + 1) 12 (arguments fuel g' true) :=
      (steady_arguments fuel g' true).mono (by simp; omega)
    have hexpression : Steady (fuel + 1) 12 (expression fuel) :=
      (steady_expression fuel).mono (by omega)
    have hkeyed (key? : Option String) : Steady (fuel + 1) 12 (match key? with
        | some key => do
          require g.namedRest.isNone
          advance
          advance
          let e ← expression fuel
          arguments fuel { g with named := g.named ++ [(key, e)] } true
        | none => do
          require (g.rest.isNone && g.namedRest.isNone && g.named.isEmpty)
          let e ← expression fuel
          arguments fuel { g with positional := g.positional ++ [e] } true) := by
      cases key? with
      | some key =>
          refine (Steady.require _).bind fun _ => Steady.advance.bind fun _ => ?_
          exact Steady.advance.bind fun _ => hexpression.bind fun _ => hafter _
      | none => exact (Steady.require _).bind fun _ => hexpression.bind fun _ => hafter _
    have hstarred {c : Bool} {g' : Expr → Gathered} : Steady (fuel + 1) 12 (do
        require c
        advance
        let e ← expression fuel
        arguments fuel (g' e) true) :=
      (Steady.require c).bind fun _ => Steady.advance.bind fun _ =>
        hexpression.bind fun _ => hafter _
    refine (Steady.skipSymbol ")").bind fun _ => .ite (.pure _) ?_
    cases needsComma
    case' true =>
      refine .expectSymbol fun _ => .mono ?_ (by omega : 12 + (fuel + 1) ≤ 41 + (fuel + 1))
    all_goals
      refine Steady.current.bind fun t => .ite (Steady.advance.bind fun _ => .pure _) ?_
      refine Steady.current.bind fun t => .ite hstarred (.ite hstarred ?_)
      cases t
      case name s =>
        exact Steady.peek.bind fun _ =>
          .ite ((Steady.pure _).bind hkeyed) ((Steady.pure _).bind hkeyed)
      all_goals exact (Steady.pure _).bind hkeyed

theorem steady_filters : ∀ fuel e, Steady fuel 1 (filters fuel e)
  | 0, _ => .zero
  | fuel + 1, e => by
    have hfilters (e : Expr) : Steady (fuel + 1) 41 (filters fuel e) :=
      (steady_filters fuel e).mono (by omega)
    have harguments (g : Gathered) : Steady (fuel + 1) 41 (arguments fuel g false) :=
      (steady_arguments fuel g false).mono (by simp; omega)
    unfold filters
    refine .look fun t => .ite (fun hbar => ?_) fun _ => .ite (fun his => ?_) fun _ =>
      .ite (fun hcall => ?_) fun _ => .pure e
    · refine .advance (ne_finish_of_isSymbol hbar) fun _ => Steady.dottedName.bind fun name => ?_
      refine (Steady.skipSymbol "(").bind fun _ => .ite ?_ ?_
      · exact (harguments _).bind fun _ => hfilters _
      · exact (Steady.pure _).bind fun _ => hfilters _
    · exact .advance (ne_finish_of_isName his) fun _ =>
        ((steady_testOf fuel e).mono (by omega)).bind hfilters
    · exact .advance (ne_finish_of_isSymbol hcall) fun _ => (harguments _).bind fun _ =>
        hfilters _

theorem steady_testOf : ∀ fuel e, Steady fuel 13 (testOf fuel e)
  | 0, _ => .zero
  | fuel + 1, e => by
    unfold testOf
    refine (Steady.skipName "not").bind fun negated => Steady.dottedName.bind fun name => ?_
    refine Steady.current.bind fun t => .ite ?_ (.ite ?_ ?_)
    · exact Steady.advance.bind fun _ => ((steady_arguments fuel _ false).mono
        (by simp; omega)).bind fun _ => .pure _
    · have harg : Steady (fuel + 1) 13 (do
          let arg ← primary fuel
          let arg ← postfixes fuel arg
          let args ← pure (Inputs.mk [arg] [] none none)
          let test := Expr.test e name args
          return if negated then .unary .not test else test) :=
        ((steady_primary fuel).mono (by omega)).bind fun arg =>
          ((steady_postfixes fuel arg).mono (by omega)).bind fun _ =>
          (Steady.pure _).bind fun _ => .pure _
      have hchained : Steady (fuel + 1) 13 (throw .chainedTests : Parse PUnit) := .throw nofun
      exact .ite (hchained.bind fun _ => harg) harg
    · exact (Steady.pure _).bind fun _ => .pure _

end

end Grammar

end Parse

/-! ## Reading a text -/

/-- Some token of a text lies too deep to be read. -/
def Crowded (ts : List Token) : Prop :=
  ∃ read t rest, ts = read ++ t :: rest ∧ readingRoom < (Place.after read).frames

/-- A token that cannot be read is one of the text, or stands for the first that lies too
deep. -/
theorem broken_of_mem_withinRoom {p : Place} {ts : List Token} {issue : SyntaxIssue}
    (h : .broken issue ∈ withinRoom p ts) :
    .broken issue ∈ ts ∨ issue = .fault .tooDeep ∧
      ∃ read t rest, ts = read ++ t :: rest ∧ readingRoom < (read.foldl Place.step p).frames := by
  fun_induction withinRoom p ts with
  | case1 => cases h
  | case2 p issue' rest =>
      rw [List.mem_singleton.mp h]
      exact .inl List.mem_cons_self
  | case3 p t rest _ hdeep =>
      exact .inr ⟨Token.broken.inj (List.mem_singleton.mp h), [], t, rest, rfl, hdeep⟩
  | case4 p t rest _ _ ih =>
      obtain rfl | htail := List.mem_cons.mp h
      · exact .inl List.mem_cons_self
      · refine (ih htail).imp (List.mem_cons_of_mem t) (And.imp_right ?_)
        rintro ⟨read, t', rest', rfl, hdeep⟩
        exact ⟨t :: read, t', rest', rfl, hdeep⟩

theorem frames_le_of_withinRoom {p : Place} {ts : List Token} (hroom : withinRoom p ts = ts)
    (hreadable : ∀ issue, .broken issue ∉ ts) {read : List Token} {t : Token} {rest : List Token}
    (hsplit : ts = read ++ t :: rest) : (read.foldl Place.step p).frames ≤ readingRoom := by
  fun_induction withinRoom p ts generalizing read with
  | case1 => simp at hsplit
  | case2 p issue => exact absurd List.mem_cons_self (hreadable issue)
  | case3 p first after _ hdeep =>
      obtain ⟨rfl, -⟩ := List.cons.inj hroom
      exact absurd List.mem_cons_self (hreadable _)
  | case4 p first after _ hfits ih =>
      cases read with
      | nil => exact Nat.not_lt.mp hfits
      | cons first' read =>
          obtain ⟨rfl, htail⟩ := List.cons.inj hsplit
          exact ih (List.cons.inj hroom).2
            (fun issue hmem => hreadable issue (List.mem_cons_of_mem _ hmem)) htail

/-- Where all tokens are read, none lies too deep. -/
theorem not_crowded {ts : List Token} (hroom : withinRoom .start ts = ts)
    (hreadable : ∀ issue, .broken issue ∉ ts) : ¬ Crowded ts := by
  rintro ⟨read, t, rest, hsplit, hdeep⟩
  exact absurd hdeep (Nat.not_lt.mpr (frames_le_of_withinRoom hroom hreadable hsplit))

/-- A text whose reading ends in a fault has a token that stands for the fault, or one that lies too
deep. -/
theorem parse_fault {s : String} {f : Fault} (h : parse s = .error (.fault f)) :
    .broken (.fault f) ∈ tokens s ∨ f = .tooDeep ∧ Crowded (tokens s) := by
  have hbroken : Token.broken (.fault f) ∈ withinRoom .start (tokens s) := by
    unfold parse at h
    generalize withinRoom .start (tokens s) = ts at h
    simp only at h
    split at h
    · next issue rest =>
        rw [Except.error.inj h]
        exact List.mem_cons_self
    · have hfuel : 11 + 40 * ts.length ≤ parseFuel ts.length := by
        unfold parseFuel
        omega
      have hsteady := Parse.steady_expression (parseFuel ts.length) ts hfuel
      cases hrun : (Parse.expression (parseFuel ts.length)).run ts with
      | ok result =>
          rw [hrun] at h
          simp only [bind, Except.bind] at h
          split at h <;> cases h
      | error issue =>
          rw [hrun] at h hsteady
          exact hsteady f (Except.error.inj h)
  obtain hmem | ⟨hfault, hdeep⟩ := broken_of_mem_withinRoom hbroken
  · exact .inl hmem
  · exact .inr ⟨SyntaxIssue.fault.inj hfault, hdeep⟩

/-- There is room for 69 parentheses inside each other, but not for one more. -/
example : (Place.after (List.replicate 69 (.symbol "("))).frames ≤ readingRoom ∧
    readingRoom < (Place.after (List.replicate 70 (.symbol "("))).frames := by
  decide +kernel

end ClusterDiscovery.Expression
