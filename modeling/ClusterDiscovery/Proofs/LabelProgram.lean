import ClusterDiscovery.Proofs.Breakdowns
import ClusterDiscovery.Proofs.LabelText

/-! # Programs that ask for labels

The text of clauses for labels is read as the conjunction of these clauses, grouped to the left.
Nothing in it is constant and all of it is well formed, so it is compiled to just that tree, and
nothing in it could be blamed for a fault, as long as there are not too many clauses.
-/

namespace ClusterDiscovery.Expression

/-- A clause that a label has a value. -/
def clauseExpr (label : String × String) : Expr :=
  .compare (.item (.name "labels") (.literal (.text label.1))) [(.eq, .literal (.text label.2))]

/-- An expression and further clauses. -/
def conjoined (e : Expr) (labels : List (String × String)) : Expr :=
  labels.foldl (fun e label => .both e (clauseExpr label)) e

/-! ## Parsing -/

section Parsing

open Parse

/-- A clause is read up to the next one. The fuel that it takes does not depend on it. -/
theorem negation_clause (n : Nat) (label : String × String) (rest : List (String × String)) :
    (negation (n + 30)).run (clauseTokens label ++ furtherTokens rest) =
      .ok (clauseExpr label, furtherTokens rest) := by
  cases rest <;> rfl

theorem conjuncts_further {labels : List (String × String)} {fuel : Nat}
    (hfuel : 31 + labels.length ≤ fuel) (left : Expr) :
    (conjuncts fuel left).run (furtherTokens labels) = .ok (conjoined left labels, [.finish]) := by
  induction labels generalizing fuel left with
  | nil =>
      obtain ⟨n, rfl⟩ : ∃ n, fuel = n + 1 := ⟨fuel - 1, by simp at hfuel; omega⟩
      rfl
  | cons label rest ih =>
      rw [List.length_cons] at hfuel
      obtain ⟨n, rfl⟩ : ∃ n, fuel = (n + 30) + 1 := ⟨fuel - 31, by omega⟩
      have hstep : (conjuncts ((n + 30) + 1) left).run
          (.name "and" :: (clauseTokens label ++ furtherTokens rest)) =
          ((negation (n + 30)).run (clauseTokens label ++ furtherTokens rest) >>= fun read =>
            (conjuncts (n + 30) (.both left read.1)).run read.2) := rfl
      rw [furtherTokens, hstep, negation_clause]
      exact ih (by omega) _

theorem expression_labels (label : String × String) {rest : List (String × String)} {fuel : Nat}
    (hfuel : 34 + rest.length ≤ fuel) :
    (expression fuel).run (clauseTokens label ++ furtherTokens rest) =
      .ok (conjoined (clauseExpr label) rest, [.finish]) := by
  obtain ⟨n, rfl⟩ : ∃ n, fuel = (n + 30) + 3 := ⟨fuel - 33, by omega⟩
  have hconjunction : (conjunction ((n + 30) + 1)).run (clauseTokens label ++ furtherTokens rest) =
      .ok (conjoined (clauseExpr label) rest, [.finish]) := by
    have hstep : (conjunction ((n + 30) + 1)).run (clauseTokens label ++ furtherTokens rest) =
        ((negation (n + 30)).run (clauseTokens label ++ furtherTokens rest) >>= fun read =>
          (conjuncts (n + 30) read.1).run read.2) := rfl
    rw [hstep, negation_clause]
    exact conjuncts_further (by omega) _
  have hdisjunction : (disjunction ((n + 30) + 2)).run
      (clauseTokens label ++ furtherTokens rest) =
      .ok (conjoined (clauseExpr label) rest, [.finish]) := by
    have hstep : (disjunction ((n + 30) + 2)).run (clauseTokens label ++ furtherTokens rest) =
        ((conjunction ((n + 30) + 1)).run (clauseTokens label ++ furtherTokens rest) >>=
          fun read => (disjuncts ((n + 30) + 1) read.1).run read.2) := rfl
    rw [hstep, hconjunction]
    rfl
  have hstep : (expression ((n + 30) + 3)).run (clauseTokens label ++ furtherTokens rest) =
      ((disjunction ((n + 30) + 2)).run (clauseTokens label ++ furtherTokens rest) >>=
        fun read => (conditionals ((n + 30) + 2) read.1).run read.2) := rfl
  rw [hstep, hdisjunction]
  rfl

theorem furtherTokens_length (labels : List (String × String)) :
    labels.length ≤ (furtherTokens labels).length := by
  induction labels with
  | nil => exact Nat.zero_le _
  | cons label rest ih =>
      rw [furtherTokens, List.length_cons, List.length_cons, List.length_append]
      omega

/-- No clause lies deep, however many there are. -/
theorem withinRoom_labels (label : String × String) (rest : List (String × String)) :
    withinRoom .start (clauseTokens label ++ furtherTokens rest) =
      clauseTokens label ++ furtherTokens rest := by
  have hclause (label : String × String) (ts : List Token) :
      withinRoom .start (clauseTokens label ++ ts) =
        clauseTokens label ++ withinRoom ⟨{ start := 0 }, [], true⟩ ts := rfl
  rw [hclause]
  congr 1
  induction rest with
  | nil => rfl
  | cons next rest ih =>
      have hand : withinRoom ⟨{ start := 0 }, [], true⟩ (furtherTokens (next :: rest)) =
          .name "and" :: withinRoom .start (clauseTokens next ++ furtherTokens rest) := rfl
      rw [hand, hclause, ih, furtherTokens]

theorem parse_labelText {label : String × String} {rest : List (String × String)}
    (h : ∀ l ∈ label :: rest, IsLabel l) :
    parse (labelText (label :: rest)) = .ok (conjoined (clauseExpr label) rest) := by
  have hcount := furtherTokens_length rest
  have hfuel : 34 + rest.length ≤
      parseFuel (clauseTokens label ++ furtherTokens rest).length := by
    rw [parseFuel, List.length_append]
    omega
  unfold parse
  simp only [tokens_labelText h, withinRoom_labels, expression_labels label hfuel, bind,
    Except.bind]
  rfl

end Parsing

/-! ## Compilation -/

/-- Compilation leaves an expression as it is, finds no constant in it and no fault. -/
structure Inert (e : Expr) : Prop where
  folded : fold e = .ok e
  optimized : optimize e = .ok e
  inconstant : ∀ store, (constant e).run store = .ok none store
  checked : checkNames false e = .ok ()
  formed : wellFormed e = true

theorem inert_clause (label : String × String) : Inert (clauseExpr label) :=
  ⟨rfl, rfl, fun _ => rfl, rfl, rfl⟩

theorem Inert.both {a b : Expr} (ha : Inert a) (hb : Inert b) : Inert (.both a b) := by
  have hconstant (store : Store) : (constant (.both a b)).run store = .ok none store := by
    change EStateM.bind (constant a) _ store = _
    unfold EStateM.bind
    rw [show constant a store = .ok none store from ha.inconstant store]
    rfl
  have hfolded : fold (.both a b) = .ok (.both a b) := by
    rw [fold, ha.folded, hb.folded]
    change foldNode (.both a b) = _
    rw [foldNode, hconstant]
    rfl
  refine ⟨hfolded, hfolded, hconstant, ?_, ?_⟩
  · rw [checkNames, ha.checked]
    exact hb.checked
  · rw [wellFormed, ha.formed, hb.formed]
    rfl

theorem Inert.conjoined {e : Expr} (he : Inert e) (labels : List (String × String)) :
    Inert (conjoined e labels) := by
  induction labels generalizing e with
  | nil => exact he
  | cons label rest ih => exact ih (he.both (inert_clause label))

/-! ## Limits -/

theorem conjoined_height (e : Expr) (labels : List (String × String)) (h : 3 ≤ e.height) :
    (conjoined e labels).height = e.height + labels.length := by
  induction labels generalizing e with
  | nil => rfl
  | cons label rest ih =>
      have hboth : (Expr.both e (clauseExpr label)).height = e.height + 1 := by
        have hclause : (clauseExpr label).height = 3 := rfl
        rw [Expr.height, hclause]
        omega
      have hrest := ih (.both e (clauseExpr label)) (by omega)
      rw [hboth] at hrest
      rw [List.length_cons]
      exact hrest.trans (by omega)

theorem conjoined_brackets (e : Expr) (labels : List (String × String)) (h : 4 ≤ e.brackets) :
    (conjoined e labels).brackets = e.brackets + labels.length := by
  induction labels generalizing e with
  | nil => rfl
  | cons label rest ih =>
      have hboth : (Expr.both e (clauseExpr label)).brackets = e.brackets + 1 := by
        have hclause : (clauseExpr label).brackets = 4 := rfl
        rw [Expr.brackets, hclause]
        omega
      have hrest := ih (.both e (clauseExpr label)) (by omega)
      rw [hboth] at hrest
      rw [List.length_cons]
      exact hrest.trans (by omega)

theorem clause_height (label : String × String) (rest : List (String × String)) :
    (conjoined (clauseExpr label) rest).height = (label :: rest).length + 2 := by
  have hclause : (clauseExpr label).height = 3 := rfl
  rw [conjoined_height _ _ (Nat.le_of_eq hclause.symm), hclause, List.length_cons]
  omega

/-- The clauses that one text can have. The code for a clause has four brackets open at one place,
and each further clause puts one more around them. -/
def clauseLimit : Nat := 197

theorem brackets_le_iff (label : String × String) (rest : List (String × String)) :
    (conjoined (clauseExpr label) rest).brackets ≤ bracketLimit ↔
      (label :: rest).length ≤ clauseLimit := by
  have hclause : (clauseExpr label).brackets = 4 := rfl
  rw [conjoined_brackets _ _ (Nat.le_of_eq hclause.symm), hclause, List.length_cons, bracketLimit,
    clauseLimit]
  omega

theorem compile_labelText {label : String × String} {rest : List (String × String)}
    (h : ∀ l ∈ label :: rest, IsLabel l) (few : (label :: rest).length ≤ clauseLimit) :
    Program.compile (labelText (label :: rest)) =
      .ok ⟨Expression.conjoined (clauseExpr label) rest⟩ := by
  have hinert := (inert_clause label).conjoined rest
  have hheight : ¬ heightLimit < (Expression.conjoined (clauseExpr label) rest).height := by
    rw [clause_height, heightLimit]
    rw [clauseLimit] at few
    omega
  simp only [Program.compile, parse_labelText h, bind, Except.bind, if_neg hheight,
    hinert.optimized, hinert.checked, hinert.formed, (brackets_le_iff label rest).mpr few,
    decide_true, Bool.and_self, if_true]
  rfl

/-- The fault that the text of so many clauses ends in: their tree is too high, or the code for it
is nested too deeply. -/
def clauseFault (count : Nat) : Fault := if heightLimit < count + 2 then .tooDeep else .invalidForm

theorem compile_labelText_fault {label : String × String} {rest : List (String × String)}
    (h : ∀ l ∈ label :: rest, IsLabel l) (many : clauseLimit < (label :: rest).length) :
    Program.compile (labelText (label :: rest)) =
      .error (.fault (clauseFault (label :: rest).length)) := by
  have hinert := (inert_clause label).conjoined rest
  have hbrackets : ¬ (Expression.conjoined (clauseExpr label) rest).brackets ≤ bracketLimit :=
    fun hle => absurd ((brackets_le_iff label rest).mp hle) (Nat.not_le.mpr many)
  simp only [Program.compile, parse_labelText h, bind, Except.bind, clause_height label rest,
    clauseFault]
  split
  · rfl
  · simp only [hinert.optimized, hinert.checked, hbrackets, decide_false, Bool.and_false]
    rfl

/-! ## Nothing to blame -/

theorem furtherTokens_readable (labels : List (String × String)) (issue : SyntaxIssue) :
    .broken issue ∉ furtherTokens labels := by
  induction labels with
  | nil => simp [furtherTokens]
  | cons label rest ih => simp [furtherTokens, clauseTokens, ih]

theorem conjoined_anyPart {p : Expr → Bool} (hboth : ∀ a b, p (.both a b) = false)
    (hclause : ∀ label, (clauseExpr label).anyPart p = false) {e : Expr}
    (he : e.anyPart p = false) (labels : List (String × String)) :
    (conjoined e labels).anyPart p = false := by
  induction labels generalizing e with
  | nil => exact he
  | cons label rest ih =>
      refine ih (e := .both e (clauseExpr label)) ?_
      rw [Expr.anyPart, hboth, he, hclause]
      rfl

/-- Nothing is wrong with the text of clauses that are not too many. -/
theorem labelText_blameless {label : String × String} {rest : List (String × String)}
    (h : ∀ l ∈ label :: rest, IsLabel l) (few : (label :: rest).length ≤ clauseLimit)
    (f : Fault) : ¬ Culprit (labelText (label :: rest)) f := by
  have hread {e : Expr} (he : parse (labelText (label :: rest)) = .ok e) :
      conjoined (clauseExpr label) rest = e := Except.ok.inj ((parse_labelText h).symm.trans he)
  have hinert := (inert_clause label).conjoined rest
  have hfolded {e : Expr} (he : optimize (conjoined (clauseExpr label) rest) = .ok e) :
      conjoined (clauseExpr label) rest = e := Except.ok.inj (hinert.optimized.symm.trans he)
  have hreadable (issue : SyntaxIssue) :
      .broken issue ∉ clauseTokens label ++ furtherTokens rest := by
    simp [clauseTokens, furtherTokens_readable]
  intro hculprit
  cases hculprit with
  | number hbroken =>
      rw [tokens_labelText h] at hbroken
      exact hreadable _ hbroken
  | depth hcrowded =>
      rw [tokens_labelText h] at hcrowded
      exact not_crowded (withinRoom_labels label rest) hreadable hcrowded
  | height he hhigh =>
      rw [← hread he, clause_height, heightLimit] at hhigh
      rw [clauseLimit] at few
      omega
  | constant he hrisky =>
      rw [← hread he, conjoined_anyPart (fun _ _ => rfl) (fun _ => rfl) rfl] at hrisky
      cases hrisky
  | unwritable he he' hunwritable =>
      rw [← hread he] at he'
      rw [← hfolded he', conjoined_anyPart (fun _ _ => rfl) (fun _ => rfl) rfl] at hunwritable
      cases hunwritable
  | form he hform =>
      rw [← hread he, hinert.formed] at hform
      cases hform
  | brackets he he' hmany =>
      rw [← hread he] at he'
      rw [← hfolded he'] at hmany
      exact absurd ((brackets_le_iff label rest).mpr few) (Nat.not_le.mpr hmany)

end ClusterDiscovery.Expression
