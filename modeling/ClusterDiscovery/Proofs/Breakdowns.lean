import ClusterDiscovery.Proofs.FoldedExpressions
import ClusterDiscovery.Proofs.ParsedTokens
import ClusterDiscovery.Proofs.UnreadableNumbers

/-! # Breakdowns of compilation

The compilation of a text may end in a fault instead of an issue of syntax. Whatever the fault is,
it is found in the text: a number that has no value, something nested too deeply, a constant that
cannot be computed or written, an argument that is named twice.
-/

namespace ClusterDiscovery.Expression

def Expr.isUnwritable : Expr → Bool
  | .literal l => !l.writable
  | _ => false

/-! ## Constants that cannot be written -/

/-- A check that breaks down, if at all, at an integer too long to write. -/
def Blames (unwritable : Bool) (r : Compile Unit) : Prop :=
  ∀ f, r = .error (.fault f) → f = .badValue ∧ unwritable = true

namespace Blames

variable {a b : Bool} {r s : Compile Unit}

theorem pure : Blames a (Pure.pure ()) := nofun

theorem mono (hr : Blames a r) (h : a = true → b = true) : Blames b r :=
  fun f hf => (hr f hf).imp_right h

theorem andThen (hr : Blames a r) (hs : Blames a s) : Blames a (r >>= fun _ => s) := by
  intro f hf
  cases r with
  | error issue => exact hr f (congrArg Except.error (Except.error.inj hf))
  | ok u => exact hs f hf

/-- An unknown name is a syntax error. -/
theorem guarded {c : Prop} [Decidable c] {issue : SyntaxIssue} (hissue : ∀ f, issue ≠ .fault f)
    (hs : Blames a s) : Blames a (do
      if c then throw issue
      s) := by
  intro f hf
  split at hf
  · exact absurd (Except.error.inj hf) (hissue f)
  · exact hs f hf

end Blames

mutual

theorem checkNames_blames (tolerated : Bool) : ∀ e : Expr,
    Blames (e.anyPart Expr.isUnwritable) (checkNames tolerated e)
  | .literal l => by
    intro f hf
    unfold checkNames at hf
    split at hf
    · cases hf
    · next hunwritable =>
        exact ⟨(SyntaxIssue.fault.inj (Except.error.inj hf)).symm,
          by simpa [Expr.anyPart, Expr.isUnwritable] using hunwritable⟩
  | .name _ => .pure
  | .tuple items => (checkAll_blames tolerated items).mono fun h => by simp [Expr.anyPart, h]
  | .list items => (checkAll_blames tolerated items).mono fun h => by simp [Expr.anyPart, h]
  | .map entries =>
    (checkEntries_blames tolerated entries).mono fun h => by simp [Expr.anyPart, h]
  | .unary _ e => (checkNames_blames tolerated e).mono fun h => by simp [Expr.anyPart, h]
  | .binary _ a b =>
    .andThen ((checkNames_blames tolerated a).mono fun h => by simp [Expr.anyPart, h])
      ((checkNames_blames tolerated b).mono fun h => by simp [Expr.anyPart, h])
  | .both a b =>
    .andThen ((checkNames_blames tolerated a).mono fun h => by simp [Expr.anyPart, h])
      ((checkNames_blames tolerated b).mono fun h => by simp [Expr.anyPart, h])
  | .either a b =>
    .andThen ((checkNames_blames tolerated a).mono fun h => by simp [Expr.anyPart, h])
      ((checkNames_blames tolerated b).mono fun h => by simp [Expr.anyPart, h])
  | .concat items => (checkAll_blames tolerated items).mono fun h => by simp [Expr.anyPart, h]
  | .compare first rest =>
    .andThen ((checkNames_blames tolerated first).mono fun h => by simp [Expr.anyPart, h])
      ((checkChain_blames tolerated rest).mono fun h => by simp [Expr.anyPart, h])
  | .conditional test yes no =>
    .andThen ((checkNames_blames true yes).mono fun h => by simp [Expr.anyPart, h])
      (.andThen ((checkNames_blames true test).mono fun h => by simp [Expr.anyPart, h])
        ((checkOption_blames true no).mono fun h => by simp [Expr.anyPart, h]))
  | .attribute e _ => (checkNames_blames tolerated e).mono fun h => by simp [Expr.anyPart, h]
  | .item e key =>
    .andThen ((checkNames_blames tolerated e).mono fun h => by simp [Expr.anyPart, h])
      ((checkNames_blames tolerated key).mono fun h => by simp [Expr.anyPart, h])
  | .slice start stop step =>
    .andThen ((checkOption_blames tolerated start).mono fun h => by simp [Expr.anyPart, h])
      (.andThen ((checkOption_blames tolerated stop).mono fun h => by simp [Expr.anyPart, h])
        ((checkOption_blames tolerated step).mono fun h => by simp [Expr.anyPart, h]))
  | .call f args =>
    .andThen ((checkNames_blames tolerated f).mono fun h => by simp [Expr.anyPart, h])
      ((checkInputs_blames tolerated args).mono fun h => by simp [Expr.anyPart, h])
  | .filter e name args => .guarded nofun <|
    .andThen ((checkNames_blames tolerated e).mono fun h => by simp [Expr.anyPart, h])
      ((checkInputs_blames tolerated args).mono fun h => by simp [Expr.anyPart, h])
  | .test e name args => .guarded nofun <|
    .andThen ((checkNames_blames tolerated e).mono fun h => by simp [Expr.anyPart, h])
      ((checkInputs_blames tolerated args).mono fun h => by simp [Expr.anyPart, h])

theorem checkAll_blames (tolerated : Bool) : ∀ items,
    Blames (anyPartOf Expr.isUnwritable items) (checkAll tolerated items)
  | [] => .pure
  | e :: rest =>
    .andThen ((checkNames_blames tolerated e).mono fun h => by simp [anyPartOf, h])
      ((checkAll_blames tolerated rest).mono fun h => by simp [anyPartOf, h])

theorem checkEntries_blames (tolerated : Bool) : ∀ entries,
    Blames (anyPartOfEntries Expr.isUnwritable entries) (checkEntries tolerated entries)
  | [] => .pure
  | (k, e) :: rest =>
    .andThen ((checkNames_blames tolerated k).mono fun h => by simp [anyPartOfEntries, h])
      (.andThen ((checkNames_blames tolerated e).mono fun h => by simp [anyPartOfEntries, h])
        ((checkEntries_blames tolerated rest).mono fun h => by simp [anyPartOfEntries, h]))

theorem checkChain_blames (tolerated : Bool) : ∀ rest,
    Blames (anyPartOfChain Expr.isUnwritable rest) (checkChain tolerated rest)
  | [] => .pure
  | (_, e) :: rest =>
    .andThen ((checkNames_blames tolerated e).mono fun h => by simp [anyPartOfChain, h])
      ((checkChain_blames tolerated rest).mono fun h => by simp [anyPartOfChain, h])

theorem checkNamed_blames (tolerated : Bool) : ∀ named,
    Blames (anyPartOfNamed Expr.isUnwritable named) (checkNamed tolerated named)
  | [] => .pure
  | (_, e) :: rest =>
    .andThen ((checkNames_blames tolerated e).mono fun h => by simp [anyPartOfNamed, h])
      ((checkNamed_blames tolerated rest).mono fun h => by simp [anyPartOfNamed, h])

theorem checkOption_blames (tolerated : Bool) : ∀ e?,
    Blames (anyPartOfOption Expr.isUnwritable e?) (checkOption tolerated e?)
  | none => .pure
  | some e => checkNames_blames tolerated e

theorem checkInputs_blames (tolerated : Bool) : ∀ args,
    Blames (anyPartOfInputs Expr.isUnwritable args) (checkInputs tolerated args)
  | .mk positional named rest namedRest =>
    .andThen ((checkAll_blames tolerated positional).mono fun h => by simp [anyPartOfInputs, h])
      (.andThen ((checkNamed_blames tolerated named).mono fun h => by simp [anyPartOfInputs, h])
        (.andThen ((checkOption_blames tolerated rest).mono fun h => by simp [anyPartOfInputs, h])
          ((checkOption_blames tolerated namedRest).mono fun h => by simp [anyPartOfInputs, h])))

end

/-! ## What a breakdown points at -/

/-- What is wrong with a text whose compilation ends in a fault. -/
inductive Culprit (s : String) : Fault → Prop where
  /-- The tokens break off at a number of the text that has no value. -/
  | number {f : Fault} (hbroken : .broken (.fault f) ∈ tokens s)
      (h : UnreadableNumber (uniformLines s.toList) f) : Culprit s f
  /-- A token of the text lies too deep to be read. -/
  | depth (h : Crowded (tokens s)) : Culprit s .tooDeep
  /-- The tree is too high to be folded. -/
  | height {e : Expr} (hread : parse s = .ok e) (h : heightLimit < e.height) : Culprit s .tooDeep
  /-- A mapping has a key that is not plain, or joined texts a part that is not. -/
  | constant {e : Expr} {f : Fault} (hread : parse s = .ok e)
      (h : e.anyPart (Expr.isRisky f) = true) : Culprit s f
  /-- A constant that the expression is folded to holds an integer too long to write. -/
  | unwritable {e e' : Expr} (hread : parse s = .ok e) (hfolded : optimize e = .ok e')
      (h : e'.anyPart Expr.isUnwritable = true) : Culprit s .badValue
  /-- An argument is named twice, or a slice does not stand alone. -/
  | form {e : Expr} (hread : parse s = .ok e) (h : wellFormed e = false) : Culprit s .invalidForm
  /-- The code for the expression has too many brackets open at one place. -/
  | brackets {e e' : Expr} (hread : parse s = .ok e) (hfolded : optimize e = .ok e')
      (h : bracketLimit < e'.brackets) : Culprit s .invalidForm

theorem compile_culprit {s : String} {f : Fault} (h : Program.compile s = .error (.fault f)) :
    Culprit s f := by
  unfold Program.compile at h
  obtain hread | ⟨e, hread, h⟩ := bind_eq_error h
  · obtain hbroken | ⟨rfl, hdepth⟩ := parse_fault hread
    · exact .number hbroken (unreadable_of_mem_tokens hbroken)
    · exact .depth hdepth
  split at h
  · next hheight =>
      obtain rfl := SyntaxIssue.fault.inj (Except.error.inj h)
      exact .height hread hheight
  obtain hfolded | ⟨e', hfolded, h⟩ := bind_eq_error h
  · refine .constant hread ?_
    by_contra hsound
    exact (optimize_spares e (Bool.eq_false_iff.mpr hsound)).avoids hfolded
  obtain hnames | ⟨u, -, h⟩ := bind_eq_error h
  · obtain ⟨rfl, hunwritable⟩ := checkNames_blames false e' f hnames
    exact .unwritable hread hfolded hunwritable
  split at h
  · cases h
  · next hfit =>
      obtain rfl := SyntaxIssue.fault.inj (Except.error.inj h)
      cases hform : wellFormed e with
      | false => exact .form hread hform
      | true =>
          refine .brackets hread hfolded ?_
          simpa [optimize_wellFormed e hform e' hfolded] using hfit

end ClusterDiscovery.Expression
