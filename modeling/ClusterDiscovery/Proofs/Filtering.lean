import ClusterDiscovery.Proofs.LoadedServices

/-! # The outcome of a filter

A filter looks at one service at a time. Taking the service into the store and building its scope
always succeed, so a filter can fail through the evaluation of its expression only. Most faults
of an evaluation mean that the service does not match. The remaining ones are listed below: they
end the listing.
-/

namespace ClusterDiscovery

open Expression

/-! ## The scope of a service -/

/-- Where an entry is false, something empty is allocated. -/
theorem serviceEntryOr_ok (entries : List (Datum × Value)) (name : String) (o : Object)
    (store : Store) :
    ∃ v after, (serviceEntryOr entries name (Run.alloc o)).run store = .ok v after ∧
      Grows store after := by
  unfold serviceEntryOr
  rw [run_get_bind]
  cases truthy store (serviceEntry entries name) with
  | true => exact ⟨_, _, rfl, .refl _⟩
  | false => exact ⟨_, _, rfl, grows_push _ _⟩

/-- The scope of a service always exists. Its labels are those that stand in the service, or
empty. -/
theorem serviceScope_ok (entries : List (Datum × Value)) (store : Store) :
    ∃ scope after labels middle, (serviceScope entries).run store = .ok scope after ∧
      (serviceEntryOr entries "labels" (Run.alloc (.map []))).run store = .ok labels middle ∧
      Grows middle after ∧ scope.lookup "labels" = labels := by
  obtain ⟨labels, s₁, h₁, -⟩ := serviceEntryOr_ok entries "labels" (.map []) store
  obtain ⟨annotations, s₂, h₂, hgrows₂⟩ := serviceEntryOr_ok entries "annotations" (.map []) s₁
  obtain ⟨ports, s₃, h₃, hgrows₃⟩ := serviceEntryOr_ok entries "ports" (.list []) s₂
  exact ⟨_, _, labels, s₁, (run_bind_of_ok h₁).trans <| (run_bind_of_ok h₂).trans <|
    (run_bind_of_ok h₃).trans <| run_bind_of_ok (run_alloc _ s₃), h₁,
    (hgrows₂.trans hgrows₃).trans (grows_push _ _), rfl⟩

/-- What an expression sees of a service, and the store that it sees it in. -/
def scopeFor (service : Datum) : Run Scope := do serviceScope (← loadService service)

theorem scopeFor_ok (service : List (Datum × Datum)) :
    ∃ scope after, (scopeFor (.map service)).run #[] = .ok scope after := by
  obtain ⟨entries, middle, hload, -⟩ := loadValues_ok service #[]
  obtain ⟨scope, after, -, -, hscope, -⟩ := serviceScope_ok entries middle
  exact ⟨scope, after, (run_bind_of_ok hload).trans hscope⟩

/-! ## From an evaluation to an answer -/

/-- The faults that a filter passes on. -/
def uncaughtFaults : List Fault :=
  [.unknownEncoding, .divisionByZero, .tooLarge, .unspellableNumber, .unmetCondition,
    .invalidForm, .tooDeep, .badState]

theorem Fault.meansNoMatch_eq_false {fault : Fault} :
    fault.meansNoMatch = false ↔ fault ∈ uncaughtFaults := by
  cases fault <;> simp [Fault.meansNoMatch, uncaughtFaults]

namespace ServiceFilter

/-- The truth value of a result. Null and undefined values are false. -/
def verdict (store : Store) : Value → Bool
  | .null => false
  | .undefined _ => false
  | v => truthy store v

/-- What the evaluation of an expression on a service means for the service, and what is
reported. -/
def judged : EStateM.Result Fault Store Value → Except Fault Bool × List LogEntry
  | .ok v after => (.ok (verdict after v), [])
  | .error fault _ =>
    if fault ∈ uncaughtFaults then (.error fault, []) else (.ok false, [noMatch])

/-- An undefined value stands for null. -/
def nullForUndefined : Value → Value
  | .undefined _ => .null
  | v => v

theorem valueOn_ok {program : Program} {entries : List (Datum × Value)} {v : Value}
    {scope : Scope} {middle store after : Store}
    (hscope : (serviceScope entries).run middle = .ok scope store)
    (heval : (evaluate scope program.body).run store = .ok v after) :
    (valueOn program entries).run middle = .ok (nullForUndefined v) after := by
  refine (run_bind_of_ok hscope).trans ((run_bind_of_ok heval).trans ?_)
  cases v <;> rfl

/-- The answer to a service is the judgement on the evaluation in the scope of the service. -/
theorem accepts_eq_judged {f : ServiceFilter} {program : Program} (h : f.program = some program)
    {service : List (Datum × Datum)} {scope : Scope} {store : Store}
    (hscope : (scopeFor (.map service)).run #[] = .ok scope store) :
    ((f.accepts (.map service)).1.result, (f.accepts (.map service)).2) =
      judged ((evaluate scope program.body).run store) := by
  obtain ⟨entries, middle, hload, -⟩ := loadValues_ok service #[]
  have hscope : (serviceScope entries).run middle = .ok scope store :=
    (run_bind_of_ok hload).symm.trans hscope
  cases heval : (evaluate scope program.body).run store with
  | error fault after =>
      have hvalue : (valueOn program entries).run middle = .error fault after :=
        (run_bind_of_ok hscope).trans (run_bind_of_error heval)
      simp only [accepts, h, onService, loadService, hload, run_bind_of_error hvalue, judged,
        ← Fault.meansNoMatch_eq_false]
      cases hno : fault.meansNoMatch <;> simp
  | ok v after =>
      have hvalue := valueOn_ok hscope heval
      simp only [accepts, h, onService, loadService, hload, run_bind_of_ok hvalue, judged]
      cases v <;> rfl

theorem ofExpression_blank {text : String} (h : (Text.trim text).isEmpty) :
    ofExpression (some text) = .ok ⟨none, none⟩ := by
  simp [ofExpression, nonBlank, h]

theorem program_of_ofExpression {text : String} {f : ServiceFilter}
    (h : ofExpression (some text) = .ok f) (nonempty : (Text.trim text).isEmpty = false) :
    ∃ program, compileExpression text = .ok program ∧ f.program = some program := by
  simp only [ofExpression, Option.bind_some, nonBlank, nonempty, Bool.false_eq_true,
    if_false] at h
  cases hcompile : compileExpression text with
  | error failure =>
      rw [hcompile] at h
      cases h
  | ok program =>
      rw [hcompile] at h
      cases h
      exact ⟨program, rfl, rfl⟩

/-- What a filter with an expression answers to a service. A blank expression accepts everything.
Any other is evaluated in the scope of the service, which always exists, and the evaluation alone
decides: its value is the answer, most of its faults mean no, and the remaining ones are passed
on. An answer is given exactly when the evaluation does not end in one of these. -/
theorem accepts_of_expression {text : String} {f : ServiceFilter}
    (h : ofExpression (some text) = .ok f) (service : List (Datum × Datum)) :
    if (Text.trim text).isEmpty then f.accepts (.map service) = (⟨.ok true, .map service⟩, [])
    else ∃ program scope store, compileExpression text = .ok program ∧
      (scopeFor (.map service)).run #[] = .ok scope store ∧
      ((f.accepts (.map service)).1.result, (f.accepts (.map service)).2) =
        judged ((evaluate scope program.body).run store) ∧
      ((∃ answer, (f.accepts (.map service)).1.result = .ok answer) ↔
        ∀ fault after, (evaluate scope program.body).run store = .error fault after →
          fault ∉ uncaughtFaults) := by
  split
  · next blank =>
      rw [ofExpression_blank blank] at h
      cases h
      rfl
  · next nonempty =>
      obtain ⟨program, hcompile, hprogram⟩ :=
        program_of_ofExpression h (Bool.eq_false_iff.mpr nonempty)
      obtain ⟨scope, store, hscope⟩ := scopeFor_ok service
      have hjudged := accepts_eq_judged hprogram hscope
      refine ⟨program, scope, store, hcompile, hscope, hjudged, ?_⟩
      have hresult := congrArg Prod.fst hjudged
      cases heval : (evaluate scope program.body).run store with
      | ok v after => simp_all [judged]
      | error fault after => by_cases hfault : fault ∈ uncaughtFaults <;> simp_all [judged]

def bareService : List (Datum × Datum) := [(.text "name", .text "bare")]

/-- Whether a text compiles and then divides by zero on a service. -/
def dividesByZero (text : String) (service : List (Datum × Datum)) : Bool :=
  match compileExpression text, (scopeFor (.map service)).run #[] with
  | .ok program, .ok scope store =>
    match (evaluate scope program.body).run store with
    | .error fault _ => fault == .divisionByZero
    | .ok _ _ => false
  | _, _ => false

/-- A division by the number of ports ends the listing at a service without ports. -/
theorem remainder_by_no_ports :
    ∃ f, ofExpression (some "10 % ports|length") = .ok f ∧
      (f.accepts (.map bareService)).1.result = .error .divisionByZero := by
  have hblank : (Text.trim "10 % ports|length").isEmpty = false := by decide +kernel
  have heval : dividesByZero "10 % ports|length" bareService = true := by decide +kernel
  unfold dividesByZero at heval
  cases hcompile : compileExpression "10 % ports|length" with
  | error failure => simp [hcompile] at heval
  | ok program =>
      have hfilter : ofExpression (some "10 % ports|length") =
          .ok ⟨some "10 % ports|length", some program⟩ := by
        simp [ofExpression, nonBlank, hblank, hcompile, bind, Except.bind, pure, Except.pure]
      have h := accepts_of_expression hfilter bareService
      simp only [hblank, Bool.false_eq_true, if_false] at h
      obtain ⟨program', scope, store, hcompile', hscope, hjudged, -⟩ := h
      refine ⟨_, hfilter, ?_⟩
      rw [hcompile] at hcompile'
      cases hcompile'
      simp only [hcompile, hscope] at heval
      cases hrun : (evaluate scope program.body).run store with
      | ok v after => simp [hrun] at heval
      | error fault after =>
          have hfault : fault = .divisionByZero := by simpa [hrun] using heval
          rw [hrun, hfault] at hjudged
          exact congrArg Prod.fst hjudged

end ServiceFilter

end ClusterDiscovery
