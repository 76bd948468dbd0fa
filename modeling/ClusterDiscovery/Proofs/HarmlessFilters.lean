import ClusterDiscovery.Expression.Lazies
import ClusterDiscovery.Proofs.HarmlessCalls

/-! # Filters and tests that leave collections as they are

No filter and no test changes a collection, and neither does drawing from a lazy sequence. They
call each other back to some depth, so all of them are shown for one depth from the one below.
-/

namespace ClusterDiscovery.Expression

/-! ## Filters -/

@[grind .]
theorem numberFilter?_harmless {name : String} {v : Value} {args : Arguments} {r : Run Value}
    (h : numberFilter? name v args = some r) : Harmless r := by
  have hround : Harmless (roundFilter args v) := by
    unfold roundFilter
    refine (Harmless.lift _).bind fun bound => ?_
    split
    · refine Harmless.get.bind fun store => ?_
      grind
    · exact .throw _
  unfold numberFilter? at h
  grind

@[grind .]
theorem softText_harmless (v : Value) : Harmless (softText v) := by
  unfold softText
  grind

@[grind .]
theorem truncated_harmless (args : Arguments) (v : Value) : Harmless (truncated args v) := by
  unfold truncated
  refine (Harmless.lift _).bind fun bound => ?_
  split
  · refine Harmless.get.bind fun store => (Harmless.lift _).bind fun tailSize => ?_
    refine (Harmless.lift _).bind fun _ => (Harmless.lift _).bind fun _ => ?_
    refine (add_harmless _ _).bind fun longest => ?_
    grind
  · exact .throw _

@[grind .]
theorem replaced_harmless (args : Arguments) (v : Value) : Harmless (replaced args v) := by
  unfold replaced
  refine (Harmless.lift _).bind fun bound => ?_
  split
  · grind
  · exact .throw _

@[grind .]
theorem filledFormat_harmless (args : Arguments) (v : Value) : Harmless (filledFormat args v) := by
  unfold filledFormat
  grind

theorem textFilter?_harmless {e : Engine} (he : e.IsHarmless) {name : String} {v : Value}
    {args : Arguments} {r : Run Value} (h : textFilter? e name v args = some r) :
    Harmless r := by
  have hnext := he.next
  unfold textFilter? at h
  simp only at h
  split at h
  case h_16 =>
    cases h
    refine (Harmless.lift _).bind fun bound => ?_
    split
    · split
      all_goals
        refine Harmless.bind ?_ fun steps => Harmless.get.bind fun store => ?_
        · grind
        · refine (Harmless.lift _).bind fun separator => (iterate_harmless v).bind fun id => ?_
          refine (drain_harmless (fun id => (hnext id).bind fun drawn => ?_) _ _).bind
            fun parts => .pure _
          grind
    · exact .throw _
  case h_17 =>
    cases h
    refine (Harmless.lift _).bind fun bound => ?_
    split
    · split
      all_goals grind
    · exact .throw _
  all_goals grind

/-! ## Filters on sequences -/

@[grind ←]
theorem firstOf_harmless {e : Engine} (he : e.IsHarmless) (v : Value) :
    Harmless (firstOf e v) := by
  have hnext := he.next
  unfold firstOf
  grind

@[grind .]
theorem lastOf_harmless (v : Value) : Harmless (lastOf v) := by
  unfold lastOf
  grind

@[grind ←]
theorem reversed_harmless {e : Engine} (he : e.IsHarmless) (v : Value) :
    Harmless (reversed e v) := by
  unfold reversed
  grind

theorem extreme_go_harmless {e : Engine} (he : e.IsHarmless) (better : Order)
    (path : List Value) (caseSensitive : Bool) (id : ObjectId) (fuel : Nat) (best bestKey : Value) :
    Harmless (extreme.go better e path caseSensitive id fuel best bestKey) := by
  have hnext := he.next id
  induction fuel generalizing best bestKey with
  | zero => exact .throw _
  | succ fuel ih =>
      unfold extreme.go
      refine hnext.bind fun drawn => ?_
      cases drawn with
      | none => exact .pure best
      | some x =>
          refine (keyOf_harmless _ _ _ x).bind fun key => Harmless.get.bind fun store => ?_
          refine (Harmless.lift _).bind fun isBetter => ?_
          split
          · exact ih x key
          · exact ih best bestKey

@[grind ←]
theorem extremeFilter_harmless {e : Engine} (he : e.IsHarmless) (better : Order)
    (args : Arguments) (v : Value) : Harmless (extremeFilter better e args v) := by
  have hnext := he.next
  have hgo := extreme_go_harmless he better
  unfold extremeFilter extreme
  refine (Harmless.lift _).bind fun bound => ?_
  split
  · refine (Harmless.lift _).bind fun path => Harmless.get.bind fun store => ?_
    grind
  · exact .throw _

theorem sumFilter_go_harmless {e : Engine} (he : e.IsHarmless) (path : List Value)
    (id : ObjectId) (fuel : Nat) (total : Value) :
    Harmless (sumFilter.go e path id fuel total) := by
  have hnext := he.next id
  induction fuel generalizing total with
  | zero => exact .throw _
  | succ fuel ih =>
      unfold sumFilter.go
      refine hnext.bind fun drawn => ?_
      cases drawn with
      | none => exact .pure total
      | some x =>
          refine (followSteps_harmless _ _ x).bind fun part => ?_
          exact (add_harmless total part).bind fun sum => ih sum

@[grind ←]
theorem sumFilter_harmless {e : Engine} (he : e.IsHarmless) (args : Arguments) (v : Value) :
    Harmless (sumFilter e args v) := by
  have hgo := sumFilter_go_harmless he
  unfold sumFilter
  refine (Harmless.lift _).bind fun bound => ?_
  split
  · refine (Harmless.lift _).bind fun path => (iterate_harmless v).bind fun id => ?_
    grind
  · exact .throw _

@[grind ←]
theorem sortFilter_harmless {e : Engine} (he : e.IsHarmless) (args : Arguments) (v : Value) :
    Harmless (sortFilter e args v) := by
  unfold sortFilter
  refine (Harmless.lift _).bind fun bound => ?_
  split
  · refine (Harmless.lift _).bind fun paths => Harmless.get.bind fun store => ?_
    refine (itemsOf_harmless he v).bind fun items => (Harmless.lift _).bind fun _ => ?_
    refine (Harmless.mapM (fun x => ?_) items).bind fun keyed => ?_
    · exact (Harmless.mapM (fun path => keyOf_harmless _ _ _ _) paths).bind fun keys => .pure _
    · grind
  · exact .throw _

@[grind .]
theorem entriesOfMap_harmless (v : Value) : Harmless (entriesOfMap v) := by
  unfold entriesOfMap
  grind

@[grind .]
theorem dictsortFilter_harmless (args : Arguments) (v : Value) :
    Harmless (dictsortFilter args v) := by
  unfold dictsortFilter
  refine (Harmless.lift _).bind fun bound => ?_
  split
  · extract_lets proceed
    have hproceed (byKey : Bool) : Harmless (proceed byKey) := by
      refine Harmless.get.bind fun store => (entriesOfMap_harmless v).bind fun entries => ?_
      grind
    clear_value proceed
    grind
  · exact .throw _

@[grind ←]
theorem groupFilter_harmless {e : Engine} (he : e.IsHarmless) (args : Arguments) (v : Value) :
    Harmless (groupFilter e args v) := by
  unfold groupFilter
  refine (Harmless.lift _).bind fun bound => ?_
  split
  · refine (Harmless.lift _).bind fun path => Harmless.get.bind fun store => ?_
    refine (itemsOf_harmless he v).bind fun items => ?_
    refine (Harmless.mapM (fun x => ?_) items).bind fun keyed => Harmless.get.bind fun _ => ?_
    · exact (keyOf_harmless _ _ _ _).bind fun key => .pure _
    · refine (Harmless.lift _).bind fun sorted => Harmless.get.bind fun _ => ?_
      refine (Harmless.lift _).bind fun groups => ?_
      refine (Harmless.mapM (fun members => ?_) groups).bind fun _ => .allocList _
      grind
  · exact .throw _

@[grind .]
theorem attrFilter_harmless (args : Arguments) (v : Value) : Harmless (attrFilter args v) := by
  unfold attrFilter
  refine (Harmless.lift _).bind fun bound => ?_
  split
  · grind
  · exact .throw _

@[grind .]
theorem defaultFilter_harmless (args : Arguments) (v : Value) :
    Harmless (defaultFilter args v) := by
  unfold defaultFilter
  grind

@[grind .]
theorem lazily_harmless (state : Lazy) : Harmless (lazily state) := .alloc _

theorem sequenceFilter?_harmless {e : Engine} (he : e.IsHarmless) {name : String} {v : Value}
    {args : Arguments} {r : Run Value} (h : sequenceFilter? e name v args = some r) :
    Harmless r := by
  unfold sequenceFilter? at h
  simp only at h
  split at h
  all_goals grind

/-! ## Tests -/

@[grind .]
theorem remainderIs_harmless (v divisor : Value) (wanted : Int) :
    Harmless (remainderIs v divisor wanted) := by
  unfold remainderIs
  grind

theorem runTest?_harmless {e : Engine} (he : e.IsHarmless) {name : String} {v : Value}
    {args : Arguments} {r : Run Value} (h : runTest? e name v args = some r) :
    Harmless r := by
  unfold runTest? at h
  simp only at h
  split at h
  all_goals grind

/-! ## Lazy sequences -/

theorem applyNamed_harmless {apply : String → Value → Arguments → Run Value}
    (h : ∀ name v args, Harmless (apply name v args)) (kind : String) (names : List String)
    (name v : Value) (args : Arguments) :
    Harmless (applyNamed kind names apply name v args) := by
  unfold applyNamed
  grind

section

variable {e : Engine} (he : e.IsHarmless)
include he

@[grind ←]
theorem Transform.apply_harmless (t : Transform) (v : Value) : Harmless (t.apply e v) := by
  have hnamed := applyNamed_harmless he.filter
  unfold Transform.apply
  grind

@[grind ←]
theorem Selector.accepts_harmless (s : Selector) (v : Value) : Harmless (s.accepts e v) := by
  have hnamed := applyNamed_harmless he.test
  unfold Selector.accepts
  grind

@[grind ←]
theorem startLazy_harmless (state : Lazy) : Harmless (startLazy e state) := by
  have hslices := Harmless.mapM Harmless.allocList
  unfold startLazy
  grind

@[grind ←]
theorem drawSelected_harmless (path : List Value) (selector : Selector) (keep : Bool)
    (source : ObjectId) (fuel : Nat) :
    Harmless (drawSelected e path selector keep source fuel) := by
  have hnext := he.next
  induction fuel with
  | zero => exact .throw _
  | succ fuel ih =>
      unfold drawSelected
      grind

@[grind ←]
theorem drawDistinct_harmless (path : List Value) (caseSensitive : Bool) (seen : List Value)
    (source : ObjectId) (fuel : Nat) :
    Harmless (drawDistinct e path caseSensitive seen source fuel) := by
  have hnext := he.next
  induction fuel with
  | zero => exact .throw _
  | succ fuel ih =>
      unfold drawDistinct
      grind

@[grind ←]
theorem drawBatch_harmless (size : Value) (source : ObjectId) (fuel : Nat)
    (pending : List Value) : Harmless (drawBatch e size source fuel pending) := by
  have hnext := he.next
  induction fuel generalizing pending with
  | zero => exact .throw _
  | succ fuel ih =>
      unfold drawBatch
      refine (hnext source).bind fun drawn => ?_
      cases drawn with
      | none => exact .pure _
      | some x =>
          refine Harmless.get.bind fun store => (Harmless.lift _).bind fun full => ?_
          split
          · exact .pure _
          · exact ih _

omit he in
@[grind .]
theorem filledBatch_harmless (size fill : Value) (pending : List Value) :
    Harmless (filledBatch size fill pending) := by
  unfold filledBatch
  grind

@[grind ←]
theorem stepLazy_harmless (state : Lazy) : Harmless (stepLazy e state) := by
  have hnext := he.next
  unfold stepLazy
  grind

theorem drawFrom_harmless (id : ObjectId) : Harmless (drawFrom e id) := by
  unfold drawFrom
  refine Harmless.read (fun o ho => ?_) fun o ho => ?_
  · cases o with
    | iterator type rest =>
        cases rest with
        | nil => exact .pure none
        | cons x rest => cases ho
    | generator state => cases ho
    | _ => exact .throw _
  · cases o with
    | iterator type rest =>
        cases rest with
        | nil => cases ho
        | cons x rest => exact (HarmlessBut.write _).bind fun _ => .of_harmless (.pure _)
    | generator state =>
        refine (HarmlessBut.write _).bind fun _ => ?_
        refine (HarmlessBut.of_harmless (startLazy_harmless he state)).bind fun started => ?_
        refine (HarmlessBut.of_harmless (stepLazy_harmless he started)).bind fun drawn => ?_
        exact (HarmlessBut.write _).bind fun _ => .of_harmless (.pure _)
    | _ => exact .of_harmless (.throw _)

theorem runFilter_harmless (name : String) (v : Value) (args : Arguments) :
    Harmless (runFilter e name v args) := by
  unfold runFilter
  split
  · next r hr => exact textFilter?_harmless he hr
  · split
    · next r hr => exact numberFilter?_harmless hr
    · cases hr : sequenceFilter? e name v args with
      | none => exact .throw _
      | some r => exact sequenceFilter?_harmless he hr

theorem runTest_harmless (name : String) (v : Value) (args : Arguments) :
    Harmless (runTest e name v args) := by
  unfold runTest
  cases hr : runTest? e name v args with
  | none => exact .throw _
  | some r => exact runTest?_harmless he hr

end

/-- Drawing, filters and tests leave collections as they are, however deep they call each
other. -/
theorem Engine.ofDepth_harmless (depth : Nat) : (Engine.ofDepth depth).IsHarmless := by
  induction depth with
  | zero => exact ⟨fun _ => .throw _, fun _ _ _ => .throw _, fun _ _ _ => .throw _⟩
  | succ depth ih =>
      exact ⟨drawFrom_harmless ih, runFilter_harmless ih, runTest_harmless ih⟩

end ClusterDiscovery.Expression
