import ClusterDiscovery.Expression.Calls
import ClusterDiscovery.Proofs.HarmlessOperators

/-! # Calls that leave collections as they are

Going through values, and calling them. A call changes a collection through one of a few members
only, and no other collection than the one it is a member of; everything else that is called keeps
what is settled, although iterators, lazy sequences and the counters of the library move on.
-/

namespace ClusterDiscovery.Expression

/-! ## Drawing -/

@[grind .]
theorem iterate_harmless (v : Value) : Harmless (iterate v) := by
  unfold iterate
  grind

theorem drain_harmless {next : ObjectId → Run (Option Value)} (hnext : ∀ id, Harmless (next id))
    (fuel : Nat) (id : ObjectId) : Harmless (drain next fuel id) := by
  induction fuel generalizing id with
  | zero => exact .throw _
  | succ fuel ih =>
      unfold drain
      grind

/-- Operations that leave collections as they are. What is called may do otherwise. -/
structure Engine.IsHarmless (e : Engine) : Prop where
  next : ∀ id, Harmless (e.next id)
  filter : ∀ name v args, Harmless (e.filter name v args)
  test : ∀ name v args, Harmless (e.test name v args)

section

variable {e : Engine} (he : e.IsHarmless)
include he

@[grind ←]
theorem itemsOf_harmless (v : Value) : Harmless (itemsOf e v) := by
  have hdrain (id : ObjectId) := drain_harmless he.next drawLimit id
  unfold itemsOf
  grind

@[grind ←]
theorem drawUntil_harmless (v : Value) (id : ObjectId) (fuel : Nat) :
    Harmless (drawUntil e v id fuel) := by
  have hnext := he.next id
  induction fuel with
  | zero => exact .throw _
  | succ fuel ih =>
      unfold drawUntil
      grind

@[grind ←]
theorem isIn_harmless (v whole : Value) : Harmless (isIn e v whole) := by
  unfold isIn
  grind

/-! ## Methods of collections -/

@[grind ←]
theorem pairOf_harmless (v : Value) : Harmless (pairOf e v) := by
  unfold pairOf
  grind

@[grind ←]
theorem entriesOf_harmless (v : Value) : Harmless (entriesOf e v) := by
  unfold entriesOf
  have := Harmless.mapM (pairOf_harmless he)
  grind

@[grind ←]
theorem gathered_harmless (start : List (Value × Value)) (args : Arguments) :
    Harmless (gathered e start args) := by
  unfold gathered
  grind

@[grind ←]
theorem mapFromKeys_harmless (args : Arguments) : Harmless (mapFromKeys e args) := by
  unfold mapFromKeys
  grind

end

@[grind .]
theorem callRangeMethod_harmless (items : List Value) (name : String) (args : Arguments) :
    Harmless (callRangeMethod items name args) := by
  unfold callRangeMethod
  grind

@[grind .]
theorem callSequenceMethod_harmless (items : List Value) (name : String) (args : Arguments) :
    Harmless (callSequenceMethod items name args) := by
  unfold callSequenceMethod
  grind

/-- The members of lists and mappings that change them. -/
def changingMembers : List String :=
  ["append", "clear", "extend", "insert", "pop", "popitem", "remove", "reverse", "setdefault",
    "sort", "update"]

theorem callListMethod_harmless (e : Engine) (id : ObjectId) (items : List Value) {name : String}
    (h : name ∉ changingMembers) (args : Arguments) :
    Harmless (callListMethod e id items name args) := by
  simp only [changingMembers, List.mem_cons, not_or] at h
  unfold callListMethod
  refine Harmless.get.bind fun store => ?_
  simp only
  split
  all_goals grind

theorem callMapMethod_harmless {e : Engine} (he : e.IsHarmless) (id : ObjectId)
    (entries : List (Value × Value)) {name : String} (h : name ∉ changingMembers)
    (args : Arguments) :
    Harmless (callMapMethod e id entries name args) := by
  simp only [changingMembers, List.mem_cons, not_or] at h
  unfold callMapMethod
  refine Harmless.get.bind fun store => ?_
  simp only
  split
  all_goals grind

/-- Whether a sort is given a key, which may be anything that can be called. -/
def Arguments.hasKey (args : Arguments) : Bool := args.named.any fun entry => entry.1 == "key"

theorem sort_keyless {args : Arguments} (hpositional : args.positional = [])
    (h : args.hasKey = false) {bound : List (Option Value)}
    (hbound : (⟨[], ["key", "reverse"]⟩ : Signature).bind args = .ok bound) :
    ∃ descending, bound = [none, descending] := by
  obtain ⟨positional, named⟩ := args
  cases hpositional
  have hkey : (named.find? fun entry => entry.1 == "key") = none := by
    simpa [Arguments.hasKey] using h
  simp only [Signature.bind] at hbound
  split at hbound
  · cases hbound
  · split at hbound
    · cases hbound
    · simp [Signature.names, hkey] at hbound
      cases hbound
      exact ⟨_, rfl⟩

/-- A member of a list changes that list at most, unless it sorts by a key. -/
theorem callListMethod_harmlessBut {e : Engine} (he : e.IsHarmless) (id : ObjectId)
    (items : List Value) {name : String} {args : Arguments}
    (h : name = "sort" → args.hasKey = false) :
    HarmlessBut id (callListMethod e id items name args) := by
  have hitems (v : Value) : HarmlessBut id (itemsOf e v) := .of_harmless (itemsOf_harmless he v)
  have hput (v : Value) (items : List Value) : HarmlessBut id (do
      let _ ← (do
        Run.write id (.list items)
        return Value.null : Run Value)
      return v) :=
    ((HarmlessBut.write _).bind fun _ => .pure _).bind fun _ => .pure v
  unfold callListMethod
  refine HarmlessBut.get.bind fun store => ?_
  simp only
  split
  case h_5 =>
    refine (HarmlessBut.lift _).bind fun bound => ?_
    split
    · refine (HarmlessBut.lift _).bind fun i => ?_
      split
      · exact .throw _
      · exact (HarmlessBut.lift _).bind fun v => hput v _
    · exact .throw _
  case h_11 =>
    split
    · exact HarmlessBut.throw Fault.wrongType
    · next hpositional =>
        refine .lift_bind fun bound hbound => ?_
        obtain ⟨descending, rfl⟩ := sort_keyless (by simpa using hpositional) (h rfl) hbound
        have hplain : Harmless (items.mapM fun v => (pure (v, v) : Run (Value × Value))) :=
          .mapM (fun v => .pure (v, v)) items
        refine (HarmlessBut.lift _).bind fun _ => (HarmlessBut.of_harmless hplain).bind ?_
        grind
  all_goals grind

/-- A member of a mapping changes that mapping at most. -/
theorem callMapMethod_harmlessBut {e : Engine} (he : e.IsHarmless) (id : ObjectId)
    (entries : List (Value × Value)) (name : String) (args : Arguments) :
    HarmlessBut id (callMapMethod e id entries name args) := by
  have hkeys : HarmlessBut id (mapFromKeys e args) := .of_harmless (mapFromKeys_harmless he args)
  have hentries (v : Value) : HarmlessBut id (entriesOf e v) :=
    .of_harmless (entriesOf_harmless he v)
  unfold callMapMethod
  refine HarmlessBut.get.bind fun store => ?_
  simp only
  split
  case h_3 =>
    refine (HarmlessBut.lift _).bind fun bound => ?_
    split
    · refine (HarmlessBut.lift _).bind fun found => ?_
      split
      · grind
      · exact .pure _
      · exact .throw _
    · exact .throw _
  all_goals grind

/-! ## Methods of texts -/

@[grind .]
theorem giveList_harmless (r : TextReceiver) (pieces : List (List Char)) :
    Harmless (r.giveList pieces) := by
  unfold TextReceiver.giveList
  grind

@[grind .]
theorem splitWith_harmless (pieces : List Char → Option Nat → List Char → List (List Char))
    (blanks : Option Nat → List Char → List (List Char)) (r : TextReceiver) (args : Arguments) :
    Harmless (splitWith pieces blanks r args) := by
  unfold splitWith
  grind

@[grind .]
theorem translated_harmless (table : Value) (c : Char) : Harmless (translated table c) := by
  unfold translated
  grind

@[grind .]
theorem translationTable_harmless (args : Arguments) : Harmless (translationTable args) := by
  unfold translationTable
  refine (Harmless.lift _).bind fun bound => ?_
  split
  · refine Harmless.get.bind fun store => ?_
    simp only
    split
    · split
      · exact .throw _
      · refine (Harmless.mapM (fun entry => ?_) _).bind fun entries => .alloc _
        grind
    · refine (Harmless.lift _).bind fun xs => (Harmless.lift _).bind fun ys => ?_
      grind
  · exact .throw _

@[grind .]
theorem joinedItems_harmless (r : TextReceiver) (items : List Value) :
    Harmless (joinedItems r items) := by
  unfold joinedItems
  grind

@[grind ←]
theorem callTextMethod_harmless {e : Engine} (he : e.IsHarmless) (r : TextReceiver)
    (name : String) (args : Arguments) : Harmless (callTextMethod e r name args) := by
  have htranslated (table : Value) := Harmless.mapM (translated_harmless table)
  unfold callTextMethod
  split
  · grind
  · grind
  · split
    all_goals grind

/-! ## Calls -/

@[grind .]
theorem callFunction_harmless {e : Engine} (he : e.IsHarmless) (name : String) (args : Arguments) :
    Harmless (callFunction e name args) := by
  unfold callFunction
  grind

theorem callObjectMethod_settled (e : Engine) (id : ObjectId) {o : Object}
    (h : o.isSettled = true) (name : String) (args : Arguments) :
    Harmless (callObjectMethod e id o name args) := by
  unfold callObjectMethod
  refine (Harmless.lift _).bind fun _ => ?_
  split
  · cases h
  · cases h
  · cases h
  · cases h
  · exact .throw _

theorem callObjectMethod_harmlessBut {e : Engine} (he : e.IsHarmless) (id : ObjectId) (o : Object)
    (name : String) (args : Arguments) : HarmlessBut id (callObjectMethod e id o name args) := by
  unfold callObjectMethod
  refine (HarmlessBut.lift _).bind fun _ => ?_
  split
  · exact (HarmlessBut.write _).bind fun _ => .pure _
  · exact (HarmlessBut.write _).bind fun _ => .pure _
  · exact (HarmlessBut.write _).bind fun _ => .pure _
  · have hnext := he.next id
    refine .of_harmless (hnext.bind fun drawn => ?_)
    cases drawn with
    | none => exact .pure _
    | some v => exact .pure v
  · exact .throw _

theorem callMethod_harmless {e : Engine} (he : e.IsHarmless) (receiver : Value) {name : String}
    (h : ∀ id, receiver = .ref id → name ∉ changingMembers) (args : Arguments) :
    Harmless (callMethod e receiver name args) := by
  unfold callMethod
  split
  case h_11 id =>
    refine Harmless.read (fun o ho => ?_) fun o ho => ?_
    · cases o with
      | list items => exact callListMethod_harmless e id items (h id rfl) args
      | map entries => exact callMapMethod_harmless he id entries (h id rfl) args
      | _ => exact callObjectMethod_settled e id ho name args
    · cases o with
      | list items => cases ho
      | map entries => cases ho
      | _ => exact callObjectMethod_harmlessBut he id _ name args
  all_goals grind

theorem callMethod_harmlessBut {e : Engine} (he : e.IsHarmless) (id : ObjectId) {name : String}
    {args : Arguments} (h : name = "sort" → args.hasKey = false) :
    HarmlessBut id (callMethod e (.ref id) name args) := by
  refine .read fun o => ?_
  cases o with
  | list items => exact callListMethod_harmlessBut he id items h
  | map entries => exact callMapMethod_harmlessBut he id entries name args
  | _ => exact callObjectMethod_harmlessBut he id _ name args

/-! ## Calls that endanger objects -/

/-- Settled objects among the first of a store are in their places in another. -/
def KeepsFirst (count : Nat) (store after : Store) : Prop := ∀ id < count, ∀ o : Object,
  store[id]? = some o → o.isSettled = true → after[id]? = some o

theorem KeepsFirst.trans {count : Nat} {first second third : Store}
    (h : KeepsFirst count first second) (h' : KeepsFirst count second third) :
    KeepsFirst count first third :=
  fun id hid o ho hsettled => h' id hid o (h id hid o ho hsettled) hsettled

/-- All objects of a store are its first ones. -/
theorem KeepsFirst.keeps {store after : Store} (h : KeepsFirst store.size store after) :
    Keeps store after := by
  intro id o ho hsettled
  exact h id (Array.getElem?_eq_some_iff.mp ho).1 o ho hsettled

section

variable {α : Type} {r : Run α} {count : Nat}

theorem Harmless.keepsFirst (h : Harmless r) (store : Store) :
    KeepsFirst count store (leftBy (r.run store)) := fun id _ o ho => h store id o ho

theorem HarmlessBut.keepsFirst {id : ObjectId} (h : HarmlessBut id r) (hid : count ≤ id)
    (store : Store) : KeepsFirst count store (leftBy (r.run store)) :=
  fun place hplace o ho => h store place o (Nat.ne_of_lt (Nat.lt_of_lt_of_le hplace hid)) ho

end

/-- A call that an evaluation makes. -/
structure Call where
  callee : Value
  arguments : Arguments

/-- Whether a call may change one of the first objects of a store. The call is that of a changing
member on one of them, or that of a sort by a key, which may change anything. -/
def Call.endangers (call : Call) (count : Nat) : Bool :=
  match call.callee, call.arguments.positional with
  | .method (.ref id) name, _ =>
    changingMembers.contains name && (id < count || name == "sort" && call.arguments.hasKey)
  | .unbound _ name, .ref id :: _ => changingMembers.contains name && id < count
  | _, _ => false

theorem callValue_keepsFirst {e : Engine} (he : e.IsHarmless) {call : Call} {count : Nat}
    (h : call.endangers count = false) (store : Store) :
    KeepsFirst count store (leftBy ((callValue e call.callee call.arguments).run store)) := by
  obtain ⟨callee, args⟩ := call
  unfold callValue
  simp only
  split
  · exact (Harmless.throw _).keepsFirst store
  · next receiver name =>
      by_cases hsafe : ∀ id, receiver = .ref id → name ∉ changingMembers
      · exact (callMethod_harmless he receiver hsafe args).keepsFirst store
      · obtain ⟨id, rfl, hname⟩ : ∃ id, receiver = .ref id ∧ name ∈ changingMembers := by
          simpa using hsafe
        obtain ⟨hid, hsort⟩ : count ≤ id ∧ (name = "sort" → args.hasKey = false) := by
          simpa [Call.endangers, hname] using h
        exact (callMethod_harmlessBut he id hsort).keepsFirst hid store
  · exact (callFunction_harmless he _ args).keepsFirst store
  · next type name =>
      split
      · next id rest hpositional =>
          by_cases hname : name ∈ changingMembers
          · have hid : count ≤ id := by
              simpa [Call.endangers, hname, hpositional] using h
            refine (HarmlessBut.read fun o => ?_).keepsFirst hid store
            cases o with
            | map entries => exact callMapMethod_harmlessBut he id entries name _
            | _ => exact .throw _
          · refine Harmless.keepsFirst (Harmless.read (fun o ho => ?_) fun o ho => ?_) store
            · cases o with
              | map entries => exact callMapMethod_harmless he id entries hname _
              | _ => exact .throw _
            · cases o with
              | map entries => cases ho
              | _ => exact .throw _
      · exact (Harmless.throw _).keepsFirst store
  · next id =>
      refine Harmless.keepsFirst (Harmless.read (fun o ho => ?_) fun o ho => ?_) store
      · cases o with
        | joiner separator used => cases ho
        | _ => exact .throw _
      · cases o with
        | joiner separator used =>
            exact (HarmlessBut.lift _).bind fun _ => (HarmlessBut.write _).bind fun _ => .pure _
        | _ => exact .throw _
  · exact (Harmless.throw _).keepsFirst store

end ClusterDiscovery.Expression
