import ClusterDiscovery.Proofs.LabelProgram
import ClusterDiscovery.Proofs.RejectedTexts
import Mathlib.Data.List.Nodup

/-! # Selection by labels

A service can be selected by an expression over its labels, or by labels that the listing
demands. On services with labels both select the same services, in the same order, unless there
are more labels than an expression can ask for.
-/

namespace ClusterDiscovery

open Datum Resource Expression ClusterDiscovery.Action

/-- Whether labels hold a value under a key. -/
def holdsLabel (labels : List (String × String)) (label : String × String) : Bool :=
  labels.lookup label.1 == some label.2

/-! ## Labels in a store -/

section Store

variable {store : Store} {id : ObjectId} {labels : List (String × String)}

theorem lookup?_textPairs (store : Store) (labels : List (String × String)) (key : String) :
    Expression.lookup? store (labels.map textPair) (.text key) =
      .ok ((labels.lookup key).map .text) := by
  change entryWith? (fun k => equal store k (.text key)) (labels.map textPair) = _
  induction labels with
  | nil => rfl
  | cons label rest ih =>
      have hequal : equal store (.text label.1) (.text key) = .ok (key == label.1) := by
        rw [BEq.comm]
        rfl
      rw [List.map_cons, textPair, entryWith?, hequal, List.lookup_cons]
      cases key == label.1 with
      | true => rfl
      | false => exact ih

theorem subscript_textPairs (held : store[id]? = some (.map (labels.map textPair)))
    (key : String) :
    (subscript (.ref id) (.text key)).run store =
      match labels.lookup key with
      | some s => .ok (.text s) store
      | none => .error .missingKey store := by
  unfold subscript
  rw [run_get_bind]
  simp only [Value.tuple?, Store.list?, Store.map?, held, lookup?_textPairs]
  cases labels.lookup key <;> rfl

/-- A missing label is no fault of the look-up. -/
theorem element?_textPairs (held : store[id]? = some (.map (labels.map textPair)))
    (key : String) :
    (element? (.ref id) (.text key)).run store = .ok ((labels.lookup key).map .text) store := by
  have hsubscript := subscript_textPairs held key
  unfold element?
  cases hfound : labels.lookup key with
  | some s =>
      rw [hfound] at hsubscript
      refine run_tryCatch_of_ok ?_ _
      exact run_bind_of_ok hsubscript
  | none =>
      rw [hfound] at hsubscript
      refine (run_tryCatch_of_error (run_bind_of_error hsubscript) _).trans ?_
      rfl

/-- What a label that is not there gives: a member of mappings, or something undefined. Neither
equals a text. -/
theorem absentLabel (held : store[id]? = some (.map (labels.map textPair))) {key : String}
    (habsent : labels.lookup key = none) :
    ∃ v, (getItem (.ref id) (.text key)).run store = .ok v store ∧
      ∀ s, equal store v (.text s) = .ok false := by
  have helement := element?_textPairs held key
  rw [habsent] at helement
  unfold getItem
  rw [run_bind_of_ok helement]
  simp only [Option.map_none, Value.text?, run_get_bind, readMember?]
  by_cases hprotected : hasProtected store (.ref id) key
  · rw [if_pos hprotected]
    exact ⟨_, rfl, fun s => rfl⟩
  · rw [if_neg hprotected]
    simp only [member?, held, methodAmong]
    by_cases hmember : MemberNames.mapMembers.contains key
    · rw [if_pos hmember]
      exact ⟨_, rfl, fun s => rfl⟩
    · rw [if_neg hmember]
      exact ⟨_, rfl, fun s => rfl⟩

theorem getItem_textPairs (held : store[id]? = some (.map (labels.map textPair)))
    (label : String × String) :
    ∃ v, (getItem (.ref id) (.text label.1)).run store = .ok v store ∧
      equal store v (.text label.2) = .ok (holdsLabel labels label) := by
  cases hfound : labels.lookup label.1 with
  | none =>
      obtain ⟨v, hrun, hequal⟩ := absentLabel held hfound
      refine ⟨v, hrun, ?_⟩
      rw [hequal, holdsLabel, hfound]
      rfl
  | some s =>
      have helement := element?_textPairs held label.1
      rw [hfound] at helement
      refine ⟨.text s, run_bind_of_ok helement, ?_⟩
      rw [holdsLabel, hfound]
      rfl

/-! ## The value of clauses -/

variable {scope : Scope}

theorem evaluate_clause (hlabels : scope.lookup "labels" = .ref id)
    (held : store[id]? = some (.map (labels.map textPair))) (label : String × String) :
    (evaluate scope (clauseExpr label)).run store =
      .ok (.bool (holdsLabel labels label)) store := by
  obtain ⟨v, hitem, hequal⟩ := getItem_textPairs held label
  have hvalue : (evaluate scope (.item (.name "labels") (.literal (.text label.1)))).run store =
      .ok v store := by
    rw [← hitem, ← hlabels]
    rfl
  have hcompare : (applyCompare .eq v (.text label.2)).run store =
      .ok (holdsLabel labels label) store := by
    change (lift (equal store v (.text label.2))).run store = _
    rw [hequal]
    rfl
  refine (run_bind_of_ok hvalue).trans ((run_bind_of_ok hcompare).trans ?_)
  cases holdsLabel labels label <;> rfl

theorem evaluate_conjoined (hlabels : scope.lookup "labels" = .ref id)
    (held : store[id]? = some (.map (labels.map textPair))) {e : Expr} {b : Bool}
    (he : (evaluate scope e).run store = .ok (.bool b) store) (wanted : List (String × String)) :
    (evaluate scope (conjoined e wanted)).run store =
      .ok (.bool (b && wanted.all (holdsLabel labels))) store := by
  induction wanted generalizing e b with
  | nil =>
      rw [List.all_nil, Bool.and_true]
      exact he
  | cons label rest ih =>
      have hboth : (evaluate scope (.both e (clauseExpr label))).run store =
          .ok (.bool (b && holdsLabel labels label)) store := by
        refine (run_bind_of_ok he).trans ?_
        cases b with
        | true => exact evaluate_clause hlabels held label
        | false => rfl
      rw [List.all_cons, ← Bool.and_assoc]
      exact ih hboth

end Store

/-! ## One service -/

/-- A service with labels, which are texts. -/
def Labelled (service : Datum) (labels : List (String × String)) : Prop :=
  ∃ entries, service = .map entries ∧
    named? entries "labels" = some (.map (labels.map textEntry))

/-- The labels of a service stand in its scope, be there any or none. -/
theorem scopeFor_labels {service : List (Datum × Datum)} {labels : List (String × String)}
    (hlabels : named? service "labels" = some (.map (labels.map textEntry))) :
    ∃ scope store id, (scopeFor (.map service)).run #[] = .ok scope store ∧
      Scope.lookup scope "labels" = .ref id ∧ store[id]? = some (.map (labels.map textPair)) := by
  obtain ⟨entries, loaded, hload, -, hkept⟩ := loadValues_ok service #[]
  obtain ⟨scope, store, v, middle, hscope, hentry, hgrows, hlookup⟩ :=
    serviceScope_ok entries loaded
  obtain ⟨id, hid, hheld⟩ := serviceEntry_stands hkept hlabels labels rfl
  unfold serviceEntryOr at hentry
  rw [run_get_bind, hid] at hentry
  have htruthy : Expression.truthy loaded (.ref id) = !labels.isEmpty := by
    simp only [Expression.truthy, Expression.length, hheld]
    cases labels <;> rfl
  have hscope : (scopeFor (.map service)).run #[] = .ok scope store :=
    (run_bind_of_ok hload).trans hscope
  rw [htruthy] at hentry
  cases labels with
  | nil =>
      obtain ⟨rfl, rfl⟩ := EStateM.Result.ok.inj hentry
      exact ⟨scope, store, loaded.size, hscope, hlookup, hgrows _ _ Array.getElem?_push_size⟩
  | cons label rest =>
      obtain ⟨rfl, rfl⟩ := EStateM.Result.ok.inj hentry
      exact ⟨scope, store, id, hscope, hlookup, hgrows _ _ hheld⟩

theorem lookup?_textEntries (labels : List (String × String)) (key : String) :
    Datum.lookup? (labels.map textEntry) (.text key) = (labels.lookup key).map .text := by
  unfold Datum.lookup?
  induction labels with
  | nil => rfl
  | cons label rest ih =>
      have hsame : (Datum.text key).same (textEntry label).1 = (key == label.1) := rfl
      rw [List.map_cons, List.find?_cons, List.lookup_cons, hsame]
      cases key == label.1 with
      | true => rfl
      | false => exact ih

/-- Carrying labels is holding all of them. -/
theorem Labelled.carriesAll {service : Datum} {labels : List (String × String)}
    (h : Labelled service labels) (wanted : List (String × String)) :
    Catalog.carriesAll service (wanted.map textEntry) = .ok (wanted.all (holdsLabel labels)) := by
  obtain ⟨entries, rfl, hlabels⟩ := h
  induction wanted with
  | nil => rfl
  | cons label rest ih =>
      have hcarries : Catalog.carries (.map entries) (textEntry label) =
          .ok (holdsLabel labels label) := by
        have hread : Catalog.carries (.map entries) (textEntry label) =
            .ok (((Datum.lookup? (labels.map textEntry) (.text label.1)).getD .null).same
              (.text label.2)) := by
          simp only [Catalog.carries, required, hlabels]
          rfl
        rw [hread, lookup?_textEntries, holdsLabel]
        cases labels.lookup label.1 <;> rfl
      rw [List.map_cons, Catalog.carriesAll, hcarries, List.all_cons]
      cases holdsLabel labels label with
      | true => exact ih
      | false => rfl

theorem Labelled.answer {service : Datum} {labels : List (String × String)}
    (h : Labelled service labels) {text : Option String} (label : String × String)
    (rest : List (String × String)) :
    ServiceFilter.answer ⟨text, some ⟨conjoined (clauseExpr label) rest⟩⟩ service =
      .ok ((label :: rest).all (holdsLabel labels)) := by
  obtain ⟨entries, rfl, hlabels⟩ := h
  obtain ⟨scope, store, id, hscope, hlookup, hheld⟩ := scopeFor_labels hlabels
  have heval := evaluate_conjoined hlookup hheld (evaluate_clause hlookup hheld label) rest
  have hjudged := ServiceFilter.accepts_eq_judged
    (f := ⟨text, some ⟨conjoined (clauseExpr label) rest⟩⟩) rfl hscope
  rw [heval] at hjudged
  have hresult := congrArg Prod.fst hjudged
  exact congrArg (Except.mapError Failure.fault) hresult

/-! ## One listing -/

/-- Whether a service is among those that carry all labels. -/
def selects (wanted : List (String × String)) (service : Datum) : Bool :=
  (Catalog.carriesAll service (wanted.map textEntry)).toOption.getD false

theorem Labelled.selects {service : Datum} {labels : List (String × String)}
    (h : Labelled service labels) (wanted : List (String × String)) :
    selects wanted service = wanted.all (holdsLabel labels) := by
  rw [ClusterDiscovery.selects, h.carriesAll]
  rfl

/-- To demand more labels is to keep, of what is listed, the services that carry them. -/
theorem Catalog.listed_append (catalog : Catalog) (everywhere : Bool)
    (labels wanted : List (String × String)) {entries : List CatalogEntry}
    (labelled : ∀ entry ∈ entries, ∃ carried, Labelled entry.2 carried) (place : Nat) :
    ∃ found, catalog.listed everywhere (labels.map textEntry) place entries = .ok found ∧
      catalog.listed everywhere ((labels ++ wanted).map textEntry) place entries =
        .ok (found.filter fun s => selects wanted s.2) ∧
      ∀ s ∈ found, s.2 ∈ entries.map (·.2) := by
  induction entries generalizing place with
  | nil => exact ⟨[], rfl, rfl, fun s hs => nomatch hs⟩
  | cons entry rest ih =>
      obtain ⟨found, hfewer, hmore, hfound⟩ :=
        ih (fun e he => labelled e (List.mem_cons_of_mem _ he)) (place + 1)
      obtain ⟨key, service⟩ := entry
      obtain ⟨carried, hcarried⟩ := labelled _ List.mem_cons_self
      have hrest (s : Nat × Datum) (hs : s ∈ found) :
          s.2 ∈ ((key, service) :: rest).map (·.2) := List.mem_cons_of_mem _ (hfound s hs)
      simp only [listed, hfewer, hmore, hcarried.carriesAll, List.all_append]
      cases everywhere || key.inNamespace.same (.text catalog.ownNamespace) with
      | false => exact ⟨found, rfl, rfl, hrest⟩
      | true =>
          cases labels.all (holdsLabel carried) with
          | false => exact ⟨found, rfl, rfl, hrest⟩
          | true =>
              refine ⟨(place, service) :: found, rfl, ?_, ?_⟩
              · rw [List.filter_cons, hcarried.selects]
                rfl
              · rintro s (_ | ⟨_, hs⟩)
                · exact List.mem_cons_self
                · exact hrest s hs

/-! ## The two ways to select -/

theorem labelText_nonblank {labels : List (String × String)} (nonempty : labels ≠ []) :
    (Text.trim (labelText labels)).isEmpty = false := by
  obtain ⟨label, rest, rfl⟩ := List.exists_cons_of_ne_nil nonempty
  obtain ⟨body, hbody⟩ := labelText_ends label rest
  rw [trim_labelText]
  refine Bool.eq_false_iff.mpr fun hempty => ?_
  rw [String.isEmpty_iff.mp hempty] at hbody
  cases hbody

/-- The test that the clauses for labels stand for selects what carries the labels. -/
theorem predicateTest_labelText (configured : Option String) {labels : List (String × String)}
    (nonempty : labels ≠ []) (hlabels : ∀ label ∈ labels, IsLabel label)
    (few : labels.length ≤ clauseLimit) :
    ∃ test, DiscoveryClient.predicateTest configured (.expression (labelText labels)) = .ok test ∧
      ∀ service carried, Labelled service carried →
        test service = .ok (selects labels service) := by
  have hnonblank := labelText_nonblank nonempty
  obtain ⟨label, rest, rfl⟩ := List.exists_cons_of_ne_nil nonempty
  have hcompile : compileExpression (labelText (label :: rest)) =
      .ok ⟨conjoined (clauseExpr label) rest⟩ := by
    rw [compileExpression, trim_labelText, compile_labelText hlabels few]
  refine ⟨ServiceFilter.answer ⟨some (labelText (label :: rest)),
    some ⟨conjoined (clauseExpr label) rest⟩⟩, ?_, fun service carried h => ?_⟩
  · simp only [DiscoveryClient.predicateTest, DiscoveryClient.expressionTest, hnonblank,
      Bool.false_eq_true, if_false, hcompile]
    rfl
  · rw [h.answer, h.selects]

namespace DiscoveryClient

def unfiltered (settings : DiscoverySettings) (secure : Option SecurePorts) : DiscoveryClient :=
  ⟨settings, secure.getD (.ofInts settings.knownSecurePorts), ⟨none, none⟩⟩

theorem ofExpression_unfiltered {settings : DiscoverySettings}
    (hfilter : settings.filter.bind ServiceFilter.nonBlank = none) :
    ServiceFilter.ofExpression settings.filter = .ok ⟨none, none⟩ := by
  simp only [ServiceFilter.ofExpression, hfilter]

theorem make_unfiltered {settings : DiscoverySettings} (secure : Option SecurePorts)
    (hfilter : settings.filter.bind ServiceFilter.nonBlank = none) :
    make settings secure = .ok (unfiltered settings secure) := by
  rw [make, ofExpression_unfiltered hfilter]
  rfl

/-- Without a filter every listed service counts. -/
theorem unfiltered_runsTo (settings : DiscoverySettings) (secure : Option SecurePorts)
    (enabled : settings.enabled = true)
    (hfilter : settings.filter.bind ServiceFilter.nonBlank = none) {catalog : Catalog}
    (readable : catalog.failure = none) {found : List (Nat × Datum)}
    (listing : catalog.listed settings.allNamespaces (settings.serviceLabels.map textEntry) 0
      catalog.services = .ok found)
    (named : ∀ s ∈ found.map (·.2), Named s) :
    ∃ after, RunsTo ((unfiltered settings secure).getServices Catalog.reader .configured) catalog
      (.ok ((found.map (·.2)).map (fieldOf · "name"))) after := by
  have htest : predicateTest settings.filter .configured = .ok fun _ => .ok true := by
    rw [predicateTest, expressionTest_eq, ofExpression_unfiltered hfilter]
    rfl
  have hall : (found.map (·.2)).filter (fun _ => true) = found.map (·.2) := List.filter_true _
  obtain ⟨after, hcall, -⟩ := getServices_runsTo (unfiltered settings secure) enabled
    (ofExpression_unfiltered hfilter) htest readable listing fun s hs => ⟨named s hs, rfl⟩
  rw [hall] at hcall
  exact ⟨after, hcall⟩

/-- A call with the text of too many clauses fails before anything is read. -/
theorem getServices_labelText_many {World : Type} (reader : ClusterReader World)
    {client : DiscoveryClient} (enabled : client.settings.enabled = true)
    {labels : List (String × String)} (nonempty : labels ≠ [])
    (hlabels : ∀ label ∈ labels, IsLabel label) (many : clauseLimit < labels.length)
    (session : Session World) :
    (client.getServices reader (.expression (labelText labels))).runOn session =
      (.error (.fault (clauseFault labels.length)), session) := by
  obtain ⟨label, rest, rfl⟩ := List.exists_cons_of_ne_nil nonempty
  refine (breaksDown ?_).inCall World reader client enabled session
  rw [trim_labelText]
  exact compile_labelText_fault hlabels many

/-- Clauses for labels select the services that the labels select when the listing demands them,
in the same order. This holds for up to 197 labels, with empty keys and values too, whether
services carry them or not. With more labels the text cannot be compiled, and the call fails
where the listing would have answered. -/
theorem labelText_eq_serviceLabels (settings : DiscoverySettings) (secure : Option SecurePorts)
    (enabled : settings.enabled = true)
    (hfilter : settings.filter.bind ServiceFilter.nonBlank = none)
    {labels : List (String × String)} (nonempty : labels ≠ [])
    (hlabels : ∀ label ∈ labels, IsLabel label) {catalog : Catalog}
    (readable : catalog.failure = none)
    (services : ∀ entry ∈ catalog.services,
      Named entry.2 ∧ ∃ carried, Labelled entry.2 carried) :
    ∃ byExpression bySelector names, make settings secure = .ok byExpression ∧
      make { settings with serviceLabels := settings.serviceLabels ++ labels } secure =
        .ok bySelector ∧
      ∀ log waits,
        ((bySelector.getServices Catalog.reader .configured).runOn
          ⟨catalog, log, waits⟩).1 = .ok names ∧
        ((byExpression.getServices Catalog.reader (.expression (labelText labels))).runOn
          ⟨catalog, log, waits⟩).1 =
            if labels.length ≤ clauseLimit then .ok names
            else .error (.fault (clauseFault labels.length)) := by
  obtain ⟨found, hfewer, hmore, hfound⟩ := catalog.listed_append settings.allNamespaces
    settings.serviceLabels labels (fun e he => (services e he).2) 0
  have hservice (s : Datum) (hs : s ∈ found.map (·.2)) :
      Named s ∧ ∃ carried, Labelled s carried := by
    obtain ⟨listed, hlisted, rfl⟩ := List.mem_map.mp hs
    obtain ⟨entry, hentry, hsame⟩ := List.mem_map.mp (hfound listed hlisted)
    exact hsame ▸ services entry hentry
  have hkept : (found.map (·.2)).filter (selects labels) =
      (found.filter fun s => selects labels s.2).map (·.2) := List.filter_map
  have hnamed (s : Datum) (hs : s ∈ (found.filter fun s => selects labels s.2).map (·.2)) :
      Named s := by
    rw [← hkept] at hs
    exact (hservice s (List.mem_of_mem_filter hs)).1
  obtain ⟨_, hselector⟩ := unfiltered_runsTo
    { settings with serviceLabels := settings.serviceLabels ++ labels } secure enabled hfilter
    readable hmore hnamed
  rw [← hkept] at hselector
  refine ⟨unfiltered settings secure, unfiltered _ secure, _, make_unfiltered secure hfilter,
    make_unfiltered secure hfilter, fun log waits => ⟨hselector.result log waits, ?_⟩⟩
  split
  · next few =>
      obtain ⟨test, htest, hanswers⟩ :=
        predicateTest_labelText settings.filter nonempty hlabels few
      have htested (s : Datum) (hs : s ∈ found.map (·.2)) :
          Named s ∧ test s = .ok (selects labels s) := by
        obtain ⟨hnamed, carried, hcarried⟩ := hservice s hs
        exact ⟨hnamed, hanswers s carried hcarried⟩
      obtain ⟨_, hexpression, -⟩ := getServices_runsTo (unfiltered settings secure) enabled
        (ofExpression_unfiltered hfilter) htest readable hfewer htested
      exact hexpression.result log waits
  · next many =>
      rw [getServices_labelText_many Catalog.reader enabled nonempty hlabels
        (Nat.not_le.mp many)]

def carrying (name inNamespace : String) (labels : List (String × String)) : CatalogEntry :=
  (⟨.text inNamespace, .text name⟩, record [("name", .text name),
    ("namespace", .text inNamespace), ("labels", .map (labels.map textEntry))])

theorem carrying_named (name inNamespace : String) (labels : List (String × String)) :
    Named (carrying name inNamespace labels).2 := ⟨_, _, rfl, rfl⟩

theorem carrying_labelled (name inNamespace : String) (labels : List (String × String)) :
    Labelled (carrying name inNamespace labels).2 labels := ⟨_, rfl, rfl⟩

/-- Four services with two labels at most, in either order. -/
def quarter : Catalog :=
  { Catalog.empty "default" with
    services := [carrying "web" "default" [("tier", "front"), ("zone", "a")],
      carrying "db" "default" [("tier", "back"), ("zone", "a")],
      carrying "shop" "edge" [("zone", "a"), ("tier", "front")],
      carrying "web" "edge" [("tier", "front")]] }

/-- Both ways select the services at the front of a zone, in every namespace. -/
theorem front_of_zone_both_ways :
    let wanted := [("tier", "front"), ("zone", "a")]
    ∃ byExpression bySelector, make { allNamespaces := true } none = .ok byExpression ∧
      make { allNamespaces := true, serviceLabels := wanted } none = .ok bySelector ∧
      ∀ log waits,
        ((byExpression.getServices Catalog.reader (.expression (labelText wanted))).runOn
          ⟨quarter, log, waits⟩).1 = .ok [.text "web", .text "shop"] ∧
        ((bySelector.getServices Catalog.reader .configured).runOn ⟨quarter, log, waits⟩).1 =
          .ok [.text "web", .text "shop"] := by
  intro wanted
  have hlabels : ∀ label ∈ wanted, IsLabel label := by
    intro label hlabel
    simp only [wanted, List.mem_cons, List.not_mem_nil, or_false] at hlabel
    obtain rfl | rfl := hlabel <;>
      exact ⟨List.all_eq_true.mp (by decide +kernel), List.all_eq_true.mp (by decide +kernel)⟩
  have hservices : ∀ entry ∈ quarter.services,
      Named entry.2 ∧ ∃ carried, Labelled entry.2 carried := by
    intro entry hentry
    simp only [quarter, List.mem_cons, List.not_mem_nil, or_false] at hentry
    obtain rfl | rfl | rfl | rfl := hentry <;>
      exact ⟨carrying_named _ _ _, _, carrying_labelled _ _ _⟩
  obtain ⟨byExpression, bySelector, names, hmade, hextended, hcalls⟩ :=
    labelText_eq_serviceLabels { allNamespaces := true } none rfl rfl
      (List.cons_ne_nil _ _) hlabels rfl hservices
  have hselected : ((bySelector.getServices Catalog.reader .configured).runOn
      ⟨quarter, [], []⟩).1 = .ok [.text "web", .text "shop"] := by
    obtain rfl := Except.ok.inj hextended
    rfl
  obtain rfl := Except.ok.inj ((hcalls [] []).1.symm.trans hselected)
  exact ⟨byExpression, bySelector, hmade, hextended, fun log waits => (hcalls log waits).symm⟩

/-- One label more than a text can ask for. Their keys have different lengths. -/
def manyLabels : List (String × String) :=
  (List.range 198).map fun count => (String.ofList (List.replicate count 'k'), "on")

theorem manyLabels_length : manyLabels.length = 198 := by simp [manyLabels]

theorem manyLabels_nodup : (manyLabels.map (·.1)).Nodup := by
  rw [manyLabels, List.map_map]
  refine List.Nodup.map (fun count count' h => ?_) List.nodup_range
  have hkeys := congrArg (fun s : String => s.toList.length) h
  simpa using hkeys

theorem manyLabels_isLabel : ∀ label ∈ manyLabels, IsLabel label := by
  intro label hlabel
  obtain ⟨count, -, rfl⟩ := List.mem_map.mp hlabel
  have hvalue : "on".toList.all isLabelChar = true := by decide +kernel
  refine ⟨fun c hc => ?_, List.all_eq_true.mp hvalue⟩
  rw [String.toList_ofList] at hc
  rw [List.eq_of_mem_replicate hc]
  rfl

theorem holdsLabel_of_mem {labels : List (String × String)} (hnodup : (labels.map (·.1)).Nodup)
    {label : String × String} (h : label ∈ labels) : holdsLabel labels label = true := by
  induction labels with
  | nil => cases h
  | cons first rest ih =>
      rw [List.map_cons, List.nodup_cons] at hnodup
      rw [holdsLabel, List.lookup_cons]
      obtain rfl | hrest := List.mem_cons.mp h
      · simp
      · have hne : (label.1 == first.1) = false :=
          beq_false_of_ne fun heq => hnodup.1 (heq ▸ List.mem_map_of_mem hrest)
        rw [hne]
        exact ih hnodup.2 hrest

/-- A service that carries all of them. -/
def busyPlace : Catalog :=
  { Catalog.empty "default" with services := [carrying "web" "default" manyLabels] }

/-- The listing finds the service by its labels, but no call can ask for them in a text. -/
theorem no_text_for_manyLabels :
    ∃ byExpression bySelector, make {} none = .ok byExpression ∧
      make { serviceLabels := manyLabels } none = .ok bySelector ∧
      (manyLabels.map (·.1)).Nodup ∧ (∀ label ∈ manyLabels, IsLabel label) ∧
      ∀ log waits,
        ((bySelector.getServices Catalog.reader .configured).runOn ⟨busyPlace, log, waits⟩).1 =
          .ok [.text "web"] ∧
        ((byExpression.getServices Catalog.reader (.expression (labelText manyLabels))).runOn
          ⟨busyPlace, log, waits⟩).1 = .error (.fault .invalidForm) := by
  have hnonempty : manyLabels ≠ [] := List.ne_nil_of_length_pos (by rw [manyLabels_length]; decide)
  have hmany : clauseLimit < manyLabels.length := by rw [manyLabels_length]; decide
  have hcarried : manyLabels.all (holdsLabel manyLabels) = true :=
    List.all_eq_true.mpr fun label hlabel => holdsLabel_of_mem manyLabels_nodup hlabel
  have hlisting : busyPlace.listed false (manyLabels.map textEntry) 0 busyPlace.services =
      .ok [(0, (carrying "web" "default" manyLabels).2)] := by
    have hcarries := (carrying_labelled "web" "default" manyLabels).carriesAll manyLabels
    rw [hcarried] at hcarries
    simp only [busyPlace, Catalog.listed, hcarries]
    rfl
  obtain ⟨_, hselector⟩ := unfiltered_runsTo { serviceLabels := manyLabels } none rfl rfl rfl
    hlisting (by simpa using carrying_named "web" "default" manyLabels)
  refine ⟨_, _, make_unfiltered none rfl, make_unfiltered none rfl, manyLabels_nodup,
    manyLabels_isLabel, fun log waits => ⟨hselector.result log waits, ?_⟩⟩
  rw [getServices_labelText_many Catalog.reader rfl hnonempty manyLabels_isLabel hmany,
    manyLabels_length]
  rfl

end DiscoveryClient

end ClusterDiscovery
