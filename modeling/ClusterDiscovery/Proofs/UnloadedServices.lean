import ClusterDiscovery.Proofs.EvaluationCalls
import ClusterDiscovery.Proofs.Filtering

/-! # Services that come out as they went in

A service that is taken into a store is mirrored there by values, and as long as these are kept,
the same service comes out again.
-/

namespace ClusterDiscovery

namespace Expression

mutual

/-- A value in a store mirrors data: everything that the data hold is there. -/
def Mirrors (store : Store) : Datum → Value → Prop
  | .null, v => v = .null
  | .bool b, v => v = .bool b
  | .int i, v => v = .int i
  | .float x, v => v = .float x
  | .text s, v => v = .text s
  | .bytes b, v => v = .bytes b
  | .list items, v => ∃ (id : ObjectId) (vs : List Value),
    v = .ref id ∧ store[id]? = some (.list vs) ∧ MirrorsAll store items vs
  | .tuple items, v => ∃ vs, v = .tuple vs ∧ MirrorsAll store items vs
  | .map entries, v => ∃ (id : ObjectId) (es : List (Value × Value)),
    v = .ref id ∧ store[id]? = some (.map es) ∧ MirrorsEntries store entries es
  | .undefined, v => ∃ why, v = .undefined why
  | .foreign type, v => ∃ id : ObjectId, v = .ref id ∧ store[id]? = some (.iterator type [])

def MirrorsAll (store : Store) : List Datum → List Value → Prop
  | [], vs => vs = []
  | d :: rest, vs => ∃ v ws, vs = v :: ws ∧ Mirrors store d v ∧ MirrorsAll store rest ws

def MirrorsEntries (store : Store) : List (Datum × Datum) → List (Value × Value) → Prop
  | [], es => es = []
  | (key, d) :: rest, es => ∃ k v others, es = (k, v) :: others ∧ Mirrors store key k ∧
    Mirrors store d v ∧ MirrorsEntries store rest others

end

mutual

theorem Mirrors.keeps {store after : Store} (h : Keeps store after) :
    ∀ {d : Datum} {v : Value}, Mirrors store d v → Mirrors after d v
  | .null, _, hv => hv
  | .bool _, _, hv => hv
  | .int _, _, hv => hv
  | .float _, _, hv => hv
  | .text _, _, hv => hv
  | .bytes _, _, hv => hv
  | .list _, _, ⟨id, vs, hv, ho, hall⟩ => ⟨id, vs, hv, h id _ ho rfl, MirrorsAll.keeps h hall⟩
  | .tuple _, _, ⟨vs, hv, hall⟩ => ⟨vs, hv, MirrorsAll.keeps h hall⟩
  | .map _, _, ⟨id, es, hv, ho, hall⟩ =>
    ⟨id, es, hv, h id _ ho rfl, MirrorsEntries.keeps h hall⟩
  | .undefined, _, hv => hv
  | .foreign _, _, ⟨id, hv, ho⟩ => ⟨id, hv, h id _ ho rfl⟩

theorem MirrorsAll.keeps {store after : Store} (h : Keeps store after) :
    ∀ {items : List Datum} {vs : List Value}, MirrorsAll store items vs → MirrorsAll after items vs
  | [], _, hvs => hvs
  | _ :: _, _, ⟨v, ws, hvs, hv, hws⟩ => ⟨v, ws, hvs, hv.keeps h, MirrorsAll.keeps h hws⟩

theorem MirrorsEntries.keeps {store after : Store} (h : Keeps store after) :
    ∀ {entries : List (Datum × Datum)} {es : List (Value × Value)},
      MirrorsEntries store entries es → MirrorsEntries after entries es
  | [], _, hes => hes
  | _ :: _, _, ⟨k, v, others, hes, hk, hv, hothers⟩ =>
    ⟨k, v, others, hes, hk.keeps h, hv.keeps h, MirrorsEntries.keeps h hothers⟩

end

/-! ## Into the store -/

mutual

theorem load_mirrors : ∀ (d : Datum) {store after : Store} {v : Value},
    (load d).run store = .ok v after → Mirrors after d v
  | .null, _, _, _, h => by cases h; rfl
  | .bool _, _, _, _, h => by cases h; rfl
  | .int _, _, _, _, h => by cases h; rfl
  | .float _, _, _, _, h => by cases h; rfl
  | .text _, _, _, _, h => by cases h; rfl
  | .bytes _, _, _, _, h => by cases h; rfl
  | .list items, store, _, _, h => by
      obtain ⟨vs, middle, hrun, -⟩ := loadAll_ok items store
      rw [load, run_bind_of_ok hrun] at h
      cases h
      have hall := (loadAll_mirrors items hrun).keeps (grows_push middle (.list vs)).keeps
      exact ⟨middle.size, vs, rfl, Array.getElem?_push_size, hall⟩
  | .tuple items, store, _, _, h => by
      obtain ⟨vs, middle, hrun, -⟩ := loadAll_ok items store
      rw [load, run_bind_of_ok hrun] at h
      cases h
      exact ⟨vs, rfl, loadAll_mirrors items hrun⟩
  | .map entries, store, _, _, h => by
      obtain ⟨es, middle, hrun, -⟩ := loadEntries_ok entries store
      rw [load, run_bind_of_ok hrun] at h
      cases h
      have hall := (loadEntries_mirrors entries hrun).keeps (grows_push middle (.map es)).keeps
      exact ⟨middle.size, es, rfl, Array.getElem?_push_size, hall⟩
  | .undefined, _, _, _, h => by
      cases h
      exact ⟨_, rfl⟩
  | .foreign _, store, _, _, h => by
      cases h
      exact ⟨store.size, rfl, Array.getElem?_push_size⟩

theorem loadAll_mirrors : ∀ (items : List Datum) {store after : Store} {vs : List Value},
    (loadAll items).run store = .ok vs after → MirrorsAll after items vs
  | [], _, _, _, h => by cases h; rfl
  | d :: rest, store, _, _, h => by
      obtain ⟨v, middle, hd, -⟩ := load_ok d store
      obtain ⟨vs, last, hrest, hgrows⟩ := loadAll_ok rest middle
      rw [loadAll, run_bind_of_ok hd, run_bind_of_ok hrest] at h
      cases h
      exact ⟨v, vs, rfl, (load_mirrors d hd).keeps hgrows.keeps, loadAll_mirrors rest hrest⟩

theorem loadEntries_mirrors : ∀ (entries : List (Datum × Datum)) {store after : Store}
    {es : List (Value × Value)},
    (loadEntries entries).run store = .ok es after → MirrorsEntries after entries es
  | [], _, _, _, h => by cases h; rfl
  | (key, d) :: rest, store, _, _, h => by
      obtain ⟨k, s₁, hkey, -⟩ := load_ok key store
      obtain ⟨v, s₂, hd, hgrows₂, -⟩ := load_ok d s₁
      obtain ⟨es, s₃, hrest, hgrows₃, -⟩ := loadEntries_ok rest s₂
      rw [loadEntries, run_bind_of_ok hkey, run_bind_of_ok hd, run_bind_of_ok hrest] at h
      cases h
      have hk := (load_mirrors key hkey).keeps (hgrows₂.trans hgrows₃).keeps
      have hv := (load_mirrors d hd).keeps hgrows₃.keeps
      exact ⟨k, v, es, rfl, hk, hv, loadEntries_mirrors rest hrest⟩

end

/-! ## Out of the store -/

theorem depth_pos (d : Datum) : 0 < d.depth := by
  cases d <;> simp [Datum.depth]

mutual

/-- What mirrors data gives the data, unless it is cut off before. -/
theorem unloadTo_mirrors {store : Store} : ∀ (d : Datum) {v : Value} {depth : Nat},
    Mirrors store d v → d.depth ≤ depth → unloadTo depth store v = d
  | d, v, 0, _, hdepth => absurd hdepth (Nat.not_le_of_lt (depth_pos d))
  | .null, _, _ + 1, hv, _ => by rw [hv]; rfl
  | .bool _, _, _ + 1, hv, _ => by rw [hv]; rfl
  | .int _, _, _ + 1, hv, _ => by rw [hv]; rfl
  | .float _, _, _ + 1, hv, _ => by rw [hv]; rfl
  | .text _, _, _ + 1, hv, _ => by rw [hv]; rfl
  | .bytes _, _, _ + 1, hv, _ => by rw [hv]; rfl
  | .list items, _, depth + 1, ⟨id, vs, hv, ho, hall⟩, hdepth => by
      rw [hv, unloadTo]
      simp only [ho]
      rw [unloadAll_mirrors items hall (Nat.le_of_succ_le_succ hdepth)]
  | .tuple items, _, depth + 1, ⟨vs, hv, hall⟩, hdepth => by
      rw [hv, unloadTo]
      exact congrArg Datum.tuple (unloadAll_mirrors items hall (Nat.le_of_succ_le_succ hdepth))
  | .map entries, _, depth + 1, ⟨id, es, hv, ho, hall⟩, hdepth => by
      rw [hv, unloadTo]
      simp only [ho]
      rw [unloadEntries_mirrors entries hall (Nat.le_of_succ_le_succ hdepth)]
  | .undefined, _, _ + 1, ⟨_, hv⟩, _ => by rw [hv]; rfl
  | .foreign type, _, _ + 1, ⟨id, hv, ho⟩, _ => by
      rw [hv, unloadTo]
      simp [ho, Value.typeName, Object.typeName]

theorem unloadAll_mirrors {store : Store} : ∀ (items : List Datum) {vs : List Value} {depth : Nat},
    MirrorsAll store items vs → deepest items ≤ depth → vs.map (unloadTo depth store) = items
  | [], _, _, hvs, _ => by rw [hvs]; rfl
  | d :: rest, _, depth, ⟨v, ws, hvs, hv, hws⟩, hdepth => by
      obtain ⟨hd, hrest⟩ := Nat.max_le.mp hdepth
      rw [hvs, List.map_cons, unloadTo_mirrors d hv hd, unloadAll_mirrors rest hws hrest]

theorem unloadEntries_mirrors {store : Store} : ∀ (entries : List (Datum × Datum))
    {es : List (Value × Value)} {depth : Nat}, MirrorsEntries store entries es →
    deepestEntry entries ≤ depth →
    (es.map fun (k, w) => (unloadTo depth store k, unloadTo depth store w)) = entries
  | [], _, _, hes, _ => by rw [hes]; rfl
  | (key, d) :: rest, _, depth, ⟨k, v, others, hes, hk, hv, hothers⟩, hdepth => by
      obtain ⟨hentry, hrest⟩ := Nat.max_le.mp hdepth
      obtain ⟨hkey, hd⟩ := Nat.max_le.mp hentry
      rw [hes, List.map_cons, unloadEntries_mirrors rest hothers hrest]
      simp only [unloadTo_mirrors key hk hkey, unloadTo_mirrors d hv hd]

end

end Expression

open Expression

/-! ## Services -/

/-- An entry of a service in a store, mirrored in full. -/
def Held (store : Store) (entry : Datum × Datum) (held : Datum × Value) : Prop :=
  held.1 = entry.1 ∧ Mirrors store entry.2 held.2

theorem loadValues_held {service : List (Datum × Datum)} {store after : Store}
    {entries : List (Datum × Value)} (h : (loadValues service).run store = .ok entries after) :
    List.Forall₂ (Held after) service entries := by
  induction service generalizing store entries with
  | nil =>
      cases h
      exact .nil
  | cons entry rest ih =>
      obtain ⟨v, middle, hd, -⟩ := load_ok entry.2 store
      obtain ⟨others, last, hrest, hgrows, -⟩ := loadValues_ok rest middle
      rw [loadValues, run_bind_of_ok hd, run_bind_of_ok hrest] at h
      cases h
      exact .cons ⟨rfl, (load_mirrors entry.2 hd).keeps hgrows.keeps⟩ (ih hrest)

/-- A service comes out of a store that keeps it as it went in. -/
theorem unloadService_held {service : List (Datum × Datum)} {store after : Store}
    {entries : List (Datum × Value)} (held : List.Forall₂ (Held store) service entries)
    (hkeeps : Keeps store after) {depth : Nat} (hdepth : deepestEntry service ≤ depth) :
    unloadService depth after entries = .map service := by
  have hentries : entries.map (fun held => (held.1, unloadTo depth after held.2)) = service := by
    induction held with
    | nil => rfl
    | @cons entry held rest others hentry _ ih =>
        obtain ⟨hkey, hmirrors⟩ := hentry
        obtain ⟨hfirst, hrest⟩ := Nat.max_le.mp hdepth
        have hvalue := unloadTo_mirrors entry.2 (hmirrors.keeps hkeeps) (Nat.max_le.mp hfirst).2
        rw [List.map_cons, ih hrest, hkey, hvalue]
  exact congrArg Datum.map hentries

/-- A computation that keeps what is settled leaves the service as it was. -/
theorem onService_untouched {α : Type} {service : Datum} {run : List (Datum × Value) → Run α}
    (h : ∀ entries store, (loadService service).run #[] = .ok entries store →
      KeepsFrom store (run entries)) : (onService service run).service = service := by
  unfold onService
  cases hload : (loadService service).run #[] with
  | error fault store => rfl
  | ok entries store =>
      have hkeeps := h entries store hload
      cases service with
      | map fields =>
          have hheld := loadValues_held hload
          have hdepth : deepestEntry fields ≤ max nestingLimit (Datum.map fields).depth :=
            Nat.le_trans (Nat.le_succ _) (Nat.le_max_right _ _)
          unfold KeepsFrom at hkeeps
          cases hrun : (run entries).run store with
          | ok a after =>
              rw [hrun] at hkeeps
              simp only [hrun]
              exact unloadService_held hheld hkeeps hdepth
          | error fault after =>
              rw [hrun] at hkeeps
              simp only [hrun]
              exact unloadService_held hheld hkeeps hdepth
      | _ => cases hload

theorem serviceScope_harmless (entries : List (Datum × Value)) :
    Harmless (serviceScope entries) := by
  have hentry (name : String) {empty : Run Value} (hempty : Harmless empty) :
      Harmless (serviceEntryOr entries name empty) := by
    unfold serviceEntryOr
    grind
  unfold serviceScope
  refine (hentry _ (.alloc _)).bind fun labels => (hentry _ (.alloc _)).bind fun annotations => ?_
  exact (hentry _ (.allocList _)).bind fun ports => (Harmless.alloc _).bind fun _ => .pure _

namespace ServiceFilter

def calls (f : ServiceFilter) (service : Datum) : List Call :=
  match f.program with
  | none => []
  | some program => onwards (scopeFor service) #[] fun scope store =>
    callsOf scope program.body store

/-- The calls of a filter that may change the service. The collections in the service are the first
objects of the store that the filter is evaluated in. -/
def changingCalls (f : ServiceFilter) (service : Datum) : List Call :=
  (f.calls service).filter (·.endangers (leftBy ((loadService service).run #[])).size)

/-- What a filter finds out about a service in the store. -/
def decision (program : Program) (entries : List (Datum × Value)) : Run Bool := do
  let value ← valueOn program entries
  match value with
  | .null => return false
  | value => return truthy (← get) value

theorem accepts_untouched (f : ServiceFilter) (service : Datum)
    (h : f.changingCalls service = []) : (f.accepts service).1.service = service := by
  unfold accepts
  cases hprogram : f.program with
  | none => rfl
  | some program =>
      have huntouched : (onService service (decision program)).service = service := by
        refine onService_untouched fun entries store hload => KeepsFirst.keeps ?_
        have hvalue : Calm store.size (f.calls service) store (valueOn program entries) := by
          have hscope : (scopeFor service).run #[] = (serviceScope entries).run store :=
            run_bind_of_ok hload
          simp only [calls, hprogram, onwards, hscope]
          refine .after_harmless (serviceScope_harmless entries) fun scope middle => ?_
          refine (evaluate_calm scope program.body middle).andThen fun v => ?_
          cases v <;> exact .pure _
        refine hvalue.andThen (fun v => ?_) fun call hcall => ?_
        · cases v
          case null => exact .pure false
          all_goals exact Harmless.get.bind fun store => .pure _
        · have hkept := List.filter_eq_nil_iff.mp h call hcall
          rw [hload] at hkept
          exact Bool.eq_false_iff.mpr hkept
      simp only
      split
      · exact huntouched
      · split
        · split <;> exact huntouched
        · exact huntouched

end ServiceFilter

end ClusterDiscovery
