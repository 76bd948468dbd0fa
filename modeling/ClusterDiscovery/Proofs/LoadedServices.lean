import ClusterDiscovery.Proofs.Reading
import ClusterDiscovery.ServiceFilter
import Mathlib.Data.List.Forall2

/-! # Services in a store

Taking a service into a store always succeeds and only adds objects. Texts and mappings of texts
can be told from the values that stand for them, and the entries of a service keep their keys.
-/

namespace ClusterDiscovery

namespace Expression

open Datum

/-! ## Runs -/

theorem run_bind_of_ok {α β : Type} {x : Run α} {f : α → Run β} {store after : Store} {a : α}
    (h : x.run store = .ok a after) : (x >>= f).run store = (f a).run after := by
  change EStateM.bind x f store = _
  unfold EStateM.bind
  rw [show x store = .ok a after from h]
  rfl

theorem run_bind_of_error {α β : Type} {x : Run α} {f : α → Run β} {store after : Store}
    {fault : Fault} (h : x.run store = .error fault after) :
    (x >>= f).run store = .error fault after := by
  change EStateM.bind x f store = _
  unfold EStateM.bind
  rw [show x store = .error fault after from h]

/-- A run that succeeds has succeeded at each step. -/
theorem run_bind_eq_ok {α β : Type} {x : Run α} {f : α → Run β} {store after : Store} {b : β}
    (h : (x >>= f).run store = .ok b after) :
    ∃ a middle, x.run store = .ok a middle ∧ (f a).run middle = .ok b after := by
  cases hrun : x.run store with
  | error fault middle =>
      rw [run_bind_of_error hrun] at h
      cases h
  | ok a middle =>
      rw [run_bind_of_ok hrun] at h
      exact ⟨a, middle, rfl, h⟩

theorem run_bind_eq_error {α β : Type} {x : Run α} {f : α → Run β} {store after : Store}
    {fault : Fault} (h : (x >>= f).run store = .error fault after) :
    x.run store = .error fault after ∨
      ∃ a middle, x.run store = .ok a middle ∧ (f a).run middle = .error fault after := by
  cases hrun : x.run store with
  | error fault' middle =>
      rw [run_bind_of_error hrun] at h
      cases h
      exact .inl rfl
  | ok a middle =>
      rw [run_bind_of_ok hrun] at h
      exact .inr ⟨a, middle, rfl, h⟩

theorem run_tryCatch_of_ok {α : Type} {x : Run α} {store after : Store} {a : α}
    (h : x.run store = .ok a after) (handle : Fault → Run α) :
    (tryCatch x handle).run store = .ok a after := by
  change EStateM.tryCatch x handle store = _
  unfold EStateM.tryCatch
  rw [show x store = .ok a after from h]

theorem run_tryCatch_of_error {α : Type} {x : Run α} {store after : Store} {fault : Fault}
    (h : x.run store = .error fault after) (handle : Fault → Run α) :
    (tryCatch x handle).run store = (handle fault).run after := by
  change EStateM.tryCatch x handle store = _
  unfold EStateM.tryCatch
  rw [show x store = .error fault after from h]
  rfl

theorem run_get_bind {α : Type} (f : Store → Run α) (store : Store) :
    ((get : Run Store) >>= f).run store = (f store).run store := rfl

theorem run_alloc (o : Object) (store : Store) :
    (Run.alloc o).run store = .ok (.ref store.size) (store.push o) := rfl

/-! ## Stores that grow -/

/-- Every object of the first store is in its place in the second. -/
def Grows (store after : Store) : Prop := ∀ (id : ObjectId) (o : Object),
  store[id]? = some o → after[id]? = some o

theorem Grows.refl (store : Store) : Grows store store := fun _ _ h => h

theorem Grows.trans {first second third : Store} (h : Grows first second)
    (h' : Grows second third) : Grows first third := fun id o ho => h' id o (h id o ho)

theorem grows_push (store : Store) (o : Object) : Grows store (store.push o) := by
  intro id held h
  obtain ⟨hid, -⟩ := Array.getElem?_eq_some_iff.mp h
  rw [Array.getElem?_push_lt hid, ← Array.getElem?_eq_getElem hid]
  exact h

def textPair (pair : String × String) : Value × Value := (.text pair.1, .text pair.2)

/-- What a value in a store says of the data that it stands for, as far as texts and mappings of
texts go. -/
def Stands (store : Store) : Datum → Value → Prop
  | .text s, v => v = .text s
  | .map entries, v => ∀ pairs : List (String × String), entries = pairs.map textEntry →
      ∃ id : ObjectId, v = .ref id ∧ store[id]? = some (.map (pairs.map textPair))
  | _, _ => True

theorem Stands.grows {store after : Store} {d : Datum} {v : Value} (h : Stands store d v)
    (hgrows : Grows store after) : Stands after d v := by
  cases d with
  | text s => exact h
  | map entries =>
      intro pairs hpairs
      obtain ⟨id, hv, ho⟩ := h pairs hpairs
      exact ⟨id, hv, hgrows _ _ ho⟩
  | _ => trivial

mutual

/-- Data of every shape can be taken into a store. -/
theorem load_ok (d : Datum) (store : Store) :
    ∃ v after, (load d).run store = .ok v after ∧ Grows store after ∧ Stands after d v := by
  cases d with
  | null => exact ⟨_, _, rfl, .refl _, trivial⟩
  | bool b => exact ⟨_, _, rfl, .refl _, trivial⟩
  | int i => exact ⟨_, _, rfl, .refl _, trivial⟩
  | float x => exact ⟨_, _, rfl, .refl _, trivial⟩
  | text s => exact ⟨_, _, rfl, .refl _, rfl⟩
  | bytes b => exact ⟨_, _, rfl, .refl _, trivial⟩
  | list items =>
      obtain ⟨vs, after, h, hgrows⟩ := loadAll_ok items store
      exact ⟨_, _, run_bind_of_ok h, hgrows.trans (grows_push _ _), trivial⟩
  | tuple items =>
      obtain ⟨vs, after, h, hgrows⟩ := loadAll_ok items store
      exact ⟨_, _, run_bind_of_ok h, hgrows, trivial⟩
  | map entries =>
      obtain ⟨es, after, h, hgrows, htexts⟩ := loadEntries_ok entries store
      refine ⟨_, _, run_bind_of_ok h, hgrows.trans (grows_push _ _), ?_⟩
      intro pairs hpairs
      refine ⟨after.size, rfl, ?_⟩
      rw [← htexts pairs hpairs]
      exact Array.getElem?_push_size
  | undefined => exact ⟨_, _, rfl, .refl _, trivial⟩
  | foreign type => exact ⟨_, _, rfl, grows_push _ _, trivial⟩

theorem loadAll_ok (items : List Datum) (store : Store) :
    ∃ vs after, (loadAll items).run store = .ok vs after ∧ Grows store after := by
  cases items with
  | nil => exact ⟨_, _, rfl, .refl _⟩
  | cons d rest =>
      obtain ⟨v, middle, hd, hfirst, -⟩ := load_ok d store
      obtain ⟨vs, after, hrest, hgrows⟩ := loadAll_ok rest middle
      exact ⟨_, _, (run_bind_of_ok hd).trans (run_bind_of_ok hrest), hfirst.trans hgrows⟩

theorem loadEntries_ok (entries : List (Datum × Datum)) (store : Store) :
    ∃ es after, (loadEntries entries).run store = .ok es after ∧ Grows store after ∧
      ∀ pairs : List (String × String), entries = pairs.map textEntry →
        es = pairs.map textPair := by
  cases entries with
  | nil =>
      refine ⟨_, _, rfl, .refl _, fun pairs h => ?_⟩
      rw [List.map_eq_nil_iff.mp h.symm, List.map_nil]
  | cons entry rest =>
      obtain ⟨k, d⟩ := entry
      obtain ⟨key, s₁, hk, hgrows₁, hkey⟩ := load_ok k store
      obtain ⟨v, s₂, hd, hgrows₂, hvalue⟩ := load_ok d s₁
      obtain ⟨es, after, hes, hgrows₃, htexts⟩ := loadEntries_ok rest s₂
      refine ⟨_, _, (run_bind_of_ok hk).trans ((run_bind_of_ok hd).trans (run_bind_of_ok hes)),
        (hgrows₁.trans hgrows₂).trans hgrows₃, ?_⟩
      intro pairs hpairs
      cases pairs with
      | nil => cases hpairs
      | cons pair pairs =>
          obtain ⟨hentry, hrest⟩ := List.cons.inj hpairs
          obtain ⟨rfl, rfl⟩ := Prod.mk.inj hentry
          obtain rfl : key = .text pair.1 := hkey
          obtain rfl : v = .text pair.2 := hvalue
          rw [htexts pairs hrest]
          rfl

end

end Expression

open Expression

/-! ## The entries of a service -/

/-- An entry of a service in a store: its key, and a value that stands for its data. -/
def Kept (store : Store) (entry : Datum × Datum) (held : Datum × Value) : Prop :=
  held.1 = entry.1 ∧ Stands store entry.2 held.2

theorem loadValues_ok (service : List (Datum × Datum)) (store : Store) :
    ∃ entries after, (loadValues service).run store = .ok entries after ∧ Grows store after ∧
      List.Forall₂ (Kept after) service entries := by
  induction service generalizing store with
  | nil => exact ⟨_, _, rfl, .refl _, .nil⟩
  | cons entry rest ih =>
      obtain ⟨v, middle, hd, hfirst, hstands⟩ := load_ok entry.2 store
      obtain ⟨entries, after, hrest, hgrows, hkept⟩ := ih middle
      exact ⟨_, _, (run_bind_of_ok hd).trans (run_bind_of_ok hrest), hfirst.trans hgrows,
        .cons ⟨rfl, hstands.grows hgrows⟩ hkept⟩

/-- The value under a name stands for the data under it. -/
theorem serviceEntry_stands {store : Store} {service : List (Datum × Datum)}
    {entries : List (Datum × Value)} (h : List.Forall₂ (Kept store) service entries)
    {name : String} {d : Datum} (hnamed : Datum.named? service name = some d) :
    Stands store d (serviceEntry entries name) := by
  unfold Datum.named? Datum.lookup? at hnamed
  unfold serviceEntry
  induction h with
  | nil => cases hnamed
  | @cons entry held _ _ hkept _ ih =>
      obtain ⟨hkey, hstands⟩ := hkept
      rw [List.find?_cons] at hnamed ⊢
      rw [hkey]
      cases hsame : (Datum.text name).same entry.1 with
      | true =>
          rw [hsame] at hnamed
          cases hnamed
          exact hstands
      | false =>
          rw [hsame] at hnamed
          exact ih hnamed

end ClusterDiscovery
