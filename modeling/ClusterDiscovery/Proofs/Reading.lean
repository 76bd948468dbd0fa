import ClusterDiscovery.Proofs.Traversal
import ClusterDiscovery.Resource.Reading

/-! # Reading records of a known shape

Data from outside may have any shape, and look-ups fail on most of them. The shapes below are
those of mapped resources. On them every look-up succeeds, and what it gives is a field.
-/

namespace ClusterDiscovery

namespace Datum

open Resource

/-! ## Texts as keys -/

theorem same_text_right {s : String} {d : Datum} : same d (.text s) = true ↔ d = .text s := by
  cases d <;> simp [same, sameNumber, number?]

@[simp] theorem same_text_text (s t : String) : same (.text s) (.text t) = (s == t) := by
  simp [same]

theorem sameAll_texts (xs ys : List String) :
    sameAll (xs.map .text) (ys.map .text) = (xs == ys) := by
  induction xs generalizing ys with
  | nil => cases ys <;> rfl
  | cons x xs ih =>
      cases ys with
      | nil => rfl
      | cons y ys => simp [sameAll, ih ys]

/-! ## Shapes -/

def IsMapping (d : Datum) : Prop := ∃ entries, d = .map entries

/-- A mapping whose keys are texts. -/
def IsRecord (d : Datum) : Prop := ∃ fields, d = record fields

def IsText (d : Datum) : Prop := ∃ s, d = .text s

def TextOrNull (d : Datum) : Prop := d = .null ∨ d.IsText

/-- Keys and values are texts. -/
def TextEntries (entries : List (Datum × Datum)) : Prop := ∀ e ∈ entries, e.1.IsText ∧ e.2.IsText

def textEntry (pair : String × String) : Datum × Datum := (.text pair.1, .text pair.2)

/-- Labels or annotations. They may be null or left out. -/
def Labelling (d : Datum) : Prop := d = .null ∨ ∃ entries, d = .map entries ∧ TextEntries entries

/-- A list of data of one shape. It may be null or left out. -/
def ListOf (shape : Datum → Prop) (d : Datum) : Prop :=
  d = .null ∨ ∃ items, d = .list items ∧ ∀ x ∈ items, shape x

/-- The elements of a list; null has none. -/
def items : Datum → List Datum
  | .list items => items
  | _ => []

theorem ListOf.mem {shape : Datum → Prop} {d x : Datum} (h : d.ListOf shape)
    (hx : x ∈ d.items) : shape x := by
  obtain rfl | ⟨xs, rfl, hxs⟩ := h
  · cases hx
  · exact hxs x hx

/-- Entries of texts are pairs of strings. -/
theorem TextEntries.eq_map {entries : List (Datum × Datum)} (h : TextEntries entries) :
    ∃ pairs : List (String × String), entries = pairs.map textEntry := by
  induction entries with
  | nil => exact ⟨[], rfl⟩
  | cons e entries ih =>
      obtain ⟨⟨k, hk⟩, v, hv⟩ := h e List.mem_cons_self
      obtain ⟨pairs, hpairs⟩ := ih fun e he => h e (List.mem_cons_of_mem _ he)
      refine ⟨(k, v) :: pairs, ?_⟩
      rw [List.map_cons, ← hpairs]
      exact congrArg (· :: entries) (Prod.ext hk hv)

theorem textEntries_map (pairs : List (String × String)) :
    TextEntries (pairs.map textEntry) := by
  intro e he
  obtain ⟨pair, -, rfl⟩ := List.mem_map.mp he
  exact ⟨⟨_, rfl⟩, ⟨_, rfl⟩⟩

theorem orElse_orElse (d fallback : Datum) :
    (d.orElse fallback).orElse fallback = d.orElse fallback := by
  cases h : d.truthy <;> simp [orElse, h]

/-! ## Fields -/

theorem IsMapping.optional {d : Datum} (h : d.IsMapping) (name : String) :
    d.optional name = .ok (fieldOf d name) := by
  obtain ⟨entries, rfl⟩ := h
  rfl

theorem IsRecord.isMapping {d : Datum} (h : d.IsRecord) : d.IsMapping := by
  obtain ⟨fields, rfl⟩ := h
  exact ⟨_, rfl⟩

theorem IsMapping.record (fields : List (String × Datum)) : (record fields).IsMapping :=
  ⟨_, rfl⟩

/-- The fields of a record are found by their names, the first of a name counts. -/
theorem fieldOf_record (fields : List (String × Datum)) (name : String) :
    fieldOf (record fields) name = ((fields.find? fun f => f.1 == name).map (·.2)).getD .null := by
  have hfind : named? (fields.map fun f => (Datum.text f.1, f.2)) name =
      (fields.find? fun f => f.1 == name).map (·.2) := by
    simp only [named?, lookup?, List.find?_map, Function.comp_def, same_text_text, Option.map_map]
    simp only [BEq.comm (a := name)]
  simp only [fieldOf, record, hfind]

theorem TextOrNull.textOrNull (s : Option String) : (textOrNull s).TextOrNull := by
  cases s with
  | none => exact .inl rfl
  | some s => exact .inr ⟨s, rfl⟩

theorem ListOf.map {α : Type} {shape : Datum → Prop} {f : α → Datum} (h : ∀ x, shape (f x))
    (xs : List α) : (Datum.list (xs.map f)).ListOf shape := by
  refine .inr ⟨_, rfl, ?_⟩
  intro d hd
  obtain ⟨x, -, rfl⟩ := List.mem_map.mp hd
  exact h x

/-- Nothing and an empty mapping have no fields. -/
theorem fieldOf_of_not_truthy {d : Datum} (h : d.truthy = false) (name : String) :
    fieldOf d name = .null := by
  cases d with
  | map entries =>
      cases entries with
      | nil => rfl
      | cons entry entries => cases h
  | _ => rfl

/-- A field that is not null is there. -/
theorem required_of_fieldOf {d v : Datum} {name : String} (h : fieldOf d name = v)
    (hv : v ≠ .null) : d.required name = .ok v := by
  cases d with
  | map entries =>
      cases hn : named? entries name with
      | none =>
          have hnull : v = .null := by simpa [fieldOf, hn] using h.symm
          exact absurd hnull hv
      | some found =>
          have hfound : found = v := by simpa [fieldOf, hn] using h
          simp [required, hn, hfound]
  | _ => exact absurd h.symm hv

theorem ListOf.elements_orElse {shape : Datum → Prop} {d : Datum} (h : d.ListOf shape) :
    (d.orElse (.list [])).elements = .ok d.items := by
  obtain rfl | ⟨xs, rfl, -⟩ := h
  · rfl
  · cases xs <;> rfl

theorem ListOf.elements {shape : Datum → Prop} {d : Datum} (h : d.ListOf shape)
    (nonempty : d.items.isEmpty = false) : d.elements = .ok d.items := by
  obtain rfl | ⟨xs, rfl, -⟩ := h
  · cases nonempty
  · rfl

theorem ListOf.truthy {shape : Datum → Prop} {d : Datum} (h : d.ListOf shape) :
    d.truthy = !d.items.isEmpty := by
  obtain rfl | ⟨xs, rfl, -⟩ := h <;> rfl

end Datum

end ClusterDiscovery
