import ClusterDiscovery.Proofs.Reading
import ClusterDiscovery.Proofs.Traversal
import ClusterDiscovery.Settings.Sources

/-! # Settings from several sources

What a field is when arguments and variables set it: the arguments win, and where both give a
mapping the entries of the arguments are laid over those of the variables. Reading the variables
fails exactly where the text of a structured one is no JSON.
-/

namespace ClusterDiscovery

namespace Datum

/-! ## Entries with texts as keys -/

theorem same_text_left {s : String} {d : Datum} : same (.text s) d = true ↔ d = .text s := by
  cases d
  case text t => simpa using eq_comm
  all_goals simp [same, sameNumber, number?]

/-- All keys are texts. -/
def TextKeyed (entries : List (Datum × Datum)) : Prop := ∀ e ∈ entries, e.1.IsText

def keys (entries : List (Datum × Datum)) : List Datum := entries.map (·.1)

variable {entries : List (Datum × Datum)} {name : String} {v : Datum}

theorem named?_cons_same (rest : List (Datum × Datum)) (name : String) (v : Datum) :
    named? ((.text name, v) :: rest) name = some v := by
  simp [named?, lookup?]

theorem named?_cons_other {e : Datum × Datum} (rest : List (Datum × Datum))
    (h : e.1 ≠ .text name) : named? (e :: rest) name = named? rest name := by
  have hother : same (.text name) e.1 = false :=
    Bool.eq_false_iff.mpr fun hsame => h (same_text_left.mp hsame)
  simp [named?, lookup?, hother]

theorem named?_eq_none : named? entries name = none ↔ Datum.text name ∉ keys entries := by
  simp only [named?, lookup?, Option.map_eq_none_iff, List.find?_eq_none, same_text_left, keys,
    List.mem_map, Prod.exists, exists_and_right, exists_eq_right, not_exists, Prod.forall]
  exact ⟨fun h v hv => h _ v hv rfl, fun h key v hv heq => h v (heq ▸ hv)⟩

theorem mem_of_named? (h : named? entries name = some v) : (.text name, v) ∈ entries := by
  induction entries with
  | nil => cases h
  | cons e rest ih =>
      by_cases hkey : e.1 = .text name
      · obtain ⟨key, there⟩ := e
        obtain rfl : key = .text name := hkey
        rw [named?_cons_same] at h
        rw [Option.some.inj h]
        exact List.mem_cons_self
      · rw [named?_cons_other rest hkey] at h
        exact List.mem_cons_of_mem _ (ih h)

theorem named?_of_mem (nodup : (keys entries).Nodup) (h : (.text name, v) ∈ entries) :
    named? entries name = some v := by
  induction entries with
  | nil => cases h
  | cons e rest ih =>
      obtain ⟨hhead, htail⟩ := List.nodup_cons.mp nodup
      rcases List.mem_cons.mp h with rfl | hrest
      · exact named?_cons_same rest name v
      · have hkey : e.1 ≠ .text name := by
          intro heq
          refine hhead ?_
          show e.1 ∈ keys rest
          rw [heq]
          exact List.mem_map_of_mem hrest
        rw [named?_cons_other rest hkey]
        exact ih htail hrest

/-! ## One entry after another -/

theorem named?_put (entries : List (Datum × Datum)) (k : String) (v : Datum) (name : String) :
    named? (put entries (.text k) v) name = if k = name then some v else named? entries name := by
  induction entries with
  | nil =>
      split
      · next h => rw [h]; exact named?_cons_same [] name v
      · next h => exact named?_cons_other [] fun heq => h (Datum.text.inj heq)
  | cons e rest ih =>
      unfold put
      by_cases hkey : e.1 = .text k
      · rw [hkey, if_pos (by simp)]
        split
        · next h => rw [h]; exact named?_cons_same rest name v
        · next h =>
            have hother : Datum.text k ≠ .text name := fun heq => h (Datum.text.inj heq)
            rw [named?_cons_other rest hother, named?_cons_other rest (hkey ▸ hother)]
      · rw [if_neg fun hsame => hkey (same_text_left.mp hsame)]
        by_cases hname : e.1 = .text name
        · obtain ⟨key, there⟩ := e
          obtain rfl : key = .text name := hname
          have hne : k ≠ name := fun heq => hkey (by rw [heq])
          rw [named?_cons_same, named?_cons_same, if_neg hne]
        · rw [named?_cons_other _ hname, named?_cons_other _ hname, ih]

theorem mem_keys_put {k : String} {key : Datum} :
    key ∈ keys (put entries (.text k) v) ↔ key = .text k ∨ key ∈ keys entries := by
  induction entries with
  | nil => simp [put, keys]
  | cons e rest ih =>
      unfold put
      split
      · next hsame =>
          have hkey := same_text_left.mp hsame
          simp [keys, hkey]
      · have ih : key ∈ List.map (·.1) (put rest (.text k) v) ↔
            key = .text k ∨ key ∈ List.map (·.1) rest := ih
        simp only [keys, List.map_cons, List.mem_cons, ih]
        exact or_left_comm

theorem put_nodup (nodup : (keys entries).Nodup) (k : String) (v : Datum) :
    (keys (put entries (.text k) v)).Nodup := by
  induction entries with
  | nil => simp [put, keys]
  | cons e rest ih =>
      obtain ⟨hhead, htail⟩ := List.nodup_cons.mp nodup
      unfold put
      split
      · exact nodup
      · next hother =>
          refine List.nodup_cons.mpr ⟨fun hmem => ?_, ih htail⟩
          rcases mem_keys_put.mp hmem with hkey | hrest
          · exact hother (same_text_left.mpr hkey)
          · exact hhead hrest

end Datum

open Datum

/-! ## Merging -/

variable {base more : List (Datum × Datum)}

/-- Only mappings are merged. -/
theorem mergeInto_other {d : Datum} (h : ¬ d.IsMapping) (there : Option Datum) :
    mergeInto there d = d := by
  cases d
  case map entries => exact absurd ⟨entries, rfl⟩ h
  all_goals rfl

theorem mergeInto_none (d : Datum) : mergeInto none d = d := by
  cases d <;> rfl

/-- What stands under a name after a merge. -/
theorem named?_mergeEntries (texts : TextKeyed more) (nodup : (keys more).Nodup) (name : String) :
    named? (mergeEntries base more) name =
      match named? more name with
      | none => named? base name
      | some v => some (mergeInto (named? base name) v) := by
  induction more generalizing base with
  | nil => simp [mergeEntries, named?, lookup?]
  | cons e rest ih =>
      obtain ⟨key, v⟩ := e
      obtain ⟨k, rfl⟩ : ∃ k, key = .text k := texts (key, v) List.mem_cons_self
      obtain ⟨hhead, htail⟩ := List.nodup_cons.mp nodup
      rw [mergeEntries, ih (fun e he => texts e (List.mem_cons_of_mem _ he)) htail, named?_put]
      by_cases hname : k = name
      · obtain rfl := hname
        have hrest : named? rest k = none := named?_eq_none.mpr hhead
        rw [named?_cons_same, hrest]
        simp [named?]
      · rw [named?_cons_other rest fun heq => hname (Datum.text.inj heq), if_neg hname]

theorem mem_keys_mergeEntries {key : Datum} (texts : TextKeyed more) :
    key ∈ keys (mergeEntries base more) ↔ key ∈ keys base ∨ key ∈ keys more := by
  induction more generalizing base with
  | nil => simp [mergeEntries, keys]
  | cons e rest ih =>
      obtain ⟨first, v⟩ := e
      obtain ⟨k, rfl⟩ : ∃ k, first = .text k := texts (first, v) List.mem_cons_self
      rw [mergeEntries, ih fun e he => texts e (List.mem_cons_of_mem _ he), mem_keys_put]
      simp only [keys, List.map_cons, List.mem_cons]
      rw [or_assoc, or_left_comm]

theorem mem_keys_putAll {key : Datum} (texts : TextKeyed more) :
    key ∈ keys (putAll base more) ↔ key ∈ keys base ∨ key ∈ keys more := by
  induction more generalizing base with
  | nil => simp [putAll, keys]
  | cons e rest ih =>
      obtain ⟨first, v⟩ := e
      obtain ⟨k, rfl⟩ : ∃ k, first = .text k := texts (first, v) List.mem_cons_self
      have hstep : putAll base ((.text k, v) :: rest) = putAll (put base (.text k) v) rest := rfl
      rw [hstep, ih fun e he => texts e (List.mem_cons_of_mem _ he), mem_keys_put]
      simp only [keys, List.map_cons, List.mem_cons]
      rw [or_assoc, or_left_comm]

theorem putAll_nodup (hbase : (keys base).Nodup) (hmore : TextKeyed more) :
    (keys (putAll base more)).Nodup := by
  induction more generalizing base with
  | nil => exact hbase
  | cons e rest ih =>
      obtain ⟨first, v⟩ := e
      obtain ⟨k, rfl⟩ : ∃ k, first = .text k := hmore (first, v) List.mem_cons_self
      exact ih (put_nodup hbase k v) fun e he => hmore e (List.mem_cons_of_mem _ he)

theorem textKeyed_iff {entries : List (Datum × Datum)} :
    TextKeyed entries ↔ ∀ key ∈ keys entries, key.IsText := by
  simp [TextKeyed, keys]

theorem mergeEntries_textKeyed (hbase : TextKeyed base) (hmore : TextKeyed more) :
    TextKeyed (mergeEntries base more) := by
  refine textKeyed_iff.mpr fun key hkey => ?_
  rcases (mem_keys_mergeEntries hmore).mp hkey with hkey | hkey
  · exact textKeyed_iff.mp hbase key hkey
  · exact textKeyed_iff.mp hmore key hkey

theorem mergeEntries_nodup (hbase : (keys base).Nodup) (hmore : TextKeyed more) :
    (keys (mergeEntries base more)).Nodup := by
  induction more generalizing base with
  | nil => simpa [mergeEntries] using hbase
  | cons first rest ih =>
      obtain ⟨key, v⟩ := first
      obtain ⟨k, rfl⟩ : ∃ k, key = .text k := hmore (key, v) List.mem_cons_self
      rw [mergeEntries]
      exact ih (put_nodup hbase k _) fun e he => hmore e (List.mem_cons_of_mem _ he)

/-! ## Objects of a JSON text -/

namespace Json

/-- The fields of an object: all have names, and no name comes twice. -/
def Named (fields : List (Datum × Datum)) : Prop := TextKeyed fields ∧ (keys fields).Nodup

theorem Named.putField {fields : List (Datum × Datum)} (h : Named fields) (name : String)
    (v : Datum) : Named (putField fields name v) := by
  obtain ⟨htexts, hnodup⟩ := h
  unfold Json.putField
  simp only
  split
  · refine ⟨fun e he => ?_, ?_⟩
    · obtain ⟨old, hold, rfl⟩ := List.mem_map.mp he
      split <;> exact htexts old hold
    · simpa only [keys, List.map_map, Function.comp_def, apply_ite Prod.fst, ite_self] using hnodup
  · next hfresh =>
      refine ⟨fun e he => ?_, ?_⟩
      · rcases List.mem_append.mp he with hold | hnew
        · exact htexts e hold
        · rw [List.mem_singleton.mp hnew]
          exact ⟨name, rfl⟩
      · have hnew : Datum.text name ∉ keys fields := by
          intro hkey
          obtain ⟨e, he, heq⟩ := List.mem_map.mp hkey
          refine hfresh (List.any_eq_true.mpr ⟨e, he, ?_⟩)
          simp only [heq, BEq.rfl]
        rw [keys, List.map_append, List.map_singleton]
        refine List.nodup_append.mpr ⟨hnodup, by simp, fun key hkey b hb heq => hnew ?_⟩
        have hb : b = .text name := List.mem_singleton.mp hb
        rwa [← hb, ← heq]

theorem Named.nil : Named [] := ⟨fun _ he => absurd he List.not_mem_nil, List.nodup_nil⟩

/-- What is left to do once the parts of a number are known. -/
theorem number_isMapping {c : Prop} [Decidable c] {n : Int} {rest rest' : List Char}
    {exponent : Option Int} {x : Int → Float} {d : Datum}
    (h : (if c then pure (Datum.int n, rest)
      else do
        let e ← exponent
        return (Datum.float (x e), rest)) = some (d, rest')) : ¬ d.IsMapping := by
  split at h
  · cases h
    exact nofun
  · obtain ⟨_, -, h⟩ := Option.bind_eq_some_iff.mp h
    cases h
    exact nofun

theorem takeNumber?_isMapping {s rest : List Char} {d : Datum}
    (h : takeNumber? s = some (d, rest)) : ¬ d.IsMapping := by
  unfold takeNumber? at h
  split at h
  simp only at h
  split at h
  · cases h
  · split at h
    · split at h <;> exact number_isMapping h
    · exact number_isMapping h

theorem named_of_takeFields? {fuel : Nat} {fields found : List (Datum × Datum)}
    {s rest : List Char} (hfields : Named fields)
    (h : takeFields? fuel fields s = some (found, rest)) : Named found := by
  induction fuel generalizing fields s with
  | zero => cases h
  | succ fuel ih =>
      unfold takeFields? at h
      split at h
      · obtain ⟨⟨name, rest'⟩, -, h⟩ := Option.bind_eq_some_iff.mp h
        simp only at h
        split at h
        · obtain ⟨⟨v, rest''⟩, -, h⟩ := Option.bind_eq_some_iff.mp h
          simp only at h
          split at h
          · exact ih (hfields.putField _ v) h
          · cases h
            exact hfields.putField _ v
          · cases h
        · cases h
      · cases h

theorem named_of_takeValue? {fuel : Nat} {fields : List (Datum × Datum)} {s rest : List Char}
    (h : takeValue? fuel s = some (.map fields, rest)) : Named fields := by
  cases fuel with
  | zero => cases h
  | succ fuel =>
      unfold takeValue? at h
      split at h
      · obtain ⟨_, -, h⟩ := Option.bind_eq_some_iff.mp h
        cases h
      · split at h
        · cases h
        · obtain ⟨_, -, h⟩ := Option.bind_eq_some_iff.mp h
          cases h
      · split at h
        · cases h
          exact .nil
        · obtain ⟨⟨found, rest'⟩, hfound, h⟩ := Option.bind_eq_some_iff.mp h
          cases h
          exact named_of_takeFields? .nil hfound
      · split at h
        · next word v hfind =>
            cases h
            have hmem := List.mem_of_find?_eq_some hfind
            simp [words] at hmem
        · exact absurd ⟨fields, rfl⟩ (takeNumber?_isMapping h)

/-- The fields of the object that a JSON text is. -/
theorem named_of_read? {text : String} {fields : List (Datum × Datum)}
    (h : read? text = some (.map fields)) : Named fields := by
  unfold read? at h
  obtain ⟨⟨v, rest⟩, htake, h⟩ := Option.bind_eq_some_iff.mp h
  simp only at h
  split at h
  · cases h
    exact named_of_takeValue? htake
  · cases h

end Json

/-! ## The variables of a form -/

/-- What the variable of a field says, if there is one. -/
def contributed (source : VariableSource) (lead : String) (given : List Variable)
    (shape : FieldShape) : Except Failure (Option Datum) :=
  match Environment.valueOf? given (lead ++ shape.name) with
  | none => .ok none
  | some value => shape.read source value

section Reading

variable {source : VariableSource} {lead : String} {given : List Variable}

/-- The entry that a field adds, if it adds one. -/
def withField (name : String) (field : Option Datum) (others : List (Datum × Datum)) :
    List (Datum × Datum) :=
  match field with
  | some d => (.text name, d) :: others
  | none => others

theorem readFields_cons (shape : FieldShape) (rest : List FieldShape) :
    readFields source lead given (shape :: rest) = (do
      let field ← contributed source lead given shape
      let others ← readFields source lead given rest
      return withField shape.name field others) := by
  rw [readFields]
  unfold contributed
  cases Environment.valueOf? given (lead ++ shape.name) <;> rfl

/-- The variables of a form are read one by one, and every field has its own entry. -/
theorem readFields_ok {shapes : List FieldShape} {fields : List (Datum × Datum)}
    (nodup : (shapes.map FieldShape.name).Nodup)
    (h : readFields source lead given shapes = .ok fields) :
    (∀ e ∈ fields, ∃ shape ∈ shapes, e.1 = .text shape.name) ∧ (keys fields).Nodup ∧
      ∀ shape ∈ shapes, contributed source lead given shape = .ok (named? fields shape.name) := by
  induction shapes generalizing fields with
  | nil =>
      cases h
      exact ⟨nofun, List.nodup_nil, nofun⟩
  | cons shape rest ih =>
      rw [readFields_cons] at h
      obtain ⟨field, hfield, h⟩ := bind_eq_ok h
      obtain ⟨others, hothers, h⟩ := bind_eq_ok h
      cases h
      obtain ⟨hhead, htail⟩ := List.nodup_cons.mp nodup
      obtain ⟨hmem, hnodup, hread⟩ := ih htail hothers
      have hfresh : Datum.text shape.name ∉ keys others := by
        intro hkey
        obtain ⟨e, he, heq⟩ := List.mem_map.mp hkey
        obtain ⟨other, hother, hname⟩ := hmem e he
        have hsame : shape.name = other.name := Datum.text.inj (heq.symm.trans hname)
        exact hhead (hsame ▸ List.mem_map_of_mem hother)
      cases field with
      | none =>
          refine ⟨fun e he => ?_, hnodup, fun found hfound => ?_⟩
          · obtain ⟨other, hother, hname⟩ := hmem e he
            exact ⟨other, List.mem_cons_of_mem _ hother, hname⟩
          · rcases List.mem_cons.mp hfound with rfl | hrest
            · rw [hfield, withField, named?_eq_none.mpr hfresh]
            · exact hread found hrest
      | some d =>
          refine ⟨fun e he => ?_, List.nodup_cons.mpr ⟨hfresh, hnodup⟩, fun found hfound => ?_⟩
          · rcases List.mem_cons.mp he with rfl | hrest
            · exact ⟨shape, List.mem_cons_self, rfl⟩
            · obtain ⟨other, hother, hname⟩ := hmem e hrest
              exact ⟨other, List.mem_cons_of_mem _ hother, hname⟩
          · rcases List.mem_cons.mp hfound with rfl | hrest
            · rw [hfield, withField, named?_cons_same]
            · have hne : Datum.text shape.name ≠ .text found.name := by
                intro heq
                exact hhead (Datum.text.inj heq ▸ List.mem_map_of_mem hrest)
              rw [withField, named?_cons_other others hne]
              exact hread found hrest

/-- Where every variable can be read, the form can. -/
theorem exists_readFields {shapes : List FieldShape}
    (h : ∀ shape ∈ shapes, ∃ field, contributed source lead given shape = .ok field) :
    ∃ fields, readFields source lead given shapes = .ok fields := by
  induction shapes with
  | nil => exact ⟨[], rfl⟩
  | cons shape rest ih =>
      obtain ⟨field, hfield⟩ := h shape List.mem_cons_self
      obtain ⟨others, hothers⟩ := ih fun other hother => h other (List.mem_cons_of_mem _ hother)
      refine ⟨withField shape.name field others, ?_⟩
      rw [readFields_cons, hfield, hothers]
      rfl

end Reading

/-- What a form gathers from the process and the arguments: everything that the variables set,
with the arguments laid over it. -/
theorem gather_ok {form : SettingsForm} (hfile : form.readsFile = false)
    (nodup : form.names.Nodup) {env : Environment} {arguments given : List (Datum × Datum)}
    (texts : TextKeyed arguments) (once : (keys arguments).Nodup)
    (h : form.gather env arguments = .ok given) :
    (∀ shape ∈ form.fields, ∃ field,
      contributed .process form.lead env.processVariables shape = .ok field ∧
      named? given shape.name = match named? arguments shape.name with
        | none => field
        | some v => some (mergeInto field v)) ∧
    (∀ key ∈ keys given, key ∈ keys arguments ∨ ∃ name ∈ form.names, key = .text name) ∧
    ∀ key ∈ keys arguments, key ∈ keys given := by
  unfold SettingsForm.gather at h
  obtain ⟨fields, hfields, h⟩ := bind_eq_ok h
  rw [hfile] at h
  cases h
  obtain ⟨hmem, hnodup, hread⟩ := readFields_ok nodup hfields
  have hkeyed : TextKeyed fields := by
    intro e he
    obtain ⟨shape, -, hkey⟩ := hmem e he
    exact ⟨_, hkey⟩
  have hcopy (name : String) : named? (mergeEntries [] fields) name = named? fields name := by
    rw [named?_mergeEntries hkeyed hnodup]
    cases named? fields name with
    | none => rfl
    | some v => exact congrArg some (mergeInto_none v)
  refine ⟨fun shape hshape => ⟨_, hread shape hshape, ?_⟩, fun key hkey => ?_,
    fun key hkey => (mem_keys_mergeEntries texts).mpr (.inr hkey)⟩
  · rw [named?_mergeEntries texts once, hcopy]
  · rcases (mem_keys_mergeEntries texts).mp hkey with hbase | harguments
    · rcases (mem_keys_mergeEntries hkeyed).mp hbase with hnone | hset
      · cases hnone
      · obtain ⟨e, he, rfl⟩ := List.mem_map.mp hset
        obtain ⟨shape, hshape, hname⟩ := hmem e he
        exact .inr ⟨shape.name, List.mem_map_of_mem hshape, hname⟩
    · exact .inl harguments

theorem exists_gather {form : SettingsForm} (hfile : form.readsFile = false) {env : Environment}
    (h : ∀ shape ∈ form.fields, ∃ field,
      contributed .process form.lead env.processVariables shape = .ok field)
    (arguments : List (Datum × Datum)) : ∃ given, form.gather env arguments = .ok given := by
  obtain ⟨fields, hfields⟩ := exists_readFields h
  refine ⟨mergeEntries (mergeEntries [] fields) arguments, ?_⟩
  unfold SettingsForm.gather
  rw [hfields, hfile]
  rfl

/-! ## Names of nested fields -/

/-- The name under which a nested field is known. -/
def knownName (shapes : List FieldShape) (name : String) : String :=
  ((FieldShape.find? shapes name).map FieldShape.name).getD name

theorem keys_renameFields_cons (shapes : List FieldShape) (name : String) (v : Datum)
    (rest : List (Datum × Datum)) : keys (renameFields shapes ((.text name, v) :: rest)) =
      .text (knownName shapes name) :: keys (renameFields shapes rest) := by
  rw [renameFields]
  unfold knownName
  cases FieldShape.find? shapes name <;> rfl

theorem mem_keys_renameFields {shapes : List FieldShape} {fields : List (Datum × Datum)}
    (texts : TextKeyed fields) {key : Datum} :
    key ∈ keys (renameFields shapes fields) ↔
      ∃ name, .text name ∈ keys fields ∧ key = .text (knownName shapes name) := by
  induction fields with
  | nil => simp [renameFields, keys]
  | cons e rest ih =>
      obtain ⟨first, v⟩ := e
      obtain ⟨k, rfl⟩ : ∃ k, first = .text k := texts (first, v) List.mem_cons_self
      rw [keys_renameFields_cons, List.mem_cons, ih fun e he => texts e (List.mem_cons_of_mem _ he)]
      constructor
      · rintro (rfl | ⟨name, hname, rfl⟩)
        · exact ⟨k, List.mem_cons_self, rfl⟩
        · exact ⟨name, List.mem_cons_of_mem _ hname, rfl⟩
      · rintro ⟨name, hname, rfl⟩
        rcases List.mem_cons.mp hname with hhead | hrest
        · exact .inl (congrArg (Datum.text ∘ knownName shapes) (Datum.text.inj hhead))
        · exact .inr ⟨name, hrest, rfl⟩

/-- The fields of a nested object: each has a name once, the one under which it is known. -/
theorem renameWithin_map (shapes : List FieldShape) {fields : List (Datum × Datum)}
    (texts : TextKeyed fields) :
    ∃ renamed, renameWithin shapes (.map fields) = .map renamed ∧ TextKeyed renamed ∧
      (keys renamed).Nodup ∧ ∀ key, key ∈ keys renamed ↔
        ∃ name, .text name ∈ keys fields ∧ key = .text (knownName shapes name) := by
  have hrenamed : TextKeyed (renameFields shapes fields) := by
    refine textKeyed_iff.mpr fun key hkey => ?_
    obtain ⟨name, -, rfl⟩ := (mem_keys_renameFields texts).mp hkey
    exact ⟨_, rfl⟩
  have hkeys (key : Datum) : key ∈ keys (entriesOf (renameFields shapes fields)) ↔
      ∃ name, .text name ∈ keys fields ∧ key = .text (knownName shapes name) := by
    rw [entriesOf, mem_keys_putAll hrenamed, mem_keys_renameFields texts]
    simp [keys]
  refine ⟨_, by rw [renameWithin], textKeyed_iff.mpr fun key hkey => ?_, ?_, hkeys⟩
  · obtain ⟨name, -, rfl⟩ := (hkeys key).mp hkey
    exact ⟨_, rfl⟩
  · exact putAll_nodup List.nodup_nil hrenamed

end ClusterDiscovery
