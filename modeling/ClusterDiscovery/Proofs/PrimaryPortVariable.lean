import ClusterDiscovery.Proofs.GivenSettings
import Mathlib.Control.Basic

/-! # The variable of the primary port

What settings become when an environment is changed in this variable alone. The primary port is
what the variable says, unless that is blank, and nothing else in the settings changes. This holds
as long as no variable gives the primary port as a field of a whole object.
-/

namespace ClusterDiscovery

open Datum

/-! ## Entries beside one name -/

namespace Datum

/-- The entries with other keys than a name. -/
def without (name : String) (entries : List (Datum × Datum)) : List (Datum × Datum) :=
  entries.filter fun e => !same (.text name) e.1

variable {entries : List (Datum × Datum)} {name : String} {key v : Datum}

theorem without_cons_same (rest : List (Datum × Datum)) (name : String) (v : Datum) :
    without name ((.text name, v) :: rest) = without name rest := by
  simp [without]

theorem without_cons_other (rest : List (Datum × Datum)) (h : key ≠ .text name) :
    without name ((key, v) :: rest) = (key, v) :: without name rest := by
  have hother : same (.text name) key = false :=
    Bool.eq_false_iff.mpr fun hsame => h (same_text_left.mp hsame)
  simp [without, hother]

theorem lookup?_without (entries : List (Datum × Datum)) (h : key ≠ .text name) :
    lookup? (without name entries) key = lookup? entries key := by
  simp only [lookup?, without, List.find?_filter]
  congr 2
  funext e
  by_cases hsame : same key e.1 = true
  · have hother : same (.text name) e.1 = false := by
      refine Bool.eq_false_iff.mpr fun hname => h ?_
      rw [same_text_left.mp hname] at hsame
      exact same_text_right.mp hsame
    simp [hsame, hother]
  · simp [hsame]

theorem named?_without (entries : List (Datum × Datum)) {other : String} (h : other ≠ name) :
    named? (without name entries) other = named? entries other :=
  lookup?_without entries fun heq => h (Datum.text.inj heq)

theorem without_put_same (entries : List (Datum × Datum)) (name : String) (v : Datum) :
    without name (put entries (.text name) v) = without name entries := by
  induction entries with
  | nil => simp [put, without]
  | cons e rest ih =>
      obtain ⟨k, there⟩ := e
      by_cases hkey : k = .text name
      · subst hkey
        rw [put, if_pos (by simp), without_cons_same, without_cons_same]
      · rw [put, if_neg fun hsame => hkey (same_text_left.mp hsame), without_cons_other _ hkey,
          without_cons_other _ hkey, ih]

theorem without_put_other (entries : List (Datum × Datum)) (h : key ≠ .text name) (v : Datum) :
    without name (put entries key v) = put (without name entries) key v := by
  induction entries with
  | nil => exact without_cons_other [] h
  | cons e rest ih =>
      obtain ⟨k, there⟩ := e
      by_cases hkey : k = .text name
      · have hsame : same key k ≠ true := fun hsame => h (same_text_right.mp (hkey ▸ hsame))
        subst hkey
        rw [put, if_neg hsame, without_cons_same, without_cons_same, ih]
      · rw [without_cons_other _ hkey, put, put]
        split
        · exact without_cons_other rest hkey
        · rw [without_cons_other _ hkey, ih]

/-- A merge goes on beside a name as if the name were not there. -/
theorem without_mergeEntries (base more : List (Datum × Datum)) (name : String) :
    without name (mergeEntries base more) =
      mergeEntries (without name base) (without name more) := by
  induction more generalizing base with
  | nil => simp [mergeEntries, without]
  | cons e rest ih =>
      obtain ⟨k, v⟩ := e
      rw [mergeEntries, ih]
      by_cases hkey : k = .text name
      · subst hkey
        rw [without_put_same, without_cons_same]
      · rw [without_put_other _ hkey, without_cons_other _ hkey, mergeEntries,
          lookup?_without _ hkey]

end Datum

/-- Fields that an object has are no reason to reject it. -/
theorem noFieldsBeyond_without {names : List String} {name : String} (known : name ∈ names)
    (given : List (Datum × Datum)) :
    noFieldsBeyond names (without name given) = noFieldsBeyond names given := by
  unfold noFieldsBeyond without
  rw [List.filterMap_filter]
  congr 2
  funext e
  obtain ⟨key, v⟩ := e
  by_cases hkey : key = .text name
  · subst hkey
    simp [known]
  · have hother : same (.text name) key = false :=
      Bool.eq_false_iff.mpr fun hsame => hkey (same_text_left.mp hsame)
    simp [hother]

/-! ## Checks -/

instance : LawfulApplicative Checked where
  map_const := rfl
  id_map c := by cases c <;> rfl
  seqLeft_eq c d := by cases c <;> cases d <;> rfl
  seqRight_eq c d := by cases c <;> cases d <;> rfl
  pure_seq g c := by cases c <;> rfl
  map_pure g a := rfl
  seq_pure g a := by cases g <;> rfl
  seq_assoc c g h := by
    cases c <;> cases g <;> cases h <;>
      simp [Seq.seq, Functor.map, Checked.map, Checked.both]
  comp_map g h c := by cases c <;> rfl

theorem Checked.toExcept_map {α β : Type} (f : α → β) (c : Checked α) :
    (f <$> c).toExcept = c.toExcept.map f := by
  cases c <;> rfl

/-- Nested settings that are loaded alike up to a change are checked alike up to that change. -/
theorem nestedField_map {α : Type} {given : List (Datum × Datum)} {name : String}
    {load load' : List (Datum × Datum) → Except Failure α} {change : α → α}
    (hnone : load' [] = (load []).map change)
    (hsome : ∀ fields, named? given name = some (.map fields) →
      load' fields = (load fields).map change) :
    nestedField given name load' = change <$> nestedField given name load := by
  unfold nestedField
  cases hgiven : named? given name with
  | none =>
      simp only [hnone]
      cases load [] <;> rfl
  | some d =>
      cases d with
      | map fields =>
          simp only [hsome fields hgiven]
          cases load fields with
          | ok a => rfl
          | error f => cases f <;> rfl
      | _ => rfl

/-! ## Environments that differ in one variable -/

theorem Text.lowerCase_ne {s t : String} (h : lower s.toList ≠ lower t.toList) :
    lowerCase s ≠ lowerCase t := fun heq => h (String.ofList_injective heq)

theorem Environment.valueOf?_congr {name name' : String}
    (h : Text.lowerCase name = Text.lowerCase name') (given : List Variable) :
    valueOf? given name = valueOf? given name' := by
  unfold valueOf?
  rw [h]

/-- The environments differ in no other variable than this one. The variables files may differ, as
long as the settings find the same in them. -/
structure Environment.DifferOnlyIn (changed : String) (env env' : Environment) : Prop where
  others : ∀ name, Text.lowerCase name ≠ Text.lowerCase changed →
    valueOf? env'.processVariables name = valueOf? env.processVariables name
  file : ∀ name ∈ Settings.form.names,
    valueOf? env'.fileVariables name = valueOf? env.fileVariables name

section Forms

variable {source : VariableSource} {lead : String} {given given' : List Variable}

theorem contributed_congr {shape : FieldShape}
    (h : Environment.valueOf? given' (lead ++ shape.name) =
      Environment.valueOf? given (lead ++ shape.name)) :
    contributed source lead given' shape = contributed source lead given shape := by
  unfold contributed
  rw [h]

theorem readFields_congr {shapes : List FieldShape}
    (h : ∀ shape ∈ shapes, contributed source lead given' shape =
      contributed source lead given shape) :
    readFields source lead given' shapes = readFields source lead given shapes := by
  induction shapes with
  | nil => rfl
  | cons shape rest ih =>
      rw [readFields_cons, readFields_cons, h shape List.mem_cons_self,
        ih fun other hother => h other (List.mem_cons_of_mem _ hother)]

theorem contributed_plain (source : VariableSource) (lead : String) (given : List Variable)
    (name : String) :
    contributed source lead given (.plain name) =
      .ok ((Environment.valueOf? given (lead ++ name)).map .text) := by
  unfold contributed
  cases hvalue : Environment.valueOf? given (lead ++ name) with
  | none => simp [FieldShape.name, hvalue]
  | some value =>
      simp only [FieldShape.name, hvalue]
      rfl

theorem without_withField_same (name : String) (field : Option Datum)
    (others : List (Datum × Datum)) :
    without name (withField name field others) = without name others := by
  cases field with
  | none => rfl
  | some d => exact without_cons_same others name d

theorem without_withField_other {name other : String} (h : other ≠ name) (field : Option Datum)
    (others : List (Datum × Datum)) :
    without name (withField other field others) = withField other field (without name others) := by
  cases field with
  | none => rfl
  | some d => exact without_cons_other others fun heq => h (Datum.text.inj heq)

/-- Where only the variable of a plain field differs, all other fields are read alike. -/
theorem readFields_beside {name : String} {shapes : List FieldShape}
    (plain : ∀ shape ∈ shapes, shape.name = name → shape = .plain name)
    (others : ∀ shape ∈ shapes, shape.name ≠ name →
      contributed source lead given' shape = contributed source lead given shape) :
    (readFields source lead given' shapes).map (without name) =
      (readFields source lead given shapes).map (without name) := by
  induction shapes with
  | nil => rfl
  | cons shape rest ih =>
      have hrest := ih (fun other hother => plain other (List.mem_cons_of_mem _ hother))
        fun other hother => others other (List.mem_cons_of_mem _ hother)
      by_cases hname : shape.name = name
      · -- A plain field never spoils the reading of the others.
        have hskip (vars : List Variable) :
            (readFields source lead vars (.plain name :: rest)).map (without name) =
              (readFields source lead vars rest).map (without name) := by
          rw [readFields_cons, contributed_plain]
          cases readFields source lead vars rest with
          | error f => rfl
          | ok found => exact congrArg Except.ok (without_withField_same name _ found)
        rw [plain shape List.mem_cons_self hname, hskip, hskip, hrest]
      · have hkeep (vars : List Variable) (field : Option Datum)
            (hfield : contributed source lead vars shape = .ok field) :
            (readFields source lead vars (shape :: rest)).map (without name) =
              ((readFields source lead vars rest).map (without name)).map
                (withField shape.name field) := by
          rw [readFields_cons, hfield]
          cases readFields source lead vars rest with
          | error f => rfl
          | ok found => exact congrArg Except.ok (without_withField_other hname field found)
        have hsame := others shape List.mem_cons_self hname
        cases hfield : contributed source lead given shape with
        | error f =>
            rw [readFields_cons, readFields_cons, hsame, hfield]
            rfl
        | ok field =>
            rw [hkeep given field hfield, hkeep given' field (hsame.trans hfield), hrest]

end Forms

/-! ## The variable of the primary port -/

def primaryPortVariable : String := "DISCOVERY_PRIMARY_PORT_NAME"

/-- The primary port that the variable gives. A blank text gives none. -/
def Environment.primaryPort? (env : Environment) : Option String :=
  (valueOf? env.processVariables primaryPortVariable).filter fun s => !(Text.trim s).isEmpty

def DiscoverySettings.withPrimaryPort (s : DiscoverySettings) (primaryPortName : Option String) :
    DiscoverySettings := { s with primaryPortName }

def Settings.withPrimaryPort (s : Settings) (primaryPortName : Option String) : Settings :=
  { s with discovery := s.discovery.withPrimaryPort primaryPortName }

variable {env env' : Environment}

theorem SettingsForm.gather_congr {form : SettingsForm}
    (process : ∀ shape ∈ form.fields,
      Environment.valueOf? env'.processVariables (form.lead ++ shape.name) =
        Environment.valueOf? env.processVariables (form.lead ++ shape.name))
    (file : form.readsFile = true → ∀ shape ∈ form.fields,
      Environment.valueOf? env'.fileVariables (form.lead ++ shape.name) =
        Environment.valueOf? env.fileVariables (form.lead ++ shape.name))
    (arguments : List (Datum × Datum)) :
    form.gather env' arguments = form.gather env arguments := by
  unfold gather
  rw [readFields_congr fun shape hshape => contributed_congr (process shape hshape)]
  cases hfile : form.readsFile with
  | false =>
      -- To close this by evaluation would compare the variables files, which are not read.
      simp only [Bool.false_eq_true, if_false]
  | true =>
      rw [readFields_congr fun shape hshape => contributed_congr (file hfile shape hshape)]

/-- A form with other variables finds the same in the process. -/
theorem Environment.DifferOnlyIn.process {changed : String} (h : env.DifferOnlyIn changed env')
    (form : SettingsForm) (others : ∀ shape ∈ form.fields,
      Text.lower (form.lead ++ shape.name).toList ≠ Text.lower changed.toList) :
    ∀ shape ∈ form.fields, valueOf? env'.processVariables (form.lead ++ shape.name) =
      valueOf? env.processVariables (form.lead ++ shape.name) :=
  fun shape hshape => h.others _ (Text.lowerCase_ne (others shape hshape))

theorem KubernetesSettings.load_congr (h : env.DifferOnlyIn primaryPortVariable env') :
    load env' = load env := by
  funext arguments
  unfold load
  rw [SettingsForm.gather_congr (h.process form (by decide +kernel)) nofun]

theorem MetadataSettings.load_congr (h : env.DifferOnlyIn primaryPortVariable env') :
    load env' = load env := by
  funext arguments
  unfold load
  rw [SettingsForm.gather_congr (h.process form (by decide +kernel)) nofun]

theorem Settings.gather_congr (h : env.DifferOnlyIn primaryPortVariable env')
    (arguments : List (Datum × Datum)) :
    form.gather env' arguments = form.gather env arguments := by
  refine SettingsForm.gather_congr (h.process form (by decide +kernel)) ?_ arguments
  intro _ shape hshape
  have hname : form.lead ++ shape.name = shape.name := String.empty_append
  rw [hname]
  exact h.file shape.name (List.mem_map_of_mem hshape)

namespace DiscoverySettings

variable {given given' arguments : List (Datum × Datum)}

theorem gather_beside (h : env.DifferOnlyIn primaryPortVariable env')
    (arguments : List (Datum × Datum)) :
    (form.gather env' arguments).map (without "primary_port_name") =
      (form.gather env arguments).map (without "primary_port_name") := by
  have hgather (env : Environment) :
      (form.gather env arguments).map (without "primary_port_name") =
        ((readFields .process form.lead env.processVariables form.fields).map
          (without "primary_port_name")).map fun fields =>
            mergeEntries (mergeEntries [] fields) (without "primary_port_name" arguments) := by
    unfold SettingsForm.gather
    cases readFields .process form.lead env.processVariables form.fields with
    | error f => rfl
    | ok fields =>
        refine congrArg Except.ok ?_
        rw [without_mergeEntries, without_mergeEntries]
        rfl
  have hplain : ∀ shape ∈ form.fields, shape.name = "primary_port_name" →
      shape = .plain "primary_port_name" := by
    simp [form, FieldShape.name]
  have hothers : ∀ shape ∈ form.fields, shape.name ≠ "primary_port_name" →
      Text.lower (form.lead ++ shape.name).toList ≠ Text.lower primaryPortVariable.toList := by
    decide +kernel
  rw [hgather, hgather, readFields_beside hplain fun shape hshape hname =>
    contributed_congr (h.others _ (Text.lowerCase_ne (hothers shape hshape hname)))]

theorem nonBlank_text (s : String) :
    nonBlank (.text s) = .accepted ((some s).filter fun s => !(Text.trim s).isEmpty) := by
  unfold nonBlank blankAsNull
  cases hblank : (Text.trim s).isEmpty with
  | true =>
      simp only [hblank, if_true, Option.filter_some]
      rfl
  | false =>
      simp only [hblank, Option.filter_some]
      rfl

theorem gather_primaryPort (texts : TextKeyed arguments) (once : (keys arguments).Nodup)
    (absent : Datum.text "primary_port_name" ∉ keys arguments)
    (h : form.gather env arguments = .ok given) :
    optionalField given "primary_port_name" none nonBlank = .accepted env.primaryPort? := by
  have hnodup : form.names.Nodup := by decide
  have hvariable : Text.lowerCase (form.lead ++ "primary_port_name") =
      Text.lowerCase primaryPortVariable := congrArg String.ofList (by decide +kernel)
  obtain ⟨field, hfield, hname⟩ :=
    (gather_ok rfl hnodup texts once h).1 (.plain "primary_port_name") (by simp [form])
  rw [contributed_plain, Environment.valueOf?_congr hvariable] at hfield
  simp only [FieldShape.name, named?_eq_none.mpr absent, ← Except.ok.inj hfield] at hname
  unfold optionalField Environment.primaryPort?
  rw [hname]
  cases Environment.valueOf? env.processVariables primaryPortVariable with
  | none => rfl
  | some s =>
      simp only [Option.map_some, nonBlank_text]
      rfl

/-- Data that agree beside the primary port are checked alike up to the primary port. -/
theorem check_beside {p p' : Option String} (h : env.DifferOnlyIn primaryPortVariable env')
    (beside : without "primary_port_name" given' = without "primary_port_name" given)
    (hp : optionalField given "primary_port_name" none nonBlank = .accepted p)
    (hp' : optionalField given' "primary_port_name" none nonBlank = .accepted p') :
    check env' given' = (·.withPrimaryPort p') <$> check env given := by
  have hnamed {other : String} (hother : other ≠ "primary_port_name") :
      named? given' other = named? given other := by
    rw [← named?_without given' hother, beside, named?_without given hother]
  have hfield {α : Type} {other : String} (hother : other ≠ "primary_port_name") (default : α)
      (c : Check α) :
      optionalField given' other default c = optionalField given other default c := by
    unfold optionalField
    rw [hnamed hother]
  have hmetadata : nestedField given' "metadata" (MetadataSettings.load env') =
      nestedField given "metadata" (MetadataSettings.load env) := by
    unfold nestedField
    rw [hnamed (by decide), MetadataSettings.load_congr h]
  have hbeyond : noFieldsBeyond form.names given' = noFieldsBeyond form.names given := by
    have hknown : "primary_port_name" ∈ form.names := by decide
    rw [← noFieldsBeyond_without hknown given', beside, noFieldsBeyond_without hknown]
  unfold check
  rw [hp, hp', hfield (by decide), hfield (by decide), hfield (by decide), hfield (by decide),
    hfield (by decide), hfield (by decide), hmetadata, hbeyond]
  -- All other arguments of the constructor are the same, and a change of the primary port can be
  -- made before they are filled in.
  have haccepted (q : Option String) : Checked.accepted q = pure q := rfl
  simp only [haccepted, seqLeft_eq, map_seq, Functor.map_map, seq_pure]
  rfl

theorem load_changed (h : env.DifferOnlyIn primaryPortVariable env')
    (texts : TextKeyed arguments) (once : (keys arguments).Nodup)
    (absent : Datum.text "primary_port_name" ∉ keys arguments) :
    load env' arguments = (load env arguments).map (·.withPrimaryPort env'.primaryPort?) := by
  have hbeside := gather_beside h arguments
  unfold load
  cases hgiven : form.gather env arguments with
  | error f =>
      rw [hgiven] at hbeside
      cases hgiven' : form.gather env' arguments with
      | error f' =>
          rw [hgiven'] at hbeside
          cases hbeside
          rfl
      | ok given' =>
          rw [hgiven'] at hbeside
          cases hbeside
  | ok given =>
      rw [hgiven] at hbeside
      cases hgiven' : form.gather env' arguments with
      | error f' =>
          rw [hgiven'] at hbeside
          cases hbeside
      | ok given' =>
          rw [hgiven'] at hbeside
          have hcheck := check_beside h (Except.ok.inj hbeside)
            (gather_primaryPort texts once absent hgiven)
            (gather_primaryPort texts once absent hgiven')
          show (check env' given').toExcept = (check env given).toExcept.map _
          rw [hcheck, Checked.toExcept_map]

end DiscoverySettings

/-! ## Objects that leave the primary port -/

/-- If the variable for the whole of discovery is an object, it has no field for the primary
port. -/
def LeavesPrimaryPort (given : List Variable) : Prop :=
  ∀ text fields, Environment.valueOf? given "DISCOVERY" = some text →
    Json.read? text = some (.map fields) →
      ∀ name, .text name ∈ keys fields → Text.lowerCase name ≠ "primary_port_name"

/-- Fields under names of their own, none of which is the primary port. -/
structure FieldsBesidePort (fields : List (Datum × Datum)) : Prop where
  texts : TextKeyed fields
  once : (keys fields).Nodup
  absent : Datum.text "primary_port_name" ∉ keys fields

theorem FieldsBesidePort.mergeEntries {base more : List (Datum × Datum)}
    (hbase : FieldsBesidePort base) (hmore : FieldsBesidePort more) :
    FieldsBesidePort (mergeEntries base more) where
  texts := mergeEntries_textKeyed hbase.texts hmore.texts
  once := mergeEntries_nodup hbase.once hmore.texts
  absent := by
    rw [mem_keys_mergeEntries hmore.texts]
    exact not_or.mpr ⟨hbase.absent, hmore.absent⟩

theorem lowerCase_of_knownName {shapes : List FieldShape} {name known : String}
    (h : knownName shapes name = known) : Text.lowerCase name = Text.lowerCase known := by
  unfold knownName at h
  cases hfind : FieldShape.find? shapes name with
  | none =>
      rw [hfind] at h
      rw [← h]
      rfl
  | some shape =>
      rw [hfind] at h
      have hname : Text.lowerCase shape.name = Text.lowerCase name := by
        simpa using List.find?_some hfind
      rw [← hname, ← h]
      rfl

theorem contributed_besidePort {source : VariableSource} {given : List Variable}
    (h : LeavesPrimaryPort given) {shapes : List FieldShape} {fields : List (Datum × Datum)}
    (hread : contributed source Settings.form.lead given (.nested "discovery" shapes) =
      .ok (some (.map fields))) : FieldsBesidePort fields := by
  have hvariable : Text.lowerCase (Settings.form.lead ++ "discovery") =
      Text.lowerCase "DISCOVERY" := congrArg String.ofList (by decide +kernel)
  unfold contributed at hread
  simp only [FieldShape.name, Environment.valueOf?_congr hvariable] at hread
  cases hvalue : Environment.valueOf? given "DISCOVERY" with
  | none => simp [hvalue] at hread
  | some text =>
      simp only [hvalue, FieldShape.read] at hread
      cases hjson : Json.read? text with
      | none =>
          rw [hjson] at hread
          cases hread
      | some d =>
          rw [hjson] at hread
          cases d with
          | map raw =>
              obtain ⟨renamed, hrenamed, htexts, hnodup, hkeys⟩ :=
                renameWithin_map shapes (Json.named_of_read? hjson).1
              have hfields : some (renameWithin shapes (.map raw)) = some (.map fields) :=
                Except.ok.inj hread
              rw [hrenamed] at hfields
              obtain rfl : renamed = fields := Datum.map.inj (Option.some.inj hfields)
              refine ⟨htexts, hnodup, fun hport => ?_⟩
              obtain ⟨name, hname, hknown⟩ := (hkeys _).mp hport
              have hlower := lowerCase_of_knownName (Datum.text.inj hknown).symm
              have hport : Text.lowerCase "primary_port_name" = "primary_port_name" := by
                decide +kernel
              exact h text raw hvalue hjson name hname (hlower.trans hport)
          | _ => cases hread

namespace Settings

variable {given : List (Datum × Datum)}

/-- The object for discovery is merged from the process and the file. -/
theorem gather_discovery (process : LeavesPrimaryPort env.processVariables)
    (file : LeavesPrimaryPort env.fileVariables) (h : form.gather env [] = .ok given)
    {fields : List (Datum × Datum)} (hgiven : named? given "discovery" = some (.map fields)) :
    FieldsBesidePort fields := by
  have hnodup : form.names.Nodup := by decide
  have hshape : FieldShape.nested "discovery" DiscoverySettings.form.fields ∈ form.fields := by
    simp [form]
  unfold SettingsForm.gather at h
  obtain ⟨fromProcess, hprocess, h⟩ := bind_eq_ok h
  obtain ⟨fromFile, hfile, h⟩ := bind_eq_ok h
  cases h
  obtain ⟨hmem, honce, hread⟩ := readFields_ok hnodup hprocess
  obtain ⟨-, -, hreadFile⟩ := readFields_ok hnodup hfile
  have hkeyed : TextKeyed fromProcess := by
    intro e he
    obtain ⟨shape, -, hkey⟩ := hmem e he
    exact ⟨_, hkey⟩
  have hbase (found : List (Datum × Datum))
      (hfound : named? fromFile "discovery" = some (.map found)) : FieldsBesidePort found :=
    contributed_besidePort file ((hreadFile _ hshape).trans (congrArg Except.ok hfound))
  have hmore (found : List (Datum × Datum))
      (hfound : named? fromProcess "discovery" = some (.map found)) : FieldsBesidePort found :=
    contributed_besidePort process ((hread _ hshape).trans (congrArg Except.ok hfound))
  rw [mergeEntries, named?_mergeEntries hkeyed honce] at hgiven
  cases hdiscovery : named? fromProcess "discovery" with
  | none =>
      rw [hdiscovery] at hgiven
      exact hbase fields hgiven
  | some v =>
      rw [hdiscovery] at hgiven
      have hmerged : mergeInto (named? fromFile "discovery") v = .map fields :=
        Option.some.inj hgiven
      cases v with
      | map more =>
          have hmore := hmore more hdiscovery
          unfold mergeInto at hmerged
          split at hmerged
          · next base hfound =>
              rw [← Datum.map.inj hmerged]
              exact (hbase base hfound).mergeEntries hmore
          · rwa [← Datum.map.inj hmerged]
      | _ => cases hmerged

/-- Settings in an environment that is changed in the variable of the primary port alone. -/
theorem load_changed (h : env.DifferOnlyIn primaryPortVariable env')
    (process : LeavesPrimaryPort env.processVariables)
    (file : LeavesPrimaryPort env.fileVariables) :
    load env' [] = (load env []).map (·.withPrimaryPort env'.primaryPort?) := by
  unfold load
  rw [gather_congr h]
  cases hgather : form.gather env [] with
  | error f => rfl
  | ok given =>
      have hdiscovery : nestedField given "discovery" (DiscoverySettings.load env') =
          (·.withPrimaryPort env'.primaryPort?) <$>
            nestedField given "discovery" (DiscoverySettings.load env) := by
        refine nestedField_map ?_ fun fields hfields => ?_
        · exact DiscoverySettings.load_changed h nofun List.nodup_nil nofun
        · obtain ⟨texts, once, absent⟩ := gather_discovery process file hgather hfields
          exact DiscoverySettings.load_changed h texts once absent
      have hcheck : check env' given =
          (·.withPrimaryPort env'.primaryPort?) <$> check env given := by
        unfold check
        rw [hdiscovery, KubernetesSettings.load_congr h]
        simp only [map_seq, seq_map_assoc, Functor.map_map]
        rfl
      show (check env' given).toExcept = (check env given).toExcept.map _
      rw [hcheck, Checked.toExcept_map]

end Settings

end ClusterDiscovery
