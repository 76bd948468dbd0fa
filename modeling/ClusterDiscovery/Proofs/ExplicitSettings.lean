import ClusterDiscovery.Proofs.GivenSettings
import ClusterDiscovery.Proofs.SubsetInstances
import Mathlib

/-! # Settings that are given in full

Settings of discovery whose fields are all given as arguments, those of the metadata as a mapping
and not as an object of its own. No variable replaces an argument, but some still count: labels
that a variable adds are kept beside the given ones, further fields of the metadata are rejected,
and a variable that is no JSON ends the construction.
-/

namespace ClusterDiscovery

open Datum

/-! ## Labels -/

theorem Check.text_text (s : String) : Check.text (.text s) = .accepted s := rfl

/-- What a checked mapping holds under a name. -/
theorem Check.entries_lookup {α : Type} {check : Check α} {fields : List (Datum × Datum)}
    {pairs : List (String × α)} (texts : TextKeyed fields)
    (h : Check.entries check fields = .accepted pairs) (name : String) :
    (named? fields name = none ∧ pairs.lookup name = none) ∨
      ∃ d a, named? fields name = some d ∧ check d = .accepted a ∧ pairs.lookup name = some a := by
  induction fields generalizing pairs with
  | nil =>
      cases h
      exact .inl ⟨rfl, rfl⟩
  | cons e rest ih =>
      obtain ⟨key, d⟩ := e
      obtain ⟨k, rfl⟩ : ∃ k, key = .text k := texts (key, d) List.mem_cons_self
      rw [Check.entries] at h
      obtain ⟨g, pairs', hhead, hrest, rfl⟩ := Checked.seq_accepted.mp h
      obtain ⟨pair, hentry, rfl⟩ := Checked.map_accepted.mp hhead
      obtain ⟨g, a, hkey, hvalue, rfl⟩ := Checked.seq_accepted.mp hentry
      obtain ⟨k', hk, rfl⟩ := Checked.map_accepted.mp hkey
      obtain rfl : k = k' := Checked.accepted.inj hk
      have ha : check d = .accepted a := Checked.under_accepted.mp hvalue
      by_cases hname : k = name
      · subst hname
        exact .inr ⟨d, a, named?_cons_same rest k d, ha, by simp⟩
      · have hne : (name == k) = false := by simpa using fun heq => hname heq.symm
        rw [named?_cons_other rest fun heq => hname (Datum.text.inj heq), List.lookup_cons, hne]
        exact ih (fun e he => texts e (List.mem_cons_of_mem _ he)) hrest

theorem keys_labels (labels : List (String × String)) :
    keys (labels.map textEntry) = (labels.map (·.1)).map .text := by
  simp [keys, textEntry]

theorem labels_textKeyed (labels : List (String × String)) : TextKeyed (labels.map textEntry) :=
  fun e he => (textEntries_map labels e he).1

theorem labels_nodup {labels : List (String × String)} (h : (labels.map (·.1)).Nodup) :
    (keys (labels.map textEntry)).Nodup := by
  rw [keys_labels]
  exact List.Pairwise.map Datum.text (fun _ _ hne heq => hne (Datum.text.inj heq)) h

theorem named?_labels (labels : List (String × String)) (name : String) :
    named? (labels.map textEntry) name = (labels.lookup name).map .text := by
  induction labels with
  | nil => rfl
  | cons label rest ih =>
      obtain ⟨k, v⟩ := label
      by_cases hname : k = name
      · subst hname
        rw [List.map_cons, List.lookup_cons_self]
        exact named?_cons_same _ k (.text v)
      · have hne : (name == k) = false := by simpa using fun heq => hname heq.symm
        rw [List.map_cons, List.lookup_cons, hne, ← ih]
        exact named?_cons_other _ fun heq => hname (Datum.text.inj heq)

/-- Labels laid over other entries: where names agree, the labels count. -/
theorem named?_mergeEntries_labels {base : List (Datum × Datum)} {labels : List (String × String)}
    (distinct : (labels.map (·.1)).Nodup) (name : String) :
    named? (mergeEntries base (labels.map textEntry)) name =
      match labels.lookup name with
      | none => named? base name
      | some value => some (.text value) := by
  rw [named?_mergeEntries (labels_textKeyed labels) (labels_nodup distinct), named?_labels]
  cases labels.lookup name <;> rfl

/-! ## The variables that count -/

def Environment.discovery? (env : Environment) (name : String) : Option String :=
  Environment.valueOf? env.processVariables ("DISCOVERY_" ++ name)

/-- What the variable of a field says, if there is one. -/
def Environment.contribution (env : Environment) (shape : FieldShape) :
    Except Failure (Option Datum) :=
  contributed .process DiscoverySettings.form.lead env.processVariables shape

/-- Beside given labels, an environment adds nothing: a variable for the labels names none but
these, one for the metadata has no fields that do not exist, and where a variable has to be JSON,
it is. -/
structure Environment.AddsNothing (env : Environment) (labels : List (String × String)) :
    Prop where
  serviceLabels : ∀ written, env.discovery? "service_labels" = some written → ∃ d,
    Json.read? written = some d ∧ ∀ fields, d = .map fields →
      ∀ name, .text name ∈ keys fields → ∃ value, (name, value) ∈ labels
  knownSecurePorts : ∀ written, env.discovery? "known_secure_ports" = some written →
    ∃ d, Json.read? written = some d
  metadata : ∀ written, env.discovery? "metadata" = some written → ∃ d,
    Json.read? written = some d ∧ ∀ fields, d = .map fields →
      ∀ name, .text name ∈ keys fields →
        ∃ known ∈ MetadataSettings.form.names, Text.lowerCase known = Text.lowerCase name

theorem Environment.addsNothing_of_unset {env : Environment} {labels : List (String × String)}
    (h : ∀ name, env.discovery? name = none) : env.AddsNothing labels where
  serviceLabels := fun written hwritten => by simp [h] at hwritten
  knownSecurePorts := fun written hwritten => by simp [h] at hwritten
  metadata := fun written hwritten => by simp [h] at hwritten

/-- A value that counts for a field. -/
def unlessNull (d : Datum) : Option Datum := if d.isNull then none else some d

theorem unlessNull_eq_map {d : Datum} {fields : List (Datum × Datum)} :
    unlessNull d = some (.map fields) ↔ d = .map fields := by
  cases d <;> simp [unlessNull, isNull]

/-- A name is known as the name of a field exactly where the two agree, letter case aside. -/
theorem mem_knownName {shapes : List FieldShape} {name : String} :
    knownName shapes name ∈ shapes.map FieldShape.name ↔
      ∃ known ∈ shapes.map FieldShape.name, Text.lowerCase known = Text.lowerCase name := by
  unfold knownName
  cases hfind : FieldShape.find? shapes name with
  | some shape =>
      have hmem := List.mem_map_of_mem (f := FieldShape.name) (List.mem_of_find?_eq_some hfind)
      have hname : Text.lowerCase shape.name = Text.lowerCase name := by
        simpa using List.find?_some hfind
      exact ⟨fun _ => ⟨shape.name, hmem, hname⟩, fun _ => hmem⟩
  | none =>
      refine ⟨fun h => ⟨name, h, rfl⟩, ?_⟩
      rintro ⟨known, hknown, hname⟩
      obtain ⟨shape, hshape, rfl⟩ := List.mem_map.mp hknown
      exact absurd (by simpa using hname) (List.find?_eq_none.mp hfind shape hshape)

namespace Environment

variable {env : Environment} {name : String} {field : Option Datum}

/-- The variable of a field that is written in JSON. -/
theorem contribution_json {shape : FieldShape} {change : Datum → Datum}
    (hread : ∀ written, shape.read .process written = match Json.read? written with
      | none => .error (.undecodable shape.name .process)
      | some d => .ok ((unlessNull d).map change)) :
    env.contribution shape = .ok field ↔
      env.discovery? shape.name = none ∧ field = none ∨
        ∃ written d, env.discovery? shape.name = some written ∧ Json.read? written = some d ∧
          field = (unlessNull d).map change := by
  have hcontribution : env.contribution shape = match env.discovery? shape.name with
      | none => .ok none
      | some written => shape.read .process written := rfl
  rw [hcontribution]
  cases env.discovery? shape.name with
  | none => simp [eq_comm]
  | some written =>
      simp only [hread]
      cases hjson : Json.read? written with
      | none => simp [hjson]
      | some d => simp [hjson, eq_comm]

/-- What holds of the object that a variable adds, said of the JSON it is written in. -/
theorem contribution_satisfies (env : Environment) {shape : FieldShape} {change : Datum → Datum}
    (P : List (Datum × Datum) → Prop) (hnull : change .null = .null)
    (hread : ∀ written, shape.read .process written = match Json.read? written with
      | none => .error (.undecodable shape.name .process)
      | some d => .ok ((unlessNull d).map change)) :
    (∃ field, env.contribution shape = .ok field ∧ ∀ base, field = some (.map base) → P base) ↔
      ∀ written, env.discovery? shape.name = some written →
        ∃ d, Json.read? written = some d ∧ ∀ base, change d = .map base → P base := by
  have hadded (d : Datum) (base : List (Datum × Datum)) :
      (unlessNull d).map change = some (.map base) ↔ change d = .map base := by
    cases d <;> simp [unlessNull, isNull, hnull]
  constructor
  · rintro ⟨field, hfield, hP⟩ written hwritten
    rcases (contribution_json hread).mp hfield with ⟨hnone, -⟩ | ⟨written', d, hsome, hd, rfl⟩
    · rw [hnone] at hwritten
      cases hwritten
    · obtain rfl := Option.some.inj (hsome.symm.trans hwritten)
      exact ⟨d, hd, fun base hbase => hP base ((hadded d base).mpr hbase)⟩
  · intro h
    cases hdiscovery : env.discovery? shape.name with
    | none => exact ⟨none, (contribution_json hread).mpr (.inl ⟨hdiscovery, rfl⟩), nofun⟩
    | some written =>
        obtain ⟨d, hd, hP⟩ := h written hdiscovery
        exact ⟨_, (contribution_json hread).mpr (.inr ⟨written, d, hdiscovery, hd, rfl⟩),
          fun base hbase => hP base ((hadded d base).mp hbase)⟩

theorem read_structured (name written : String) :
    (FieldShape.structured name).read .process written = match Json.read? written with
      | none => .error (.undecodable name .process)
      | some d => .ok ((unlessNull d).map id) := by
  simp only [FieldShape.read]
  cases Json.read? written with
  | none => rfl
  | some d =>
      cases hnull : d.isNull <;>
        simp [bind, Except.bind, pure, Except.pure, unlessNull, hnull]

theorem read_nested (name : String) (shapes : List FieldShape) (written : String) :
    (FieldShape.nested name shapes).read .process written = match Json.read? written with
      | none => .error (.undecodable name .process)
      | some d => .ok ((unlessNull d).map (renameWithin shapes)) := by
  simp only [FieldShape.read]
  cases Json.read? written with
  | none => rfl
  | some d =>
      cases hnull : d.isNull <;>
        simp [bind, Except.bind, pure, Except.pure, unlessNull, hnull]

/-- The object that a variable adds has the fields of its JSON. -/
theorem structured_map {base : List (Datum × Datum)}
    (h : env.contribution (.structured name) = .ok (some (.map base))) : Json.Named base := by
  rcases (contribution_json (read_structured name)).mp h with
    ⟨-, hnone⟩ | ⟨written, d, -, hd, hsome⟩
  · cases hnone
  · rw [Option.map_id, id, eq_comm, unlessNull_eq_map] at hsome
    exact Json.named_of_read? (hsome ▸ hd)

theorem renameWithin_eq_map {shapes : List FieldShape} {d : Datum}
    {renamed : List (Datum × Datum)} (h : renameWithin shapes d = .map renamed) :
    ∃ fields, d = .map fields := by
  cases d
  case map fields => exact ⟨fields, rfl⟩
  all_goals simp [renameWithin] at h

theorem nested_map {shapes : List FieldShape} {base : List (Datum × Datum)}
    (h : env.contribution (.nested name shapes) = .ok (some (.map base))) : Json.Named base := by
  rcases (contribution_json (read_nested name shapes)).mp h with
    ⟨-, hnone⟩ | ⟨written, d, -, hd, hsome⟩
  · cases hnone
  · obtain ⟨d', hd', hrenamed⟩ := Option.map_eq_some_iff.mp hsome.symm
    obtain ⟨fields, rfl⟩ := renameWithin_eq_map hrenamed
    rw [unlessNull_eq_map] at hd'
    obtain ⟨renamed, hmap, htexts, honce, -⟩ :=
      renameWithin_map shapes (Json.named_of_read? (hd' ▸ hd)).1
    obtain rfl : renamed = base := Datum.map.inj (hmap.symm.trans hrenamed)
    exact ⟨htexts, honce⟩

/-- The fields that a nested object adds, all of them fields of its form. -/
theorem nested_known {shapes : List FieldShape} {d : Datum} {written : String}
    (hd : Json.read? written = some d) :
    (∀ base, renameWithin shapes d = .map base →
      ∀ name, .text name ∈ keys base → name ∈ shapes.map FieldShape.name) ↔
    ∀ fields, d = .map fields → ∀ name, .text name ∈ keys fields →
      ∃ known ∈ shapes.map FieldShape.name, Text.lowerCase known = Text.lowerCase name := by
  constructor
  · rintro h fields rfl name hname
    obtain ⟨renamed, hmap, -, -, hkeys⟩ :=
      renameWithin_map shapes (Json.named_of_read? hd).1
    exact mem_knownName.mp (h renamed hmap _ ((hkeys _).mpr ⟨name, hname, rfl⟩))
  · intro h base hbase name hname
    obtain ⟨fields, rfl⟩ := renameWithin_eq_map hbase
    obtain ⟨renamed, hmap, -, -, hkeys⟩ :=
      renameWithin_map shapes (Json.named_of_read? hd).1
    obtain rfl : renamed = base := Datum.map.inj (hmap.symm.trans hbase)
    obtain ⟨name', hname', heq⟩ := (hkeys _).mp hname
    rw [Datum.text.inj heq]
    exact mem_knownName.mpr (h fields rfl name' hname')

/-- What an environment that adds nothing contributes. -/
theorem addsNothing_iff {labels : List (String × String)} : env.AddsNothing labels ↔
    (∃ field, env.contribution (.structured "service_labels") = .ok field ∧
      ∀ base, field = some (.map base) →
        ∀ name, .text name ∈ keys base → ∃ value, (name, value) ∈ labels) ∧
    (∃ field, env.contribution (.structured "known_secure_ports") = .ok field) ∧
    ∃ field, env.contribution (.nested "metadata" MetadataSettings.form.fields) = .ok field ∧
      ∀ base, field = some (.map base) →
        ∀ name, .text name ∈ keys base → name ∈ MetadataSettings.form.names := by
  have hlabels := contribution_satisfies env
    (fun base => ∀ name, .text name ∈ keys base → ∃ value, (name, value) ∈ labels) rfl
    (read_structured "service_labels")
  have hports := contribution_satisfies env (fun _ => True) rfl
    (read_structured "known_secure_ports")
  have hmetadata := contribution_satisfies env
    (fun base => ∀ name, .text name ∈ keys base → name ∈ MetadataSettings.form.names)
    (by simp [renameWithin]) (read_nested "metadata" MetadataSettings.form.fields)
  simp only [implies_true, and_true] at hports
  rw [hlabels, hports, hmetadata]
  constructor
  · rintro ⟨hlabels, hports, hmetadata⟩
    refine ⟨hlabels, hports, fun written hwritten => ?_⟩
    obtain ⟨d, hd, hknown⟩ := hmetadata written hwritten
    exact ⟨d, hd, (nested_known hd).mpr hknown⟩
  · rintro ⟨hlabels, hports, hmetadata⟩
    refine ⟨hlabels, hports, fun written hwritten => ?_⟩
    obtain ⟨d, hd, hknown⟩ := hmetadata written hwritten
    exact ⟨d, hd, (nested_known hd).mp hknown⟩

end Environment

namespace DiscoverySettings

variable {env : Environment} {x : DiscoveryArguments} {s r : DiscoverySettings}

theorem form_nodup : form.names.Nodup := by decide

/-- Settings that differ from others in their labels at most, and hold the same labels. -/
structure Same (r s : DiscoverySettings) : Prop where
  fields : { r with serviceLabels := s.serviceLabels } = s
  labels : ∀ name, r.serviceLabels.lookup name = s.serviceLabels.lookup name

/-- Given all arguments, a check reads them. Labels and metadata may hold more than was given. -/
theorem check_accepted {given labels fields : List (Datum × Datum)} (reads : x.Reads s)
    (henabled : named? given "enabled" = some x.enabled)
    (hallNamespaces : named? given "all_namespaces" = some x.allNamespaces)
    (hlabels : named? given "service_labels" = some (.map labels))
    (hprimaryPortName : named? given "primary_port_name" = some x.primaryPortName)
    (hknownSecurePorts : named? given "known_secure_ports" = some x.knownSecurePorts)
    (hfilter : named? given "filter" = some x.filter)
    (hwatchDelay : named? given "catalog_services_watch_delay" = some x.watchDelay)
    (hmetadata : named? given "metadata" = some (.map fields))
    (hknown : ∀ name, .text name ∈ keys given → name ∈ form.names) :
    check env given = .accepted r ↔
      { r with serviceLabels := s.serviceLabels, metadata := s.metadata } = s ∧
      Check.entries Check.text labels = .accepted r.serviceLabels ∧
      MetadataSettings.load env fields = .ok r.metadata := by
  unfold check
  simp only [Checked.seqLeft_accepted, Checked.seq_accepted, Checked.map_accepted,
    optionalField_accepted henabled, optionalField_accepted hallNamespaces,
    optionalField_accepted hlabels, optionalField_accepted hprimaryPortName,
    optionalField_accepted hknownSecurePorts, optionalField_accepted hfilter,
    optionalField_accepted hwatchDelay, nestedField_accepted hmetadata, noFieldsBeyond_accepted,
    reads.enabled, reads.allNamespaces, reads.primaryPortName, reads.knownSecurePorts,
    reads.filter, reads.watchDelay, Checked.accepted.injEq, exists_eq_left', Check.mapping]
  constructor
  · rintro ⟨⟨_, metadata, ⟨_, _, ⟨_, _, ⟨_, _, ⟨_, _, ⟨_, held, ⟨_, _, rfl, rfl, rfl⟩, hheld, rfl⟩,
      rfl, rfl⟩, rfl, rfl⟩, rfl, rfl⟩, rfl, rfl⟩, hmetadata, rfl⟩, -⟩
    exact ⟨rfl, hheld, hmetadata⟩
  · rintro ⟨hsame, hheld, hmetadata⟩
    refine ⟨⟨_, _, ⟨_, _, ⟨_, _, ⟨_, _, ⟨_, _, ⟨_, _, ⟨_, _, rfl, rfl, rfl⟩, hheld, rfl⟩, rfl, rfl⟩,
      rfl, rfl⟩, rfl, rfl⟩, rfl, rfl⟩, hmetadata, ?_⟩, (), hknown⟩
    rw [← hsame]

theorem contribution_plain (env : Environment) (name : String) :
    ∃ field, env.contribution (.plain name) = .ok field := by
  unfold Environment.contribution contributed
  split
  · exact ⟨_, rfl⟩
  · exact ⟨_, rfl⟩

/-- What stands beside the given labels. -/
def laidOver (there : Option Datum) (entries : List (Datum × Datum)) : List (Datum × Datum) :=
  match there with
  | some (.map base) => mergeEntries base entries
  | _ => entries

theorem mergeInto_map (there : Option Datum) (entries : List (Datum × Datum)) :
    mergeInto there (.map entries) = .map (laidOver there entries) := by
  cases there with
  | none => rfl
  | some d => cases d <;> rfl

/-- What stands under the name of an argument. -/
theorem named?_gathered {gathered : List (Datum × Datum)}
    (hgather : form.gather env x.entries = .ok gathered) {shape : FieldShape}
    (hshape : shape ∈ form.fields) {d : Datum} (hd : named? x.entries shape.name = some d)
    {field : Option Datum} (hfield : env.contribution shape = .ok field) :
    named? gathered shape.name = some (mergeInto field d) := by
  obtain ⟨hfound, -⟩ := gather_ok rfl form_nodup x.entries_textKeyed x.entries_nodup hgather
  obtain ⟨field', hfield', hname⟩ := hfound shape hshape
  obtain rfl : field = field' := Except.ok.inj (hfield.symm.trans hfield')
  rw [hname, hd]

/-- An argument that is no mapping stands as it is given. -/
theorem named?_gathered_plain {gathered : List (Datum × Datum)}
    (hgather : form.gather env x.entries = .ok gathered) {name : String}
    (hshape : .plain name ∈ form.fields) {d : Datum} (hd : named? x.entries name = some d)
    (hplain : ¬ d.IsMapping) : named? gathered name = some d := by
  obtain ⟨field, hfield⟩ := contribution_plain env name
  have hname := named?_gathered hgather hshape hd hfield
  rwa [mergeInto_other hplain] at hname

/-- How settings are constructed from arguments that give every field. -/
theorem load_ok_iff (reads : x.Reads s) :
    load env x.entries = .ok r ↔ ∃ labels ports metadata,
      env.contribution (.structured "service_labels") = .ok labels ∧
      env.contribution (.structured "known_secure_ports") = .ok ports ∧
      env.contribution (.nested "metadata" MetadataSettings.form.fields) = .ok metadata ∧
      { r with serviceLabels := s.serviceLabels, metadata := s.metadata } = s ∧
      Check.entries Check.text (laidOver labels (x.serviceLabels.map textEntry)) =
        .accepted r.serviceLabels ∧
      MetadataSettings.load env (laidOver metadata x.metadata.entries) = .ok r.metadata := by
  have hload {gathered labels ports metadata} (hgather : form.gather env x.entries = .ok gathered)
      (hlabels : env.contribution (.structured "service_labels") = .ok labels)
      (hports : env.contribution (.structured "known_secure_ports") = .ok ports)
      (hmetadata : env.contribution (.nested "metadata" MetadataSettings.form.fields) =
        .ok metadata) :
      load env x.entries = .ok r ↔
        { r with serviceLabels := s.serviceLabels, metadata := s.metadata } = s ∧
        Check.entries Check.text (laidOver labels (x.serviceLabels.map textEntry)) =
          .accepted r.serviceLabels ∧
        MetadataSettings.load env (laidOver metadata x.metadata.entries) = .ok r.metadata := by
    obtain ⟨-, hwithin, -⟩ :=
      gather_ok rfl form_nodup x.entries_textKeyed x.entries_nodup hgather
    have hknown : ∀ name, .text name ∈ keys gathered → name ∈ form.names := by
      intro name hname
      rcases hwithin _ hname with hargument | ⟨known, hknown, heq⟩
      · simpa [keys, DiscoveryArguments.entries, SettingsForm.names, form, FieldShape.name]
          using hargument
      · rwa [Datum.text.inj heq]
    have hloaded : load env x.entries = (check env gathered).toExcept := by
      unfold load
      rw [hgather]
      rfl
    have hheld : named? gathered "service_labels" =
        some (mergeInto labels (.map (x.serviceLabels.map textEntry))) :=
      named?_gathered hgather (by simp [form]) rfl hlabels
    have hports : named? gathered "known_secure_ports" =
        some (mergeInto ports x.knownSecurePorts) :=
      named?_gathered hgather (by simp [form]) rfl hports
    have hnested : named? gathered "metadata" =
        some (mergeInto metadata (.map x.metadata.entries)) :=
      named?_gathered hgather (by simp [form]) rfl hmetadata
    rw [mergeInto_map] at hheld hnested
    rw [mergeInto_other (Check.intSet_rejectsMappings.isMapping reads.knownSecurePorts)] at hports
    rw [hloaded, Checked.toExcept_ok]
    exact check_accepted reads
      (named?_gathered_plain hgather (by simp [form]) rfl
        (Check.bool_rejectsMappings.isMapping reads.enabled))
      (named?_gathered_plain hgather (by simp [form]) rfl
        (Check.bool_rejectsMappings.isMapping reads.allNamespaces)) hheld
      (named?_gathered_plain hgather (by simp [form]) rfl
        (Check.nonBlank_rejectsMappings.isMapping reads.primaryPortName)) hports
      (named?_gathered_plain hgather (by simp [form]) rfl
        (Check.nonBlank_rejectsMappings.isMapping reads.filter))
      (named?_gathered_plain hgather (by simp [form]) rfl
        (Check.float_rejectsMappings.isMapping reads.watchDelay)) hnested hknown
  constructor
  · intro h
    obtain ⟨gathered, hgather, -⟩ := bind_eq_ok h
    obtain ⟨hfound, -⟩ := gather_ok rfl form_nodup x.entries_textKeyed x.entries_nodup hgather
    obtain ⟨labels, hlabels, -⟩ := hfound (.structured "service_labels") (by simp [form])
    obtain ⟨ports, hports, -⟩ := hfound (.structured "known_secure_ports") (by simp [form])
    obtain ⟨metadata, hmetadata, -⟩ :=
      hfound (.nested "metadata" MetadataSettings.form.fields) (by simp [form])
    exact ⟨labels, ports, metadata, hlabels, hports, hmetadata,
      (hload hgather hlabels hports hmetadata).mp h⟩
  · rintro ⟨labels, ports, metadata, hlabels, hports, hmetadata, h⟩
    have hall : ∀ shape ∈ form.fields, ∃ field, env.contribution shape = .ok field := by
      intro shape hshape
      simp only [form, List.mem_cons, List.not_mem_nil, or_false] at hshape
      rcases hshape with rfl | rfl | rfl | rfl | rfl | rfl | rfl | rfl
      case inr.inr.inl => exact ⟨labels, hlabels⟩
      case inr.inr.inr.inr.inl => exact ⟨ports, hports⟩
      case inr.inr.inr.inr.inr.inr.inr => exact ⟨metadata, hmetadata⟩
      all_goals exact contribution_plain env _
    obtain ⟨gathered, hgather⟩ := exists_gather rfl hall x.entries
    exact (hload hgather hlabels hports hmetadata).mpr h

/-! ## Labels of several sources -/

theorem lookup_of_mem {labels : List (String × String)} (distinct : (labels.map (·.1)).Nodup)
    {name value : String} (h : (name, value) ∈ labels) : labels.lookup name = some value := by
  have hnamed := named?_of_mem (labels_nodup distinct) (List.mem_map_of_mem h)
  rw [named?_labels] at hnamed
  obtain ⟨found, hfound, heq⟩ := Option.map_eq_some_iff.mp hnamed
  rw [hfound, Datum.text.inj heq]

theorem mem_of_lookup {labels : List (String × String)} {name value : String}
    (h : labels.lookup name = some value) : (name, value) ∈ labels := by
  have hnamed : named? (labels.map textEntry) name = some (.text value) := by
    rw [named?_labels, h]
    rfl
  obtain ⟨⟨name', value'⟩, hmem, heq⟩ := List.mem_map.mp (mem_of_named? hnamed)
  obtain ⟨hname, hvalue⟩ := Prod.mk.inj heq
  rwa [← Datum.text.inj hname, ← Datum.text.inj hvalue]

variable {labels pairs : List (String × String)} {there : Option Datum}

theorem laidOver_textKeyed {entries : List (Datum × Datum)} (h : TextKeyed entries)
    (hthere : ∀ base, there = some (.map base) → TextKeyed base) :
    TextKeyed (laidOver there entries) := by
  unfold laidOver
  split
  · exact mergeEntries_textKeyed (hthere _ rfl) h
  · exact h

/-- What stands under the name of a label. -/
theorem named?_laidOver (distinct : (labels.map (·.1)).Nodup) {name value : String}
    (hgiven : (name, value) ∈ labels) :
    named? (laidOver there (labels.map textEntry)) name = some (.text value) := by
  have hlookup := lookup_of_mem distinct hgiven
  unfold laidOver
  split
  · rw [named?_mergeEntries_labels distinct, hlookup]
  · rw [named?_labels, hlookup]
    rfl

/-- Given labels count, whatever is there besides. -/
theorem lookup_laidOver (distinct : (labels.map (·.1)).Nodup)
    (hthere : ∀ base, there = some (.map base) → TextKeyed base)
    (h : Check.entries Check.text (laidOver there (labels.map textEntry)) = .accepted pairs)
    {name value : String} (hgiven : (name, value) ∈ labels) : pairs.lookup name = some value := by
  have hnamed : named? (laidOver there (labels.map textEntry)) name = some (.text value) :=
    named?_laidOver distinct hgiven
  rcases Check.entries_lookup (laidOver_textKeyed (labels_textKeyed labels) hthere) h name with
    ⟨hnone, -⟩ | ⟨d, a, hd, ha, hlookup⟩
  · rw [hnamed] at hnone
    cases hnone
  · rw [hnamed] at hd
    rw [← Option.some.inj hd, Check.text_text] at ha
    rw [hlookup, Checked.accepted.inj ha]

/-- A name under which something stands is the name of a label. -/
theorem name_of_laidOver (hwithin : ∀ base, there = some (.map base) →
      ∀ name, .text name ∈ keys base → ∃ value, (name, value) ∈ labels)
    {name : String} {d : Datum} (h : named? (laidOver there (labels.map textEntry)) name = some d) :
    ∃ value, (name, value) ∈ labels := by
  have hlabel (hmem : Datum.text name ∈ keys (labels.map textEntry)) :
      ∃ value, (name, value) ∈ labels := by
    simpa [keys, textEntry] using hmem
  have hmem : Datum.text name ∈ keys (laidOver there (labels.map textEntry)) :=
    List.mem_map_of_mem (f := (·.1)) (mem_of_named? h)
  unfold laidOver at hmem
  split at hmem
  · next base =>
      rcases (mem_keys_mergeEntries (labels_textKeyed labels)).mp hmem with hold | hnew
      · exact hwithin base rfl name hold
      · exact hlabel hnew
  · exact hlabel hmem

/-- What is laid over entries that only name labels is labels. -/
theorem textEntries_laidOver (distinct : (labels.map (·.1)).Nodup)
    (hthere : ∀ base, there = some (.map base) → Json.Named base)
    (hwithin : ∀ base, there = some (.map base) →
      ∀ name, .text name ∈ keys base → ∃ value, (name, value) ∈ labels) :
    TextEntries (laidOver there (labels.map textEntry)) := by
  have honce : (keys (laidOver there (labels.map textEntry))).Nodup := by
    unfold laidOver
    split
    · next base => exact mergeEntries_nodup (hthere base rfl).2 (labels_textKeyed labels)
    · exact labels_nodup distinct
  intro e he
  obtain ⟨key, d⟩ := e
  obtain ⟨name, rfl⟩ : ∃ name, key = .text name :=
    laidOver_textKeyed (labels_textKeyed labels) (fun base hbase => (hthere base hbase).1) _ he
  have hnamed := named?_of_mem honce he
  obtain ⟨value, hvalue⟩ := name_of_laidOver hwithin hnamed
  rw [named?_laidOver distinct hvalue] at hnamed
  exact ⟨⟨name, rfl⟩, ⟨value, (Option.some.inj hnamed).symm⟩⟩

/-- Labels laid over others stay what they are exactly where the others name none besides. -/
theorem labels_same_iff (distinct : (labels.map (·.1)).Nodup)
    (hthere : ∀ base, there = some (.map base) → Json.Named base) :
    (∃ pairs, Check.entries Check.text (laidOver there (labels.map textEntry)) = .accepted pairs ∧
      ∀ name, pairs.lookup name = labels.lookup name) ↔
    ∀ base, there = some (.map base) → ∀ name, .text name ∈ keys base →
      ∃ value, (name, value) ∈ labels := by
  have htexts : TextKeyed (laidOver there (labels.map textEntry)) :=
    laidOver_textKeyed (labels_textKeyed labels) fun base hbase => (hthere base hbase).1
  constructor
  · rintro ⟨pairs, hpairs, hsame⟩ base rfl name hname
    have hmem : Datum.text name ∈ keys (laidOver (some (.map base)) (labels.map textEntry)) :=
      (mem_keys_mergeEntries (labels_textKeyed labels)).mpr (.inl hname)
    rcases Check.entries_lookup htexts hpairs name with ⟨hnone, -⟩ | ⟨d, value, -, -, hlookup⟩
    · exact absurd hmem (named?_eq_none.mp hnone)
    · exact ⟨value, mem_of_lookup ((hsame name).symm.trans hlookup)⟩
  · intro hwithin
    obtain ⟨pairs, hpairs⟩ := (textEntries_laidOver distinct hthere hwithin).eq_map
    have haccepted : Check.entries Check.text (laidOver there (labels.map textEntry)) =
        .accepted pairs := by
      rw [hpairs]
      exact Check.entries_texts pairs
    refine ⟨pairs, haccepted, fun name => ?_⟩
    cases hlabel : labels.lookup name with
    | some value =>
        exact lookup_laidOver distinct (fun base hbase => (hthere base hbase).1) haccepted
          (mem_of_lookup hlabel)
    | none =>
        rcases Check.entries_lookup htexts haccepted name with ⟨-, hnone⟩ | ⟨d, value, hd, -, -⟩
        · exact hnone
        · obtain ⟨value, hvalue⟩ := name_of_laidOver hwithin hd
          rw [lookup_of_mem distinct hvalue] at hlabel
          cases hlabel

/-- Metadata laid over other entries is what is given exactly where the others name its fields. -/
theorem metadata_load_ok (env : Environment) {metadata : Option Datum} {m : MetadataSettings}
    (reads : x.metadata.Reads s.metadata)
    (hthere : ∀ base, metadata = some (.map base) → Json.Named base) :
    MetadataSettings.load env (laidOver metadata x.metadata.entries) = .ok m ↔
      m = s.metadata ∧ ∀ base, metadata = some (.map base) →
        ∀ name, .text name ∈ keys base → name ∈ MetadataSettings.form.names := by
  have harguments : ∀ name, .text name ∈ keys x.metadata.entries →
      name ∈ MetadataSettings.form.names := by
    intro name hname
    simpa [keys, MetadataArguments.entries, SettingsForm.names, MetadataSettings.form,
      FieldShape.name] using hname
  unfold laidOver
  split
  · next base =>
      obtain ⟨htexts, honce⟩ := hthere base rfl
      have hgiven (name : String) (d : Datum) (h : named? x.metadata.entries name = some d) :
          named? (mergeEntries base x.metadata.entries) name = some d := by
        rw [named?_mergeEntries x.metadata.entries_textKeyed x.metadata.entries_nodup, h]
        exact congrArg some (mergeInto_other (MetadataSettings.argument_of_reads reads h).2 _)
      rw [MetadataSettings.load_ok env reads
        (mergeEntries_textKeyed htexts x.metadata.entries_textKeyed)
        (mergeEntries_nodup honce x.metadata.entries_textKeyed) hgiven]
      refine and_congr_right fun _ => ⟨?_, fun h name hname => ?_⟩
      · rintro h _ ⟨rfl⟩ name hname
        exact h name ((mem_keys_mergeEntries x.metadata.entries_textKeyed).mpr (.inl hname))
      · rcases (mem_keys_mergeEntries x.metadata.entries_textKeyed).mp hname with hbase | hargument
        · exact h base rfl name hbase
        · exact harguments name hargument
  · next hother =>
      rw [MetadataSettings.load_ok env reads x.metadata.entries_textKeyed
        x.metadata.entries_nodup fun _ _ h => h]
      exact and_congr_right fun _ =>
        ⟨fun _ base hbase => absurd hbase (hother base), fun _ => harguments⟩

/-- Settings that are given in full, the metadata as a mapping, are what is given exactly where the
environment adds nothing. Whenever they can be constructed at all, every field but the labels is
the given one, and every given label is among the labels. -/
theorem same_unless_added (env : Environment) (reads : x.Reads s) :
    ((∃ r, load env x.entries = .ok r ∧ r.Same s) ↔ env.AddsNothing s.serviceLabels) ∧
      ∀ r, load env x.entries = .ok r → { r with serviceLabels := s.serviceLabels } = s ∧
        ∀ name value, (name, value) ∈ s.serviceLabels →
          r.serviceLabels.lookup name = some value := by
  have hdistinct : (s.serviceLabels.map (·.1)).Nodup := reads.serviceLabels ▸ reads.distinct
  have hlabelsNamed {labels : Option Datum}
      (h : env.contribution (.structured "service_labels") = .ok labels) :
      ∀ base, labels = some (.map base) → Json.Named base := by
    rintro base rfl
    exact Environment.structured_map h
  have hmetadataNamed {metadata : Option Datum}
      (h : env.contribution (.nested "metadata" MetadataSettings.form.fields) = .ok metadata) :
      ∀ base, metadata = some (.map base) → Json.Named base := by
    rintro base rfl
    exact Environment.nested_map h
  rw [Environment.addsNothing_iff]
  refine ⟨⟨?_, ?_⟩, fun r hr => ?_⟩
  · rintro ⟨r, hr, hsame⟩
    obtain ⟨labels, ports, metadata, hlabels, hports, hmetadata, -, hheld, hnested⟩ :=
      (load_ok_iff reads).mp hr
    rw [reads.serviceLabels] at hheld
    have hwithin := (labels_same_iff hdistinct (hlabelsNamed hlabels)).mp
      ⟨_, hheld, hsame.labels⟩
    have hknown := ((metadata_load_ok env reads.metadata (hmetadataNamed hmetadata)).mp hnested).2
    exact ⟨⟨labels, hlabels, hwithin⟩, ⟨ports, hports⟩, metadata, hmetadata, hknown⟩
  · rintro ⟨⟨labels, hlabels, hwithin⟩, ⟨ports, hports⟩, metadata, hmetadata, hknown⟩
    obtain ⟨pairs, hpairs, hlookup⟩ :=
      (labels_same_iff hdistinct (hlabelsNamed hlabels)).mpr hwithin
    have hnested := (metadata_load_ok env reads.metadata (hmetadataNamed hmetadata)).mpr
      ⟨rfl, hknown⟩
    refine ⟨{ s with serviceLabels := pairs }, (load_ok_iff reads).mpr ?_, ⟨rfl, hlookup⟩⟩
    refine ⟨labels, ports, metadata, hlabels, hports, hmetadata, rfl, ?_, hnested⟩
    rw [reads.serviceLabels]
    exact hpairs
  · obtain ⟨labels, ports, metadata, hlabels, -, hmetadata, hfields, hheld, hnested⟩ :=
      (load_ok_iff reads).mp hr
    rw [reads.serviceLabels] at hheld
    have hmetadataSame : r.metadata = s.metadata :=
      ((metadata_load_ok env reads.metadata (hmetadataNamed hmetadata)).mp hnested).1
    refine ⟨?_, fun name value hgiven => ?_⟩
    · rw [← hmetadataSame] at hfields
      exact hfields
    · exact lookup_laidOver hdistinct (fun base hbase => (hlabelsNamed hlabels base hbase).1) hheld
        hgiven

/-- Settings without labels, given in full, get the label that a variable names. -/
theorem label_of_variable :
    ({} : DiscoverySettings).arguments.Reads {} ∧
      (¬ ∃ r, load ⟨[("DISCOVERY_SERVICE_LABELS", "\x7b\"tier\": \"backend\"\x7d")], none⟩
        ({} : DiscoverySettings).arguments.entries = .ok r ∧ r.Same {}) ∧
      ∃ r, load .empty ({} : DiscoverySettings).arguments.entries = .ok r ∧ r.Same {} := by
  have reads : ({} : DiscoverySettings).arguments.Reads {} :=
    arguments_reads ⟨by decide, by decide, nofun, nofun⟩
  have hempty : Environment.empty.AddsNothing [] := Environment.addsNothing_of_unset fun _ => rfl
  refine ⟨reads, fun hsame => ?_, (same_unless_added .empty reads).1.mpr hempty⟩
  have hadds := (same_unless_added _ reads).1.mp hsame
  obtain ⟨d, hd, hfields⟩ := hadds.serviceLabels "\x7b\"tier\": \"backend\"\x7d" (by cbv)
  have hread : Json.read? "\x7b\"tier\": \"backend\"\x7d" =
      some (.map [(.text "tier", .text "backend")]) := by cbv
  obtain ⟨value, hvalue⟩ :=
    hfields _ (Option.some.inj (hd.symm.trans hread)) "tier" List.mem_cons_self
  exact List.not_mem_nil hvalue

end DiscoverySettings

end ClusterDiscovery
