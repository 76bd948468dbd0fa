import ClusterDiscovery.Proofs.MergedSources
import ClusterDiscovery.Settings.Loading

/-! # Settings as arguments

Settings whose fields are all given as arguments, and how they are read. Every settings can be
given in this way.
-/

namespace ClusterDiscovery

open Datum

/-! ## Accepted fields -/

namespace Checked

variable {α β : Type}

theorem map_accepted {f : α → β} {c : Checked α} {b : β} :
    (f <$> c) = accepted b ↔ ∃ a, c = accepted a ∧ f a = b := by
  cases c with
  | accepted a =>
      refine ⟨fun h => ⟨a, rfl, accepted.inj h⟩, ?_⟩
      rintro ⟨a', ha, rfl⟩
      rw [accepted.inj ha]
      rfl
  | rejected errors => exact ⟨nofun, nofun⟩
  | broken failure => exact ⟨nofun, nofun⟩

theorem seq_accepted {f : Checked (α → β)} {c : Checked α} {b : β} :
    (f <*> c) = accepted b ↔ ∃ g a, f = accepted g ∧ c = accepted a ∧ g a = b := by
  constructor
  · intro h
    cases f with
    | accepted g =>
        cases c with
        | accepted a => exact ⟨g, a, rfl, rfl, accepted.inj h⟩
        | rejected errors => cases h
        | broken failure => cases h
    | rejected errors => cases c <;> cases h
    | broken failure => cases h
  · rintro ⟨g, a, rfl, rfl, rfl⟩
    rfl

theorem seqLeft_accepted {c : Checked α} {d : Checked β} {a : α} :
    (c <* d) = accepted a ↔ c = accepted a ∧ ∃ b, d = accepted b := by
  constructor
  · intro h
    cases c with
    | accepted a' =>
        cases d with
        | accepted b => exact ⟨h, b, rfl⟩
        | rejected errors => cases h
        | broken failure => cases h
    | rejected errors => cases d <;> cases h
    | broken failure => cases h
  · rintro ⟨rfl, b, rfl⟩
    rfl

theorem under_accepted {step : FieldStep} {c : Checked α} {a : α} :
    c.under step = accepted a ↔ c = accepted a := by
  cases c <;> simp [under]

theorem toExcept_ok {c : Checked α} {a : α} : c.toExcept = .ok a ↔ c = accepted a := by
  cases c <;> simp [toExcept]

end Checked

section Fields

variable {α : Type} {given : List (Datum × Datum)} {name : String}

theorem optionalField_accepted {d : Datum} {default a : α} {check : Check α}
    (h : named? given name = some d) :
    optionalField given name default check = .accepted a ↔ check d = .accepted a := by
  simp only [optionalField, h, Checked.under_accepted]

theorem nestedField_accepted {fields : List (Datum × Datum)} {a : α}
    {load : List (Datum × Datum) → Except Failure α}
    (h : named? given name = some (.map fields)) :
    nestedField given name load = .accepted a ↔ load fields = .ok a := by
  simp only [nestedField, h]
  cases load fields with
  | ok b => simp
  | error f => cases f <;> simp [Checked.reject, Checked.under]

/-- Fields are rejected unless all of them are known. -/
theorem noFieldsBeyond_accepted {names : List String} {u : Unit} :
    noFieldsBeyond names given = .accepted u ↔ ∀ name, .text name ∈ keys given → name ∈ names := by
  unfold noFieldsBeyond
  split
  · next hnone =>
      refine ⟨fun _ name hname => ?_, fun _ => rfl⟩
      obtain ⟨⟨key, d⟩, he, rfl⟩ := List.mem_map.mp hname
      simpa using List.filterMap_eq_nil_iff.mp hnone _ he
  · next hextra =>
      refine ⟨fun h => ?_, fun h => absurd (List.filterMap_eq_nil_iff.mpr ?_) hextra⟩
      · cases h
      · rintro ⟨key, d⟩ he
        cases key
        case text name => simpa using h name (List.mem_map_of_mem he)
        all_goals rfl

end Fields

/-! ## Checks reject mappings -/

/-- No mapping passes a check. -/
def Check.RejectsMappings {α : Type} (check : Check α) : Prop :=
  ∀ entries a, check (.map entries) ≠ .accepted a

namespace Check

theorem RejectsMappings.isMapping {α : Type} {check : Check α} (rejects : check.RejectsMappings)
    {d : Datum} {a : α} (h : check d = .accepted a) : ¬ d.IsMapping := by
  rintro ⟨entries, rfl⟩
  exact rejects entries a h

theorem bool_rejectsMappings : RejectsMappings bool := nofun

theorem nullableText_rejectsMappings : RejectsMappings (nullable text) := nofun

theorem intSet_rejectsMappings : RejectsMappings intSet := nofun

theorem float_rejectsMappings : RejectsMappings float := nofun

theorem nonBlank_rejectsMappings : RejectsMappings DiscoverySettings.nonBlank := nofun

end Check

/-! ## Settings given in full -/

structure MetadataArguments where
  addLabels : Datum
  labelsPrefix : Datum
  addAnnotations : Datum
  annotationsPrefix : Datum
  addPorts : Datum
  portsPrefix : Datum

namespace MetadataArguments

def entries (x : MetadataArguments) : List (Datum × Datum) :=
  [(.text "add_labels", x.addLabels), (.text "labels_prefix", x.labelsPrefix),
    (.text "add_annotations", x.addAnnotations),
    (.text "annotations_prefix", x.annotationsPrefix), (.text "add_ports", x.addPorts),
    (.text "ports_prefix", x.portsPrefix)]

/-- Every argument is accepted, as the value of its field. -/
structure Reads (x : MetadataArguments) (s : MetadataSettings) : Prop where
  addLabels : Check.bool x.addLabels = .accepted s.addLabels
  labelsPrefix : Check.nullable Check.text x.labelsPrefix = .accepted s.labelsPrefix
  addAnnotations : Check.bool x.addAnnotations = .accepted s.addAnnotations
  annotationsPrefix : Check.nullable Check.text x.annotationsPrefix = .accepted s.annotationsPrefix
  addPorts : Check.bool x.addPorts = .accepted s.addPorts
  portsPrefix : Check.nullable Check.text x.portsPrefix = .accepted s.portsPrefix

theorem entries_textKeyed (x : MetadataArguments) : TextKeyed x.entries := by
  simp [TextKeyed, entries, IsText]

theorem entries_nodup (x : MetadataArguments) : (keys x.entries).Nodup := by
  simp [keys, entries]

end MetadataArguments

structure DiscoveryArguments where
  enabled : Datum
  allNamespaces : Datum
  serviceLabels : List (String × String)
  primaryPortName : Datum
  knownSecurePorts : Datum
  filter : Datum
  watchDelay : Datum
  metadata : MetadataArguments

namespace DiscoveryArguments

def entries (x : DiscoveryArguments) : List (Datum × Datum) :=
  [(.text "enabled", x.enabled), (.text "all_namespaces", x.allNamespaces),
    (.text "service_labels", .map (x.serviceLabels.map textEntry)),
    (.text "primary_port_name", x.primaryPortName),
    (.text "known_secure_ports", x.knownSecurePorts), (.text "filter", x.filter),
    (.text "catalog_services_watch_delay", x.watchDelay),
    (.text "metadata", .map x.metadata.entries)]

/-- Every argument is accepted, as the value of its field. Labels are a mapping. -/
structure Reads (x : DiscoveryArguments) (s : DiscoverySettings) : Prop where
  enabled : Check.bool x.enabled = .accepted s.enabled
  allNamespaces : Check.bool x.allNamespaces = .accepted s.allNamespaces
  serviceLabels : x.serviceLabels = s.serviceLabels
  distinct : (x.serviceLabels.map (·.1)).Nodup
  primaryPortName : DiscoverySettings.nonBlank x.primaryPortName = .accepted s.primaryPortName
  knownSecurePorts : Check.intSet x.knownSecurePorts = .accepted s.knownSecurePorts
  filter : DiscoverySettings.nonBlank x.filter = .accepted s.filter
  watchDelay : Check.float x.watchDelay = .accepted s.watchDelay
  metadata : x.metadata.Reads s.metadata

theorem entries_textKeyed (x : DiscoveryArguments) : TextKeyed x.entries := by
  simp [TextKeyed, entries, IsText]

theorem entries_nodup (x : DiscoveryArguments) : (keys x.entries).Nodup := by
  simp [keys, entries]

end DiscoveryArguments

/-! ## Settings as arguments -/

theorem nullableText_textOrNull (t : Option String) :
    Check.nullable Check.text (textOrNull t) = .accepted t := by
  cases t <;> rfl

def MetadataSettings.arguments (s : MetadataSettings) : MetadataArguments where
  addLabels := .bool s.addLabels
  labelsPrefix := textOrNull s.labelsPrefix
  addAnnotations := .bool s.addAnnotations
  annotationsPrefix := textOrNull s.annotationsPrefix
  addPorts := .bool s.addPorts
  portsPrefix := textOrNull s.portsPrefix

theorem MetadataSettings.arguments_reads (s : MetadataSettings) : s.arguments.Reads s where
  addLabels := rfl
  labelsPrefix := nullableText_textOrNull s.labelsPrefix
  addAnnotations := rfl
  annotationsPrefix := nullableText_textOrNull s.annotationsPrefix
  addPorts := rfl
  portsPrefix := nullableText_textOrNull s.portsPrefix

theorem Check.each_ints (ports : List Int) (i : Nat) :
    Check.each Check.int i (ports.map .int) = .accepted ports := by
  induction ports generalizing i with
  | nil => rfl
  | cons port rest ih =>
      rw [List.map_cons, Check.each, ih]
      rfl

theorem Check.insertAscending_last {i : Int} {set : List Int} (h : ∀ j ∈ set, j < i) :
    Check.insertAscending i set = set ++ [i] := by
  induction set with
  | nil => rfl
  | cons j rest ih =>
      have hj : j < i := h j List.mem_cons_self
      rw [Check.insertAscending, if_neg (by omega), if_neg (by simp; omega),
        ih fun k hk => h k (List.mem_cons_of_mem _ hk)]
      rfl

/-- Ascending ports come out as they are. -/
theorem Check.intSet_ascending {ports : List Int} (ascending : ports.Pairwise (· < ·)) :
    Check.intSet (.list (ports.map .int)) = .accepted ports := by
  have hfold (rest set : List Int) (h : (set ++ rest).Pairwise (· < ·)) :
      rest.foldl (fun set i => Check.insertAscending i set) set = set ++ rest := by
    induction rest generalizing set with
    | nil => simp
    | cons i rest ih =>
        have hlast : ∀ j ∈ set, j < i := fun j hj =>
          (List.pairwise_append.mp h).2.2 j hj i List.mem_cons_self
        rw [List.foldl_cons, Check.insertAscending_last hlast, ih _ (by simpa using h)]
        simp
  unfold Check.intSet
  simp only [Check.each_ints]
  exact congrArg Checked.accepted (hfold ports [] (by simpa using ascending))

namespace DiscoverySettings

def arguments (s : DiscoverySettings) : DiscoveryArguments where
  enabled := .bool s.enabled
  allNamespaces := .bool s.allNamespaces
  serviceLabels := s.serviceLabels
  primaryPortName := textOrNull s.primaryPortName
  knownSecurePorts := .list (s.knownSecurePorts.map .int)
  filter := textOrNull s.filter
  watchDelay := .float s.watchDelay
  metadata := s.metadata.arguments

/-- Labels have one value, ports are a set, and no text is blank. -/
structure WellFormed (s : DiscoverySettings) : Prop where
  distinct : (s.serviceLabels.map (·.1)).Nodup
  ascending : s.knownSecurePorts.Pairwise (· < ·)
  primaryPortName : ∀ t, s.primaryPortName = some t → (Text.trim t).isEmpty = false
  filter : ∀ t, s.filter = some t → (Text.trim t).isEmpty = false

theorem nonBlank_textOrNull {t : Option String}
    (h : ∀ s, t = some s → (Text.trim s).isEmpty = false) :
    nonBlank (textOrNull t) = .accepted t := by
  cases t with
  | none => rfl
  | some s =>
      have hs : blankAsNull (.text s) = .text s := by simp [blankAsNull, h s rfl]
      show Check.nullable Check.text (blankAsNull (.text s)) = .accepted (some s)
      rw [hs]
      rfl

/-- Every settings can be given in full. -/
theorem arguments_reads {s : DiscoverySettings} (h : s.WellFormed) : s.arguments.Reads s where
  enabled := rfl
  allNamespaces := rfl
  serviceLabels := rfl
  distinct := h.distinct
  primaryPortName := nonBlank_textOrNull h.primaryPortName
  knownSecurePorts := Check.intSet_ascending h.ascending
  filter := nonBlank_textOrNull h.filter
  watchDelay := rfl
  metadata := s.metadata.arguments_reads

end DiscoverySettings

/-! ## Nested settings -/

namespace MetadataSettings

variable {given : List (Datum × Datum)} {x : MetadataArguments} {s r : MetadataSettings}

/-- Given all arguments, a check reads them, and rejects what is given beside them. -/
theorem check_accepted (reads : x.Reads s)
    (hgiven : ∀ name d, named? x.entries name = some d → named? given name = some d) :
    check given = .accepted r ↔
      r = s ∧ ∀ name, .text name ∈ keys given → name ∈ form.names := by
  have haddLabels : optionalField given "add_labels" true Check.bool = .accepted s.addLabels :=
    (optionalField_accepted (hgiven _ _ rfl)).mpr reads.addLabels
  have hlabelsPrefix : optionalField given "labels_prefix" none (Check.nullable Check.text) =
      .accepted s.labelsPrefix :=
    (optionalField_accepted (hgiven _ _ rfl)).mpr reads.labelsPrefix
  have haddAnnotations : optionalField given "add_annotations" true Check.bool =
      .accepted s.addAnnotations :=
    (optionalField_accepted (hgiven _ _ rfl)).mpr reads.addAnnotations
  have hannotationsPrefix : optionalField given "annotations_prefix" none
      (Check.nullable Check.text) = .accepted s.annotationsPrefix :=
    (optionalField_accepted (hgiven _ _ rfl)).mpr reads.annotationsPrefix
  have haddPorts : optionalField given "add_ports" true Check.bool = .accepted s.addPorts :=
    (optionalField_accepted (hgiven _ _ rfl)).mpr reads.addPorts
  have hportsPrefix : optionalField given "ports_prefix" (some "port.")
      (Check.nullable Check.text) = .accepted s.portsPrefix :=
    (optionalField_accepted (hgiven _ _ rfl)).mpr reads.portsPrefix
  have hfields : check given = (Checked.accepted s <* noFieldsBeyond form.names given) := by
    unfold check
    rw [haddLabels, hlabelsPrefix, haddAnnotations, hannotationsPrefix, haddPorts, hportsPrefix]
    rfl
  rw [hfields, Checked.seqLeft_accepted, Checked.accepted.injEq]
  simp only [noFieldsBeyond_accepted, exists_const]
  exact and_congr_left fun _ => eq_comm

theorem form_nodup : form.names.Nodup := by decide

/-- An argument belongs to a field, and it is no mapping. -/
theorem argument_of_reads (reads : x.Reads s) {name : String} {d : Datum}
    (h : named? x.entries name = some d) : .plain name ∈ form.fields ∧ ¬ d.IsMapping := by
  have hmem := mem_of_named? h
  simp only [MetadataArguments.entries, List.mem_cons, Prod.mk.injEq, List.not_mem_nil,
    or_false] at hmem
  rcases hmem with ⟨hname, rfl⟩ | ⟨hname, rfl⟩ | ⟨hname, rfl⟩ | ⟨hname, rfl⟩ | ⟨hname, rfl⟩ |
    ⟨hname, rfl⟩
  all_goals rw [Datum.text.inj hname]
  · exact ⟨by simp [form], Check.bool_rejectsMappings.isMapping reads.addLabels⟩
  · exact ⟨by simp [form], Check.nullableText_rejectsMappings.isMapping reads.labelsPrefix⟩
  · exact ⟨by simp [form], Check.bool_rejectsMappings.isMapping reads.addAnnotations⟩
  · exact ⟨by simp [form], Check.nullableText_rejectsMappings.isMapping reads.annotationsPrefix⟩
  · exact ⟨by simp [form], Check.bool_rejectsMappings.isMapping reads.addPorts⟩
  · exact ⟨by simp [form], Check.nullableText_rejectsMappings.isMapping reads.portsPrefix⟩

/-- The variables of the metadata never spoil what is given. -/
theorem load_ok (env : Environment) (reads : x.Reads s) (texts : TextKeyed given)
    (once : (keys given).Nodup)
    (hgiven : ∀ name d, named? x.entries name = some d → named? given name = some d) :
    load env given = .ok r ↔ r = s ∧ ∀ name, .text name ∈ keys given → name ∈ form.names := by
  have hplain : ∀ shape ∈ form.fields, ∃ field,
      contributed .process form.lead env.processVariables shape = .ok field := by
    intro shape hshape
    simp only [form, List.mem_cons, List.not_mem_nil, or_false] at hshape
    rcases hshape with rfl | rfl | rfl | rfl | rfl | rfl
    all_goals
      unfold contributed
      split
      · exact ⟨_, rfl⟩
      · exact ⟨_, rfl⟩
  obtain ⟨gathered, hgather⟩ := exists_gather rfl hplain given
  obtain ⟨hfound, hwithin, hkept⟩ := gather_ok rfl form_nodup texts once hgather
  have hload : load env given = (check gathered).toExcept := by
    unfold load
    rw [hgather]
    rfl
  have hgathered (name : String) (d : Datum) (h : named? x.entries name = some d) :
      named? gathered name = some d := by
    obtain ⟨hfield, hplain⟩ := argument_of_reads reads h
    obtain ⟨field, -, hname⟩ := hfound (.plain name) hfield
    simp only [FieldShape.name, hgiven name d h] at hname
    rw [hname]
    exact congrArg some (mergeInto_other hplain field)
  rw [hload, Checked.toExcept_ok, check_accepted reads hgathered]
  refine and_congr_right fun _ => ⟨fun h name hname => h name (hkept _ hname), ?_⟩
  intro h name hname
  rcases hwithin _ hname with hgivenName | ⟨known, hknown, heq⟩
  · exact h name hgivenName
  · rwa [Datum.text.inj heq]

end MetadataSettings

end ClusterDiscovery
