import ClusterDiscovery.Metadata
import ClusterDiscovery.Proofs.MappedResources
import ClusterDiscovery.Proofs.Runs

/-! # Sources of metadata

The metadata of an instance are merged in two steps: labels and annotations once for a service,
and then the ports of every subset. Both steps together give what one merge of all three sources
gives. On mapped objects the result has texts only.
-/

namespace ClusterDiscovery

namespace Datum

/-! ## Merging texts -/

theorem TextEntries.put {entries : List (Datum × Datum)} (h : TextEntries entries)
    {key value : Datum} (hkey : key.IsText) (hvalue : value.IsText) :
    TextEntries (put entries key value) := by
  induction entries with
  | nil =>
      intro e he
      rw [List.mem_singleton.mp he]
      exact ⟨hkey, hvalue⟩
  | cons first rest ih =>
      obtain ⟨k, v⟩ := first
      have hfirst := h (k, v) List.mem_cons_self
      have hrest : TextEntries rest := fun e he => h e (List.mem_cons_of_mem _ he)
      intro e he
      unfold Datum.put at he
      split at he
      · obtain rfl | hmem := List.mem_cons.mp he
        · exact ⟨hfirst.1, hvalue⟩
        · exact hrest e hmem
      · obtain rfl | hmem := List.mem_cons.mp he
        · exact hfirst
        · exact ih hrest e hmem

theorem TextEntries.putAll {entries more : List (Datum × Datum)} (h : TextEntries entries)
    (hmore : TextEntries more) : TextEntries (putAll entries more) := by
  induction more generalizing entries with
  | nil => exact h
  | cons e more ih =>
      obtain ⟨hkey, hvalue⟩ := hmore e List.mem_cons_self
      exact ih (h.put hkey hvalue) fun e he => hmore e (List.mem_cons_of_mem _ he)

theorem TextEntries.nil : TextEntries [] := fun _ he => absurd he List.not_mem_nil

theorem TextEntries.entriesOf {pairs : List (Datum × Datum)} (h : TextEntries pairs) :
    TextEntries (entriesOf pairs) :=
  TextEntries.nil.putAll h

end Datum

open Datum Resource

/-! ## One source -/

/-- Null and an empty mapping contribute the same. -/
theorem withPrefixedKeys_orElse (d lead : Datum) :
    withPrefixedKeys (d.orElse (.map [])) lead = withPrefixedKeys d lead := by
  cases h : d.truthy with
  | true => rw [orElse, h, if_pos rfl]
  | false =>
      rw [orElse, h]
      simp only [withPrefixedKeys, h]
      rfl

theorem namedPorts_orElse (ports : Datum) :
    namedPorts (ports.orElse (.list [])) = namedPorts ports := by
  unfold namedPorts
  rw [orElse_orElse]

theorem withPrefixedKeys_texts {d : Datum} (h : d.Labelling) (lead : Option String) :
    ∃ entries, withPrefixedKeys d (textOrNull lead) = .ok entries ∧ TextEntries entries := by
  unfold withPrefixedKeys
  obtain rfl | ⟨entries, rfl, htexts⟩ := h
  · exact ⟨[], rfl, .nil⟩
  cases hempty : (map entries).truthy with
  | false => exact ⟨[], rfl, .nil⟩
  | true =>
      cases hlead : (textOrNull lead).truthy with
      | false => exact ⟨entries, rfl, htexts⟩
      | true =>
          cases lead with
          | none => cases hlead
          | some s =>
              obtain ⟨pairs, rfl⟩ := htexts.eq_map
              have hkeys : (pairs.map textEntry).mapM (keyWithPrefix (textOrNull (some s))) =
                  .ok ((pairs.map fun pair => (s ++ pair.1, pair.2)).map textEntry) := by
                rw [List.mapM_map, List.map_map]
                exact mapM_eq_ok fun _ _ => rfl
              simp only [Bool.not_true, Bool.false_eq_true, if_false, hkeys]
              exact ⟨_, rfl, (textEntries_map _).entriesOf⟩

theorem namedPort?_texts {port : Datum} (h : MappedPort port) {e : Datum × Datum}
    (hnamed : namedPort? port = .ok (some e)) : e.1.IsText ∧ e.2.IsText := by
  obtain ⟨hmap, ⟨n, hn⟩, hname⟩ := h
  unfold namedPort? at hnamed
  rw [hmap.optional] at hnamed
  obtain hnull | ⟨s, hs⟩ := hname
  · rw [hnull] at hnamed
    cases hnamed
  · rw [required_of_fieldOf hs (by simp), required_of_fieldOf hn (by simp), hs] at hnamed
    cases hempty : (text s).truthy with
    | false => simp [bind, Except.bind, hempty, pure, Except.pure] at hnamed
    | true =>
        cases hnumber : (int n).plainText with
        | error f => simp [bind, Except.bind, hempty, hnumber] at hnamed
        | ok number =>
            have he : (text s, text number) = e := by
              simpa [bind, Except.bind, hempty, hnumber, isKey, pure, Except.pure] using hnamed
            subst he
            exact ⟨⟨_, rfl⟩, ⟨_, rfl⟩⟩

theorem namedPorts_texts {ports : Datum} (h : ports.ListOf MappedPort)
    {entries : List (Datum × Datum)} (hnamed : namedPorts ports = .ok entries) :
    TextEntries entries := by
  unfold namedPorts at hnamed
  rw [h.elements_orElse] at hnamed
  cases hports : ports.items.mapM namedPort? with
  | error f => simp [bind, Except.bind, hports] at hnamed
  | ok found =>
      have hentries : entriesOf (found.filterMap id) = entries := by
        simpa [bind, Except.bind, hports, pure, Except.pure] using hnamed
      subst hentries
      refine TextEntries.entriesOf ?_
      intro e he
      obtain ⟨e', hmem, rfl⟩ := List.mem_filterMap.mp he
      obtain ⟨port, hport, hone⟩ := mem_of_mapM_eq_ok hports hmem
      exact namedPort?_texts (h.mem hport) hone

/-! ## All sources -/

/-- What a source adds to the metadata. -/
def contribution (enabled : Bool) (entries : Except Fault (List (Datum × Datum))) :
    Except Failure (List (Datum × Datum)) :=
  if enabled then entries.mapError .fault else .ok []

/-- What labels and annotations add. -/
def serviceContribution (labels annotations : Datum) (options : MetadataSettings) :
    Except Failure (List (Datum × Datum)) := do
  let fromLabels ← contribution options.addLabels
    (withPrefixedKeys labels (textOrNull options.labelsPrefix))
  let fromAnnotations ← contribution options.addAnnotations
    (withPrefixedKeys annotations (textOrNull options.annotationsPrefix))
  return putAll (putAll [] fromLabels) fromAnnotations

/-- What the ports of a subset add. -/
def portContribution (ports : Datum) (options : MetadataSettings) :
    Except Failure (List (Datum × Datum)) :=
  contribution options.addPorts do
    withPrefixedKeys (.map (← namedPorts ports)) (textOrNull options.portsPrefix)

/-- The metadata that one merge of all sources gives. -/
def composedMetadata (labels annotations ports : Datum) (options : MetadataSettings) :
    Except Failure (List (Datum × Datum)) :=
  ((composeMetadata labels annotations ports options : Action Unit _).runOn (.start ())).1

theorem serviceContribution_orElse (labels annotations : Datum) (options : MetadataSettings) :
    serviceContribution (labels.orElse (.map [])) (annotations.orElse (.map [])) options =
      serviceContribution labels annotations options := by
  unfold serviceContribution
  rw [withPrefixedKeys_orElse, withPrefixedKeys_orElse]

theorem portContribution_orElse (ports : Datum) (options : MetadataSettings) :
    portContribution (ports.orElse (.list [])) options = portContribution ports options := by
  unfold portContribution
  rw [namedPorts_orElse]

section Runs

open ClusterDiscovery.Action

variable {World : Type} {w : World}

theorem sourceEntries_runsTo (enabled : Bool) (event : String)
    (entries : Except Fault (List (Datum × Datum))) :
    RunsTo (sourceEntries enabled event entries) w (contribution enabled entries) w := by
  cases enabled with
  | false => exact runsTo_pure []
  | true =>
      have h : RunsTo (sourceEntries true event entries) w (entries.mapError .fault >>= pure) w :=
        (runsTo_ofReading entries).bind fun found _ => (runsTo_report _).trans (runsTo_pure found)
      rw [bind_pure] at h
      exact h

theorem serviceMetadata_runsTo (labels annotations : Datum) (options : MetadataSettings) :
    RunsTo (serviceMetadata labels annotations options) w
      (serviceContribution labels annotations options) w := by
  refine (sourceEntries_runsTo _ _ _).bind fun fromLabels _ => ?_
  exact (sourceEntries_runsTo _ _ _).bind fun fromAnnotations _ => runsTo_pure _

theorem portMetadata_runsTo (ports : Datum) (options : MetadataSettings) :
    RunsTo (portMetadata ports options) w (portContribution ports options) w :=
  sourceEntries_runsTo _ _ _

/-- The merge of all sources adds the ports to what labels and annotations give. -/
theorem composedMetadata_eq (labels annotations ports : Datum) (options : MetadataSettings) :
    composedMetadata labels annotations ports options = do
      let shared ← serviceContribution labels annotations options
      return putAll shared (← portContribution ports options) := by
  have h : RunsTo (composeMetadata labels annotations ports options) () _ () :=
    (serviceMetadata_runsTo labels annotations options).bind fun shared _ =>
      (portMetadata_runsTo ports options).bind fun found _ => runsTo_pure (putAll shared found)
  exact h.result [] []

end Runs

theorem serviceContribution_texts {labels annotations : Datum} (hlabels : labels.Labelling)
    (hannotations : annotations.Labelling) (options : MetadataSettings) :
    ∃ shared, serviceContribution labels annotations options = .ok shared ∧
      TextEntries shared := by
  obtain ⟨ls, hls, htexts⟩ := withPrefixedKeys_texts hlabels options.labelsPrefix
  obtain ⟨as, has, htexts'⟩ := withPrefixedKeys_texts hannotations options.annotationsPrefix
  unfold serviceContribution
  rw [hls, has]
  cases options.addLabels <;> cases options.addAnnotations
  · exact ⟨_, rfl, .nil⟩
  · exact ⟨_, rfl, TextEntries.nil.putAll htexts'⟩
  · exact ⟨_, rfl, TextEntries.nil.putAll htexts⟩
  · exact ⟨_, rfl, (TextEntries.nil.putAll htexts).putAll htexts'⟩

theorem portContribution_texts {ports : Datum} (h : ports.ListOf MappedPort)
    {options : MetadataSettings} {entries : List (Datum × Datum)}
    (hports : portContribution ports options = .ok entries) : TextEntries entries := by
  unfold portContribution at hports
  cases hadd : options.addPorts with
  | false =>
      rw [hadd] at hports
      cases hports
      exact .nil
  | true =>
      rw [hadd] at hports
      cases hnamed : namedPorts ports with
      | error f =>
          rw [hnamed] at hports
          cases hports
      | ok named =>
          obtain ⟨found, hfound, htexts⟩ := withPrefixedKeys_texts
            (.inr ⟨named, rfl, namedPorts_texts h hnamed⟩) options.portsPrefix
          rw [hnamed] at hports
          change contribution true (withPrefixedKeys (.map named) _) = _ at hports
          rw [hfound] at hports
          cases hports
          exact htexts

end ClusterDiscovery
