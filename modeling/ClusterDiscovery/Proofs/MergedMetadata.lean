import ClusterDiscovery.Proofs.MergedSources
import ClusterDiscovery.Proofs.MetadataSources

/-! # The merge of metadata

Labels, annotations and ports are copied, prefixed and merged in several steps. All steps together
do what one pass over the three sources does: every key has the value of its last occurrence and
the place of its first.
-/

namespace ClusterDiscovery

open Datum Resource

/-! ## Values under names -/

def namedEntry (pair : String × Datum) : Datum × Datum := (.text pair.1, pair.2)

/-- Sets the value under a name. A name that is there keeps its place. -/
def setNamed (pairs : List (String × Datum)) (name : String) (value : Datum) :
    List (String × Datum) :=
  match pairs with
  | [] => [(name, value)]
  | (n, v) :: rest => if n = name then (n, value) :: rest else (n, v) :: setNamed rest name value

def setAll (pairs more : List (String × Datum)) : List (String × Datum) :=
  more.foldl (fun pairs (name, value) => setNamed pairs name value) pairs

def namesOf (pairs : List (String × Datum)) : List String := pairs.map (·.1)

variable {pairs more : List (String × Datum)} {name other : String} {value : Datum}

theorem put_named (pairs : List (String × Datum)) (name : String) (value : Datum) :
    put (pairs.map namedEntry) (.text name) value = (setNamed pairs name value).map namedEntry := by
  induction pairs with
  | nil => rfl
  | cons pair rest ih =>
      obtain ⟨n, v⟩ := pair
      have hsame : same (.text name) (.text n) = decide (n = name) := by
        rw [same_text_text, Bool.eq_iff_iff, beq_iff_eq, decide_eq_true_iff, eq_comm]
      rw [List.map_cons, setNamed]
      by_cases h : n = name <;> simp [namedEntry, put, hsame, h]
      exact ih

theorem putAll_named (pairs more : List (String × Datum)) :
    putAll (pairs.map namedEntry) (more.map namedEntry) = (setAll pairs more).map namedEntry := by
  induction more generalizing pairs with
  | nil => rfl
  | cons pair more ih => exact (congrArg (putAll · _) (put_named pairs _ _)).trans (ih _)

theorem named?_named (pairs : List (String × Datum)) (name : String) :
    named? (pairs.map namedEntry) name = pairs.lookup name := by
  induction pairs with
  | nil => rfl
  | cons pair rest ih =>
      obtain ⟨n, v⟩ := pair
      have ih : ((rest.map namedEntry).find? fun e => same (.text name) e.1).map (·.2) =
          rest.lookup name := ih
      rw [List.lookup_cons, ← ih]
      simp only [named?, lookup?, List.map_cons, namedEntry, List.find?_cons, same_text_text]
      cases name == n <;> rfl

theorem setAll_cons (pair : String × Datum) :
    setAll pairs (pair :: more) = setAll (setNamed pairs pair.1 pair.2) more := rfl

theorem setAll_append (pairs first second : List (String × Datum)) :
    setAll pairs (first ++ second) = setAll (setAll pairs first) second :=
  List.foldl_append

theorem lookup_setNamed (pairs : List (String × Datum)) (name other : String) (value : Datum) :
    (setNamed pairs name value).lookup other =
      if name = other then some value else pairs.lookup other := by
  rw [← named?_named, ← put_named, named?_put, named?_named]

theorem namesOf_setNamed (pairs : List (String × Datum)) (name : String) (value : Datum) :
    namesOf (setNamed pairs name value) =
      if name ∈ namesOf pairs then namesOf pairs else namesOf pairs ++ [name] := by
  induction pairs with
  | nil => rfl
  | cons pair rest ih =>
      obtain ⟨n, v⟩ := pair
      unfold namesOf at ih ⊢
      unfold setNamed
      by_cases h : n = name
      · simp [h]
      · simp only [h, if_false, List.map_cons, ih, List.mem_cons, Ne.symm h, false_or]
        split <;> rfl

theorem mem_namesOf_setNamed : other ∈ namesOf (setNamed pairs name value) ↔
    other = name ∨ other ∈ namesOf pairs := by
  rw [namesOf_setNamed]
  split
  · next h => exact ⟨.inr, fun hother => hother.elim (fun heq => heq ▸ h) id⟩
  · simp [or_comm]

theorem setNamed_nodup (nodup : (namesOf pairs).Nodup) :
    (namesOf (setNamed pairs name value)).Nodup := by
  rw [namesOf_setNamed]
  split
  · exact nodup
  · next absent =>
      refine List.nodup_append.mpr ⟨nodup, by simp, fun n hn m hm => ?_⟩
      rw [List.mem_singleton.mp hm]
      exact fun heq => absent (heq ▸ hn)

/-! ## Merges within merges -/

/-- The later of two values under one name counts. -/
theorem setNamed_again (pairs : List (String × Datum)) (name : String) (first second : Datum) :
    setNamed (setNamed pairs name first) name second = setNamed pairs name second := by
  induction pairs with
  | nil => simp [setNamed]
  | cons pair rest ih =>
      obtain ⟨n, v⟩ := pair
      by_cases h : n = name <;> simp [setNamed, h, ih]

/-- A name that is there can be set before another one or after it. -/
theorem setNamed_comm {first second : Datum} (there : name ∈ namesOf pairs) (hne : other ≠ name) :
    setNamed (setNamed pairs other first) name second =
      setNamed (setNamed pairs name second) other first := by
  induction pairs with
  | nil => cases there
  | cons pair rest ih =>
      obtain ⟨n, v⟩ := pair
      by_cases hname : n = name
      · subst hname
        have hother : ¬ n = other := fun h => hne h.symm
        simp [setNamed, hother]
      · by_cases hother : n = other
        · subst hother
          simp [setNamed, hname]
        · have hrest : name ∈ namesOf rest := by
            simpa [namesOf, Ne.symm hname] using there
          simp [setNamed, hname, hother, ih hrest]

theorem setNamed_setAll (there : name ∈ namesOf pairs) (absent : name ∉ namesOf more) :
    setNamed (setAll pairs more) name value = setAll (setNamed pairs name value) more := by
  induction more generalizing pairs with
  | nil => rfl
  | cons pair more ih =>
      obtain ⟨hfirst, hrest⟩ := not_or.mp (mt List.mem_cons.mpr absent)
      rw [setAll_cons, setAll_cons, ih (mem_namesOf_setNamed.mpr (.inr there)) hrest,
        setNamed_comm there (Ne.symm hfirst)]

theorem setAll_setNamed (pairs : List (String × Datum)) (nodup : (namesOf more).Nodup)
    (name : String) (value : Datum) :
    setAll pairs (setNamed more name value) = setNamed (setAll pairs more) name value := by
  induction more generalizing pairs with
  | nil => rfl
  | cons pair more ih =>
      obtain ⟨n, v⟩ := pair
      obtain ⟨hfirst, hrest⟩ := List.nodup_cons.mp nodup
      by_cases h : n = name
      · subst h
        have hthere : n ∈ namesOf (setNamed pairs n v) := mem_namesOf_setNamed.mpr (.inl rfl)
        simp only [setNamed, if_true, setAll_cons]
        rw [setNamed_setAll hthere hfirst, setNamed_again]
      · simp only [setNamed, h, if_false, setAll_cons]
        exact ih _ hrest

/-- Pairs that were merged before are merged like the pairs that they come from. -/
theorem setAll_assoc (pairs : List (String × Datum)) {first : List (String × Datum)}
    (nodup : (namesOf first).Nodup) (second : List (String × Datum)) :
    setAll pairs (setAll first second) = setAll (setAll pairs first) second := by
  induction second generalizing first with
  | nil => rfl
  | cons pair second ih =>
      rw [setAll_cons, setAll_cons, ih (setNamed_nodup nodup), setAll_setNamed pairs nodup]

theorem setAll_setAll_nil (pairs more : List (String × Datum)) :
    setAll pairs (setAll [] more) = setAll pairs more := by
  have hnone : (namesOf []).Nodup := List.nodup_nil
  exact setAll_assoc pairs hnone more

/-! ## The result of a merge -/

/-- Every name has the value of its last occurrence. -/
theorem lookup_setAll (pairs more : List (String × Datum)) (name : String) :
    (setAll pairs more).lookup name = (more.reverse.lookup name).or (pairs.lookup name) := by
  induction more generalizing pairs with
  | nil => rfl
  | cons pair more ih =>
      have hone : [pair].lookup name = if pair.1 = name then some pair.2 else none :=
        lookup_setNamed [] pair.1 name pair.2
      rw [setAll_cons, ih, lookup_setNamed, List.reverse_cons, List.lookup_append, hone,
        Option.or_assoc]
      split <;> rfl

/-- Every name has the place of its first occurrence. -/
theorem namesOf_setAll (pairs more : List (String × Datum)) :
    namesOf (setAll pairs more) =
      namesOf pairs ++ ((namesOf more).removeAll (namesOf pairs)).eraseDups := by
  induction more generalizing pairs with
  | nil => simp [setAll, namesOf, List.removeAll]
  | cons pair more ih =>
      obtain ⟨n, v⟩ := pair
      have hcons : namesOf ((n, v) :: more) = n :: namesOf more := rfl
      rw [setAll_cons, ih, namesOf_setNamed, hcons, List.cons_removeAll]
      by_cases h : n ∈ namesOf pairs
      · simp [h]
      · have hfilter : (namesOf more).removeAll (namesOf pairs ++ [n]) =
            ((namesOf more).removeAll (namesOf pairs)).filter fun m => !m == n := by
          simp only [List.removeAll, List.filter_filter]
          refine List.filter_congr fun m _ => ?_
          by_cases hm : m = n <;> simp [hm]
        simp [h, hfilter, List.eraseDups_cons]

/-- A value is lost only to a later one under the same name. -/
theorem lookup_setAll_of_eq {all before after : List (String × Datum)}
    (h : all = before ++ (name, value) :: after) :
    (setAll [] all).lookup name = some value ∨ name ∈ namesOf after := by
  have hone : [(name, value)].lookup name = some value := by simp
  rw [lookup_setAll, h, List.reverse_append, List.reverse_cons, List.lookup_append,
    List.lookup_append, hone]
  cases hlater : after.reverse.lookup name with
  | none => exact .inl rfl
  | some later =>
      obtain ⟨front, rest, hsplit, -⟩ := List.lookup_eq_some_iff.mp hlater
      have hmem : (name, later) ∈ after.reverse := hsplit ▸ by simp
      exact .inr (List.mem_map_of_mem (f := (·.1)) (List.mem_reverse.mp hmem))

/-! ## Prefixes -/

def underPrefix (lead : Option String) (pair : String × Datum) : String × Datum :=
  (lead.getD "" ++ pair.1, pair.2)

/-- A prefix is the same for all names, so names that differ do so behind it. -/
theorem map_setNamed (lead : Option String) (pairs : List (String × Datum)) (name : String)
    (value : Datum) : (setNamed pairs name value).map (underPrefix lead) =
      setNamed (pairs.map (underPrefix lead)) (lead.getD "" ++ name) value := by
  induction pairs with
  | nil => rfl
  | cons pair rest ih =>
      obtain ⟨n, v⟩ := pair
      by_cases h : n = name <;> simp [setNamed, underPrefix, h]
      exact ih

theorem map_setAll (lead : Option String) (pairs more : List (String × Datum)) :
    (setAll pairs more).map (underPrefix lead) =
      setAll (pairs.map (underPrefix lead)) (more.map (underPrefix lead)) := by
  induction more generalizing pairs with
  | nil => rfl
  | cons pair more ih => rw [setAll_cons, ih, map_setNamed]; rfl

theorem map_underPrefix_empty {lead : Option String} (h : (textOrNull lead).truthy = false)
    (pairs : List (String × Datum)) : pairs.map (underPrefix lead) = pairs := by
  have hempty : lead.getD "" = "" := by
    cases lead with
    | none => rfl
    | some s => simpa [textOrNull, truthy] using h
  have hid : underPrefix lead = id := funext fun pair => by simp [underPrefix, hempty]
  rw [hid, List.map_id]

/-! ## One source -/

/-- The pairs that a source gives, in its order and under its prefix. -/
def sequenceOf (enabled : Bool) (lead : Option String) (pairs : List (String × Datum)) :
    List (String × Datum) :=
  if enabled then pairs.map (underPrefix lead) else []

/-- A mapping with texts as keys, or null. -/
def mappingOrNull : Option (List (String × Datum)) → Datum
  | none => .null
  | some pairs => .map (pairs.map namedEntry)

theorem withPrefixedKeys_named (given : Option (List (String × Datum))) (lead : Option String) :
    ∃ found, withPrefixedKeys (mappingOrNull given) (textOrNull lead) = .ok (found.map namedEntry) ∧
      ∀ base, setAll base found = setAll base ((given.getD []).map (underPrefix lead)) := by
  rcases given with _ | _ | ⟨pair, pairs⟩
  · exact ⟨[], rfl, fun _ => rfl⟩
  · exact ⟨[], rfl, fun _ => rfl⟩
  · have htruthy : (mappingOrNull (some (pair :: pairs))).truthy = true := rfl
    unfold withPrefixedKeys
    rw [htruthy]
    cases hlead : (textOrNull lead).truthy with
    | false =>
        refine ⟨pair :: pairs, rfl, fun base => ?_⟩
        rw [map_underPrefix_empty hlead]
        rfl
    | true =>
        obtain ⟨s, rfl⟩ : ∃ s, lead = some s := by
          cases lead with
          | none => cases hlead
          | some s => exact ⟨s, rfl⟩
        have hkeys : ((pair :: pairs).map namedEntry).mapM (keyWithPrefix (textOrNull (some s))) =
            .ok (((pair :: pairs).map (underPrefix (some s))).map namedEntry) := by
          rw [List.mapM_map, List.map_map]
          exact mapM_eq_ok fun _ _ => rfl
        refine ⟨setAll [] ((pair :: pairs).map (underPrefix (some s))), ?_, fun base => ?_⟩
        · simp only [mappingOrNull, Bool.not_true, Bool.false_eq_true, if_false, hkeys]
          exact congrArg Except.ok (putAll_named [] _)
        · exact setAll_setAll_nil base _

theorem contribution_named (enabled : Bool) (lead : Option String)
    (given : Option (List (String × Datum))) :
    ∃ found, contribution enabled (withPrefixedKeys (mappingOrNull given) (textOrNull lead)) =
        .ok (found.map namedEntry) ∧
      ∀ base, setAll base found = setAll base (sequenceOf enabled lead (given.getD [])) := by
  cases enabled with
  | false => exact ⟨[], rfl, fun _ => rfl⟩
  | true =>
      obtain ⟨found, hfound, hset⟩ := withPrefixedKeys_named given lead
      refine ⟨found, ?_, hset⟩
      rw [hfound]
      rfl

/-- A prefix makes no two names of a mapping the same. -/
theorem sequenceOf_nodup (enabled : Bool) (lead : Option String)
    (nodup : (namesOf pairs).Nodup) : (namesOf (sequenceOf enabled lead pairs)).Nodup := by
  cases enabled with
  | false => exact List.nodup_nil
  | true =>
      have hnames : namesOf (sequenceOf true lead pairs) =
          (namesOf pairs).map (lead.getD "" ++ ·) := by
        simp [namesOf, sequenceOf, underPrefix]
      rw [hnames]
      exact List.Pairwise.map _ (fun _ _ hne heq => hne (String.append_right_inj _ |>.mp heq)) nodup

/-! ## Ports -/

/-- The name and the number of a port that has a name. -/
def portNumber? (port : Datum) : Option (String × Int) :=
  match fieldOf port "name", fieldOf port "port" with
  | .text name, .int number => if name = "" then none else some (name, number)
  | _, _ => none

def portNumbers (ports : Datum) : List (String × Int) := ports.items.filterMap portNumber?

def numberText (pair : String × Int) : String × Datum := (pair.1, .text (toString pair.2))

theorem intText_eq_toString (i : Int) : Number.intText i = toString i := by
  cases i with
  | ofNat n => simp [Number.intText, Number.natDigits, toString, Int.repr, Nat.repr]
  | negSucc n =>
      have hneg : Int.negSucc n < 0 := Int.negSucc_lt_zero n
      have hstring : toString (Int.negSucc n) = "-" ++ Nat.repr (n + 1) := rfl
      rw [hstring, ← String.toList_inj]
      simp [Number.intText, Number.natDigits, Nat.repr, hneg]

/-- Every number of at most five digits can be written out, so every number that a port can have. -/
theorem writableInt_of_lt {i : Int} (h : i.natAbs < 100000) : writableInt i = true := by
  have hpow (digits : Nat) (hdigits : 5 ≤ digits) : i.natAbs < Nat.pow 10 digits :=
    Nat.lt_of_lt_of_le h (Nat.pow_le_pow_right (by decide : 0 < 10) hdigits)
  rw [writableInt, decide_eq_true_iff]
  exact hpow maxWrittenDigits (by decide)

theorem namedPort?_eq {port : Datum} (h : MappedPort port) :
    namedPort? port = match portNumber? port with
      | none => .ok none
      | some pair => if writableInt pair.2 then .ok (some (namedEntry (numberText pair)))
          else .error .badValue := by
  obtain ⟨n, hn⟩ := h.number
  unfold namedPort? portNumber?
  rw [h.mapping.optional, hn]
  obtain hname | ⟨s, hs⟩ := h.name
  · rw [hname]
    rfl
  · rw [required_of_fieldOf hs (by simp), required_of_fieldOf hn (by simp), hs]
    by_cases hempty : s = ""
    · simp [hempty, truthy, bind, Except.bind, pure, Except.pure]
    · cases hw : writableInt n <;>
        simp [hempty, hw, truthy, plainText, quotedText, displayInt, isKey, namedEntry, numberText,
          intText_eq_toString, bind, Except.bind, pure, Except.pure, throw, throwThe,
          MonadExceptOf.throw]

/-- What the ports add, in their order and under the prefix of ports. -/
def portPairs (ports : Datum) (options : MetadataSettings) : List (String × Datum) :=
  sequenceOf options.addPorts options.portsPrefix ((portNumbers ports).map numberText)

/-- The numbers of all named ports can be written out. Other ports do not count. -/
def NumbersWritable (options : MetadataSettings) (ports : Datum) : Prop :=
  options.addPorts = true → ∀ pair ∈ portNumbers ports, writableInt pair.2 = true

theorem namedPorts_writable {ports : Datum} (h : ports.ListOf MappedPort)
    (writable : ∀ pair ∈ portNumbers ports, writableInt pair.2 = true) :
    namedPorts ports =
      .ok ((setAll [] ((portNumbers ports).map numberText)).map namedEntry) := by
  have hports : ports.items.mapM namedPort? =
      .ok (ports.items.map fun port => (portNumber? port).map (namedEntry ∘ numberText)) := by
    refine mapM_eq_ok fun port hmem => ?_
    rw [namedPort?_eq (h.mem hmem)]
    cases hnumber : portNumber? port with
    | none => rfl
    | some pair =>
        have hpair := writable pair (List.mem_filterMap.mpr ⟨port, hmem, hnumber⟩)
        simp [hpair]
  have hfound : (ports.items.map fun port =>
        (portNumber? port).map (namedEntry ∘ numberText)).filterMap id =
      ((portNumbers ports).map numberText).map namedEntry := by
    rw [List.filterMap_map, List.map_map]
    exact List.map_filterMap.symm
  unfold namedPorts
  rw [h.elements_orElse]
  simp only [bind, Except.bind, pure, Except.pure, hports, hfound]
  exact congrArg Except.ok (putAll_named [] _)

theorem namedPorts_not_writable {ports : Datum} (h : ports.ListOf MappedPort)
    {pair : String × Int} (hmem : pair ∈ portNumbers ports) (hnot : writableInt pair.2 = false) :
    namedPorts ports = .error .badValue := by
  obtain ⟨port, hport, hnumber⟩ := List.mem_filterMap.mp hmem
  have honly : ∀ port ∈ ports.items,
      namedPort? port = .error .badValue ∨ ∃ found, namedPort? port = .ok found := by
    intro port hport
    rw [namedPort?_eq (h.mem hport)]
    split
    · exact .inr ⟨_, rfl⟩
    · split
      · exact .inr ⟨_, rfl⟩
      · exact .inl rfl
  have hfails : namedPort? port = .error .badValue := by
    simp [namedPort?_eq (h.mem hport), hnumber, hnot]
  unfold namedPorts
  rw [h.elements_orElse]
  simp only [bind, Except.bind, mapM_eq_error honly hport hfails]

theorem portContribution_named {ports : Datum} (h : ports.ListOf MappedPort)
    {options : MetadataSettings} (writable : NumbersWritable options ports) :
    ∃ found, portContribution ports options = .ok (found.map namedEntry) ∧
      ∀ base, setAll base found = setAll base (portPairs ports options) := by
  unfold portContribution portPairs
  cases hadd : options.addPorts with
  | false => exact ⟨[], rfl, fun _ => rfl⟩
  | true =>
      obtain ⟨found, hfound, hset⟩ := contribution_named true options.portsPrefix
        (some (setAll [] ((portNumbers ports).map numberText)))
      refine ⟨found, ?_, fun base => (hset base).trans ?_⟩
      · rw [namedPorts_writable h (writable hadd)]
        exact hfound
      · simp only [Option.getD_some, sequenceOf, if_true, map_setAll]
        exact setAll_setAll_nil base _

/-! ## All sources -/

def labelPairs (labels : Option (List (String × Datum))) (options : MetadataSettings) :
    List (String × Datum) :=
  sequenceOf options.addLabels options.labelsPrefix (labels.getD [])

def annotationPairs (annotations : Option (List (String × Datum))) (options : MetadataSettings) :
    List (String × Datum) :=
  sequenceOf options.addAnnotations options.annotationsPrefix (annotations.getD [])

theorem serviceContribution_named (labels annotations : Option (List (String × Datum)))
    (options : MetadataSettings) :
    serviceContribution (mappingOrNull labels) (mappingOrNull annotations) options =
      .ok ((setAll [] (labelPairs labels options ++ annotationPairs annotations options)).map
        namedEntry) := by
  obtain ⟨ls, hls, hlset⟩ := contribution_named options.addLabels options.labelsPrefix labels
  obtain ⟨as, has, haset⟩ :=
    contribution_named options.addAnnotations options.annotationsPrefix annotations
  have hmerged : putAll (putAll [] (ls.map namedEntry)) (as.map namedEntry) =
      (setAll (setAll [] ls) as).map namedEntry := by
    rw [← putAll_named, ← putAll_named]
    rfl
  unfold serviceContribution labelPairs annotationPairs
  rw [hls, has, setAll_append, ← hlset, ← haset, ← hmerged]
  rfl

theorem composedMetadata_named (labels annotations : Option (List (String × Datum)))
    {ports : Datum} (h : ports.ListOf MappedPort) {options : MetadataSettings}
    (writable : NumbersWritable options ports) :
    composedMetadata (mappingOrNull labels) (mappingOrNull annotations) ports options =
      .ok ((setAll [] (labelPairs labels options ++ annotationPairs annotations options ++
        portPairs ports options)).map namedEntry) := by
  obtain ⟨ps, hps, hpset⟩ := portContribution_named h writable
  rw [composedMetadata_eq, serviceContribution_named, hps,
    setAll_append [] (_ ++ _) (portPairs ports options), ← hpset]
  exact congrArg Except.ok (putAll_named _ ps)

theorem composedMetadata_not_writable (labels annotations : Option (List (String × Datum)))
    {ports : Datum} (h : ports.ListOf MappedPort) {options : MetadataSettings}
    (hnot : ¬ NumbersWritable options ports) :
    composedMetadata (mappingOrNull labels) (mappingOrNull annotations) ports options =
      .error (.fault .badValue) := by
  obtain ⟨hadd, hnumbers⟩ := Classical.not_imp.mp hnot
  obtain ⟨pair, hpair⟩ := Classical.not_forall.mp hnumbers
  obtain ⟨hmem, hnumber⟩ := Classical.not_imp.mp hpair
  have hports : portContribution ports options = .error (.fault .badValue) := by
    unfold portContribution
    rw [hadd, namedPorts_not_writable h hmem (Bool.eq_false_iff.mpr hnumber)]
    rfl
  rw [composedMetadata_eq, serviceContribution_named, hports]
  rfl

/-- Labels, annotations and the numbers of named ports are merged as if they were one sequence, each
source behind its prefix: the result has the names of the sequence in the order of their first
occurrences, every one with the value of its last. So a value is lost only to a later one under the
same name, which no prefix brings about within labels or within annotations. The merge fails only
where the number of a named port cannot be written out. -/
theorem composedMetadata_merges (labels annotations : Option (List (String × Datum)))
    {ports : Datum} (mapped : ports.ListOf MappedPort) (options : MetadataSettings) :
    let all := labelPairs labels options ++ annotationPairs annotations options ++
      portPairs ports options
    let composed :=
      composedMetadata (mappingOrNull labels) (mappingOrNull annotations) ports options
    (NumbersWritable options ports →
      ∃ merged : List (String × Datum), composed = .ok (merged.map namedEntry) ∧
        namesOf merged = (namesOf all).eraseDups ∧
        (∀ name, merged.lookup name = all.reverse.lookup name) ∧
        ∀ before name value after, all = before ++ (name, value) :: after →
          merged.lookup name = some value ∨ name ∈ namesOf after) ∧
    (¬ NumbersWritable options ports → composed = .error (.fault .badValue)) ∧
    ((namesOf (labels.getD [])).Nodup → (namesOf (labelPairs labels options)).Nodup) ∧
    ((namesOf (annotations.getD [])).Nodup →
      (namesOf (annotationPairs annotations options)).Nodup) := by
  intro all composed
  refine ⟨fun writable => ?_, fun hnot => ?_, sequenceOf_nodup _ _, sequenceOf_nodup _ _⟩
  · refine ⟨setAll [] all, composedMetadata_named labels annotations mapped writable, ?_, ?_, ?_⟩
    · have hnone : (namesOf all).removeAll (namesOf []) = namesOf all := by
        simp [namesOf, List.removeAll]
      rw [namesOf_setAll, hnone]
      rfl
    · intro name
      rw [lookup_setAll, List.lookup_nil, Option.or_none]
    · intro before name value after h
      exact lookup_setAll_of_eq h
  · exact composedMetadata_not_writable labels annotations mapped hnot

def numberedPort (name : Option String) (number : Int) : Datum :=
  record [("name", textOrNull name), ("port", .int number)]

theorem numberedPort_mapped (name : Option String) (number : Int) :
    MappedPort (numberedPort name number) where
  mapping := .record _
  number := ⟨number, by simp [numberedPort, fieldOf_record]⟩
  name := by simpa [numberedPort, fieldOf_record] using TextOrNull.textOrNull name

/-- Labels `a` and `b`, an annotation `xa` and two ports of the name `a`, with the prefix `x` for
labels and ports. -/
theorem composedMetadata_of_colliding :
    let ports := Datum.list (([(some "a", 80), (none, 9000), (some "a", 81), (some "c", 82)] :
      List (Option String × Int)).map fun pair => numberedPort pair.1 pair.2)
    let labels := [("a", Datum.text "label"), ("b", .text "label")]
    let annotations := [("xa", Datum.text "annotation")]
    let options : MetadataSettings := { labelsPrefix := some "x", portsPrefix := some "x" }
    ports.ListOf MappedPort ∧ NumbersWritable options ports ∧
      ∃ merged, composedMetadata (mappingOrNull (some labels)) (mappingOrNull (some annotations))
          ports options = .ok (merged.map namedEntry) ∧
        namesOf merged = ["xa", "xb", "xc"] ∧ merged.lookup "xa" = some (.text "81") := by
  intro ports labels annotations options
  have hmapped : ports.ListOf MappedPort := ListOf.map (fun pair => numberedPort_mapped _ _) _
  have hnumbers : portNumbers ports = [("a", 80), ("a", 81), ("c", 82)] := by decide
  have hwritable : NumbersWritable options ports := by
    intro _ pair hpair
    have hsmall : ∀ pair ∈ portNumbers ports, pair.2.natAbs < 100000 := by
      rw [hnumbers]
      decide
    exact writableInt_of_lt (hsmall pair hpair)
  obtain ⟨hmerged, -⟩ := composedMetadata_merges (some labels) (some annotations) hmapped options
  obtain ⟨merged, hcomposed, hnames, hvalues, -⟩ := hmerged hwritable
  refine ⟨hmapped, hwritable, merged, hcomposed, ?_, ?_⟩
  · rw [hnames]
    decide
  · rw [hvalues]
    rfl

/-- The least number that is too long to write out. -/
def longNumber : Int := (Nat.pow 10 maxWrittenDigits : Nat)

theorem longNumber_not_writable : writableInt longNumber = false := by
  rw [writableInt, longNumber, Int.natAbs_natCast, decide_eq_false_iff_not]
  exact Nat.lt_irrefl _

/-- A named port whose number is too long has no metadata at all. A truth value in place of the
number, which counts as 1, is written as a word. -/
theorem composedMetadata_of_unusual_numbers :
    composedMetadata (mappingOrNull none) (mappingOrNull none)
        (.list [numberedPort (some "http") longNumber]) {} = .error (.fault .badValue) ∧
      composedMetadata (mappingOrNull none) (mappingOrNull none)
        (.list [record [("name", .text "http"), ("port", .bool true)]]) {} =
          .ok [(.text "port.http", .text "True")] := by
  let port (number : Int) : Datum := numberedPort (some "http") number
  have hmapped : (Datum.list ([longNumber].map port)).ListOf MappedPort :=
    ListOf.map (fun number => numberedPort_mapped _ number) _
  have hnot : ¬ NumbersWritable {} (.list ([longNumber].map port)) := fun writable =>
    absurd (writable rfl ("http", longNumber) (List.mem_singleton_self _))
      (Bool.eq_false_iff.mp longNumber_not_writable)
  exact ⟨composedMetadata_not_writable none none hmapped hnot, rfl⟩

end ClusterDiscovery
