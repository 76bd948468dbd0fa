import ClusterDiscovery.Proofs.SubsetInstances

/-! # The choice of a port

The port of a subset is the first with the primary name, letter case aside, where there are
several ports and a primary name; in all other cases it is the first port. There is no choice
among no ports, nor where none of several ports has the primary name.
-/

namespace ClusterDiscovery

open Datum Resource

/-! ## Names in lower case -/

namespace Text

/-- Lower case loses no character. -/
theorem lowerOf_ne_nil (c : Char) : lowerOf c ≠ [] := by
  have hlong : ∀ entry ∈ CaseRuns.toLowerLong, entry.2.map Char.ofNat ≠ [] := by decide
  unfold lowerOf mapped?
  split
  · next codes hfound =>
      exact hlong _ (List.mem_of_find?_eq_some hfound)
  · generalize List.find? _ CaseRuns.toLower = found
    cases found with
    | none => simp
    | some run => simp

theorem lowerAfter_eq_nil {before s : List Char} : lowerAfter before s = [] ↔ s = [] := by
  cases s with
  | nil => simp [lowerAfter]
  | cons c rest =>
      have hfirst : lowerAt before c rest ≠ [] := by
        unfold lowerAt
        by_cases hsigma : (c == 'Σ') = true
        · simp [hsigma]
        · simpa [hsigma] using lowerOf_ne_nil c
      simp [lowerAfter, hfirst]

/-- Only the empty text is empty in lower case. -/
theorem lowerCase_eq_empty {s : String} : lowerCase s = "" ↔ s = "" := by
  unfold lowerCase lower
  rw [String.ofList_eq_empty_iff, lowerAfter_eq_nil, String.toList_eq_nil_iff]

end Text

/-! ## Ports and their names -/

/-- What a choice needs of a port: it is a mapping, and its name is a text, null or left out. -/
structure ChoosablePort (port : Datum) : Prop where
  mapping : port.IsMapping
  name : (fieldOf port "name").TextOrNull

/-- The name of a port in lower case. A missing name is the empty text. -/
def nameKey (port : Datum) : String :=
  Text.lowerCase ((fieldOf port "name").text?.getD "")

/-- There are several ports, and the primary name says which of them to take. -/
def GoesByName (ports : List Datum) (primary : Option String) (name : String) : Prop :=
  2 ≤ ports.length ∧ primary = some name ∧ name ≠ ""

/-- There is no port, or none of several has the primary name. -/
def NoChoice (ports : List Datum) (primary : Option String) : Prop :=
  ports = [] ∨ ∃ name, GoesByName ports primary name ∧
    ∀ port ∈ ports, nameKey port ≠ Text.lowerCase name

/-- The least position of a port whose name has this lower case. -/
structure IsFirstNamed (ports : List Datum) (key : String) (i : Nat) : Prop where
  named : ∃ port, ports[i]? = some port ∧ nameKey port = key
  first : ∀ j < i, ∀ port, ports[j]? = some port → nameKey port ≠ key

variable {ports : List Datum} {primary : Option String} {name : String}

theorem portKey_eq {port : Datum} (h : ChoosablePort port) : portKey port = .ok (nameKey port) := by
  unfold portKey nameKey
  rw [h.mapping.optional]
  rcases h.name with hnull | ⟨s, hs⟩
  · rw [hnull]
    rfl
  · rw [hs]
    by_cases hempty : s = ""
    · rw [hempty]
      rfl
    · have htruthy : (Datum.text s).truthy = true := by simpa [truthy] using hempty
      have hkept : (Datum.text s).orElse (.text "") = .text s := by rw [orElse, if_pos htruthy]
      simp only [bind, Except.bind, hkept]
      rfl

/-- The scan finds the first port with the name. -/
theorem indexOfPort?_eq (choosable : ∀ port ∈ ports, ChoosablePort port) (wanted : String) :
    indexOfPort? wanted ports = .ok (ports.findIdx? fun port => nameKey port == wanted) := by
  induction ports with
  | nil => rfl
  | cons port rest ih =>
      have hkey : portKey port = .ok (nameKey port) :=
        portKey_eq (choosable port List.mem_cons_self)
      have hrest := ih fun p hp => choosable p (List.mem_cons_of_mem _ hp)
      unfold indexOfPort?
      rw [hkey, List.findIdx?_cons]
      by_cases hsame : (nameKey port == wanted) = true
      · simp only [bind, Except.bind, hsame, if_true]
        rfl
      · simp only [bind, Except.bind, hsame, hrest]
        rfl

/-! ## The two ways to choose -/

theorem exists_several (h : 2 ≤ ports.length) :
    ∃ first second rest, ports = first :: second :: rest := by
  match ports, h with
  | first :: second :: rest, _ => exact ⟨first, second, rest, rfl⟩

theorem choosePort_byName (h : GoesByName ports primary name)
    (choosable : ∀ port ∈ ports, ChoosablePort port) :
    choosePort ports primary =
      match ports.findIdx? fun port => nameKey port == Text.lowerCase name with
      | some i => .ok i
      | none => .error (noSuchPort name (ports.map fun port => fieldOf port "name")) := by
  obtain ⟨hseveral, rfl, hname⟩ := h
  obtain ⟨first, second, rest, rfl⟩ := exists_several hseveral
  have hindex := indexOfPort?_eq choosable (Text.lowerCase name)
  have hnames : ((first :: second :: rest).mapM fun port => port.optional "name") =
      .ok ((first :: second :: rest).map fun port => fieldOf port "name") :=
    mapM_eq_ok fun port hport => (choosable port hport).mapping.optional "name"
  have hempty : name.isEmpty = false := by simpa using hname
  simp only [choosePort, hempty, Bool.false_eq_true, if_false, hindex, hnames]
  cases (first :: second :: rest).findIdx? fun port => nameKey port == Text.lowerCase name <;> rfl

theorem choosePort_first (nonempty : ports ≠ []) (h : ∀ name, ¬ GoesByName ports primary name) :
    choosePort ports primary = .ok 0 := by
  match ports, primary with
  | [], _ => exact absurd rfl nonempty
  | [_], _ => rfl
  | _ :: _ :: _, none => rfl
  | first :: second :: rest, some name =>
      have hempty : name = "" := Decidable.byContradiction fun hname => h name ⟨by simp, rfl, hname⟩
      rw [hempty]
      rfl

theorem findIdx?_isFirstNamed {key : String} {i : Nat}
    (h : (ports.findIdx? fun port => nameKey port == key) = some i) : IsFirstNamed ports key i := by
  obtain ⟨hlt, hnamed, hfirst⟩ := List.findIdx?_eq_some_iff_getElem.mp h
  refine ⟨⟨ports[i], List.getElem?_eq_getElem hlt, by simpa using hnamed⟩, ?_⟩
  intro j hj port hport
  obtain ⟨hbound, rfl⟩ := List.getElem?_eq_some_iff.mp hport
  simpa using hfirst j hj

/-- Without a choice the choice fails, and otherwise it does not. -/
theorem choosePort_ok (choosable : ∀ port ∈ ports, ChoosablePort port)
    (h : ¬ NoChoice ports primary) :
    ∃ i, choosePort ports primary = .ok i ∧ i < ports.length ∧
      (∀ name, GoesByName ports primary name →
        IsFirstNamed ports (Text.lowerCase name) i) ∧
      ((∀ name, ¬ GoesByName ports primary name) → i = 0) := by
  have hnonempty : ports ≠ [] := fun hempty => h (.inl hempty)
  by_cases hby : ∃ name, GoesByName ports primary name
  · obtain ⟨name, hname⟩ := hby
    have hchoice := choosePort_byName hname choosable
    cases hfound : ports.findIdx? fun port => nameKey port == Text.lowerCase name with
    | none =>
        have habsent : ∀ port ∈ ports, nameKey port ≠ Text.lowerCase name := by
          intro port hport
          simpa using List.findIdx?_eq_none_iff.mp hfound port hport
        exact absurd (.inr ⟨name, hname, habsent⟩) h
    | some i =>
        rw [hfound] at hchoice
        obtain ⟨hlt, -⟩ := List.findIdx?_eq_some_iff_getElem.mp hfound
        refine ⟨i, hchoice, hlt, ?_, fun hnone => absurd hname (hnone name)⟩
        intro other hother
        obtain rfl : name = other := Option.some.inj (hname.2.1.symm.trans hother.2.1)
        exact findIdx?_isFirstNamed hfound
  · have hnone : ∀ name, ¬ GoesByName ports primary name := fun name hname => hby ⟨name, hname⟩
    refine ⟨0, choosePort_first hnonempty hnone, ?_, fun name hname => absurd hname (hnone name),
      fun _ => rfl⟩
    exact List.length_pos_iff.mpr hnonempty

theorem choosePort_error (choosable : ∀ port ∈ ports, ChoosablePort port)
    (h : NoChoice ports primary) :
    ∃ message details, choosePort ports primary = .error (.illegalState message details) := by
  rcases h with rfl | ⟨name, hname, habsent⟩
  · exact ⟨_, _, rfl⟩
  · have hfound : (ports.findIdx? fun port => nameKey port == Text.lowerCase name) = none := by
      rw [List.findIdx?_eq_none_iff]
      intro port hport
      simpa using habsent port hport
    have hchoice := choosePort_byName hname choosable
    rw [hfound] at hchoice
    exact ⟨_, _, hchoice⟩

theorem noChoice_iff (choosable : ∀ port ∈ ports, ChoosablePort port) :
    NoChoice ports primary ↔
      ∃ message details, choosePort ports primary = .error (.illegalState message details) := by
  constructor
  · exact choosePort_error choosable
  · rintro ⟨message, details, herror⟩
    apply Classical.byContradiction
    intro h
    obtain ⟨i, hchoice, -⟩ := choosePort_ok choosable h
    rw [hchoice] at herror
    cases herror

/-! ## Other spellings, and more ports -/

/-- What a choice depends on: how many ports there are, and the names in lower case. -/
theorem choosePort_toOption (choosable : ∀ port ∈ ports, ChoosablePort port) :
    (choosePort ports primary).toOption =
      if 2 ≤ ports.length ∧ Text.lowerCase (primary.getD "") ≠ "" then
        (ports.map nameKey).findIdx? (· == Text.lowerCase (primary.getD ""))
      else if ports.map nameKey = [] then none else some 0 := by
  by_cases hby : ∃ name, GoesByName ports primary name
  · obtain ⟨name, hname⟩ := hby
    obtain ⟨hseveral, rfl, hnonempty⟩ := hname
    have hkey : Text.lowerCase ((some name).getD "") ≠ "" :=
      fun hempty => hnonempty (Text.lowerCase_eq_empty.mp hempty)
    have hscan : (ports.map nameKey).findIdx? (· == Text.lowerCase name) =
        ports.findIdx? fun port => nameKey port == Text.lowerCase name := List.findIdx?_map
    rw [if_pos ⟨hseveral, hkey⟩, choosePort_byName ⟨hseveral, rfl, hnonempty⟩ choosable]
    rw [Option.getD_some, hscan]
    cases ports.findIdx? fun port => nameKey port == Text.lowerCase name <;> rfl
  · have hnone : ∀ name, ¬ GoesByName ports primary name := fun name hname => hby ⟨name, hname⟩
    have hkey : ¬ (2 ≤ ports.length ∧ Text.lowerCase (primary.getD "") ≠ "") := by
      rintro ⟨hseveral, hkey⟩
      cases primary with
      | none => exact hkey (Text.lowerCase_eq_empty.mpr rfl)
      | some name =>
          exact hnone name ⟨hseveral, rfl, fun hempty => hkey (Text.lowerCase_eq_empty.mpr hempty)⟩
    rw [if_neg hkey]
    cases hports : ports with
    | nil => rfl
    | cons port rest =>
        have hnonempty : ports ≠ [] := by simp [hports]
        rw [← hports, choosePort_first hnonempty hnone, if_neg (by simp [hports])]
        rfl

theorem choosePort_append {i : Nat} (hname : GoesByName ports primary name)
    (choosable : ∀ port ∈ ports, ChoosablePort port) {more : List Datum}
    (choosableMore : ∀ port ∈ more, ChoosablePort port) (h : choosePort ports primary = .ok i) :
    choosePort (ports ++ more) primary = .ok i := by
  have hmore : GoesByName (ports ++ more) primary name := by
    refine ⟨?_, hname.2⟩
    have hseveral := hname.1
    simp only [List.length_append]
    omega
  have hall : ∀ port ∈ ports ++ more, ChoosablePort port := by
    intro port hport
    rcases List.mem_append.mp hport with hport | hport
    · exact choosable port hport
    · exact choosableMore port hport
  rw [choosePort_byName hname choosable] at h
  rw [choosePort_byName hmore hall, List.findIdx?_append]
  cases hfound : ports.findIdx? fun port => nameKey port == Text.lowerCase name with
  | none =>
      rw [hfound] at h
      cases h
  | some first =>
      rw [hfound] at h
      exact h

/-! ## The law of the choice -/

/-- A choice fails, as an illegal state, exactly where there is no port, or several ports none of
which has the primary name. Otherwise it is the first port with the primary name, if there are
several ports and that name is not empty, and else the first port. Other spellings of the same
names, and ports behind those among which a choice by name succeeds, do not change it. -/
theorem choice_law (choosable : ∀ port ∈ ports, ChoosablePort port) (primary : Option String) :
    ((∃ message details, selectPort ports primary = .error (.illegalState message details)) ↔
      NoChoice ports primary) ∧
    (¬ NoChoice ports primary → ∃ i port, ports[i]? = some port ∧
      choosePort ports primary = .ok i ∧ selectPort ports primary = .ok port ∧
      (∀ name, GoesByName ports primary name → IsFirstNamed ports (Text.lowerCase name) i) ∧
      ((∀ name, ¬ GoesByName ports primary name) → i = 0)) ∧
    (∀ respelled primary', (∀ port ∈ respelled, ChoosablePort port) →
      respelled.map nameKey = ports.map nameKey →
      Text.lowerCase (primary'.getD "") = Text.lowerCase (primary.getD "") →
      (choosePort respelled primary').toOption = (choosePort ports primary).toOption) ∧
    ∀ name i more, GoesByName ports primary name → (∀ port ∈ more, ChoosablePort port) →
      choosePort ports primary = .ok i → choosePort (ports ++ more) primary = .ok i ∧
        selectPort (ports ++ more) primary = selectPort ports primary := by
  refine ⟨?_, ?_, ?_, ?_⟩
  · rw [noChoice_iff choosable]
    unfold selectPort
    cases choosePort ports primary <;> simp [Except.map]
  · intro h
    obtain ⟨i, hchoice, hlt, hbyName, hfirst⟩ := choosePort_ok choosable h
    refine ⟨i, ports[i], List.getElem?_eq_getElem hlt, hchoice, ?_, hbyName, hfirst⟩
    rw [selectPort, hchoice]
    simp [Except.map, List.getElem?_eq_getElem hlt]
  · intro respelled primary' hrespelled hports hprimary
    have hlength : respelled.length = ports.length := by simpa using congrArg List.length hports
    rw [choosePort_toOption hrespelled, choosePort_toOption choosable, hports, hprimary, hlength]
  · intro name i more hname hmore hchoice
    have happended := choosePort_append hname choosable hmore hchoice
    have hlt : i < ports.length := choosePort_lt hchoice
    refine ⟨happended, ?_⟩
    rw [selectPort, selectPort, happended, hchoice]
    simp [Except.map, List.getElem?_append_left hlt]

/-- A port without a name, and two whose names differ in letter case only. -/
def metricsPorts : List Datum :=
  [record [("port", .int 8080)], record [("name", .text "Metrics"), ("port", .int 9090)],
    record [("name", .text "METRICS"), ("port", .int 9091)]]

theorem metricsPorts_choosable : ∀ port ∈ metricsPorts, ChoosablePort port := by
  intro port hport
  simp only [metricsPorts, List.mem_cons, List.not_mem_nil, or_false] at hport
  rcases hport with rfl | rfl | rfl
  · exact ⟨.record _, .inl (by simp [fieldOf_record])⟩
  · exact ⟨.record _, .inr ⟨"Metrics", by simp [fieldOf_record]⟩⟩
  · exact ⟨.record _, .inr ⟨"METRICS", by simp [fieldOf_record]⟩⟩

theorem choice_of_metrics :
    (∀ port ∈ metricsPorts, ChoosablePort port) ∧
      GoesByName metricsPorts (some "metrics") "metrics" ∧
      IsFirstNamed metricsPorts (Text.lowerCase "metrics") 1 ∧
      (choosePort metricsPorts (some "METRICs")).toOption = some 1 ∧
      choosePort (metricsPorts ++ metricsPorts) (some "metrics") = .ok 1 := by
  have hname : GoesByName metricsPorts (some "metrics") "metrics" := by
    simp [GoesByName, metricsPorts]
  have hchoice : choosePort metricsPorts (some "metrics") = .ok 1 := by rfl
  obtain ⟨hfails, hchosen, hrespelled, hmore⟩ := choice_law metricsPorts_choosable (some "metrics")
  have hsome : ¬ NoChoice metricsPorts (some "metrics") := by
    intro hnone
    obtain ⟨message, details, herror⟩ := hfails.mpr hnone
    rw [selectPort, hchoice] at herror
    cases herror
  obtain ⟨i, port, -, hi, -, hbyName, -⟩ := hchosen hsome
  obtain rfl : 1 = i := Except.ok.inj (hchoice.symm.trans hi)
  refine ⟨metricsPorts_choosable, hname, hbyName "metrics" hname, ?_, ?_⟩
  · rw [hrespelled metricsPorts (some "METRICs") metricsPorts_choosable rfl (by decide +kernel),
      hchoice]
    rfl
  · exact (hmore "metrics" 1 metricsPorts hname metricsPorts_choosable hchoice).1

end ClusterDiscovery
