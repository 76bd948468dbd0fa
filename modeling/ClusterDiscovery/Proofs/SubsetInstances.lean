import ClusterDiscovery.Discovery.Expansion
import ClusterDiscovery.Proofs.MetadataSources

/-! # The instances of a subset

Every address of a mapped subset becomes one instance. All of them share the port that is chosen
for the subset, its metadata, and whether that port is secure.
-/

namespace ClusterDiscovery

open Datum Resource

/-! ## The chosen port -/

theorem indexOfPort?_lt {wanted : String} {ports : List Datum} {i : Nat}
    (h : indexOfPort? wanted ports = .ok (some i)) : i < ports.length := by
  induction ports generalizing i with
  | nil => cases h
  | cons port rest ih =>
      unfold indexOfPort? at h
      cases hkey : portKey port with
      | error f => simp [hkey, bind, Except.bind] at h
      | ok key =>
          by_cases hsame : key == wanted
          · have hi : 0 = i := by
              simpa [hkey, hsame, bind, Except.bind, pure, Except.pure] using h
            simp [← hi]
          · cases hrest : indexOfPort? wanted rest with
            | error f => simp [hkey, hsame, hrest, bind, Except.bind] at h
            | ok found =>
                have hfound : found.map (· + 1) = some i := by
                  simpa [hkey, hsame, hrest, bind, Except.bind, pure, Except.pure] using h
                obtain ⟨j, rfl, rfl⟩ := Option.map_eq_some_iff.mp hfound
                have hj := ih hrest
                simpa using hj

theorem choosePort_lt {ports : List Datum} {primary : Option String} {i : Nat}
    (h : choosePort ports primary = .ok i) : i < ports.length := by
  unfold choosePort at h
  split at h
  · cases h
  · cases h
    simp
  · cases h
    cases ports <;> simp_all
  · split at h
    · cases h
      cases ports <;> simp_all
    · cases hindex : indexOfPort? (Text.lowerCase ‹String›) ports with
      | error f => simp [hindex] at h
      | ok found =>
          cases found with
          | some j =>
              have hj : j = i := by simpa [hindex] using h
              exact hj ▸ indexOfPort?_lt hindex
          | none =>
              simp only [hindex] at h
              split at h <;> cases h

/-- The chosen port is one of the ports. -/
theorem selectPort_mem {ports : List Datum} {primary : Option String} {port : Datum}
    (h : selectPort ports primary = .ok port) : port ∈ ports := by
  unfold selectPort at h
  cases hchoice : choosePort ports primary with
  | error f =>
      rw [hchoice] at h
      cases h
  | ok i =>
      rw [hchoice] at h
      cases h
      have hi := choosePort_lt hchoice
      simp [List.getD, List.getElem?_eq_getElem hi]

/-! ## Security -/

/-- Labels or annotations declare their service as secured. -/
def marked (labelling : Datum) : Bool :=
  match fieldOf labelling "secured" with
  | .text s => affirmations.contains s
  | _ => false

/-- A port is secure by a label, by an annotation or by its number. -/
def portSecure (secure : SecurePorts) (service port : Datum) : Bool :=
  marked (fieldOf service "labels") || marked (fieldOf service "annotations") ||
    secure.known.any (same (fieldOf port "port"))

theorem marks_orElse (d : Datum) :
    SecurePorts.marks (d.orElse (.map [])) = SecurePorts.marks d := by
  unfold SecurePorts.marks
  rw [orElse_orElse]

theorem map_orElse (entries : List (Datum × Datum)) :
    (Datum.map entries).orElse (.map []) = .map entries := by
  cases entries <;> rfl

theorem Datum.TextEntries.named? {entries : List (Datum × Datum)} (h : TextEntries entries)
    (name : String) :
    named? entries name = none ∨ ∃ s, named? entries name = some (.text s) := by
  unfold Datum.named? Datum.lookup?
  cases hfound : entries.find? fun e => same (.text name) e.1 with
  | none => exact .inl rfl
  | some e =>
      obtain ⟨s, hs⟩ := (h e (List.mem_of_find?_eq_some hfound)).2
      exact .inr ⟨s, by rw [Option.map_some, hs]⟩

theorem marks_eq {d : Datum} (h : d.Labelling) : SecurePorts.marks d = .ok (marked d) := by
  obtain rfl | ⟨entries, rfl, htexts⟩ := h
  · rfl
  unfold SecurePorts.marks marked fieldOf
  rw [map_orElse]
  obtain hnone | ⟨s, hs⟩ := htexts.named? "secured"
  · simp only [hnone]
    rfl
  · simp only [hs]
    rfl

/-- Whether a port is secure is always decided. -/
theorem reason?_eq (secure : SecurePorts) {service port : Datum}
    (hlabels : (fieldOf service "labels").Labelling)
    (hannotations : (fieldOf service "annotations").Labelling) (hport : MappedPort port) :
    ∃ reason, secure.reason? (fieldOf port "port") ((fieldOf service "labels").orElse (.map []))
        ((fieldOf service "annotations").orElse (.map [])) = .ok reason ∧
      reason.isSome = portSecure secure service port := by
  obtain ⟨n, hn⟩ := hport.number
  have hknows : secure.knows (fieldOf port "port") =
      .ok (secure.known.any (same (fieldOf port "port"))) := by
    rw [hn]
    rfl
  unfold SecurePorts.reason? portSecure
  rw [marks_orElse, marks_orElse, marks_eq hlabels, marks_eq hannotations, hknows]
  cases marked (fieldOf service "labels") with
  | true => exact ⟨_, rfl, rfl⟩
  | false =>
      cases marked (fieldOf service "annotations") with
      | true => exact ⟨_, rfl, rfl⟩
      | false => cases secure.known.any (same (fieldOf port "port")) <;> exact ⟨_, rfl, rfl⟩

/-! ## The instance at an address -/

/-- The fields of the instance at an address. -/
def instanceFields (name inNamespace : String) (metadata : List (Datum × Datum)) (port : Datum)
    (secure : Bool) (address : Datum) : Datum :=
  record [("instance_id", fieldOf (fieldOf address "target_ref") "uid"),
    ("service_id", .text name), ("namespace", .text inNamespace), ("host", fieldOf address "ip"),
    ("port", fieldOf port "port"), ("metadata", .map metadata), ("secure", .bool secure)]

theorem Check.entries_texts (pairs : List (String × String)) :
    Check.entries Check.text (pairs.map textEntry) = .accepted pairs := by
  induction pairs with
  | nil => rfl
  | cons pair pairs ih =>
      simp only [List.map_cons, Check.entries, ih]
      rfl

theorem ServiceInstance.ofFields_accepted (id : Option String) (name inNamespace host : String)
    (n : Int) (pairs : List (String × String)) (secure : Bool) :
    ServiceInstance.ofFields [(.text "instance_id", textOrNull id),
      (.text "service_id", .text name), (.text "namespace", .text inNamespace),
      (.text "host", .text host), (.text "port", .int n),
      (.text "metadata", .map (pairs.map textEntry)),
      (.text "secure", .bool secure)] =
    .accepted ⟨id, name, some inNamespace, host, n, pairs, secure⟩ := by
  have hfields := Check.entries_texts pairs
  simp only [ServiceInstance.ofFields, requiredField, optionalField, Datum.named?, lookup?,
    List.find?_cons, same_text_text, String.reduceBEq, beq_self_eq_true, Option.map_some,
    Check.mapping, hfields]
  cases id <;> rfl

/-- A mapped address has an instance, and its fields are those of the address, of the port and of
the service. -/
theorem instanceAt_eq {address port : Datum} (haddress : MappedAddress address)
    (hport : MappedPort port) {metadata : List (Datum × Datum)} (htexts : TextEntries metadata)
    (name inNamespace : String) (labels annotations : Datum) (shared : List (Datum × Datum))
    (secure : Bool) :
    ∃ i, instanceAt ⟨.text name, .text inNamespace, labels, annotations, shared⟩ metadata port
        secure address = .ok i ∧
      i.fields = instanceFields name inNamespace metadata port secure address := by
  obtain ⟨hmap, ⟨host, hhost⟩, href⟩ := haddress
  obtain ⟨-, ⟨n, hn⟩, -⟩ := hport
  obtain ⟨pairs, rfl⟩ := htexts.eq_map
  have hid : ∃ id, fieldOf (fieldOf address "target_ref") "uid" = textOrNull id := by
    obtain hnull | ⟨-, hnull | ⟨s, hs⟩⟩ := href
    · exact ⟨none, by rw [hnull]; rfl⟩
    · exact ⟨none, hnull⟩
    · exact ⟨some s, hs⟩
  obtain ⟨id, huid⟩ := hid
  refine ⟨⟨id, name, some inNamespace, host, n, pairs, secure⟩, ?_, ?_⟩
  · have hfields := ServiceInstance.ofFields_accepted id name inNamespace host n pairs secure
    unfold instanceAt
    cases htruthy : (fieldOf address "target_ref").truthy with
    | false =>
        rw [← huid, fieldOf_of_not_truthy htruthy] at hfields
        simp only [hmap.optional, bind, Except.bind, htruthy, required_of_fieldOf hhost (by simp),
          required_of_fieldOf hn (by simp), pure, Except.pure, Bool.false_eq_true, if_false,
          hfields]
        rfl
    | true =>
        have href : (fieldOf address "target_ref").IsMapping := by
          obtain hnull | ⟨hmap, -⟩ := href
          · rw [hnull] at htruthy
            cases htruthy
          · exact hmap
        simp only [hmap.optional, bind, Except.bind, htruthy, href.optional, huid,
          required_of_fieldOf hhost (by simp), required_of_fieldOf hn (by simp), pure,
          Except.pure, if_true, hfields]
        rfl
  · simp only [ServiceInstance.fields, instanceFields, huid, hhost, hn]
    rfl

/-! ## All addresses -/

/-- The fields of the instances of a subset: one instance for every address, in order. A subset
without addresses needs no port. -/
def subsetInstances (settings : DiscoverySettings) (secure : SecurePorts)
    (name inNamespace : String) (service subset : Datum) : Except Failure (List Datum) := do
  if (fieldOf subset "addresses").items.isEmpty then return []
  let metadata ← composedMetadata (fieldOf service "labels") (fieldOf service "annotations")
    (fieldOf subset "ports") settings.metadata
  let port ← selectPort (fieldOf subset "ports").items settings.primaryPortName
  return (fieldOf subset "addresses").items.map
    (instanceFields name inNamespace metadata port (portSecure secure service port))

/-- A service that does not exist counts as one without labels and annotations. -/
theorem subsetInstances_anonymous (settings : DiscoverySettings) (secure : SecurePorts)
    (name inNamespace : String) (d : Datum) :
    subsetInstances settings secure name inNamespace (anonymousService d) =
      subsetInstances settings secure name inNamespace .null := by
  have hlabels : fieldOf (anonymousService d) "labels" = Datum.null.orElse (.map []) := rfl
  have hannotations : fieldOf (anonymousService d) "annotations" = Datum.null.orElse (.map []) :=
    rfl
  have hsecure (port : Datum) : portSecure secure (anonymousService d) port =
      portSecure secure .null port := rfl
  funext subset
  simp only [subsetInstances, composedMetadata_eq, hsecure, hlabels, hannotations,
    serviceContribution_orElse]
  rfl

theorem portList_eq {ports : Datum} (h : ports.ListOf MappedPort) :
    portList (ports.orElse (.list [])) = .ok ports.items := by
  obtain rfl | ⟨items, rfl, -⟩ := h
  · rfl
  · cases items <;> rfl

section Runs

open ClusterDiscovery.Action

variable {World : Type} {w : World}

def instancesOn (secure : SecurePorts) (context : ServiceContext)
    (metadata : List (Datum × Datum)) (addresses port : Datum) :
    Action World (List ServiceInstance) := do
  let number ← ofReading (port.optional "port")
  let reason ← ofReading (secure.reason? number context.labels context.annotations)
  if let some reason := reason then report reason.entry
  ofResult ((← ofReading addresses.elements).mapM
    (instanceAt context metadata port reason.isSome))

theorem instancesOn_runsTo (secure : SecurePorts) (name inNamespace : String)
    {service addresses port : Datum} {metadata : List (Datum × Datum)}
    (shared : List (Datum × Datum)) (hlabels : (fieldOf service "labels").Labelling)
    (hannotations : (fieldOf service "annotations").Labelling) (htexts : TextEntries metadata)
    (haddresses : addresses.ListOf MappedAddress) (nonempty : addresses.items.isEmpty = false)
    (hport : MappedPort port) :
    ∃ instances, RunsTo (instancesOn secure ⟨.text name, .text inNamespace,
        (fieldOf service "labels").orElse (.map []),
        (fieldOf service "annotations").orElse (.map []), shared⟩ metadata addresses port) w
        (.ok instances) w ∧
      instances.map ServiceInstance.fields = addresses.items.map
        (instanceFields name inNamespace metadata port (portSecure secure service port)) := by
  obtain ⟨reason, hreason, hsecure⟩ := reason?_eq secure hlabels hannotations hport
  obtain ⟨instances, hinstances, hfields⟩ := exists_mapM_eq_ok
    fun a (ha : a ∈ addresses.items) => instanceAt_eq (haddresses.mem ha) hport htexts name
      inNamespace ((fieldOf service "labels").orElse (.map []))
      ((fieldOf service "annotations").orElse (.map [])) shared reason.isSome
  have helements := runsTo_of_read (w := w) (haddresses.elements nonempty)
  rw [hsecure] at hfields
  refine ⟨instances, ?_, hfields⟩
  refine (runsTo_of_read (hport.mapping.optional _)).trans ((runsTo_of_read hreason).trans ?_)
  cases reason with
  | none => exact helements.trans (runsTo_of_result hinstances)
  | some reason =>
      exact (runsTo_report _).trans (helements.trans (runsTo_of_result hinstances))

theorem expandSubset_runsTo (settings : DiscoverySettings) (secure : SecurePorts)
    (name inNamespace : String) {service subset : Datum} {shared : List (Datum × Datum)}
    (hlabels : (fieldOf service "labels").Labelling)
    (hannotations : (fieldOf service "annotations").Labelling)
    (hshared : serviceContribution (fieldOf service "labels") (fieldOf service "annotations")
      settings.metadata = .ok shared)
    (htexts : TextEntries shared) (h : MappedSubset subset) :
    ∃ r, RunsTo (expandSubset settings secure ⟨.text name, .text inNamespace,
        (fieldOf service "labels").orElse (.map []),
        (fieldOf service "annotations").orElse (.map []), shared⟩ subset) w r w ∧
      r.map (List.map ServiceInstance.fields) =
        subsetInstances settings secure name inNamespace service subset := by
  have haddresses : RunsTo (ofReading (subset.optional "addresses")) w
      (.ok (fieldOf subset "addresses")) w :=
    runsTo_of_read (h.record.isMapping.optional _)
  have hports : RunsTo (ofReading (subset.optional "ports")) w (.ok (fieldOf subset "ports")) w :=
    runsTo_of_read (h.record.isMapping.optional _)
  have hmetadata := portMetadata_runsTo (w := w) ((fieldOf subset "ports").orElse (.list []))
    settings.metadata
  have hlist := runsTo_of_read (w := w) (portList_eq h.ports)
  rw [portContribution_orElse] at hmetadata
  unfold expandSubset subsetInstances
  rw [composedMetadata_eq, hshared]
  cases hempty : (fieldOf subset "addresses").items.isEmpty with
  | true =>
      refine ⟨.ok [], haddresses.trans ?_, rfl⟩
      rw [h.addresses.truthy, hempty]
      exact runsTo_pure []
  | false =>
      cases hfound : portContribution (fieldOf subset "ports") settings.metadata with
      | error f =>
          rw [hfound] at hmetadata
          refine ⟨.error f, haddresses.trans ?_, rfl⟩
          rw [h.addresses.truthy, hempty]
          exact hports.trans hmetadata.stop
      | ok found =>
          rw [hfound] at hmetadata
          cases hport : selectPort (fieldOf subset "ports").items settings.primaryPortName with
          | error f =>
              refine ⟨.error f, haddresses.trans ?_, rfl⟩
              rw [h.addresses.truthy, hempty]
              exact hports.trans (hmetadata.trans (hlist.trans (runsTo_of_result hport).stop))
          | ok port =>
              have hmapped : MappedPort port := h.ports.mem (selectPort_mem hport)
              have hall : TextEntries (putAll shared found) :=
                htexts.putAll (portContribution_texts h.ports hfound)
              obtain ⟨instances, hinstances, hfields⟩ := instancesOn_runsTo (w := w) secure name
                inNamespace shared hlabels hannotations hall h.addresses hempty hmapped
              refine ⟨.ok instances, haddresses.trans ?_, congrArg Except.ok hfields⟩
              rw [h.addresses.truthy, hempty]
              exact hports.trans (hmetadata.trans (hlist.trans
                ((runsTo_of_result hport).trans hinstances)))

end Runs

end ClusterDiscovery
