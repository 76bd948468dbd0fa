import ClusterDiscovery.Settings.Basic
import ClusterDiscovery.Settings.Sources
import ClusterDiscovery.Validation

/-! # Loading settings

Settings are gathered from their sources and every field is checked. Nested settings are loaded
in the same way, with their own variables. -/

namespace ClusterDiscovery

open Datum

/-- The check of nested settings. Left out, they come from their own sources, and a failure there
ends everything. They are given as a mapping of their fields; settings that were made before and
are given as an object are not covered, as arguments here are data. -/
def nestedField {α : Type} (given : List (Datum × Datum)) (name : String)
    (load : List (Datum × Datum) → Except Failure α) : Checked α :=
  match named? given name with
  | none =>
    match load [] with
    | .ok a => .accepted a
    | .error f => .broken f
  | some (.map fields) =>
    match load fields with
    | .ok a => .accepted a
    | .error (.validation errors) => (Checked.rejected errors).under (.field name)
    | .error (.undecodable _ _) => (Checked.reject .badValue).under (.field name)
    | .error f => .broken f
  | some _ => (Checked.reject .modelType).under (.field name)

namespace KubernetesSettings

def form : SettingsForm where
  lead := "K8S_"
  fields := [.plain "kubeconfig_path", .plain "namespace", .plain "context", .plain "in_cluster"]
  readsFile := false

def check (given : List (Datum × Datum)) : Checked KubernetesSettings :=
  mk <$> optionalField given "kubeconfig_path" none (Check.nullable Check.text)
    <*> optionalField given "namespace" "default" Check.text
    <*> optionalField given "context" none (Check.nullable Check.text)
    <*> optionalField given "in_cluster" false Check.bool
    <* noFieldsBeyond form.names given

def load (env : Environment) (arguments : List (Datum × Datum)) :
    Except Failure KubernetesSettings := do
  (check (← form.gather env arguments)).toExcept

def fields (s : KubernetesSettings) : Datum :=
  record [("kubeconfig_path", textOrNull s.kubeconfigPath),
    ("namespace", .text s.defaultNamespace), ("context", textOrNull s.context),
    ("in_cluster", .bool s.inCluster)]

end KubernetesSettings

namespace MetadataSettings

def form : SettingsForm where
  lead := "DISCOVERY_METADATA_"
  fields := [.plain "add_labels", .plain "labels_prefix", .plain "add_annotations",
    .plain "annotations_prefix", .plain "add_ports", .plain "ports_prefix"]
  readsFile := false

def check (given : List (Datum × Datum)) : Checked MetadataSettings :=
  mk <$> optionalField given "add_labels" true Check.bool
    <*> optionalField given "labels_prefix" none (Check.nullable Check.text)
    <*> optionalField given "add_annotations" true Check.bool
    <*> optionalField given "annotations_prefix" none (Check.nullable Check.text)
    <*> optionalField given "add_ports" true Check.bool
    <*> optionalField given "ports_prefix" (some "port.") (Check.nullable Check.text)
    <* noFieldsBeyond form.names given

def load (env : Environment) (arguments : List (Datum × Datum)) :
    Except Failure MetadataSettings := do
  (check (← form.gather env arguments)).toExcept

def fields (s : MetadataSettings) : Datum :=
  record [("add_labels", .bool s.addLabels), ("labels_prefix", textOrNull s.labelsPrefix),
    ("add_annotations", .bool s.addAnnotations),
    ("annotations_prefix", textOrNull s.annotationsPrefix),
    ("add_ports", .bool s.addPorts), ("ports_prefix", textOrNull s.portsPrefix)]

end MetadataSettings

namespace DiscoverySettings

def form : SettingsForm where
  lead := "DISCOVERY_"
  fields := [.plain "enabled", .plain "all_namespaces", .structured "service_labels",
    .plain "primary_port_name", .structured "known_secure_ports", .plain "filter",
    .plain "catalog_services_watch_delay", .nested "metadata" MetadataSettings.form.fields]
  readsFile := false

/-- A blank text counts as none. -/
def blankAsNull : Datum → Datum
  | .text s => if (Text.trim s).isEmpty then .null else .text s
  | d => d

/-- A text that may be missing or blank. -/
def nonBlank : Check (Option String) := fun d => Check.nullable Check.text (blankAsNull d)

def check (env : Environment) (given : List (Datum × Datum)) : Checked DiscoverySettings :=
  mk <$> optionalField given "enabled" true Check.bool
    <*> optionalField given "all_namespaces" false Check.bool
    <*> optionalField given "service_labels" [] (Check.mapping Check.text)
    <*> optionalField given "primary_port_name" none nonBlank
    <*> optionalField given "known_secure_ports" [443, 8443] Check.intSet
    <*> optionalField given "filter" none nonBlank
    <*> optionalField given "catalog_services_watch_delay" 30.0 Check.float
    <*> nestedField given "metadata" (MetadataSettings.load env)
    <* noFieldsBeyond form.names given

def load (env : Environment) (arguments : List (Datum × Datum)) :
    Except Failure DiscoverySettings := do
  (check env (← form.gather env arguments)).toExcept

def fields (s : DiscoverySettings) : Datum :=
  record [("enabled", .bool s.enabled), ("all_namespaces", .bool s.allNamespaces),
    ("service_labels", s.labelsDatum), ("primary_port_name", textOrNull s.primaryPortName),
    ("known_secure_ports", .list (s.knownSecurePorts.map .int)),
    ("filter", textOrNull s.filter), ("catalog_services_watch_delay", .float s.watchDelay),
    ("metadata", s.metadata.fields)]

end DiscoverySettings

def Severity.ofName? (name : String) : Option Severity :=
  Severity.all.find? fun s => s.name == Text.upperCase name

def Severity.check : Check Severity
  | .text s =>
    match Severity.ofName? s with
    | some severity => .accepted severity
    | none => .reject .badValue
  | _ => .reject .notAmongNames

namespace Settings

def form : SettingsForm where
  lead := ""
  fields := [.plain "log_level", .nested "kubernetes" KubernetesSettings.form.fields,
    .nested "discovery" DiscoverySettings.form.fields]
  readsFile := true

def check (env : Environment) (given : List (Datum × Datum)) : Checked Settings :=
  mk <$> optionalField given "log_level" .info Severity.check
    <*> nestedField given "kubernetes" (KubernetesSettings.load env)
    <*> nestedField given "discovery" (DiscoverySettings.load env)

/-- All settings. Fields that do not exist are skipped. -/
def load (env : Environment) (arguments : List (Datum × Datum)) : Except Failure Settings := do
  (check env (← form.gather env arguments)).toExcept

def fields (s : Settings) : Datum :=
  record [("log_level", .text s.logLevel.name), ("kubernetes", s.kubernetes.fields),
    ("discovery", s.discovery.fields)]

end Settings

end ClusterDiscovery
