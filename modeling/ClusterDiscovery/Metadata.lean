import ClusterDiscovery.Datum.Access
import ClusterDiscovery.Session
import ClusterDiscovery.Settings.Basic
import ClusterDiscovery.Spelling

/-! # Metadata of instances

An instance is described by the labels and annotations of its service and by the named ports of
its subset. They are merged into one mapping, where a later source wins. -/

namespace ClusterDiscovery

open Datum

def keyWithPrefix (lead : Datum) (entry : Datum × Datum) : Except Fault (Datum × Datum) := do
  return (.text ((← lead.plainText) ++ (← entry.1.plainText)), entry.2)

/-- The entries of a mapping, every key with a text in front of it. Nothing gives no entries, and
an empty text changes no key. -/
def withPrefixedKeys (mapping lead : Datum) : Except Fault (List (Datum × Datum)) := do
  if !mapping.truthy then return []
  if !lead.truthy then mapping.copiedEntries
  else match mapping with
    | .map entries => return entriesOf (← entries.mapM (keyWithPrefix lead))
    | _ => throw .noMember

def namedPort? (port : Datum) : Except Fault (Option (Datum × Datum)) := do
  if !(← port.optional "name").truthy then return none
  let name ← port.required "name"
  let number ← (← port.required "port").plainText
  if name.isKey then return some (name, .text number) else throw .wrongType

def namedPorts (ports : Datum) : Except Fault (List (Datum × Datum)) := do
  let ports ← (ports.orElse (.list [])).elements
  return entriesOf ((← ports.mapM namedPort?).filterMap id)

variable {World : Type}

/-- One source of metadata, reported when it is added. -/
def sourceEntries (enabled : Bool) (event : String)
    (entries : Except Fault (List (Datum × Datum))) :
    Action World (List (Datum × Datum)) := do
  if !enabled then return []
  let entries ← Action.ofReading entries
  Action.report (.debug event)
  return entries

/-- The metadata that all instances of a service share: its labels, then its annotations. -/
def serviceMetadata (labels annotations : Datum) (options : MetadataSettings) :
    Action World (List (Datum × Datum)) := do
  let fromLabels ← sourceEntries options.addLabels "Adding label metadata"
    (withPrefixedKeys labels (textOrNull options.labelsPrefix))
  let fromAnnotations ← sourceEntries options.addAnnotations "Adding annotation metadata"
    (withPrefixedKeys annotations (textOrNull options.annotationsPrefix))
  return putAll (putAll [] fromLabels) fromAnnotations

def portMetadata (ports : Datum) (options : MetadataSettings) :
    Action World (List (Datum × Datum)) :=
  sourceEntries options.addPorts "Adding port metadata" do
    withPrefixedKeys (.map (← namedPorts ports)) (textOrNull options.portsPrefix)

/-- Labels, annotations and ports in one mapping. -/
def composeMetadata (labels annotations ports : Datum) (options : MetadataSettings) :
    Action World (List (Datum × Datum)) := do
  let shared ← serviceMetadata labels annotations options
  return putAll shared (← portMetadata ports options)

end ClusterDiscovery
