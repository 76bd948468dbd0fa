import ClusterDiscovery.Datum.Access
import ClusterDiscovery.Spelling
import ClusterDiscovery.Text.Pieces

/-! # Label selectors

Labels that a resource has to carry, written as one text: `key=value`, separated by commas. A
cluster reads the text back into its requirements. -/

namespace ClusterDiscovery

open Datum

def labelRequirement (entry : Datum × Datum) : Except Fault String := do
  return (← entry.1.plainText) ++ "=" ++ (← entry.2.plainText)

/-- The selector of all labels of a mapping. No labels need no selector. -/
def labelSelector? (labels : Datum) : Except Fault (Option String) := do
  if !labels.truthy then return none
  match labels with
  | .map entries => return some (String.intercalate "," (← entries.mapM labelRequirement))
  | _ => throw .noMember

namespace Cluster

def requirements (selector : String) : List (String × String) :=
  (Text.splitOn [','] none selector.toList).map fun part =>
    let (key, _, value) := Text.partition ['='] part
    (String.ofList key, String.ofList value)

/-- Whether labels meet a selector. -/
def meets (labels : Option (List (String × String))) (selector : Option String) : Bool :=
  match selector with
  | none => true
  | some selector => (requirements selector).all fun (key, value) =>
      ((labels.getD []).find? fun e => e.1 == key).map (·.2) == some value

end Cluster

end ClusterDiscovery
