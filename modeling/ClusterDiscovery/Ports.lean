import ClusterDiscovery.Datum.Access
import ClusterDiscovery.Failure
import ClusterDiscovery.Text.Case

/-! # The port of a subset

Instances of an endpoint subset are reached on one of its ports. A lone port is always that one.
Of several ports the one with the primary name is taken, letter case aside, and without a primary
name the first. -/

namespace ClusterDiscovery

open Datum

/-- The name of a port in lower case. A port without a name counts as named by the empty text. -/
def portKey (port : Datum) : Except Fault String := do
  match (← port.optional "name").orElse (.text "") with
  | .text name => return Text.lowerCase name
  | _ => throw .noMember

def indexOfPort? (wanted : String) : List Datum → Except Fault (Option Nat)
  | [] => return none
  | port :: rest => do
    if (← portKey port) == wanted then return some 0
    else return (← indexOfPort? wanted rest).map (· + 1)

/-- The failure when no port has the primary name. -/
def noSuchPort (primary : String) (names : List Datum) : Failure :=
  .illegalState ("No endpoint port named '" ++ primary ++ "'")
    [(.text "primary_port_name", .text primary), (.text "ports", .list names)]

/-- The position of the port that instances are reached on. -/
def choosePort (ports : List Datum) (primary : Option String) : Except Failure Nat :=
  match ports, primary with
  | [], _ => .error (.illegalState "Endpoint subset exposes no ports" [])
  | [_], _ => .ok 0
  | _, none => .ok 0
  | ports, some name =>
    if name.isEmpty then .ok 0
    else match indexOfPort? (Text.lowerCase name) ports with
      | .error f => .error (.fault f)
      | .ok (some i) => .ok i
      | .ok none =>
        match ports.mapM fun port => port.optional "name" with
        | .error f => .error (.fault f)
        | .ok names => .error (noSuchPort name names)

/-- The primary name that data stand for. What is false is no name. -/
def primaryName? (primary : Datum) : Except Fault (Option String) :=
  match primary with
  | .text name => .ok (some name)
  | d => if d.truthy then .error .noMember else .ok none

/-- The position of the chosen port, for a primary name given as data. The name is looked at only
when there is a choice. -/
def choosePortBy (ports : List Datum) (primary : Datum) : Except Failure Nat :=
  if ports.length < 2 then choosePort ports none
  else match primaryName? primary with
    | .ok name => choosePort ports name
    | .error f => .error (.fault f)

def selectPort (ports : List Datum) (primary : Option String) : Except Failure Datum :=
  (choosePort ports primary).map fun i => ports.getD i .null

end ClusterDiscovery
