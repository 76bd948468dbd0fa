import ClusterDiscovery.Expression.Iterate
import ClusterDiscovery.Expression.Signature
import ClusterDiscovery.Number.Numeral
import ClusterDiscovery.Text.Case

/-! # Attribute paths and sort keys

Filters name a part of each element by a path such as `spec.ports.0`. Sorting and grouping read
keys off elements by such paths, by default without regard to case. -/

namespace ClusterDiscovery.Expression

open ClusterDiscovery.Text

/-- One step of a written path: digits are a position. -/
def pathStep (s : List Char) : Except Fault Value :=
  if !s.isEmpty && s.all isDigit then
    match Number.readInt? 10 s with
    | some i => pure (.int i)
    | none => throw .badValue
  else pure (.text (String.ofList s))

/-- The steps of a path. A text is taken apart at its points, null is the empty path, and any
other value is a single step. -/
def pathOf (v : Value) : Except Fault (List Value) :=
  match v, v.text? with
  | .null, _ => pure []
  | _, some s => (splitOn ['.'] none s.toList).mapM pathStep
  | v, none => pure [v]

/-- Several paths with commas between them. -/
def pathsOf (v : Value) : Except Fault (List (List Value)) :=
  match v.text? with
  | some s => (splitOn [','] none s.toList).mapM fun part => pathOf (.text (String.ofList part))
  | none => return [← pathOf v]

/-- The part of a value at the end of a path. With a replacement, an undefined step is replaced
by it. -/
def followSteps (replacement : Option Value) : List Value → Value → Run Value
  | [], v => pure v
  | step :: rest, v => do
    let found ← getItem v step
    let found := match replacement, found with
      | some .null, found => found
      | some r, .undefined _ => r
      | _, found => found
    followSteps replacement rest found

/-- A text in lower case; other values are left as they are. -/
def withoutCase (v : Value) : Value :=
  match v with
  | .text s => .text (lowerCase s)
  | .markup s => .markup (lowerCase s)
  | v => v

/-- The key of an element: the end of a path, without case unless case counts. -/
def keyOf (path : List Value) (replacement : Option Value) (caseSensitive : Bool) (v : Value) :
    Run Value := do
  let key ← followSteps replacement path v
  return if caseSensitive then key else withoutCase key

def flagOf (store : Store) (default : Bool) : Option Value → Bool
  | none => default
  | some v => truthy store v

end ClusterDiscovery.Expression
