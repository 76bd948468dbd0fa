import ClusterDiscovery.Expression.Operators

/-! # Arguments of operations

How the arguments of a call are matched with the parameters of an operation, and how single
arguments are read. A mismatch is a fault of type. -/

namespace ClusterDiscovery.Expression

/-- The parameters of an operation, in order: those that must be given and those that may. -/
structure Signature where
  required : List String
  optional : List String

namespace Signature

def names (s : Signature) : List String := s.required ++ s.optional

/-- The arguments by parameter. No parameter is given twice, no other name is accepted, and
required parameters are present. -/
def bind (s : Signature) (args : Arguments) : Except Fault (List (Option Value)) :=
  let count := args.positional.length
  if count > s.names.length then throw .wrongType
  else
    let open_ := s.names.drop count
    if args.named.any fun entry => !open_.contains entry.1 then throw .wrongType
    else
      let bound := args.positional.map some ++ open_.map fun name =>
        (args.named.find? fun entry => entry.1 == name).map (·.2)
      if (bound.take s.required.length).any Option.isNone then throw .wrongType else pure bound

end Signature

namespace Arguments

def none : Arguments := ⟨[], []⟩

/-- The arguments of an operation that takes them by position only. -/
def byPosition (args : Arguments) (least most : Nat) : Except Fault (List (Option Value)) :=
  let count := args.positional.length
  if !args.named.isEmpty || count < least || count > most then throw .wrongType
  else pure (args.positional.map some ++ List.replicate (most - count) Option.none)

end Arguments

def intArgument (v : Value) : Except Fault Int :=
  match v.int? with
  | some i => pure i
  | none => throw .wrongType

def textArgument (v : Value) : Except Fault (List Char) :=
  match v.text? with
  | some s => pure s.toList
  | none => throw .wrongType

def optionalInt (default : Int) : Option Value → Except Fault Int
  | none => pure default
  | some v => intArgument v

def boundArgument : Option Value → Except Fault (Option Int)
  | none => pure none
  | some v => sliceBound v

/-- A limit of how often something is done; negative numbers mean no limit. -/
def limitOf (i : Int) : Option Nat := if i < 0 then none else some i.toNat

/-- A length that the machine can hold. -/
def sizeArgument (v : Value) : Except Fault Nat := do
  let i ← intArgument v
  if !isSize i || i > repetitionBudget then throw .tooLarge else return i.toNat

end ClusterDiscovery.Expression
