import ClusterDiscovery.Expression.Syntax
import ClusterDiscovery.Expression.Token

/-! # Nesting

An expression is read and folded by recursion, on a stack of a thousand frames, and then written
down as code of the host, in which no more than 200 brackets may be open at one place. What an
expression takes of both is counted on its tokens before it is read, and on its tree afterwards.
The callers of a filter are taken to have little on the stack. -/

namespace ClusterDiscovery.Expression

/-! ## Tokens -/

/-- What stands on the stack for the part between two brackets, as far as it is read. -/
structure Level where
  /-- The frames below the part. -/
  start : Nat
  /-- The branches of conditionals that it ends in. -/
  elses : Nat := 0
  /-- The negations that wait for their operand. -/
  nots : Nat := 0
  /-- The signs that wait for theirs. -/
  signs : Nat := 0

def Level.frames (level : Level) : Nat := level.start + level.elses + level.nots + level.signs

/-- A place between two tokens. -/
structure Place where
  level : Level
  outer : List Level
  /-- Whether an operand ends here. -/
  afterOperand : Bool

namespace Place

def start : Place := ⟨{ start := 0 }, [], false⟩

def frames (p : Place) : Nat := p.level.frames

/-- The frames that the part behind an opening bracket lies above the bracket. Groups, calls and
elements take one more than lists and mappings. -/
def bracketFrames (p : Place) (symbol : String) : Nat :=
  if symbol == "(" || p.afterOperand then 14 else 13

def enter (p : Place) (symbol : String) : Place :=
  ⟨{ start := p.frames + p.bracketFrames symbol }, p.level :: p.outer, false⟩

def leave (p : Place) : Place :=
  match p.outer with
  | [] => { p with afterOperand := true }
  | level :: outer => ⟨level, outer, true⟩

/-- Behind an operator that the signs before it bind tighter than. -/
def behindOperator (p : Place) (afterOperand : Bool) : Place :=
  { p with level := { p.level with signs := 0 }, afterOperand }

/-- Behind a word that the negations before it bind tighter than. -/
def behindConnective (p : Place) : Place :=
  { p with level := { p.level with nots := 0, signs := 0 }, afterOperand := false }

def behindWord (p : Place) (word : String) : Place :=
  if word == "and" || word == "or" || word == "if" then p.behindConnective
  else if word == "else" then
    let next := p.behindConnective
    { next with level := { next.level with elses := next.level.elses + 1 } }
  else if word == "not" then
    if p.afterOperand then p.behindOperator false
    else { p with level := { p.level with nots := p.level.nots + 1 } }
  else if word == "in" then p.behindOperator false
  else if word == "is" then p.behindOperator true
  else { p with afterOperand := true }

def behindSymbol (p : Place) (symbol : String) : Place :=
  if symbol == "(" || symbol == "[" || symbol == "\x7b" then p.enter symbol
  else if symbol == ")" || symbol == "]" || symbol == "\x7d" then p.leave
  else if symbol == "," || symbol == ":" then
    { p with level := { start := p.level.start }, afterOperand := false }
  else if symbol == "." then p
  else if (symbol == "-" || symbol == "+") && !p.afterOperand then
    { p with level := { p.level with signs := p.level.signs + 1 } }
  else p.behindOperator false

def step (p : Place) : Token → Place
  | .name word => p.behindWord word
  | .symbol symbol => p.behindSymbol symbol
  | .text _ | .integer _ | .decimal _ => { p with afterOperand := true }
  | _ => p

def after (read : List Token) : Place := read.foldl step start

end Place

/-- The frames that are left to the parts of an expression when its reading begins. -/
def readingRoom : Nat := 976

/-- Tokens up to the first that lies too deep to be read. A token that cannot be read at all is
met before its depth matters. -/
def withinRoom : Place → List Token → List Token
  | _, [] => []
  | _, .broken issue :: _ => [.broken issue]
  | p, t :: rest =>
    if readingRoom < p.frames then [.broken (.fault .tooDeep)] else t :: withinRoom (p.step t) rest

/-! ## Trees -/

mutual

/-- The number of nodes on the longest way down a tree. An entry of a mapping, an operand of a
comparison and a named argument are nodes of their own. -/
def Expr.height : Expr → Nat
  | .literal _ => 1
  | .name _ => 1
  | .tuple items => 1 + heightOfAll items
  | .list items => 1 + heightOfAll items
  | .map entries => 2 + heightOfEntries entries
  | .unary _ e => 1 + e.height
  | .binary _ a b => 1 + max a.height b.height
  | .both a b => 1 + max a.height b.height
  | .either a b => 1 + max a.height b.height
  | .concat items => 1 + heightOfAll items
  | .compare first rest => 1 + max first.height (1 + heightOfChain rest)
  | .conditional test yes no => 1 + max test.height (max yes.height (heightOfOption no))
  | .attribute e _ => 1 + e.height
  | .item e key => 1 + max e.height key.height
  | .slice start stop step =>
    1 + max (heightOfOption start) (max (heightOfOption stop) (heightOfOption step))
  | .call f args => 1 + max f.height (heightOfInputs args)
  | .filter e _ args => 1 + max e.height (heightOfInputs args)
  | .test e _ args => 1 + max e.height (heightOfInputs args)

def heightOfAll : List Expr → Nat
  | [] => 0
  | e :: rest => max e.height (heightOfAll rest)

def heightOfEntries : List (Expr × Expr) → Nat
  | [] => 0
  | (k, e) :: rest => max (max k.height e.height) (heightOfEntries rest)

def heightOfChain : List (CompareOperator × Expr) → Nat
  | [] => 0
  | (_, e) :: rest => max e.height (heightOfChain rest)

def heightOfNamed : List (String × Expr) → Nat
  | [] => 0
  | (_, e) :: rest => max (1 + e.height) (heightOfNamed rest)

def heightOfOption : Option Expr → Nat
  | none => 0
  | some e => e.height

def heightOfInputs : Inputs → Nat
  | .mk positional named rest namedRest =>
    max (max (heightOfAll positional) (heightOfNamed named))
      (max (heightOfOption rest) (heightOfOption namedRest))

end

/-- The nodes that can stand below each other in a tree that is folded, three frames for each. -/
def heightLimit : Nat := 326

mutual

def Literal.brackets : Literal → Nat
  | .tuple items => 1 + bracketsOfLiterals items
  | .list items => 1 + bracketsOfLiterals items
  | .map entries => 1 + bracketsOfLiteralEntries entries
  | .markup _ => 1
  | .range _ _ _ => 1
  | .complex re _ => if re == 0.0 then 0 else 1
  | _ => 0

def bracketsOfLiterals : List Literal → Nat
  | [] => 0
  | l :: rest => max l.brackets (bracketsOfLiterals rest)

def bracketsOfLiteralEntries : List (Literal × Literal) → Nat
  | [] => 0
  | (k, v) :: rest => max (max k.brackets v.brackets) (bracketsOfLiteralEntries rest)

end

mutual

/-- The most brackets that are open at one place in the code for an expression. Operators stand
in parentheses, and names, members, filters and tests are calls. -/
def Expr.brackets : Expr → Nat
  | .literal l => l.brackets
  | .name _ => 2
  | .tuple items => 1 + bracketsOfAll items
  | .list items => 1 + bracketsOfAll items
  | .map entries => 1 + bracketsOfEntries entries
  | .unary _ e => 1 + e.brackets
  | .binary _ a b => 1 + max a.brackets b.brackets
  | .both a b => 1 + max a.brackets b.brackets
  | .either a b => 1 + max a.brackets b.brackets
  | .concat items => 2 + bracketsOfAll items
  | .compare first rest => 1 + max first.brackets (bracketsOfChain rest)
  | .conditional test yes no => 1 + max test.brackets (max yes.brackets (bracketsOfElse no))
  | .attribute e _ => 1 + e.brackets
  | .item e (.slice start stop step) =>
    max e.brackets (1 + max (bracketsOfOption start)
      (max (bracketsOfOption stop) (bracketsOfOption step)))
  | .item e key => 1 + max e.brackets key.brackets
  | .slice start stop step =>
    max (bracketsOfOption start) (max (bracketsOfOption stop) (bracketsOfOption step))
  | .call f args => 1 + max f.brackets (bracketsOfInputs args)
  | .filter e _ args => 1 + max e.brackets (bracketsOfInputs args)
  | .test e _ args => 1 + max e.brackets (bracketsOfInputs args)

def bracketsOfAll : List Expr → Nat
  | [] => 0
  | e :: rest => max e.brackets (bracketsOfAll rest)

def bracketsOfEntries : List (Expr × Expr) → Nat
  | [] => 0
  | (k, e) :: rest => max (max k.brackets e.brackets) (bracketsOfEntries rest)

def bracketsOfChain : List (CompareOperator × Expr) → Nat
  | [] => 0
  | (_, e) :: rest => max e.brackets (bracketsOfChain rest)

def bracketsOfNamed : List (String × Expr) → Nat
  | [] => 0
  | (_, e) :: rest => max e.brackets (bracketsOfNamed rest)

def bracketsOfOption : Option Expr → Nat
  | none => 0
  | some e => e.brackets

/-- A branch that is missing is the call that complains of it. -/
def bracketsOfElse : Option Expr → Nat
  | none => 1
  | some e => e.brackets

/-- Named arguments of which one is a reserved word stand in a mapping, and in a call around it
where further ones are spread. -/
def bracketsOfInputs : Inputs → Nat
  | .mk positional named rest namedRest =>
    let inMapping := named.any fun entry => reservedWords.contains entry.1
    let around := if inMapping && namedRest.isSome then 1 else 0
    let inside := if inMapping then 1 else 0
    max (max (bracketsOfAll positional) (bracketsOfOption rest))
      (around + max (inside + bracketsOfNamed named) (bracketsOfOption namedRest))

end

def bracketLimit : Nat := 200

end ClusterDiscovery.Expression
