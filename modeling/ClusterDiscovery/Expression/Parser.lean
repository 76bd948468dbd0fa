import ClusterDiscovery.Expression.Nesting

/-! # Parsing

From tokens to the tree of an expression. From the loosest to the tightest the operators are the
conditional, `or`, `and`, `not`, comparisons, addition, `~`, multiplication, powers, signs; the
tests and filters of an operand bind tighter than all of them. Powers group to the left. -/

namespace ClusterDiscovery.Expression

/-- A step of the parser: it reads the tokens that are left and gives what it found. -/
abbrev Parse := StateT (List Token) (Except SyntaxIssue)

namespace Parse

def current : Parse Token := do return (← get).head?.getD .finish

/-- Goes to the next token, which must be readable. -/
def advance : Parse Unit := do
  let rest := (← get).drop 1
  set rest
  match rest with
  | .broken issue :: _ => throw issue
  | _ => pure ()

def peek : Parse Token := do
  match (← get).drop 1 with
  | .broken issue :: _ => throw issue
  | t :: _ => return t
  | [] => return .finish

def skipSymbol (s : String) : Parse Bool := do
  if (← current).isSymbol s then
    advance
    return true
  else return false

def skipName (s : String) : Parse Bool := do
  if (← current).isName s then
    advance
    return true
  else return false

/-- The issue that something else was expected where a token stands. -/
def mismatch (expected : String) (found : Token) : SyntaxIssue :=
  match found with
  | .finish => .expectedAtEnd expected
  | found => .expectedToken expected found.describe

def expectSymbol (s : String) : Parse Unit := do
  let t ← current
  if t.isSymbol s then advance else throw (mismatch s t)

def expectName : Parse String := do
  match ← current with
  | .name s =>
    advance
    return s
  | t => throw (mismatch "name" t)

/-- A name with further names behind points. A fuel of the number of tokens suffices. -/
def dottedRest : Nat → String → Parse String
  | 0, name => pure name
  | fuel + 1, name => do
    if ← skipSymbol "." then
      let next ← expectName
      dottedRest fuel (name ++ "." ++ next)
    else return name

def dottedName : Parse String := do
  dottedRest (← get).length (← expectName)

/-- Texts that stand side by side are one text. -/
def moreText : Nat → String → Parse String
  | 0, s => pure s
  | fuel + 1, s => do
    match ← current with
    | .text t =>
      advance
      moreText fuel (s ++ t)
    | _ => return s

def comparison? : Token → Option CompareOperator
  | .symbol "==" => some .eq
  | .symbol "!=" => some .ne
  | .symbol "<" => some (.order .lt)
  | .symbol "<=" => some (.order .le)
  | .symbol ">" => some (.order .gt)
  | .symbol ">=" => some (.order .ge)
  | _ => none

def sum? : Token → Option Arithmetic
  | .symbol "+" => some .add
  | .symbol "-" => some .sub
  | _ => none

def product? : Token → Option Arithmetic
  | .symbol "*" => some .mul
  | .symbol "/" => some .div
  | .symbol "//" => some .floorDiv
  | .symbol "%" => some .rem
  | _ => none

/-- Whether a token may start the single argument that a test takes without parentheses. -/
def startsArgument : Token → Bool
  | .name s => s != "else" && s != "or" && s != "and"
  | .text _ | .integer _ | .decimal _ => true
  | .symbol s => s == "(" || s == "[" || s == "\x7b"
  | _ => false

def wordLiteral? : String → Option Literal
  | "true" | "True" => some (.bool true)
  | "false" | "False" => some (.bool false)
  | "none" | "None" => some .null
  | _ => none

structure Gathered where
  positional : List Expr
  named : List (String × Expr)
  rest : Option Expr
  namedRest : Option Expr

def Gathered.inputs (g : Gathered) : Inputs := .mk g.positional g.named g.rest g.namedRest

/-- Arguments stand in a fixed order: by position, by name, a star, a double star. -/
def require (condition : Bool) : Parse Unit :=
  if condition then pure () else throw .badCall

mutual

def expression : Nat → Parse Expr
  | 0 => throw (.fault .tooDeep)
  | fuel + 1 => do conditionals fuel (← disjunction fuel)

def conditionals : Nat → Expr → Parse Expr
  | 0, _ => throw (.fault .tooDeep)
  | fuel + 1, yes => do
    if ← skipName "if" then
      let test ← disjunction fuel
      let no ← if ← skipName "else" then some <$> expression fuel else pure none
      conditionals fuel (.conditional test yes no)
    else return yes

def disjunction : Nat → Parse Expr
  | 0 => throw (.fault .tooDeep)
  | fuel + 1 => do disjuncts fuel (← conjunction fuel)

def disjuncts : Nat → Expr → Parse Expr
  | 0, _ => throw (.fault .tooDeep)
  | fuel + 1, left => do
    if ← skipName "or" then disjuncts fuel (.either left (← conjunction fuel)) else return left

def conjunction : Nat → Parse Expr
  | 0 => throw (.fault .tooDeep)
  | fuel + 1 => do conjuncts fuel (← negation fuel)

def conjuncts : Nat → Expr → Parse Expr
  | 0, _ => throw (.fault .tooDeep)
  | fuel + 1, left => do
    if ← skipName "and" then conjuncts fuel (.both left (← negation fuel)) else return left

def negation : Nat → Parse Expr
  | 0 => throw (.fault .tooDeep)
  | fuel + 1 => do
    if ← skipName "not" then return .unary .not (← negation fuel) else comparison fuel

def comparison : Nat → Parse Expr
  | 0 => throw (.fault .tooDeep)
  | fuel + 1 => do
    let first ← sum fuel
    match ← comparisons fuel with
    | [] => return first
    | rest => return .compare first rest

def comparisons : Nat → Parse (List (CompareOperator × Expr))
  | 0 => throw (.fault .tooDeep)
  | fuel + 1 => do
    let t ← current
    match comparison? t with
    | some op =>
      advance
      let e ← sum fuel
      return (op, e) :: (← comparisons fuel)
    | none =>
      if t.isName "in" then
        advance
        let e ← sum fuel
        return (.isIn, e) :: (← comparisons fuel)
      else if t.isName "not" then
        if (← peek).isName "in" then
          advance
          advance
          let e ← sum fuel
          return (.notIn, e) :: (← comparisons fuel)
        else return []
      else return []

def sum : Nat → Parse Expr
  | 0 => throw (.fault .tooDeep)
  | fuel + 1 => do summands fuel (← concatenation fuel)

def summands : Nat → Expr → Parse Expr
  | 0, _ => throw (.fault .tooDeep)
  | fuel + 1, left => do
    match sum? (← current) with
    | some op =>
      advance
      summands fuel (.binary op left (← concatenation fuel))
    | none => return left

def concatenation : Nat → Parse Expr
  | 0 => throw (.fault .tooDeep)
  | fuel + 1 => do
    let first ← product fuel
    match ← concatenated fuel with
    | [] => return first
    | rest => return .concat (first :: rest)

def concatenated : Nat → Parse (List Expr)
  | 0 => throw (.fault .tooDeep)
  | fuel + 1 => do
    if ← skipSymbol "~" then
      let e ← product fuel
      return e :: (← concatenated fuel)
    else return []

def product : Nat → Parse Expr
  | 0 => throw (.fault .tooDeep)
  | fuel + 1 => do factors fuel (← power fuel)

def factors : Nat → Expr → Parse Expr
  | 0, _ => throw (.fault .tooDeep)
  | fuel + 1, left => do
    match product? (← current) with
    | some op =>
      advance
      factors fuel (.binary op left (← power fuel))
    | none => return left

def power : Nat → Parse Expr
  | 0 => throw (.fault .tooDeep)
  | fuel + 1 => do exponents fuel (← signed fuel true)

def exponents : Nat → Expr → Parse Expr
  | 0, _ => throw (.fault .tooDeep)
  | fuel + 1, left => do
    if ← skipSymbol "**" then exponents fuel (.binary .pow left (← signed fuel true))
    else return left

/-- An operand with its signs, and with its tests and filters where `filtered`. -/
def signed : Nat → Bool → Parse Expr
  | 0, _ => throw (.fault .tooDeep)
  | fuel + 1, filtered => do
    let operand : Parse Expr := do
      if ← skipSymbol "-" then return .unary .negate (← signed fuel false)
      if ← skipSymbol "+" then return .unary .affirm (← signed fuel false)
      primary fuel
    let e ← postfixes fuel (← operand)
    if filtered then filters fuel e else return e

def primary : Nat → Parse Expr
  | 0 => throw (.fault .tooDeep)
  | fuel + 1 => do
    match ← current with
    | .name s =>
      advance
      match wordLiteral? s with
      | some value => return .literal value
      | none => return .name s
    | .text s =>
      advance
      return .literal (.text (← moreText (← get).length s))
    | .integer n =>
      advance
      return .literal (.int n)
    | .decimal x =>
      advance
      return .literal (.float x)
    | .symbol "(" =>
      advance
      let e ← parenthesized fuel
      expectSymbol ")"
      return e
    | .symbol "[" =>
      advance
      return .list (← listItems fuel true)
    | .symbol "\x7b" =>
      advance
      return .map (← mapEntries fuel true)
    | t => throw (.unexpectedToken t.describe)

/-- What stands between parentheses: an expression, or a tuple where there are commas. -/
def parenthesized : Nat → Parse Expr
  | 0 => throw (.fault .tooDeep)
  | fuel + 1 => do
    if (← current).isSymbol ")" then return .tuple []
    match ← current with
    | .close => return .tuple []
    | _ =>
      let first ← expression fuel
      if (← current).isSymbol "," then return .tuple (first :: (← tupleItems fuel))
      else return first

def tupleItems : Nat → Parse (List Expr)
  | 0 => throw (.fault .tooDeep)
  | fuel + 1 => do
    if ← skipSymbol "," then
      if (← current).isSymbol ")" then return []
      let e ← expression fuel
      return e :: (← tupleItems fuel)
    else return []

/-- The elements of a list up to its closing bracket, which is taken. -/
def listItems : Nat → Bool → Parse (List Expr)
  | 0, _ => throw (.fault .tooDeep)
  | fuel + 1, isFirst => do
    if ← skipSymbol "]" then return []
    if !isFirst then expectSymbol ","
    if ← skipSymbol "]" then return []
    let e ← expression fuel
    return e :: (← listItems fuel false)

/-- The entries of a mapping up to its closing brace, which is taken. -/
def mapEntries : Nat → Bool → Parse (List (Expr × Expr))
  | 0, _ => throw (.fault .tooDeep)
  | fuel + 1, isFirst => do
    if ← skipSymbol "\x7d" then return []
    if !isFirst then expectSymbol ","
    if ← skipSymbol "\x7d" then return []
    let key ← expression fuel
    expectSymbol ":"
    let value ← expression fuel
    return (key, value) :: (← mapEntries fuel false)

/-- The members, elements and calls behind an operand. -/
def postfixes : Nat → Expr → Parse Expr
  | 0, _ => throw (.fault .tooDeep)
  | fuel + 1, e => do
    match ← current with
    | .symbol "." =>
      advance
      let t ← current
      advance
      match t with
      | .name s => postfixes fuel (.attribute e s)
      | .integer n => postfixes fuel (.item e (.literal (.int n)))
      | _ => throw .expectedNameOrNumber
    | .symbol "[" =>
      advance
      match ← subscripts fuel true with
      | [key] => postfixes fuel (.item e key)
      | keys => postfixes fuel (.item e (.tuple keys))
    | .symbol "(" =>
      advance
      let args ← arguments fuel ⟨[], [], none, none⟩ false
      postfixes fuel (.call e args)
    | _ => return e

def subscripts : Nat → Bool → Parse (List Expr)
  | 0, _ => throw (.fault .tooDeep)
  | fuel + 1, isFirst => do
    if ← skipSymbol "]" then return []
    if !isFirst then expectSymbol ","
    let key ← subscriptKey fuel
    return key :: (← subscripts fuel false)

def subscriptKey : Nat → Parse Expr
  | 0 => throw (.fault .tooDeep)
  | fuel + 1 => do
    if ← skipSymbol ":" then sliceFrom fuel none
    else
      let e ← expression fuel
      if ← skipSymbol ":" then sliceFrom fuel (some e) else return e

def sliceFrom : Nat → Option Expr → Parse Expr
  | 0, _ => throw (.fault .tooDeep)
  | fuel + 1, start => do
    let t ← current
    let stop ←
      if t.isSymbol ":" || t.isSymbol "]" || t.isSymbol "," then pure none
      else some <$> expression fuel
    if ← skipSymbol ":" then
      let t ← current
      let step ←
        if t.isSymbol "]" || t.isSymbol "," then pure none else some <$> expression fuel
      return .slice start stop step
    else return .slice start stop none

/-- The arguments of a call up to the closing parenthesis, which is taken. `needsComma` says that
an argument stands directly before. -/
def arguments : Nat → Gathered → Bool → Parse Inputs
  | 0, _, _ => throw (.fault .tooDeep)
  | fuel + 1, g, needsComma => do
    if ← skipSymbol ")" then return g.inputs
    if needsComma then expectSymbol ","
    if needsComma && (← current).isSymbol ")" then
      advance
      return g.inputs
    let t ← current
    if t.isSymbol "*" then
      require (g.rest.isNone && g.namedRest.isNone)
      advance
      let e ← expression fuel
      arguments fuel { g with rest := some e } true
    else if t.isSymbol "**" then
      require g.namedRest.isNone
      advance
      let e ← expression fuel
      arguments fuel { g with namedRest := some e } true
    else
      let key? ← match t with
        | .name s => do
          if (← peek).isSymbol "=" then pure (some s) else pure none
        | _ => pure none
      match key? with
      | some key =>
        require g.namedRest.isNone
        advance
        advance
        let e ← expression fuel
        arguments fuel { g with named := g.named ++ [(key, e)] } true
      | none =>
        require (g.rest.isNone && g.namedRest.isNone && g.named.isEmpty)
        let e ← expression fuel
        arguments fuel { g with positional := g.positional ++ [e] } true

/-- The filters, tests and calls behind an operand. -/
def filters : Nat → Expr → Parse Expr
  | 0, _ => throw (.fault .tooDeep)
  | fuel + 1, e => do
    let t ← current
    if t.isSymbol "|" then
      advance
      let name ← dottedName
      let args ←
        if ← skipSymbol "(" then arguments fuel ⟨[], [], none, none⟩ false
        else pure Inputs.none
      filters fuel (.filter e name args)
    else if t.isName "is" then
      advance
      filters fuel (← testOf fuel e)
    else if t.isSymbol "(" then
      advance
      let args ← arguments fuel ⟨[], [], none, none⟩ false
      filters fuel (.call e args)
    else return e

def testOf : Nat → Expr → Parse Expr
  | 0, _ => throw (.fault .tooDeep)
  | fuel + 1, e => do
    let negated ← skipName "not"
    let name ← dottedName
    let t ← current
    let args ←
      if t.isSymbol "(" then do
        advance
        arguments fuel ⟨[], [], none, none⟩ false
      else if startsArgument t then do
        if t.isName "is" then throw .chainedTests
        let arg ← primary fuel
        let arg ← postfixes fuel arg
        pure (Inputs.mk [arg] [] none none)
      else pure Inputs.none
    let test := Expr.test e name args
    return if negated then .unary .not test else test

end

end Parse

/-- The depth that parsing needs for a number of tokens. -/
def parseFuel (count : Nat) : Nat := 40 * (count + 4)

/-- The tree of an expression. Nothing may stand behind it. -/
def parse (s : String) : Except SyntaxIssue Expr := do
  let ts := withinRoom .start (tokens s)
  match ts with
  | .broken issue :: _ => throw issue
  | _ =>
    let (e, rest) ← (Parse.expression (parseFuel ts.length)).run ts
    match rest with
    | [] | .finish :: _ => return e
    | _ => throw .trailingTokens

end ClusterDiscovery.Expression
