import ClusterDiscovery.Expression.Operators

/-! # Expressions

The tree of an expression. A literal is a whole constant: numbers and texts as written, and what
constant parts of an expression were folded to. -/

namespace ClusterDiscovery.Expression

inductive Literal where
  | null
  | bool (b : Bool)
  | int (i : Int)
  | float (x : Float)
  | complex (re im : Float)
  | text (s : String)
  | markup (s : String)
  | range (start stop step : Int)
  | tuple (items : List Literal)
  | list (items : List Literal)
  | map (entries : List (Literal × Literal))

inductive UnaryOperator where
  | not | negate | affirm
deriving Repr, DecidableEq

inductive CompareOperator where
  | eq | ne
  | order (o : Order)
  | isIn | notIn
deriving Repr, DecidableEq

mutual

inductive Expr where
  | literal (value : Literal)
  | name (s : String)
  | tuple (items : List Expr)
  | list (items : List Expr)
  | map (entries : List (Expr × Expr))
  | unary (op : UnaryOperator) (e : Expr)
  | binary (op : Arithmetic) (left right : Expr)
  /-- Both operands: the left one where it is false, otherwise the right one. -/
  | both (left right : Expr)
  /-- Either operand: the left one where it is true, otherwise the right one. -/
  | either (left right : Expr)
  | concat (items : List Expr)
  /-- A chain of comparisons, each between neighbours. -/
  | compare (first : Expr) (rest : List (CompareOperator × Expr))
  | conditional (test yes : Expr) (no : Option Expr)
  | attribute (e : Expr) (name : String)
  | item (e key : Expr)
  /-- A part between positions; it stands only where a key may stand. -/
  | slice (start stop step : Option Expr)
  | call (f : Expr) (args : Inputs)
  | filter (e : Expr) (name : String) (args : Inputs)
  | test (e : Expr) (name : String) (args : Inputs)

/-- What is written between the parentheses of a call. -/
inductive Inputs where
  | mk (positional : List Expr) (named : List (String × Expr)) (rest namedRest : Option Expr)

end

def Inputs.none : Inputs := .mk [] [] Option.none Option.none

/-- Words that a call may use as a name of an argument only inside a mapping; the names then may
repeat, and the last one counts. -/
def reservedWords : List String :=
  ["False", "None", "True", "and", "as", "assert", "async", "await", "break", "class",
    "continue", "def", "del", "elif", "else", "except", "finally", "for", "from", "global",
    "if", "import", "in", "is", "lambda", "nonlocal", "not", "or", "pass", "raise", "return",
    "try", "while", "with", "yield"]

end ClusterDiscovery.Expression
