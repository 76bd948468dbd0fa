import ClusterDiscovery.Text.Class

/-! # Taking texts apart

Searching, splitting, replacing, trimming and padding, on lists of characters. A limit of `none`
means no limit. -/

namespace ClusterDiscovery.Text

def find? (needle : List Char) : List Char → Option Nat
  | [] => if needle.isEmpty then some 0 else none
  | c :: rest =>
    if needle.isPrefixOf (c :: rest) then some 0 else (find? needle rest).map (· + 1)

def findLast? (needle s : List Char) : Option Nat :=
  (find? needle.reverse s.reverse).map fun i => s.length - i - needle.length

/-- How often `needle` occurs without overlap. The empty text occurs at every gap. -/
def countOf (needle s : List Char) : Nat :=
  if needle.isEmpty then s.length + 1
  else
    let rec go : Nat → List Char → Nat
      | 0, _ => 0
      | fuel + 1, s => match find? needle s with
        | some i => 1 + go fuel (s.drop (i + needle.length))
        | none => 0
    go (s.length + 1) s

def reduced (limit : Option Nat) : Option Nat := limit.map (· - 1)

/-- The pieces between occurrences of a separator that is not empty, from the left. -/
def splitOn (separator : List Char) (limit : Option Nat) (s : List Char) : List (List Char) :=
  let rec go : Nat → Option Nat → List Char → List (List Char)
    | 0, _, s => [s]
    | fuel + 1, limit, s =>
      if limit == some 0 then [s]
      else match find? separator s with
        | some i => s.take i :: go fuel (reduced limit) (s.drop (i + separator.length))
        | none => [s]
  go (s.length + 1) limit s

/-- The same, with occurrences taken from the right. -/
def splitOnRight (separator : List Char) (limit : Option Nat) (s : List Char) :
    List (List Char) :=
  ((splitOn separator.reverse limit s.reverse).map List.reverse).reverse

/-- The runs of characters that are not blank. With a limit, the last piece is the rest without
its leading blanks. -/
def splitBlanks (limit : Option Nat) (s : List Char) : List (List Char) :=
  let rec go : Nat → Option Nat → List Char → List (List Char)
    | 0, _, _ => []
    | fuel + 1, limit, s =>
      let s := s.dropWhile isBlank
      if s.isEmpty then []
      else if limit == some 0 then [s]
      else s.takeWhile (!isBlank ·) :: go fuel (reduced limit) (s.dropWhile (!isBlank ·))
  go (s.length + 1) limit s

def trimRightWhere (drop : Char → Bool) (s : List Char) : List Char :=
  (s.reverse.dropWhile drop).reverse

def trimWhere (drop : Char → Bool) (s : List Char) : List Char :=
  trimRightWhere drop (s.dropWhile drop)

def trim (s : String) : String := String.ofList (trimWhere isBlank s.toList)

/-- The runs of characters that are not blank, taken from the right. -/
def splitBlanksRight (limit : Option Nat) (s : List Char) : List (List Char) :=
  let all := splitBlanks limit s.reverse
  (all.map List.reverse).reverse

def lines (keepEnds : Bool) (s : List Char) : List (List Char) :=
  let rec go (current : List Char) : List Char → List (List Char)
    | [] => if current.isEmpty then [] else [current.reverse]
    | '\r' :: '\n' :: rest =>
      (if keepEnds then ('\n' :: '\r' :: current).reverse else current.reverse) :: go [] rest
    | c :: rest =>
      if isLineBreak c then
        (if keepEnds then (c :: current).reverse else current.reverse) :: go [] rest
      else go (c :: current) rest
  go [] s

/-- The first `limit` occurrences of `old` become `new`. An empty `old` occurs at every gap. -/
def replace (old new : List Char) (limit : Option Nat) (s : List Char) : List Char :=
  if old.isEmpty then
    let rec gaps : Option Nat → List Char → List Char
      | limit, [] => if limit == some 0 then [] else new
      | limit, c :: rest =>
        if limit == some 0 then c :: rest else new ++ c :: gaps (reduced limit) rest
    gaps limit s
  else List.intercalate new (splitOn old limit s)

/-- The text before the first occurrence of a separator, the separator, and the rest. -/
def partition (separator s : List Char) : List Char × List Char × List Char :=
  match find? separator s with
  | some i => (s.take i, separator, s.drop (i + separator.length))
  | none => (s, [], [])

def partitionRight (separator s : List Char) : List Char × List Char × List Char :=
  match findLast? separator s with
  | some i => (s.take i, separator, s.drop (i + separator.length))
  | none => ([], [], s)

def padLeft (width : Nat) (fill : Char) (s : List Char) : List Char :=
  List.replicate (width - s.length) fill ++ s

def padRight (width : Nat) (fill : Char) (s : List Char) : List Char :=
  s ++ List.replicate (width - s.length) fill

/-- Padding on both sides. An odd blank goes to the left when the width is odd, otherwise to the
right. -/
def center (width : Nat) (fill : Char) (s : List Char) : List Char :=
  let pad := width - s.length
  let left := pad / 2 + (if pad % 2 == 1 && width % 2 == 1 then 1 else 0)
  List.replicate left fill ++ s ++ List.replicate (pad - left) fill

def zeroFill (width : Nat) (s : List Char) : List Char :=
  match s with
  | '+' :: rest => '+' :: padLeft (width - 1) '0' rest
  | '-' :: rest => '-' :: padLeft (width - 1) '0' rest
  | s => padLeft width '0' s

/-- Tabs become blanks up to the next multiple of `size` columns. -/
def expandTabs (size : Nat) (s : List Char) : List Char :=
  let rec go (column : Nat) : List Char → List Char
    | [] => []
    | c :: rest =>
      if c == '\t' then
        let n := if size == 0 then 0 else size - column % size
        List.replicate n ' ' ++ go (column + n) rest
      else if c == '\n' || c == '\r' then c :: go 0 rest
      else c :: go (column + 1) rest
  go 0 s

end ClusterDiscovery.Text
