/-! # Similar texts

How alike two texts are: twice the characters that they share in matching pieces, in relation to
the characters of both. Pieces match from the longest on, the others to its left and right. -/

namespace ClusterDiscovery.Text

structure SharedPiece where
  /-- How many characters of the first text come before it. -/
  before : Nat
  /-- How many characters of the second text come before it. -/
  beforeOther : Nat
  length : Nat
deriving Repr, DecidableEq

def commonStart : List Char → List Char → Nat
  | a :: s, b :: t => if a == b then commonStart s t + 1 else 0
  | _, _ => 0

def SharedPiece.longer (p q : SharedPiece) : SharedPiece := if p.length < q.length then q else p

/-- The longest piece of the second text that the first one starts with. -/
def longestAtStart (before : Nat) (s : List Char) (beforeOther : Nat) : List Char → SharedPiece
  | [] => ⟨before, beforeOther, 0⟩
  | b :: t => SharedPiece.longer ⟨before, beforeOther, commonStart s (b :: t)⟩
      (longestAtStart before s (beforeOther + 1) t)

/-- The longest piece that two texts share, of equals the leftmost. -/
def longestShared (before : Nat) (t : List Char) : List Char → SharedPiece
  | [] => ⟨before, 0, 0⟩
  | a :: s => SharedPiece.longer (longestAtStart before (a :: s) 0 t)
      (longestShared (before + 1) t s)

/-- The characters in matching pieces of two texts, if there are at most `pieces` of them. -/
def sharedUpTo : Nat → List Char → List Char → Nat
  | 0, _, _ => 0
  | pieces + 1, s, t =>
    let piece := longestShared 0 t s
    if piece.length == 0 then 0
    else
      sharedUpTo pieces (s.take piece.before) (t.take piece.beforeOther) + piece.length
        + sharedUpTo pieces (s.drop (piece.before + piece.length))
          (t.drop (piece.beforeOther + piece.length))

def shared (s t : List Char) : Nat := sharedUpTo (s.length + 1) s t

/-- Texts are similar when three fifths of their characters are shared. -/
def isSimilar (s t : List Char) : Bool := 3 * (s.length + t.length) ≤ 5 * (2 * shared s t)

/-- Whether the first of two candidates is at least as similar to a text. Of equals the one that
comes later in the alphabet goes first. -/
def isCloser (word s t : List Char) : Bool :=
  let left := shared s word * (t.length + word.length)
  let right := shared t word * (s.length + word.length)
  right < left || (left == right && String.ofList t ≤ String.ofList s)

/-- The at most three candidates that are most similar to a word, in the order of the alphabet. -/
def similarTo (word : String) (candidates : List String) : List String :=
  let close := (candidates.map String.toList).filter fun s => isSimilar s word.toList
  let best := (close.mergeSort (isCloser word.toList)).take 3
  (best.map String.ofList).mergeSort (· ≤ ·)

end ClusterDiscovery.Text
