import ClusterDiscovery.Text.CaseRuns

/-! # Letter case

Lower-, upper- and title-casing and case folding of whole texts. A character may become several,
and a capital sigma at the end of a word becomes a final sigma. -/

namespace ClusterDiscovery.Text

/-- Membership in a table of runs. -/
def inRuns (runs : List (Nat × Nat × Nat)) (c : Char) : Bool :=
  runs.any fun (first, last, step) =>
    first ≤ c.toNat && c.toNat ≤ last && (c.toNat - first) % step == 0

def isUpper (c : Char) : Bool := inRuns CaseRuns.upperCase c

def isLower (c : Char) : Bool := inRuns CaseRuns.lowerCase c

def isTitle (c : Char) : Bool := inRuns CaseRuns.titleCase c

def isCased (c : Char) : Bool := isUpper c || isLower c || isTitle c

def isCaseIgnorable (c : Char) : Bool := inRuns CaseRuns.caseIgnorable c

/-- What a mapping makes of a character, if the mapping mentions it. -/
def mapped? (long : List (Nat × List Nat)) (runs : List (Nat × Nat × Nat × Int)) (c : Char) :
    Option (List Char) :=
  match long.find? fun entry => entry.1 == c.toNat with
  | some (_, codes) => some (codes.map Char.ofNat)
  | none =>
    (runs.find? fun (first, last, step, _) =>
      first ≤ c.toNat && c.toNat ≤ last && (c.toNat - first) % step == 0).map
      fun (_, _, _, shift) => [Char.ofNat ((c.toNat : Int) + shift).toNat]

def lowerOf (c : Char) : List Char :=
  (mapped? CaseRuns.toLowerLong CaseRuns.toLower c).getD [c]

def upperOf (c : Char) : List Char :=
  (mapped? CaseRuns.toUpperLong CaseRuns.toUpper c).getD [c]

def titleOf (c : Char) : List Char :=
  (mapped? CaseRuns.toTitleLong CaseRuns.toTitle c).getD (upperOf c)

def foldOf (c : Char) : List Char :=
  (mapped? CaseRuns.toFoldLong CaseRuns.toFold c).getD (lowerOf c)

/-- A sigma is final when a cased character stands before it and none after it. Characters that
the rule ignores are looked through on both sides. `before` is read backwards. -/
def sigmaIsFinal (before after : List Char) : Bool :=
  (before.dropWhile isCaseIgnorable).head?.any isCased
    && !(after.dropWhile isCaseIgnorable).head?.any isCased

/-- The lower case of one character between its neighbours. -/
def lowerAt (before : List Char) (c : Char) (after : List Char) : List Char :=
  if c == 'Σ' then [if sigmaIsFinal before after then 'ς' else 'σ'] else lowerOf c

def lowerAfter (before : List Char) : List Char → List Char
  | [] => []
  | c :: rest => lowerAt before c rest ++ lowerAfter (c :: before) rest

def lower (s : List Char) : List Char := lowerAfter [] s

def upper (s : List Char) : List Char := s.flatMap upperOf

def foldCase (s : List Char) : List Char := s.flatMap foldOf

def capitalize : List Char → List Char
  | [] => []
  | c :: rest => titleOf c ++ lowerAfter [c] rest

def titleAfter (before : List Char) : List Char → List Char
  | [] => []
  | c :: rest =>
    (if before.head?.any isCased then lowerAt before c rest else titleOf c)
      ++ titleAfter (c :: before) rest

/-- Every run of cased characters starts in title case and goes on in lower case. -/
def titleWords (s : List Char) : List Char := titleAfter [] s

def swapCaseAfter (before : List Char) : List Char → List Char
  | [] => []
  | c :: rest =>
    (if isUpper c then lowerAt before c rest else if isLower c then upperOf c else [c])
      ++ swapCaseAfter (c :: before) rest

def swapCase (s : List Char) : List Char := swapCaseAfter [] s

/-- Some character is upper case, and none is lower or title case. -/
def isUpperText (s : List Char) : Bool :=
  s.any isUpper && !s.any fun c => isLower c || isTitle c

def isLowerText (s : List Char) : Bool :=
  s.any isLower && !s.any fun c => isUpper c || isTitle c

def isTitledAfter (previousCased : Bool) : List Char → Bool
  | [] => true
  | c :: rest =>
    if isUpper c || isTitle c then !previousCased && isTitledAfter true rest
    else if isLower c then previousCased && isTitledAfter true rest
    else isTitledAfter false rest

/-- Capitals stand exactly where runs of cased characters start, and there is such a run. -/
def isTitleText (s : List Char) : Bool := s.any isCased && isTitledAfter false s

def lowerCase (s : String) : String := String.ofList (lower s.toList)

def upperCase (s : String) : String := String.ofList (upper s.toList)

end ClusterDiscovery.Text
