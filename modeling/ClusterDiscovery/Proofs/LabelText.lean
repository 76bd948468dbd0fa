import ClusterDiscovery.Expression.Token

/-! # Texts that ask for labels

An expression that compares labels with values, clause by clause, is written with few characters.
Its tokens are those of the clauses, whatever the labels and their values are.
-/

namespace ClusterDiscovery.Expression

open ClusterDiscovery.Text

def isLabelChar (c : Char) : Bool :=
  c.isAlphanum || c == '-' || c == '_' || c == '.' || c == '/'

/-- A clause that a label has a value. -/
def clauseText (label : String × String) : String :=
  "labels['" ++ label.1 ++ "'] == '" ++ label.2 ++ "'"

def labelText (labels : List (String × String)) : String :=
  " and ".intercalate (labels.map clauseText)

/-! ## Quoted texts -/

theorem isLabelChar_ascii {c : Char} (h : isLabelChar c = true) : c.toNat < 0x80 := by
  delta isLabelChar Char.isAlphanum Char.isAlpha Char.isUpper Char.isLower Char.isDigit at h
  simp only [Bool.or_eq_true, Bool.and_eq_true, decide_eq_true_eq, beq_iff_eq] at h
  obtain (((((⟨-, h⟩ | ⟨-, h⟩) | ⟨-, h⟩) | rfl) | rfl) | rfl) | rfl := h
  · exact Nat.lt_of_le_of_lt (UInt32.le_iff_toNat_le.mp h) (by decide)
  · exact Nat.lt_of_le_of_lt (UInt32.le_iff_toNat_le.mp h) (by decide)
  · exact Nat.lt_of_le_of_lt (UInt32.le_iff_toNat_le.mp h) (by decide)
  all_goals decide

theorem isLabelChar_ne {c d : Char} (h : isLabelChar c = true) (hd : isLabelChar d = false) :
    c ≠ d := by
  rintro rfl
  rw [h] at hd
  cases hd

variable {s : List Char}

theorem takeQuoted_label (h : ∀ c ∈ s, isLabelChar c = true) (rest : List Char) :
    takeQuoted '\'' (s ++ '\'' :: rest) = some (s, rest) := by
  induction s with
  | nil => rfl
  | cons c s ih =>
      have hc := h c List.mem_cons_self
      have hslash : c ≠ '\\' := isLabelChar_ne hc rfl
      have hquote : (c == '\'') = false := by simpa using isLabelChar_ne hc (d := '\'') rfl
      have hrest := ih fun d hd => h d (List.mem_cons_of_mem _ hd)
      rw [List.cons_append, takeQuoted]
      · simp [hquote, hrest]
      · exact fun heq _ => hslash heq
      · exact fun _ _ heq _ => hslash heq

theorem readEscapes_label (h : ∀ c ∈ s, isLabelChar c = true) {fuel : Nat}
    (hfuel : s.length ≤ fuel) : readEscapes fuel s = .ok s := by
  induction s generalizing fuel with
  | nil => cases fuel <;> rfl
  | cons c s ih =>
      cases fuel with
      | zero => simp at hfuel
      | succ fuel =>
          have hslash : c ≠ '\\' := isLabelChar_ne (h c List.mem_cons_self) rfl
          have hrest : readEscapes fuel s = .ok s :=
            ih (fun d hd => h d (List.mem_cons_of_mem _ hd)) (by simpa using hfuel)
          rw [readEscapes, hrest]
          · rfl
          · exact fun _ _ heq _ => hslash heq

/-- A text without quotes and escapes stands for itself. -/
theorem textContent_label (h : ∀ c ∈ s, isLabelChar c = true) :
    textContent s = .ok (String.ofList s) := by
  have hspelled : spelledOut s = s := by
    unfold spelledOut
    induction s with
    | nil => rfl
    | cons c s ih =>
        have hc := isLabelChar_ascii (h c List.mem_cons_self)
        rw [List.flatMap_cons, ih fun d hd => h d (List.mem_cons_of_mem _ hd), if_pos hc]
        rfl
  unfold textContent
  simp only [hspelled, readEscapes_label h (Nat.le_refl _)]
  rfl

/-! ## One token at a time -/

/-- A character with which no number, no blank and no closing mark starts. -/
def startsPlainly (c : Char) : Bool :=
  !isBlank c && !isDecimalDigit c && !('1' ≤ c && c ≤ '9') && c != '0' && c != '\x7d' && c != '-'

section Steps

variable {fuel position : Nat} {opened : List Char} {afterPoint : Bool} {c : Char}

theorem startsPlainly_takes (h : startsPlainly c = true) (s : List Char) :
    isBlank c = false ∧ isCloseMark (c :: s) = false ∧ takeDecimal? (c :: s) = none ∧
      takeInteger? (c :: s) = none := by
  simp only [startsPlainly, Bool.and_eq_true, Bool.not_eq_true', bne_iff_ne] at h
  obtain ⟨⟨⟨⟨⟨hblank, hdecimal⟩, hdigit⟩, hzero⟩, hbrace⟩, hminus⟩ := h
  refine ⟨hblank, ?_, ?_, ?_⟩
  · simp [isCloseMark, List.isPrefixOf_cons_cons, hbrace.symm, hminus.symm]
  · simp [takeDecimal?, takeDecimalRun, hdecimal]
  · have hmarked : takeMarked? (c :: s) = none := by
      rw [takeMarked?]
      exact fun _ _ heq => hzero (List.cons.inj heq).1
    rw [takeInteger?, hmarked]
    · simp only [hdigit, Bool.false_eq_true, if_false]
    · exact hzero

theorem tokensFrom_space {next : Char} (hnext : isBlank next = false) (rest : List Char) :
    tokensFrom (fuel + 1) opened afterPoint position (' ' :: next :: rest) =
      tokensFrom fuel opened false
        (position + ((' ' :: next :: rest).length - (next :: rest).length)) (next :: rest) := by
  have hspace : isBlank ' ' = true := by decide +kernel
  have hmark : isCloseMark (' ' :: next :: rest) = false := rfl
  have hdropped : (' ' :: next :: rest).dropWhile isBlank = next :: rest := by
    rw [List.dropWhile_cons_of_pos hspace, List.dropWhile_cons_of_neg (by simp [hnext])]
  rw [tokensFrom]
  simp only [hmark, hspace, hdropped, Bool.and_false, Bool.false_eq_true, if_false, if_true]

theorem tokensFrom_word (hplain : startsPlainly c = true) {word : List Char}
    (hword : (c :: word).all isNamePart = true) (hidentifier : isIdentifier (c :: word) = true)
    {next : Char} (hnext : isNamePart next = false) (rest : List Char) :
    tokensFrom (fuel + 1) opened afterPoint position (c :: word ++ next :: rest) =
      .name (String.ofList (c :: word)) :: tokensFrom fuel opened false
        (position + ((c :: word ++ next :: rest).length - (next :: rest).length))
        (next :: rest) := by
  have hword : ∀ d ∈ c :: word, isNamePart d = true := List.all_eq_true.mp hword
  obtain ⟨hblank, hmark, hdecimal, hinteger⟩ := startsPlainly_takes hplain (word ++ next :: rest)
  have htaken : (c :: word ++ next :: rest).takeWhile isNamePart = c :: word := by
    rw [List.takeWhile_append_of_pos hword, List.takeWhile_cons_of_neg (by simp [hnext]),
      List.append_nil]
  have hdropped : (c :: word ++ next :: rest).dropWhile isNamePart = next :: rest := by
    rw [List.dropWhile_append_of_pos hword, List.dropWhile_cons_of_neg (by simp [hnext])]
  have hname : isNamePart c = true := hword c List.mem_cons_self
  rw [List.cons_append] at htaken hdropped ⊢
  rw [tokensFrom]
  simp only [hmark, hblank, hdecimal, hinteger, hname, htaken, hdropped, hidentifier,
    Bool.and_false, Bool.false_eq_true, if_false, if_true, ite_self]

theorem tokensFrom_label (h : ∀ c ∈ s, isLabelChar c = true) (rest : List Char) :
    tokensFrom (fuel + 1) opened afterPoint position ('\'' :: (s ++ '\'' :: rest)) =
      .text (String.ofList s) :: tokensFrom fuel opened false
        (position + (('\'' :: (s ++ '\'' :: rest)).length - rest.length)) rest := by
  obtain ⟨hblank, hmark, hdecimal, hinteger⟩ :=
    startsPlainly_takes (c := '\'') (by decide +kernel) (s ++ '\'' :: rest)
  have hname : isNamePart '\'' = false := by decide +kernel
  rw [tokensFrom]
  simp only [hmark, hblank, hdecimal, hinteger, hname, Bool.and_false,
    Bool.false_eq_true, if_false, if_true, ite_self, List.drop_succ_cons, List.drop_zero,
    takeQuoted_label h, textContent_label h, beq_self_eq_true, Bool.true_or]

theorem tokensFrom_symbol (hplain : startsPlainly c = true) (hname : isNamePart c = false)
    (hquote : (c == '\'' || c == '"') = false) {symbol : String} {rest : List Char}
    (hsymbol : takeSymbol? (c :: s) = some (symbol, rest)) {inside : List Char}
    (hbrackets : trackBrackets symbol opened = .ok inside) :
    tokensFrom (fuel + 1) opened afterPoint position (c :: s) =
      .symbol symbol :: tokensFrom fuel inside (symbol == ".")
        (position + ((c :: s).length - rest.length)) rest := by
  obtain ⟨hblank, hmark, hdecimal, hinteger⟩ := startsPlainly_takes hplain s
  rw [tokensFrom]
  simp only [hmark, hblank, hdecimal, hinteger, hname, hquote, hsymbol, hbrackets,
    Bool.and_false, Bool.false_eq_true, if_false, ite_self]

end Steps

/-! ## The tokens of a clause -/

def clauseTokens (label : String × String) : List Token :=
  [.name "labels", .symbol "[", .text label.1, .symbol "]", .symbol "==", .text label.2]

theorem clauseText_toList (label : String × String) :
    (clauseText label).toList = "labels".toList ++ '[' :: '\'' :: (label.1.toList ++ '\'' ::
      ']' :: ' ' :: '=' :: '=' :: ' ' :: '\'' :: (label.2.toList ++ ['\''])) := by
  simp [clauseText, String.toList_append]

/-- Keys and values have characters of labels only. -/
def IsLabel (label : String × String) : Prop :=
  (∀ c ∈ label.1.toList, isLabelChar c = true) ∧ ∀ c ∈ label.2.toList, isLabelChar c = true

theorem tokensFrom_clause {label : String × String} (h : IsLabel label) (fuel : Nat)
    (afterPoint : Bool) (position : Nat) (rest : List Char) :
    ∃ p, tokensFrom (fuel + 8) [] afterPoint position ((clauseText label).toList ++ rest) =
      clauseTokens label ++ tokensFrom fuel [] false p rest := by
  have hequals (t : List Char) : takeSymbol? ('=' :: '=' :: t) = some ("==", t) := rfl
  rw [clauseText_toList]
  simp only [List.append_assoc, List.cons_append, List.nil_append]
  rw [show "labels".toList = 'l' :: "abels".toList by decide +kernel]
  rw [tokensFrom_word (by decide +kernel) (by decide +kernel) (by decide +kernel)
    (by decide +kernel)]
  rw [tokensFrom_symbol (by decide +kernel) (by decide +kernel) (by decide +kernel) rfl rfl]
  rw [tokensFrom_label h.1]
  rw [tokensFrom_symbol (by decide +kernel) (by decide +kernel) (by decide +kernel) rfl rfl]
  rw [tokensFrom_space (by decide +kernel)]
  rw [tokensFrom_symbol (by decide +kernel) (by decide +kernel) (by decide +kernel) (hequals _)
    rfl]
  rw [tokensFrom_space (by decide +kernel)]
  rw [tokensFrom_label h.2, String.ofList_toList, String.ofList_toList]
  exact ⟨_, rfl⟩

/-! ## The tokens of all clauses -/

theorem labelText_single (label : String × String) :
    (labelText [label]).toList = (clauseText label).toList := by
  simp [labelText]

theorem labelText_cons (label next : String × String) (rest : List (String × String)) :
    (labelText (label :: next :: rest)).toList =
      (clauseText label).toList ++ (" and ".toList ++ (labelText (next :: rest)).toList) := by
  simp [labelText, String.toList_intercalate]

theorem labelText_ends (label : String × String) (rest : List (String × String)) :
    ∃ body, (labelText (label :: rest)).toList = 'l' :: (body ++ ['\'']) := by
  have hlabels : "labels".toList = 'l' :: "abels".toList := by decide +kernel
  induction rest generalizing label with
  | nil =>
      rw [labelText_single, clauseText_toList, hlabels]
      exact ⟨"abels".toList ++ '[' :: '\'' :: (label.1.toList ++ '\'' :: ']' :: ' ' :: '=' ::
        '=' :: ' ' :: '\'' :: label.2.toList), by simp⟩
  | cons next rest ih =>
      obtain ⟨body, hbody⟩ := ih next
      obtain ⟨first, hfirst⟩ : ∃ first, (clauseText label).toList = 'l' :: first := by
        rw [clauseText_toList, hlabels]
        exact ⟨_, rfl⟩
      rw [labelText_cons, hbody, hfirst]
      exact ⟨first ++ (" and ".toList ++ 'l' :: body), by simp⟩

/-- The tokens behind the first clause. -/
def furtherTokens : List (String × String) → List Token
  | [] => [.finish]
  | label :: rest => .name "and" :: (clauseTokens label ++ furtherTokens rest)

theorem tokensFrom_labels {label : String × String} {rest : List (String × String)}
    (h : ∀ l ∈ label :: rest, IsLabel l) {fuel : Nat} (hfuel : 11 * (rest.length + 1) ≤ fuel)
    (afterPoint : Bool) (position : Nat) :
    tokensFrom fuel [] afterPoint position (labelText (label :: rest)).toList =
      clauseTokens label ++ furtherTokens rest := by
  induction rest generalizing label fuel afterPoint position with
  | nil =>
      obtain ⟨n, rfl⟩ : ∃ n, fuel = (n + 1) + 8 := ⟨fuel - 9, by simp at hfuel; omega⟩
      obtain ⟨p, hclause⟩ :=
        tokensFrom_clause (h label List.mem_cons_self) (n + 1) afterPoint position []
      rw [List.append_nil] at hclause
      rw [labelText_single, hclause]
      rfl
  | cons next rest ih =>
      rw [List.length_cons] at hfuel
      obtain ⟨n, rfl⟩ : ∃ n, fuel = (n + 3) + 8 := ⟨fuel - 11, by omega⟩
      obtain ⟨p, hclause⟩ := tokensFrom_clause (h label List.mem_cons_self) (n + 3) afterPoint
        position (" and ".toList ++ (labelText (next :: rest)).toList)
      have hrest := ih (fun l hl => h l (List.mem_cons_of_mem _ hl))
        (show 11 * (rest.length + 1) ≤ n by omega)
      obtain ⟨body, hbody⟩ := labelText_ends next rest
      rw [hbody] at hclause hrest
      have hand : " and ".toList ++ 'l' :: (body ++ ['\'']) =
          ' ' :: ('a' :: ['n', 'd'] ++ ' ' :: 'l' :: (body ++ ['\''])) := by
        rw [show " and ".toList = [' ', 'a', 'n', 'd', ' '] by decide +kernel]
        rfl
      rw [labelText_cons, hbody, hclause, hand, List.cons_append]
      rw [tokensFrom_space (by decide +kernel), ← List.cons_append]
      rw [tokensFrom_word (by decide +kernel) (by decide +kernel) (by decide +kernel)
        (by decide +kernel)]
      rw [tokensFrom_space (by decide +kernel), hrest]
      rfl

theorem uniformLines_eq {s : List Char} (h : '\r' ∉ s) : uniformLines s = s := by
  induction s with
  | nil => rfl
  | cons c s ih =>
      have hc : c ≠ '\r' := fun heq => h (heq ▸ List.mem_cons_self)
      rw [uniformLines, ih fun hs => h (List.mem_cons_of_mem _ hs)]
      · exact fun _ heq _ => hc heq
      · exact hc

theorem clauseText_no_return {label : String × String} (h : IsLabel label) :
    '\r' ∉ (clauseText label).toList := by
  have hkey : '\r' ∉ label.1.toList := fun hmem => absurd (h.1 _ hmem) (by decide)
  have hvalue : '\r' ∉ label.2.toList := fun hmem => absurd (h.2 _ hmem) (by decide)
  rw [clauseText_toList]
  simp [hkey, hvalue]

theorem labelText_no_return {label : String × String} {rest : List (String × String)}
    (h : ∀ l ∈ label :: rest, IsLabel l) : '\r' ∉ (labelText (label :: rest)).toList := by
  induction rest generalizing label with
  | nil =>
      rw [labelText_single]
      exact clauseText_no_return (h label List.mem_cons_self)
  | cons next rest ih =>
      have hand : '\r' ∉ " and ".toList := by decide +kernel
      rw [labelText_cons]
      simp only [List.mem_append, not_or]
      exact ⟨clauseText_no_return (h label List.mem_cons_self), hand,
        ih fun l hl => h l (List.mem_cons_of_mem _ hl)⟩

theorem labelText_length (label : String × String) (rest : List (String × String)) :
    11 * (rest.length + 1) ≤ (labelText (label :: rest)).toList.length := by
  have hclause (label : String × String) : 11 ≤ (clauseText label).toList.length := by
    have hlabels : "labels".toList.length = 6 := by decide +kernel
    simp only [clauseText_toList, List.length_append, List.length_cons, List.length_nil, hlabels]
    omega
  induction rest generalizing label with
  | nil =>
      rw [labelText_single]
      exact hclause label
  | cons next rest ih =>
      have hfirst := hclause label
      have hrest := ih next
      rw [labelText_cons, List.length_append, List.length_append, List.length_cons]
      omega

theorem tokens_labelText {label : String × String} {rest : List (String × String)}
    (h : ∀ l ∈ label :: rest, IsLabel l) :
    tokens (labelText (label :: rest)) = clauseTokens label ++ furtherTokens rest := by
  unfold tokens
  simp only [uniformLines_eq (labelText_no_return h)]
  exact tokensFrom_labels h (Nat.le_succ_of_le (labelText_length label rest)) false 0

/-- There is nothing to trim. -/
theorem trim_labelText (label : String × String) (rest : List (String × String)) :
    Text.trim (labelText (label :: rest)) = labelText (label :: rest) := by
  obtain ⟨body, hbody⟩ := labelText_ends label rest
  have hfirst : isBlank 'l' = false := by decide +kernel
  have hlast : isBlank '\'' = false := by decide +kernel
  have hkept : trimWhere isBlank ('l' :: (body ++ ['\''])) = 'l' :: (body ++ ['\'']) := by
    rw [trimWhere, trimRightWhere, List.dropWhile_cons_of_neg (by simp [hfirst])]
    simp [hlast]
  rw [trim, hbody, hkept, ← hbody, String.ofList_toList]

end ClusterDiscovery.Expression
