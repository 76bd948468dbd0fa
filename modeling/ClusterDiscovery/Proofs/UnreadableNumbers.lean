import ClusterDiscovery.Expression.Token

/-! # Numbers that have no value

A place of a text that cannot be read is an error of syntax, with one exception: a number that has
no value is a fault. Numbers are cut out of the text, so a token that stands for a fault points at
a part of the text.
-/

namespace ClusterDiscovery.Expression

open ClusterDiscovery.Text

/-! ## Numbers are cut out of the text -/

theorem takeRun_append (accept : Char → Bool) (s : List Char) :
    (takeRun accept s).1 ++ (takeRun accept s).2 = s := by
  fun_induction takeRun accept s <;> simp_all

theorem takeDecimalRun_append (s : List Char) :
    (takeDecimalRun s).1 ++ (takeDecimalRun s).2 = s := by
  unfold takeDecimalRun
  split
  · split
    · exact takeRun_append isDecimalDigit _
    · rfl
  · rfl

theorem takeExponent?_append {s exponent rest : List Char}
    (h : takeExponent? s = some (exponent, rest)) : exponent ++ rest = s := by
  unfold takeExponent? at h
  split at h
  · next mark after =>
      split at h
      · split at h
        next sign digits hsign =>
        have hafter : sign ++ digits = after := by
          split at hsign <;> cases hsign <;> rfl
        have hrun := takeDecimalRun_append digits
        split at h
        next run rest' htake =>
        rw [htake] at hrun
        split at h
        · cases h
        · obtain ⟨rfl, rfl⟩ := Prod.mk.inj (Option.some.inj h)
          simp only [List.cons_append, List.append_assoc, hrun, hafter]
      · cases h
  · cases h

/-- The part of a number behind its point, with the point. -/
theorem fraction_append {s fraction rest : List Char}
    (h : (match s with
      | '.' :: digits =>
        if (takeDecimalRun digits).1.isEmpty then none
        else some ('.' :: (takeDecimalRun digits).1, (takeDecimalRun digits).2)
      | _ => none) = some (fraction, rest)) : fraction ++ rest = s := by
  split at h
  · next digits =>
      split at h
      · cases h
      · obtain ⟨rfl, rfl⟩ := Prod.mk.inj (Option.some.inj h)
        simp only [List.cons_append, takeDecimalRun_append]
  · cases h

theorem takeDecimal?_append {s number rest : List Char}
    (h : takeDecimal? s = some (number, rest)) : number ++ rest = s := by
  have hwhole := takeDecimalRun_append s
  unfold takeDecimal? at h
  simp only at h
  split at h
  · cases h
  · split at h
    · next fraction after hfraction =>
        have hafter := fraction_append hfraction
        split at h
        · next exponent after' hexponent =>
            obtain ⟨rfl, rfl⟩ := Prod.mk.inj (Option.some.inj h)
            simp only [List.append_assoc, takeExponent?_append hexponent, hafter, hwhole]
        · obtain ⟨rfl, rfl⟩ := Prod.mk.inj (Option.some.inj h)
          simp only [List.append_assoc, hafter, hwhole]
    · obtain ⟨⟨exponent, after⟩, hexponent, hnumber⟩ := Option.map_eq_some_iff.mp h
      obtain ⟨rfl, rfl⟩ := Prod.mk.inj hnumber
      simp only [List.append_assoc, takeExponent?_append hexponent, hwhole]

theorem takeMarked?_append {s number rest : List Char}
    (h : takeMarked? s = some (number, rest)) : number ++ rest = s := by
  unfold takeMarked? at h
  split at h
  · next mark after =>
      simp only at h
      split at h
      · cases h
      · next accept _ =>
          split at h
          · cases h
          · obtain ⟨rfl, rfl⟩ := Prod.mk.inj (Option.some.inj h)
            simp only [List.cons_append, takeRun_append]
  · cases h

theorem takeInteger?_append {s number rest : List Char}
    (h : takeInteger? s = some (number, rest)) : number ++ rest = s := by
  have hrun (accept : Char → Bool) (hpair : takeRun accept s = (number, rest)) :
      number ++ rest = s := by
    rw [← takeRun_append accept s, hpair]
  unfold takeInteger? at h
  split at h
  · next found hmarked =>
      obtain rfl := Option.some.inj h
      exact takeMarked?_append hmarked
  · split at h
    · exact hrun _ (Option.some.inj h)
    · split at h
      · exact hrun _ (Option.some.inj h)
      · cases h
    · cases h

/-! ## The other tokens -/

theorem takeQuoted_suffix {quote : Char} {s content rest : List Char}
    (h : takeQuoted quote s = some (content, rest)) : rest <:+ s := by
  fun_induction takeQuoted quote s generalizing content with
  | case1 => cases h
  | case2 => cases h
  | case3 c after ih =>
      obtain ⟨⟨inner, rest'⟩, htake, hpair⟩ := Option.map_eq_some_iff.mp h
      obtain ⟨-, rfl⟩ := Prod.mk.inj hpair
      exact ((ih htake).trans (List.suffix_cons c after)).trans (List.suffix_cons _ _)
  | case4 c after _ _ hquote =>
      obtain ⟨-, rfl⟩ := Prod.mk.inj (Option.some.inj h)
      exact List.suffix_cons c _
  | case5 c after _ _ hquote ih =>
      obtain ⟨⟨inner, rest'⟩, htake, hpair⟩ := Option.map_eq_some_iff.mp h
      obtain ⟨-, rfl⟩ := Prod.mk.inj hpair
      exact (ih htake).trans (List.suffix_cons c after)

theorem takeSymbol?_suffix {s rest : List Char} {symbol : String}
    (h : takeSymbol? s = some (symbol, rest)) : rest <:+ s := by
  unfold takeSymbol? at h
  split at h
  · obtain ⟨-, rfl⟩ := Prod.mk.inj (Option.some.inj h)
    exact List.drop_suffix 2 s
  · split at h
    · split at h
      · obtain ⟨-, rfl⟩ := Prod.mk.inj (Option.some.inj h)
        exact List.suffix_cons _ _
      · cases h
    · cases h

/-! ## Tokens that stand for a fault -/

/-- At some place of a text a number begins that has no value, and the fault that it stands for. -/
def UnreadableNumber (s : List Char) (f : Fault) : Prop :=
  ∃ place number rest, place <:+ s ∧
    (takeDecimal? place = some (number, rest) ∧ decimalToken number = .broken (.fault f) ∨
      takeInteger? place = some (number, rest) ∧ integerToken number = .broken (.fault f))

theorem UnreadableNumber.of_suffix {s rest : List Char} {f : Fault} (hrest : rest <:+ s)
    (h : UnreadableNumber rest f) : UnreadableNumber s f := by
  obtain ⟨place, number, after, hplace, hnumber⟩ := h
  exact ⟨place, number, after, hplace.trans hrest, hnumber⟩

/-- A step that fails, if at all, with an error of syntax. -/
def Explained {α : Type} (r : Except SyntaxIssue α) : Prop := ∀ f, r ≠ .error (.fault f)

theorem Explained.pure {α : Type} (a : α) : Explained (Pure.pure a) := nofun

theorem Explained.bind {α β : Type} {r : Except SyntaxIssue α} {k : α → Except SyntaxIssue β}
    (hr : Explained r) (hk : ∀ a, Explained (k a)) : Explained (r >>= k) := by
  intro f h
  cases r with
  | error issue => exact hr f (congrArg Except.error (Except.error.inj h))
  | ok a => exact hk a f h

theorem takeHex_explained (width : Nat) (mark : Char) (s : List Char) :
    Explained (takeHex width mark s) := by
  intro f h
  unfold takeHex at h
  simp only at h
  split at h
  · split at h <;> cases h
  · cases h

theorem takeNamed_explained (s : List Char) : Explained (takeNamed s) := by
  intro f h
  unfold takeNamed at h
  simp only at h
  split at h
  · split at h
    · split at h <;> cases h
    · cases h
  · cases h

theorem readEscapes_explained (fuel : Nat) (s : List Char) : Explained (readEscapes fuel s) := by
  fun_induction readEscapes fuel s
  case case14 ih => exact .bind (takeHex_explained 2 _ _) fun _ => .bind (ih _) fun _ => .pure _
  case case15 ih => exact .bind (takeHex_explained 4 _ _) fun _ => .bind (ih _) fun _ => .pure _
  case case16 ih => exact .bind (takeHex_explained 8 _ _) fun _ => .bind (ih _) fun _ => .pure _
  case case17 ih => exact .bind (takeNamed_explained _) fun _ => .bind (ih _) fun _ => .pure _
  all_goals first
    | assumption
    | exact .pure _
    | exact .bind (by assumption) fun _ => .pure _

theorem textContent_explained (s : List Char) : Explained (textContent s) :=
  .bind (readEscapes_explained _ _) fun _ => .pure _

theorem trackBrackets_explained (symbol : String) (opened : List Char) :
    Explained (trackBrackets symbol opened) := by
  intro f h
  unfold trackBrackets at h
  split at h
  · cases h
  · split at h
    · split at h
      · split at h
        · cases h
        · split at h <;> cases h
      · cases h
    · cases h

/-- A number in front of the tokens of the text behind it. -/
theorem unreadable_of_cons {s number rest : List Char} {t : Token} {ts : List Token} {f : Fault}
    (hcut : number ++ rest = s)
    (ht : takeDecimal? s = some (number, rest) ∧ decimalToken number = t ∨
      takeInteger? s = some (number, rest) ∧ integerToken number = t)
    (hrest : Token.broken (.fault f) ∈ ts → UnreadableNumber rest f)
    (h : Token.broken (.fault f) ∈ t :: ts) : UnreadableNumber s f := by
  rcases List.mem_cons.mp h with hbroken | htail
  · rw [← hbroken] at ht
    exact ⟨s, number, rest, List.suffix_rfl, ht⟩
  · exact (hrest htail).of_suffix ⟨number, hcut⟩

/-- Every token that stands for a fault is a number of the text. -/
theorem unreadable_of_mem_tokensFrom {fuel : Nat} {opened : List Char} {afterPoint : Bool}
    {position : Nat} {s : List Char} {f : Fault}
    (h : Token.broken (.fault f) ∈ tokensFrom fuel opened afterPoint position s) :
    UnreadableNumber s f := by
  induction fuel generalizing opened afterPoint position s with
  | zero => simp [tokensFrom] at h
  | succ fuel ih =>
      unfold tokensFrom at h
      cases s with
      | nil => simp at h
      | cons c after =>
      simp only at h
      -- The mark that ends an expression, then blanks.
      split at h
      · simp at h
      split at h
      · exact (ih h).of_suffix (List.dropWhile_suffix _)
      -- Numbers.
      split at h
      · next number rest htake =>
          split at htake
          · cases htake
          · exact unreadable_of_cons (takeDecimal?_append htake) (.inl ⟨htake, rfl⟩) ih h
      split at h
      · next number rest htake =>
          exact unreadable_of_cons (takeInteger?_append htake) (.inr ⟨htake, rfl⟩) ih h
      -- Names, and texts between quotes.
      split at h
      · rcases List.mem_cons.mp h with hbroken | hrest
        · split at hbroken <;> cases hbroken
        · exact (ih hrest).of_suffix (List.dropWhile_suffix _)
      split at h
      · next content rest htake =>
          split at htake
          · rcases List.mem_cons.mp h with hbroken | hrest
            · split at hbroken
              · cases hbroken
              · next issue hissue =>
                  obtain rfl := Token.broken.inj hbroken
                  exact absurd hissue (textContent_explained content f)
            · exact (ih hrest).of_suffix ((takeQuoted_suffix htake).trans (List.drop_suffix 1 _))
          · cases htake
      -- Symbols.
      split at h
      · simp at h
      · next symbol rest htake =>
          split at h
          · next issue hissue =>
              obtain rfl := Token.broken.inj (List.mem_singleton.mp h)
              exact absurd hissue (trackBrackets_explained symbol opened f)
          · rcases List.mem_cons.mp h with hbroken | hrest
            · cases hbroken
            · exact (ih hrest).of_suffix (takeSymbol?_suffix htake)

theorem unreadable_of_mem_tokens {s : String} {f : Fault}
    (h : Token.broken (.fault f) ∈ tokens s) : UnreadableNumber (uniformLines s.toList) f :=
  unreadable_of_mem_tokensFrom h

end ClusterDiscovery.Expression
