import ClusterDiscovery.CommandLine.Command
import ClusterDiscovery.Proofs.Traversal

/-! # An option in front of other words

A letter option with its value in front of the words of a command adds itself to the options that
these words give, and changes nothing else: not their arguments, and not what is wrong with them.
-/

namespace ClusterDiscovery

namespace CommandForm

variable {form : CommandForm} {option : OptionForm} {words rest : List String} {word : String}

/-! ## Words are used up -/

theorem takeValue_length {attached : Option String} {spelling : String} {given : GivenOption}
    (h : takeValue option spelling attached words = .ok (given, rest)) :
    rest.length ≤ words.length := by
  unfold takeValue at h
  split at h
  · cases h
    exact Nat.le_refl _
  · cases h
    simp
  · cases h

theorem takeLetters_length {letters : List Char} {given : List GivenOption}
    (h : form.takeLetters words letters = .ok (given, rest)) : rest.length ≤ words.length := by
  induction letters generalizing given with
  | nil =>
      cases h
      exact Nat.le_refl _
  | cons c letters ih =>
      unfold takeLetters at h
      simp only at h
      split at h
      · cases h
      · split at h
        · obtain ⟨⟨taken, left⟩, htake, h⟩ := bind_eq_ok h
          cases h
          exact takeValue_length htake
        · obtain ⟨⟨others, left⟩, htake, h⟩ := bind_eq_ok h
          cases h
          exact ih htake

theorem takeOption_length {given : List GivenOption}
    (h : form.takeOption word words = .ok (given, rest)) : rest.length ≤ words.length := by
  unfold takeOption at h
  simp only at h
  split at h
  · split at h
    · obtain ⟨⟨taken, left⟩, htake, h⟩ := bind_eq_ok h
      cases h
      exact takeValue_length htake
    · split at h
      · cases h
      · cases h
        exact Nat.le_refl _
  · split at h
    · cases h
    · exact takeLetters_length h

/-- To tell words apart, any bound will do that is not below their number. -/
theorem splitUpTo_eq {a b : Nat} (ha : words.length ≤ a) (hb : words.length ≤ b) :
    form.splitUpTo a words = form.splitUpTo b words := by
  induction a generalizing b words with
  | zero =>
      have hempty : words = [] := List.eq_nil_of_length_eq_zero (Nat.eq_zero_of_le_zero ha)
      subst hempty
      cases b <;> rfl
  | succ a ih =>
      cases words with
      | nil => cases b <;> rfl
      | cons word rest =>
          cases b with
          | zero => simp at hb
          | succ b =>
              have ha : rest.length ≤ a := by simpa using ha
              have hb : rest.length ≤ b := by simpa using hb
              have hstep (left : List String) (h : left.length ≤ rest.length) :
                  form.splitUpTo a left = form.splitUpTo b left :=
                ih (Nat.le_trans h ha) (Nat.le_trans h hb)
              simp only [splitUpTo, hstep rest (Nat.le_refl _)]
              cases htake : form.takeOption word rest with
              | error issue => rfl
              | ok taken =>
                  have hleft := hstep taken.2 (takeOption_length htake)
                  simp only [bind, Except.bind, hleft]

end CommandForm

/-! ## Options in front -/

namespace SplitWords

variable {option : OptionForm} {value : String} {split : SplitWords}

/-- The words with further options in front of them. -/
def behind (split : SplitWords) (given : List GivenOption) : SplitWords :=
  { split with given := given ++ split.given }

/-- The last value counts, so options in front count where there is no other. -/
theorem value?_behind (split : SplitWords) (given : List GivenOption) (name : String) :
    (split.behind given).value? name = (split.value? name).or (value? ⟨given, []⟩ name) := by
  unfold value? behind
  rw [List.reverse_append, List.find?_append, Option.map_or]

theorem value?_single (option : OptionForm) (value name : String) :
    value? ⟨[(option, value)], []⟩ name = if option.name == name then some value else none := by
  by_cases hname : (option.name == name) = true <;> simp [value?, hname]

theorem has_behind_other (h : option.name ≠ name) :
    (split.behind [(option, value)]).has name = split.has name := by
  unfold has
  rw [value?_behind, value?_single]
  simp [h]

/-- The forms seen so far, and that of one more option. -/
def seeForm (seen : List OptionForm) (g : GivenOption) : List OptionForm :=
  if seen.contains g.1 then seen else seen ++ [g.1]

theorem mem_foldl_seeForm {form : OptionForm} {given : List GivenOption} {seen : List OptionForm}
    (h : form ∈ given.foldl seeForm seen) : form ∈ seen ∨ ∃ g ∈ given, g.1 = form := by
  induction given generalizing seen with
  | nil => exact .inl h
  | cons g rest ih =>
      rcases ih h with hseen | ⟨other, hother, hform⟩
      · unfold seeForm at hseen
        split at hseen
        · exact .inl hseen
        · rcases List.mem_append.mp hseen with hseen | hnew
          · exact .inl hseen
          · exact .inr ⟨g, List.mem_cons_self, (List.mem_singleton.mp hnew).symm⟩
      · exact .inr ⟨other, List.mem_cons_of_mem _ hother, hform⟩

/-- A form that is given has a value. -/
theorem value?_of_givenForms {form : OptionForm} (h : form ∈ split.givenForms) :
    ∃ v, split.value? form.name = some v := by
  obtain hnone | ⟨g, hg, rfl⟩ := mem_foldl_seeForm h
  · cases hnone
  · cases hvalue : split.value? g.1.name with
    | some v => exact ⟨v, rfl⟩
    | none =>
        have hfind := Option.map_eq_none_iff.mp hvalue
        have hother := List.find?_eq_none.mp hfind g (List.mem_reverse.mpr hg)
        simp at hother

/-- What is seen beside one form does not depend on whether that form was seen before. -/
theorem foldl_seeForm_beside (form : OptionForm) {given : List GivenOption}
    {seen seen' : List OptionForm} (h : seen'.filter (· != form) = seen.filter (· != form)) :
    (given.foldl seeForm seen').filter (· != form) =
      (given.foldl seeForm seen).filter (· != form) := by
  induction given generalizing seen seen' with
  | nil => exact h
  | cons g rest ih =>
      refine ih ?_
      by_cases hform : g.1 = form
      · have hskip (seen : List OptionForm) :
            (seeForm seen g).filter (· != form) = seen.filter (· != form) := by
          unfold seeForm
          split
          · rfl
          · simp [hform]
        rw [hskip, hskip, h]
      · have hkeep (seen : List OptionForm) :
            (seeForm seen g).filter (· != form) = seeForm (seen.filter (· != form)) g := by
          unfold seeForm
          simp only [List.contains_iff_mem, List.mem_filter, bne_iff_ne, ne_eq, hform,
            not_false_eq_true, and_true]
          split
          · rfl
          · simp [hform]
        rw [hkeep, hkeep, h]

end SplitWords

theorem forM_cons_eq {α ε : Type} (check : α → Except ε Unit) (x : α) (rest : List α) :
    (x :: rest).forM check = check x >>= fun _ => rest.forM check := rfl

/-- A check of all elements may leave out those that pass anyway. -/
theorem forM_filter {α ε : Type} {check : α → Except ε Unit} {keep : α → Bool} {xs : List α}
    (h : ∀ x ∈ xs, keep x = false → check x = .ok ()) :
    (xs.filter keep).forM check = xs.forM check := by
  induction xs with
  | nil => rfl
  | cons x rest ih =>
      have hrest := ih fun y hy => h y (List.mem_cons_of_mem _ hy)
      rw [forM_cons_eq, ← hrest]
      cases hkeep : keep x with
      | true => rw [List.filter_cons_of_pos hkeep, forM_cons_eq]
      | false =>
          rw [List.filter_cons_of_neg (by simp [hkeep]), h x List.mem_cons_self hkeep]
          rfl

theorem forM_congr {α ε : Type} {check check' : α → Except ε Unit} {xs : List α}
    (h : ∀ x ∈ xs, check x = check' x) : xs.forM check = xs.forM check' := by
  induction xs with
  | nil => rfl
  | cons x rest ih =>
      rw [forM_cons_eq, forM_cons_eq, h x List.mem_cons_self,
        ih fun y hy => h y (List.mem_cons_of_mem _ hy)]

namespace CommandForm

variable {form : CommandForm} {option : OptionForm} {word : String} {rest : List String}

theorem checkValue_text {split : SplitWords} (h : option.value = .text) :
    checkValue split option = .ok () := by
  unfold checkValue
  rw [h]

/-- An option that takes any text is no reason to reject a command line. -/
theorem check_behind (split : SplitWords) (text : option.value = .text) (value : String) :
    form.check (split.behind [(option, value)]) = form.check split := by
  have hforms : (split.behind [(option, value)]).givenForms.filter (· != option) =
      split.givenForms.filter (· != option) := by
    have hseen : [option].filter (· != option) = [].filter (· != option) := by simp
    exact SplitWords.foldl_seeForm_beside option hseen
  have hvalue : ∀ other ∈ split.givenForms,
      checkValue (split.behind [(option, value)]) other = checkValue split other := by
    intro other hother
    obtain ⟨v, hv⟩ := SplitWords.value?_of_givenForms hother
    unfold checkValue
    rw [SplitWords.value?_behind, hv]
    rfl
  have hpass (split : SplitWords) (forms : List OptionForm) :
      (forms.filter (· != option)).forM (checkValue split) = forms.forM (checkValue split) := by
    refine forM_filter fun other _ hskip => ?_
    have hother : other = option := by simpa using hskip
    rw [hother]
    exact checkValue_text text
  have hall : (split.behind [(option, value)]).givenForms.forM
      (checkValue (split.behind [(option, value)])) = split.givenForms.forM (checkValue split) := by
    rw [← hpass, hforms, hpass]
    exact forM_congr hvalue
  unfold check
  rw [hall]
  rfl

/-- A word for one option whose value is the next word. -/
structure IsWordFor (form : CommandForm) (word : String) (option : OptionForm) : Prop where
  isOption : isOptionWord word = true
  dashes : word ≠ "--"
  takes : ∀ value rest, form.takeOption word (value :: rest) = .ok ([(option, value)], rest)

/-- A dash and a letter are a word for the option with that letter, if it takes a value. -/
theorem isWordFor_letter (c : Char) (isOption : isOptionWord word = true) (dashes : word ≠ "--")
    (whole : cutWord word = (word, none)) (unnamed : form.optionNamed? word = none)
    (short : word.startsWith "--" = false) (letter : word.toList.drop 1 = [c])
    (lettered : form.optionLettered? c = some option) (takesValue : option.takesValue = true) :
    form.IsWordFor word option where
  isOption := isOption
  dashes := dashes
  takes value rest := by
    simp only [takeOption, whole, unnamed, short, letter, takeLetters, lettered, takesValue,
      Bool.false_eq_true, if_false, if_true]
    rfl

theorem split_option (h : form.IsWordFor word option) (value : String) (rest : List String) :
    form.split (word :: value :: rest) = (form.split rest).map (·.behind [(option, value)]) := by
  have hdashes : (word == "--") = false := by simpa using h.dashes
  have hrest : form.splitUpTo (rest.length + 1) rest = form.split rest :=
    splitUpTo_eq (Nat.le_succ _) (Nat.le_refl _)
  have hfirst : form.split (word :: value :: rest) = (do
      let others ← form.splitUpTo (rest.length + 1) rest
      return { others with given := [(option, value)] ++ others.given }) := by
    simp only [split, List.length_cons, splitUpTo, hdashes, h.isOption, h.takes,
      Bool.false_eq_true, if_false, if_true]
    rfl
  rw [hfirst, hrest]
  cases form.split rest <;> rfl

theorem read_option (h : form.IsWordFor word option) (other : option.name ≠ helpOption.name)
    (value : String) (rest : List String) :
    form.read (word :: value :: rest) = (form.read rest).map (·.behind [(option, value)]) := by
  unfold read
  rw [split_option h]
  cases form.split rest with
  | error issue => rfl
  | ok split =>
      simp only [Except.map, SplitWords.has_behind_other other]
      split <;> rfl

/-- A word alone that gives an argument gives no options. -/
theorem split_single {split : SplitWords} (h : form.split [word] = .ok split)
    (argument : split.arguments ≠ []) : split.given = [] := by
  unfold CommandForm.split at h
  simp only [List.length_singleton, splitUpTo] at h
  split at h
  · cases h
    rfl
  · split at h
    · obtain ⟨⟨given, left⟩, htake, h⟩ := bind_eq_ok h
      have hleft : left = [] :=
        List.eq_nil_of_length_eq_zero (Nat.eq_zero_of_le_zero (takeOption_length htake))
      subst hleft
      cases h
      exact absurd rfl argument
    · split at h <;> cases h <;> rfl

/-- A form with an argument is not met without arguments. -/
theorem arguments_of_check {split : SplitWords} {name : String} (h : form.check split = .ok ())
    (takes : form.argument = some name) : split.arguments ≠ [] := by
  intro hnone
  unfold check at h
  obtain ⟨_, -, h⟩ := bind_eq_ok h
  simp only [takes, hnone] at h
  cases h

end CommandForm

end ClusterDiscovery
