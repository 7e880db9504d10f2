import Mathlib.Data.List.TakeWhile
import Mathlib.Data.String.Basic
import Stencil.Command

/-!
# Where options may stand

The options of a command line may stand in any order, and those of a command before other words
and after them. Each is given by a name, and its value stands in the word behind it or in the
same word: behind an equals sign for a long name, and right behind the letter for a short one.
Short options that take no value may share a word with others. Two dashes by themselves end the
options.

Reading a command line gives the options in the order in which they stand, and the other words
in theirs, and what can be read is arranged in one of these ways.

## Main definitions

* `Short`, `Spelled`: The words in which options are given.
* `Arranged`: The words of a command line.

## Theorems

* `spelled_iff`: Words in which options are given are those in which options are found.
* `parse_iff`: Reading a command line undoes its arrangement.
-/

namespace Stencil

namespace Command

variable {α : Type} {anywhere : Bool} {forms : List (OptionForm α)} {gs : List (Given α)}
  {rest us ws : List String} {name w : String}

/-- Short options from behind the dash of their word on, and the word behind it if that is a
    value. -/
inductive Short (forms : List (OptionForm α)) : List (Given α) → List Char → List String → Prop
  | done : Short forms [] [] []
  | flag {c : Char} {cs : List Char} {gs : List (Given α)} {ws : List String} {f : OptionForm α}
      (hf : findOption? forms (String.ofList ['-', c]) = some f) (hflag : f.takesValue = false)
      (h : Short forms gs cs ws) : Short forms (⟨f.option, ""⟩ :: gs) (c :: cs) ws
  | attached {c : Char} {v : List Char} {f : OptionForm α}
      (hf : findOption? forms (String.ofList ['-', c]) = some f) (hvalue : f.takesValue = true)
      (hv : v ≠ []) : Short forms [⟨f.option, String.ofList v⟩] (c :: v) []
  | apart {c : Char} {f : OptionForm α} (v : String)
      (hf : findOption? forms (String.ofList ['-', c]) = some f) (hvalue : f.takesValue = true) :
      Short forms [⟨f.option, v⟩] [c] [v]

/-- The words in which options are given: short ones in one word, or a long one. -/
inductive Spelled (forms : List (OptionForm α)) : List (Given α) → List String → Prop
  | short {gs : List (Given α)} {cs : List Char} {ws : List String} (h : Short forms gs cs ws)
      (hcs : cs ≠ []) (hdash : cs.head? ≠ some '-') :
      Spelled forms gs (String.ofList ('-' :: cs) :: ws)
  | flag {name : String} {f : OptionForm α} (hlong : isLong name = true) (hname : '=' ∉ name.toList)
      (hf : findOption? forms name = some f) (hflag : f.takesValue = false) (hne : name ≠ "--") :
      Spelled forms [⟨f.option, ""⟩] [name]
  | joined {name : String} {f : OptionForm α} (v : String) (hlong : isLong name = true)
      (hname : '=' ∉ name.toList) (hf : findOption? forms name = some f)
      (hvalue : f.takesValue = true) : Spelled forms [⟨f.option, v⟩] [name ++ "=" ++ v]
  | apart {name : String} {f : OptionForm α} (v : String) (hlong : isLong name = true)
      (hname : '=' ∉ name.toList) (hf : findOption? forms name = some f)
      (hvalue : f.takesValue = true) (hne : name ≠ "--") : Spelled forms [⟨f.option, v⟩] [name, v]

/-- The words of a command line: options, and the words that are left. Unless options may stand
    anywhere, the first other word ends them. -/
inductive Arranged (forms : List (OptionForm α)) (anywhere : Bool) :
    List (Given α) → List String → List String → Prop
  | nil : Arranged forms anywhere [] [] []
  | options {gs gs' : List (Given α)} {rest us ws : List String} (h : Spelled forms gs us)
      (hrest : Arranged forms anywhere gs' rest ws) :
      Arranged forms anywhere (gs ++ gs') rest (us ++ ws)
  | word {gs : List (Given α)} {rest ws : List String} {w : String} (hw : holdsOptions w = false)
      (hanywhere : anywhere = true) (hrest : Arranged forms anywhere gs rest ws) :
      Arranged forms anywhere gs (w :: rest) (w :: ws)
  | stop {w : String} (hw : holdsOptions w = false) (hanywhere : anywhere = false)
      (rest : List String) : Arranged forms anywhere [] (w :: rest) (w :: rest)
  | dashes (rest : List String) : Arranged forms anywhere [] rest ("--" :: rest)

/-- What is found in a word, together with the word behind it if that is waited for. -/
inductive Completes : Found α → List (Given α) → List String → Prop
  | done (gs : List (Given α)) : Completes (gs, none) gs []
  | waiting (gs : List (Given α)) (o : α) (name v : String) :
      Completes (gs, some (o, name)) (gs ++ [⟨o, v⟩]) [v]

/-! ## Options in a word -/

theorem Completes.cons {r : Found α} (h : Completes r gs ws) (g : Given α) :
    Completes (g :: r.1, r.2) (g :: gs) ws := by
  cases h with
  | done gs => exact .done _
  | waiting gs o name v => exact .waiting (g :: gs) o name v

/-- Short options are read one after the other. -/
theorem shortOptions_of_short {cs : List Char} (h : Short forms gs cs ws) :
    ∃ r, shortOptions forms cs = .ok r ∧ Completes r gs ws := by
  induction h with
  | done => exact ⟨_, rfl, .done []⟩
  | flag hf hflag _ ih =>
      obtain ⟨r, hr, hcompletes⟩ := ih
      refine ⟨_, ?_, hcompletes.cons _⟩
      simp only [shortOptions, hf, hflag, hr, Bool.false_eq_true, if_false]
      rfl
  | attached hf hvalue hv =>
      refine ⟨_, ?_, .done _⟩
      simp only [shortOptions, hf, hvalue, if_true, List.isEmpty_iff, hv, if_false]
      rfl
  | @apart c f v hf hvalue =>
      refine ⟨_, ?_, .waiting [] f.option (String.ofList ['-', c]) v⟩
      simp only [shortOptions, hf, hvalue, if_true, List.isEmpty_nil]
      rfl

theorem short_of_shortOptions {cs : List Char} {r : Found α} (hr : shortOptions forms cs = .ok r)
    (hcompletes : Completes r gs ws) : Short forms gs cs ws := by
  induction cs generalizing r gs ws with
  | nil =>
      cases hr
      cases hcompletes
      exact .done
  | cons c cs ih =>
      rw [shortOptions] at hr
      cases hf : findOption? forms (String.ofList ['-', c]) with
      | none =>
          simp only [hf] at hr
          cases hr
      | some f =>
          simp only [hf] at hr
          cases hvalue : f.takesValue with
          | true =>
              -- The value is the rest of the word, or else the word behind it.
              simp only [hvalue, if_true] at hr
              cases cs with
              | nil =>
                  cases hr
                  cases hcompletes
                  exact .apart _ hf hvalue
              | cons d cs =>
                  cases hr
                  cases hcompletes
                  exact .attached hf hvalue (List.cons_ne_nil d cs)
          | false =>
              -- The rest of the word is read on, and may leave an option that waits.
              simp only [hvalue, Bool.false_eq_true, if_false] at hr
              obtain ⟨⟨found, waiting⟩, hr', hr⟩ := exists_of_bind_eq_ok hr
              cases hr
              cases waiting with
              | none =>
                  cases hcompletes
                  exact .flag hf hvalue (ih hr' (.done found))
              | some e =>
                  cases hcompletes
                  exact .flag hf hvalue (ih hr' (.waiting found _ _ _))

theorem bne_equals (hname : '=' ∉ name.toList) : ∀ c ∈ name.toList, (c != '=') = true :=
  fun _ hc => bne_iff_ne.mpr fun heq => hname (heq ▸ hc)

/-- A long option by itself. -/
theorem longOption_bare (hname : '=' ∉ name.toList) :
    longOption forms name =
      match findOption? forms name with
      | none => .error (.noSuchOption name (closeTo name (longNames forms)))
      | some f =>
        .ok (if f.takesValue then ([], some (f.option, name)) else ([⟨f.option, ""⟩], none)) := by
  have hne := bne_equals hname
  have htake : name.toList.takeWhile (· != '=') = name.toList := List.takeWhile_eq_self_iff.mpr hne
  have hdrop : name.toList.dropWhile (· != '=') = [] := List.dropWhile_eq_nil_iff.mpr hne
  rw [longOption, htake, hdrop, String.ofList_toList]
  cases findOption? forms name <;> rfl

/-- A long option with something behind an equals sign. -/
theorem longOption_joined (hname : '=' ∉ name.toList) (v : String) :
    longOption forms (name ++ "=" ++ v) =
      match findOption? forms name with
      | none => .error (.noSuchOption name (closeTo name (longNames forms)))
      | some f =>
        if f.takesValue then .ok ([⟨f.option, v⟩], none) else .error (.surplusValue name) := by
  have hne := bne_equals hname
  have hlist : (name ++ "=" ++ v).toList = name.toList ++ '=' :: v.toList := by simp
  have htake : (name ++ "=" ++ v).toList.takeWhile (· != '=') = name.toList := by
    rw [hlist, List.takeWhile_append_of_pos hne, List.takeWhile_cons_of_neg (by simp),
      List.append_nil]
  have hdrop : (name ++ "=" ++ v).toList.dropWhile (· != '=') = '=' :: v.toList := by
    rw [hlist, List.dropWhile_append_of_pos hne, List.dropWhile_cons_of_neg (by simp)]
  rw [longOption, htake, hdrop, String.ofList_toList]
  cases findOption? forms name <;> simp only [String.ofList_toList]

/-- A word has no equals sign, or it is something without one, the first one, and the rest. -/
theorem word_cases (w : String) :
    '=' ∉ w.toList ∨ ∃ name v : String, '=' ∉ name.toList ∧ w = name ++ "=" ++ v := by
  by_cases h : '=' ∈ w.toList
  · obtain ⟨a, b, hab, hname⟩ := List.eq_append_cons_of_mem h
    refine .inr ⟨String.ofList a, String.ofList b, by rwa [String.toList_ofList], ?_⟩
    rw [← String.toList_inj, hab]
    simp
  · exact .inl h

theorem isLong_iff : isLong w = true ↔ ∃ cs, w.toList = '-' :: '-' :: cs := by
  rw [isLong, String.isPrefixOf, String.startsWith_string_iff]
  constructor
  · rintro ⟨cs, hcs⟩
    exact ⟨cs, hcs.symm⟩
  · rintro ⟨cs, hcs⟩
    exact ⟨cs, hcs.symm⟩

theorem holdsOptions_iff : holdsOptions w = true ↔ ∃ c cs, w.toList = '-' :: c :: cs := by
  rw [holdsOptions]
  constructor
  · intro h
    split at h
    · rename_i c cs hw
      exact ⟨c, cs, hw⟩
    · cases h
  · rintro ⟨c, cs, hw⟩
    simp only [hw]

variable (forms) in
/-- A word with short options is none with a long one. -/
theorem optionsIn_short {cs : List Char} (hcs : cs ≠ []) (hdash : cs.head? ≠ some '-')
    (hw : w.toList = '-' :: cs) :
    w ≠ "--" ∧ holdsOptions w = true ∧ optionsIn forms w = shortOptions forms cs := by
  obtain ⟨c, cs, rfl⟩ := List.exists_cons_of_ne_nil hcs
  have hlong : isLong w = false := by
    rw [Bool.eq_false_iff, ne_eq, isLong_iff, hw]
    rintro ⟨ds, hds⟩
    cases hds
    exact hdash rfl
  refine ⟨?_, holdsOptions_iff.mpr ⟨c, cs, hw⟩, ?_⟩
  · rintro rfl
    cases hw
    exact hdash rfl
  · rw [optionsIn, hlong, hw]
    rfl

variable (forms) in
theorem optionsIn_long (hlong : isLong w = true) :
    holdsOptions w = true ∧ optionsIn forms w = longOption forms w := by
  obtain ⟨cs, hw⟩ := isLong_iff.mp hlong
  exact ⟨holdsOptions_iff.mpr ⟨'-', cs, hw⟩, by rw [optionsIn, hlong]; rfl⟩

theorem isLong_of_joined {v : String} (h : isLong (name ++ "=" ++ v) = true) :
    isLong name = true := by
  obtain ⟨cs, hcs⟩ := isLong_iff.mp h
  rw [String.toList_append, String.toList_append] at hcs
  rw [isLong_iff]
  -- The dashes stand in front of the equals sign.
  match hname : name.toList with
  | [] => simp [hname] at hcs
  | [c] => simp [hname] at hcs
  | c :: d :: ds =>
      rw [hname] at hcs
      cases hcs
      exact ⟨ds, rfl⟩

theorem optionsIn_of_spelled (h : Spelled forms gs (w :: ws)) : w ≠ "--" ∧ holdsOptions w = true ∧
    ∃ r, optionsIn forms w = .ok r ∧ Completes r gs ws := by
  cases h with
  | short h hcs hdash =>
      obtain ⟨hne, hholds, hoptions⟩ := optionsIn_short forms hcs hdash String.toList_ofList
      rw [hoptions]
      exact ⟨hne, hholds, shortOptions_of_short h⟩
  | flag hlong hname hf hflag hne =>
      obtain ⟨hholds, hoptions⟩ := optionsIn_long forms hlong
      rw [hoptions, longOption_bare hname, hf]
      simp only [hflag]
      exact ⟨hne, hholds, _, rfl, .done _⟩
  | @joined name f v hlong hname hf hvalue =>
      obtain ⟨cs, hcs⟩ := isLong_iff.mp hlong
      have hlong' : isLong (name ++ "=" ++ v) = true :=
        isLong_iff.mpr ⟨cs ++ '=' :: v.toList, by simp [hcs]⟩
      obtain ⟨hholds, hoptions⟩ := optionsIn_long forms hlong'
      rw [hoptions, longOption_joined hname, hf]
      simp only [hvalue, if_true]
      refine ⟨fun h => ?_, hholds, _, rfl, .done _⟩
      -- There is an equals sign in the word.
      have hmem : '=' ∈ (name ++ "=" ++ v).toList := by simp
      rw [h] at hmem
      exact absurd hmem (by decide)
  | @apart name f v hlong hname hf hvalue hne =>
      obtain ⟨hholds, hoptions⟩ := optionsIn_long forms hlong
      rw [hoptions, longOption_bare hname, hf]
      simp only [hvalue, if_true]
      exact ⟨hne, hholds, _, rfl, .waiting [] f.option w v⟩

section

variable {r : Found α}

theorem spelled_of_bare (hlong : isLong w = true) (hne : w ≠ "--") (hname : '=' ∉ w.toList)
    (hr : longOption forms w = .ok r) (hcompletes : Completes r gs ws) :
    Spelled forms gs (w :: ws) := by
  rw [longOption_bare hname] at hr
  cases hf : findOption? forms w with
  | none =>
      rw [hf] at hr
      cases hr
  | some f =>
      rw [hf] at hr
      cases hvalue : f.takesValue with
      | true =>
          simp only [hvalue, if_true] at hr
          cases hr
          cases hcompletes
          exact .apart _ hlong hname hf hvalue hne
      | false =>
          simp only [hvalue, Bool.false_eq_true, if_false] at hr
          cases hr
          cases hcompletes
          exact .flag hlong hname hf hvalue hne

theorem spelled_of_joined {v : String} (hlong : isLong (name ++ "=" ++ v) = true)
    (hname : '=' ∉ name.toList) (hr : longOption forms (name ++ "=" ++ v) = .ok r)
    (hcompletes : Completes r gs ws) : Spelled forms gs ((name ++ "=" ++ v) :: ws) := by
  rw [longOption_joined hname] at hr
  cases hf : findOption? forms name with
  | none =>
      rw [hf] at hr
      cases hr
  | some f =>
      rw [hf] at hr
      cases hvalue : f.takesValue with
      | true =>
          simp only [hvalue, if_true] at hr
          cases hr
          cases hcompletes
          exact .joined v (isLong_of_joined hlong) hname hf hvalue
      | false =>
          simp only [hvalue, Bool.false_eq_true, if_false] at hr
          cases hr

theorem spelled_of_optionsIn (hne : w ≠ "--") (hholds : holdsOptions w = true)
    (hr : optionsIn forms w = .ok r) (hcompletes : Completes r gs ws) :
    Spelled forms gs (w :: ws) := by
  cases hlong : isLong w with
  | false =>
      obtain ⟨c, cs, hw⟩ := holdsOptions_iff.mp hholds
      have hdash : (c :: cs).head? ≠ some '-' := by
        rintro hc
        obtain rfl := Option.some.inj hc
        rw [Bool.eq_false_iff, ne_eq, isLong_iff] at hlong
        exact hlong ⟨cs, hw⟩
      rw [(optionsIn_short forms (List.cons_ne_nil c cs) hdash hw).2.2] at hr
      have hspelled := Spelled.short (short_of_shortOptions hr hcompletes) (List.cons_ne_nil c cs)
        hdash
      rwa [← hw, String.ofList_toList] at hspelled
  | true =>
      rw [(optionsIn_long forms hlong).2] at hr
      rcases word_cases w with hname | ⟨name, v, hname, rfl⟩
      · exact spelled_of_bare hlong hne hname hr hcompletes
      · exact spelled_of_joined hlong hname hr hcompletes

end

/-- Words in which options are given are those in which options are found. -/
theorem spelled_iff : Spelled forms gs (w :: ws) ↔ w ≠ "--" ∧ holdsOptions w = true ∧
    ∃ r, optionsIn forms w = .ok r ∧ Completes r gs ws :=
  ⟨optionsIn_of_spelled, fun ⟨hne, hholds, _, hr, hcompletes⟩ =>
    spelled_of_optionsIn hne hholds hr hcompletes⟩

/-! ## Command lines -/

/-- The word behind an option that waits for its value is that value. -/
theorem parseAfter_waiting {o : α} {name v : String} {ws : List String} :
    parseAfter forms anywhere (some (o, name)) (v :: ws) = do
      let p ← parseAfter forms anywhere none ws
      return ⟨⟨o, v⟩ :: p.given, p.rest⟩ := by rw [parseAfter]

/-- Words in which options are given are read by themselves. -/
theorem parseAfter_spelled (h : Spelled forms gs us) (ws : List String) :
    parseAfter forms anywhere none (us ++ ws) = do
      let p ← parseAfter forms anywhere none ws
      return ⟨gs ++ p.given, p.rest⟩ := by
  cases us with
  | nil => nomatch h
  | cons w us =>
      obtain ⟨hne, hholds, r, hr, hcompletes⟩ := spelled_iff.mp h
      rw [List.cons_append, parseAfter, if_neg hne, if_pos hholds, hr]
      cases hcompletes with
      | done gs => rfl
      | waiting gs o name v =>
          show (do
            let p ← parseAfter forms anywhere (some (o, name)) (v :: ws)
            return ⟨gs ++ p.given, p.rest⟩ : Except UsageFault (Parsed α)) = _
          rw [parseAfter_waiting]
          cases parseAfter forms anywhere none ws with
          | error u => rfl
          | ok p =>
              have hgiven := List.append_cons gs ⟨o, v⟩ p.given
              exact congrArg (fun l => (.ok ⟨l, p.rest⟩ : Except UsageFault (Parsed α))) hgiven

theorem ne_dashes (hw : holdsOptions w = false) : w ≠ "--" := by
  rintro rfl
  exact absurd hw (by decide)

/-- What can be read is arranged. -/
theorem arranged_of_parse {ws : List String} {p : Parsed α} (h : parse forms anywhere ws = .ok p) :
    Arranged forms anywhere p.given p.rest ws := by
  -- A word may take the one behind it along, so the induction is on how many there are.
  induction hn : ws.length using Nat.strong_induction_on generalizing ws p with | _ n ih
  subst hn
  rw [parse] at h
  cases ws with
  | nil =>
      cases h
      exact .nil
  | cons w ws =>
      rw [parseAfter] at h
      split at h
      · rename_i heq
        cases h
        exact heq ▸ .dashes ws
      · rename_i hne
        cases hholds : holdsOptions w with
        | false =>
            simp only [hholds, Bool.false_eq_true, if_false] at h
            cases hanywhere : anywhere with
            | false =>
                simp only [hanywhere, Bool.false_eq_true, if_false] at h
                cases h
                exact .stop hholds rfl ws
            | true =>
                simp only [hanywhere, if_true] at h
                obtain ⟨q, hq, h⟩ := exists_of_bind_eq_ok h
                cases h
                exact .word hholds rfl (hanywhere ▸ ih _ (Nat.lt_succ_self _) (hanywhere ▸ hq) rfl)
        | true =>
            simp only [hholds, if_true] at h
            obtain ⟨⟨found, waiting⟩, hfound, h⟩ := exists_of_bind_eq_ok h
            obtain ⟨q, hq, h⟩ := exists_of_bind_eq_ok h
            cases h
            cases waiting with
            | none =>
                exact .options (spelled_iff.mpr ⟨hne, hholds, _, hfound, .done found⟩)
                  (ih _ (Nat.lt_succ_self _) hq rfl)
            | some e =>
                -- The option takes the word behind it, if there is one.
                cases ws with
                | nil => cases hq
                | cons v ws =>
                    rw [parseAfter_waiting] at hq
                    obtain ⟨q', hq', hq⟩ := exists_of_bind_eq_ok hq
                    cases hq
                    have hspelled := spelled_iff.mpr
                      ⟨hne, hholds, _, hfound, .waiting found e.1 e.2 v⟩
                    have harranged := Arranged.options hspelled
                      (ih _ (by simp only [List.length_cons]; omega) hq' rfl)
                    rwa [List.append_assoc] at harranged

/-- Reading a command line undoes its arrangement. -/
theorem parse_iff :
    parse forms anywhere ws = .ok ⟨gs, rest⟩ ↔ Arranged forms anywhere gs rest ws := by
  refine ⟨arranged_of_parse, fun h => ?_⟩
  unfold parse
  induction h with
  | nil => rfl
  | options h _ ih =>
      rw [parseAfter_spelled h, ih]
      rfl
  | word hw hanywhere _ ih =>
      rw [parseAfter, if_neg (ne_dashes hw), hw, if_neg Bool.false_ne_true, if_pos hanywhere, ih]
      rfl
  | stop hw hanywhere rest =>
      rw [parseAfter, if_neg (ne_dashes hw), hw, if_neg Bool.false_ne_true, hanywhere]
      rfl
  | dashes rest => rfl

end Command

end Stencil
