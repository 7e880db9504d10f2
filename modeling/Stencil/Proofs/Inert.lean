import Stencil.Template.Operation

/-!
# Inert texts

A text is inert if it has none of the characters that end a text of markup or a quoted
attribute. What was escaped is inert, and so is every part of an inert text. Numbers are
inert in all their notations, and no mapping of letter case turns a harmless character
into a harmful one, which is read off the tables of the mappings.

## Main definitions

* `InertChars`, `Inert`: Texts without the harmful characters.
* `Text.CaseRun.spares`: A run of a case table that moves nothing onto them.

## Theorems

* `inert_escape`: What was escaped is inert.
* `inert_join`, `inert_intercalate`: Inert texts put together.
* `InertChars.upper`, `InertChars.lower`: Letter case does no harm.
* `inertChars_toDigits`: Digits are inert in every base.
* `Decimal.inertChars_generalNotation`: So are the notations of a double.
-/

namespace Stencil

/-- Characters that end neither a text of markup nor a quoted attribute. -/
def InertChars (cs : List Char) : Prop := ∀ c ∈ cs, isMarkupChar c = false

/-- A text of such characters. -/
def Inert (s : String) : Prop := InertChars s.toList

-- By the characters of the text. There is also a search for an instance that goes through all
-- characters that there are.
instance : DecidablePred InertChars := List.decidableBAll (isMarkupChar · = false)

instance : DecidablePred Inert := fun s => inferInstanceAs (Decidable (InertChars s.toList))

/-- The harmful characters by their numbers. -/
theorem isMarkupChar_iff (c : Char) :
    isMarkupChar c = true ↔ c.toNat ∈ [0x22, 0x27, 0x3c, 0x3e] := by
  simp only [isMarkupChar, Bool.or_eq_true, beq_iff_eq, ← Char.toNat_inj, List.mem_cons,
    List.not_mem_nil, or_false, Char.reduceToNat]
  omega

theorem isMarkupChar_ofNat {n : Nat} (h : n ∉ [0x22, 0x27, 0x3c, 0x3e]) :
    isMarkupChar (Char.ofNat n) = false := by
  rw [Bool.eq_false_iff, ne_eq, isMarkupChar_iff]
  by_cases hn : n.isValidChar
  · have hchar : Char.ofNat n = Char.ofNatAux n hn := dif_pos hn
    rw [hchar]
    exact h
  · -- What is no character stands for the first one.
    have hchar : Char.ofNat n = Char.ofNat 0 := dif_neg hn
    rw [hchar]
    decide

namespace InertChars

variable {cs ds : List Char}

@[simp] theorem nil : InertChars [] := nofun

@[simp] theorem cons_iff {c : Char} :
    InertChars (c :: cs) ↔ isMarkupChar c = false ∧ InertChars cs := List.forall_mem_cons

@[simp] theorem append_iff : InertChars (cs ++ ds) ↔ InertChars cs ∧ InertChars ds :=
  List.forall_mem_append

/-- A part of an inert text is inert. -/
theorem part (h : InertChars ds) (hsub : cs ⊆ ds) : InertChars cs := fun c hc => h c (hsub hc)

@[simp] theorem reverse_iff : InertChars cs.reverse ↔ InertChars cs := by
  simp only [InertChars, List.mem_reverse]

theorem flatMap {α : Type} {xs : List α} {f : α → List Char} (h : ∀ x ∈ xs, InertChars (f x)) :
    InertChars (xs.flatMap f) := by
  intro c hc
  obtain ⟨x, hx, hcx⟩ := List.mem_flatMap.mp hc
  exact h x hx c hcx

theorem replicate {c : Char} (n : Nat) (h : isMarkupChar c = false) :
    InertChars (List.replicate n c) := by
  intro d hd
  rw [List.eq_of_mem_replicate hd]
  exact h

theorem take (h : InertChars cs) (n : Nat) : InertChars (cs.take n) :=
  h.part (List.take_subset n cs)

theorem drop (h : InertChars cs) (n : Nat) : InertChars (cs.drop n) :=
  h.part (List.drop_subset n cs)

theorem dropWhile (h : InertChars cs) (p : Char → Bool) : InertChars (cs.dropWhile p) :=
  h.part (List.dropWhile_sublist p).subset

/-- A text without some characters at its ends. -/
theorem dropEnds (h : InertChars cs) (p : Char → Bool) :
    InertChars ((cs.dropWhile p).reverse.dropWhile p).reverse :=
  reverse_iff.mpr ((reverse_iff.mpr (h.dropWhile p)).dropWhile p)

end InertChars

@[simp] theorem inert_ofList {cs : List Char} : Inert (String.ofList cs) ↔ InertChars cs := by
  rw [Inert, String.toList_ofList]

@[simp] theorem inert_append {s t : String} : Inert (s ++ t) ↔ Inert s ∧ Inert t := by
  simp only [Inert, String.toList_append, InertChars.append_iff]

theorem inert_join {texts : List String} (h : ∀ s ∈ texts, Inert s) :
    Inert (String.join texts) := by
  induction texts with
  | nil => decide
  | cons s texts ih =>
      rw [String.join_cons, inert_append]
      exact ⟨h s (List.mem_cons_self ..), ih fun t ht => h t (List.mem_cons_of_mem _ ht)⟩

theorem inert_intercalate {sep : String} (hsep : Inert sep) {texts : List String}
    (h : ∀ s ∈ texts, Inert s) : Inert (sep.intercalate texts) := by
  rw [Inert, String.toList_intercalate]
  induction texts with
  | nil => exact InertChars.nil
  | cons s texts ih =>
      have hs : InertChars s.toList := h s (List.mem_cons_self ..)
      cases texts with
      | nil => simpa only [List.map_cons, List.map_nil, List.intercalate_singleton] using hs
      | cons t texts =>
          rw [List.map_cons, List.map_cons, List.intercalate_cons_cons, ← List.map_cons]
          exact InertChars.append_iff.mpr ⟨InertChars.append_iff.mpr ⟨hs, hsep⟩,
            ih fun u hu => h u (List.mem_cons_of_mem _ hu)⟩

/-- What was escaped is inert. -/
theorem inert_escape (s : String) : Inert (escape s) := by
  rw [escape, inert_ofList]
  exact InertChars.flatMap fun c _ d => escapeChar_safe c d

/-! ## Letter case -/

namespace Text

/-- Whether a run of a case table moves none of its characters onto a harmful one. -/
def CaseRun.spares (r : CaseRun) : Bool :=
  [0x22, 0x27, 0x3c, 0x3e].all fun n : Int => n < r.first + r.shift || r.last + r.shift < n

theorem upperRuns_spare : (upperRuns.all fun r => r.spares) = true := by decide +kernel

theorem lowerRuns_spare : (lowerRuns.all fun r => r.spares) = true := by decide +kernel

theorem upperWide_inert :
    (upperWide.all fun e => e.2.all fun n => !isMarkupChar (Char.ofNat n)) = true := by
  decide +kernel

theorem CaseRun.shift?_spares {r : CaseRun} (h : r.spares = true) {c : Nat} {d : Int}
    (hd : r.shift? c = some d) : (c + d).toNat ∉ [0x22, 0x27, 0x3c, 0x3e] := by
  unfold CaseRun.shift? at hd
  split at hd
  · rename_i hrange
    obtain rfl := Option.some.inj hd
    simp only [Bool.and_eq_true, decide_eq_true_eq] at hrange
    simp only [spares, List.all_cons, List.all_nil, Bool.and_true, Bool.and_eq_true,
      Bool.or_eq_true, decide_eq_true_eq] at h
    simp only [List.mem_cons, List.not_mem_nil, or_false]
    omega
  · cases hd

theorem shifted_inert {runs : Array CaseRun} (h : (runs.all fun r => r.spares) = true) {c : Char}
    (hc : isMarkupChar c = false) : isMarkupChar (shifted runs c) = false := by
  unfold shifted
  split
  · rename_i d hd
    obtain ⟨r, hr, hshift⟩ := Array.exists_of_findSome?_eq_some hd
    exact isMarkupChar_ofNat (CaseRun.shift?_spares (Array.all_eq_true'.mp h r hr) hshift)
  · exact hc

theorem upperChar_inert {c : Char} (hc : isMarkupChar c = false) : InertChars (upperChar c) := by
  unfold upperChar
  split
  · rename_i cs hcs
    obtain ⟨before, rest, heq, -⟩ := List.lookup_eq_some_iff.mp hcs
    have hmem : (c.toNat, cs) ∈ upperWide := by
      rw [heq]
      exact List.mem_append_right before (List.mem_cons_self ..)
    have hall := List.all_eq_true.mp upperWide_inert _ hmem
    intro d hd
    obtain ⟨n, hn, rfl⟩ := List.mem_map.mp hd
    simpa using List.all_eq_true.mp hall n hn
  · simpa using shifted_inert upperRuns_spare hc

theorem lowerChar_inert (before rest : List Char) {c : Char} (hc : isMarkupChar c = false) :
    InertChars (lowerChar before c rest) := by
  unfold lowerChar
  split
  · split <;> decide
  · split
    · decide
    · simpa using shifted_inert lowerRuns_spare hc

theorem lowerAfter_inert (before : List Char) {cs : List Char} (h : InertChars cs) :
    InertChars (lowerAfter before cs) := by
  induction cs generalizing before with
  | nil => exact InertChars.nil
  | cons c cs ih =>
      rw [InertChars.cons_iff] at h
      exact InertChars.append_iff.mpr ⟨lowerChar_inert before cs h.1, ih _ h.2⟩

end Text

theorem InertChars.upper {cs : List Char} (h : InertChars cs) : InertChars (Text.upper cs) :=
  InertChars.flatMap fun c hc => Text.upperChar_inert (h c hc)

theorem InertChars.lower {cs : List Char} (h : InertChars cs) : InertChars (Text.lower cs) :=
  Text.lowerAfter_inert [] h

/-! ## Numbers -/

theorem isMarkupChar_digitChar (n : Nat) : isMarkupChar n.digitChar = false := by
  have hsmall : ∀ k < 16, isMarkupChar k.digitChar = false := by decide
  by_cases h : 16 ≤ n
  · rw [Nat.digitChar_eq_star.mpr h]
    decide
  · exact hsmall n (Nat.lt_of_not_le h)

theorem inertChars_toDigitsCore (base fuel n : Nat) {ds : List Char} (h : InertChars ds) :
    InertChars (Nat.toDigitsCore base fuel n ds) := by
  induction fuel generalizing n ds with
  | zero => exact h
  | succ fuel ih =>
      have hnext : InertChars ((n % base).digitChar :: ds) :=
        InertChars.cons_iff.mpr ⟨isMarkupChar_digitChar _, h⟩
      rw [Nat.toDigitsCore]
      split
      · exact hnext
      · exact ih _ hnext

theorem inertChars_toDigits (base n : Nat) : InertChars (Nat.toDigits base n) :=
  inertChars_toDigitsCore base (n + 1) n InertChars.nil

/-- The capital of a harmless character is harmless. -/
theorem isMarkupChar_toUpper {c : Char} (h : isMarkupChar c = false) :
    isMarkupChar c.toUpper = false := by
  have hletters : ∀ n < 123, 97 ≤ n → isMarkupChar (Char.ofNat n).toUpper = false := by decide
  by_cases hc : 'a'.val ≤ c.val ∧ c.val ≤ 'z'.val
  · rw [← Char.ofNat_toNat c]
    exact hletters c.toNat (Nat.lt_succ_of_le hc.2) hc.1
  · have hsame : c.toUpper = c := dif_neg hc
    rw [hsame]
    exact h

namespace Decimal

theorem inertChars_fractionText (keepPoint : Bool) {ds : List Char} (h : InertChars ds) :
    InertChars (fractionText keepPoint ds) := by
  unfold fractionText
  split
  · exact InertChars.nil
  · exact InertChars.cons_iff.mpr ⟨by decide, h⟩

theorem inertChars_exponentText (e : Int) : InertChars (exponentText e) := by
  have hsign : isMarkupChar (if e < 0 then '-' else '+') = false := by split <;> decide
  exact InertChars.cons_iff.mpr ⟨by decide, InertChars.cons_iff.mpr ⟨hsign,
    InertChars.append_iff.mpr ⟨InertChars.replicate _ (by decide), inertChars_toDigits _ _⟩⟩⟩

theorem inertChars_significant (b : Binary) (count : Nat) :
    InertChars (significant b count).1 := by
  unfold significant
  split
  · exact InertChars.replicate _ (by decide)
  · exact (inertChars_toDigits _ _).take _

theorem inertChars_fixedNotation (keepPoint : Bool) (places : Nat) (b : Binary) :
    InertChars (fixedNotation keepPoint places b) := by
  have hdigits (n : Nat) (ds : List Char) (h : InertChars ds) :
      InertChars (List.replicate n '0' ++ ds) :=
    InertChars.append_iff.mpr ⟨InertChars.replicate _ (by decide), h⟩
  exact InertChars.append_iff.mpr ⟨(hdigits _ _ (inertChars_toDigits _ _)).take _,
    inertChars_fractionText keepPoint ((hdigits _ _ (inertChars_toDigits _ _)).drop _)⟩

theorem inertChars_exponentNotation (keepPoint : Bool) (places : Nat) (b : Binary) :
    InertChars (exponentNotation keepPoint places b) := by
  have hdigits := inertChars_significant b (places + 1)
  exact InertChars.append_iff.mpr ⟨InertChars.append_iff.mpr ⟨hdigits.take 1,
    inertChars_fractionText keepPoint (hdigits.drop 1)⟩, inertChars_exponentText _⟩

theorem inertChars_generalNotation (keepPoint : Bool) (count : Nat) (b : Binary) :
    InertChars (generalNotation keepPoint count b) := by
  have hdigits : InertChars (if keepPoint = true then (significant b (max count 1)).1
      else ((significant b (max count 1)).1.reverse.dropWhile (· == '0')).reverse) := by
    have h := inertChars_significant b (max count 1)
    split
    · exact h
    · exact InertChars.reverse_iff.mpr ((InertChars.reverse_iff.mpr h).dropWhile _)
  have hzeros (n : Nat) : InertChars (List.replicate n '0') := InertChars.replicate n (by decide)
  unfold generalNotation
  -- The exponent is written, or zeros stand before the digits, or digits around the point.
  simp only
  split
  · exact InertChars.append_iff.mpr ⟨InertChars.append_iff.mpr ⟨hdigits.take 1,
      inertChars_fractionText keepPoint (hdigits.drop 1)⟩, inertChars_exponentText _⟩
  · split
    · exact InertChars.append_iff.mpr ⟨InertChars.cons_iff.mpr ⟨by decide,
        InertChars.cons_iff.mpr ⟨by decide, hzeros _⟩⟩, hdigits⟩
    · exact InertChars.append_iff.mpr ⟨InertChars.append_iff.mpr ⟨hdigits.take _, hzeros _⟩,
        inertChars_fractionText keepPoint (hdigits.drop _)⟩

end Decimal

end Stencil
