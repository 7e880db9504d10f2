import Stencil.Proofs.Clean

/-!
# What operators and filters keep

A property that is kept by what templates do to values is one of what operators, filters and
tests give, if it is one of what they are given. The one exception is the filter that declares
a text to be markup.

That a value is clean is such a property. Two operators take care of it: joining and the
filling of format texts, which put plain texts into markup and escape them there.

A format text that is markup is filled place by place. What stands between the places is a
part of the markup, and what goes into them was escaped or is a number in one of its
notations.

## Main definitions

* `Format.Filling.Clean`, `Format.Supply.Clean`: What fills the places of markup is clean
  and escaped there.

## Theorems

* `Format.fill_inert`: Inert markup filled with clean values is inert.
* `Value.clean_kept`: That a value is clean is kept.
* `Value.Kept.binary`, `Value.Kept.joinMarkup`: Operators.
* `Signature.forall_bind`: Arguments reach the parameters.
* `Value.Kept.filter`: Every filter but one.
* `Value.Kept.test`: Every test.
-/

namespace Stencil

/-! ## Format texts -/

namespace Format

/-- A value for a place of markup: it is clean, and escaped there. -/
structure Filling.Clean (f : Filling) : Prop where
  escaping : f.escaping = true
  value : f.value.Clean

/-- What fills the places of markup. -/
structure Supply.Clean (s : Supply) : Prop where
  mapping : ∀ m, s.mapping = some m → m.Clean
  queue : ∀ f ∈ s.queue, f.Clean

theorem Supply.next_clean {s : Supply} (h : s.Clean) :
    Ensures s.next fun r => r.1.Clean ∧ r.2.Clean := by
  unfold Supply.next
  split
  · rename_i f fs hqueue
    have hall := hqueue ▸ h.queue
    exact Ensures.ok ⟨hall f (List.mem_cons_self ..), h.mapping,
      fun g hg => hall g (List.mem_cons_of_mem _ hg)⟩
  · exact Ensures.error

theorem Supply.select_clean {s : Supply} (h : s.Clean) (key : String) :
    Ensures (s.select key) Supply.Clean := by
  unfold Supply.select
  split
  · exact Ensures.error
  · rename_i m hm
    have hclean := h.mapping m hm
    split
    · rename_i entries hentries
      have hall := Value.clean_dict.mp (hentries ▸ hclean.value)
      unfold Value.lookup?
      split
      · exact Ensures.error
      · refine Ensures.bind (Ensures.ok rfl : Ensures _ fun r => r = _) fun found hfound => ?_
        split
        · -- The member is taken from the mapping, and escaped as the mapping would be.
          obtain ⟨e, he, rfl⟩ := Value.mem_of_findEntry hfound.symm
          exact Ensures.ok ⟨h.mapping, List.forall_mem_singleton.mpr
            ⟨hclean.escaping, (hall e he).2⟩⟩
        · exact Ensures.error
    · exact Ensures.error
    · exact Ensures.error

theorem splitKey_rest {depth : Nat} {acc cs key rest : List Char} (h : InertChars cs)
    (hsplit : splitKey depth acc cs = some (key, rest)) : InertChars rest := by
  induction cs generalizing depth acc with
  | nil => cases hsplit
  | cons c cs ih =>
      rw [InertChars.cons_iff] at h
      unfold splitKey at hsplit
      split at hsplit
      · split at hsplit
        · cases hsplit
          exact h.2
        · exact ih h.2 hsplit
      · split at hsplit
        · exact ih h.2 hsplit
        · exact ih h.2 hsplit

theorem readFlags_rest (p : Place) {cs : List Char} (h : InertChars cs) :
    InertChars (readFlags p cs).2 := by
  fun_induction readFlags p cs with
  | case6 => exact h
  | _ p s ih => exact ih (InertChars.cons_iff.mp h).2

theorem readCount_clean (m : Measure) {supply : Supply} (h : supply.Clean) {cs : List Char}
    (hcs : InertChars cs) :
    Ensures (readCount m supply cs) fun r => r.2.1.Clean ∧ InertChars r.2.2 := by
  unfold readCount
  split
  · refine (Supply.next_clean h).bind fun r hr => Ensures.any.bind fun n _ => Ensures.ok ?_
    exact ⟨hr.2, (InertChars.cons_iff.mp hcs).2⟩
  · simp only
    split
    · exact Ensures.ok ⟨h, hcs⟩
    · exact Ensures.any.bind fun n _ => Ensures.ok ⟨h, hcs.dropWhile _⟩

theorem inert_pad (p : Place) {body : String} (h : Inert body) : Inert (pad p body) := by
  have hspaces (n : Nat) : Inert (String.ofList (List.replicate n ' ')) :=
    inert_ofList.mpr (InertChars.replicate n (by decide))
  unfold pad
  simp only
  split
  · exact inert_append.mpr ⟨h, hspaces _⟩
  · exact inert_append.mpr ⟨hspaces _, h⟩

theorem inert_padNumber (p : Place) {front body : String} (hfront : Inert front)
    (hbody : Inert body) : Inert (padNumber p front body) := by
  unfold padNumber
  split
  · refine inert_append.mpr ⟨inert_append.mpr ⟨hfront, ?_⟩, hbody⟩
    exact inert_ofList.mpr (InertChars.replicate _ (by decide))
  · exact inert_pad p (inert_append.mpr ⟨hfront, hbody⟩)

theorem inert_signText (p : Place) (negative : Bool) : Inert (signText p negative) := by
  unfold signText
  repeat' split
  all_goals decide

theorem inertChars_toUpper {cs : List Char} (h : InertChars cs) :
    InertChars (cs.map Char.toUpper) := by
  intro c hc
  obtain ⟨d, hd, rfl⟩ := List.mem_map.mp hc
  exact isMarkupChar_toUpper (h d hd)

theorem inert_showWhole (p : Place) (base : Nat) {mark : String} (hmark : Inert mark)
    (capital : Bool) (n : Int) : Inert (showWhole p base mark capital n) := by
  refine inert_padNumber p (inert_append.mpr ⟨inert_signText p _, ?_⟩) (inert_ofList.mpr ?_)
  · split
    · exact hmark
    · decide
  · refine InertChars.append_iff.mpr ⟨InertChars.replicate _ (by decide), ?_⟩
    split
    · exact inertChars_toUpper (inertChars_toDigits _ _)
    · exact inertChars_toDigits _ _

theorem inertChars_digits (way : Notation) (p : Place) (b : Decimal.Binary) :
    InertChars (way.digits p b) := by
  cases way with
  | fixed => exact Decimal.inertChars_fixedNotation _ _ b
  | exponent => exact Decimal.inertChars_exponentNotation _ _ b
  | general => exact Decimal.inertChars_generalNotation _ _ b

theorem inert_showDouble (p : Place) (way : Notation) (capital : Bool) (x : Float) :
    Inert (showDouble p way capital x) := by
  have hbody (body : List Char) (h : InertChars body) (negative : Bool) :
      Inert (padNumber p (signText p negative)
        (String.ofList (if capital then body.map Char.toUpper else body))) := by
    refine inert_padNumber p (inert_signText p _) (inert_ofList.mpr ?_)
    split
    · exact inertChars_toUpper h
    · exact h
  unfold showDouble
  cases Decimal.parts x with
  | nan => exact hbody _ (by decide) _
  | infinite negative => exact hbody _ (by decide) _
  | finite b => exact hbody _ (inertChars_digits way p b) _

theorem inert_showText (p : Place) {s : String} (h : Inert s) : Inert (showText p s) := by
  unfold showText
  split
  · exact inert_pad p (inert_ofList.mpr (InertChars.take h _))
  · exact inert_pad p h

theorem Filling.str_inert {f : Filling} (h : f.Clean) : Ensures f.str Inert := by
  rw [Filling.str, if_pos h.escaping]
  exact Value.escaped_inert h.value

theorem Filling.quoted_inert {f : Filling} (h : f.Clean) : Inert f.quoted := by
  rw [Filling.quoted, if_pos h.escaping]
  exact inert_escape _

theorem inertChars_hexDigits (width n : Nat) : InertChars (Text.hexDigits width n) := by
  have hdigit : ∀ k < 16, isMarkupChar (Text.hexDigit k) = false := by decide
  induction width generalizing n with
  | zero => exact InertChars.nil
  | succ width ih =>
      refine InertChars.append_iff.mpr ⟨ih _, InertChars.cons_iff.mpr ⟨?_, InertChars.nil⟩⟩
      exact hdigit _ (Nat.mod_lt _ (by decide))

theorem Filling.quotedAscii_inert {f : Filling} (h : f.Clean) : Inert f.quotedAscii := by
  refine inert_ofList.mpr (InertChars.flatMap fun c hc => ?_)
  split
  · exact InertChars.cons_iff.mpr ⟨Filling.quoted_inert h c hc, InertChars.nil⟩
  · have hmark (m : Char) (hm : isMarkupChar m = false) (width : Nat) :
        InertChars ('\\' :: m :: Text.hexDigits width c.toNat) :=
      InertChars.cons_iff.mpr ⟨by decide, InertChars.cons_iff.mpr
        ⟨hm, inertChars_hexDigits width _⟩⟩
    unfold Text.numberedEscape
    split
    · exact hmark 'x' (by decide) 2
    · split
      · exact hmark 'u' (by decide) 4
      · exact hmark 'U' (by decide) 8

theorem showWhole_inert (p : Place) (base : Nat) {mark : String} (hmark : Inert mark)
    (capital : Bool) (r : Except Fault Int) :
    Ensures (r.map (showWhole p base mark capital)) Inert :=
  Ensures.any.map fun n _ => inert_showWhole p base hmark capital n

theorem showDouble_inert (p : Place) (way : Notation) (capital : Bool) (r : Except Fault Float) :
    Ensures (r.map (showDouble p way capital)) Inert :=
  Ensures.any.map fun x _ => inert_showDouble p way capital x

/-- No character is put into markup by its number. -/
theorem showChar_inert (p : Place) {f : Filling} (h : f.Clean) : Ensures (showChar p f) Inert := by
  unfold showChar
  simp only
  rw [if_pos h.escaping]
  exact Ensures.error

/-- A place of markup is filled with inert text, whatever the conversion. -/
theorem showPlace_inert (p : Place) {f : Filling} (h : f.Clean) :
    Ensures (showPlace p f) Inert := by
  unfold showPlace
  split
  · exact (Filling.str_inert h).map fun s hs => inert_showText p hs
  · exact Ensures.ok (inert_showText p (Filling.quoted_inert h))
  · exact Ensures.ok (inert_showText p (Filling.quotedAscii_inert h))
  · exact showWhole_inert p 10 (by decide) false _
  · exact showWhole_inert p 10 (by decide) false _
  · exact showWhole_inert p 10 (by decide) false _
  · exact showWhole_inert p 8 (by decide) false _
  · exact showWhole_inert p 16 (by decide) false _
  · exact showWhole_inert p 16 (by decide) true _
  · exact showDouble_inert p .fixed false _
  · exact showDouble_inert p .fixed true _
  · exact showDouble_inert p .exponent false _
  · exact showDouble_inert p .exponent true _
  · exact showDouble_inert p .general false _
  · exact showDouble_inert p .general true _
  · exact showChar_inert p h
  · exact Ensures.error

/-- What a place holds once its key, flags and counts are read. -/
theorem readLetter_inert (total : Nat) (p : Place) {supply : Supply} (h : supply.Clean)
    (cs : List Char) : InertChars cs →
    Ensures (match cs with
      | [] => refuseText "incomplete format"
      | c :: rest => do
        let (f, supply) ← supply.next
        let text ← showPlace { p with letter := c, index := total - rest.length - 1 } f
        return (text, supply, rest) : Except Fault (String × Supply × List Char))
      fun r => Inert r.1 ∧ r.2.1.Clean ∧ InertChars r.2.2 := by
  intro hcs
  cases cs with
  | nil => exact Ensures.error
  | cons c rest =>
      refine (Supply.next_clean h).bind fun r hr => (showPlace_inert _ hr.1).bind fun text ht => ?_
      exact Ensures.ok ⟨ht, hr.2, (InertChars.cons_iff.mp hcs).2⟩

/-- What follows a percent sign in markup gives inert text. -/
theorem readPlace_inert (total : Nat) {supply : Supply} (h : supply.Clean) {cs : List Char}
    (hcs : InertChars cs) :
    Ensures (readPlace total supply cs) fun r =>
      Inert r.1 ∧ r.2.1.Clean ∧ InertChars r.2.2 := by
  unfold readPlace
  split
  · have hpercent : Inert "%" := by decide
    exact Ensures.ok ⟨hpercent, h, (InertChars.cons_iff.mp hcs).2⟩
  · -- What comes after the counts, and what after the key, is the same on all ways there.
    extract_lets afterCounts afterKey
    have hcounts : ∀ p supply cs, supply.Clean → InertChars cs →
        Ensures (afterCounts (p, supply, cs)) fun r =>
          Inert r.1 ∧ r.2.1.Clean ∧ InertChars r.2.2 := by
      intro p supply cs h hcs
      refine readLetter_inert total p h _ ?_
      split
      · split
        · exact (InertChars.cons_iff.mp hcs).2
        · exact hcs
      · exact hcs
    have hkey : ∀ supply cs, supply.Clean → InertChars cs →
        Ensures (afterKey (supply, cs)) fun r =>
          Inert r.1 ∧ r.2.1.Clean ∧ InertChars r.2.2 := by
      intro supply cs h hcs
      refine (readCount_clean .width h (readFlags_rest {} hcs)).bind ?_
      rintro ⟨width, supply, cs⟩ ⟨h, hcs⟩
      simp only
      split
      · refine (readCount_clean .precision h (InertChars.cons_iff.mp hcs).2).bind ?_
        rintro ⟨n, supply, cs⟩ ⟨h, hcs⟩
        exact hcounts _ _ _ h hcs
      · exact hcounts _ _ _ h hcs
    split
    · have hrest := (InertChars.cons_iff.mp hcs).2
      split
      · exact Ensures.error
      · split
        · exact Ensures.error
        · rename_i hsplit
          exact (Supply.select_clean h _).bind fun supply hs =>
            hkey _ _ hs (splitKey_rest hrest hsplit)
    · exact hkey _ _ h hcs

theorem fillFrom_inert (total fuel : Nat) {supply : Supply} (h : supply.Clean) {cs : List Char}
    (hcs : InertChars cs) :
    Ensures (fillFrom total fuel supply cs) fun r => ∀ s ∈ r.1, Inert s := by
  induction fuel generalizing supply cs with
  | zero => exact Ensures.ok nofun
  | succ fuel ih =>
      cases cs with
      | nil => exact Ensures.ok nofun
      | cons c cs =>
          rw [InertChars.cons_iff] at hcs
          unfold fillFrom
          split
          · refine (readPlace_inert total h hcs.2).bind fun r hr => ?_
            refine (ih hr.2.1 hr.2.2).bind fun more hmore => Ensures.ok ?_
            exact List.forall_mem_cons.mpr ⟨hr.1, hmore⟩
          · refine (ih h hcs.2).bind fun more hmore => Ensures.ok ?_
            refine List.forall_mem_cons.mpr ⟨?_, hmore⟩
            rw [Inert, String.toList_singleton]
            exact InertChars.cons_iff.mpr ⟨hcs.1, InertChars.nil⟩

/-- Inert markup filled with clean values is inert. -/
theorem fill_inert {format : String} (hformat : Inert format) {supply : Supply}
    (h : supply.Clean) : Ensures (fill format supply) Inert := by
  refine (fillFrom_inert _ _ h hformat).bind ?_
  rintro ⟨texts, supply⟩ htexts
  simp only
  split
  · exact Ensures.ok (inert_join htexts)
  · exact Ensures.error

/-- What a clean operand supplies to markup. -/
theorem supplyOf_clean {v : Value} (h : v.Clean) : (supplyOf true v).Clean := by
  unfold supplyOf
  split
  · refine ⟨nofun, fun f hf => ?_⟩
    obtain ⟨w, hw, rfl⟩ := List.mem_map.mp hf
    exact ⟨rfl, Value.clean_tuple.mp h w hw⟩
  · refine ⟨fun m hm => ?_, List.forall_mem_singleton.mpr ⟨rfl, h⟩⟩
    split at hm
    · cases hm
      exact ⟨rfl, h⟩
    · cases hm

end Format

/-- That a value is clean is kept by what templates do to it. -/
theorem Value.clean_kept : Kept Clean where
  null := clean_null
  bool _ := clean_bool
  int _ := clean_int
  float _ := clean_float
  text _ := clean_text
  undefined _ := clean_undefined
  loop _ _ := clean_loop
  cycle _ _ := clean_function
  list := clean_list
  tuple := clean_tuple
  dict := clean_dict
  spelled s := inert_escape s
  part h hpart c hc := h c (hpart c hc)
  append hs ht := inert_append.mpr ⟨hs, ht⟩
  joined h := inert_join h
  separated hsep h := inert_intercalate hsep h
  upper h := inert_ofList.mpr (InertChars.upper h)
  lower h := inert_ofList.mpr (InertChars.lower h)
  filled hs hv := Format.fill_inert hs (Format.supplyOf_clean hv)

/-! ## Arguments -/

section

variable {P : Value → Prop} {keywords : List (String × Value)}

theorem Signature.forall_fillParams (hkeywords : ∀ e ∈ keywords, P e.2)
    {params : List (String × Option Value)} (hparams : ∀ p ∈ params, ∀ v, p.2 = some v → P v)
    {args : List Value} (hargs : ∀ v ∈ args, P v) :
    ∀ v ∈ (fillParams keywords params args).1, P v := by
  induction params generalizing args with
  | nil => exact nofun
  | cons p params ih =>
      obtain ⟨hp, hrest⟩ := List.forall_mem_cons.mp hparams
      cases args with
      | cons v args =>
          obtain ⟨hv, hargs⟩ := List.forall_mem_cons.mp hargs
          exact List.forall_mem_cons.mpr ⟨hv, ih hrest hargs⟩
      | nil =>
          have hfill : ∀ v ∈ (fillParams keywords params []).1, P v := ih hrest nofun
          rw [fillParams]
          simp only
          split
          · rename_i v hv
            refine List.forall_mem_cons.mpr ⟨?_, hfill⟩
            -- An argument by name if there is one, and else the default.
            rcases Option.or_eq_some_iff.mp hv with hv | ⟨-, hv⟩
            · obtain ⟨before, after, heq, -⟩ := List.lookup_eq_some_iff.mp hv
              exact hkeywords (_, v) (heq ▸ List.mem_append_right before (List.mem_cons_self ..))
            · exact hp v hv
          · exact hfill

/-- Parameters get what is given, or a default. -/
theorem Signature.forall_bind {s : Signature}
    (hs : ∀ p ∈ s.params, ∀ v, p.2 = some v → P v) {args : List Value}
    (hargs : ∀ v ∈ args, P v) (hkeywords : ∀ e ∈ keywords, P e.2) :
    Ensures (s.bind args keywords) fun vs => ∀ v ∈ vs, P v := by
  have hfill := forall_fillParams hkeywords hs hargs
  unfold Signature.bind
  simp only
  split
  · exact Ensures.error
  · split
    · exact Ensures.error
    · refine .ite .error ?_
      split
      · rename_i filled heq
        rw [heq] at hfill
        exact Ensures.ok hfill
      · exact Ensures.error

/-- The values of keyword arguments are some of all values. -/
theorem forall_keywords {names : List String} {values : List Value} (h : ∀ v ∈ values, P v) :
    ∀ e ∈ names.zip values, P e.2 :=
  fun _ he => h _ (List.of_mem_zip he).2

end

namespace Value.Kept

variable {P : Value → Prop} (hP : Kept P) {v w : Value}
include hP

/-! ## Operators of templates -/

theorem mod (hv : P v) (hw : P w) : Ensures (v.mod w) P := by
  unfold Value.mod
  split
  · exact Ensures.any.map fun _ _ => hP.text _
  · exact (hP.filled hv hw).map fun _ hs => hs
  · exact (numericMod_numeric _ _).mono fun _ => hP.numeric

theorem binary (op : Template.BinaryOp) (hv : P v) (hw : P w) : Ensures (op.apply v w) P := by
  cases op with
  | add => exact hP.add hv hw
  | sub => exact (sub_numeric v w).mono fun _ => hP.numeric
  | mul => exact hP.mul hv hw
  | div => exact (div_numeric v w).mono fun _ => hP.numeric
  | floorDiv => exact (floorDiv_numeric v w).mono fun _ => hP.numeric
  | mod => exact hP.mod hv hw

theorem sign (minus : Bool) (v : Value) : Ensures (Template.applySign minus v) P :=
  .ite ((negate_numeric v).mono fun _ => hP.numeric) ((affirm_numeric v).mono fun _ => hP.numeric)

/-- The texts of some values, as markup. -/
theorem texts {vs : List Value} (h : ∀ v ∈ vs, P v) :
    Ensures (vs.mapM fun v => v.str.map fun s => (Filter.isMarkup v, s)) fun texts =>
      ∀ t ∈ texts, P (.markup (if t.1 then t.2 else escape t.2)) := by
  refine Ensures.mapM fun v hv => ?_
  cases v with
  | markup s => exact Ensures.ok (h _ hv)
  | _ => exact Ensures.any.map fun s _ => hP.spelled s

theorem joinMarkup {pieces : List Value} (h : ∀ v ∈ pieces, P v) :
    Ensures (Template.joinMarkup pieces) P :=
  (hP.texts h).bind fun _ htexts =>
    .ite (.ok (hP.joined (List.forall_mem_map.mpr htexts))) (.ok (hP.text _))

theorem joinPlain (pieces : List Value) : Ensures (Template.joinPlain pieces) P :=
  Ensures.any.bind fun _ _ => Ensures.ok (hP.text _)

omit hP in
theorem putEntries {entries es : List (Value × Value)} (hentries : ∀ e ∈ entries, P e.1 ∧ P e.2)
    (hes : ∀ e ∈ es, P e.1 ∧ P e.2) :
    ∀ e ∈ entries.foldl (fun es e => putEntry e.1 e.2 es) es, P e.1 ∧ P e.2 := by
  induction entries generalizing es with
  | nil => exact hes
  | cons e entries ih =>
      obtain ⟨hhead, htail⟩ := List.forall_mem_cons.mp hentries
      exact ih htail (forall_putEntry hhead.1 hhead.2 hes)

theorem makeDict {keys values : List Value} (hkeys : ∀ v ∈ keys, P v)
    (hvalues : ∀ v ∈ values, P v) : Ensures (Template.makeDict keys values) P := by
  unfold Template.makeDict
  split
  · exact Ensures.error
  · refine Ensures.ok (hP.dict.mpr (putEntries (fun e he => ?_) nofun))
    obtain ⟨hkey, hvalue⟩ := List.of_mem_zip he
    exact ⟨hkeys _ hkey, hvalues _ hvalue⟩

/-! ## Filters and tests -/

theorem onText {f : List Char → List Char}
    (hf : ∀ s, P (.markup s) → P (.markup (String.ofList (f s.toList)))) (h : P v) :
    Ensures (Filter.onText f v) P := by
  unfold Filter.onText
  split
  · exact Ensures.ok (hf _ h)
  · exact Ensures.any.bind fun _ _ => Ensures.ok (hP.text _)

/-- What is left of markup between its ends. -/
theorem dropEnds (p : Char → Bool) {s : String} (h : P (.markup s)) :
    P (.markup (String.ofList ((s.toList.dropWhile p).reverse.dropWhile p).reverse)) := by
  refine hP.part h fun c hc => ?_
  rw [String.toList_ofList, List.mem_reverse] at hc
  exact (List.dropWhile_sublist _).mem (List.mem_reverse.mp ((List.dropWhile_sublist _).mem hc))

theorem trim (h : P v) (chars : Value) : Ensures (Filter.trim v chars) P := by
  unfold Filter.trim
  split
  · exact hP.onText (fun _ hs => hP.dropEnds Text.isBlank hs) h
  · split
    · exact hP.onText (fun _ hs => hP.dropEnds _ hs) h
    · exact Ensures.error

omit hP in
theorem default (hv : P v) (hw : P w) (boolean : Value) :
    Ensures (Filter.default v w boolean) P := by
  unfold Filter.default
  split
  · exact Ensures.ok hw
  · exact Ensures.any.bind fun _ _ =>
      .ite (Ensures.any.bind fun _ _ => .ite (.ok hv) (.ok hw)) (.ok hv)

theorem first (strict : Bool) (h : P v) : Ensures (Filter.first strict v) P := by
  refine (hP.items h).bind fun vs hvs => ?_
  split
  · exact Ensures.ok (hvs _ (List.mem_cons_self ..))
  · exact Ensures.ok (hP.undefined _)

theorem reversible (h : P v) : Ensures (Filter.reversible v) fun vs => ∀ w ∈ vs, P w := by
  unfold Filter.reversible
  split
  · exact Ensures.ok (hP.markupCharacters h)
  · exact hP.items h
  · exact hP.items h
  · exact hP.items h
  · exact hP.items h
  · exact hP.items h
  · exact Ensures.error

theorem last (strict : Bool) (h : P v) : Ensures (Filter.last strict v) P := by
  refine (hP.reversible h).bind fun vs hvs => ?_
  split
  · rename_i x hx
    exact Ensures.ok (hvs x (List.mem_of_getLast? hx))
  · exact Ensures.ok (hP.undefined _)

/-- Joining escapes whatever is put into markup. -/
theorem join (hv : P v) (hw : P w) (key : Value) (strict : Bool) :
    Ensures (Filter.join v w key strict) P := by
  unfold Filter.join
  refine (hP.items hv).bind fun items hitems => ?_
  extract_lets joined
  have hjoined : ∀ items, (∀ v ∈ items, P v) → Ensures (joined items) P := by
    intro items hitems
    simp only [joined]
    split
    · -- The separator is markup, so all items become markup.
      have htexts : Ensures (items.mapM Value.escaped) fun texts => ∀ s ∈ texts, P (.markup s) :=
        Ensures.mapM fun v hv => hP.escaped (hitems v hv)
      refine htexts.bind fun texts htexts => Ensures.ok (hP.separated ?_ htexts)
      cases w with
      | markup s => exact hw
      | _ => contradiction
    · refine (hP.texts hitems).bind fun texts htexts => .ite ?_ ?_
      · exact (hP.escaped hw).bind fun sep hsep =>
          Ensures.ok (hP.separated hsep (List.forall_mem_map.mpr htexts))
      · exact Ensures.any.bind fun _ _ => Ensures.ok (hP.text _)
  split
  · exact hjoined items hitems
  · exact (Ensures.mapM fun v hv => hP.item strict (hitems v hv) _).bind hjoined

variable {args : List Value} {keywords : List (String × Value)}

/-- A filter of one argument. -/
theorem single {s : Signature} (hs : ∀ p ∈ s.params, ∀ v, p.2 = some v → P v)
    {f : Value → Except Fault Value} (hf : ∀ v, P v → Ensures (f v) P) (hargs : ∀ v ∈ args, P v)
    (hkeywords : ∀ e ∈ keywords, P e.2) : Ensures (Filter.single s f args keywords) P := by
  refine (Signature.forall_bind hs hargs hkeywords).bind fun vs hvs => ?_
  split
  · exact hf _ (hvs _ (List.mem_cons_self ..))
  · exact Ensures.ok hP.null

theorem lengthOf : Ensures (Filter.lengthOf args keywords) P := by
  unfold Filter.lengthOf
  refine .ite .error ?_
  split
  · exact Ensures.any.map fun _ _ => hP.int _
  · exact Ensures.error

omit hP in
/-- What is there by a condition is `a`, or it is what there is otherwise. -/
theorem some_ite {p : Prop} [Decidable p] {a : Except Fault Value}
    {o : Option (Except Fault Value)} (ha : p → Ensures a P) (ho : ∀ r, o = some r → Ensures r P) :
    ∀ r, (if p then some a else o) = some r → Ensures r P := by
  intro r hr
  by_cases hp : p
  · rw [if_pos hp] at hr
    exact Option.some.inj hr ▸ ha hp
  · rw [if_neg hp] at hr
    exact ho r hr

/-- Every filter keeps a property that is kept, if all markup has it or it is not the one that
    declares its value to be markup. -/
theorem filter {strict : Bool} {name : String} (hname : name = "safe" → ∀ s, P (.markup s))
    (hargs : ∀ v ∈ args, P v) (hkeywords : ∀ e ∈ keywords, P e.2) {r : Except Fault Value}
    (hr : Filter.run? strict name args keywords = some r) : Ensures r P := by
  have hone (n : String) : ∀ p ∈ [(n, (none : Option Value))], ∀ v, p.2 = some v → P v := by
    simp
  -- One case for each filter, and none for there being none.
  refine some_ite ?default (some_ite ?upper (some_ite ?lower (some_ite ?trim (some_ite ?length
    (some_ite ?first (some_ite ?last (some_ite ?join (some_ite ?safe
      (some_ite ?escape nofun))))))))) r hr
  case default =>
    intro
    have hparams : ∀ p ∈ Filter.defaultSignature.params, ∀ v, p.2 = some v → P v := by
      simp [Filter.defaultSignature, hP.text, hP.bool]
    refine (Signature.forall_bind hparams hargs hkeywords).bind fun vs hvs => ?_
    split
    · exact default (hvs _ (by simp)) (hvs _ (by simp)) _
    · exact Ensures.ok hP.null
  case upper =>
    exact fun _ => hP.single (hone _) (fun v => hP.onText fun _ => hP.upper) hargs hkeywords
  case lower =>
    exact fun _ => hP.single (hone _) (fun v => hP.onText fun _ => hP.lower) hargs hkeywords
  case trim =>
    intro
    have hparams : ∀ p ∈ Filter.trimSignature.params, ∀ v, p.2 = some v → P v := by
      simp [Filter.trimSignature, hP.null]
    refine (Signature.forall_bind hparams hargs hkeywords).bind fun vs hvs => ?_
    split
    · exact hP.trim (hvs _ (by simp)) _
    · exact Ensures.ok hP.null
  case length => exact fun _ => hP.lengthOf
  case first => exact fun _ => hP.single (hone _) (fun v => hP.first strict) hargs hkeywords
  case last => exact fun _ => hP.single (hone _) (fun v => hP.last strict) hargs hkeywords
  case join =>
    intro
    have hparams : ∀ p ∈ Filter.joinSignature.params, ∀ v, p.2 = some v → P v := by
      simp [Filter.joinSignature, hP.text, hP.null]
    refine (Signature.forall_bind hparams hargs hkeywords).bind fun vs hvs => ?_
    split
    · exact hP.join (hvs _ (by simp)) (hvs _ (by simp)) _ strict
    · exact Ensures.ok hP.null
  case safe =>
    exact fun hsafe => hP.single (hone _) (fun v _ => Ensures.any.map fun s _ => hname hsafe s)
      hargs hkeywords
  case escape =>
    exact fun _ => hP.single (hone _) (fun v hv => (hP.escaped hv).map fun s hs => hs)
      hargs hkeywords

theorem test {name : String} {r : Except Fault Value}
    (hr : Test.run? name args keywords = some r) : Ensures r P := by
  have hask (s : String) (f : Value → Bool) :
      Ensures (Filter.single ⟨"test_" ++ s, 0, [("value", none)]⟩
        (fun v => .ok (.bool (f v))) args keywords) P := by
    refine Ensures.any.bind fun vs _ => ?_
    split
    · exact Ensures.ok (hP.bool _)
    · exact Ensures.ok hP.null
  unfold Test.run? at hr
  repeat' split at hr
  all_goals cases hr
  · exact hask name _
  · exact hask name _
  · exact hask name _

end Value.Kept

end Stencil
