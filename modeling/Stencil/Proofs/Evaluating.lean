import Stencil.Proofs.Accord
import Stencil.Proofs.Compiling

/-!
# Clean templates evaluate cleanly

Where all names stand for clean values, the expressions of a clean template have clean
values, whatever the catalogs say: what a catalog answers is plain text. A translatable
block is different, because its answer becomes markup as it is. There the function that
is called is looked up by name and may have been replaced. The functions of the catalogs
take messages and give one of them back or a text of a catalog, so the block is inert if
its own text and the texts of the catalogs are. The function of the loop object gives any
of its arguments back, and those of a block that counts or has a context are not only
messages; the names of its functions must not stand for that one.

## Main definitions

* `choosers`: The functions that are given more than a message.
* `Value.CleanAs`: What a name may stand for.
* `Scope.Clean`: All names stand for such values.
* `Translations.Inert`: All texts of the catalogs are inert.
* `Messages`: The arguments that a translatable block calls its function with.

## Theorems

* `evaluate_clean`: The value of an expression is clean.
* `applyCall_messages`: A call with inert messages gives an inert text.
* `evaluateBlock_inert`: The markup of a translatable block is inert.
-/

namespace Stencil

/-- All texts of some catalogs are inert. -/
structure Translations.Inert (t : Translations) : Prop where
  singular : ∀ c ∈ t, ∀ e ∈ c.singular, Stencil.Inert e.2
  plural : ∀ c ∈ t, ∀ e ∈ c.plural, Stencil.Inert e.2.1 ∧ Stencil.Inert e.2.2
  others : ∀ c ∈ t, ∀ e ∈ c.others, ∀ form ∈ e.2, Stencil.Inert form

/-- A function that may give any of its arguments back: that of the loop object, and the
    one that looks up by name what it does. -/
def Lookup.Picks : Lookup → Prop
  | .cycle .. | .byName => True
  | _ => False

/-- The functions that a translatable block gives more than a message: a count or a context. -/
def Template.choosers : List String := ["ngettext", "pgettext", "npgettext"]

/-- What a name may stand for: a clean value, and no function that picks an argument if
    blocks give it more than a message. -/
structure Value.CleanAs (n : String) (v : Value) : Prop where
  clean : v.Clean
  faithful : n ∈ Template.choosers → ∀ f, v = .function f → ¬ f.Picks

theorem Value.Clean.as {n : String} {v : Value} (h : v.Clean) (hn : n ∉ Template.choosers) :
    v.CleanAs n := ⟨h, fun hmem => absurd hmem hn⟩

namespace Template

/-- All names stand for what they may stand for. -/
def Scope.Clean (s : Scope) : Prop := ∀ n v, s.find n = some v → v.CleanAs n

/-- Clean values stay clean beside each other in one scope. -/
theorem Scope.Clean.same {s : Scope} (h : s.Clean) : s.Same clean (fun _ => True) s where
  strict := rfl
  template := rfl
  find _ _ := rfl
  found n v _ hv := (h n v hv).clean
  call f _ _ _ ha hk := .refl (applyCall_kept Value.clean_kept s f ha hk)
  filter _ c _ _ hn ha hk :=
    .refl (applyFilter_kept Value.clean_kept s (fun h => absurd h hn) c ha hk)

/-- The value of an expression of a clean template is clean. -/
theorem evaluate_clean {s : Scope} (hs : s.Clean) (e : Expr) (he : e.Has clean) :
    Ensures (evaluate s e) Value.Clean :=
  (evaluate_same Value.clean_kept hs.same e he fun _ _ => trivial).ensures

theorem evaluateAll_clean {s : Scope} (hs : s.Clean) (es : List Expr) (hes : AllHave clean es) :
    Ensures (evaluateAll s es) fun vs => ∀ v ∈ vs, v.Clean :=
  (evaluateAll_same Value.clean_kept hs.same es hes fun _ _ => trivial).ensures

/-! ## Translatable blocks -/

/-- The arguments that a translatable block with inert text calls its function with: a
    message or a pair of them with a count, each maybe in a context. -/
inductive Messages : List Value → Prop where
  | one {m : String} (hm : Inert m) : Messages [.text m]
  | oneIn (c : String) {m : String} (hm : Inert m) : Messages [.text c, .text m]
  | many {a b : String} (ha : Inert a) (hb : Inert b) (n : Value) :
      Messages [.text a, .text b, n]
  | manyIn (c : String) {a b : String} (ha : Inert a) (hb : Inert b) (n : Value) :
      Messages [.text c, .text a, .text b, n]

/-- A value that is a text, and inert. -/
def IsInertText (v : Value) : Prop := ∃ s, v = .text s ∧ Inert s

/-- Without defaults and names, the arguments are what they are, as many as there are
    parameters. -/
theorem bind_positional (name : String) (hidden : Nat) (params : List String) :
    Ensures (Signature.bind ⟨name, hidden, params.map (·, none)⟩ args []) fun vs =>
      vs = args ∧ args.length = params.length := by
  -- If no parameter is left open, the arguments fill them one for one.
  have hfill : ∀ (params : List String) (args : List Value), args.length ≤ params.length →
      (Signature.fillParams [] (params.map (·, none)) args).2 = [] →
      (Signature.fillParams [] (params.map (·, none)) args).1 = args ∧
        args.length = params.length := by
    intro params
    induction params with
    | nil =>
        intro args hlen _
        rw [List.length_eq_zero_iff.mp (Nat.le_zero.mp hlen)]
        exact ⟨rfl, rfl⟩
    | cons p params ih =>
        intro args hlen hopen
        cases args with
        | nil => simp [Signature.fillParams] at hopen
        | cons v args =>
            obtain ⟨hfilled, hcount⟩ := ih args (Nat.le_of_succ_le_succ hlen) hopen
            exact ⟨congrArg (v :: ·) hfilled, congrArg (· + 1) hcount⟩
  unfold Signature.bind
  simp only [List.find?_nil, List.length_map]
  split
  · exact Ensures.error
  · rename_i hlen
    have hfilled := hfill params args (Nat.le_of_not_lt hlen)
    split
    · rename_i filled heq
      rw [heq] at hfilled
      exact Ensures.ok (hfilled rfl)
    · exact Ensures.error

/-! ### What catalogs have -/

theorem form?_inert {t : Translations} (ht : t.Inert) {c : Catalog} (hc : c ∈ t) {m s : String}
    {i : Nat} (h : c.form? m i = some s) : Inert s := by
  unfold Catalog.form? at h
  split at h
  · rename_i a b hab
    obtain ⟨before, rest, heq, -⟩ := List.lookup_eq_some_iff.mp hab
    have hmem := ht.plural c hc (m, a, b)
      (heq ▸ List.mem_append_right before (List.mem_cons_self ..))
    have hforms : ∀ form ∈ [a, b], Inert form := by simpa using hmem
    exact hforms s (List.mem_of_getElem? h)
  · obtain ⟨forms, hforms, hs⟩ := Option.bind_eq_some_iff.mp h
    obtain ⟨before, rest, heq, -⟩ := List.lookup_eq_some_iff.mp hforms
    exact ht.others c hc (m, forms) (heq ▸ List.mem_append_right before (List.mem_cons_self ..))
      s (List.mem_of_getElem? hs)

theorem message?_inert {t : Translations} (ht : t.Inert) {m s : String}
    (h : t.message? m = some s) : Inert s := by
  obtain ⟨c, hc, hs⟩ := List.exists_of_findSome?_eq_some h
  rcases Option.or_eq_some_iff.mp hs with hs | ⟨-, hs⟩
  · obtain ⟨before, rest, heq, -⟩ := List.lookup_eq_some_iff.mp hs
    exact ht.singular c hc (m, s) (heq ▸ List.mem_append_right before (List.mem_cons_self ..))
  · exact form?_inert ht hc hs

theorem Inert.tail {c : Catalog} {t : Translations} (h : Translations.Inert (c :: t)) :
    Translations.Inert t where
  singular d hd := h.singular d (List.mem_cons_of_mem _ hd)
  plural d hd := h.plural d (List.mem_cons_of_mem _ hd)
  others d hd := h.others d (List.mem_cons_of_mem _ hd)

theorem counted?_inert {t : Translations} (ht : t.Inert) (key n : Value) :
    Ensures (t.counted? key n) fun found => ∀ s, found = some s → Inert s := by
  induction t with
  | nil => exact Ensures.ok nofun
  | cons c t ih =>
      refine Ensures.any.bind fun i _ => ?_
      split
      · exact Ensures.error
      · rename_i form hform
        obtain ⟨m, -, hm⟩ := Option.bind_eq_some_iff.mp hform
        refine Ensures.ok fun s hs => ?_
        cases hs
        exact form?_inert ht (List.mem_cons_self ..) hm
      · exact ih (Inert.tail ht)

theorem lookUp_inert {t : Translations} (ht : t.Inert) (key : Value) {own : Value}
    (hown : IsInertText own) : Ensures (lookUp t key own) IsInertText := by
  unfold lookUp
  refine .ite (.ok hown) ?_
  split
  · exact Ensures.error
  · refine Ensures.ok ?_
    cases hs : key.text?.bind t.message? with
    | none => exact hown
    | some s =>
        obtain ⟨m, -, hm⟩ := Option.bind_eq_some_iff.mp hs
        exact ⟨s, rfl, message?_inert ht hm⟩

theorem lookUpCounted_inert {t : Translations} (ht : t.Inert) (key n : Value) {one many : Value}
    (hone : IsInertText one) (hmany : IsInertText many) :
    Ensures (lookUpCounted t key one many n) IsInertText := by
  refine (counted?_inert ht key n).bind fun found hfound => ?_
  split
  · exact Ensures.ok ⟨_, rfl, hfound _ rfl⟩
  · exact Ensures.any.bind fun isOne _ => .ite (.ok hone) (.ok hmany)

/-- A function of the catalogs gives one of the messages back, or what a catalog has for
    them. -/
theorem translate_messages {t : Translations} (ht : t.Inert) {f : Lookup} (hf : ¬ f.Picks)
    (hargs : Messages args) : Ensures (translate t f args []) IsInertText := by
  -- The number of arguments has to be that of the parameters, which tells which of the four kinds
  -- of messages they are.
  cases f with
  | gettext =>
      refine (bind_positional _ 1 ["message"]).bind ?_
      rintro vs ⟨rfl, hlen⟩
      cases hargs with
      | one hm => exact lookUp_inert ht _ ⟨_, rfl, hm⟩
      | _ => exact absurd hlen (by simp)
  | ngettext =>
      refine (bind_positional _ 1 ["msgid1", "msgid2", "n"]).bind ?_
      rintro vs ⟨rfl, hlen⟩
      cases hargs with
      | many ha hb n => exact lookUpCounted_inert ht _ n ⟨_, rfl, ha⟩ ⟨_, rfl, hb⟩
      | _ => exact absurd hlen (by simp)
  | pgettext =>
      refine (bind_positional _ 1 ["context", "message"]).bind ?_
      rintro vs ⟨rfl, hlen⟩
      cases hargs with
      | oneIn c hm => exact Ensures.any.bind fun key _ => lookUp_inert ht key ⟨_, rfl, hm⟩
      | _ => exact absurd hlen (by simp)
  | npgettext =>
      refine (bind_positional _ 1 ["context", "msgid1", "msgid2", "n"]).bind ?_
      rintro vs ⟨rfl, hlen⟩
      cases hargs with
      | manyIn c ha hb n =>
          exact Ensures.any.bind fun key _ =>
            lookUpCounted_inert ht key n ⟨_, rfl, ha⟩ ⟨_, rfl, hb⟩
      | _ => exact absurd hlen (by simp)
  | cycle | byName => exact absurd trivial hf

/-- A single message comes back also from the function of the loop object. -/
theorem translate_message {t : Translations} (ht : t.Inert) (f : Lookup) {m : String}
    (hm : Inert m) : Ensures (translate t f [.text m] []) IsInertText := by
  cases f with
  | cycle i n =>
      refine Ensures.ok ⟨m, ?_, hm⟩
      simp [Nat.mod_one]
  | byName => exact Ensures.error
  | _ => exact translate_messages ht id (.one hm)

/-- A call with inert messages gives an inert text: whatever is called if there is one
    message, and else what does not pick an argument. -/
theorem applyCall_messages {s : Scope} (ht : s.translations.Inert) {f : Value}
    (hargs : Messages args)
    (hf : (∃ m, args = [.text m]) ∨ ∀ g, f = .function g → ¬ g.Picks) :
    Ensures (applyCall s f args []) IsInertText := by
  rcases hf with ⟨m, rfl⟩ | hf
  · cases hargs with
    | one hm => exact applyCall_ensures s f fun g => translate_message ht g hm
  · unfold applyCall
    split
    · exact absurd trivial (hf _ rfl)
    · exact translate_messages ht (hf _ rfl) hargs
    · exact Ensures.error
    · exact Ensures.error

/-! ## The text of a block -/

theorem joinLines_inert (pending : List Char) (broken : Bool) {cs : List Char}
    (hpending : InertChars pending) (h : InertChars cs) :
    InertChars (TransBlock.joinLines pending broken cs) := by
  induction cs generalizing pending broken with
  | nil => exact InertChars.reverse_iff.mpr hpending
  | cons c cs ih =>
      rw [InertChars.cons_iff] at h
      unfold TransBlock.joinLines
      split
      · exact ih _ _ (InertChars.cons_iff.mpr ⟨h.1, hpending⟩) h.2
      · refine InertChars.append_iff.mpr ⟨?_, InertChars.cons_iff.mpr
          ⟨h.1, ih _ _ InertChars.nil h.2⟩⟩
        split
        · decide
        · exact InertChars.reverse_iff.mpr hpending

theorem formatText_inert {p : Piece} (hp : p.Has clean) : Inert p.formatText := by
  cases p with
  | text s =>
      refine inert_ofList.mpr (InertChars.flatMap fun c hc => ?_)
      split
      · decide
      · exact InertChars.cons_iff.mpr ⟨hp c hc, InertChars.nil⟩
  | mention n =>
      have hopen : Inert "%(" := by decide
      have hclose : Inert ")s" := by decide
      exact inert_append.mpr ⟨inert_append.mpr ⟨hopen, hp⟩, hclose⟩

theorem plainText_inert {p : Piece} (hp : p.Has clean) : Inert p.plainText := by
  cases p with
  | text s => exact hp
  | mention n => exact hp

theorem message_inert (b : TransBlock) {ps : List Piece} (hps : ∀ p ∈ ps, p.Has clean) :
    Inert (b.message ps) := by
  have htext : Inert (if b.mentions.isEmpty then String.join (ps.map Piece.plainText)
      else String.join (ps.map Piece.formatText)) := by
    split
    · exact inert_join (List.forall_mem_map.mpr fun p hp => plainText_inert (hps p hp))
    · exact inert_join (List.forall_mem_map.mpr fun p hp => formatText_inert (hps p hp))
  unfold TransBlock.message
  simp only
  split
  · exact inert_ofList.mpr (joinLines_inert [] false InertChars.nil (InertChars.dropEnds htext _))
  · exact htext

theorem functionName_mem {b : TransBlock} (h : b.count.isSome || b.context.isSome) :
    b.functionName ∈ choosers := by
  revert h
  unfold TransBlock.functionName
  generalize b.count.isSome = counts
  generalize b.context.isSome = hasContext
  revert counts hasContext
  decide

/-- A block calls its function with messages, with a single one unless its function is a
    chooser. -/
theorem blockArguments_messages (s : Scope) {b : TransBlock} (hb : b.Has clean) :
    Ensures (blockArguments s b) fun args =>
      Messages args ∧ ((∃ m, args = [.text m]) ∨ b.functionName ∈ choosers) := by
  have hone := message_inert b hb.singular
  unfold blockArguments
  cases hcontext : b.context with
  | none =>
      simp only
      split
      · rename_i many count hmany hcount
        refine Ensures.any.bind fun n _ =>
          Ensures.ok ⟨.many hone (message_inert b (hb.plural many hmany)) n, .inr ?_⟩
        exact functionName_mem (by rw [hcount]; rfl)
      · exact Ensures.ok ⟨.one hone, .inl ⟨_, rfl⟩⟩
  | some c =>
      simp only
      split
      · rename_i many count hmany hcount
        refine Ensures.any.bind fun n _ =>
          Ensures.ok ⟨.manyIn c hone (message_inert b (hb.plural many hmany)) n, .inr ?_⟩
        exact functionName_mem (by rw [hcount]; rfl)
      · exact Ensures.ok ⟨.oneIn c hone, .inr (functionName_mem (by rw [hcontext]; simp))⟩

/-- The function of a block is no picker if it is a chooser. -/
theorem Scope.Clean.faithful {s : Scope} (hs : s.Clean) {n : String} (hn : n ∈ choosers) :
    ∀ g, s.value n = .function g → ¬ g.Picks := by
  intro g hg
  unfold Scope.value at hg
  cases hv : s.find n with
  | none =>
      rw [hv] at hg
      cases hg
  | some v =>
      rw [hv] at hg
      exact (hs n v hv).faithful hn g hg

/-- The markup of a translatable block is inert: its text is, and so is what the
    catalogs have for it, and its variables are escaped. -/
theorem evaluateBlock_inert {s : Scope} (hs : s.Clean) (ht : s.translations.Inert)
    {b : TransBlock} (hb : b.Has clean) : Ensures (evaluateBlock s b) Inert := by
  refine (blockArguments_messages s hb).bind fun args hargs => ?_
  refine (applyCall_messages ht hargs.1 (hargs.2.imp_right hs.faithful)).bind ?_
  rintro v ⟨m, rfl, hm⟩
  refine Ensures.bind (Ensures.ok hm : Ensures (Value.text m).str Inert) fun text htext => ?_
  split
  · exact Ensures.ok htext
  · refine (evaluateAll_clean hs b.values (allHave_iff.mpr hb.values)).bind fun values hvalues => ?_
    have hnames : ∀ v ∈ b.names.map Value.text, v.Clean :=
      List.forall_mem_map.mpr fun _ _ => Value.clean_text
    refine (Value.clean_kept.makeDict hnames hvalues).bind fun supplied hsupplied => ?_
    exact Format.fill_inert htext (Format.supplyOf_clean hsupplied)

end Template

end Stencil
