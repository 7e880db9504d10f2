import Stencil.Proofs.Pairing

/-!
# Translatable blocks as they are written

A translatable block is written as a context, declarations of variables, the pieces of its
body, and a second body for several things. What is read from it is one statement, or two if
the block counts by a call, which is made beforehand. Beside it stands what the same body is
without the block: its text, and an output for each variable that it mentions, of the
declared expression or of the name.

An output of a name is read as the name, unless the name is one of the few words that an
expression reads in another way. The body of a block reads every one of them as a name.

## Main definitions

* `Written`: A translatable block as it is written.
* `Written.statements`: What is read from it.
* `Written.plain`: A body of it without the block.
* `Written.WellFormed`: What every block meets that can be read.
* `Expr.standIn`: What a block holds for the first declared expression.

## Theorems

* `outputOf_name`: What an output of a name is read as.
* `Parser.transBlock_written`: Every block that is read was written in this way.
* `Written.tag_of_cons`: What a tag declares.
* `Written.WellFormed.nodup_names`: The variables of a block are distinct.
* `Written.WellFormed.mem_names_of_counted`: What it counts by is one of them.
-/

namespace Stencil

namespace Template

/-- A translatable block as it is written. -/
structure Written where
  context : Option String
  declared : List (String × Expr)
  singular : List Piece
  plural : Option (List Piece)
  counted : Option String
  trimmed : Bool

/-- What an output of a name is read as. -/
def outputOf (n : String) : Except Nat Expr :=
  ((Parser.tupleOf [] false Parser.expression).run ⟨[⟨.name n, 1⟩, ⟨.printEnd, 1⟩], 1⟩).map (·.1)

namespace Written

variable (w : Written)

/-- What the tag declares. -/
def tag : Parser.Declared := w.declared.foldl (fun d x => d.add x.1 x.2) {}

/-- The variables that the bodies mention. -/
def mentions : List String :=
  w.singular.filterMap Piece.mention? ++ (w.plural.getD []).filterMap Piece.mention?

/-- The variables that are mentioned and not declared, each once. -/
def free : List String := (Parser.distinct w.mentions).filter fun n => !w.tag.names.contains n

/-- What a block with two bodies counts by: the variable that stands between them, else the
    first one that is declared, else the first one that is mentioned. -/
def count : Option Expr :=
  (w.counted.bind fun n => (w.tag.names.zip w.tag.values).lookup n).or
    (w.tag.first.or ((w.singular.findSome? Piece.mention?).map .name))

/-- The block. -/
def block : TransBlock where
  context := w.context
  names := w.tag.names ++ w.free
  values := w.tag.values ++ w.free.map .name
  singular := w.singular
  plural := w.plural
  count := if w.plural.isSome then w.count else none
  trimmed := w.trimmed

/-- What is read from the block. -/
def statements (line : Nat) : List Stmt :=
  (w.tag.call.map fun e => Stmt.set (.name Parser.countName) line e).toList ++ [.trans w.block]

/-- The variable that the block counts by. -/
def countedName : Option String :=
  w.counted.or ((w.declared.head?.map (·.1)).or (w.singular.findSome? Piece.mention?))

/-- The expression that a variable stands for. -/
def source (n : String) : Expr := (w.declared.lookup n).getD (.name n)

/-- The names that matter once the first declared expression is evaluated: those of the other
    declared expressions, and what is mentioned and not declared. -/
def kept : List String := namesOfAll (w.declared.tail.map (·.2)) ++ w.free

/-- What a piece is without the block: its text, or an output of the declared expression or of
    the name. -/
def plainPiece : Piece → Except Nat Stmt
  | .text s => .ok (.text s)
  | .mention n =>
    match w.declared.lookup n with
    | some e => .ok (.print e)
    | none => (outputOf n).map .print

/-- A body without the block. -/
def plain : List Piece → Except Nat (List Stmt)
  | [] => .ok []
  | p :: ps => do return (← w.plainPiece p) :: (← plain ps)

/-- No variable is declared twice, mappings are written in pairs, a variable that the block counts
    by is declared, a block with two bodies counts by something, and what is mentioned is a name. -/
structure WellFormed : Prop where
  distinct : (w.declared.map (·.1)).Nodup
  paired : ∀ d ∈ w.declared, d.2.Paired
  counted : ∀ n, w.counted = some n → n ∈ w.declared.map (·.1)
  counts : w.plural.isSome → w.count.isSome
  named : ∀ n ∈ w.mentions, Text.isName n.toList = true

end Written

/-! ## Names that are mentioned -/

/-- A name is told apart from what stands around it in a place of a message. -/
theorem bracketless_of_isName {n : String} (h : Text.isName n.toList = true) :
    '(' ∉ n.toList ∧ ')' ∉ n.toList := by
  have hparts : ∀ c ∈ n.toList, Text.isNamePart c = true := by
    generalize n.toList = s at h
    intro c hc
    cases s with
    | nil => cases hc
    | cons d s =>
        rw [Text.isName, Bool.and_eq_true, Text.isNameStart, Bool.and_eq_true] at h
        rcases List.mem_cons.mp hc with rfl | hc
        · exact h.1.1
        · exact List.all_eq_true.mp h.2 c hc
  exact ⟨fun hc => absurd (hparts _ hc) (by decide +kernel),
    fun hc => absurd (hparts _ hc) (by decide +kernel)⟩

namespace Parser

theorem nodup_concat {ns : List String} {n : String} (h : ns.Nodup) (hn : n ∉ ns) :
    (ns ++ [n]).Nodup :=
  List.nodup_append.mpr ⟨h, by simp, fun _ ha _ hb hab => hn (List.mem_singleton.mp hb ▸ hab ▸ ha)⟩

/-- Each name is kept once. -/
theorem distinct_spec (names : List String) :
    (distinct names).Nodup ∧ ∀ n, n ∈ distinct names ↔ n ∈ names := by
  suffices ∀ (names seen : List String), seen.Nodup →
      (names.foldl (fun seen n => if seen.contains n then seen else seen ++ [n]) seen).Nodup ∧
      ∀ n, n ∈ names.foldl (fun seen n => if seen.contains n then seen else seen ++ [n]) seen ↔
        n ∈ seen ∨ n ∈ names by
    obtain ⟨hnodup, hmem⟩ := this names [] List.nodup_nil
    exact ⟨hnodup, fun n => (hmem n).trans (by simp)⟩
  intro names
  induction names with
  | nil => exact fun seen hseen => ⟨hseen, by simp⟩
  | cons m names ih =>
      intro seen hseen
      rw [List.foldl_cons]
      by_cases hm : m ∈ seen
      · rw [if_pos (by simpa using hm)]
        refine ⟨(ih seen hseen).1, fun n => ((ih seen hseen).2 n).trans ?_⟩
        rw [List.mem_cons]
        exact ⟨fun h => h.imp_right .inr, fun h => h.elim .inl fun h => h.elim (· ▸ .inl hm) .inr⟩
      · rw [if_neg (by simpa using hm)]
        have hnew := ih (seen ++ [m]) (nodup_concat hseen hm)
        refine ⟨hnew.1, fun n => (hnew.2 n).trans ?_⟩
        rw [List.mem_append, List.mem_singleton, List.mem_cons, or_assoc]

end Parser

/-! ## What an output of a name is read as -/

/-- The words that an expression reads in another way than as names. -/
def reservedWords : List String := ["true", "True", "false", "False", "none", "None", "not"]

namespace Parser

/-- Reading an output of a name passes all levels of expressions without finding more. -/
theorem tupleOf_name {n : String} (hn : n ∉ reservedWords) (line line' start : Nat)
    (rest : List Lexeme) :
    (tupleOf [] false expression).run ⟨⟨.name n, line⟩ :: ⟨.printEnd, line'⟩ :: rest, start⟩ =
      .ok (.name n, ⟨⟨.printEnd, line'⟩ :: rest, line⟩) := by
  simp only [reservedWords, List.mem_cons, List.not_mem_nil, or_false, not_or] at hn
  obtain ⟨htrue, hTrue, hfalse, hFalse, hnone, hNone, hnot⟩ := hn
  have hget (c : Cursor) : (get : Parser Cursor).run c = .ok (c, c) := rfl
  have hset (c c' : Cursor) : (set c : Parser Unit).run c' = .ok ((), c) := rfl
  have hpure {α : Type} (a : α) (c : Cursor) : (pure a : Parser α).run c = .ok (a, c) := rfl
  have hbind {α β : Type} (p : Parser α) (f : α → Parser β) (c : Cursor) :
      (p >>= f).run c = (p.run c).bind fun r => (f r.1).run r.2 := rfl
  have hlift {α : Type} (a : Except Nat α) (c : Cursor) :
      (liftM a : Parser α).run c = a.bind fun x => .ok (x, c) := rfl
  -- The steps are run as they stand, not brought into another order first.
  simp [-StateT.run_bind, -StateT.run_pure, -bind_pure_comp, -bind_assoc, -map_bind, hget, hset,
    hpure, hbind, hlift, Except.bind, tupleOf, tupleItems, expression, bound, current,
    expressionAt, choosing, currentLine, disjunction, leftLevel, conjunction, negating, skipIf,
    comparing, sum, joining, product, unary, signed, primary, advance, checkFront, postfixes,
    filters, joined, joinedOperands, comparisons, comparison?, choices, isTupleEnd,
    productOperator?, sumOperator?, Token.isName, Token.isSymbol, htrue, hTrue, hfalse, hFalse,
    hnone, hNone, hnot]

end Parser

/-- An output of a name is read as the name. -/
theorem outputOf_name {n : String} (hn : n ∉ reservedWords) : outputOf n = .ok (.name n) := by
  rw [outputOf, Parser.tupleOf_name hn]
  rfl

/-! ## What a block is read as -/

/-- Tokens whose names are names. -/
def namedTraits : Traits where
  constant _ := True
  filter _ := True
  text _ := True
  mention n := Text.isName n.toList = true

namespace Parser

/-- Declarations are added whatever is said of white space. -/
theorem foldl_add_trimmed (ds : List (String × Expr)) (d : Declared) (trimmed : Option Bool) :
    ds.foldl (fun d x => d.add x.1 x.2) { d with trimmed } =
      { ds.foldl (fun d x => d.add x.1 x.2) d with trimmed } := by
  induction ds generalizing d with
  | nil => rfl
  | cons x ds ih =>
      have hadd : Declared.add { d with trimmed } x.1 x.2 = { d.add x.1 x.2 with trimmed } := by
        unfold Declared.add
        dsimp only
        split
        · rfl
        · split <;> rfl
      rw [List.foldl_cons, hadd, ih, List.foldl_cons]

theorem names_add (d : Declared) (n : String) (e : Expr) : (d.add n e).names = d.names ++ [n] := by
  unfold Declared.add
  split
  · rfl
  · split <;> rfl

theorem names_foldl_add (ds : List (String × Expr)) (d : Declared) :
    (ds.foldl (fun d x => d.add x.1 x.2) d).names = d.names ++ ds.map (·.1) := by
  induction ds generalizing d with
  | nil => exact (List.append_nil _).symm
  | cons x ds ih =>
      rw [List.foldl_cons, ih, names_add, List.map_cons, List.append_assoc, List.singleton_append]

variable {t : Traits}

/-- Declarations that were added to others, none of them twice. -/
def Declared.AddedTo (d d' : Declared) : Prop :=
  ∃ (ds : List (String × Expr)) (trimmed : Option Bool),
    d' = { ds.foldl (fun d x => d.add x.1 x.2) d with trimmed } ∧ d'.names.Nodup ∧
      ∀ x ∈ ds, x.2.Paired

theorem Declared.AddedTo.refl {d : Declared} (hd : d.names.Nodup) : d.AddedTo d :=
  ⟨[], d.trimmed, rfl, hd, nofun⟩

theorem Declared.AddedTo.add {d d' : Declared} {n : String} {e : Expr} (he : e.Paired)
    (h : (d.add n e).AddedTo d') : d.AddedTo d' := by
  obtain ⟨ds, trimmed, rfl, hd, hds⟩ := h
  exact ⟨(n, e) :: ds, trimmed, rfl, hd, List.forall_mem_cons.mpr ⟨he, hds⟩⟩

theorem Declared.AddedTo.withTrimmed {d d' : Declared} {trimmed : Option Bool}
    (h : Declared.AddedTo { d with trimmed } d') : d.AddedTo d' := by
  obtain ⟨ds, trimmed', rfl, hd, hds⟩ := h
  refine ⟨ds, trimmed', ?_, hd, hds⟩
  rw [foldl_add_trimmed]

theorem nodup_names_add {d : Declared} {n : String} (hd : d.names.Nodup) (hn : n ∉ d.names)
    (e : Expr) : (d.add n e).names.Nodup := by
  rw [names_add]
  exact nodup_concat hd hn

/-- The tag of a block declares variables one after the other. -/
theorem declarations_written (fuel : Nat) {d : Declared} (hd : d.names.Nodup) :
    Reads t (declarations fuel d) d.AddedTo := by
  induction fuel generalizing d with
  | zero => exact fail_reads
  | succ fuel ih =>
      have hdone : Reads t (pure d) d.AddedTo := Reads.pure (.refl hd)
      unfold declarations
      refine current_reads.bind fun l _ => Reads.either hdone ?_
      extract_lets afterComma
      refine Reads.maybe (expect_passes _) ?_
      refine (skipIf_passes _).bind fun _ _ => Reads.either hdone ?_
      refine currentLine_passes.bind fun _ _ => expectName_reads.bind fun name _ => ?_
      extract_lets afterName
      by_cases hmem : d.names.contains name = true
      · -- A variable that is declared already is refused.
        rw [if_pos hmem]
        exact Reads.failAt.bind (P := fun _ => False) fun _ h => h.elim
      · rw [if_neg hmem]
        have hadd (e : Expr) := ih (nodup_names_add hd (fun h => hmem (by simpa using h)) e)
        refine (skipIf_passes _).bind fun _ _ => Reads.either ?_ (Reads.either ?_ ?_)
        · exact (expression_reads paired_builds).bind fun e he =>
          (hadd e).mono fun _ h => h.add he
        · exact (ih (d := { d with trimmed := some (name == "trimmed") }) hd).mono fun _ h =>
            h.withTrimmed
        · exact (hadd _).mono fun _ h => h.add (e := .name name) trivial

/-- What is named between two bodies is the expression of a declared variable. -/
theorem pluralPart_written (d : Declared) :
    Reads namedTraits (pluralPart d) fun r => (∃ counted : Option String,
      r.1 = counted.bind (fun n => (d.names.zip d.values).lookup n) ∧
        ∀ n, counted = some n → n ∈ d.names) ∧ ∀ p ∈ r.2, p.Has namedTraits := by
  unfold pluralPart
  refine advance_passes.bind fun _ _ => current_reads.bind fun l _ => ?_
  extract_lets afterCount
  -- What comes after the counted name is read in the same way whether there is a name or not.
  have hafter (counted : Option String) (hcounted : ∀ n, counted = some n → n ∈ d.names) :
      Reads namedTraits (afterCount (counted.bind fun n => (d.names.zip d.values).lookup n))
        fun r => (∃ counted : Option String,
          r.1 = counted.bind (fun n => (d.names.zip d.values).lookup n) ∧
            ∀ n, counted = some n → n ∈ d.names) ∧ ∀ p ∈ r.2, p.Has namedTraits :=
    (expect_passes _).bind fun _ _ => bound_passes.bind fun n _ =>
      (pieces_reads false n).bind fun ps hps => Reads.pure ⟨⟨counted, rfl, hcounted⟩, hps⟩
  refine Reads.either (hafter none nofun) ?_
  refine currentLine_passes.bind fun _ _ => expectName_reads.bind fun name _ => ?_
  split
  · rename_i e he
    have hmem : name ∈ d.names := (List.of_mem_zip (mem_of_lookup he)).1
    have hnamed := hafter (some name) fun n hn => Option.some.inj hn ▸ hmem
    rw [Option.bind_some, he] at hnamed
    exact hnamed.next
  · exact Reads.failAt

theorem mention_named {ps : List Piece} (h : ∀ p ∈ ps, p.Has namedTraits) {n : String}
    (hn : n ∈ ps.filterMap Piece.mention?) : Text.isName n.toList = true := by
  obtain ⟨p, hp, hmention⟩ := List.mem_filterMap.mp hn
  cases p with
  | text s => cases hmention
  | mention n' =>
      cases hmention
      exact h _ hp

/-- Every block that is read was written in one way or other. -/
theorem transBlock_written (line : Nat) : Reads namedTraits (transBlock line) fun ss =>
    ∃ w : Written, w.WellFormed ∧ ss = w.statements line := by
  unfold transBlock
  refine context?_passes.bind fun context _ => bound_passes.bind fun n _ => ?_
  refine (declarations_written n (d := {}) List.nodup_nil).bind ?_
  rintro d ⟨ds, trimmed, hd, hnodup, hpaired⟩
  refine (expect_passes _).bind fun _ _ => bound_passes.bind fun m _ => ?_
  refine (pieces_reads true m).bind fun singular hsingular => ?_
  extract_lets first afterPlural
  have hnames : d.names = ds.map (·.1) := by
    rw [hd]
    exact (names_foldl_add ds {}).trans (List.nil_append _)
  -- With a plural or without one, the block is put together at the end, and `w` is how it was
  -- written.
  have hafter (plural : Option (List Piece)) (counted : Option String)
      (hplural : ∀ ps, plural = some ps → ∀ p ∈ ps, p.Has namedTraits)
      (hcounted : ∀ n, counted = some n → n ∈ d.names)
      (hcount : plural.isSome →
        ((counted.bind fun n => (d.names.zip d.values).lookup n).or first).isSome) :
      Reads namedTraits (afterPlural (plural, if plural.isSome then
        (counted.bind fun n => (d.names.zip d.values).lookup n).or first else none)) fun ss =>
        ∃ w : Written, w.WellFormed ∧ ss = w.statements line := by
    let w : Written := ⟨context, ds, singular, plural, counted, trimmed.getD false⟩
    have hmentions : ∀ n ∈ w.mentions, Text.isName n.toList = true := by
      intro n hn
      rcases List.mem_append.mp hn with hn | hn
      · exact mention_named hsingular hn
      · cases hps : plural with
        | none =>
            rw [show w.plural = none from hps] at hn
            cases hn
        | some ps =>
            rw [show w.plural = some ps from hps] at hn
            exact mention_named (hplural ps hps) hn
    refine Reads.pure
      ⟨w, ⟨hnames ▸ hnodup, hpaired, fun n hn => hnames ▸ hcounted n hn, ?_, hmentions⟩, ?_⟩
    · subst hd
      exact hcount
    · subst hd
      rfl
  refine current_reads.bind fun l _ => Reads.either ?_ ?_
  · refine (pluralPart_written d).bind ?_
    rintro ⟨named, ps⟩ ⟨⟨counted, rfl, hcounted⟩, hps⟩
    simp only
    split
    · rename_i e he
      have hreads := hafter (some ps) counted (fun _ h => Option.some.inj h ▸ hps) hcounted
        fun _ => Option.isSome_iff_exists.mpr ⟨e, he⟩
      rw [Option.isSome_some, if_pos rfl, he] at hreads
      exact advance_passes.bind fun _ _ => hreads.next
    · exact advance_passes.bind fun _ _ => Reads.failAt.bind (P := fun _ => False) fun _ h => h.elim
  · exact advance_passes.bind fun _ _ => (hafter none none nofun nofun nofun).next

end Parser

/-! ## What a tag declares -/

/-- What a block holds in place of the first declared expression: a call is made beforehand. -/
def Expr.standIn : Expr → Expr
  | .call .. => .name Parser.countName
  | e => e

/-- The first declared expression, if it is a call. -/
def Expr.heldBack? : Expr → Option Expr
  | .call f args keywords values => some (.call f args keywords values)
  | _ => none

theorem Expr.standIn_of_none {e : Expr} (h : e.heldBack? = none) : e.standIn = e := by
  cases e <;> first | rfl | cases h

theorem Expr.heldBack?_eq_some {e call : Expr} (h : e.heldBack? = some call) :
    call = e ∧ e.standIn = .name Parser.countName := by
  cases e <;> cases h
  exact ⟨rfl, rfl⟩

namespace Written

variable {w : Written} {n : String} {e : Expr} {ds : List (String × Expr)}

theorem foldl_add_of_first (ds : List (String × Expr)) {d : Parser.Declared}
    (h : d.first.isSome) :
    ds.foldl (fun d x => d.add x.1 x.2) d =
      { d with names := d.names ++ ds.map (·.1), values := d.values ++ ds.map (·.2) } := by
  induction ds generalizing d with
  | nil => simp
  | cons x ds ih =>
      obtain ⟨first, hfirst⟩ := Option.isSome_iff_exists.mp h
      have hadd : d.add x.1 x.2 =
          { d with names := d.names ++ [x.1], values := d.values ++ [x.2] } := by
        simp only [Parser.Declared.add, hfirst]
      rw [List.foldl_cons, hadd]
      have hrest := ih (d := { d with names := d.names ++ [x.1], values := d.values ++ [x.2] }) h
      simpa only [List.map_cons, List.append_assoc, List.singleton_append] using hrest

theorem tag_of_nil (h : w.declared = []) : w.tag = {} := by
  rw [tag, h, List.foldl_nil]

theorem tag_of_cons (h : w.declared = (n, e) :: ds) :
    w.tag = ⟨n :: ds.map (·.1), e.standIn :: ds.map (·.2), none, some e.standIn, e.heldBack?⟩ := by
  have hadd : Parser.Declared.add {} n e =
      ⟨[n], [e.standIn], none, some e.standIn, e.heldBack?⟩ := by
    cases e <;> rfl
  rw [tag, h, List.foldl_cons, hadd, foldl_add_of_first ds rfl]
  rfl

theorem names_tag (w : Written) : w.tag.names = w.declared.map (·.1) := by
  cases h : w.declared with
  | nil => rw [tag_of_nil h]; rfl
  | cons x ds => rw [tag_of_cons h]; rfl

theorem mem_free : n ∈ w.free ↔ n ∈ w.mentions ∧ n ∉ w.declared.map (·.1) := by
  rw [free, List.mem_filter, (Parser.distinct_spec w.mentions).2, names_tag]
  simp

/-- A block has the variables that are declared and those that are only mentioned, each once. -/
theorem WellFormed.nodup_names (hw : w.WellFormed) : w.block.names.Nodup := by
  refine List.nodup_append.mpr ⟨names_tag w ▸ hw.distinct, ?_, fun m hm k hk hmk => ?_⟩
  · exact (Parser.distinct_spec w.mentions).1.filter _
  · exact (mem_free.mp hk).2 (hmk ▸ names_tag w ▸ hm)

theorem mem_names_of_mentions (h : n ∈ w.mentions) : n ∈ w.block.names := by
  by_cases hn : n ∈ w.declared.map (·.1)
  · exact List.mem_append_left _ (names_tag w ▸ hn)
  · exact List.mem_append_right _ (mem_free.mpr ⟨h, hn⟩)

/-- A variable of a block is declared as an expression, or it is only mentioned. -/
theorem lookup_cases (h : n ∈ w.block.names) :
    (∃ e, w.declared.lookup n = some e ∧ (n, e) ∈ w.declared) ∨
      (w.declared.lookup n = none ∧ n ∈ w.free) := by
  cases he : w.declared.lookup n with
  | some e => exact .inl ⟨e, rfl, Parser.mem_of_lookup he⟩
  | none =>
      refine .inr ⟨rfl, (List.mem_append.mp h).resolve_left fun hn => ?_⟩
      rw [names_tag] at hn
      obtain ⟨d, hd, rfl⟩ := List.mem_map.mp hn
      simpa using List.lookup_eq_none_iff.mp he d hd

/-- What a block counts by is one of its variables. -/
theorem WellFormed.mem_names_of_counted (hw : w.WellFormed) (h : w.countedName = some n) :
    n ∈ w.block.names := by
  unfold countedName at h
  cases hcounted : w.counted with
  | some m =>
      rw [hcounted, Option.some_or] at h
      cases h
      exact List.mem_append_left _ (names_tag w ▸ hw.counted n hcounted)
  | none =>
      rw [hcounted, Option.none_or] at h
      cases hd : w.declared with
      | cons d ds =>
          rw [hd, List.head?_cons, Option.map_some, Option.some_or] at h
          cases h
          refine List.mem_append_left _ (names_tag w ▸ ?_)
          rw [hd]
          exact List.mem_cons_self ..
      | nil =>
          rw [hd, List.head?_nil, Option.map_none, Option.none_or] at h
          obtain ⟨q, hq, hmention⟩ := List.exists_of_findSome?_eq_some h
          exact mem_names_of_mentions
            (List.mem_append_left _ (List.mem_filterMap.mpr ⟨q, hq, hmention⟩))

/-- A block with two bodies counts by a variable. -/
theorem WellFormed.exists_countedName (hw : w.WellFormed) (h : w.plural.isSome) :
    ∃ n, w.countedName = some n := by
  have hcount := hw.counts h
  unfold count at hcount
  unfold countedName
  cases hcounted : w.counted with
  | some n => exact ⟨n, rfl⟩
  | none =>
      cases hd : w.declared with
      | cons d ds => exact ⟨d.1, rfl⟩
      | nil =>
          rw [hcounted, tag_of_nil hd, Option.bind_none, Option.none_or, Option.none_or,
            Option.isSome_map] at hcount
          exact Option.isSome_iff_exists.mp hcount

end Written

end Template

end Stencil
