import Stencil.Engine
import Stencil.Proofs.Agreeing
import Stencil.Proofs.Executing
import Stencil.Proofs.Filling
import Stencil.Proofs.Tables
import Stencil.Proofs.Written

/-!
# Translatable blocks without translations

A translatable block doubles the percent signs of its text, puts places for its variables
into it, asks the catalogs for the result, and fills the places. Without catalogs the text
comes back as it was asked for, and all of this cancels out: what is left is the text of the
body with the values of the variables in it, which is what the body gives without the block.

This is put together in three stages. The markup of a block is what its pieces show. The
expressions of a block are compiled in another way than those of outputs, and come to the
same values. Last, a block may be two statements, of which the first makes a call beforehand
and binds a name of its own, so the second sees a scope that differs in that name.

## Main definitions

* `TransBlock.part`: The body that is meant for a count.
* `Expr.FoldsTo`: An expression that is compiled inside a block and has a value there.
* `rendering`: Statements compiled and run where they stand.
* `Written.Stands`: A variable of a block with its value.

## Theorems

* `evaluateBlock_untranslated`: What the markup of a block is without catalogs.
* `Written.block_shows`: What a compiled block gives.
* `plain_shows`: What its body gives without the block.
* `Written.rendering_shows`: What a block gives in its place.
* `Engine.untranslated`: A block is its own text, for every engine without catalogs.
-/

namespace Stencil

namespace Template

/-! ## Mappings of names -/

/-- An entry with a new key is added at the end. -/
theorem putEntry_of_new {k v : Value} {es : List (Value × Value)}
    (h : ∀ e ∈ es, Value.isTrue (Value.equal k e.1) = false) :
    Value.putEntry k v es = es ++ [(k, v)] := by
  induction es with
  | nil => rfl
  | cons e es ih =>
      rw [Value.putEntry, h e (List.mem_cons_self ..), if_neg Bool.false_ne_true,
        ih fun e he => h e (List.mem_cons_of_mem _ he), List.cons_append]

theorem foldl_putEntry {names : List String} (done : List String) (value : String → Value)
    (h : (done ++ names).Nodup) :
    ((names.map Value.text).zip (names.map value)).foldl
        (fun es e => Value.putEntry e.1 e.2 es) (done.map fun n => (.text n, value n)) =
      (done ++ names).map fun n => (.text n, value n) := by
  induction names generalizing done with
  | nil => rw [List.append_nil]; rfl
  | cons n names ih =>
      have hnew : ∀ e ∈ done.map (fun n => (Value.text n, value n)),
          Value.isTrue (Value.equal (.text n) e.1) = false := by
        intro e he
        obtain ⟨m, hm, rfl⟩ := List.mem_map.mp he
        rw [Value.isTrue_equal_text, beq_eq_false_iff_ne]
        exact fun hmn => (List.nodup_append.mp h).2.2 m hm n (List.mem_cons_self ..) hmn.symm
      have hsingle : done.map (fun n => (Value.text n, value n)) ++ [(.text n, value n)] =
          (done ++ [n]).map fun n => (.text n, value n) := by
        rw [List.map_append]
        rfl
      rw [List.map_cons, List.map_cons, List.zip_cons_cons, List.foldl_cons, putEntry_of_new hnew,
        hsingle, ih (done ++ [n]) (by rwa [List.append_assoc]), List.append_assoc,
        List.singleton_append]

/-- Distinct names with their values make a mapping in which each of them is found. -/
theorem makeDict_names {names : List String} (h : names.Nodup) (value : String → Value) :
    ∃ entries, makeDict (names.map .text) (names.map value) = .ok (.dict entries) ∧
      ∀ n ∈ names, Value.findEntry (.text n) entries = some (value n) := by
  refine ⟨names.map fun n => (.text n, value n), ?_, fun n hn => ?_⟩
  · have hfault : (names.map Value.text).findSome? Value.keyFault? = none := by
      simp [List.findSome?_eq_none_iff, Value.keyFault?]
    rw [makeDict, hfault]
    exact congrArg (fun es => Except.ok (Value.dict es)) (foldl_putEntry [] value h)
  · have hkeys : Bindings.keys (names.map fun n => (n, value n)) = names := by
      rw [Bindings.keys, List.map_map]
      exact List.map_id' names
    have hfind := Value.findEntry_toValue n (names.map fun n => (n, value n))
    rw [List.map_map] at hfind
    exact hfind.trans (Bindings.get?_of_mem (hkeys.symm ▸ h) (List.mem_map_of_mem hn))

/-! ## The markup of a block -/

/-- The function of the catalogs that a block asks for its message. -/
def TransBlock.lookup (b : TransBlock) : Lookup :=
  match b.context, b.count with
  | none, none => .gettext
  | none, some _ => .ngettext
  | some _, none => .pgettext
  | some _, some _ => .npgettext

/-- The body of a block that is meant for a count. -/
def TransBlock.part (b : TransBlock) (v : Value) : Except Fault (List Piece) :=
  match b.plural with
  | none => .ok b.singular
  | some several => (Value.equal v (.int 1)).map fun isOne => if isOne then b.singular else several

/-- The call that is made beforehand hides no such function. -/
theorem TransBlock.functionName_ne (b : TransBlock) : b.functionName ≠ Parser.countName := by
  unfold functionName
  cases b.count.isSome <;> cases b.context.isSome <;> decide +kernel

/-- Without catalogs a message that counts is its own form for one thing or for several. -/
theorem lookUpCounted_nil (key one several n : Value) :
    lookUpCounted [] key one several n =
      (Value.equal n (.int 1)).bind fun isOne => .ok (if isOne then one else several) := by
  show (Value.equal n (.int 1) >>= fun isOne => if isOne then .ok one else .ok several) = _
  cases Value.equal n (.int 1) with
  | error f => rfl
  | ok isOne => cases isOne <;> rfl

theorem translate_counted (one several n : Value) :
    translate [] .ngettext [one, several, n] [] =
      (Value.equal n (.int 1)).bind fun isOne => .ok (if isOne then one else several) :=
  lookUpCounted_nil one one several n

theorem translate_countedIn (c one several n : Value) :
    translate [] .npgettext [c, one, several, n] [] =
      (Value.equal n (.int 1)).bind fun isOne => .ok (if isOne then one else several) :=
  lookUpCounted_nil one one several n

section

variable {sc : Scope} {b : TransBlock} {v : Value} {value : String → Value}

/-- Without catalogs a block is told the message of the body that is meant. -/
theorem message_untranslated (hnone : sc.translations = [])
    (hfind : sc.find b.functionName = some (.function b.lookup))
    (hcount : b.count.isSome = b.plural.isSome)
    (hv : ∀ c, b.count = some c → evaluate sc c = .ok v) :
    (do (← applyCall sc (sc.value b.functionName) (← blockArguments sc b) []).str) =
      (b.part v).map b.message := by
  have hcall (args : List Value) : applyCall sc (sc.value b.functionName) args [] =
      translate [] b.lookup args [] := by
    rw [Scope.value, hfind, Option.getD_some, ← hnone]
    unfold TransBlock.lookup
    split <;> rfl
  obtain ⟨context, names, values, singular, plural, count, trimmed⟩ := b
  simp only [hcall]
  cases count with
  | none => cases plural with
    | some several => cases hcount
    | none => cases context <;> rfl
  | some c => cases plural with
    | none => cases hcount
    | some several =>
        simp only [blockArguments, hv c rfl, TransBlock.part]
        cases context <;>
          · simp only [TransBlock.lookup, Option.map_none, Option.map_some, Option.toList_none,
              Option.toList_some, List.nil_append, List.singleton_append, bind, Except.bind, pure,
              Except.pure, translate_counted, translate_countedIn]
            cases Value.equal v (.int 1) with
            | error f => rfl
            | ok isOne => cases isOne <;> rfl

/-- Text without mentions shows itself. -/
theorem showPieces_of_texts (value : String → Value) {ps : List Piece}
    (h : ∀ n, .mention n ∉ ps) :
    showPieces value ps = .ok (String.join (ps.map Piece.plainText)) := by
  induction ps with
  | nil => rfl
  | cons p ps ih =>
      rw [showPieces, ih fun n hn => h n (List.mem_cons_of_mem _ hn), List.map_cons,
        String.join_cons]
      cases p with
      | text s => rfl
      | mention n => exact absurd (List.mem_cons_self ..) (h n)

/-- A block whose message can be filled: its names are distinct, it mentions nothing else, and it
    mentions something if it has any. -/
structure TransBlock.Fillable (b : TransBlock) : Prop where
  untrimmed : b.trimmed = false
  nodup : b.names.Nodup
  mentions : ∀ n ∈ b.mentions, Bracketless n ∧ n ∈ b.names
  used : b.names = [] ∨ b.mentions ≠ []

/-- The doubling of percent signs, the places and what they are filled with cancel out. -/
theorem TransBlock.Fillable.message (h : b.Fillable)
    (hvalues : evaluateAll sc b.values = .ok (b.names.map value)) {ps : List Piece}
    (hps : ∀ n, .mention n ∈ ps → n ∈ b.mentions) :
    (if b.names.isEmpty then .ok (b.message ps)
      else do
        let values ← evaluateAll sc b.values
        let supplied ← makeDict (b.names.map Value.text) values
        Format.fill (b.message ps) (Format.supplyOf true supplied)) = showPieces value ps := by
  rw [TransBlock.message, h.untrimmed]
  by_cases hempty : b.mentions = []
  · -- Nothing is mentioned, so the message is used as it stands.
    have hnames : b.names = [] := h.used.resolve_right fun hne => hne hempty
    have htexts : ∀ n, .mention n ∉ ps := by
      intro n hn
      have hmem := hps n hn
      rw [hempty] at hmem
      cases hmem
    simp only [hnames, hempty, List.isEmpty_nil, if_true, Bool.false_eq_true, if_false]
    exact (showPieces_of_texts value htexts).symm
  · have hnames : b.names.isEmpty = false := by
      obtain ⟨m, hm⟩ := List.exists_mem_of_ne_nil _ hempty
      exact List.isEmpty_eq_false_iff_exists_mem.mpr ⟨m, (h.mentions m hm).2⟩
    have hmentions : b.mentions.isEmpty = false := List.isEmpty_eq_false_iff.mpr hempty
    obtain ⟨entries, hdict, hentries⟩ := makeDict_names h.nodup value
    simp only [hnames, hmentions, Bool.false_eq_true, if_false, hvalues, bind, Except.bind, hdict]
    exact fill_pieces fun n hn =>
      ⟨(h.mentions n (hps n hn)).1, hentries n (h.mentions n (hps n hn)).2⟩

/-- Without catalogs a block gives what the pieces show of the body that is meant. -/
theorem evaluateBlock_untranslated (h : b.Fillable) (hnone : sc.translations = [])
    (hfind : sc.find b.functionName = some (.function b.lookup))
    (hcount : b.count.isSome = b.plural.isSome)
    (hv : ∀ c, b.count = some c → evaluate sc c = .ok v)
    (hvalues : evaluateAll sc b.values = .ok (b.names.map value)) :
    evaluateBlock sc b = (b.part v).bind (showPieces value) := by
  have hcall := message_untranslated hnone hfind hcount hv
  have hmentioned {ps : List Piece} {n : String} (hn : .mention n ∈ ps) :
      n ∈ ps.filterMap Piece.mention? := List.mem_filterMap.mpr ⟨_, hn, rfl⟩
  -- Whichever body is meant, the block mentions what is mentioned in it.
  have hpart : ∀ ps, b.part v = .ok ps → ∀ n, .mention n ∈ ps → n ∈ b.mentions := by
    intro ps hps n hn
    unfold TransBlock.part at hps
    cases hplural : b.plural with
    | none =>
        rw [hplural] at hps
        cases hps
        exact List.mem_append_left _ (hmentioned hn)
    | some several =>
        rw [hplural] at hps
        cases heq : Value.equal v (.int 1) with
        | error f =>
            rw [heq] at hps
            cases hps
        | ok isOne =>
            rw [heq] at hps
            cases hps
            rw [TransBlock.mentions, hplural, Option.getD_some]
            cases isOne with
            | true => exact List.mem_append_left _ (hmentioned hn)
            | false => exact List.mem_append_right _ (hmentioned hn)
  have hthen : evaluateBlock sc b =
      (do (← applyCall sc (sc.value b.functionName) (← blockArguments sc b) []).str) >>=
        (fun text => if b.names.isEmpty then .ok text
          else do
            let values ← evaluateAll sc b.values
            let supplied ← makeDict (b.names.map Value.text) values
            Format.fill text (Format.supplyOf true supplied)) := by
    simp only [evaluateBlock, bind_assoc]
    rfl
  rw [hthen, hcall]
  cases hps : b.part v with
  | error f => rfl
  | ok ps => exact h.message hvalues (hpart ps hps)

end

/-! ## Compiling a block -/

section

variable {s : Settings} {soft : Bool} {sc sc' : Scope}

/-- An expression that is compiled inside a block and has a value there. -/
def Expr.FoldsTo (s : Settings) (soft : Bool) (sc : Scope) (e : Expr) (v : Value) : Prop :=
  ∃ f e', fold s e = .ok f ∧ check s soft f = .ok e' ∧ evaluate sc e' = .ok v

theorem Expr.FoldsTo.name (n : String) : (Expr.name n).FoldsTo s soft sc (sc.value n) :=
  ⟨.name n, .name n, rfl, rfl, rfl⟩

theorem foldsTo_all {es : List Expr} {vs : List Value}
    (h : List.Forall₂ (Expr.FoldsTo s soft sc) es vs) :
    ∃ fs es', folds s es = .ok fs ∧ checks s soft fs = .ok es' ∧ evaluateAll sc es' = .ok vs := by
  induction h with
  | nil => exact ⟨[], [], rfl, rfl, rfl⟩
  | cons he _ ih =>
      obtain ⟨f, e', hf, he', hv⟩ := he
      obtain ⟨fs, es', hfs, hes', hvs⟩ := ih
      refine ⟨f :: fs, e' :: es', ?_, ?_, ?_⟩
      · rw [folds, hf, hfs]
        rfl
      · rw [checks, he', hes']
        rfl
      · rw [evaluateAll, hv, hvs]
        rfl

/-- The expression that belongs to a name has the value of the name. -/
theorem foldsTo_lookup {value : String → Value} {names : List String} {es : List Expr} {n : String}
    (h : List.Forall₂ (Expr.FoldsTo s soft sc) es (names.map value)) (hn : n ∈ names) :
    ∃ e, (names.zip es).lookup n = some e ∧ e.FoldsTo s soft sc (value n) := by
  induction names generalizing es with
  | nil => cases hn
  | cons m names ih =>
      cases h with
      | @cons e _ es _ he hes =>
          rw [List.zip_cons_cons, List.lookup_cons]
          by_cases hnm : n = m
          · subst hnm
            rw [beq_self_eq_true]
            exact ⟨e, rfl, he⟩
          · rw [beq_eq_false_iff_ne.mpr hnm]
            exact ih hes ((List.mem_cons.mp hn).resolve_left hnm)

/-- A block is compiled with its expressions, and is the same block otherwise. -/
theorem prepareBlock_foldsTo {b : TransBlock} {vs : List Value} {v : Value}
    (hvalues : List.Forall₂ (Expr.FoldsTo s soft sc) b.values vs)
    (hcount : ∀ c, b.count = some c → c.FoldsTo s soft sc v) :
    ∃ count values, prepareBlock s soft b = .ok { b with count, values } ∧
      evaluateAll sc values = .ok vs ∧ count.isSome = b.count.isSome ∧
      ∀ c, count = some c → evaluate sc c = .ok v := by
  obtain ⟨fs, values, hfs, hvalues', hvs⟩ := foldsTo_all hvalues
  cases hb : b.count with
  | none =>
      refine ⟨none, values, ?_, hvs, rfl, nofun⟩
      simp only [prepareBlock, hb, hfs, hvalues', Option.mapM_none, pure, Except.pure, bind,
        Except.bind]
  | some c =>
      obtain ⟨f, c', hf, hc', hv⟩ := hcount c hb
      have hfold : (some c).mapM (fold s) = .ok (some f) := by
        rw [Option.mapM_some, hf]
        rfl
      have hcheck : (some f).mapM (check s soft) = .ok (some c') := by
        rw [Option.mapM_some, hc']
        rfl
      refine ⟨some c', values, ?_, hvs, rfl, fun _ h => Option.some.inj h ▸ hv⟩
      simp only [prepareBlock, hb, hfs, hvalues', hfold, hcheck, pure, Except.pure, bind,
        Except.bind]

end

/-! ## What stands in the place of a block -/

section

variable {σ : Type} {r : Renderer (Stateful σ)} {nested : Program → Bindings → Stateful σ String}
  {p : Place} {env : Env} {s : Settings} {soft : Bool} {st : σ}

/-- Statements compiled and run where they stand. -/
def rendering (r : Renderer (Stateful σ)) (nested : Program → Bindings → Stateful σ String)
    (p : Place) (env : Env) (s : Settings) (soft : Bool) (ss : List Stmt) :
    Stateful σ String := do
  let ss ← lift (compileAll s soft ss)
  return (← executeAll r nested p env ss).2

theorem rendering_perform {ss ss' : List Stmt} {x : Except Fault (Env × String)}
    (hcompile : compileAll s soft ss = .ok ss')
    (hexecute : (executeAll r nested p env ss').perform st = (x, st)) :
    (rendering r nested p env s soft ss).perform st = (x.map (·.2), st) := by
  rw [rendering, hcompile]
  change (executeAll r nested p env ss' >>= fun q => pure q.2).perform st = _
  rw [Stateful.perform_bind, hexecute]
  cases x <;> rfl

theorem map_snd_map {α : Type} (env : Env) (x : Except Fault α) :
    (x.map fun t => (env, t)).map (·.2) = x := by
  cases x <;> rfl

/-- A variable of a block has a value: the one that its declared expression comes to, or the one
    that it is bound to. An output of it can be read. -/
def Written.Stands (w : Written) (s : Settings) (soft : Bool) (sc : Scope)
    (value : String → Value) (n : String) : Prop :=
  match w.declared.lookup n with
  | some e => e.Evaluates s soft sc (value n)
  | none => n ∉ reservedWords ∧ value n = sc.value n

variable {w : Written} {value : String → Value}

/-- In the place of a piece stands a statement that shows it. -/
theorem plainPiece_shows (nested : Program → Bindings → Stateful σ String) (st : σ)
    (hstrict : r.strict = s.strict) {q : Piece}
    (h : ∀ n, q = .mention n → w.Stands s soft (scopeAt r p env) value n) :
    ∃ a a', w.plainPiece q = .ok a ∧ compileOne s soft a = .ok a' ∧
      (execute r nested p env a').perform st = ((q.shown value).map (env, ·), st) := by
  cases q with
  | text x => exact ⟨.text x, .text x, rfl, rfl, rfl⟩
  | mention n =>
      have hstands := h n rfl
      unfold Written.Stands at hstands
      -- The output of an expression with a value shows it, computed or not.
      have houtput {e : Expr} (he : e.Evaluates s soft (scopeAt r p env) (value n)) :
          ∃ a', compileOne s soft (.print e) = .ok a' ∧ (execute r nested p env a').perform st =
            ((value n).escaped.map (env, ·), st) := by
        obtain ⟨a', ha', ⟨x, rfl, hx⟩ | ⟨e', rfl, he'⟩⟩ := he.output hstrict
        · refine ⟨.text x, ha', ?_⟩
          rw [hx]
          rfl
        · refine ⟨.print e', ha', ?_⟩
          rw [perform_print, ← he']
          rfl
      cases hlookup : w.declared.lookup n with
      | some e =>
          rw [hlookup] at hstands
          obtain ⟨a', ha', hperform⟩ := houtput hstands
          refine ⟨.print e, a', ?_, ha', hperform⟩
          rw [Written.plainPiece, hlookup]
      | none =>
          rw [hlookup] at hstands
          obtain ⟨hn, hv⟩ := hstands
          obtain ⟨a', ha', hperform⟩ := houtput (hv ▸ Expr.Evaluates.name n)
          refine ⟨.print (.name n), a', ?_, ha', hperform⟩
          rw [Written.plainPiece, hlookup, outputOf_name hn]
          rfl

/-- In the place of a body stand statements that show it. -/
theorem plain_shows (nested : Program → Bindings → Stateful σ String) (st : σ)
    (hstrict : r.strict = s.strict) {ps : List Piece}
    (h : ∀ n, .mention n ∈ ps → w.Stands s soft (scopeAt r p env) value n) :
    ∃ ss, w.plain ps = .ok ss ∧
      (rendering r nested p env s soft ss).perform st = (showPieces value ps, st) := by
  suffices ∃ ss ss', w.plain ps = .ok ss ∧ compileAll s soft ss = .ok ss' ∧
      (executeAll r nested p env ss').perform st =
        ((showPieces value ps).map (env, ·), st) by
    obtain ⟨ss, ss', hss, hcompile, hexecute⟩ := this
    refine ⟨ss, hss, (rendering_perform hcompile hexecute).trans ?_⟩
    cases showPieces value ps <;> rfl
  induction ps with
  | nil => exact ⟨[], [], rfl, rfl, executeAll_nil⟩
  | cons q ps ih =>
      obtain ⟨a, a', ha, ha', hperform⟩ := plainPiece_shows nested st hstrict
        fun n hn => h n (hn ▸ List.mem_cons_self ..)
      obtain ⟨ss, ss', hss, hss', hrest⟩ := ih fun n hn => h n (List.mem_cons_of_mem _ hn)
      refine ⟨a :: ss, a' :: ss', ?_, ?_, ?_⟩
      · rw [Written.plain, ha, hss]
        rfl
      · rw [compileAll, ha', hss']
        rfl
      · rw [executeAll_cons, hperform, showPieces]
        cases q.shown value with
        | error f => rfl
        | ok t =>
            simp only [Except.map, Except.bind, hrest]
            cases showPieces value ps <;> rfl

/-! ## A block in its place -/

theorem Written.fillable (hw : w.WellFormed) (htrim : w.trimmed = false)
    (hused : w.declared = [] ∨ w.mentions ≠ []) : w.block.Fillable where
  untrimmed := htrim
  nodup := hw.nodup_names
  mentions n hn := ⟨bracketless_of_isName (hw.named n hn), w.mem_names_of_mentions hn⟩
  used := by
    by_cases hmentions : w.mentions = []
    · -- Nothing is declared and nothing mentioned.
      have hnil := hused.resolve_right fun h => h hmentions
      left
      rw [Written.block, Written.free, w.tag_of_nil hnil, hmentions]
      rfl
    · exact .inr hmentions

section

variable {sc sc' : Scope} {n : String}

/-- What the block holds for the first declared expression has its value. -/
def Written.FirstHeld (w : Written) (s : Settings) (soft : Bool) (sc : Scope)
    (value : String → Value) : Prop :=
  ∀ n e ds, w.declared = (n, e) :: ds → e.standIn.FoldsTo s soft sc (value n)

/-- The expressions of a block have the values of its variables. -/
theorem Written.tag_foldsTo (hw : w.WellFormed) (hsc : sc.strict = s.strict) (hag : Scope.AgreeOn w.kept sc sc')
    (hfirst : w.FirstHeld s soft sc' value)
    (hdeclared : ∀ d ∈ w.declared, d.2.Evaluates s soft sc (value d.1)) :
    List.Forall₂ (Expr.FoldsTo s soft sc') w.tag.values (w.tag.names.map value) := by
  cases h : w.declared with
  | nil =>
      rw [w.tag_of_nil h]
      exact .nil
  | cons d ds =>
      have hagree : Scope.AgreeOn (namesOfAll (ds.map (·.2))) sc sc' := by
        have hleft := hag.left
        rwa [h, List.tail_cons] at hleft
      rw [w.tag_of_cons h, List.map_cons]
      refine .cons (hfirst _ _ _ h) ?_
      rw [List.map_map, List.forall₂_map_left_iff, List.forall₂_map_right_iff, List.forall₂_same]
      intro x hx
      have hmem : x ∈ w.declared := h ▸ List.mem_cons_of_mem _ hx
      exact (hdeclared x hmem).folded hsc (hw.paired x hmem)
        (hagree.mem (List.mem_map_of_mem hx))

theorem Written.free_foldsTo (hag : Scope.AgreeOn w.kept sc sc')
    (hfree : ∀ n ∈ w.free, value n = sc.value n) :
    List.Forall₂ (Expr.FoldsTo s soft sc') (w.free.map .name) (w.free.map value) := by
  rw [List.forall₂_map_left_iff, List.forall₂_map_right_iff, List.forall₂_same]
  intro n hn
  rw [hfree n hn, ← hag.right.value hn]
  exact .name n

/-- If every declared expression has a value, there is a value for each variable: that one, or
    what is said of the others. -/
theorem Written.WellFormed.exists_value (hw : w.WellFormed) {P : Expr → Value → Prop}
    (h : ∀ d ∈ w.declared, ∃ v, P d.2 v) (others : String → Value) :
    ∃ value : String → Value, (∀ d ∈ w.declared, P d.2 (value d.1)) ∧
      ∀ n ∈ w.free, value n = others n := by
  classical
  choose f hf using h
  have hkey {d : String × Expr} (hd : d ∈ w.declared) {e : Expr} (he : (d.1, e) ∈ w.declared) :
      d = (d.1, e) := List.inj_on_of_nodup_map hw.distinct hd he rfl
  refine ⟨fun n => if hn : ∃ e, (n, e) ∈ w.declared then f _ hn.choose_spec else others n,
    fun d hd => ?_, fun n hn => ?_⟩
  · have hn : ∃ e, (d.1, e) ∈ w.declared := ⟨d.2, hd⟩
    have hsame := hf _ hn.choose_spec
    rw [← congrArg Prod.snd (hkey hd hn.choose_spec)] at hsame
    simpa only [dif_pos hn] using hsame
  · exact dif_neg fun ⟨e, he⟩ => (Written.mem_free.mp hn).2 (List.mem_map_of_mem he)

/-- What a block counts by has the value of the variable that it counts by. -/
theorem Written.count_foldsTo (hw : w.WellFormed) (hag : Scope.AgreeOn w.kept sc sc')
    (hfirst : w.FirstHeld s soft sc' value)
    (htag : List.Forall₂ (Expr.FoldsTo s soft sc') w.tag.values (w.tag.names.map value))
    (hfree : ∀ n ∈ w.free, value n = sc.value n) {c : Expr} (hc : w.count = some c) :
    ∃ n, w.countedName = some n ∧ c.FoldsTo s soft sc' (value n) := by
  unfold Written.count at hc
  unfold Written.countedName
  cases hcounted : w.counted with
  | some n =>
      -- The variable is declared, so there is an expression in the tag for it.
      obtain ⟨e, he, hfolds⟩ := foldsTo_lookup htag (w.names_tag ▸ hw.counted n hcounted)
      rw [hcounted, Option.bind_some, he, Option.some_or] at hc
      cases hc
      exact ⟨n, rfl, hfolds⟩
  | none =>
      rw [hcounted, Option.bind_none, Option.none_or] at hc
      cases h : w.declared with
      | cons d ds =>
          rw [w.tag_of_cons h, Option.some_or] at hc
          cases hc
          exact ⟨d.1, rfl, hfirst _ _ _ h⟩
      | nil =>
          rw [w.tag_of_nil h, Option.none_or] at hc
          obtain ⟨n, hn, rfl⟩ := Option.map_eq_some_iff.mp hc
          have hmem : n ∈ w.free := by
            obtain ⟨q, hq, hmention⟩ := List.exists_of_findSome?_eq_some hn
            rw [Written.mem_free, h]
            exact ⟨List.mem_append_left _ (List.mem_filterMap.mpr ⟨q, hq, hmention⟩), nofun⟩
          refine ⟨n, hn, ?_⟩
          rw [hfree n hmem, ← hag.right.value hmem]
          exact .name n

/-- What is asked of the catalogs depends on there being a count, not on the count. -/
theorem TransBlock.lookup_congr {b : TransBlock} {count : Option Expr} (values : List Expr)
    (h : count.isSome = b.count.isSome) : { b with count, values }.lookup = b.lookup := by
  obtain ⟨context, names, values', singular, plural, count', trimmed⟩ := b
  cases count <;> cases count' <;> first | (cases h; done) | (cases context <;> rfl)

/-- What a block is compiled to gives what the body shows that is meant, in every scope in which
    the first declared expression is at hand and nothing else that matters is rebound. -/
theorem Written.block_shows (hw : w.WellFormed) (hfill : w.block.Fillable)
    (hsc : sc.strict = s.strict) (hag : Scope.AgreeOn w.kept sc sc')
    (hfirst : w.FirstHeld s soft sc' value)
    (hdeclared : ∀ d ∈ w.declared, d.2.Evaluates s soft sc (value d.1))
    (hfree : ∀ n ∈ w.free, value n = sc.value n) (hnone : sc'.translations = [])
    (hfind : sc'.find w.block.functionName = some (.function w.block.lookup)) {v : Value}
    (hv : ∀ n, w.countedName = some n → value n = v) :
    ∃ b, prepareBlock s soft w.block = .ok b ∧
      evaluateBlock sc' b = (w.block.part v).bind (showPieces value) := by
  have htag := w.tag_foldsTo hw hsc hag hfirst hdeclared
  have hvalues : List.Forall₂ (Expr.FoldsTo s soft sc') w.block.values
      (w.block.names.map value) := by
    rw [Written.block, List.map_append]
    exact List.rel_append htag (Written.free_foldsTo hag hfree)
  have hcount : ∀ c, w.block.count = some c → c.FoldsTo s soft sc' v := by
    intro c hc
    obtain ⟨-, hc⟩ := Option.ite_none_right_eq_some.mp hc
    obtain ⟨n, hn, hfolds⟩ := Written.count_foldsTo hw hag hfirst htag hfree hc
    exact hv n hn ▸ hfolds
  obtain ⟨count, values, hprepare, heval, hsome, hcounts⟩ := prepareBlock_foldsTo hvalues hcount
  have hplural : w.block.count.isSome = w.block.plural.isSome := by
    cases hps : w.plural with
    | none => simp only [Written.block, hps, Option.isSome_none, Bool.false_eq_true, if_false]
    | some ps =>
        have hcounted := hw.counts (hps ▸ rfl)
        simp only [Written.block, hps, Option.isSome_some, if_true, hcounted]
  have hname : { w.block with count, values }.functionName = w.block.functionName := by
    rw [TransBlock.functionName, TransBlock.functionName, hsome]
  refine ⟨_, hprepare, ?_⟩
  refine evaluateBlock_untranslated ⟨hfill.untrimmed, hfill.nodup, hfill.mentions, hfill.used⟩
    hnone ?_ (hsome.trans hplural) hcounts heval
  rw [hname, hfind, TransBlock.lookup_congr values hsome]

/-- A variable of a block stands for an expression with its value. -/
theorem Written.source_evaluates (hdeclared : ∀ d ∈ w.declared, d.2.Evaluates s soft sc (value d.1))
    (hfree : ∀ n ∈ w.free, value n = sc.value n) {n : String} (hn : n ∈ w.block.names) :
    (w.source n).Evaluates s soft sc (value n) := by
  unfold Written.source
  rcases Written.lookup_cases hn with ⟨e, he, hmem⟩ | ⟨he, hmem⟩
  · rw [he]
    exact hdeclared _ hmem
  · rw [he, hfree n hmem]
    exact .name n

theorem Written.stands (hdeclared : ∀ d ∈ w.declared, d.2.Evaluates s soft sc (value d.1))
    (hfree : ∀ n ∈ w.free, value n = sc.value n) (hwords : ∀ n ∈ w.free, n ∉ reservedWords)
    {n : String} (hn : n ∈ w.mentions) : w.Stands s soft sc value n := by
  unfold Written.Stands
  rcases Written.lookup_cases (Written.mem_names_of_mentions hn) with ⟨e, he, hmem⟩ | ⟨he, hmem⟩
  · rw [he]
    exact hdeclared _ hmem
  · rw [he]
    exact ⟨hwords n hmem, hfree n hmem⟩

end

section

variable (nested : Program → Bindings → Stateful σ String) (st : σ) (line : Nat)
  (hnone : r.translations = []) (hstrict : r.strict = s.strict)
  (hfind : env.find w.block.functionName = some (.function w.block.lookup))
  (hw : w.WellFormed) (hfill : w.block.Fillable)
  (hdeclared : ∀ d ∈ w.declared, d.2.Evaluates s soft (scopeAt r p env) (value d.1))
  (hfree : ∀ n ∈ w.free, value n = (scopeAt r p env).value n) {v : Value}
  (hv : ∀ n, w.countedName = some n → value n = v)

include hnone hstrict hfind hw hfill hdeclared hfree hv

/-- A block stands alone unless its first declared expression is a call. -/
theorem Written.rendering_alone (hcall : w.tag.call = none) :
    (rendering r nested p env s soft (w.statements line)).perform st =
      ((w.block.part v).bind (showPieces value), st) := by
  have hfirst : w.FirstHeld s soft (scopeAt r p env) value := by
    intro n e ds h
    rw [w.tag_of_cons h] at hcall
    rw [Expr.standIn_of_none hcall]
    have hmem : (n, e) ∈ w.declared := h ▸ List.mem_cons_self ..
    exact (hdeclared (n, e) hmem).folded hstrict (hw.paired (n, e) hmem) (.refl _ _)
  obtain ⟨b, hb, hshows⟩ := Written.block_shows hw hfill hstrict (.refl _ _) hfirst
    hdeclared hfree hnone hfind hv
  have hcompile : compileAll s soft (w.statements line) = .ok [.trans b] := by
    rw [Written.statements, hcall, Option.map_none, Option.toList_none, List.nil_append,
      compileAll, compileOne, hb]
    rfl
  rw [rendering_perform hcompile (executeAll_one _ |>.trans (perform_trans b)), hshows,
    map_snd_map]

/-- The call is made before the block, and the block finds what it came to under a name that
    nothing else in it may mention. -/
theorem Written.rendering_called {n : String} {e : Expr} {ds : List (String × Expr)}
    (h : w.declared = (n, e) :: ds) (hcall : e.heldBack? = some e)
    (hkept : Parser.countName ∉ w.kept) :
    (rendering r nested p env s soft (w.statements line)).perform st =
      ((w.block.part v).bind (showPieces value), st) := by
  obtain ⟨e', he', hvalue⟩ := hdeclared (n, e) (h ▸ List.mem_cons_self ..)
  let env' := env.assign p Parser.countName (value n)
  -- The assignment binds a name that nothing else in the block mentions, so the scopes agree on the
  -- rest.
  have hag : Scope.AgreeOn w.kept (scopeAt r p env) (scopeAt r p env') :=
    ⟨rfl, rfl, rfl, rfl, Env.findOuter_assign_of_ne (by decide +kernel) _,
      fun m hm => Env.find_assign_of_ne fun heq => hkept (heq ▸ hm)⟩
  have hfirst : w.FirstHeld s soft (scopeAt r p env') value := by
    intro m f fs hm
    obtain ⟨⟨rfl, rfl⟩, rfl⟩ := List.cons.inj (h.symm.trans hm) |>.imp_left Prod.mk.inj
    have hheld : (scopeAt r p env').find Parser.countName = some (value n) :=
      Env.find_assign_self
    have hfound : (scopeAt r p env').value Parser.countName = value n := by
      rw [Scope.value, hheld, Option.getD_some]
    rw [(Expr.heldBack?_eq_some hcall).2, ← hfound]
    exact .name _
  have hfind' : env'.find w.block.functionName = some (.function w.block.lookup) :=
    (Env.find_assign_of_ne w.block.functionName_ne).trans hfind
  obtain ⟨b, hb, hshows⟩ := Written.block_shows hw hfill hstrict hag hfirst
    hdeclared hfree hnone hfind' hv
  have hcompile : compileAll s soft (w.statements line) =
      .ok [.set (.name Parser.countName) line e', .trans b] := by
    rw [Written.statements, w.tag_of_cons h, hcall, Option.map_some, Option.toList_some,
      List.singleton_append, compileAll, compileOne, he', compileAll, compileOne, hb]
    rfl
  have hexecute : (executeAll r nested p env
      [.set (.name Parser.countName) line e', .trans b]).perform st =
        ((evaluateBlock (scopeAt r p env') b).map (env', ·), st) := by
    rw [executeAll_cons, perform_set, hvalue]
    simp only [Except.map, executeAll_one, perform_trans]
    cases evaluateBlock (scopeAt r p env') b with
    | error f => rfl
    | ok t => simp only [String.empty_append, env']
  rw [rendering_perform hcompile hexecute, hshows, map_snd_map]

/-- A block in its place gives what the body shows that is meant. -/
theorem Written.rendering_shows (hheld : w.tag.call.isSome → Parser.countName ∉ w.kept) :
    (rendering r nested p env s soft (w.statements line)).perform st =
      ((w.block.part v).bind (showPieces value), st) := by
  cases hcall : w.tag.call with
  | none =>
      exact w.rendering_alone nested st line hnone hstrict hfind hw hfill hdeclared hfree hv hcall
  | some call =>
      have hkept := hheld (hcall ▸ rfl)
      cases h : w.declared with
      | nil =>
          rw [w.tag_of_nil h] at hcall
          cases hcall
      | cons d ds =>
          rw [w.tag_of_cons h] at hcall
          obtain ⟨rfl, -⟩ := Expr.heldBack?_eq_some hcall
          exact w.rendering_called nested st line hnone hstrict hfind hw hfill hdeclared hfree hv h
            hcall hkept

end

/-- A block without translations in its place. It gives what its body gives without the block;
    one with two bodies gives the first if what it counts by equals one, and the second
    otherwise. -/
theorem Written.rendering_untranslated (nested : Program → Bindings → Stateful σ String) (st : σ)
    (line : Nat) (hnone : r.translations = []) (hstrict : r.strict = s.strict)
    (hfind : env.find w.block.functionName = some (.function w.block.lookup))
    (hw : w.WellFormed) (htrim : w.trimmed = false) (hused : w.declared = [] ∨ w.mentions ≠ [])
    (hdeclared : ∀ d ∈ w.declared, ∃ v, d.2.Evaluates s soft (scopeAt r p env) v)
    (hwords : ∀ n ∈ w.free, n ∉ reservedWords)
    (hheld : w.tag.call.isSome → Parser.countName ∉ w.kept) :
    let shown (ss : List Stmt) := (rendering r nested p env s soft ss).perform st
    ∃ one, w.plain w.singular = .ok one ∧
      (w.plural = none → shown (w.statements line) = shown one) ∧
      ∀ ps, w.plural = some ps → ∃ several n v, w.plain ps = .ok several ∧
        w.countedName = some n ∧ (w.source n).Evaluates s soft (scopeAt r p env) v ∧
        shown (w.statements line) = match Value.equal v (.int 1) with
          | .ok true => shown one
          | .ok false => shown several
          | .error f => (.error f, st) := by
  intro shown
  -- Each variable has the value that it is declared with, or that it is bound to.
  obtain ⟨value, hdeclared, hfree⟩ := hw.exists_value hdeclared (scopeAt r p env).value
  have hfill := Written.fillable hw htrim hused
  have hplain {ps : List Piece} (h : ∀ n, .mention n ∈ ps → n ∈ w.mentions) :=
    plain_shows nested st hstrict fun n hn => w.stands hdeclared hfree hwords (h n hn)
  have hmentioned {ps : List Piece} {n : String} (hn : .mention n ∈ ps) :
      n ∈ ps.filterMap Piece.mention? := List.mem_filterMap.mpr ⟨_, hn, rfl⟩
  obtain ⟨one, hone, hshows⟩ := hplain fun n hn => List.mem_append_left _ (hmentioned hn)
  let v := (w.countedName.map value).getD .null
  have hv : ∀ n, w.countedName = some n → value n = v := fun n hn => by simp only [v, hn]; rfl
  have hblock : shown (w.statements line) = ((w.block.part v).bind (showPieces value), st) :=
    w.rendering_shows nested st line hnone hstrict hfind hw hfill hdeclared hfree hv hheld
  refine ⟨one, hone, fun hplural => ?_, fun ps hplural => ?_⟩
  · have hpart : w.block.part v = .ok w.singular := by
      rw [TransBlock.part, Written.block, hplural]
    rw [hblock, hpart]
    exact hshows.symm
  · have hpart : w.block.part v =
        (Value.equal v (.int 1)).map fun isOne => if isOne then w.singular else ps := by
      rw [TransBlock.part, Written.block, hplural]
    have hmentions {n : String} (hn : .mention n ∈ ps) : n ∈ w.mentions :=
      List.mem_append_right _ (hplural ▸ hmentioned hn)
    obtain ⟨several, hseveral, hshows'⟩ := hplain fun n hn => hmentions hn
    obtain ⟨n, hn⟩ := hw.exists_countedName (hplural ▸ rfl)
    refine ⟨several, n, v, hseveral, hn, ?_, ?_⟩
    · exact hv n hn ▸ Written.source_evaluates hdeclared hfree (hw.mem_names_of_counted hn)
    · rw [hblock, hpart]
      cases Value.equal v (.int 1) with
      | error f => rfl
      | ok isOne => cases isOne with
        | true => exact hshows.symm
        | false => exact hshows'.symm

end

end Template

namespace Engine

open Template

/-! ## Engines without catalogs -/

/-- What an engine with translations adds answers the blocks. -/
theorem globals_lookup {x : Extensions} (hx : x.any = true) (b : TransBlock) :
    x.globals.get? b.functionName = some (.function b.lookup) := by
  rw [Extensions.globals, if_pos hx]
  unfold TransBlock.functionName TransBlock.lookup
  cases b.count <;> cases b.context <;> rfl

/-- A translatable block is its own text where an engine has no catalog for its languages. In
    every place and over everything that may be bound there, a block that mentions variables or
    declares none gives the text, or the fault, of its body without the block, in which an output
    stands for each mention: of the declared expression, or of the name. With two bodies it is the
    first if what the block counts by equals one, and the second otherwise.

    The function that the block asks must not be rebound, the declared expressions must have
    values, and what is only mentioned must be read as a name by an output too. A block that
    declares a call first holds its value under a name of its own, which nothing else in the block
    may mention then. -/
theorem untranslated (id : EngineId) {e : Engine} (hnone : e.translations = [])
    (hany : e.extensions.any = true) {w : Template.Written} (hw : w.WellFormed)
    (htrim : w.trimmed = false) (hused : w.declared = [] ∨ w.mentions ≠ []) (name : String)
    (soft : Bool) (p : Place) (env : Env)
    (hfind : env.find w.block.functionName = e.extensions.globals.get? w.block.functionName)
    (hdeclared : ∀ d ∈ w.declared, ∃ v,
      d.2.Evaluates (e.settings name) soft (scopeAt (renderer id e) p env) v)
    (hwords : ∀ n ∈ w.free, n ∉ reservedWords)
    (hheld : w.tag.call.isSome → Parser.countName ∉ w.kept)
    (nested : Program → Bindings → Act String) (line : Nat) (world : World) :
    let shown (ss : List Stmt) :=
      (rendering (renderer id e) nested p env (e.settings name) soft ss).perform world
    ∃ one, w.plain w.singular = .ok one ∧
      (w.plural = none → shown (w.statements line) = shown one) ∧
      ∀ ps, w.plural = some ps → ∃ several n v, w.plain ps = .ok several ∧
        w.countedName = some n ∧
        (w.source n).Evaluates (e.settings name) soft (scopeAt (renderer id e) p env) v ∧
        shown (w.statements line) = match Value.equal v (.int 1) with
          | .ok true => shown one
          | .ok false => shown several
          | .error f => (.error f, world) :=
  w.rendering_untranslated nested world line hnone rfl (hfind.trans (globals_lookup hany w.block))
    hw htrim hused hdeclared hwords hheld

/-- An engine with translations and without catalogs. -/
def uncatalogued : Engine := ⟨.default, defaultExtensions .default, [], none, []⟩

/-- A block that counts, with percent signs in it and a variable that is not declared. -/
def report : Template.Written where
  context := none
  declared := [("count", .name "n")]
  singular := [.text "One file, 100% for ", .mention "user"]
  plural := some [.mention "count", .text " files, 50%(all) for ", .mention "user"]
  counted := none
  trimmed := false

/-- Two files and somebody with markup in the name. -/
def reportEnv : Env := ⟨[], uncatalogued.extensions.globals ++
  [("n", .int 2), ("user", .markup "<b>Ann</b>")], []⟩

theorem untranslated_report :
    let world : World := .ofFiles .empty 0 "" ⟨.here, []⟩
    let shown (ss : List Stmt) := (rendering (renderer 0 uncatalogued) (fun _ _ => pure "")
      ⟨"a.j2", false, true, []⟩ reportEnv (uncatalogued.settings "a.j2") false ss).perform world
    shown (report.statements 1) = (.ok "2 files, 50%(all) for <b>Ann</b>", world) := by
  intro world shown
  have hw : report.WellFormed := ⟨by decide, by simp [report, Expr.Paired], nofun, fun _ => rfl, by decide +kernel⟩
  have hdeclared : ∀ d ∈ report.declared, ∃ v, d.2.Evaluates (uncatalogued.settings "a.j2") false
      (scopeAt (renderer 0 uncatalogued) ⟨"a.j2", false, true, []⟩ reportEnv) v := by
    intro d hd
    obtain rfl := List.mem_singleton.mp hd
    exact ⟨_, .name "n"⟩
  obtain ⟨one, -, -, hsecond⟩ := untranslated 0 rfl rfl hw rfl (.inr (by decide)) "a.j2" false
    ⟨"a.j2", false, true, []⟩ reportEnv rfl hdeclared (by decide +kernel) nofun
    (fun _ _ => pure "") 1 world
  obtain ⟨several, n, v, hplain, hn, ⟨e, he, hv⟩, heq⟩ := hsecond _ rfl
  -- The block counts by the variable that stands for the name, which is bound to two.
  obtain rfl : "count" = n := Option.some.inj hn
  obtain rfl : Expr.name "n" = e := Except.ok.inj he
  obtain rfl : Value.int 2 = v := Except.ok.inj hv
  obtain rfl : [.print (.name "n"), .text " files, 50%(all) for ", .print (.name "user")] =
      several := Except.ok.inj hplain
  exact heq

/-- What a template prints, or the message of the fault that it ends with. -/
def printed (text : String) (data : Bindings) : Except String String :=
  (Stateful.perform (do
    let body ← lift (compile (uncatalogued.settings "a.j2") text.toList)
    Template.render (renderer 0 uncatalogued) ⟨"a.j2", body⟩ data)
    (.ofFiles .empty 0 "" ⟨.here, []⟩)).1.mapError Fault.message

/-- The sources of a tag and of an output. -/
def tagSource (s : String) : String := "\x7b% " ++ s ++ " %\x7d"
def outputSource (s : String) : String := "\x7b\x7b " ++ s ++ " \x7d\x7d"

/-- A block is not the same as its body where it mentions the name under which it holds a call,
    where it mentions a word that is no name in an output, and where the function for messages
    in a context is rebound. -/
theorem printed_otherwise :
    (printed (tagSource "trans n=gettext('a')" ++ outputSource "n" ++ outputSource "_trans" ++
        tagSource "endtrans") [] = .ok "aa" ∧
      printed (outputSource "gettext('a')" ++ outputSource "_trans") [] =
        .error "'_trans' is undefined") ∧
    (printed (tagSource "trans" ++ outputSource "true" ++ tagSource "endtrans") [] =
        .error "'true' is undefined" ∧
      printed (outputSource "true") [] = .ok "True") ∧
    (printed (tagSource "trans" ++ outputSource "not" ++ tagSource "endtrans")
        [("not", .int 1)] = .ok "1" ∧
      printed (outputSource "not") [("not", .int 1)] = .error "<syntax>") ∧
    (printed (tagSource "trans 'c'" ++ "x" ++ tagSource "endtrans") [("pgettext", .int 1)] =
        .error "'int' object is not callable" ∧
      printed "x" [("pgettext", .int 1)] = .ok "x") := by
  decide +kernel

end Engine

end Stencil
