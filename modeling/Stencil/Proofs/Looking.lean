import Mathlib
import Stencil.Proofs.Coherence
import Stencil.Proofs.Executing
import Stencil.Proofs.Tables

/-!
# One message, three ways to look it up

A template reaches the catalogs through the filter that translates, through the functions
that are looked up by name, and through blocks of translatable text. The filter goes to
the catalogs directly. The functions are names like any others, so data can hide them,
and a block calls one of them with a message that is put together from its text. With
nothing in the way all three look up the same message. They differ in what becomes of
the answer: a block takes it as markup, the other two print it as they print any text.

## Main definitions

* `filterSource`, `callSource`, `blockSource`: The three templates.
* `Engine.Prints`: What a template prints with every engine of a kind.

## Theorems

* `lexemes_block`: The tokens of a block around a text.
* `execute_translated`: The filter prints what the catalogs answer, whatever is bound.
* `Engine.looked_alike`: The three ways look up the same message.
-/

namespace Stencil

namespace Template

/-! ## Reading the templates -/

theorem tagStart?_of_ne {c : Char} (h : c ≠ '\x7b') (s : List Char) :
    tagStart? (c :: s) = none := by
  unfold tagStart?
  split <;> simp_all

/-- Text without an opening brace is passed over up to the tag behind it. -/
theorem splitAtFirst_tagStart? {s t : List Char} (h : '\x7b' ∉ s) {a : TagStart}
    (ht : splitAtFirst tagStart? t = ([], some a)) :
    splitAtFirst tagStart? (s ++ t) = (s, some a) := by
  induction s with
  | nil => exact ht
  | cons c s ih =>
      rw [List.mem_cons, not_or] at h
      rw [List.cons_append, splitAtFirst, tagStart?_of_ne fun hc => h.1 hc.symm]
      simp only [ih h.2]

/-- Text in front of the tag of a statement is one token. -/
theorem scan_text_block (fuel line : Nat) (previous : Char) {s t rest : List Char} (hs : s ≠ [])
    (h : '\x7b' ∉ s)
    (ht : splitAtFirst tagStart? t = ([], some ⟨.block, false, 0, rest⟩)) :
    scan (fuel + 1) .text line previous (s ++ t) =
      ⟨.data (String.ofList s), line⟩ :: ⟨.blockBegin, line + lineEnds s⟩ ::
        scan fuel (.tag false []) (line + lineEnds s) ' ' rest := by
  obtain ⟨c, cs, rfl⟩ := List.exists_cons_of_ne_nil hs
  rw [List.cons_append, scan, ← List.cons_append, splitAtFirst_tagStart? h ht]
  · rfl
  · nofun

/-- The tags around a block of translatable text. -/
def transBegin : String := "\x7b% trans %\x7d"
def transEnd : String := "\x7b% endtrans %\x7d"

set_option maxRecDepth 10000 in
theorem scan_transBegin (fuel line : Nat) (previous : Char) (t : List Char) :
    scan (fuel + 5) .text line previous (transBegin.toList ++ t) =
      ⟨.blockBegin, line⟩ :: ⟨.name "trans", line⟩ :: ⟨.blockEnd, line⟩ ::
        scan fuel .text line ' ' t := rfl

set_option maxRecDepth 10000 in
theorem scan_endtrans (fuel line : Nat) (previous : Char) :
    scan (fuel + 5) (.tag false []) line previous " endtrans %\x7d".toList =
      [⟨.name "endtrans", line⟩, ⟨.blockEnd, line⟩] := rfl

/-- The tokens of a block around a text. -/
theorem lexemes_block {s : List Char} (hs : s ≠ []) (h : '\x7b' ∉ s) :
    Lexeme.ofText (transBegin.toList ++ (s ++ transEnd.toList)) =
      [⟨.blockBegin, 1⟩, ⟨.name "trans", 1⟩, ⟨.blockEnd, 1⟩, ⟨.data (String.ofList s), 1⟩,
        ⟨.blockBegin, 1 + lineEnds s⟩, ⟨.name "endtrans", 1 + lineEnds s⟩,
        ⟨.blockEnd, 1 + lineEnds s⟩] := by
  have hlast : (transBegin.toList ++ (s ++ transEnd.toList)).getLast? = some '\x7d' := by
    rw [List.getLast?_append, List.getLast?_append]
    rfl
  -- A block is long enough for every step that its tags take.
  obtain ⟨fuel, hfuel⟩ : ∃ fuel, 2 * (transBegin.toList ++ (s ++ transEnd.toList)).length + 2 =
      fuel + 5 + 1 + 5 := by
    refine ⟨2 * (transBegin.toList ++ (s ++ transEnd.toList)).length + 2 - 11, ?_⟩
    have hlen : transBegin.toList.length = 11 := rfl
    rw [List.length_append, hlen]
    omega
  have htag : splitAtFirst tagStart? transEnd.toList =
      ([], some ⟨.block, false, 0, " endtrans %\x7d".toList⟩) := rfl
  rw [Lexeme.ofText, dropLastNewline, if_neg (by rw [hlast]; decide)]
  simp only [hfuel, scan_transBegin, scan_text_block _ _ _ hs h htag, scan_endtrans]

/-- Reading a template whose tokens are known. -/
theorem parse_of_lexemes {tags : Tags} {text : List Char} {l : Lexeme} (tokens : List Lexeme)
    {ss : List Stmt} {c : Cursor} (hl : Lexeme.ofText text = l :: tokens)
    (hfront : Parser.checkFront ⟨l :: tokens, 1⟩ = .ok ⟨l :: tokens, 1⟩)
    (h : (Parser.statements tags ((l :: tokens).length + 1) []).run ⟨l :: tokens, 1⟩ =
      .ok (ss, c)) :
    parse tags text = .ok ss := by
  rw [parse]
  simp only [hl, hfront, bind, Except.bind, h, pure, Except.pure]

/-- What a block around a text is read as. -/
theorem parse_block (filter : Bool) {s : List Char} (hs : s ≠ []) (h : '\x7b' ∉ s) :
    parse ⟨true, filter⟩ (transBegin.toList ++ (s ++ transEnd.toList)) =
      .ok [.trans ⟨none, [], [], [.text (String.ofList s)], none, none, false⟩] := by
  refine parse_of_lexemes (c := ⟨[], 1 + lineEnds s⟩) _ (lexemes_block hs h) rfl ?_
  generalize String.ofList s = d, 1 + lineEnds s = n
  cbv

/-- What is read of a filter that translates a value. -/
def translated (contextual : Bool) : Stmt :=
  .print (.filter (.name "x") Filter.transName [] [] [] 1 contextual)

/-- The templates that translate a value by the filter and by the function, and one that
    binds a name to another value before the filter. -/
def filterSource : String := "\x7b\x7b x|trans \x7d\x7d"
def callSource : String := "\x7b\x7b _(x) \x7d\x7d"
def rebindingSource (n : String) : String := "\x7b% set " ++ n ++ " = y %\x7d" ++ filterSource

set_option maxRecDepth 10000 in
theorem parse_filter (filter : Bool) :
    parse ⟨true, filter⟩ filterSource.toList = .ok [translated false] := by
  refine parse_of_lexemes (c := ⟨[], 1⟩) (l := ⟨.printBegin, 1⟩)
    [⟨.name "x", 1⟩, ⟨.symbol "|", 1⟩, ⟨.name "trans", 1⟩, ⟨.printEnd, 1⟩] rfl rfl ?_
  cbv

set_option maxRecDepth 10000 in
theorem parse_call (filter : Bool) :
    parse ⟨true, filter⟩ callSource.toList =
      .ok [.print (.call (.name "_") [.name "x"] [] [])] := by
  refine parse_of_lexemes (c := ⟨[], 1⟩) (l := ⟨.printBegin, 1⟩)
    [⟨.name "_", 1⟩, ⟨.symbol "(", 1⟩, ⟨.name "x", 1⟩, ⟨.symbol ")", 1⟩, ⟨.printEnd, 1⟩]
    rfl rfl ?_
  cbv

/-- The names that the functions have which the filter might be expected to call. -/
def lookupNames : List String := ["_", "gettext", "ngettext"]

set_option maxRecDepth 10000 in
theorem lexemes_rebinding {n : String} (hn : n ∈ lookupNames) :
    Lexeme.ofText (rebindingSource n).toList =
      [⟨.blockBegin, 1⟩, ⟨.name "set", 1⟩, ⟨.name n, 1⟩, ⟨.symbol "=", 1⟩, ⟨.name "y", 1⟩,
        ⟨.blockEnd, 1⟩, ⟨.printBegin, 1⟩, ⟨.name "x", 1⟩, ⟨.symbol "|", 1⟩, ⟨.name "trans", 1⟩,
        ⟨.printEnd, 1⟩] := by
  simp only [lookupNames, List.mem_cons, List.not_mem_nil, or_false] at hn
  rcases hn with rfl | rfl | rfl <;> rfl

theorem parse_rebinding (filter : Bool) {n : String} (hn : n ∈ lookupNames) :
    parse ⟨true, filter⟩ (rebindingSource n).toList =
      .ok [.set (.name n) 1 (.name "y"), translated false] := by
  refine parse_of_lexemes (c := ⟨[], 1⟩) _ (lexemes_rebinding hn) rfl ?_
  simp only [lookupNames, List.mem_cons, List.not_mem_nil, or_false] at hn
  rcases hn with rfl | rfl | rfl <;> cbv

/-! ## What is looked up -/

/-- A text that is looked up is the message of the chain. -/
theorem lookUp_text (t : Translations) (m : String) :
    lookUp t (.text m) (.text m) = .ok (.text (t.message m)) := by
  cases t with
  | nil => rfl
  | cons c t =>
      -- A text can be in a catalog, so nothing is refused before looking.
      rw [lookUp, if_neg (by simp)]
      simp only [Value.keyFault?, Value.text?, Option.bind_some, Translations.message]
      cases Translations.message? (c :: t) m <;> rfl

theorem translate_gettext (t : Translations) (m : String) :
    translate t .gettext [.text m] [] = .ok (.text (t.message m)) :=
  lookUp_text t m

variable {s : Scope} {m : String}

/-- The filter goes to the catalogs, whatever the names around it are bound to. -/
theorem evaluate_transFilter (hfilter : s.transFilter = true) (hx : s.find "x" = some (.text m))
    (line : Nat) :
    evaluate s (.filter (.name "x") Filter.transName [] [] [] line true) =
      .ok (.text (s.translations.message m)) := by
  have hbind : Filter.transSignature.bind [.text m] [] = .ok [.text m] := rfl
  simp only [evaluate, evaluateAll, Scope.value, hx, Option.getD_some, List.zip_nil_right, bind,
    Except.bind, applyFilter, if_true, hfilter, transFilter, hbind, Value.str]
  exact translate_gettext _ _

/-- The function that is called by its short name looks the long one up. -/
theorem evaluate_shortName (hshort : s.find "_" = some (.function .byName))
    (hlong : s.findOuter "gettext" = some (.function .gettext))
    (hx : s.find "x" = some (.text m)) :
    evaluate s (.call (.name "_") [.name "x"] [] []) =
      .ok (.text (s.translations.message m)) := by
  simp only [evaluate, evaluateAll, Scope.value, hshort, hx, Option.getD_some, List.zip_nil_right,
    bind, Except.bind, pure, Except.pure, applyCall, hlong]
  exact translate_gettext _ _

/-- A block around a text looks the text up and takes the answer as it is. -/
theorem evaluateBlock_plain (hlong : s.find "gettext" = some (.function .gettext)) (m : String) :
    evaluateBlock s ⟨none, [], [], [.text m], none, none, false⟩ =
      .ok (s.translations.message m) := by
  have hmessage : TransBlock.message ⟨none, [], [], [.text m], none, none, false⟩ [.text m] =
      m := by
    simp [TransBlock.message, TransBlock.mentions, Piece.mention?, Piece.plainText]
  have hname : TransBlock.functionName ⟨none, [], [], [.text m], none, none, false⟩ =
      "gettext" := rfl
  simp only [evaluateBlock, hname, Scope.value, hlong, Option.getD_some, blockArguments, hmessage,
    Option.map_none, Option.toList_none, List.nil_append, pure, Except.pure, bind, Except.bind,
    applyCall, translate_gettext, Value.str, Value.shown, List.isEmpty_nil, if_true]

/-- The filter prints what the catalogs answer, whatever is bound where it stands. -/
theorem execute_translated {σ : Type} {r : Renderer (Stateful σ)}
    {nested : Program → Bindings → Stateful σ String} {p : Place} {env : Env} {st : σ}
    (hfilter : r.transFilter = true) (hx : env.find "x" = some (.text m)) :
    (execute r nested p env (translated true)).perform st =
      (.ok (env, escape (r.translations.message m)), st) := by
  rw [translated, perform_print, evaluate_transFilter (s := scopeAt r p env) hfilter hx]
  rfl

end Template

namespace Engine

open Template

variable {c : Config} {x : Extensions} {tr : Translations}

/-- An engine at work whose memory is right prints a text over some data where the file of
    the template holds a source. -/
def Prints (c : Config) (x : Extensions) (tr : Translations) (data : Bindings)
    (source text : String) : Prop :=
  ∀ (id : EngineId) (w : World) (name : Value) (path : Path) (inner : String) (m : Nat),
    Running c x tr id w → Current c x id w inner → innerName c name = .ok (path, inner) →
    fileOf? c w.files inner = some (.text source, m) →
    ((render id name data).perform w).1 = .ok text

/-- What a template prints is what it compiles to and what that does. A template that
    loads no others depends on its own name in memory only. -/
theorem prints_of_perform {data : Bindings} {source text : String} (body : List Stmt)
    (hcr : '\r' ∉ source.toList)
    (hcompile : ∀ n, compile ⟨c.isStrict, n, x.tags⟩ source.toList = .ok body)
    (hrender : ∀ base n st, (Template.render (anew c x tr base) ⟨n, body⟩ data).perform st =
      (.ok text, st)) : Prints c x tr data source text := by
  intro id w name path inner m hw hcur hinner hfile
  have hread : readAnew c x w.files inner = .ok body := by
    rw [readAnew_of_fileOf? hfile, compiled, Content.chars, Text.unifyNewlines_of_not_mem hcr]
    exact hcompile inner
  have hload : (loadAnew c x w.files name).perform [] = (.ok (inner, body), [inner]) := by
    rw [loadAnew, hinner]
    change ((tryCatch (reach c x w.files inner) fun f => throw (loadingFault path f)) >>=
      fun b => pure (inner, b)).perform [] = _
    have hreach : (tryCatch (reach c x w.files inner) fun f =>
        throw (loadingFault path f)).perform [] = (.ok body, [inner]) := by
      rw [Stateful.perform_tryCatch, reach_perform, hread]
    rw [Stateful.perform_bind_ok hreach]
    rfl
  have hanew : (renderAnew c x tr w.files name data).perform [] = (.ok text, [inner]) := by
    rw [renderAnew, Stateful.perform_bind_ok hload]
    dsimp only
    rw [Stateful.perform_tryCatch, hrender]
  rw [render_result hw name data, hanew]
  intro n hn
  rw [hanew, List.mem_singleton] at hn
  exact hn ▸ hcur

/-- The source of a block around a text. -/
def blockSource (s : String) : String := transBegin ++ s ++ transEnd

/-- What the library's own extension adds. -/
theorem tags_of_own (hx : x.own = true) : x.tags = ⟨true, true⟩ := by
  rw [Extensions.tags, Extensions.any, hx, Bool.true_or]

theorem globals_of_own (hx : x.own = true) :
    x.globals.get? "_" = some (.function .byName) ∧
      x.globals.get? "gettext" = some (.function .gettext) := by
  rw [Extensions.globals, Extensions.any, hx, Bool.true_or, if_pos rfl]
  exact ⟨rfl, rfl⟩

section

variable {data : Bindings} (hdata : data.keys.Nodup)

include hdata

/-- The context of a template binds what the data binds. -/
theorem context_bound {n : String} {v : Value} (hn : data.get? n = some v) :
    (x.globals.update data).get? n = some v := by
  rw [Bindings.get?_update_of_nodup _ hdata, hn, Option.some_or]

/-- It binds a function as well that the data does not hide. -/
theorem context_global {n : String} {v : Value} (hn : data.get? n = none)
    (hv : x.globals.get? n = some v) : (x.globals.update data).get? n = some v := by
  rw [Bindings.get?_update_of_nodup _ hdata, hn, Option.none_or, hv]

variable (hx : x.own = true) {s : String}

include hx

theorem prints_filter (c : Config) (tr : Translations) (hbound : data.get? "x" = some (.text s)) :
    Prints c x tr data filterSource (escape (tr.message s)) := by
  refine prints_of_perform [translated true] (by decide +kernel) (fun n => ?_)
    fun base n st => perform_render fun nested => ?_
  · rw [compile, tags_of_own hx, parse_filter]
    rfl
  · rw [executeAll_one]
    exact ⟨_, execute_translated hx (context_bound hdata hbound)⟩

theorem prints_call (hbound : data.get? "x" = some (.text s)) (hshort : data.get? "_" = none)
    (hlong : data.get? "gettext" = none) :
    Prints c x tr data callSource (escape (tr.message s)) := by
  refine prints_of_perform [.print (.call (.name "_") [.name "x"] [] [])]
    (by decide +kernel) (fun n => ?_) fun base n st => perform_render fun nested => ?_
  · rw [compile, tags_of_own hx, parse_call]
    rfl
  · rw [executeAll_one, perform_print, evaluate_shortName (m := s)
      (context_global hdata hshort (globals_of_own hx).1)
      (context_global hdata hlong (globals_of_own hx).2) (context_bound hdata hbound)]
    exact ⟨_, rfl⟩

theorem prints_block (hs : s ≠ "") (hbrace : '\x7b' ∉ s.toList) (hcr : '\r' ∉ s.toList)
    (hlong : data.get? "gettext" = none) :
    Prints c x tr data (blockSource s) (tr.message s) := by
  have hsource : (blockSource s).toList = transBegin.toList ++ (s.toList ++ transEnd.toList) := by
    rw [blockSource, String.toList_append, String.toList_append, List.append_assoc]
  have hne : s.toList ≠ [] := fun h => hs (String.toList_eq_nil_iff.mp h)
  refine prints_of_perform [.trans ⟨none, [], [], [.text s], none, none, false⟩] ?_
    (fun n => ?_) fun base n st => perform_render fun nested => ?_
  · rw [hsource, List.mem_append, List.mem_append]
    -- There is no carriage return in the tags.
    rintro (h | h | h)
    · exact absurd h (by decide +kernel)
    · exact hcr h
    · exact absurd h (by decide +kernel)
  · rw [compile, tags_of_own hx, hsource, parse_block _ hne hbrace, String.ofList_toList]
    rfl
  · rw [executeAll_one, perform_trans,
      evaluateBlock_plain (context_global hdata hlong (globals_of_own hx).2)]
    exact ⟨_, rfl⟩

theorem prints_rebinding (hbound : data.get? "x" = some (.text s)) {n : String}
    (hn : n ∈ lookupNames) :
    Prints c x tr data (rebindingSource n) (escape (tr.message s)) := by
  have hnx : "x" ≠ n := by
    rintro rfl
    exact absurd hn (by decide +kernel)
  refine prints_of_perform [.set (.name n) 1 (.name "y"), translated true] ?_
    (fun n' => ?_) fun base n' st => perform_render fun nested => ?_
  · simp only [lookupNames, List.mem_cons, List.not_mem_nil, or_false] at hn
    rcases hn with rfl | rfl | rfl <;> decide +kernel
  · rw [compile, tags_of_own hx, parse_rebinding _ hn]
    rfl
  · -- The assignment comes first, and the name that it binds is not the one that is translated.
    rw [executeAll_cons, perform_set, evaluate]
    simp only [Except.map]
    rw [executeAll_one, execute_translated hx]
    · simp only [String.empty_append]
      exact ⟨_, rfl⟩
    · -- The stretch has a scope with the bound name in it and no other.
      have hscope : enter [] (refsOf [] [] [.set (.name n) 1 (.name "y"), translated true]) =
          [(n, none)] := by
        simp only [lookupNames, List.mem_cons, List.not_mem_nil, or_false] at hn
        rcases hn with rfl | rfl | rfl <;> rfl
      have hframe : findFrame "x" [[(n, none)]] = none := by
        rw [findFrame, List.lookup_cons, beq_eq_false_iff_ne.mpr hnx]
        rfl
      rw [Env.find_assign_of_ne hnx, Env.find, hscope, hframe]
      exact context_bound hdata hbound

end

/-- The three ways look up the same message. With the library's own extension and over data
    that binds a name to a text, the filter and the function print the escaped message, and a
    block around the text prints the message as it is; the functions have to be in reach for
    this. The filter does not depend on them, so it prints the same whatever the data or an
    assignment binds them to. The message is that of the first catalog that has the text, by
    itself or as the form for one thing; a text that no catalog has is its own message. -/
theorem looked_alike (c : Config) {x : Extensions} (hx : x.own = true) (tr : Translations)
    {s : String} (hs : s ≠ "") (hbrace : '\x7b' ∉ s.toList) (hcr : '\r' ∉ s.toList)
    {data : Bindings} (hdata : data.keys.Nodup) (hbound : data.get? "x" = some (.text s)) :
    (data.get? "_" = none → data.get? "gettext" = none →
      Prints c x tr data filterSource (escape (tr.message s)) ∧
        Prints c x tr data callSource (escape (tr.message s)) ∧
        Prints c x tr data (blockSource s) (tr.message s)) ∧
      Prints c x tr data filterSource (escape (tr.message s)) ∧
      (∀ n ∈ lookupNames, Prints c x tr data (rebindingSource n) (escape (tr.message s))) ∧
      (∀ front catalog back m, tr = front ++ catalog :: back →
        (∀ c ∈ front, c.message? s = none) → catalog.message? s = some m → tr.message s = m) ∧
      ((∀ catalog ∈ tr, catalog.message? s = none) → tr.message s = s) := by
  have hfilter := prints_filter hdata hx c tr hbound
  refine ⟨fun hshort hlong => ⟨hfilter, ?_, ?_⟩, hfilter, fun n hn => ?_, ?_, fun hnone => ?_⟩
  · exact prints_call hdata hx hbound hshort hlong
  · exact prints_block hdata hx hs hbrace hcr hlong
  · exact prints_rebinding hdata hx hbound hn
  · rintro front catalog back m rfl hfront hm
    rw [Translations.message, Translations.message?, List.findSome?_append,
      List.findSome?_eq_none_iff.mpr hfront, List.findSome?_cons, hm]
    rfl
  · rw [Translations.message, Translations.message?, List.findSome?_eq_none_iff.mpr hnone,
      Option.getD_none]

/-- A message with a percent sign and markup in it, and a catalog that has it. -/
def offer : String := "50% <b>off</b>"
def offerCatalog : Catalog := ⟨[(offer, "-50 % <b>net</b>")], [], [], none⟩
def offerData : Bindings := [("y", .int 1), ("x", .text offer)]

/-- A template for each way to look it up, and one in which a function is replaced. -/
def offerTree : Files :=
  textFiles [("templates/filter.j2", filterSource), ("templates/call.j2", callSource),
    ("templates/block.j2", blockSource offer), ("templates/set.j2", rebindingSource "gettext")] 10

def offerFiles : World := .ofFiles offerTree 0 "" ⟨.here, []⟩

/-- The world after an engine with the catalog was made for them. -/
def offerMade : World := ((create .default none (some [offerCatalog])).perform offerFiles).2

/-- All four templates print the translation, and the block prints it as markup. -/
theorem looked_alike_offer :
    let prints (name text : String) :=
      ((render 0 (.text name) offerData).perform offerMade).1 = .ok text
    (offerData.get? "_" = none ∧ offerData.get? "gettext" = none ∧
      offerData.get? "x" = some (.text offer)) ∧
      prints "filter" "-50 % &lt;b&gt;net&lt;/b&gt;" ∧
      prints "call" "-50 % &lt;b&gt;net&lt;/b&gt;" ∧ prints "block" "-50 % <b>net</b>" ∧
      prints "set" "-50 % &lt;b&gt;net&lt;/b&gt;" := by
  have hid : ((create .default none (some [offerCatalog])).perform offerFiles).1 = .ok 0 := by
    decide +kernel
  have hmade : (create .default none (some [offerCatalog])).perform offerFiles =
      (.ok 0, offerMade) := by rw [offerMade, ← hid]
  obtain ⟨e, hcreated, htr⟩ := create_cases hmade
  have hedit : Files.Edit .empty offerTree := textFiles_edit _ _
  have hnothing : NothingKept .default offerTree := (nothingKept_empty _).edit hedit
  have hsound := hnothing.sound hedit.tidy (defaultExtensions .default)
  have htree : offerFiles.files = offerTree := by rw [offerFiles, World.ofFiles]
  rw [← htree] at hsound
  have hrunning := hcreated.running hsound
  rw [htr _ rfl (by rw [hcreated.extensions]; rfl)] at hrunning
  have hnone : offerData.get? "_" = none ∧ offerData.get? "gettext" = none ∧
      offerData.get? "x" = some (.text offer) := ⟨rfl, rfl, rfl⟩
  have hnodup : offerData.keys.Nodup := by decide +kernel
  obtain ⟨hall, -, hset, -⟩ := looked_alike .default (x := defaultExtensions .default) rfl
    [offerCatalog] (by decide +kernel) (by decide +kernel) (by decide +kernel) hnodup hnone.2.2
  have hmessage : Translations.message [offerCatalog] offer = "-50 % <b>net</b>" ∧
      escape "-50 % <b>net</b>" = "-50 % &lt;b&gt;net&lt;/b&gt;" := by decide +kernel
  rw [hmessage.1, hmessage.2] at hall hset
  obtain ⟨hfilter, hcall, hblock⟩ := hall hnone.1 hnone.2.1
  have hinner : ∀ name ∈ ["filter", "call", "block", "set"], innerName .default (.text name) =
      .ok (⟨.here, ["templates", name ++ ".j2"]⟩, name ++ ".j2") := by decide +kernel
  have hfiles : fileOf? .default offerMade.files "filter.j2" = some (.text filterSource, 10) ∧
      fileOf? .default offerMade.files "call.j2" = some (.text callSource, 10) ∧
      fileOf? .default offerMade.files "block.j2" = some (.text (blockSource offer), 10) ∧
      fileOf? .default offerMade.files "set.j2" =
        some (.text (rebindingSource "gettext"), 10) := by
    decide +kernel
  exact ⟨hnone,
    hfilter _ _ _ _ _ _ hrunning (hcreated.current _) (hinner "filter" (by decide +kernel)) hfiles.1,
    hcall _ _ _ _ _ _ hrunning (hcreated.current _) (hinner "call" (by decide +kernel)) hfiles.2.1,
    hblock _ _ _ _ _ _ hrunning (hcreated.current _) (hinner "block" (by decide +kernel)) hfiles.2.2.1,
    hset "gettext" (by decide) _ _ _ _ _ _ hrunning (hcreated.current _)
      (hinner "set" (by decide +kernel)) hfiles.2.2.2⟩

end Engine

end Stencil
