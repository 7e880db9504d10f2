import Stencil.Proofs.Bringing
import Stencil.Proofs.Dispatch

/-!
# Whether a name is bound

A registry can be asked in many ways whether something is bound to a name: whether it holds the
name, which names it lists, whether the name can be removed, whether it can be added, and
whether calling it comes to a helper. The call proxy can be asked whether it has an attribute
of that name, and for a call of it. As long as all helpers can be called, the answers are all
the same, except that the proxy never looks for names that start with an underscore: of these
it has what it has itself, whatever is bound.

That helpers can be called lasts, because scripts and helpers bring constants only. A name can
be bound to nothing at all only if a caller says so, and then calls are refused though the name
is there.

## Main definitions

* `Helper.isCallable`: A helper that can be called.
* `Reaching`, `Refusing`: Calls come to what is bound to a name, or are refused.
* `Registry.Observed`: All that can be asked about a name comes to whether it is bound.
* `RegistrySession.after`: What becomes of a registry.

## Theorems

* `HelperTable.observed`: Where all helpers can be called all answers are the same.
* `changed_registry_call`: What calls change that a registry takes by itself.
* `RegistrySession.after_all`: The helpers of a registry stay of a kind.
* `Registry.observed_alike`: After everything that may have happened the answers are the same.
* `Registry.not_observed_private`: The proxy hides names that start with an underscore.
-/

namespace Stencil

/-- A helper that can be called. -/
def Helper.isCallable : Helper → Bool
  | .absent | .notCallable => false
  | _ => true

/-- Something that is brought can be called. -/
abbrev Callable (_ : String) (h : Helper) : Prop := h.isCallable = true

/-- All the helpers that a step on a registry brings are of a kind. -/
def RegistryStep.Brings (P : String → Helper → Prop) : RegistryStep → Prop
  | .new helpers | .merge helpers => (Change.overlay helpers).Brings P
  | .add n h => (Change.add n h).Brings P
  | _ => True

/-- Some way of calling a name, given what calling something that is bound does. -/
abbrev Calling := Callee → List Value → List (String × Value) → Play Value

section

variable (call : Calling) (s : Scene) (n : String)

/-- Calls come to a helper that is bound to a name. Whatever calling it does, they do. -/
def Reaching : Prop :=
  ∃ b, s.helpers.find? n = some b ∧ b.helper.isCallable = true ∧
    ∀ callee args keywords, ¬RepeatsParameter keywords →
      (call callee args keywords).perform s = (callee n b args keywords).perform s

/-- Calls are refused because nothing is bound to the name. -/
def Refusing : Prop :=
  ∀ callee args keywords, ¬RepeatsParameter keywords →
    ((call callee args keywords).perform s).1 = .error (.unknownHelper n)

end

/-- Calls of a name by a function of a class, and through the call proxy. -/
def calledBy (className : String) (n : String) : Calling := fun callee =>
  callNamed callee className (.text n)

def calledByProxy (n : String) : Calling := fun callee => callByProxyOf (callNamed callee) n

/-- What a registry answers. -/
def RegistryStep.answer (st : RegistryStep) (s : Scene) : Except Fault Result :=
  ((RegistrySession.tableStep st).perform s).1

/-- All that a registry can be asked about a name comes to whether something is bound to it. The
    call proxy goes along with that for names that do not start with an underscore, and of the
    others it has only those of its own. -/
structure Registry.Observed (s : Scene) (n : String) : Prop where
  contains : (RegistryStep.contains n).answer s = .ok (.value (.bool true)) ↔
    (s.helpers.find? n).isSome
  /-- The names are also what the call proxy lists. -/
  names : (∃ ns : List String, n ∈ ns ∧
    RegistryStep.names.answer s = .ok (.value (.list (ns.map Value.text)))) ↔
      (s.helpers.find? n).isSome
  removed : (RegistryStep.remove n).answer s = .ok .none ↔ (s.helpers.find? n).isSome
  refused : ∀ h, (RegistryStep.add n h).answer s = .error (.duplicateHelper n) ↔
    (s.helpers.find? n).isSome
  invoked : ∀ className, Reaching (calledBy className n) s n ↔ (s.helpers.find? n).isSome
  invokedUnknown : ∀ className, Refusing (calledBy className n) s n ↔ ¬(s.helpers.find? n).isSome
  shown : "_".isPrefixOf n = false →
    ((RegistryStep.proxyHas n).answer s = .ok (.value (.bool true)) ↔ (s.helpers.find? n).isSome)
  called : "_".isPrefixOf n = false →
    (Reaching (calledByProxy n) s n ↔ (s.helpers.find? n).isSome)
  calledUnknown : "_".isPrefixOf n = false →
    (Refusing (calledByProxy n) s n ↔ ¬(s.helpers.find? n).isSome)
  hidden : "_".isPrefixOf n = true →
    ((RegistryStep.proxyHas n).answer s = .ok (.value (.bool true)) ↔ n ∈ Registry.proxyOwn) ∧
      ¬Reaching (calledByProxy n) s n

variable {s : Scene} {n : String}

/-! ## What is answered -/

/-- Calls do not come to a helper and are refused as well. -/
theorem Reaching.not_refusing {call : Calling} (h : Reaching call s n) : ¬Refusing call s n := by
  intro hrefusing
  obtain ⟨b, -, -, hcall⟩ := h
  have hnone : ¬RepeatsParameter [] := by decide
  -- A helper that gives a value tells the two apart.
  have hvalue := hrefusing (fun _ _ _ _ => pure .null) [] [] hnone
  rw [hcall _ _ _ hnone] at hvalue
  cases hvalue

/-- A way of calling that comes to what is bound, and is refused otherwise. -/
theorem reaching_iff {call : Calling}
    (hbound : ∀ b, s.helpers.find? n = some b → Reaching call s n)
    (hfree : s.helpers.find? n = none → Refusing call s n) :
    (Reaching call s n ↔ (s.helpers.find? n).isSome) ∧
      (Refusing call s n ↔ ¬(s.helpers.find? n).isSome) := by
  cases hfind : s.helpers.find? n with
  | none =>
      have hrefusing := hfree hfind
      exact ⟨⟨fun h => absurd hrefusing h.not_refusing, nofun⟩,
        ⟨fun _ => nofun, fun _ => hrefusing⟩⟩
  | some b =>
      have hreaching := hbound b hfind
      exact ⟨⟨fun _ => rfl, fun _ => hreaching⟩,
        ⟨fun h => absurd h hreaching.not_refusing, fun h => absurd rfl h⟩⟩

theorem HelperTable.All.callable_of_find? (hs : s.helpers.All Callable) {b : HelperBinding}
    (hb : s.helpers.find? n = some b) : b.helper.isCallable = true :=
  hs n b.helper (congrArg (Option.map HelperBinding.helper) hb)

theorem Helper.ne_absent {h : Helper} (hh : h.isCallable = true) : h ≠ .absent := by
  rintro rfl
  cases hh

/-- Calls by name come to what is bound to the name. -/
theorem reaching_calledBy (hs : s.helpers.All Callable) (className : String) :
    (Reaching (calledBy className n) s n ↔ (s.helpers.find? n).isSome) ∧
      (Refusing (calledBy className n) s n ↔ ¬(s.helpers.find? n).isSome) := by
  refine reaching_iff (fun b hb => ?_) fun hfree callee args keywords hk => ?_
  · have hcallable := hs.callable_of_find? hb
    exact ⟨b, hb, hcallable, fun callee args keywords hk =>
      callNamed_perform callee className hb (Helper.ne_absent hcallable) args hk⟩
  · obtain ⟨w, hw⟩ := callNamed_unbound callee className hfree args hk
    exact congrArg Prod.fst hw

theorem callByProxyOf_missing (call : Script.Caller) (hn : Registry.proxyHas s.helpers n = false)
    (args : List Value) (keywords : List (String × Value)) :
    (callByProxyOf call n args keywords).perform s = (.error (.unknownHelper n), s) := by
  rw [callByProxyOf, Stateful.perform_bind_ok (Stateful.perform_get s)]
  simp only [hn, Bool.false_eq_true, if_false]
  rfl

theorem proxyHas_public (t : HelperTable) (hn : "_".isPrefixOf n = false) :
    Registry.proxyHas t n = (t.find? n).isSome := by
  rw [Registry.proxyHas, not_mem_proxyOwn hn, Registry.proxyHelper, hn]
  rfl

/-- Away from names with an underscore in front calls through the proxy do, too. -/
theorem reaching_calledByProxy (hs : s.helpers.All Callable) (hn : "_".isPrefixOf n = false) :
    (Reaching (calledByProxy n) s n ↔ (s.helpers.find? n).isSome) ∧
      (Refusing (calledByProxy n) s n ↔ ¬(s.helpers.find? n).isSome) := by
  refine reaching_iff (fun b hb => ?_) fun hfree callee args keywords _ => ?_
  · have hcallable := hs.callable_of_find? hb
    refine ⟨b, hb, hcallable, fun callee args keywords hk => ?_⟩
    exact (callByProxyOf_perform _ hb hn args keywords).trans
      (callNamed_perform callee _ hb (Helper.ne_absent hcallable) args hk)
  · have hhas : Registry.proxyHas s.helpers n = false := by rw [proxyHas_public _ hn, hfree]; rfl
    exact congrArg Prod.fst (callByProxyOf_missing _ hhas args keywords)

/-- Of names with an underscore in front the proxy has its own, and calls of them never come to a
    helper. -/
theorem not_reaching_private (hn : "_".isPrefixOf n = true) :
    Registry.proxyHas s.helpers n = Registry.proxyOwn.contains n ∧
      ¬Reaching (calledByProxy n) s n := by
  have hhas : Registry.proxyHas s.helpers n = Registry.proxyOwn.contains n := by
    simp [Registry.proxyHas, Registry.proxyHelper, hn]
  -- A call that came to a helper would give its value with any way to call helpers, so also with
  -- one that always gives a value.
  refine ⟨hhas, fun ⟨b, _, _, hcall⟩ => ?_⟩
  have hvalue := hcall (fun _ _ _ _ => pure .null) [] [] (by decide)
  have hfault : ∃ f t, (calledByProxy n (fun _ _ _ _ => pure .null) [] []).perform s =
      (.error f, t) := by
    cases hown : Registry.proxyOwn.contains n with
    | false => exact ⟨_, _, callByProxyOf_missing _ (hhas.trans hown) [] []⟩
    | true =>
        rw [calledByProxy, callByProxyOf, Stateful.perform_bind_ok (Stateful.perform_get s)]
        simp only [hhas, hown, if_true, Script.callProxy]
        exact ⟨_, _, rfl⟩
  obtain ⟨f, t, hfault⟩ := hfault
  rw [hfault] at hvalue
  cases hvalue

/-- Where all helpers can be called all answers are the same. -/
theorem HelperTable.observed (hs : s.helpers.All Callable) (hn : n ≠ "") :
    Registry.Observed s n where
  contains := by
    show Except.ok (Result.value (.bool (s.helpers.find? n).isSome)) = _ ↔ _
    simp
  names := by
    have hanswer : RegistryStep.names.answer s =
        .ok (.value (.list (s.helpers.names.map Value.text))) := rfl
    have hmem : n ∈ s.helpers.names ↔ (s.helpers.find? n).isSome := by
      rw [HelperTable.mem_names, ← HelperTable.has_eq]
      rfl
    rw [← hmem, hanswer]
    -- The answer is a list of texts, and no other names have the same texts.
    refine ⟨fun ⟨ns, hns, heq⟩ => ?_, fun hmem => ⟨_, hmem, rfl⟩⟩
    have htext : Function.Injective Value.text := fun a b h => by cases h; rfl
    rw [htext.list_map (Value.list.inj (Result.value.inj (Except.ok.inj heq)))]
    exact hns
  removed := by
    obtain ⟨w, hremove⟩ := Registry.remove_perform n s
    have hanswer : (RegistryStep.remove n).answer s =
        if s.helpers.has n then .ok .none else .error (.unknownHelper n) := by
      rw [RegistryStep.answer, RegistrySession.tableStep, Stateful.perform_bind, hremove]
      cases s.helpers.has n <;> rfl
    rw [hanswer, HelperTable.has]
    cases (s.helpers.find? n).isSome <;> simp
  refused h := by
    obtain ⟨w, hadd⟩ := Registry.add_perform n h s
    have hanswer : (RegistryStep.add n h).answer s =
        if s.helpers.has n then .error (.duplicateHelper n) else .ok .none := by
      rw [RegistryStep.answer, RegistrySession.tableStep, Stateful.perform_bind, hadd, if_neg hn]
      cases s.helpers.has n <;> rfl
    rw [hanswer, HelperTable.has]
    cases (s.helpers.find? n).isSome <;> simp
  invoked className := (reaching_calledBy hs className).1
  invokedUnknown className := (reaching_calledBy hs className).2
  shown hname := by
    show Except.ok (Result.value (.bool (Registry.proxyHas s.helpers n))) = _ ↔ _
    rw [proxyHas_public _ hname]
    simp
  called hname := (reaching_calledByProxy hs hname).1
  calledUnknown hname := (reaching_calledByProxy hs hname).2
  hidden hname := by
    obtain ⟨hhas, hcall⟩ := not_reaching_private (s := s) hname
    refine ⟨?_, hcall⟩
    show Except.ok (Result.value (.bool (Registry.proxyHas s.helpers n))) = _ ↔ _
    rw [hhas]
    simp

/-! ## What may have happened -/

/-- A helper that a registry calls by itself does what it does for a view whose renders are those
    of the registry, unless it asks for data. -/
theorem callBound_registry (nested : Nested) (v : View) {b : HelperBinding}
    (hset : b.helper ≠ .setData) (hget : b.helper ≠ .getData) (args : List Value)
    (keywords : List (String × Value)) :
    callBound nested .registry n b args keywords =
      callBound (fun _ => nested .registry) v.owner n b args keywords := by
  obtain ⟨h, calls⟩ := b
  cases h with
  | setData => exact absurd rfl hset
  | getData => exact absurd rfl hget
  | _ => rfl

section

variable {P : String → Helper → Prop} (hconst : ∀ n x, P n (.const x))
include hconst

theorem callBound_registry_all (nested : Nested) {q : Reached} (hq : s.helpers.Reaches q)
    (hs : s.helpers.All P) :
    ((callBound nested .registry q.name q.binding q.args q.keywords).perform
      s).2.helpers.All P := by
  by_cases hdata : q.binding.helper = .setData ∨ q.binding.helper = .getData
  · -- A registry has no data, so nothing happens.
    have hstays : ((callBound nested .registry q.name q.binding q.args q.keywords).perform s).2 =
        s := by
      rcases hdata with hdata | hdata <;> simp only [callBound, hdata, Helper.perform] <;> rfl
    rwa [hstays]
  · rw [not_or] at hdata
    let v : View := ⟨.null, .default, default, [], []⟩
    rw [callBound_registry nested v hdata.1 hdata.2]
    exact (changed_helper hq _ v).all hs (q.changes_brings hconst s)

/-- Calls that a registry takes by itself bring constants only. -/
theorem callHelper_registry_all (nested : Nested) (className : String) (name : Value)
    (args : List Value) (keywords : List (String × Value)) (hs : s.helpers.All P) :
    ((callHelper nested .registry className name args keywords).perform s).2.helpers.All P := by
  cases h : s.helpers.reached? name args keywords with
  | none =>
      obtain ⟨f, hf⟩ := callHelper_unreached .registry className h
      exact (hf nested).changed.all hs nofun
  | some q =>
      obtain ⟨hcall, hq⟩ := callHelper_reached nested .registry className h
      rw [hcall]
      exact callBound_registry_all hconst nested hq hs

/-- A call through the proxy is one by name, or comes to nothing. -/
theorem callByProxy_registry_all (name : String) (args : List Value)
    (keywords : List (String × Value)) (hs : s.helpers.All P) :
    ((callByProxy .registry name args keywords).perform s).2.helpers.All P := by
  rw [callByProxy, callByProxyOf, Stateful.perform_bind_ok (Stateful.perform_get s)]
  split
  · rw [Script.callProxy]
    split
    · exact hs
    · exact callHelper_registry_all hconst nestedRender "HelperRegistry" (.text name) args
        keywords hs
  · exact hs

/-- A step on a registry leaves helpers of a kind if it brings such. -/
theorem RegistryStep.keeps_all {st : RegistryStep} (hst : st.Brings P) (hs : s.helpers.All P) :
    ((RegistrySession.tableStep st).perform s).2.helpers.All P := by
  have hreturn {α : Type} (p : Play α) (f : α → Result) :
      ((do return f (← p) : Play Result).perform s).2 = (p.perform s).2 := by
    rw [Stateful.perform_bind]
    rcases p.perform s with ⟨e | x, t⟩ <;> rfl
  have hone {c : Change} (hc : c.Brings P) : ∀ c' ∈ [c], c'.Brings P := fun c' hc' =>
    List.mem_singleton.mp hc' ▸ hc
  -- Steps that give something back leave the table that their action leaves.
  cases st with
  | new helpers =>
      have hempty : HelperTable.All P [] := fun _ _ => nofun
      refine (hreturn (RegistrySession.fresh helpers) fun _ => .none) ▸ ?_
      rw [RegistrySession.fresh, Stateful.perform_bind_ok (Stateful.perform_get s)]
      cases helpers with
      | nil => exact hempty
      | cons e es =>
          obtain ⟨w, -, hmerge⟩ := Registry.mergeDefaults_perform (e :: es) { s with helpers := [] }
          refine (congrArg (·.2.helpers) hmerge) ▸ ?_
          exact HelperTable.all_overlay_nil hst
  | add name helper =>
      exact ((changed_add name helper s).andReturn fun _ => Result.none).all hs (hone hst)
  | remove name =>
      exact ((changed_remove name s).andReturn fun _ => Result.none).all hs (hone trivial)
  | merge helpers =>
      obtain ⟨w, -, hmerge⟩ := Registry.mergeDefaults_perform helpers s
      refine (hreturn (Registry.mergeDefaults helpers) fun _ => .none) ▸ ?_
      rw [hmerge]
      exact (Changed.overlay helpers w).all hs (hone hst)
  | invoke name args keywords =>
      refine (hreturn (RegistrySession.invoke name args keywords) Result.value) ▸ ?_
      exact callHelper_registry_all hconst nestedRender _ _ args keywords hs
  | call name args keywords =>
      refine (hreturn (callByProxy .registry name args keywords) Result.value) ▸ ?_
      exact callByProxy_registry_all hconst name args keywords hs
  | take name =>
      rw [RegistrySession.tableStep, Stateful.perform_bind_ok (Stateful.perform_get s)]
      split <;> exact hs
  | callTaken | proxyHas | has | contains | shown | names => exact hs

/-- The helpers of a registry and of one that was replaced are of a kind. -/
def RegistrySession.All (P : String → Helper → Prop) (r : RegistrySession) : Prop :=
  r.scene.helpers.All P ∧ ∀ t ∈ r.taken, ∀ old ∈ t.old, HelperTable.All P old

theorem RegistrySession.step_all {st : RegistryStep} (hst : st.Brings P) {r : RegistrySession}
    (hr : r.All P) : (r.step st).2.All P := by
  have hkeeps := RegistryStep.keeps_all hconst hst hr.1
  cases st with
  | callTaken args keywords =>
      rw [RegistrySession.step]
      simp only
      cases htaken : r.taken with
      | none => exact hr
      | some t =>
          simp only [RegistrySession.callTaken]
          -- What was taken belongs to the registry, or to one that was replaced.
          cases hold : t.old with
          | none =>
              have hcall := callHelper_registry_all hconst nestedRender "HelperRegistry"
                (.text t.name) args keywords hr.1
              exact ⟨hcall, hr.2⟩
          | some old =>
              have hcall := callHelper_registry_all (s := { r.scene with helpers := old }) hconst
                nestedRender "HelperRegistry" (.text t.name) args keywords (hr.2 t htaken old hold)
              refine ⟨hr.1, fun t' ht' old' hold' => ?_⟩
              obtain rfl := Option.some.inj ht'
              obtain rfl := Option.some.inj hold'
              exact hcall
  | take name =>
      rw [RegistrySession.step]
      rcases hstep : (RegistrySession.tableStep (.take name)).perform r.scene with ⟨f | x, t⟩
      · rw [hstep] at hkeeps
        exact ⟨hkeeps, hr.2⟩
      · rw [hstep] at hkeeps
        refine ⟨hkeeps, fun t' ht' old hold => ?_⟩
        obtain rfl := Option.some.inj ht'
        cases hold
  | new helpers =>
      rw [RegistrySession.step]
      rcases hstep : (RegistrySession.tableStep (.new helpers)).perform r.scene with ⟨f | x, t⟩
      · exact ⟨hr.1, hr.2⟩
      · rw [hstep] at hkeeps
        refine ⟨hkeeps, fun t' ht' old hold => ?_⟩
        -- What was taken keeps the table that it belongs to, which may be the one that is replaced
        -- here.
        obtain ⟨t₀, ht₀, rfl⟩ := Option.map_eq_some_iff.mp ht'
        rcases Option.or_eq_some_iff.mp hold with hold | ⟨-, hold⟩
        · exact hr.2 t₀ ht₀ old hold
        · exact Option.some.inj hold ▸ hr.1
  | _ => exact ⟨hkeeps, hr.2⟩

/-- What becomes of a registry. -/
def RegistrySession.after (steps : List RegistryStep) (r : RegistrySession) : RegistrySession :=
  steps.foldl (fun r st => (r.step st).2) r

/-- The helpers of a registry stay of a kind. -/
theorem RegistrySession.after_all {steps : List RegistryStep} (hsteps : ∀ st ∈ steps, st.Brings P)
    {r : RegistrySession} (hr : r.All P) : (r.after steps).All P := by
  induction steps generalizing r with
  | nil => exact hr
  | cons st steps ih =>
      exact ih (fun st hst => hsteps st (List.mem_cons_of_mem _ hst))
        (RegistrySession.step_all hconst (hsteps st List.mem_cons_self) hr)

/-- The deeds of scripts bring constants only. -/
theorem Script.doneAll_all (v : View) (ds : List Script.Deed) (hs : s.helpers.All P) :
    (Script.doneAll (callHelper nestedRender v.owner) ds s).helpers.All P :=
  (changed_deeds nestedRender v ds s).all hs (Script.deedsChanges_brings hconst _ ds s)

end

/-! ## All answers -/

/-- After everything that may have happened all answers are the same. For a registry by itself
    this is so after all steps in which callers bring helpers that can be called, also for one
    that was replaced in the meantime and that something was taken from. For that of a view it is
    so after all operations in which they do, and in the middle of scripts. -/
theorem Registry.observed_alike (hn : n ≠ "") :
    (∀ w steps, (∀ st ∈ steps, st.Brings Callable) →
      let r := (RegistrySession.ofWorld w).after steps
      Registry.Observed r.scene n ∧
        ∀ t ∈ r.taken, ∀ old ∈ t.old, Registry.Observed { r.scene with helpers := old } n) ∧
    ∀ (v : View) data helpers w ops ds, (∀ e ∈ helpers, e.2.isCallable = true) →
      (∀ o ∈ ops, o.Brings Callable) →
      Registry.Observed (Script.doneAll (callHelper nestedRender v.owner) ds
        (v.after ops ⟨data, (HelperTable.overlay [] helpers).1, w⟩)) n := by
  have hconst : ∀ n x, Callable n (.const x) := fun _ _ => rfl
  refine ⟨fun w steps hsteps => ?_, fun v data helpers w ops ds hhelpers hops => ?_⟩
  · have hempty : (RegistrySession.ofWorld w).All Callable := ⟨fun _ _ => nofun, nofun⟩
    have hafter := RegistrySession.after_all hconst hsteps hempty
    exact ⟨HelperTable.observed hafter.1 hn, fun t ht old hold =>
      HelperTable.observed (s := { RegistrySession.scene _ with helpers := old })
        (hafter.2 t ht old hold) hn⟩
  · have hstart : HelperTable.All Callable (HelperTable.overlay [] helpers).1 :=
      HelperTable.all_overlay_nil fun e he _ => hhelpers e he
    exact HelperTable.observed
      (Script.doneAll_all hconst v ds (View.after_all hconst hops v hstart)) hn

/-- A registry in which something was bound, replaced by another one and removed. -/
theorem Registry.observed_alike_greet :
    let w : World := .ofFiles .empty 0 "" ⟨.here, []⟩
    let r := (RegistrySession.ofWorld w).after
      [.add "greet" .echo, .merge [("greet", .upper), ("add", .addConst)],
        .invoke "add" [.text "_bye", .int 1] [], .remove "add"]
    Registry.Observed r.scene "greet" ∧ r.scene.helpers.has "greet" = true ∧
      r.scene.helpers.has "_bye" = true ∧ r.scene.helpers.has "add" = false := by
  intro w r
  refine ⟨((Registry.observed_alike (n := "greet") (by decide)).1 w _ ?_).1, rfl, rfl, rfl⟩
  intro st hst
  simp only [List.mem_cons, List.not_mem_nil, or_false] at hst
  rcases hst with rfl | rfl | rfl | rfl
  · exact fun _ => rfl
  · show ∀ e ∈ [("greet", Helper.upper), ("add", .addConst)], e.1 ≠ "" → e.2.isCallable = true
    decide
  · trivial
  · trivial

/-- A name with an underscore in front that is bound is not an attribute of the proxy, and calls
    of it through the proxy are refused, while everything else says that it is bound. The other
    way round the proxy has attributes that nothing is bound to. -/
theorem Registry.not_observed_private :
    let w : World := .ofFiles .empty 0 "" ⟨.here, []⟩
    let r := (RegistrySession.ofWorld w).after [.add "_x" (.const (.int 1))]
    (r.step (.contains "_x")).1 = .ok (.value (.bool true)) ∧
      (r.step .names).1 = .ok (.value (.list [.text "_x"])) ∧
      (r.step (.invoke "_x" [] [])).1 = .ok (.value (.int 1)) ∧
      (r.step (.proxyHas "_x")).1 = .ok (.value (.bool false)) ∧
      (r.step (.call "_x" [] [])).1 = .error (.unknownHelper "_x") ∧
      (r.step (.contains "__class__")).1 = .ok (.value (.bool false)) ∧
      (r.step (.proxyHas "__class__")).1 = .ok (.value (.bool true)) := by
  intro w r
  have hprivate : Registry.proxyHas r.scene.helpers "_x" = false := by decide +kernel
  have hown : Registry.proxyHas r.scene.helpers "__class__" = true := by decide +kernel
  have hmissing : (callByProxy .registry "_x" [] []).perform r.scene =
      (.error (.unknownHelper "_x"), r.scene) := callByProxyOf_missing _ hprivate [] []
  have hcall : (r.step (.call "_x" [] [])).1 = .error (.unknownHelper "_x") := by
    rw [RegistrySession.step, RegistrySession.tableStep, Stateful.perform_bind_error hmissing]
  have hanswer (b : Bool) {n : String} (hb : Registry.proxyHas r.scene.helpers n = b) :
      (r.step (.proxyHas n)).1 = .ok (.value (.bool b)) :=
    congrArg (fun b => Except.ok (Result.value (.bool b))) hb
  exact ⟨rfl, rfl, rfl, hanswer false hprivate, hcall, rfl, hanswer true hown⟩

end Stencil
