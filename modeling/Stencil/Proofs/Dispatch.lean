import Stencil.Session

/-!
# Calls by name

A helper can be called by name through a registry, a view or the context of a
script, and through the call proxy. Each of these functions passes on the arguments
and keywords that it is given, and what comes back is what the helper gave: a value
or a fault, and whatever the helper did to the scene.

This is said for anything that may be bound to a name. What calling it does is the
parameter `callee`, of which nothing is assumed, so the helpers that the library
brings along are one instance and any other function is another.

There is one exception. The functions on the way have named parameters of their own,
and a keyword of the same name cannot be told from them. Such a call is refused
before the helper is looked up, so the helper is not called and nothing changes.

## Main definitions

* `RepeatsParameter`: Some keyword has the name of a parameter on the way.
* `EveryRoute`: What holds of a call by name, whichever way it takes.

## Theorems

* `boundHelper_perform`: Looking up a bound name changes nothing.
* `callNamed_perform`: A call by name is the call of what is bound to it.
* `callNamed_unbound`: A name that nothing is bound to is refused.
* `callNamed_refuses`: So is every name if a keyword repeats a parameter.
* `callByProxyOf_perform`: The call proxy adds nothing to a call by name.
* `evaluate_call_perform`: Nor does a script.
* `everyRoute_of_method`: So it is enough to know the calls by name.
* `everyRoute_verbatim`: Calls are passed on as they are, on every way, exactly if
  no keyword repeats a parameter.
-/

namespace Stencil

/-- A keyword has the name of a parameter of the calling functions. -/
def RepeatsParameter (keywords : List (String × Value)) : Prop :=
  ∃ k ∈ keywords, k.1 ∈ reservedKeywords

instance (keywords : List (String × Value)) : Decidable (RepeatsParameter keywords) :=
  inferInstanceAs (Decidable (∃ k ∈ keywords, k.1 ∈ reservedKeywords))

/-- Looking up a name that something is bound to gives it and changes nothing. -/
theorem boundHelper_perform {s : Scene} {n : String} {b : HelperBinding}
    (hb : s.helpers.find? n = some b) (hp : b.helper ≠ .absent) :
    (boundHelper (.text n)).perform s = (.ok (n, b), s) := by
  have hkey : Value.keyFault? (.text n) = none := rfl
  have htext : (Value.text n).text? = some n := rfl
  -- A text can be a key, so the table is asked for it.
  simp only [boundHelper, hkey]
  rw [Stateful.perform_bind_ok (Stateful.perform_get s)]
  simp only [htext, Option.bind_some, hb, Option.map_some]
  -- Only an absent helper is treated as if its name were not bound.
  cases hh : b.helper with
  | absent => exact absurd hh hp
  | _ => rfl

/-- Without a keyword that repeats a parameter none is found. -/
theorem find?_reserved_eq_none {keywords : List (String × Value)}
    (hk : ¬RepeatsParameter keywords) :
    (keywords.find? fun k => reservedKeywords.contains k.1) = none := by
  rw [List.find?_eq_none]
  intro k hmem hc
  exact hk ⟨k, hmem, List.contains_iff_mem.mp hc⟩

/-- A call by name is the call of what is bound to the name, with the same arguments. -/
theorem callNamed_perform (callee : Callee) (className : String) {s : Scene} {n : String}
    {b : HelperBinding} (hb : s.helpers.find? n = some b) (hp : b.helper ≠ .absent)
    (args : List Value) {keywords : List (String × Value)} (hk : ¬RepeatsParameter keywords) :
    (callNamed callee className (.text n) args keywords).perform s =
      (callee n b args keywords).perform s := by
  simp only [callNamed, find?_reserved_eq_none hk]
  exact Stateful.perform_bind_ok (boundHelper_perform hb hp) _

/-- A call of a name that nothing is bound to is refused, and changes nothing. -/
theorem callNamed_unbound (callee : Callee) (className : String) {s : Scene} {n : String}
    (hn : s.helpers.find? n = none) (args : List Value) {keywords : List (String × Value)}
    (hk : ¬RepeatsParameter keywords) :
    ∃ w, (callNamed callee className (.text n) args keywords).perform s =
      (.error (.unknownHelper n), { s with world := w }) := by
  have hunbound : ∃ w, (boundHelper (.text n)).perform s =
      (.error (.unknownHelper n), { s with world := w }) := by
    have hkey : Value.keyFault? (.text n) = none := rfl
    have htext : (Value.text n).text? = some n := rfl
    simp only [boundHelper, hkey]
    rw [Stateful.perform_bind_ok (Stateful.perform_get s)]
    simp only [htext, Option.bind_some, hn, Option.map_none]
    exact ⟨_, rfl⟩
  obtain ⟨w, hw⟩ := hunbound
  simp only [callNamed, find?_reserved_eq_none hk]
  exact ⟨w, Stateful.perform_bind_error hw _⟩

/-- A call with a keyword that repeats a parameter is refused, whatever is bound to
    the name, and changes nothing. -/
theorem callNamed_refuses (callee : Callee) (className : String) (s : Scene) (name : Value)
    (args : List Value) {keywords : List (String × Value)} (hk : RepeatsParameter keywords) :
    ∃ k ∈ reservedKeywords, (callNamed callee className name args keywords).perform s =
      (.error (.misuse (.arguments (className ++ ".invoke() got multiple values for argument " ++
        Text.quoted k))), s) := by
  rcases hk with ⟨k, hmem, hres⟩
  cases hf : keywords.find? fun k => reservedKeywords.contains k.1 with
  | none =>
      have hnone := List.find?_eq_none.mp hf k hmem
      exact absurd (List.contains_iff_mem.mpr hres) hnone
  | some e =>
      -- The first keyword that repeats a parameter is the one in the message.
      refine ⟨e.1, ?_, ?_⟩
      · have := List.find?_some hf
        exact List.contains_iff_mem.mp this
      · simp only [callNamed, hf]
        exact Stateful.perform_throw _ s

/-- What the call proxy itself has starts with an underscore. -/
theorem not_mem_proxyOwn {n : String} (hn : "_".isPrefixOf n = false) :
    Registry.proxyOwn.contains n = false := by
  -- The list is fixed, so this can be looked up.
  have hall : ∀ m ∈ Registry.proxyOwn, "_".isPrefixOf m = true := by decide +kernel
  cases hc : Registry.proxyOwn.contains n with
  | false => rfl
  | true =>
      have := hall n (List.contains_iff_mem.mp hc)
      rw [hn] at this
      exact absurd this (by decide)

/-- Away from the names of its own the call proxy only passes calls on. -/
theorem callProxy_eq (call : Script.Caller) {n : String} (hn : "_".isPrefixOf n = false)
    (args : List Value) (keywords : List (String × Value)) :
    Script.callProxy call n args keywords = call "HelperRegistry" (.text n) args keywords := by
  simp only [Script.callProxy, not_mem_proxyOwn hn, Bool.false_eq_true, if_false]

/-- The call proxy shows the bound names that do not start with an underscore. -/
theorem proxyHas_of_find? {t : HelperTable} {n : String} {b : HelperBinding}
    (hb : t.find? n = some b) (hn : "_".isPrefixOf n = false) :
    Registry.proxyHas t n = true := by
  simp [Registry.proxyHas, Registry.proxyHelper, HelperTable.has, hb, hn]

/-- A call through the call proxy is the call by name on the registry. -/
theorem callByProxyOf_perform (call : Script.Caller) {s : Scene} {n : String}
    {b : HelperBinding} (hb : s.helpers.find? n = some b) (hn : "_".isPrefixOf n = false)
    (args : List Value) (keywords : List (String × Value)) :
    (callByProxyOf call n args keywords).perform s =
      (call "HelperRegistry" (.text n) args keywords).perform s := by
  simp only [callByProxyOf]
  rw [Stateful.perform_bind_ok (Stateful.perform_get s)]
  simp only [proxyHas_of_find? hb hn, if_true, callProxy_eq call hn]

/-- The class of the function that passes a script's calls on. -/
def Script.Route.className : Script.Route → String
  | .invoke => "ScriptContext"
  | .proxy | .contextProxy => "HelperRegistry"

/-- A call in a script is the call by name, once its arguments have their values. The
    proxy is asked for the name before that, and must have had it then. -/
theorem evaluate_call_perform (setting : Script.Setting) (route : Script.Route) {n : String}
    {t t₁ t₂ : Script.State} {es es' : List Script.Expr} {args ws : List Value}
    (keys : List String)
    (hargs : (Script.evaluateAll setting es).perform t = (.ok args, t₁))
    (hvalues : (Script.evaluateAll setting es').perform t₁ = (.ok ws, t₂))
    (hroute : route = .invoke ∨
      "_".isPrefixOf n = false ∧ Registry.proxyHas t.scene.helpers n = true) :
    (Script.evaluate setting (.call route n es keys es')).perform t =
      let r := (setting.call route.className (.text n) args (keys.zip ws)).perform t₂.scene
      (r.1, { t₂ with scene := r.2 }) := by
  -- Both routes end in the same three steps: arguments, keywords, call.
  have hsteps : Stateful.perform (do
      let args ← Script.evaluateAll setting es
      let ws ← Script.evaluateAll setting es'
      Script.Run.ofPlay (setting.call route.className (.text n) args (keys.zip ws))) t =
        (((setting.call route.className (.text n) args (keys.zip ws)).perform t₂.scene).1,
          { t₂ with
            scene := ((setting.call route.className (.text n) args
              (keys.zip ws)).perform t₂.scene).2 }) := by
    rw [Stateful.perform_bind_ok hargs, Stateful.perform_bind_ok hvalues,
      Script.Run.perform_ofPlay]
  refine Eq.trans ?_ hsteps
  -- The proxy moreover looks at the helpers before the arguments.
  rcases hroute with rfl | ⟨hn, hhas⟩
  · rfl
  · cases route with
    | invoke => rfl
    | proxy | contextProxy =>
        simp only [Script.evaluate]
        rw [Stateful.perform_bind_ok (Stateful.perform_get t)]
        simp only [hhas, if_true, callProxy_eq _ hn, Script.Route.className]

/-- What holds of a call by name, whichever way it takes: `P` of its result and of the
    scene that it leaves. The calls are those of any calling function, of the functions
    of views and registries, through the proxy, and in a script whose arguments come to
    the same values. -/
structure EveryRoute (callee : Callee) (s : Scene) (n : String) (args : List Value)
    (keywords : List (String × Value)) (P : Except Fault Value × Scene → Prop) : Prop where
  method : ∀ className : String,
    P ((callNamed callee className (.text n) args keywords).perform s)
  view : ∀ v : View, callee = ownCallee nestedRender v.owner →
    P ((v.invoke n args keywords).perform s)
  registry : callee = ownCallee nestedRender .registry →
    P ((RegistrySession.invoke n args keywords).perform s)
  proxy : "_".isPrefixOf n = false →
    P ((callByProxyOf (callNamed callee) n args keywords).perform s)
  ownProxy : ∀ owner : Owner, callee = ownCallee nestedRender owner →
    "_".isPrefixOf n = false → P ((callByProxy owner n args keywords).perform s)
  script : ∀ (setting : Script.Setting) (route : Script.Route) (t t₁ t₂ : Script.State)
    (es es' : List Script.Expr) (keys : List String) (ws : List Value),
    setting.call = callNamed callee →
    (Script.evaluateAll setting es).perform t = (.ok args, t₁) →
    (Script.evaluateAll setting es').perform t₁ = (.ok ws, t₂) →
    keys.zip ws = keywords → t₂.scene = s →
    (route = .invoke ∨ "_".isPrefixOf n = false ∧ Registry.proxyHas t.scene.helpers n = true) →
    ∃ r, P r ∧ (Script.evaluate setting (.call route n es keys es')).perform t =
      (r.1, { t₂ with scene := r.2 })

/-- Every way of calling comes down to the call by a function of some class. -/
theorem everyRoute_of_method {callee : Callee} {s : Scene} {n : String} {b : HelperBinding}
    (hb : s.helpers.find? n = some b) {args : List Value} {keywords : List (String × Value)}
    {P : Except Fault Value × Scene → Prop}
    (h : ∀ className : String,
      P ((callNamed callee className (.text n) args keywords).perform s)) :
    EveryRoute callee s n args keywords P := by
  have hproxy : "_".isPrefixOf n = false →
      P ((callByProxyOf (callNamed callee) n args keywords).perform s) := by
    intro hn
    rw [callByProxyOf_perform _ hb hn]
    exact h "HelperRegistry"
  refine ⟨h, ?_, ?_, hproxy, ?_, ?_⟩
  · intro v hv
    subst hv
    exact h "TemplateView"
  · intro hr
    subst hr
    exact h "HelperRegistry"
  · intro owner ho hn
    subst ho
    exact hproxy hn
  · intro setting route t t₁ t₂ es es' keys ws hcall hargs hvalues hkeys hs hroute
    refine ⟨_, h route.className, ?_⟩
    rw [evaluate_call_perform setting route keys hargs hvalues hroute, hcall, hkeys, hs]

/-- A bound name is called by passing on the arguments and keywords as they are, on
    every way, unless a keyword repeats a parameter; then no way calls it, each gives
    the same kind of fault and leaves the scene alone. -/
theorem everyRoute_verbatim (callee : Callee) {s : Scene} {n : String} {b : HelperBinding}
    (hb : s.helpers.find? n = some b) (hp : b.helper ≠ .absent) (args : List Value)
    (keywords : List (String × Value)) :
    (¬RepeatsParameter keywords →
      EveryRoute callee s n args keywords (· = (callee n b args keywords).perform s)) ∧
    (RepeatsParameter keywords →
      EveryRoute callee s n args keywords fun r => ∃ className, ∃ k ∈ reservedKeywords,
        r = (.error (.misuse (.arguments (className ++
          ".invoke() got multiple values for argument " ++ Text.quoted k))), s)) := by
  refine ⟨fun hk => everyRoute_of_method hb fun className => ?_,
    fun hk => everyRoute_of_method hb fun className => ?_⟩
  · exact callNamed_perform callee className hb hp args hk
  · exact ⟨className, callNamed_refuses callee className s (.text n) args hk⟩

/-- A scene with one helper, which tells its arguments. -/
def echoScene : Scene := ⟨[], [("greet", ⟨.echo, 0⟩)], .ofFiles .empty 0 "" ⟨.here, []⟩⟩

/-- The helper is told an argument and a keyword on every way. -/
theorem everyRoute_verbatim_echo :
    EveryRoute (ownCallee nestedRender .registry) echoScene "greet" [.text "ada"]
      [("loud", .bool true)] (· = (.ok (.dict [(.text "args", .list [.text "ada"]),
        (.text "kwargs", .dict [(.text "loud", .bool true)])]), echoScene)) :=
  (everyRoute_verbatim (ownCallee nestedRender .registry)
    (rfl : echoScene.helpers.find? "greet" = some ⟨.echo, 0⟩) (by simp) [.text "ada"]
    [("loud", .bool true)]).1 (by decide)

/-- A keyword called `name` does not reach the helper, so not every call by name is
    passed on as it is. -/
theorem not_verbatim_name :
    ¬∀ (callee : Callee) (s : Scene) (n : String) (b : HelperBinding) (args : List Value)
      (keywords : List (String × Value)), s.helpers.find? n = some b → b.helper ≠ .absent →
      (callNamed callee "HelperRegistry" (.text n) args keywords).perform s =
        (callee n b args keywords).perform s := by
  intro h
  have hcall := h (ownCallee nestedRender .registry) echoScene "greet" ⟨.echo, 0⟩ []
    [("name", .text "ada")] rfl (by simp)
  -- The helper would have answered, the function on the way does not let it.
  have hresult := congrArg Prod.fst hcall
  exact absurd hresult (by simp [callNamed, reservedKeywords, ownCallee, applyHelper, callBound,
    Helper.perform])

end Stencil
