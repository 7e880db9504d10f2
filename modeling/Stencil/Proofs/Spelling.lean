import Stencil.Proofs.Segments

/-!
# Spellings of a name

One template can be named in many ways: with doubled separators, with dots between them,
with slashes or backslashes. All of them have the same segments, and the candidates of a
name tell its segments back, since an extension is only put behind the last of them. So
two names have a candidate in common exactly if they are spellings of one list of
segments.

A name can also be split at a separator. Its first half then only moves the root, which
is why a directory of templates can be looked into from above or from within.

## Theorems

* `nameSegments_join`: The segments of two names with a slash between them.
* `Refused.of_join`: A name is refused only if one of its halves is.
* `Resolution.candidates_join`: The first half of a name moves the root.
* `Resolution.candidates_paths_ne`: The candidates of a name are different paths.
* `Resolution.candidates_tell`: A name and its candidates determine each other's segments.
* `Config.spelled_alike`: Names are compared by their segments.
-/

namespace Stencil

namespace Text

theorem replaceAll_append (c : Char) (r s t : List Char) :
    replaceAll c r (s ++ t) = replaceAll c r s ++ replaceAll c r t :=
  List.flatMap_append

/-- Where the character does not occur, nothing is replaced. -/
theorem replaceAll_of_not_mem {c : Char} {s : List Char} (h : c ∉ s) (r : List Char) :
    replaceAll c r s = s := by
  induction s with
  | nil => rfl
  | cons d s ih =>
      rw [List.mem_cons, not_or] at h
      rw [replaceAll, List.flatMap_cons, if_neg fun hd => h.1 hd.symm]
      exact congrArg (d :: ·) (ih h.2)

end Text

/-- The segments of two names with a slash between them. -/
theorem nameSegments_join (p q : String) :
    nameSegments (p ++ "/" ++ q) = nameSegments p ++ nameSegments q := by
  have hslash : Text.replaceAll '\\' ['/'] (p ++ "/" ++ q).toList =
      Text.replaceAll '\\' ['/'] p.toList ++ '/' :: Text.replaceAll '\\' ['/'] q.toList := by
    rw [String.toList_append, String.toList_append, List.append_assoc, Text.replaceAll_append]
    rfl
  simp only [← Resolution.ofChars_replaceAll, Path.ofChars, hslash, Path.segments_append,
    List.map_append]

/-- A name is refused only if one of its halves is. -/
theorem Refused.of_join {p q : String} (h : Refused (p ++ "/" ++ q)) : Refused p ∨ Refused q := by
  have hlist : (p ++ "/" ++ q).toList = p.toList ++ '/' :: q.toList := by
    rw [String.toList_append, String.toList_append, List.append_assoc]
    rfl
  rcases h with hblank | habs | hdots
  · -- The slash itself is not blank.
    have hslash := hblank '/' (by rw [hlist]; exact List.mem_append_right _ List.mem_cons_self)
    exact absurd hslash (by decide)
  · left
    cases hp : p.toList with
    | nil => exact Or.inl fun c hc => by rw [hp] at hc; cases hc
    | cons c cs =>
        -- A first half that says something brings the first character.
        rw [IsAbsolute, hlist, hp, List.cons_append, List.head?_cons] at habs
        exact Or.inr (Or.inl (by rw [IsAbsolute, hp, List.head?_cons]; exact habs))
  · rw [nameSegments_join] at hdots
    exact (List.mem_append.mp hdots).imp (Or.inr ∘ Or.inr) (Or.inr ∘ Or.inr)

namespace Resolution

/-- A name that has candidates is not refused. -/
theorem not_refused_of_candidates {root : Path} {name : String} {ext : Extensions}
    {cs : Resolution × Resolution} (h : candidates root (.text name) ext = .ok cs) :
    ¬Refused name := by
  intro hr
  rcases candidates_refused root ext hr with ⟨f, hf, -⟩
  rw [hf] at h
  cases h

/-- The first half of a name moves the root. -/
theorem candidates_join (root : Path) {p q : String} (ext : Extensions) (hp : ¬Refused p)
    (hq : ¬Refused q) :
    candidates root (.text (p ++ "/" ++ q)) ext =
      candidates ⟨root.anchor, root.parts ++ nameSegments p⟩ (.text q) ext := by
  have hpq : ¬Refused (p ++ "/" ++ q) := fun h => h.of_join.elim hp hq
  rw [candidates_accepted root ext hpq, candidates_accepted _ ext hq, nameSegments_join,
    List.append_assoc]

theorem parts_of_withName {p p' : Path} {name : String} (h : p.withName name = .ok p') :
    p'.parts = p.parts.dropLast ++ [name] := by
  rw [Path.withName] at h
  split at h
  · cases h
  · dsimp only at h
    split at h
    · cases h
    · obtain rfl := Except.ok.inj h
      rfl

/-- The candidates of a name are different paths. -/
theorem candidates_paths_ne {root : Path} {name : String} {ext : Extensions}
    (hext : ext.compiled ≠ ext.raw) {a b : Resolution}
    (h : candidates root (.text name) ext = .ok (a, b)) : a.path ≠ b.path := by
  rw [candidates_accepted root ext (not_refused_of_candidates h)] at h
  rcases exists_of_bind_eq_ok h with ⟨compiled, hcompiled, h⟩
  rcases exists_of_bind_eq_ok h with ⟨raw, hraw, h⟩
  cases h
  intro heq
  have hparts := congrArg Path.parts heq
  rw [parts_of_withName hcompiled, parts_of_withName hraw] at hparts
  -- Both are the same up to what stands behind the last segment.
  have hlast := List.head_eq_of_cons_eq (List.append_cancel_left hparts)
  exact hext (String.append_right_inj _ |>.mp hlast)

/-- Attaching one extension to two lists of segments keeps them apart. -/
theorem attached_inj {pre pre' : List String} {n n' ext : String} :
    pre ++ [n ++ ext] = pre' ++ [n' ++ ext] ↔ pre ++ [n] = pre' ++ [n'] := by
  simp only [← List.concat_eq_append, List.concat_inj, String.append_left_inj]

/-- Where a name with segments has candidates, both extensions can be put behind a
    segment. -/
theorem attachable_of_candidates {root : Path} {name : String} {ext : Extensions}
    (hcompiled : ext.compiled.toList.head? = some '.') (hraw : ext.raw.toList.head? = some '.')
    {pre : List String} {n : String} (hname : nameSegments name = pre ++ [n])
    {cs : Resolution × Resolution} (h : candidates root (.text name) ext = .ok cs) :
    Attachable ext.compiled ∧ Attachable ext.raw ∧
      cs = (⟨.compiled, ⟨root.anchor, root.parts ++ (pre ++ [n ++ ext.compiled])⟩⟩,
        ⟨.rawScript, ⟨root.anchor, root.parts ++ (pre ++ [n ++ ext.raw])⟩⟩) := by
  rw [candidates_of_segments (not_refused_of_candidates h) hname hcompiled hraw] at h
  split at h
  · rename_i hc
    split at h
    · rename_i hr
      exact ⟨hc, hr, (Except.ok.inj h).symm⟩
    · cases h
  · cases h

/-- Of two names that have segments either kind of candidates agrees exactly if the
    segments do. -/
theorem candidates_tell {root : Path} {p q : String} {ext : Extensions}
    (hcompiled : ext.compiled.toList.head? = some '.') (hraw : ext.raw.toList.head? = some '.')
    {a b a' b' : Resolution} (hp : candidates root (.text p) ext = .ok (a, b))
    (hq : candidates root (.text q) ext = .ok (a', b')) (hps : nameSegments p ≠ [])
    (hqs : nameSegments q ≠ []) :
    (a.path = a'.path ↔ nameSegments p = nameSegments q) ∧
      (b.path = b'.path ↔ nameSegments p = nameSegments q) := by
  rcases (List.eq_nil_or_concat' (nameSegments p)).resolve_left hps with ⟨pre, n, hpre⟩
  rcases (List.eq_nil_or_concat' (nameSegments q)).resolve_left hqs with ⟨pre', n', hpre'⟩
  rcases attachable_of_candidates hcompiled hraw hpre hp with ⟨-, -, hab⟩
  rcases attachable_of_candidates hcompiled hraw hpre' hq with ⟨-, -, hab'⟩
  cases hab
  cases hab'
  -- The root and the extension are the same on both sides and cancel.
  simp only [Path.mk.injEq, true_and, List.append_cancel_left_eq, attached_inj, hpre, hpre',
    and_self]

/-- A name with segments that has candidates under one root has them under every root. -/
theorem candidates_elsewhere {root : Path} {name : String} {ext : Extensions}
    (hcompiled : ext.compiled.toList.head? = some '.') (hraw : ext.raw.toList.head? = some '.')
    (hname : nameSegments name ≠ []) {cs : Resolution × Resolution}
    (h : candidates root (.text name) ext = .ok cs) (root' : Path) :
    ∃ cs', candidates root' (.text name) ext = .ok cs' := by
  rcases (List.eq_nil_or_concat' (nameSegments name)).resolve_left hname with ⟨pre, n, hpre⟩
  rcases attachable_of_candidates hcompiled hraw hpre h with ⟨hc, hr, -⟩
  rw [candidates_of_segments (not_refused_of_candidates h) hpre hcompiled hraw, if_pos hc,
    if_pos hr]
  exact ⟨_, rfl⟩

end Resolution

namespace Config

/-- Names are compared by their segments. Under one root and an accepted configuration, two
    names that have segments have the same compiled candidate exactly if they have the same
    script, and that is exactly if their segments are the same; the two candidates of a
    name are different paths; and of two names with a slash between them the first one
    moves the root: the candidates are those of the second under the root followed by what
    the first is read as, which without backslashes is the path it spells. -/
theorem spelled_alike {given : Bindings} {c : Config} (hc : ofFields given = .ok c) {root : Path}
    {p q : String} {a b a' b' : Resolution}
    (hp : Resolution.candidates root (.text p) c.extensions = .ok (a, b))
    (hq : Resolution.candidates root (.text q) c.extensions = .ok (a', b'))
    (hps : nameSegments p ≠ []) (hqs : nameSegments q ≠ []) :
    (a.path = a'.path ↔ b.path = b'.path) ∧
      (b.path = b'.path ↔ nameSegments p = nameSegments q) ∧
      (∀ name x y, Resolution.candidates root (.text name) c.extensions = .ok (x, y) →
        x.path ≠ y.path) ∧
      ∃ below cs, Resolution.cleanName p = .ok below ∧
        ('\\' ∉ p.toList → below = Path.ofString p) ∧
        Resolution.candidates root (.text (p ++ "/" ++ q)) c.extensions = .ok cs ∧
        Resolution.candidates (root ++ below) (.text q) c.extensions = .ok cs := by
  have hsound := sound_of_ofFields hc
  have hpr := Resolution.not_refused_of_candidates hp
  have hqr := Resolution.not_refused_of_candidates hq
  rcases Resolution.candidates_tell hsound.compiled hsound.raw hp hq hps hqs with ⟨ha, hb⟩
  rcases Resolution.candidates_elsewhere hsound.compiled hsound.raw hqs hq
    (root ++ (⟨.here, nameSegments p⟩ : Path)) with ⟨cs, hcs⟩
  refine ⟨ha.trans hb.symm, hb, fun _ _ _ => Resolution.candidates_paths_ne hsound.distinct,
    ⟨.here, nameSegments p⟩, cs, Resolution.cleanName_accepted hpr, fun hslash => ?_, ?_, hcs⟩
  · -- Without backslashes the name is read as it is written, and it starts with no slash.
    rw [← Resolution.ofChars_replaceAll, Text.replaceAll_of_not_mem hslash, Path.ofString,
      Path.ofChars, Path.anchorOf_of_head]
    intro hhead
    exact hpr (Or.inr (Or.inl (by rw [IsAbsolute, hhead]; rfl)))
  · rw [Resolution.candidates_join root c.extensions hpr hqr]
    exact hcs

/-- Two spellings of one name, the first with a backslash and the second with a dot and a
    slash too many. The second is found below the first from above and from within. -/
theorem spelled_alike_greet :
    let ext := Config.default.extensions
    let views : Path := ⟨.here, ["views"]⟩
    let a : Resolution := ⟨.compiled, .here, ["views", "mail", "greet.j2"]⟩
    let b : Resolution := ⟨.rawScript, .here, ["views", "mail", "greet.pyt"]⟩
    ofFields [] = .ok .default ∧
      Resolution.candidates views (.text "mail\\greet") ext = .ok (a, b) ∧
      Resolution.candidates views (.text "mail/.//greet") ext = .ok (a, b) ∧
      nameSegments "mail\\greet" ≠ [] ∧ nameSegments "mail/.//greet" ≠ [] ∧
      nameSegments "mail\\greet" = nameSegments "mail/.//greet" ∧
      ∃ below cs, Resolution.cleanName "mail\\greet" = .ok below ∧
        Resolution.candidates views (.text ("mail\\greet" ++ "/" ++ "mail/.//greet")) ext =
          .ok cs ∧
        Resolution.candidates (views ++ below) (.text "mail/.//greet") ext = .ok cs := by
  have hc : ofFields [] = .ok .default := rfl
  have hp : Resolution.candidates ⟨.here, ["views"]⟩ (.text "mail\\greet")
      Config.default.extensions = .ok (⟨.compiled, .here, ["views", "mail", "greet.j2"]⟩,
        ⟨.rawScript, .here, ["views", "mail", "greet.pyt"]⟩) := by decide +kernel
  have hq : Resolution.candidates ⟨.here, ["views"]⟩ (.text "mail/.//greet")
      Config.default.extensions = .ok (⟨.compiled, .here, ["views", "mail", "greet.j2"]⟩,
        ⟨.rawScript, .here, ["views", "mail", "greet.pyt"]⟩) := by decide +kernel
  have hps : nameSegments "mail\\greet" ≠ [] := by decide +kernel
  have hqs : nameSegments "mail/.//greet" ≠ [] := by decide +kernel
  rcases spelled_alike hc hp hq hps hqs with ⟨-, hsegments, -, below, cs, hbelow, -, hcs⟩
  exact ⟨hc, hp, hq, hps, hqs, hsegments.mp rfl, below, cs, hbelow, hcs⟩

end Config

end Stencil
