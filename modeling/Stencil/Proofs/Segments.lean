import Mathlib.Data.List.Basic
import Mathlib.Tactic.ByContra
import Stencil.Resolution

/-!
# Segments of names, extensions and roots

A name is cut into pieces at slashes and backslashes, and the pieces that say
something are its segments. What a name stands for depends on them alone, so this is
the form in which everything about names is said. An extension is put behind the
last segment as it is written, which succeeds exactly if nothing in it starts a
segment of its own.

The configuration only lets in roots whose parts are segments and extensions that
start with a dot, and these two facts are all that is needed of it.

## Main definitions

* `Path.IsSegment`: A part that reading a path can give.
* `Path.Under`: A path is a root followed by further segments, none a double dot.
* `nameSegments`: The segments of a name.
* `Refused`: The names that are refused before anything is looked up.
* `Attachable`: The extensions that can be put behind a segment.
* `Config.Sound`: What a configuration promises of its root and its extensions.

## Theorems

* `Path.splitOn_eq`: Cutting at a separator is that of the lists of the library.
* `Path.isSegment_of_mem_ofChars`: Reading a path gives segments.
* `Path.withName_append`: Putting an extension behind a last segment.
* `Resolution.cleanName_eq`: A name is refused or stands for its segments.
* `Config.sound_of_ofFields`: An accepted configuration is sound.
* `Resolution.candidates_of_segments`: The two candidates of a name with segments.
* `Config.Sound.candidates_cases`: Two candidates lie under the root or beside it.
-/

namespace Stencil

namespace Path

theorem splitOn_eq (sep : Char) (s : List Char) : splitOn sep s = s.splitOn sep := by
  induction s with
  | nil => simp [splitOn]
  | cons c s ih =>
      rw [List.splitOn_cons_eq_if_modifyHead]
      simp only [splitOn, ih, beq_iff_eq]
      split
      · rfl
      · -- The rest of a text always has a first piece.
        split
        · rename_i hnil
          exact absurd hnil (List.splitOn_ne_nil sep s)
        · rename_i hcons
          rw [hcons, List.modifyHead_cons]

theorem not_mem_of_mem_splitOn {sep : Char} {s p : List Char} (h : p ∈ splitOn sep s) :
    sep ∉ p := by
  induction s generalizing p with
  | nil => simp_all [splitOn]
  | cons c s ih =>
      simp only [splitOn] at h
      split at h
      · rcases List.mem_cons.mp h with rfl | h
        · exact List.not_mem_nil
        · exact ih h
      · rename_i hc
        split at h
        · rw [List.mem_singleton] at h
          subst h
          simpa using fun h => hc h.symm
        · -- A character that does not separate joins the first piece of the rest.
          rename_i p₀ ps hps
          rcases List.mem_cons.mp h with rfl | h
          · have := ih (p := p₀) (by rw [hps]; exact List.mem_cons_self)
            rw [List.mem_cons]
            rintro (h | h)
            · exact hc h.symm
            · exact this h
          · exact ih (by rw [hps]; exact List.mem_cons_of_mem _ h)

/-- What stands before the first separator is put in front of the first piece. -/
theorem mem_of_mem_splitOn {sep c : Char} {s p : List Char} (h : p ∈ splitOn sep s) (hc : c ∈ p) :
    c ∈ s := by
  induction s generalizing p with
  | nil =>
      rw [splitOn, List.mem_singleton] at h
      exact h ▸ hc
  | cons d s ih =>
      simp only [splitOn] at h
      split at h
      · rcases List.mem_cons.mp h with rfl | h
        · cases hc
        · exact List.mem_cons_of_mem d (ih h hc)
      · split at h
        · rw [List.mem_singleton] at h
          exact List.mem_cons.mpr (.inl (List.mem_singleton.mp (h ▸ hc)))
        · rename_i p₀ ps hps
          rcases List.mem_cons.mp h with rfl | h
          · rcases List.mem_cons.mp hc with rfl | hc
            · exact List.mem_cons_self
            · exact List.mem_cons_of_mem d (ih (hps ▸ List.mem_cons_self) hc)
          · exact List.mem_cons_of_mem d (ih (hps ▸ List.mem_cons_of_mem p₀ h) hc)

theorem splitOn_append_of_not_mem {sep : Char} {a : List Char} (h : sep ∉ a) {b p : List Char}
    {ps : List (List Char)} (hb : splitOn sep b = p :: ps) :
    splitOn sep (a ++ b) = (a ++ p) :: ps := by
  induction a with
  | nil => simpa using hb
  | cons c a ih =>
      rw [List.mem_cons, not_or] at h
      rw [List.cons_append, splitOn, if_neg (fun hc => h.1 hc.symm), ih h.2]
      rfl

/-- A part that reading a path can give: not empty, no single dot, and without a
    slash. -/
def IsSegment (s : String) : Prop := s ≠ "" ∧ s ≠ "." ∧ '/' ∉ s.toList

theorem isSegment_of_mem_segments {s p : List Char} (h : p ∈ segments s) :
    IsSegment (String.ofList p) := by
  rw [segments, List.mem_filter] at h
  rcases h with ⟨hmem, hne⟩
  rw [Bool.and_eq_true, bne_iff_ne, bne_iff_ne] at hne
  refine ⟨?_, ?_, ?_⟩
  · intro h
    exact hne.1 (by simpa using congrArg String.toList h)
  · intro h
    exact hne.2 (by simpa using congrArg String.toList h)
  · rw [String.toList_ofList]
    exact not_mem_of_mem_splitOn hmem

/-- Reading a path gives segments. -/
theorem isSegment_of_mem_ofChars {cs : List Char} {s : String} (h : s ∈ (ofChars cs).parts) :
    IsSegment s := by
  rcases List.mem_map.mp h with ⟨p, hp, rfl⟩
  exact isSegment_of_mem_segments hp

theorem IsSegment.ne_nil {s : String} (h : IsSegment s) : s.toList ≠ [] := by
  intro hs
  exact h.1 (String.toList_eq_nil_iff.mp hs)

/-- A path is a root followed by at least one further segment, none a double dot. -/
def Under (p root : Path) : Prop :=
  ∃ segs, segs ≠ [] ∧ ".." ∉ segs ∧ p = ⟨root.anchor, root.parts ++ segs⟩

theorem anchorOf_of_head {s : List Char} (h : s.head? ≠ some '/') : anchorOf s = .here := by
  cases s with
  | nil => rfl
  | cons c s =>
      have hc : c ≠ '/' := by simpa using h
      unfold anchorOf
      split
      · rename_i heq
        exact absurd (List.cons.inj heq).1 hc
      · rename_i heq
        exact absurd (List.cons.inj heq).1 hc
      · rename_i heq
        exact absurd (List.cons.inj heq).1 hc
      · rfl

theorem anchorOf_ne_here {s : List Char} (h : s.head? = some '/') : anchorOf s ≠ .here := by
  cases s with
  | nil => simp at h
  | cons c s =>
      obtain rfl : c = '/' := by simpa using h
      unfold anchorOf
      split <;> simp_all

end Path

/-- An extension that can be put behind a segment. Nothing in it starts a segment of its
    own: it does not end in a slash, and between its slashes there is nothing or a dot. -/
def Attachable (ext : String) : Prop :=
  ext.toList.getLast? ≠ some '/' ∧ ∀ p ∈ (Path.splitOn '/' ext.toList).tail, p = [] ∨ p = ['.']

instance (ext : String) : Decidable (Attachable ext) :=
  inferInstanceAs (Decidable (_ ∧ ∀ p ∈ (Path.splitOn '/' ext.toList).tail, p = [] ∨ p = ['.']))

namespace Path

/-- A segment with an extension behind it is the first segment of the two. -/
theorem segments_append_extension {n ext : String} (hn : IsSegment n)
    (hext : ext.toList.head? = some '.') :
    segments (n ++ ext).toList = (n.toList ++ (splitOn '/' ext.toList).headD []) ::
      (splitOn '/' ext.toList).tail.filter fun p => p != [] && p != ['.'] := by
  cases hs : splitOn '/' ext.toList with
  | nil => rw [splitOn_eq] at hs; exact absurd hs (List.splitOn_ne_nil _ _)
  | cons p ps =>
      rw [segments, String.toList_append, splitOn_append_of_not_mem hn.2.2 hs,
        List.filter_cons_of_pos]
      · rfl
      · -- The first piece has the dot of the extension behind a character.
        cases hl : ext.toList with
        | nil => rw [hl] at hext; simp at hext
        | cons c r =>
            obtain rfl : c = '.' := by simpa [hl] using hext
            rw [hl, splitOn, if_neg (by decide)] at hs
            have hlast : ∃ q, p = '.' :: q := by
              split at hs
              · exact ⟨[], (List.cons.inj hs).1.symm⟩
              · exact ⟨_, (List.cons.inj hs).1.symm⟩
            rcases hlast with ⟨q, rfl⟩
            have hlen := List.length_pos_iff.mpr hn.ne_nil
            rw [Bool.and_eq_true, bne_iff_ne, bne_iff_ne]
            constructor <;> intro h <;> have := congrArg List.length h <;>
              simp only [List.length_append, List.length_cons, List.length_nil] at this <;> omega

/-- An extension can be put behind a last segment exactly if it is attachable. -/
theorem withName_append {a : Anchor} {pre : List String} {n ext : String} (hn : IsSegment n)
    (hext : ext.toList.head? = some '.') :
    withName ⟨a, pre ++ [n]⟩ (n ++ ext) =
      if Attachable ext then .ok ⟨a, pre ++ [n ++ ext]⟩
      else .error (.refused (.badPathName (n ++ ext))) := by
  have hname : name ⟨a, pre ++ [n]⟩ = n := by simp [name]
  have hlast : (n ++ ext).toList.getLast? = ext.toList.getLast? := by
    cases hl : ext.toList with
    | nil => rw [hl] at hext; simp at hext
    | cons c r => simp [hl, List.getLast?_cons]
  have hanchor : anchorOf (n ++ ext).toList = .here := by
    apply anchorOf_of_head
    rcases List.exists_cons_of_ne_nil hn.ne_nil with ⟨c, r, hc⟩
    rw [String.toList_append, hc, List.cons_append, List.head?_cons]
    rintro ⟨rfl⟩
    exact hn.2.2 (by rw [hc]; exact List.mem_cons_self)
  have hcount : (segments (n ++ ext).toList).length = 1 ↔
      ∀ p ∈ (splitOn '/' ext.toList).tail, p = [] ∨ p = ['.'] := by
    rw [segments_append_extension hn hext, List.length_cons, Nat.add_eq_right,
      List.length_eq_zero_iff, List.filter_eq_nil_iff]
    refine forall₂_congr fun p _ => ?_
    rw [Bool.and_eq_true, bne_iff_ne, bne_iff_ne, not_and_or, not_not, not_not]
  -- A last slash, an anchor and the number of segments are all that is checked.
  rw [withName, hname, if_neg hn.1]
  simp only [hlast, hanchor, ne_eq, not_true, decide_false, Bool.or_false, Bool.or_eq_true,
    decide_eq_true_eq, List.dropLast_concat, Attachable]
  by_cases h : ext.toList.getLast? = some '/'
  · simp [h]
  · simp only [h, false_or, not_false_eq_true, true_and, ← hcount]
    rw [ite_not]

theorem ne_dots_of_append {n ext : String} (hn : IsSegment n)
    (hext : ext.toList.head? = some '.') : n ++ ext ≠ ".." := by
  intro h
  have hl := congrArg String.toList h
  rw [String.toList_append] at hl
  rcases List.exists_cons_of_ne_nil hn.ne_nil with ⟨c, r, hc⟩
  cases he : ext.toList with
  | nil => rw [he] at hext; simp at hext
  | cons d q =>
      rw [hc, he] at hl
      have hlen := congrArg List.length hl
      obtain rfl : r = [] := by
        simp only [List.length_append, List.length_cons] at hlen
        exact List.eq_nil_of_length_eq_zero (by simp at hlen; omega)
      -- Two dots are left only if the segment is a single one.
      have hdot : c = '.' := (List.cons.inj hl).1
      exact hn.2.1 (String.toList_inj.mp (by rw [hc, hdot]; rfl))

/-- A segment with an extension is a segment as long as the extension has no slash. -/
theorem IsSegment.append {n ext : String} (hn : IsSegment n)
    (hext : ext.toList.head? = some '.') (hslash : '/' ∉ ext.toList) : IsSegment (n ++ ext) := by
  refine ⟨fun h => ?_, fun h => ?_, fun h => ?_⟩
  · have hl := congrArg String.toList h
    rw [String.toList_append] at hl
    exact hn.ne_nil (List.append_eq_nil_iff.mp hl).1
  · -- Each of the two has a character, so together they are longer than a dot.
    have hl := congrArg (fun s => s.toList.length) h
    have h1 := List.length_pos_iff.mpr hn.ne_nil
    have h2 : 0 < ext.toList.length := by
      rw [List.length_pos_iff]
      intro hnil
      rw [hnil] at hext
      cases hext
    simp only [String.toList_append, List.length_append] at hl
    have h3 : (".".toList).length = 1 := rfl
    omega
  · rw [String.toList_append] at h
    rcases List.mem_append.mp h with h | h
    · exact hn.2.2 h
    · exact hslash h

end Path

/-- What separates the segments of a name. -/
def isSeparator (c : Char) : Bool := c == '/' || c == '\\'

/-- The segments of a name: what stands between separators, unless it is empty or a
    dot. -/
def nameSegments (name : String) : List String :=
  ((name.toList.splitOnP isSeparator).filter fun p => p != [] && p != ['.']).map String.ofList

/-- A name without separators is its only segment. -/
theorem nameSegments_of_plain {name : String} (hname : Path.IsSegment name)
    (hplain : ∀ c ∈ name.toList, isSeparator c = false) : nameSegments name = [name] := by
  rw [nameSegments, List.splitOnP_eq_singleton hplain, List.filter_cons_of_pos, List.filter_nil,
    List.map_singleton, String.ofList_toList]
  -- The one piece says something, as it is a segment.
  rw [Bool.and_eq_true, bne_iff_ne, bne_iff_ne]
  exact ⟨hname.ne_nil, fun h => hname.2.1 (String.toList_inj.mp h)⟩

/-- A name that starts with a separator. -/
def IsAbsolute (name : String) : Prop := name.toList.head?.any isSeparator = true

/-- A name of blanks only. -/
def IsBlank (name : String) : Prop := ∀ c ∈ name.toList, Text.isBlank c = true

/-- The names that are refused before anything is looked up. -/
def Refused (name : String) : Prop := IsBlank name ∨ IsAbsolute name ∨ ".." ∈ nameSegments name

instance (name : String) : Decidable (IsAbsolute name) := inferInstanceAs (Decidable (_ = true))

-- Only the characters of the name are gone through, not all that there are.
instance (name : String) : Decidable (IsBlank name) :=
  List.decidableBAll (fun c => Text.isBlank c = true) name.toList

instance (name : String) : Decidable (Refused name) := inferInstanceAs (Decidable (_ ∨ _ ∨ _))

namespace Text

theorem trim_eq_nil_iff {s : List Char} : trim s = [] ↔ ∀ c ∈ s, isBlank c = true := by
  rw [← trimLeft_eq_nil_iff, trim, trimRight, List.reverse_eq_nil_iff]
  constructor
  · intro h
    -- What is left starts with a character that is not blank, which the other end keeps.
    by_contra hne
    rcases List.exists_cons_of_ne_nil hne with ⟨c, r, hc⟩
    have hall : ∀ d ∈ (trimLeft s).reverse, isBlank d = true := trimLeft_eq_nil_iff.mp h
    have hhead : isBlank c = false := by
      have := List.head?_dropWhile_not isBlank s
      rw [trimLeft] at hc
      simpa [hc] using this
    have := hall c (by rw [List.mem_reverse, hc]; exact List.mem_cons_self)
    rw [hhead] at this
    exact absurd this (by decide)
  · intro h
    rw [h]
    rfl

theorem head?_replaceAll (s : List Char) :
    (replaceAll '\\' ['/'] s).head? = some '/' ↔ s.head?.any isSeparator = true := by
  cases s with
  | nil => simp [replaceAll]
  | cons c s =>
      by_cases h : c = '\\'
      · simp [replaceAll, h, isSeparator]
      · simp [replaceAll, h, isSeparator]

/-- Cutting at both separators is cutting at slashes once backslashes are slashes. -/
theorem splitOn_replaceAll (s : List Char) :
    (replaceAll '\\' ['/'] s).splitOn '/' = s.splitOnP isSeparator := by
  induction s with
  | nil => simp [replaceAll]
  | cons c s ih =>
      rw [List.splitOnP_cons_eq_if_modifyHead, ← ih]
      by_cases h : c = '\\'
      · -- A backslash was made a slash, so both sides cut here.
        subst h
        exact List.splitOn_cons_eq_if_modifyHead '/' _
      · -- Any other character stays, and cuts only if it is a slash.
        have hcons : replaceAll '\\' ['/'] (c :: s) = c :: replaceAll '\\' ['/'] s := by
          simp [replaceAll, h]
        rw [hcons, List.splitOn_cons_eq_if_modifyHead]
        simp [isSeparator, h]

end Text

namespace Resolution

/-- The parts of the path that a name is read as are the segments of the name. -/
theorem ofChars_replaceAll (name : String) :
    (Path.ofChars (Text.replaceAll '\\' ['/'] name.toList)).parts = nameSegments name := by
  rw [Path.ofChars, Path.segments, Path.splitOn_eq, Text.splitOn_replaceAll]
  rfl

/-- A name is refused or stands for its segments. -/
theorem cleanName_eq (name : String) :
    cleanName name =
      if IsBlank name then .error .emptyName
      else if IsAbsolute name ∨ ".." ∈ nameSegments name then .error (.escapingName name)
      else .ok ⟨.here, nameSegments name⟩ := by
  have hblank : (Text.trim name.toList).isEmpty = true ↔ IsBlank name := by
    rw [List.isEmpty_iff, Text.trim_eq_nil_iff]
    rfl
  have hparts := ofChars_replaceAll name
  -- The text is absolute as it starts with a slash once backslashes are slashes.
  have habs : (Path.ofChars (Text.replaceAll '\\' ['/'] name.toList)).isAbsolute = true ↔
      IsAbsolute name := by
    rw [IsAbsolute, ← Text.head?_replaceAll, Path.isAbsolute, decide_eq_true_eq, Path.ofChars]
    refine ⟨fun h => ?_, Path.anchorOf_ne_here⟩
    by_contra hne
    exact h (Path.anchorOf_of_head hne)
  -- From here on it is one check after the other, in the order of the program.
  rw [cleanName]
  by_cases hb : IsBlank name
  · rw [if_pos (hblank.mpr hb), if_pos hb]
  · rw [if_neg (fun h => hb (hblank.mp h)), if_neg hb]
    by_cases hr : IsAbsolute name ∨ ".." ∈ nameSegments name
    · rw [if_pos hr]
      refine if_pos ?_
      rw [Bool.or_eq_true, hparts, List.contains_iff_mem, habs]
      exact hr
    · rw [if_neg hr]
      have hnot : ¬(Path.ofChars (Text.replaceAll '\\' ['/'] name.toList)).isAbsolute = true :=
        fun h => hr (Or.inl (habs.mp h))
      have hhere : (Path.ofChars (Text.replaceAll '\\' ['/'] name.toList)).anchor = .here := by
        simpa [Path.isAbsolute] using hnot
      refine (if_neg ?_).trans (congrArg Except.ok ?_)
      · rw [Bool.or_eq_true, hparts, List.contains_iff_mem, habs]
        exact hr
      · rw [← hparts, ← hhere]

theorem cleanName_refused {name : String} (h : Refused name) :
    ∃ f, cleanName name = .error f ∧ f.kind = "TemplateNotFoundError" := by
  rw [cleanName_eq]
  by_cases hb : IsBlank name
  · exact ⟨_, if_pos hb, rfl⟩
  · exact ⟨_, (if_neg hb).trans (if_pos (h.resolve_left hb)), rfl⟩

theorem cleanName_accepted {name : String} (h : ¬Refused name) :
    cleanName name = .ok ⟨.here, nameSegments name⟩ := by
  rw [Refused, not_or] at h
  rw [cleanName_eq, if_neg h.1, if_neg h.2]

theorem isSegment_of_mem_nameSegments {name s : String} (h : s ∈ nameSegments name) :
    Path.IsSegment s := by
  rw [← ofChars_replaceAll] at h
  exact Path.isSegment_of_mem_ofChars h

theorem candidates_refused (root : Path) {name : String} (ext : Extensions) (h : Refused name) :
    ∃ f, candidates root (.text name) ext = .error f ∧ f.kind = "TemplateNotFoundError" := by
  rcases cleanName_refused h with ⟨f, hf, hkind⟩
  refine ⟨f, ?_, hkind⟩
  simp only [candidates, cleanValue, hf]
  rfl

/-- Putting the extensions behind a root followed by the segments of a name. -/
theorem candidates_accepted (root : Path) {name : String} (ext : Extensions)
    (h : ¬Refused name) :
    candidates root (.text name) ext = (do
      let base : Path := ⟨root.anchor, root.parts ++ nameSegments name⟩
      let compiled ← base.withName (base.name ++ ext.compiled)
      let raw ← base.withName (base.name ++ ext.raw)
      return (⟨.compiled, compiled⟩, ⟨.rawScript, raw⟩)) := by
  simp only [candidates, cleanValue, cleanName_accepted h]
  rfl

/-- Without any segment there is nothing to put an extension behind. -/
theorem candidates_of_nil {root : Path} {name : String} (ext : Extensions) (h : ¬Refused name)
    (hparts : root.parts ++ nameSegments name = []) :
    ∃ p, candidates root (.text name) ext = .error (.refused (.emptyPathName p)) := by
  rw [candidates_accepted root ext h, hparts]
  exact ⟨_, rfl⟩

/-- The two candidates of a name have the extensions behind the last segment. -/
theorem candidates_of_concat {root : Path} {name : String} {ext : Extensions} (h : ¬Refused name)
    {pre : List String} {n : String} (hparts : root.parts ++ nameSegments name = pre ++ [n])
    (hn : Path.IsSegment n) (hcompiled : ext.compiled.toList.head? = some '.')
    (hraw : ext.raw.toList.head? = some '.') :
    candidates root (.text name) ext =
      if Attachable ext.compiled then
        if Attachable ext.raw then
          .ok (⟨.compiled, ⟨root.anchor, pre ++ [n ++ ext.compiled]⟩⟩,
            ⟨.rawScript, ⟨root.anchor, pre ++ [n ++ ext.raw]⟩⟩)
        else .error (.refused (.badPathName (n ++ ext.raw)))
      else .error (.refused (.badPathName (n ++ ext.compiled))) := by
  have hname : Path.name ⟨root.anchor, pre ++ [n]⟩ = n := by simp [Path.name]
  -- The compiled candidate comes first, so its extension is the first that can fail.
  rw [candidates_accepted root ext h, hparts]
  simp only [hname, Path.withName_append hn hcompiled, Path.withName_append hn hraw]
  by_cases h1 : Attachable ext.compiled
  · by_cases h2 : Attachable ext.raw
    · rw [if_pos h1, if_pos h2, if_pos h1, if_pos h2]
      rfl
    · rw [if_pos h1, if_neg h2, if_pos h1, if_neg h2]
      rfl
  · rw [if_neg h1, if_neg h1]
    rfl

/-- The two candidates of a name with segments lie under the root. -/
theorem candidates_of_segments {root : Path} {name : String} {ext : Extensions}
    (h : ¬Refused name) {pre : List String} {n : String} (hname : nameSegments name = pre ++ [n])
    (hcompiled : ext.compiled.toList.head? = some '.') (hraw : ext.raw.toList.head? = some '.') :
    candidates root (.text name) ext =
      if Attachable ext.compiled then
        if Attachable ext.raw then
          .ok (⟨.compiled, ⟨root.anchor, root.parts ++ (pre ++ [n ++ ext.compiled])⟩⟩,
            ⟨.rawScript, ⟨root.anchor, root.parts ++ (pre ++ [n ++ ext.raw])⟩⟩)
        else .error (.refused (.badPathName (n ++ ext.raw)))
      else .error (.refused (.badPathName (n ++ ext.compiled))) := by
  have hn : Path.IsSegment n :=
    isSegment_of_mem_nameSegments (hname ▸ List.mem_append_right _ (List.mem_singleton_self n))
  have hparts : root.parts ++ nameSegments name = (root.parts ++ pre) ++ [n] := by
    rw [hname, List.append_assoc]
  rw [candidates_of_concat h hparts hn hcompiled hraw]
  simp only [List.append_assoc]

/-- The two candidates of a name without segments lie beside the root. -/
theorem candidates_beside {root : Path} (hroot : ∀ s ∈ root.parts, Path.IsSegment s)
    {name : String} {ext : Extensions} (h : ¬Refused name) (hname : nameSegments name = [])
    (hcompiled : ext.compiled.toList.head? = some '.') (hraw : ext.raw.toList.head? = some '.')
    {a b : Resolution} (hcs : candidates root (.text name) ext = .ok (a, b)) :
    a.path.parts.length = root.parts.length ∧ b.path.parts.length = root.parts.length := by
  rcases List.eq_nil_or_concat' root.parts with hnil | ⟨pre, n, hparts⟩
  · rcases candidates_of_nil ext h (by rw [hnil, hname]; rfl) with ⟨p, hp⟩
    rw [hp] at hcs
    cases hcs
  · -- The last part of the root itself takes the extensions.
    have hn : Path.IsSegment n :=
      hroot n (hparts ▸ List.mem_append_right _ (List.mem_singleton_self n))
    rw [candidates_of_concat h (by rw [hname, List.append_nil, hparts]) hn hcompiled hraw] at hcs
    split at hcs
    · split at hcs
      · cases hcs
        rw [hparts]
        simp
      · cases hcs
    · cases hcs

end Resolution

namespace Config

/-- What a configuration promises of its root and its extensions. -/
structure Sound (c : Config) : Prop where
  root : ∀ s ∈ c.templateRoot.parts, Path.IsSegment s
  compiled : c.compiledExtension.toList.head? = some '.'
  raw : c.rawExtension.toList.head? = some '.'
  distinct : c.compiledExtension ≠ c.rawExtension

theorem isSegment_of_pathOf {v : Value} {p : Path} (h : pathOf v = .ok p) :
    ∀ s ∈ p.parts, Path.IsSegment s := by
  cases v with
  | text t =>
      obtain rfl : Path.ofString t = p := by simpa [pathOf] using h
      intro s hs
      exact Path.isSegment_of_mem_ofChars hs
  | _ => simp [pathOf] at h

theorem head_of_extensionOf {v : Value} {e : String} (h : extensionOf v = .ok e) :
    e.toList.head? = some '.' := by
  cases v with
  | text t =>
      simp only [extensionOf, normalizeExtension] at h
      split at h
      · cases h
      · obtain rfl := Except.ok.inj h
        rw [String.toList_ofList, List.head?_cons]
  | _ => simp [extensionOf] at h

/-- An accepted configuration is sound. -/
theorem sound_of_ofFields {given : Bindings} {c : Config} (h : ofFields given = .ok c) :
    c.Sound := by
  rw [ofFields] at h
  split at h
  · cases h
  · -- Of the fields read on the way only three are needed.
    rcases exists_of_bind_eq_ok h with ⟨root, hroot, h⟩
    rcases exists_of_bind_eq_ok h with ⟨_, -, h⟩
    rcases exists_of_bind_eq_ok h with ⟨_, -, h⟩
    rcases exists_of_bind_eq_ok h with ⟨compiled, hcompiled, h⟩
    rcases exists_of_bind_eq_ok h with ⟨raw, hraw, h⟩
    by_cases hne : compiled = raw
    · rw [if_pos hne] at h
      cases h
    · rw [if_neg hne] at h
      obtain rfl := Except.ok.inj h
      exact ⟨isSegment_of_pathOf hroot, head_of_extensionOf hcompiled,
        head_of_extensionOf hraw, hne⟩

/-- The candidates of a name, where there are two. -/
theorem Sound.candidates_cases {c : Config} (hc : c.Sound) {name : String} {a b : Resolution}
    (h : Resolution.candidates c.templateRoot (.text name) c.extensions = .ok (a, b)) :
    ¬Refused name ∧
      (nameSegments name = [] ∧ a.path.parts.length = c.templateRoot.parts.length ∧
          b.path.parts.length = c.templateRoot.parts.length ∨
        ∃ pre n, nameSegments name = pre ++ [n] ∧
          Attachable c.compiledExtension ∧ Attachable c.rawExtension ∧
          a = ⟨.compiled, c.templateRoot.anchor,
            c.templateRoot.parts ++ (pre ++ [n ++ c.compiledExtension])⟩ ∧
          b = ⟨.rawScript, c.templateRoot.anchor,
            c.templateRoot.parts ++ (pre ++ [n ++ c.rawExtension])⟩) := by
  have hrefused : ¬Refused name := by
    intro hr
    rcases Resolution.candidates_refused c.templateRoot c.extensions hr with ⟨f, hf, -⟩
    rw [hf] at h
    cases h
  have hcompiled : c.extensions.compiled.toList.head? = some '.' := hc.compiled
  have hraw : c.extensions.raw.toList.head? = some '.' := hc.raw
  refine ⟨hrefused, ?_⟩
  -- With segments both are under the root, without they are beside it.
  rcases List.eq_nil_or_concat' (nameSegments name) with hnil | ⟨pre, n, hname⟩
  · exact Or.inl ⟨hnil, Resolution.candidates_beside hc.root hrefused hnil hcompiled hraw h⟩
  · right
    rw [Resolution.candidates_of_segments hrefused hname hcompiled hraw] at h
    split at h
    · rename_i hca
      split at h
      · rename_i hra
        cases h
        exact ⟨pre, n, hname, hca, hra, rfl, rfl⟩
      · cases h
    · cases h

end Config

end Stencil
