import Mathlib.Data.List.DropRight
import Stencil.Proofs.Precedence
import Stencil.Proofs.Segments

/-!
# Spellings of extensions and paths

An extension may be written with white space around it and with any number of dots in front,
and a path with repeated separators, separators at its end, and single dots for segments. None
of that changes what is read. What was read has one spelling of its own, in which it is
written, and reading that gives it back.

The slashes at the front of a path are another matter, because their number says where the
path starts. So a separator may be repeated only behind something else, and a dot may be taken
away only if no slash comes to the front by that.

## Main definitions

* `ExtensionChange`: Another spelling of an extension.
* `Path.Change`: Another spelling of a path.
* `SingleDotted`: What an extension is brought to.

## Theorems

* `Text.trim_append_blanks`: White space around a text is trimmed.
* `SingleDotted.dotted_eq`: An extension that was brought there stays as it is.
* `ExtensionChange.normalize`: Extensions are read alike in all their spellings.
* `Path.anchorOf_eq`: Where a path starts is told by the slashes at its front.
* `Path.ofString_text`: What is written of a path reads back.
* `Path.Change.ofChars`: Paths are read alike in all their spellings.
-/

namespace Stencil

namespace Text

theorem trimRight_eq (s : List Char) : trimRight s = s.rdropWhile isBlank := rfl

theorem trimRight_append_blanks {s w : List Char} (hw : ∀ c ∈ w, isBlank c = true) :
    trimRight (s ++ w) = trimRight s := by
  rw [trimRight, trimRight, List.reverse_append,
    List.dropWhile_append_of_pos fun c hc => hw c (List.mem_reverse.mp hc)]

/-- What stands before a text that is not blank stays when its end is trimmed. -/
theorem trimRight_append {s : List Char} (a : List Char) (hs : ∃ c ∈ s, isBlank c = false) :
    trimRight (a ++ s) = a ++ trimRight s := by
  have hne : (s.reverse.dropWhile isBlank).isEmpty = false := by
    rw [List.isEmpty_eq_false_iff, ne_eq, List.dropWhile_eq_nil_iff]
    obtain ⟨c, hc, hblank⟩ := hs
    intro hall
    rw [hall c (List.mem_reverse.mpr hc)] at hblank
    cases hblank
  rw [trimRight, trimRight, List.reverse_append, List.dropWhile_append, hne]
  simp

/-- White space around a text is trimmed. -/
theorem trim_append_blanks {w s w' : List Char} (hw : ∀ c ∈ w, isBlank c = true)
    (hw' : ∀ c ∈ w', isBlank c = true) : trim (w ++ s ++ w') = trim s := by
  have hleft : trimLeft (w ++ s ++ w') = trimLeft (s ++ w') := by
    rw [trimLeft, trimLeft, List.append_assoc, List.dropWhile_append_of_pos hw]
  rw [trim, trim, hleft, trimLeft, List.dropWhile_append]
  split
  · -- A text that is all blank leaves nothing, with more white space or without.
    rename_i hnil
    rw [List.isEmpty_iff] at hnil
    rw [trimLeft, hnil, List.dropWhile_eq_nil_iff.mpr hw']
  · exact trimRight_append_blanks hw'

/-- A text without white space at its ends is not trimmed. -/
theorem trim_eq_self {s : List Char} (hhead : ∀ c ∈ s.head?, isBlank c = false)
    (hlast : ∀ c ∈ s.getLast?, isBlank c = false) : trim s = s := by
  have hleft : trimLeft s = s := by
    cases s with
    | nil => rfl
    | cons c s =>
        have hc : ¬isBlank c = true := by rw [hhead c rfl]; exact Bool.false_ne_true
        rw [trimLeft, List.dropWhile_cons_of_neg hc]
  rw [trim, hleft, trimRight_eq, List.rdropWhile_eq_self_iff]
  intro hne
  rw [hlast _ (List.getLast?_eq_getLast_of_ne_nil hne ▸ rfl)]
  exact Bool.false_ne_true

theorem getLast?_trim {s : List Char} : ∀ c ∈ (trim s).getLast?, isBlank c = false := by
  intro c hc
  rw [trim, trimRight_eq] at hc
  have hne : (trimLeft s).rdropWhile isBlank ≠ [] := fun hnil => by rw [hnil] at hc; cases hc
  have hlast := List.rdropWhile_last_not isBlank _ hne
  rw [List.getLast?_eq_getLast_of_ne_nil hne, Option.mem_some_iff] at hc
  rw [← hc]
  simpa using hlast

end Text

/-! ## Extensions -/

/-- An extension with exactly one dot in front and no white space at its ends. -/
structure SingleDotted (ext : String) : Prop where
  dot : ext.toList.head? = some '.'
  single : ext.toList.tail.head? ≠ some '.'
  trimmed : Text.trim ext.toList = ext.toList

instance (ext : String) : Decidable (SingleDotted ext) :=
  decidable_of_iff (ext.toList.head? = some '.' ∧ ext.toList.tail.head? ≠ some '.' ∧
      Text.trim ext.toList = ext.toList)
    ⟨fun ⟨hdot, hsingle, htrim⟩ => ⟨hdot, hsingle, htrim⟩, fun h => ⟨h.dot, h.single, h.trimmed⟩⟩

/-- Another spelling of an extension: with white space around it, or with further dots in
    front of what does not start with white space. -/
inductive ExtensionChange : String → String → Prop where
  | blanks (w ext w' : String) (hw : ∀ c ∈ w.toList, Text.isBlank c = true)
      (hw' : ∀ c ∈ w'.toList, Text.isBlank c = true) : ExtensionChange ext (w ++ ext ++ w')
  | dots (n : Nat) (ext : String) (hext : ∃ c ∈ ext.toList.head?, Text.isBlank c = false) :
      ExtensionChange ext (String.ofList (List.replicate n '.') ++ ext)

namespace Config

/-- Every extension that says something is brought to a single dot. -/
theorem singleDotted_dotted (ext : String) : SingleDotted (dotted ext) := by
  have hlist : (dotted ext).toList = '.' :: (Text.trim ext.toList).dropWhile (· == '.') :=
    String.toList_ofList
  refine ⟨by rw [hlist]; rfl, ?_, ?_⟩
  · intro h
    have hhead := List.head?_dropWhile_not (· == '.') (Text.trim ext.toList)
    rw [hlist, List.tail_cons] at h
    rw [h] at hhead
    cases hhead
  · rw [hlist]
    refine Text.trim_eq_self (fun c hc => ?_) fun c hc => ?_
    · obtain rfl := Option.some.inj hc
      rfl
    · -- The last character is that of the trimmed text, if it is not the dot itself.
      rw [List.getLast?_cons] at hc
      cases hrest : ((Text.trim ext.toList).dropWhile (· == '.')).getLast? with
      | none =>
          rw [hrest] at hc
          obtain rfl := Option.some.inj hc
          rfl
      | some d =>
          rw [hrest] at hc
          obtain rfl := Option.some.inj hc
          obtain ⟨front, hfront⟩ := List.dropWhile_suffix (l := Text.trim ext.toList) (· == '.')
          refine Text.getLast?_trim (s := ext.toList) d ?_
          rw [← hfront, List.getLast?_append, hrest]
          rfl

end Config

namespace SingleDotted

variable {ext : String} (h : SingleDotted ext)
include h

theorem not_blank : Config.isBlank ext = false := by
  rw [Config.isBlank, h.trimmed, List.isEmpty_eq_false_iff]
  intro hnil
  have hdot := h.dot
  rw [hnil] at hdot
  cases hdot

/-- What has a single dot is not changed. -/
theorem dotted_eq : Config.dotted ext = ext := by
  have hdot := h.dot
  have hsingle := h.single
  rw [Config.dotted, h.trimmed]
  cases hl : ext.toList with
  | nil => rw [hl] at hdot; cases hdot
  | cons c rest =>
      rw [hl] at hdot hsingle
      obtain rfl := Option.some.inj hdot
      have hrest : rest.dropWhile (· == '.') = rest := by
        cases rest with
        | nil => rfl
        | cons d rest =>
            refine List.dropWhile_cons_of_neg fun hd => hsingle ?_
            rw [List.tail_cons, List.head?_cons, beq_iff_eq.mp hd]
      rw [List.dropWhile_cons_of_pos rfl, hrest, ← hl, String.ofList_toList]

end SingleDotted

/-- Extensions are read alike in all their spellings. -/
theorem ExtensionChange.normalize {ext ext' : String} (h : ExtensionChange ext ext') :
    normalizeExtension ext' = normalizeExtension ext := by
  cases h with
  | blanks w ext w' hw hw' =>
      have htrim : Text.trim (w ++ ext ++ w').toList = Text.trim ext.toList := by
        rw [String.toList_append, String.toList_append, Text.trim_append_blanks hw hw']
      rw [normalizeExtension, normalizeExtension, htrim]
  | dots n ext hext =>
      obtain ⟨c, hc, hblank⟩ := hext
      obtain ⟨rest, hrest⟩ : ∃ rest, ext.toList = c :: rest := List.head?_eq_some_iff.mp hc
      -- The dots stand in front of what is left of the extension.
      have htrim : Text.trim (String.ofList (List.replicate n '.') ++ ext).toList =
          List.replicate n '.' ++ Text.trim ext.toList := by
        have hleft (m : Nat) : Text.trimLeft (List.replicate m '.' ++ c :: rest) =
            List.replicate m '.' ++ c :: rest := by
          cases m with
          | zero => exact List.dropWhile_cons_of_neg (by rw [hblank]; exact Bool.false_ne_true)
          | succ m => rfl
        rw [String.toList_append, String.toList_ofList, hrest, Text.trim, Text.trim, hleft n,
          Text.trimRight_append _ ⟨c, List.mem_cons_self, hblank⟩]
        exact congrArg (_ ++ Text.trimRight ·) (hleft 0).symm
      have hne : Text.trim ext.toList ≠ [] := fun hnil => by
        have hall := Text.trim_eq_nil_iff.mp hnil c (by rw [hrest]; exact List.mem_cons_self)
        rw [hblank] at hall
        cases hall
      rw [normalizeExtension, normalizeExtension, htrim,
        List.dropWhile_append_of_pos fun d hd => by rw [List.eq_of_mem_replicate hd]; rfl]
      simp [hne]

/-! ## Paths -/

namespace Path

/-- Something else than slashes stands there. -/
def Begun (s : List Char) : Prop := ∃ c ∈ s, c ≠ '/'

/-- A further segment can start behind this. -/
def Open (s : List Char) : Prop := s = [] ∨ s.getLast? = some '/'

/-- Another spelling of a path: with a separator repeated, but not at the front; with a separator
    at its end; or with a single dot for a further segment, unless it keeps slashes from the
    front. -/
inductive Change : List Char → List Char → Prop where
  | repeated {a : List Char} (b : List Char) (ha : Begun a) :
      Change (a ++ '/' :: b) (a ++ '/' :: '/' :: b)
  | trailing {a : List Char} (ha : Begun a) : Change a (a ++ ['/'])
  | dot {a b : List Char} (ha : Open a) (hb : b.head? = some '/' → Begun a) :
      Change (a ++ b) (a ++ '.' :: '/' :: b)
  | lastDot {a : List Char} (ha : Open a) : Change a (a ++ ['.'])

/-- The slashes at the front. -/
def front (s : List Char) : List Char := s.takeWhile (· == '/')

theorem front_of_head {s : List Char} (h : s.head? ≠ some '/') : front s = [] := by
  cases s with
  | nil => rfl
  | cons c s =>
      refine List.takeWhile_cons_of_neg fun hc => h ?_
      rw [List.head?_cons, beq_iff_eq.mp hc]

/-- Where a path starts is told by the number of slashes at its front. -/
theorem anchorOf_eq (s : List Char) :
    anchorOf s =
      match (front s).length with
      | 0 => .here
      | 2 => .doubleRoot
      | _ => .root := by
  have hslash (t : List Char) : front ('/' :: t) = '/' :: front t := rfl
  have hother {t : List Char} (ht : ∀ r, t = '/' :: r → False) : front t = [] :=
    front_of_head fun hhead => (List.head?_eq_some_iff.mp hhead).elim ht
  unfold anchorOf
  split
  · rw [hslash, hslash, hslash]
    rfl
  · rename_i t ht
    rw [hslash, hslash, hother fun r hr => ht r (by rw [hr])]
    rfl
  · rename_i t _ ht
    rw [hslash, hother fun r hr => ht r (by rw [hr])]
    rfl
  · rename_i hs
    rw [hother hs]
    rfl

/-- What stands behind something else than slashes does not matter for where a path starts, and
    neither does what starts with something else. -/
theorem anchorOf_append {a b : List Char} (b' : List Char)
    (h : Begun a ∨ b.head? ≠ some '/' ∧ b'.head? ≠ some '/') :
    anchorOf (a ++ b) = anchorOf (a ++ b') := by
  have hfront : front (a ++ b) = front (a ++ b') := by
    rw [front, front, List.takeWhile_append, List.takeWhile_append]
    split
    · rename_i hall
      rcases h with ⟨c, hc, hne⟩ | ⟨hb, hb'⟩
      · -- Something else than slashes ends the slashes at the front.
        have hself := (List.takeWhile_prefix (l := a) (· == '/')).eq_of_length hall
        have hslash := List.mem_takeWhile_imp (hself.symm ▸ hc)
        exact absurd (beq_iff_eq.mp hslash) hne
      · exact congrArg (a ++ ·) ((front_of_head hb).trans (front_of_head hb').symm)
    · rfl
  rw [anchorOf_eq, anchorOf_eq, hfront]

theorem segments_of_open {a : List Char} (ha : Open a) (b : List Char) :
    segments (a ++ b) = segments a ++ segments b := by
  rcases ha with rfl | hlast
  · rfl
  · obtain ⟨front, rfl⟩ := List.getLast?_eq_some_iff.mp hlast
    have hnil : segments (front ++ ['/']) = segments front ++ [] := segments_append front []
    rw [List.append_assoc, List.singleton_append, segments_append, hnil, List.append_nil]

theorem segments_dot (b : List Char) : segments ('.' :: '/' :: b) = segments b :=
  segments_append ['.'] b

/-- Paths are read alike in all their spellings. -/
theorem Change.ofChars {s t : List Char} (h : Change s t) : ofChars t = ofChars s := by
  have halike (hanchor : anchorOf t = anchorOf s) (hsegments : segments t = segments s) :
      Path.ofChars t = Path.ofChars s := by
    rw [Path.ofChars, Path.ofChars, hanchor, hsegments]
  cases h with
  | repeated b ha =>
      refine halike (anchorOf_append _ (.inl ha)) ?_
      rw [segments_append, segments_append, ← List.nil_append ('/' :: b), segments_append]
      rfl
  | trailing ha =>
      refine halike ?_ ?_
      · rw [anchorOf_append [] (.inl ha), List.append_nil]
      · exact (segments_append s []).trans (List.append_nil _)
  | dot ha hb =>
      refine halike (anchorOf_append _ ?_) ?_
      · exact (Decidable.em _).imp hb fun hb => ⟨by simp, hb⟩
      · rw [segments_of_open ha, segments_of_open ha, segments_dot]
  | lastDot ha =>
      refine halike ?_ ?_
      · rw [anchorOf_append [] (.inr ⟨by decide, by decide⟩), List.append_nil]
      · rw [segments_of_open ha]
        exact List.append_nil _

theorem segments_intercalate {parts : List String} (h : ∀ s ∈ parts, IsSegment s) :
    (segments ("/".intercalate parts).toList).map String.ofList = parts := by
  rcases eq_or_ne parts [] with rfl | hne
  · rfl
  · have hslash : ∀ l ∈ parts.map String.toList, '/' ∉ l := by
      intro l hl
      obtain ⟨s, hmem, rfl⟩ := List.mem_map.mp hl
      exact (h s hmem).2.2
    have hkept : ∀ l ∈ parts.map String.toList, (l != [] && l != ['.']) = true := by
      intro l hl
      obtain ⟨s, hmem, rfl⟩ := List.mem_map.mp hl
      rw [Bool.and_eq_true, bne_iff_ne, bne_iff_ne]
      exact ⟨(h s hmem).ne_nil, fun hs => (h s hmem).2.1 (String.toList_inj.mp hs)⟩
    rw [segments, splitOn_eq, String.toList_intercalate,
      show ("/" : String).toList = ['/'] from rfl,
      List.splitOn_intercalate '/' hslash (by simpa using hne), List.filter_eq_self.mpr hkept,
      List.map_map]
    simp

theorem head?_intercalate {parts : List String} (h : ∀ s ∈ parts, IsSegment s) :
    ("/".intercalate parts).toList.head? ≠ some '/' := by
  cases parts with
  | nil => nofun
  | cons s parts =>
      have hs := h s List.mem_cons_self
      obtain ⟨c, cs, hc⟩ := List.exists_cons_of_ne_nil hs.ne_nil
      intro hhead
      have hfirst : c = '/' := by
        rw [String.toList_intercalate] at hhead
        cases parts <;> simpa [List.intercalate, hc] using hhead
      exact hs.2.2 (by rw [hc, hfirst]; exact List.mem_cons_self)

/-- What is written of a path reads back. -/
theorem ofString_text {p : Path} (h : ∀ s ∈ p.parts, IsSegment s) : ofString p.text = p := by
  obtain ⟨anchor, parts⟩ := p
  have hopen : Open anchor.text.toList := by
    cases anchor
    · exact .inl rfl
    · exact .inr rfl
    · exact .inr rfl
  -- The slashes at the front are all that tells where the path starts.
  have hanchor : anchorOf (anchor.text ++ "/".intercalate parts).toList = anchor := by
    rw [String.toList_append, anchorOf_append [] (.inr ⟨head?_intercalate h, nofun⟩),
      List.append_nil]
    cases anchor <;> rfl
  have hparts : (segments (anchor.text ++ "/".intercalate parts).toList).map String.ofList =
      parts := by
    have hnil : segments anchor.text.toList = [] := by cases anchor <;> rfl
    rw [String.toList_append, segments_of_open hopen, hnil, List.nil_append, segments_intercalate h]
  rw [text]
  split
  · rename_i hhere
    obtain ⟨rfl, rfl⟩ : anchor = .here ∧ parts = [] := by simpa using hhere
    rfl
  · rw [ofString, ofChars, hanchor, hparts]

end Path

end Stencil
