import Stencil.Template.Eval

/-!
# Filling the message of a translatable block

A message that mentions variables is a format text: its percent signs are doubled and its
variables are places with a name. Filling it takes all of this back. A doubled percent sign
gives one, a place gives the escaped value of its name, and every other character itself, so
what is filled shows the pieces that the message is made of.

## Main definitions

* `Format.Fills`: What filling some characters gives from a mapping.
* `Template.showPieces`: What pieces show.

## Theorems

* `Format.Fills.cons`, `Format.Fills.percent`, `Format.Fills.place`: One step of filling each.
* `Template.fill_pieces`: The message of pieces is filled to what they show.
-/

namespace Stencil

namespace Format

/-- A text in front of what is filled after it. -/
theorem join_cons (x : Except Fault (List String × Supply)) (t : String) :
    (do let (ts, last) ← x
        return (t :: ts, last) : Except Fault (List String × Supply)).map
        (fun p => (String.join p.1, p.2.mapping)) =
      (x.map fun p => (String.join p.1, p.2.mapping)).map fun q => (t ++ q.1, q.2) := by
  cases x with
  | error f => rfl
  | ok p => exact congrArg (fun s => Except.ok (s, p.2.mapping)) String.join_cons

/-- What filling some characters gives from a mapping, with enough fuel for them. What is left
    in the queue does not matter, because every place takes its value from the mapping. -/
def Fills (total : Nat) (m : Filling) (cs : List Char) (r : Except Fault String) : Prop :=
  ∀ (supply : Supply) (fuel : Nat), supply.mapping = some m → cs.length ≤ fuel →
    (fillFrom total fuel supply cs).map (fun p => (String.join p.1, p.2.mapping)) =
      r.map (·, some m)

variable {total : Nat} {m : Filling} {cs rest : List Char} {r : Except Fault String}

namespace Fills

theorem nil : Fills total m [] (.ok "") := by
  intro supply fuel hm _
  cases fuel <;> simp [fillFrom, Except.map, hm]

/-- A character by itself. -/
theorem cons {c : Char} (hc : c ≠ '%') (h : Fills total m cs r) :
    Fills total m (c :: cs) (r.map (String.singleton c ++ ·)) := by
  intro supply fuel hm hfuel
  match fuel with
  | 0 => exact absurd hfuel (by simp)
  | fuel + 1 =>
      rw [fillFrom, if_neg hc]
      refine (join_cons _ _).trans ?_
      rw [h supply fuel hm (by simpa using hfuel)]
      cases r <;> rfl

/-- A percent sign, and what is read after it before filling goes on. -/
theorem read (text : Except Fault String)
    (hread : ∀ supply : Supply, supply.mapping = some m → ∃ next : Supply,
      next.mapping = some m ∧ readPlace total supply cs = text.map (·, next, rest))
    (hlen : rest.length ≤ cs.length) (h : Fills total m rest r) :
    Fills total m ('%' :: cs) (text.bind fun t => r.map (t ++ ·)) := by
  intro supply fuel hm hfuel
  match fuel with
  | 0 => exact absurd hfuel (by simp)
  | fuel + 1 =>
      obtain ⟨next, hnext, hplace⟩ := hread supply hm
      rw [fillFrom, if_pos rfl, hplace]
      cases text with
      | error f => rfl
      | ok t =>
          refine (join_cons _ _).trans ?_
          rw [h next fuel hnext (by simp at hfuel; omega)]
          cases r <;> rfl

/-- A doubled percent sign. -/
theorem percent (h : Fills total m cs r) :
    Fills total m ('%' :: '%' :: cs) (r.map ("%" ++ ·)) :=
  read (.ok "%") (fun supply hm => ⟨supply, hm, rfl⟩) (Nat.le_succ _) h

end Fills

/-- A key without brackets ends at the first closing one. -/
theorem splitKey_of_not_mem {key acc : List Char} (hopen : '(' ∉ key) (hclose : ')' ∉ key) :
    splitKey 0 acc (key ++ ')' :: rest) = some (acc.reverse ++ key, rest) := by
  induction key generalizing acc with
  | nil => simp [splitKey]
  | cons c key ih =>
      rw [List.mem_cons, not_or] at hopen hclose
      rw [List.cons_append, splitKey, if_neg (Ne.symm hclose.1), if_neg (Ne.symm hopen.1),
        ih hopen.2 hclose.2, List.reverse_cons, List.append_assoc, List.singleton_append]

/-- A text is not changed by a place without a width and a precision. -/
theorem showText_of_bare {p : Place} (hwidth : p.width = 0) (hprecision : p.precision = none)
    (hleft : p.left = false) (t : String) : showText p t = t := by
  simp [showText, pad, hwidth, hprecision, hleft]

/-- A place that only names its value shows it escaped. -/
theorem readPlace_named {n : String} {entries : List (Value × Value)} {v : Value}
    (hopen : '(' ∉ n.toList) (hclose : ')' ∉ n.toList)
    (hv : Value.findEntry (.text n) entries = some v) (queue : List Filling) :
    readPlace total ⟨some ⟨.dict entries, true⟩, queue⟩
        ('(' :: (n.toList ++ ')' :: 's' :: rest)) =
      v.escaped.map (·, ⟨some ⟨.dict entries, true⟩, []⟩, rest) := by
  have hkey : splitKey 0 [] (n.toList ++ ')' :: 's' :: rest) = some (n.toList, 's' :: rest) :=
    splitKey_of_not_mem hopen hclose
  have hselect : Supply.select ⟨some ⟨.dict entries, true⟩, queue⟩ n =
      .ok ⟨some ⟨.dict entries, true⟩, [⟨v, true⟩]⟩ := by
    simp only [Supply.select, Value.lookup?, Value.keyFault?, hv]
    rfl
  unfold readPlace
  extract_lets afterCounts afterKey
  -- Behind the key there is nothing but the letter, so the value is taken as it is.
  have hletter : afterKey (⟨some ⟨.dict entries, true⟩, [⟨v, true⟩]⟩, 's' :: rest) =
      v.escaped.map (·, ⟨some ⟨.dict entries, true⟩, []⟩, rest) := by
    change (v.escaped.map (showText _) >>= fun text => pure (text, _, rest)) = _
    cases v.escaped with
    | error f => rfl
    | ok t => exact congrArg (fun s => Except.ok (s, _, rest)) (showText_of_bare rfl rfl rfl t)
  simp only [hkey, Option.isNone_some, String.ofList_toList, hselect]
  exact hletter

/-- A place with the name of an entry shows its escaped value. -/
theorem Fills.place {n : String} {entries : List (Value × Value)} {v : Value}
    (hopen : '(' ∉ n.toList) (hclose : ')' ∉ n.toList)
    (hv : Value.findEntry (.text n) entries = some v)
    (h : Fills total ⟨.dict entries, true⟩ cs r) :
    Fills total ⟨.dict entries, true⟩ ('%' :: '(' :: (n.toList ++ ')' :: 's' :: cs))
      (v.escaped.bind fun t => r.map (t ++ ·)) := by
  refine read v.escaped (fun supply hm => ⟨⟨some ⟨.dict entries, true⟩, []⟩, rfl, ?_⟩) ?_ h
  · obtain ⟨mapping, queue⟩ := supply
    cases hm
    exact readPlace_named hopen hclose hv queue
  · simp only [List.length_cons, List.length_append]
    omega

/-- A mapping may leave members over, so nothing has to be used up. -/
theorem fill_of_fills {format : String} {entries : List (Value × Value)}
    (h : Fills format.toList.length ⟨.dict entries, true⟩ format.toList r) :
    fill format (supplyOf true (.dict entries)) = r := by
  have hfill := h (supplyOf true (.dict entries)) format.toList.length rfl (Nat.le_refl _)
  rw [fill]
  cases hfrom : fillFrom format.toList.length format.toList.length
      (supplyOf true (.dict entries)) format.toList with
  | error f =>
      rw [hfrom] at hfill
      cases r with
      | error g => exact congrArg Except.error (Except.error.inj hfill)
      | ok t => cases hfill
  | ok p =>
      rw [hfrom] at hfill
      cases r with
      | error g => cases hfill
      | ok t =>
          obtain ⟨hjoin, hmapping⟩ := Prod.mk.inj (Except.ok.inj hfill)
          simp only [hmapping, Option.isSome_some, Bool.or_true, if_true, hjoin, bind, Except.bind]
          rfl

end Format

namespace Template

/-- What a piece shows: a text itself, a mention the escaped value. -/
def Piece.shown (value : String → Value) : Piece → Except Fault String
  | .text s => .ok s
  | .mention n => (value n).escaped

/-- What pieces show, one after the other. -/
def showPieces (value : String → Value) : List Piece → Except Fault String
  | [] => .ok ""
  | p :: ps => (p.shown value).bind fun t => (showPieces value ps).map (t ++ ·)

/-- A name that can be told from what stands around it in a place. -/
def Bracketless (n : String) : Prop := '(' ∉ n.toList ∧ ')' ∉ n.toList

section

variable {total : Nat} {m : Format.Filling} {cs : List Char} {r : Except Fault String}

/-- The text of a piece is filled to itself, however many percent signs there are in it. -/
theorem fills_text (h : Format.Fills total m cs r) (s : String) :
    Format.Fills total m ((Piece.text s).formatText.toList ++ cs) (r.map (s ++ ·)) := by
  rw [Piece.formatText, String.toList_ofList]
  suffices ∀ l : List Char, Format.Fills total m
      ((l.flatMap fun c => if c = '%' then ['%', '%'] else [c]) ++ cs)
      (r.map (String.ofList l ++ ·)) by
    have hs := this s.toList
    rwa [String.ofList_toList] at hs
  intro l
  induction l with
  | nil => cases r <;> simpa [Except.map] using h
  | cons c l ih =>
      have hjoin : r.map (String.ofList (c :: l) ++ ·) =
          (r.map (String.ofList l ++ ·)).map (String.singleton c ++ ·) := by
        cases r with
        | error f => rfl
        | ok t => simp [Except.map, String.ofList_cons, String.append_assoc]
      rw [hjoin, List.flatMap_cons, List.append_assoc]
      by_cases hc : c = '%'
      · subst hc
        exact ih.percent
      · rw [if_neg hc]
        exact ih.cons hc

/-- The message of pieces is filled to what they show. -/
theorem fill_pieces {entries : List (Value × Value)} {value : String → Value} {ps : List Piece}
    (h : ∀ n, .mention n ∈ ps → Bracketless n ∧
      Value.findEntry (.text n) entries = some (value n)) :
    Format.fill (String.join (ps.map Piece.formatText)) (Format.supplyOf true (.dict entries)) =
      showPieces value ps := by
  refine Format.fill_of_fills ?_
  generalize (String.join (ps.map Piece.formatText)).toList.length = total
  induction ps with
  | nil => exact .nil
  | cons p ps ih =>
      have ih := ih fun n hn => h n (List.mem_cons_of_mem _ hn)
      rw [List.map_cons, String.join_cons, String.toList_append, showPieces]
      cases p with
      | text s => exact fills_text ih s
      | mention n =>
          obtain ⟨⟨hopen, hclose⟩, hv⟩ := h n (List.mem_cons_self ..)
          have hplace : (Piece.mention n).formatText.toList ++ (String.join
              (ps.map Piece.formatText)).toList = '%' :: '(' :: (n.toList ++ ')' :: 's' ::
                (String.join (ps.map Piece.formatText)).toList) := by
            simp [Piece.formatText]
          rw [hplace]
          exact ih.place hopen hclose hv

end

end Template

end Stencil
