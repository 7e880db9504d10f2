import Stencil.Stateful
import Stencil.Toml.Scalar
import Stencil.Toml.Table

/-!
# Settings in TOML

Reading the settings files: tables with dotted names, lists of tables, and keys, dotted or
not, with strings, numbers, booleans, dates and times, arrays and inline tables. A key or a
table must not be defined twice, though a table that only came about as the parent of
another may be defined after it. The items of an array are of one kind.

The settings files are read by a library of its own. Of that library only two things are
taken for granted, that what it reads is a table and that its faults are its own, so a reader
is any function that does that much, whatever it makes of a text. `standard` is the reader of
this module. It takes an inline table for a mapping like any other, also where messages name
the kind of a value.

## Main definitions

* `Reader`: A reader of settings files.
* `parse`: Reading a text.
* `standard`: The reader that parses so.

## Theorems

* `parse_table`: What is read from a text is a table.
* `lines_foreign`: What is wrong with a text is no fault of the program.
-/

namespace Stencil

namespace Toml

/-- The rest of a line that holds nothing more, and what comes after it. -/
def lineEnd? (s : List Char) : Option (List Char) :=
  match skip s with
  | [] => some []
  | '\n' :: s => some s
  | '#' :: s => some ((s.dropWhile (· != '\n')).drop 1)
  | _ => none

/-- Blanks, line ends and comments inside an array. -/
def skipLines : Nat → List Char → List Char
  | 0, s => s
  | fuel + 1, s =>
    match skip s with
    | '\n' :: s => skipLines fuel s
    | '#' :: s => skipLines fuel (s.dropWhile (· != '\n'))
    | s => s

def isKeyChar (c : Char) : Bool := Text.isWordPart c || c == '-'

/-- A key, and the text after it. -/
def key? (s : List Char) : Option (String × List Char) :=
  match shortString? s with
  | some (k, rest) => some (String.ofList k, rest)
  | none =>
    let k := s.takeWhile isKeyChar
    if k.isEmpty then none else some (String.ofList k, s.drop k.length)

/-- Keys with dots between them, and the text after them. -/
def keys? : Nat → List Char → Option (List String × List Char)
  | 0, _ => none
  | fuel + 1, s => do
    let (k, s) ← key? (skip s)
    match skip s with
    | '.' :: s => do
      let (ks, rest) ← keys? fuel s
      return (k :: ks, rest)
    | s => return ([k], s)

/-- A value under a key that has none. -/
def fresh (v : Value) : Option Value → Option Value
  | none => some v
  | some _ => none

/-! ## Values -/

mutual

/-- A value, and the text after it. The first argument bounds the nesting. -/
def value? : Nat → List Char → Option (Value × List Char)
  | 0, _ => none
  | fuel + 1, s =>
    match s with
    | '"' :: _ | '\'' :: _ => (string? s).map fun (v, rest) => (.text v, rest)
    | '[' :: r => do
      let (vs, rest) ← items? fuel r
      let kinds := vs.map Value.kindName
      if kinds.all (some · == kinds.head?) then some (.list vs, rest) else none
    | '\x7b' :: r => do
      let (b, rest) ← entries? fuel [] r
      return (Bindings.toValue b, rest)
    | s => do
      let v ← wordValue? (word s)
      return (v, s.drop (word s).length)

/-- The items of an array and its closing bracket. -/
def items? : Nat → List Char → Option (List Value × List Char)
  | 0, _ => none
  | fuel + 1, s =>
    match skipLines s.length s with
    | ']' :: rest => some ([], rest)
    | s => do
      let (v, s) ← value? fuel s
      match skipLines s.length s with
      | ',' :: s => do
        let (vs, rest) ← items? fuel s
        return (v :: vs, rest)
      | ']' :: rest => return ([v], rest)
      | _ => none

/-- The entries of an inline table, after those that were found, and its closing brace. -/
def entries? : Nat → Bindings → List Char → Option (Bindings × List Char)
  | 0, _, _ => none
  | fuel + 1, found, s =>
    match skip s with
    | '\x7d' :: rest => some (found, rest)
    | s => do
      let (path, s) ← keys? (s.length + 1) s
      match s with
      | '=' :: s => do
        let (v, s) ← value? fuel (skip s)
        let found ← putAt (fresh v) found path
        match skip s with
        | ',' :: s => entries? fuel found s
        | '\x7d' :: rest => return (found, rest)
        | _ => none
      | _ => none

end

theorem fresh_proper {v : Value} (hv : Proper v) (old : Option Value) (new : Value)
    (_ : ∀ w ∈ old, Proper w) (h : fresh v old = some new) : Proper new := by
  cases old with
  | none =>
      cases h
      exact hv
  | some _ => cases h

/-- A value that is read is a table or none at all, and so is an inline table with what is read
    into it. -/
theorem value?_proper (fuel : Nat) :
    (∀ {s rest : List Char} {v : Value}, value? fuel s = some (v, rest) → Proper v) ∧
      ∀ {found b : Bindings} {s rest : List Char}, Table found →
        entries? fuel found s = some (b, rest) → Table b := by
  induction fuel with
  | zero =>
      refine ⟨fun h => ?_, fun _ h => ?_⟩
      · rw [value?] at h
        cases h
      · rw [entries?] at h
        cases h
  | succ fuel ih =>
      refine ⟨fun h => ?_, fun hfound h => ?_⟩
      · unfold value? at h
        split at h
        · obtain ⟨r, -, hr⟩ := Option.map_eq_some_iff.mp h
          cases hr
          exact .plain nofun
        · obtain ⟨r, -, hr⟩ := Option.map_eq_some_iff.mp h
          cases hr
          exact .plain nofun
        · obtain ⟨r, -, hr⟩ := Option.bind_eq_some_iff.mp h
          obtain ⟨-, hr⟩ := Option.ite_none_right_eq_some.mp hr
          cases hr
          exact .plain nofun
        · obtain ⟨⟨b, r⟩, hb, hr⟩ := Option.bind_eq_some_iff.mp h
          cases hr
          exact (ih.2 .nil hb).proper
        · obtain ⟨w, hw, hr⟩ := Option.bind_eq_some_iff.mp h
          cases hr
          exact .plain (wordValue?_plain hw)
      · unfold entries? at h
        split at h
        · cases h
          exact hfound
        · obtain ⟨⟨path, s₁⟩, -, h⟩ := Option.bind_eq_some_iff.mp h
          simp only at h
          split at h
          · obtain ⟨⟨v, s₂⟩, hv, h⟩ := Option.bind_eq_some_iff.mp h
            obtain ⟨b', hb', h⟩ := Option.bind_eq_some_iff.mp h
            have htable := putAt_table (fresh_proper (ih.1 hv)) path hfound hb'
            split at h
            · exact ih.2 htable h
            · cases h
              exact htable
            · cases h
          · cases h

/-! ## Lines -/

/-- The settings read so far: their tables, the table that keys go to, and the
    tables that were defined by name. -/
structure Progress where
  root : Bindings
  current : List String
  defined : List (List String)

/-- What stands where a table is needed on the way to a name. -/
def obstacle? (t : Bindings) : List String → Option Value
  | [] | [_] => none
  | k :: ks =>
    match t.get? k with
    | none => none
    | some (.dict es) => obstacle? (Bindings.ofEntries es) ks
    | some (.list vs) =>
      match vs.getLast? with
      | some (.dict es) => obstacle? (Bindings.ofEntries es) ks
      | _ => some (.list vs)
    | some v => some v

/-- The fault of a table inside something that is none. -/
def misplacedTable (v : Value) : Fault :=
  let noItems (what : String) : Fault := .index (what ++ " index out of range")
  let noAssignment : Fault := .misuse (.arguments "'str' object does not support item assignment")
  match v with
  | .text s => if s = "" then noItems "string" else noAssignment
  | .list [] => noItems "list"
  | .list _ => noAssignment
  | v => .misuse (.arguments ("'" ++ v.kindName ++ "' object is not subscriptable"))

/-- A table that is there already, or an empty one. -/
def tableAt : Option Value → Option Value
  | none => some (.dict [])
  | some (.dict es) => some (.dict es)
  | some _ => none

/-- A list of tables with one more, which is empty. -/
def oneMoreAt : Option Value → Option Value
  | none => some (.list [.dict []])
  | some (.list vs) =>
    if vs.all fun v => v.kindName == "dict" then some (.list (vs ++ [.dict []])) else none
  | some _ => none

/-- Opens a table, or one more table of a list. -/
def openAt (p : Progress) (write : Option Value → Option Value) (path : List String)
    (defined : List (List String)) : Except Fault Progress :=
  match obstacle? p.root path with
  | some v => .error (misplacedTable v)
  | none =>
    match putAt write p.root path with
    | some root => .ok ⟨root, path, defined⟩
    | none => .error .settingsSyntax

/-- Opens a table. -/
def openTable (p : Progress) (path : List String) : Except Fault Progress :=
  match obstacle? p.root path with
  | some v => .error (misplacedTable v)
  | none =>
    if p.defined.contains path then .error .settingsSyntax
    else openAt p tableAt path (path :: p.defined)

/-- Opens one more table of a list, in which names are free again. -/
def openItem (p : Progress) (path : List String) : Except Fault Progress :=
  openAt p oneMoreAt path (p.defined.filter fun d => !path.isPrefixOf d)

/-- A line with a key and a value, and the text after it. -/
def keyLine? (p : Progress) (s : List Char) : Option (Progress × List Char) := do
  let (path, rest) ← keys? (s.length + 1) s
  match rest with
  | '=' :: rest => do
    let (v, rest) ← value? (rest.length + 1) (skip rest)
    let root ← putAt (fresh v) p.root (p.current ++ path)
    return ({ p with root }, ← lineEnd? rest)
  | _ => none

/-- The name of a table, past its opening brackets, and the text after its line. -/
def tableLine? (closing s : List Char) : Option (List String × List Char) := do
  let (path, rest) ← keys? (s.length + 1) s
  if closing.isPrefixOf rest then return (path, ← lineEnd? (rest.drop closing.length))
  else none

/-- Reads lines. The first argument bounds their number. -/
def lines : Nat → Progress → List Char → Except Fault Bindings
  | 0, _, _ => .error .settingsSyntax
  | fuel + 1, p, s =>
    match skip s with
    | [] => .ok p.root
    | '\n' :: s => lines fuel p s
    | '#' :: s => lines fuel p ((s.dropWhile (· != '\n')).drop 1)
    | '[' :: '[' :: s =>
      match tableLine? [']', ']'] s with
      | some (path, rest) => do lines fuel (← openItem p path) rest
      | none => .error .settingsSyntax
    | '[' :: s =>
      match tableLine? [']'] s with
      | some (path, rest) => do lines fuel (← openTable p path) rest
      | none => .error .settingsSyntax
    | s =>
      match keyLine? p s with
      | some (p, rest) => lines fuel p rest
      | none => .error .settingsSyntax

/-- The settings that a whole text writes. -/
def parse (s : List Char) : Except Fault Bindings := lines (s.length + 2) ⟨[], [], []⟩ s

theorem keyLine?_table {p p' : Progress} {s rest : List Char} (hp : Table p.root)
    (h : keyLine? p s = some (p', rest)) : Table p'.root := by
  obtain ⟨⟨path, s₁⟩, -, h⟩ := Option.bind_eq_some_iff.mp h
  simp only at h
  split at h
  · obtain ⟨⟨v, s₂⟩, hv, h⟩ := Option.bind_eq_some_iff.mp h
    obtain ⟨root, hroot, h⟩ := Option.bind_eq_some_iff.mp h
    obtain ⟨s₃, -, h⟩ := Option.bind_eq_some_iff.mp h
    cases h
    exact putAt_table (fresh_proper ((value?_proper _).1 hv)) _ hp hroot
  · cases h

theorem openAt_table {p p' : Progress} {write : Option Value → Option Value}
    {path : List String} {defined : List (List String)}
    (hwrite : ∀ old new, (∀ v ∈ old, Proper v) → write old = some new → Proper new)
    (hp : Table p.root) (h : openAt p write path defined = .ok p') : Table p'.root := by
  unfold openAt at h
  split at h
  · cases h
  · split at h
    · rename_i root hroot
      cases h
      exact putAt_table hwrite path hp hroot
    · cases h

theorem openTable_table {p p' : Progress} {path : List String} (hp : Table p.root)
    (h : openTable p path = .ok p') : Table p'.root := by
  unfold openTable at h
  split at h
  · cases h
  · split at h
    · cases h
    · refine openAt_table (fun old new hold hnew => ?_) hp h
      unfold tableAt at hnew
      split at hnew <;> cases hnew
      · exact Table.nil.proper
      · exact hold _ rfl

theorem openItem_table {p p' : Progress} {path : List String} (hp : Table p.root)
    (h : openItem p path = .ok p') : Table p'.root := by
  refine openAt_table (fun old new _ hnew => .plain ?_) hp h
  unfold oneMoreAt at hnew
  split at hnew
  · cases hnew
    exact nofun
  · obtain ⟨-, hnew⟩ := Option.ite_none_right_eq_some.mp hnew
    cases hnew
    exact nofun
  · cases hnew

/-- Every line keeps what was read so far a table. -/
theorem lines_table (fuel : Nat) {p : Progress} (hp : Table p.root) {s : List Char}
    {b : Bindings} (h : lines fuel p s = .ok b) : Table b := by
  induction fuel generalizing p s with
  | zero => cases h
  | succ fuel ih =>
      unfold lines at h
      split at h
      · cases h
        exact hp
      · exact ih hp h
      · exact ih hp h
      · split at h
        · obtain ⟨p', hopen, h⟩ := exists_of_bind_eq_ok h
          exact ih (openItem_table hp hopen) h
        · cases h
      · split at h
        · obtain ⟨p', hopen, h⟩ := exists_of_bind_eq_ok h
          exact ih (openTable_table hp hopen) h
        · cases h
      · split at h
        · rename_i hkey
          exact ih (keyLine?_table hp hkey) h
        · cases h

/-- What is read from a text is a table. -/
theorem parse_table {s : List Char} {b : Bindings} (h : parse s = .ok b) : Table b :=
  lines_table _ .nil h

theorem misplacedTable_foreign (v : Value) : (misplacedTable v).Foreign := by
  unfold misplacedTable
  dsimp only
  split
  · split <;> trivial
  · trivial
  · trivial
  · trivial

theorem openAt_foreign {p : Progress} {write : Option Value → Option Value}
    {path : List String} {defined : List (List String)} {f : Fault}
    (h : openAt p write path defined = .error f) : f.Foreign := by
  unfold openAt at h
  split at h
  · cases h
    exact misplacedTable_foreign _
  · split at h <;> cases h
    trivial

theorem openTable_foreign {p : Progress} {path : List String} {f : Fault}
    (h : openTable p path = .error f) : f.Foreign := by
  unfold openTable at h
  split at h
  · cases h
    exact misplacedTable_foreign _
  · split at h
    · cases h
      trivial
    · exact openAt_foreign h

/-- Nothing of what is wrong with a text is a fault of the library. -/
theorem lines_foreign (fuel : Nat) (p : Progress) (s : List Char) {f : Fault}
    (h : lines fuel p s = .error f) : f.Foreign := by
  induction fuel generalizing p s with
  | zero =>
      cases h
      trivial
  | succ fuel ih =>
      have hopened {r : Except Fault Progress} {rest : List Char}
          (hr : ∀ g, r = .error g → g.Foreign)
          (h : (r >>= fun p => lines fuel p rest) = .error f) : f.Foreign := by
        cases r with
        | error g => exact Except.error.inj h ▸ hr g rfl
        | ok p => exact ih p rest h
      unfold lines at h
      split at h
      · cases h
      · exact ih _ _ h
      · exact ih _ _ h
      · split at h
        · exact hopened (fun _ => openAt_foreign) h
        · cases h
          trivial
      · split at h
        · exact hopened (fun _ => openTable_foreign) h
        · cases h
          trivial
      · split at h
        · exact ih _ _ h
        · cases h
          trivial

/-- A reader of settings files. Two things are known of it: what it reads is a table, and where
    it fails it is not with a fault of the program that asks it. -/
structure Reader where
  read : List Char → Except Fault Bindings
  table : ∀ {s : List Char} {b : Bindings}, read s = .ok b → Table b
  foreign : ∀ {s : List Char} {f : Fault}, read s = .error f → f.Foreign

/-- The reader of this module. -/
def standard : Reader := ⟨parse, parse_table, lines_foreign _ _ _⟩

end Toml

end Stencil
