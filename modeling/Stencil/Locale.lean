import Stencil.Locale.Table
import Stencil.Text.Case
import Stencil.Text.Word

/-!
# The full names of locales

A locale may be asked for by a language, a language and a territory, a word for either, or an
old name, with or without an encoding and a modifier. Its full name has all that is usual: the
language `de` is that of Germany, in the encoding that is usual there. A name is looked up as
it is, then without its modifier, then without its encoding, which takes the place of the
usual one in what is found, and at last without both. One that is not found at all is its own
full name.

## Main definitions

* `alias?`: The full name that the table has for a name.
* `withEncoding`, `withModifier`, `modified?`: A full name in another encoding, and with a modifier.
* `full`: The full name of a locale.
-/

namespace Stencil

namespace Locale

/-- A text cut before the first occurrence of a character. -/
def cutAt (c : Char) (s : List Char) : List Char × List Char :=
  (s.takeWhile (· != c), s.dropWhile (· != c))

/-- A text before and behind the first occurrence of a character. -/
def splitAt (c : Char) (s : String) : String × String :=
  (String.ofList (cutAt c s.toList).1, String.ofList ((cutAt c s.toList).2.drop 1))

/-- A text in small letters. -/
def small (s : String) : String := String.ofList (Text.lower s.toList)

/-- The texts that stand in lines of a table. -/
def words (lines : List String) : List String := lines.flatMap (·.splitOn " ")

/-- What a table has a name for. -/
def named? (table : List (String × List String)) (name : String) : Option String :=
  (table.find? fun e => (words e.2).contains name).map (·.1)

/-- The full name of a language with a territory. -/
def ofTerritory? (name : String) : Option String :=
  territories.findSome? fun e =>
    ((words e.2).find? (·.toLower == name)).map fun code => code ++ "." ++ e.1

/-- The language of a main territory. -/
def ofLanguage? (name : String) : Option String :=
  ((words mainTerritories).find? fun code => (splitAt '_' code).1 == name).bind fun code =>
    ofTerritory? code.toLower

/-- The full name that the table has for a name. -/
def alias? (name : String) : Option String :=
  ((named? otherNames name).or (ofTerritory? name)).or (ofLanguage? name)

/-- A name of an encoding in letters, digits and points, with lines between its parts. -/
def partsOfEncoding (s : List Char) : List Char :=
  let isPart (c : Char) : Bool := c == '.' || (Text.isWordPart c && c != '_')
  (s.foldl (fun (acc, gap) c =>
    if isPart c then
      ((if gap && !acc.isEmpty then acc ++ ['_'] else acc) ++ (if c.val < 128 then [c] else []),
        false)
    else (acc, true)) ([], false)).1

/-- A name without the lines and hyphens in it. -/
def compact (s : String) : String := String.ofList (s.toList.filter fun c => c != '_' && c != '-')

/-- A full name in another encoding. -/
def withEncoding (code encoding : String) : String :=
  let parts := String.ofList (partsOfEncoding encoding.toList)
  let codec := (named? codecNames (small parts)).getD parts
  let usual :=
    ((named? encodingNames (small codec)).or (named? encodingNames (compact (small codec)))).getD
      codec
  (splitAt '.' code).1 ++ "." ++ usual

/-- A full name with a modifier. That of the common currency goes into the encoding. -/
def withModifier (code modifier : String) : String :=
  let encoding := (splitAt '.' code).2
  if modifier = "euro" then
    if !code.contains '.' then code ++ ".ISO8859-15"
    else if encoding = "ISO8859-15" || encoding = "UTF-8" then code
    else if encoding = "ISO8859-1" then withEncoding code "ISO8859-15"
    else code ++ "@" ++ modifier
  else code ++ "@" ++ modifier

/-- A full name that was found without the modifier that was asked for, brought into an encoding.
    It gets the modifier, unless it has another one itself. -/
def modified? (recode : String → String) (modifier code : String) : Option String :=
  let (plain, own) := splitAt '@' code
  if !code.contains '@' then some (withModifier (recode code) modifier)
  else if small own = modifier then some (recode plain ++ "@" ++ own)
  else none

/-- The full name of a locale. -/
def full (name : String) : String :=
  -- A colon may stand for the point in front of the encoding.
  let text := String.ofList ((Text.lower name.toList).map fun c => if c = ':' then '.' else c)
  let (code, modifier) := splitAt '@' text
  let (language, rest) := splitAt '.' code
  let encoding := (splitAt '.' rest).1
  let behind (modifier : String) : String := if modifier.isEmpty then "" else "@" ++ modifier
  let encoded := if encoding.isEmpty then language else language ++ "." ++ compact encoding
  let recode (code : String) : String := withEncoding code encoding
  let asItIs := alias? (encoded ++ behind modifier)
  let unmodified :=
    if modifier.isEmpty then none else (alias? encoded).bind (modified? id modifier)
  let recoded :=
    if encoding.isEmpty then none
    else (alias? (language ++ behind modifier)).map fun code =>
      recode (splitAt '@' code).1 ++ behind (splitAt '@' code).2
  let neither :=
    if encoding.isEmpty || modifier.isEmpty then none
    else (alias? language).bind (modified? recode modifier)
  ((asItIs.or unmodified).or (recoded.or neither)).getD name

end Locale

end Stencil
