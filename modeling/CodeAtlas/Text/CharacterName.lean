import CodeAtlas.Text.CharacterName.EastAsia
import CodeAtlas.Text.CharacterName.Further
import CodeAtlas.Text.CharacterName.Historic
import CodeAtlas.Text.CharacterName.Pictures
import CodeAtlas.Text.CharacterName.Scripts
import CodeAtlas.Text.CharacterName.Symbols
import CodeAtlas.Text.Ranges
import CodeAtlas.Text.Similarity

/-!
# Characters by their names

A character can be given by its name. Syllables of the Hangul block are named after their sounds,
ideographs and the characters of two more scripts after their code points; all other names are found
in tables. Case does not matter in a table. It does in the names of syllables and of unified
ideographs.
-/

namespace CodeAtlas.Text

/-! ### Tables -/

/-- An entry of a table: its code point, if it is not the next one, how many characters it keeps of
the name before it, and the rest of its name. -/
structure NameEntry where
  code : Option Nat
  kept : Nat
  tail : List Char
  deriving Repr, DecidableEq, Inhabited

/-- Takes in one more character in front of those that were read: the characters that belong to no
entry yet, and the entries. A small letter up to `y` starts an entry, every `z` in front of it stands
for 25 more characters, and `@` starts the code point. -/
def entryStep (c : Char) : List Char × List NameEntry → List Char × List NameEntry
  | (pending, entries) =>
    if c = '@' then
      match entries with
      | e :: es => ([], { e with code := some (hexNumber pending) } :: es)
      | [] => ([], [])
    else if c = 'z' then
      match entries with
      | e :: es => (pending, { e with kept := e.kept + 25 } :: es)
      | [] => (pending, [])
    else if c.isLower then ([], ⟨none, c.toNat - 'a'.toNat, pending⟩ :: entries)
    else (c :: pending, entries)

/-- The entries on a line of a table. -/
def nameEntries (line : String) : List NameEntry :=
  (line.toList.foldr entryStep ([], [])).2

/-- The code point of the entry with the given name. The entry before the first one stood just in
front of `code`, and its name begins like the given one for `agreed` characters: names are compared
without being put together. -/
def findNamed (wanted : List Char) (code agreed : Nat) : List NameEntry → Option Nat
  | [] => none
  | e :: es =>
    let here := e.code.getD code
    let agreed := if e.kept ≤ agreed then e.kept + commonLength (wanted.drop e.kept) e.tail else agreed
    if agreed == wanted.length && e.kept + e.tail.length == agreed then some here
    else findNamed wanted (here + 1) agreed es

/-- The entries of all tables, which are read when a name is looked up for the first time. -/
def nameTables : Thunk (List (List NameEntry)) := .mk fun _ =>
  [scriptNames, symbolNames, eastAsianNames, historicNames, pictureNames, furtherNames].map
    fun table => table.flatMap nameEntries

/-- The code point that a table has under a name. -/
def tabledName? (name : List Char) : Option Nat :=
  nameTables.get.findSome? (findNamed name 0 0)

/-! ### Names by code point -/

/-- What follows a given beginning. -/
def afterLead? (lead : String) (cs : List Char) : Option (List Char) :=
  if lead.toList.isPrefixOf cs then some (cs.drop lead.toList.length) else none

/-- An upper-case hexadecimal digit. -/
def isUpperHex (c : Char) : Bool :=
  c.isDigit || ('A' ≤ c && c ≤ 'F')

/-- The unified ideographs. -/
def unifiedIdeographs : Ranges := .ofLines
  ["3400-4DBF 4E00-9FFF 20000-2A6DF 2A700-2B738 2B740-2B81D 2B820-2CEA1 2CEB0-2EBE0 30000-3134A"]

/-- The code point of a unified ideograph from the four or five digits of its name. -/
def unifiedIdeograph? (digits : List Char) : Option Nat :=
  let code := hexNumber digits
  if (digits.length = 4 ∨ digits.length = 5) ∧ digits.all isUpperHex ∧ unifiedIdeographs.contains code
  then some code else none

/-- Other characters that are named after their code points. -/
def numberedSeries : List (String × Ranges) :=
  [("CJK COMPATIBILITY IDEOGRAPH-", .ofLines ["F900-FA6D FA70-FAD9 2F800-2FA1D"]),
    ("KHITAN SMALL SCRIPT CHARACTER-", .ofLines ["18B00-18CD5"]),
    ("NUSHU CHARACTER-", .ofLines ["1B170-1B2FB"])]

/-- The code point of a character in such a series; its digits have no zeros in front. -/
def numberedName? (name : List Char) : Option Nat :=
  numberedSeries.findSome? fun (lead, range) =>
    (afterLead? lead name).bind fun digits =>
      let code := hexNumber digits
      if digits.all isUpperHex ∧ digits.head? ≠ some '0' ∧ range.contains code then some code else none

/-! ### Names by sound -/

/-- The sounds that start a syllable, in the order of the syllables. -/
def initialSounds : List String :=
  ["G", "GG", "N", "D", "DD", "R", "M", "B", "BB", "S", "SS", "", "J", "JJ", "C", "K", "T", "P", "H"]

/-- The vowels of a syllable. -/
def vowelSounds : List String :=
  ["A", "AE", "YA", "YAE", "EO", "E", "YEO", "YE", "O", "WA", "WAE", "OE", "YO", "U", "WEO", "WE",
    "WI", "YU", "EU", "YI", "I"]

/-- The sounds that end a syllable. -/
def finalSounds : List String :=
  ["", "G", "GG", "GS", "N", "NJ", "NH", "D", "L", "LG", "LM", "LB", "LS", "LT", "LP", "LH", "M", "B",
    "BS", "S", "SS", "NG", "J", "C", "K", "T", "P", "H"]

/-- The place of the longest sound that a text starts with, and what follows it. -/
def takeSound (sounds : List String) (cs : List Char) : Option (Nat × List Char) :=
  sounds.zipIdx.foldl (fun best (sound, i) =>
    match afterLead? sound cs, best with
    | some rest, some (_, shortest) => if rest.length < shortest.length then some (i, rest) else best
    | some rest, none => some (i, rest)
    | none, _ => best) none

/-- The code point of a Hangul syllable from its sounds. -/
def syllable? (cs : List Char) : Option Nat := do
  let (initial, cs) ← takeSound initialSounds cs
  let (vowel, cs) ← takeSound vowelSounds cs
  let (final, cs) ← takeSound finalSounds cs
  if cs.isEmpty then some (0xAC00 + (initial * 21 + vowel) * 28 + final) else none

/-! ### All names -/

/-- The code point of the character with a name. -/
def codeOfName? (name : List Char) : Option Nat :=
  match afterLead? "HANGUL SYLLABLE " name, afterLead? "CJK UNIFIED IDEOGRAPH-" name with
  | some sounds, _ => syllable? sounds
  | none, some digits => unifiedIdeograph? digits
  | none, none =>
    let upper := name.map Char.toUpper
    match numberedName? upper with
    | some code => some code
    | none => tabledName? upper

end CodeAtlas.Text
