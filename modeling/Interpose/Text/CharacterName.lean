import Interpose.Text.CharacterName.Aliases
import Interpose.Text.CharacterName.Alphabets
import Interpose.Text.CharacterName.AncientScripts
import Interpose.Text.CharacterName.EastAsian
import Interpose.Text.CharacterName.Hieroglyphs
import Interpose.Text.CharacterName.Notations
import Interpose.Text.CharacterName.Pictographs
import Interpose.Text.CharacterName.Scripts
import Interpose.Text.CharacterName.Symbols
import Interpose.Text.Dotted
import Interpose.Text.Hexadecimal
import Interpose.Text.Ranges

/-! # Characters by name

The names of characters (Unicode 14), and the further names of some. A syllable of the Korean
alphabet is named after its letters, and an ideograph after its code. All other names are listed in
the order of the codes. An entry of the list gives the code, unless it is one more than the code
before, then how many words the name shares with the name before, and its other words. Case makes no
difference in a name, except in the names of syllables and unified ideographs.
-/
namespace Interpose.Text

namespace CharacterName

set_option autoImplicit false

/-! ## Listed names -/

/-- A listed character: its code, and the words of its name. -/
structure Listed where
  code : Nat
  words : List (List Char)
  deriving Repr

def Listed.next (before : Listed) (entry : List Char) : Listed :=
  let (code, name) :=
    match cutAll ':' entry with
    | [digits, name] => ((upperHex? digits).getD 0, name)
    | _ => (before.code + 1, entry)
  match name with
  | [] => ⟨code, []⟩
  | kept :: rest =>
    ⟨code, before.words.take ((upperHexValue? kept).getD 0) ++ cutAll ' ' rest⟩

/-- The code of the first character with a name among the entries that follow a character. -/
def findAfter (words : List (List Char)) : Listed → List (List Char) → Option Nat
  | _, [] => none
  | before, entry :: entries =>
    let listed := before.next entry
    if listed.words = words then some listed.code else findAfter words listed entries

def find? (words : List (List Char)) (lines : List String) : Option Nat :=
  findAfter words ⟨0, []⟩ (lines.flatMap fun line => cutAll ';' line.toList)

def lists : List (List String) :=
  [alphabets, scripts, symbols, eastAsian, ancientScripts, hieroglyphs, notations, pictographs,
    aliases]

def listed? (name : List Char) : Option Nat :=
  lists.findSome? (find? (cutAll ' ' name))

/-! ## Names that end in the code -/

/-- The ideographs that are unified, and those whose names are written with their code. -/
def unifiedRanges : List (Nat × Nat) :=
  [(0x3400, 0x4dbf), (0x4e00, 0x9fff), (0x20000, 0x2a6df), (0x2a700, 0x2b738), (0x2b740, 0x2b81d),
   (0x2b820, 0x2cea1), (0x2ceb0, 0x2ebe0), (0x30000, 0x3134a)]

/-- The families of characters whose names are a text and their code. -/
def numberedFamilies : List (String × List (Nat × Nat)) :=
  [("CJK COMPATIBILITY IDEOGRAPH-", [(0xf900, 0xfa6d), (0xfa70, 0xfad9), (0x2f800, 0x2fa1d)]),
   ("KHITAN SMALL SCRIPT CHARACTER-", [(0x18b00, 0x18cd5)]),
   ("NUSHU CHARACTER-", [(0x1b170, 0x1b2fb)])]

def after? (front : String) (name : List Char) : Option (List Char) :=
  if front.toList.isPrefixOf name then some (name.drop front.toList.length) else none

def unified? (digits : List Char) : Option Nat :=
  if digits.length = 4 ∨ digits.length = 5 then
    (upperHex? digits).filter (inRanges unifiedRanges)
  else none

def numbered? (name : List Char) : Option Nat :=
  numberedFamilies.findSome? fun (front, ranges) =>
    (after? front name).bind fun digits =>
      if digits.head? = some '0' then none else (upperHex? digits).filter (inRanges ranges)

/-! ## Syllables -/

def leadLetters : List String :=
  ["G", "GG", "N", "D", "DD", "R", "M", "B", "BB", "S", "SS", "", "J", "JJ", "C", "K", "T", "P",
   "H"]

def vowelLetters : List String :=
  ["A", "AE", "YA", "YAE", "EO", "E", "YEO", "YE", "O", "WA", "WAE", "OE", "YO", "U", "WEO", "WE",
   "WI", "YU", "EU", "YI", "I"]

def finalLetters : List String :=
  ["", "G", "GG", "GS", "N", "NJ", "NH", "D", "L", "LG", "LM", "LB", "LS", "LT", "LP", "LH", "M",
   "B", "BS", "S", "SS", "NG", "J", "C", "K", "T", "P", "H"]

/-- The position of the longest letter of a list that a text starts with, and what follows it. -/
def takeLetter (letters : List String) (cs : List Char) : Option (Nat × List Char) :=
  letters.zipIdx.foldl
    (fun best (letter, index) =>
      match after? letter cs, best with
      | some rest, some (_, shortest) =>
        if rest.length < shortest.length then some (index, rest) else best
      | some rest, none => some (index, rest)
      | none, _ => best)
    none

def syllable? (letters : List Char) : Option Nat :=
  match takeLetter leadLetters letters with
  | none => none
  | some (lead, rest) =>
    match takeLetter vowelLetters rest with
    | none => none
    | some (vowel, rest) =>
      match takeLetter finalLetters rest with
      | some (final, []) => some (0xac00 + (lead * 21 + vowel) * 28 + final)
      | _ => none

end CharacterName

def characterNamed? (name : List Char) : Option Char :=
  let code :=
    match CharacterName.after? "HANGUL SYLLABLE " name with
    | some letters => CharacterName.syllable? letters
    | none =>
      match CharacterName.after? "CJK UNIFIED IDEOGRAPH-" name with
      | some digits => CharacterName.unified? digits
      | none =>
        let name := name.map Char.toUpper
        (CharacterName.numbered? name).or (CharacterName.listed? name)
  code.map Char.ofNat

end Interpose.Text
