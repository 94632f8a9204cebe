/-
Sets of characters by the names of their Unicode properties.

A name is read without regard to case, blanks, low lines, hyphens and a leading
`is`.  Alone, it is looked up among the properties that are either held or not, then
among the general categories, then among the scripts.  Other properties are written
with one of their values.
-/
import TextGrammar.Pattern.Shorthand
import TextGrammar.Unicode.Age
import TextGrammar.Unicode.Break.Grapheme
import TextGrammar.Unicode.Break.Sentence
import TextGrammar.Unicode.Break.Word
import TextGrammar.Unicode.Letter
import TextGrammar.Unicode.Property.Casing
import TextGrammar.Unicode.Property.Emoji
import TextGrammar.Unicode.Property.Identifier
import TextGrammar.Unicode.Property.Ideograph
import TextGrammar.Unicode.Property.Sign
import TextGrammar.Unicode.Script
import TextGrammar.Unicode.Separator
import TextGrammar.Unicode.Symbol

namespace TextGrammar
namespace CharSet

/-- The form in which names are looked up. -/
def looseName (t : Text) : String :=
  let strip (u : Text) : Text :=
    (u.filter fun c => c ≠ ' ' ∧ c ≠ '_' ∧ c ≠ '-' ∧ c.toNat ≤ 0x7F).map Char.toLower
  match t with
  | i :: s :: rest =>
    if i.toLower = 'i' ∧ s.toLower = 's' then
      if strip rest = ['c'] then "isc" else String.ofList (strip rest)
    else String.ofList (strip t)
  | _ => String.ofList (strip t)

/-! ## Properties that are held or not -/

def binaryProperties : List Unicode.NamedTable :=
  [⟨["alpha", "alphabetic"], Unicode.alphabetic⟩, ⟨["joinc", "joincontrol"], Unicode.joinControl⟩]
    ++ Unicode.letterProperties ++ Unicode.caseProperties ++ Unicode.identifierProperties
    ++ Unicode.signProperties ++ Unicode.ideographProperties ++ Unicode.emojiProperties
    ++ Unicode.invisibleProperties

def binaryProperty? : String → Option CharSet
  | "space" | "wspace" | "whitespace" => some blank
  | name => Unicode.lookUp? binaryProperties name

/-! ## General categories -/

open Unicode in
/-- The general categories that are tables, with their short and long names. -/
def categories : List NamedTable := [
  ⟨["lu", "uppercaseletter"], uppercaseLetter⟩,
  ⟨["ll", "lowercaseletter"], lowercaseLetter⟩,
  ⟨["lt", "titlecaseletter"], titlecaseLetter⟩,
  ⟨["lm", "modifierletter"], modifierLetter⟩,
  ⟨["lo", "otherletter"], otherLetter⟩,
  ⟨["mn", "nonspacingmark"], nonspacingMark⟩,
  ⟨["mc", "spacingmark"], spacingMark⟩,
  ⟨["me", "enclosingmark"], enclosingMark⟩,
  ⟨["nd", "decimalnumber", "digit"], decimalNumber⟩,
  ⟨["nl", "letternumber"], letterNumber⟩,
  ⟨["no", "othernumber"], otherNumber⟩,
  ⟨["pc", "connectorpunctuation"], connectorPunctuation⟩,
  ⟨["pd", "dashpunctuation"], dashPunctuation⟩,
  ⟨["ps", "openpunctuation"], openPunctuation⟩,
  ⟨["pe", "closepunctuation"], closePunctuation⟩,
  ⟨["pi", "initialpunctuation"], initialPunctuation⟩,
  ⟨["pf", "finalpunctuation"], finalPunctuation⟩,
  ⟨["po", "otherpunctuation"], otherPunctuation⟩,
  ⟨["sm", "mathsymbol"], mathSymbol⟩,
  ⟨["sc", "currencysymbol"], currencySymbol⟩,
  ⟨["sk", "modifiersymbol"], modifierSymbol⟩,
  ⟨["so", "othersymbol"], otherSymbol⟩,
  ⟨["zs", "spaceseparator"], spaceSeparator⟩,
  ⟨["zl", "lineseparator"], lineSeparator⟩,
  ⟨["zp", "paragraphseparator"], paragraphSeparator⟩,
  ⟨["cc", "control", "cntrl"], control⟩,
  ⟨["cf", "format"], format⟩,
  ⟨["co", "privateuse"], privateUse⟩]

/-- The categories whose short name begins with `initial`. -/
def categoryGroup (initial : Char) : CharSet :=
  unionAll ((categories.filter fun e =>
    (e.names.head?.bind fun n => n.toList.head?) = some initial).map (·.table.set))

def assigned : CharSet := unionAll (categories.map (·.table.set))

/-- General categories, groups of them, and the three sets that are named like one.
Surrogates are no characters, so their category is none here. -/
def category? (name : String) : Option CharSet :=
  match name with
  | "any" => some all
  | "ascii" => some ascii
  | "assigned" => some assigned
  | "cn" | "unassigned" => some (compl assigned)
  | "l" | "letter" => some (categoryGroup 'l')
  | "lc" | "casedletter" =>
    some (unionAll [Unicode.uppercaseLetter.set, Unicode.lowercaseLetter.set,
      Unicode.titlecaseLetter.set])
  | "m" | "mark" | "combiningmark" => some (categoryGroup 'm')
  | "n" | "number" => some (categoryGroup 'n')
  | "p" | "punct" | "punctuation" => some (categoryGroup 'p')
  | "s" | "symbol" => some (categoryGroup 's')
  | "z" | "separator" => some (categoryGroup 'z')
  | "c" | "other" => some (union (categoryGroup 'c') (compl assigned))
  | _ => Unicode.lookUp? categories name

/-! ## Other properties -/

def scriptNamed? (name : String) : Option Unicode.Script :=
  Unicode.scripts.find? fun s => s.names.contains name

def script? (name : String) : Option CharSet := (scriptNamed? name).map (·.table.set)

/-- The characters that are used with a script.  What is used with another script does
not belong to the groups that stand for none. -/
def scriptExtension? (name : String) : Option CharSet :=
  (scriptNamed? name).map fun s =>
    if s.names.contains "zyyy" || s.names.contains "zinh" then
      diff s.table.set (unionAll (Unicode.scripts.map (·.borrowed.set)))
    else union s.table.set s.borrowed.set

/-- The characters that are as old as a version or older. -/
def age? (name : String) : Option CharSet :=
  let newer := Unicode.ages.dropWhile fun e => !e.names.contains name
  match newer with
  | [] => none
  | _ :: later =>
    some (unionAll ((Unicode.ages.take (Unicode.ages.length - later.length)).map (·.table.set)))

/-- The set with a given name. -/
def property? (name : Text) : Option CharSet :=
  let n := looseName name
  ((binaryProperty? n).or (category? n)).or (script? n)

/-- The set of characters whose property `name` has a given value. -/
def propertyValue? (name value : Text) : Option CharSet :=
  let v := looseName value
  match looseName name with
  | "gc" | "generalcategory" => category? v
  | "sc" | "script" => script? v
  | "scx" | "scriptextensions" => scriptExtension? v
  | "age" => age? v
  | "gcb" | "graphemeclusterbreak" => Unicode.lookUp? Unicode.graphemeBreak v
  | "wb" | "wordbreak" => Unicode.lookUp? Unicode.wordBreak v
  | "sb" | "sentencebreak" => Unicode.lookUp? Unicode.sentenceBreak v
  | _ => none

end CharSet
end TextGrammar
