import EventCapture.Regex.Property.Age
import EventCapture.Regex.Property.Break

/-! Sets of characters by the name of a property, or by a property and a value of it. -/

set_option autoImplicit false

namespace EventCapture.Regex.Property

/-- The part of a name that tells it from others: its ASCII characters in lower case, without
blanks, dashes, underscores, and without `is` before them. The name `isc` alone keeps its beginning,
for without it would be that of a category. -/
def plainName (name : List Char) : String :=
  let plain (cs : List Char) : List Char :=
    (cs.filter fun c => c.toNat < 128 && !(c == ' ' || c == '_' || c == '-')).map Char.toLower
  match name with
  | i :: s :: rest =>
    if i.toLower == 'i' && s.toLower == 's' then
      if plain rest = ['c'] then "isc" else String.ofList (plain rest)
    else String.ofList (plain name)
  | _ => String.ofList (plain name)

/-- The codes of the categories that a name stands for. Halves of pairs are no characters, and so
their category has no name. -/
def categoriesOf? (name : String) : Option (List String) :=
  match name with
  | "lu" | "uppercaseletter" => some ["Lu"]
  | "ll" | "lowercaseletter" => some ["Ll"]
  | "lt" | "titlecaseletter" => some ["Lt"]
  | "lc" | "casedletter" => some ["Lu", "Ll", "Lt"]
  | "lm" | "modifierletter" => some ["Lm"]
  | "lo" | "otherletter" => some ["Lo"]
  | "l" | "letter" => some ["Lu", "Ll", "Lt", "Lm", "Lo"]
  | "mn" | "nonspacingmark" => some ["Mn"]
  | "mc" | "spacingmark" => some ["Mc"]
  | "me" | "enclosingmark" => some ["Me"]
  | "m" | "mark" | "combiningmark" => some ["Mn", "Mc", "Me"]
  | "nd" | "decimalnumber" | "digit" => some ["Nd"]
  | "nl" | "letternumber" => some ["Nl"]
  | "no" | "othernumber" => some ["No"]
  | "n" | "number" => some ["Nd", "Nl", "No"]
  | "pc" | "connectorpunctuation" => some ["Pc"]
  | "pd" | "dashpunctuation" => some ["Pd"]
  | "ps" | "openpunctuation" => some ["Ps"]
  | "pe" | "closepunctuation" => some ["Pe"]
  | "pi" | "initialpunctuation" => some ["Pi"]
  | "pf" | "finalpunctuation" => some ["Pf"]
  | "po" | "otherpunctuation" => some ["Po"]
  | "p" | "punctuation" | "punct" => some ["Pc", "Pd", "Ps", "Pe", "Pi", "Pf", "Po"]
  | "sm" | "mathsymbol" => some ["Sm"]
  | "sc" | "currencysymbol" => some ["Sc"]
  | "sk" | "modifiersymbol" => some ["Sk"]
  | "so" | "othersymbol" => some ["So"]
  | "s" | "symbol" => some ["Sm", "Sc", "Sk", "So"]
  | "zs" | "spaceseparator" => some ["Zs"]
  | "zl" | "lineseparator" => some ["Zl"]
  | "zp" | "paragraphseparator" => some ["Zp"]
  | "z" | "separator" => some ["Zs", "Zl", "Zp"]
  | "cc" | "control" | "cntrl" => some ["Cc"]
  | "cf" | "format" => some ["Cf"]
  | "cn" | "unassigned" => some ["Cn"]
  | "co" | "privateuse" => some ["Co"]
  | "c" | "other" => some ["Cc", "Cf", "Cn", "Co"]
  | _ => none

def category? (name : String) : Option CharSet :=
  match name with
  | "any" => some .all
  | "assigned" => some (ofCategory "Cn").complement
  | "ascii" => some (.range 0 0x7F)
  | _ => (categoriesOf? name).map ofCategories

def script? (name : String) : Option CharSet :=
  (Script.codeOf? name).map Script.belonging

/-- The set that a name alone stands for: of a property with two values, a category or a script, the
first that there is. -/
def named? (name : List Char) : Option CharSet :=
  let name := plainName name
  Binary.ofName? name <|> category? name <|> script? name

def valued? (name value : List Char) : Option CharSet :=
  let value := plainName value
  match plainName name with
  | "gc" | "generalcategory" => category? value
  | "sc" | "script" => script? value
  | "scx" | "scriptextensions" => (Script.codeOf? value).map Script.usedBy
  | "age" => Age.known? value
  | "gcb" | "graphemeclusterbreak" => Break.cluster? value
  | "wb" | "wordbreak" => Break.word? value
  | "sb" | "sentencebreak" => Break.sentence? value
  | _ => none

end EventCapture.Regex.Property
