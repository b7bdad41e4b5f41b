import Mender.Pattern.Basic
import Mender.Pattern.Script
import Mender.Pattern.Trait

namespace Mender.Pattern

/-- A name as names are compared: in lower case, without spaces, dashes, underscores, characters
beyond the first 128 and a leading `is`. -/
def plainName (name : List Char) : String :=
  let rest := match name with
    | i :: s :: cs => if i.toLower = 'i' ∧ s.toLower = 's' then cs else name
    | _ => name
  .ofList <| (rest.filter fun c => c.toNat < 128 && c ∉ [' ', '_', '-']).map Char.toLower

def category? (name : String) : Option CharClass :=
  match name with
  | "l" | "letter" => some (.table letters)
  | "lc" | "casedletter" => some (.table casedLetters)
  | "lu" | "uppercaseletter" => some (.table uppercaseLetters)
  | "ll" | "lowercaseletter" => some (.table lowercaseLetters)
  | "lt" | "titlecaseletter" => some (.table titlecaseLetters)
  | "lm" | "modifierletter" => some (.table modifierLetters)
  | "lo" | "otherletter" => some (.table otherLetters)
  | "m" | "mark" | "combiningmark" => some (.table marks)
  | "mn" | "nonspacingmark" => some (.table nonspacingMarks)
  | "mc" | "spacingmark" => some (.table spacingMarks)
  | "me" | "enclosingmark" => some (.table enclosingMarks)
  | "n" | "number" => some (.table numbers)
  | "nd" | "decimalnumber" | "digit" => some (.table decimalNumbers)
  | "nl" | "letternumber" => some (.table letterNumbers)
  | "no" | "othernumber" => some (.table otherNumbers)
  | "p" | "punctuation" | "punct" => some (.table punctuation)
  | "pc" | "connectorpunctuation" => some (.table connectors)
  | "pd" | "dashpunctuation" => some (.table dashes)
  | "ps" | "openpunctuation" => some (.table openings)
  | "pe" | "closepunctuation" => some (.table closings)
  | "pi" | "initialpunctuation" => some (.table initialQuotes)
  | "pf" | "finalpunctuation" => some (.table finalQuotes)
  | "po" | "otherpunctuation" => some (.table otherPunctuation)
  | "s" | "symbol" => some (.table symbols)
  | "sm" | "mathsymbol" => some (.table mathSymbols)
  | "sc" | "currencysymbol" => some (.table currencySymbols)
  | "sk" | "modifiersymbol" => some (.table modifierSymbols)
  | "so" | "othersymbol" => some (.table otherSymbols)
  | "z" | "separator" => some (.table separators)
  | "zs" | "spaceseparator" => some (.table spaces)
  | "zl" | "lineseparator" => some (.table lineSeparators)
  | "zp" | "paragraphseparator" => some (.table paragraphSeparators)
  | "c" | "other" =>
    some (.compl (.table (.merged [letters, marks, numbers, punctuation, symbols, separators])))
  | "cc" | "control" | "cntrl" => some (.table controls)
  | "cf" | "format" => some (.table formats)
  | "co" | "privateuse" => some (.table privateUse)
  | "cn" | "unassigned" => some (.compl (.table assigned))
  | "any" => some .all
  | "assigned" => some (.table assigned)
  | "ascii" => some (.range 0 127)
  | _ => none

def tableOf? (tables : List (List String × String)) (name : String) : Option CharClass :=
  (tables.find? (·.1.contains name)).map fun entry => .table (.ofText entry.2)

def script? (name : String) : Option CharClass := tableOf? scripts name

def trait? (name : String) : Option CharClass :=
  match name with
  | "alphabetic" | "alpha" => some (.table alphabetic)
  | "lowercase" | "lower" => some (.table lowercase)
  | "uppercase" | "upper" => some (.table uppercase)
  | "cased" => some (.table (.merged [lowercase, uppercase, titlecaseLetters]))
  | "whitespace" | "wspace" | "space" => some .blank
  | "idstart" | "ids" => some (.table identifierStarts)
  | "idcontinue" | "idc" => some (.table identifierParts)
  | "xidstart" | "xids" => some (.table (identifierStarts.diff unstableStarts))
  | "xidcontinue" | "xidc" => some (.table (identifierParts.diff unstableParts))
  | _ => tableOf? traits name

def cutAt? (mark : List Char) : List Char → Option (List Char × List Char)
  | [] => none
  | c :: cs =>
    if mark.isPrefixOf (c :: cs) then some ([], (c :: cs).drop mark.length)
    else (cutAt? mark cs).map fun (before, after) => (c :: before, after)

/-- The class that a property's name stands for. A name and a value are parted by one of several
marks, between which there is no difference. -/
def property? (name : List Char) : Option CharClass :=
  match [['!', '='], [':'], ['=']].findSome? (cutAt? · name) with
  | none =>
    let name := plainName name
    trait? name <|> category? name <|> script? name
  | some (name, value) =>
    let value := plainName value
    match plainName name with
    | "gc" | "generalcategory" => category? value
    | "sc" | "script" => script? value
    | _ => none

end Mender.Pattern
