import FileSearch.Pattern.CharSet

/-!
# Properties by name

A pattern can name a property of characters. Case, spaces, dashes and underscores in a name do not
count, nor does "is" at its front.
-/

set_option autoImplicit false

namespace FileSearch.Pattern.Property

open Unicode (Category)

/-- The names of the general categories and of groups of them. -/
def categoryNames : List (List String × List Category) :=
  [(["l", "letter"], Category.letters),
   (["lc", "casedletter"], [.uppercaseLetter, .lowercaseLetter, .titlecaseLetter]),
   (["lu", "uppercaseletter"], [.uppercaseLetter]),
   (["ll", "lowercaseletter"], [.lowercaseLetter]),
   (["lt", "titlecaseletter"], [.titlecaseLetter]),
   (["lm", "modifierletter"], [.modifierLetter]),
   (["lo", "otherletter"], [.otherLetter]),
   (["m", "mark", "combiningmark"], Category.marks),
   (["mn", "nonspacingmark"], [.nonspacingMark]),
   (["mc", "spacingmark"], [.spacingMark]),
   (["me", "enclosingmark"], [.enclosingMark]),
   (["n", "number"], Category.numbers),
   (["nd", "decimalnumber", "digit"], [.decimalNumber]),
   (["nl", "letternumber"], [.letterNumber]),
   (["no", "othernumber"], [.otherNumber]),
   (["p", "punctuation", "punct"],
     [.connectorPunctuation, .dashPunctuation, .openPunctuation, .closePunctuation,
      .initialPunctuation, .finalPunctuation, .otherPunctuation]),
   (["pc", "connectorpunctuation"], [.connectorPunctuation]),
   (["pd", "dashpunctuation"], [.dashPunctuation]),
   (["ps", "openpunctuation"], [.openPunctuation]),
   (["pe", "closepunctuation"], [.closePunctuation]),
   (["pi", "initialpunctuation"], [.initialPunctuation]),
   (["pf", "finalpunctuation"], [.finalPunctuation]),
   (["po", "otherpunctuation"], [.otherPunctuation]),
   (["s", "symbol"], [.mathSymbol, .currencySymbol, .modifierSymbol, .otherSymbol]),
   (["sm", "mathsymbol"], [.mathSymbol]),
   (["sc", "currencysymbol"], [.currencySymbol]),
   (["sk", "modifiersymbol"], [.modifierSymbol]),
   (["so", "othersymbol"], [.otherSymbol]),
   (["z", "separator"], [.spaceSeparator, .lineSeparator, .paragraphSeparator]),
   (["zs", "spaceseparator"], [.spaceSeparator]),
   (["zl", "lineseparator"], [.lineSeparator]),
   (["zp", "paragraphseparator"], [.paragraphSeparator]),
   (["cc", "control", "cntrl"], [.control]),
   (["cf", "format"], [.format]),
   (["co", "privateuse"], [.privateUse])]

/-- The set of a general category by its plain name. -/
def category? (name : String) : Option CharSet :=
  match name with
  | "any" => some .any
  | "assigned" => some (.complement .unassigned)
  | "ascii" => some .ascii
  | "cn" | "unassigned" => some .unassigned
  | "c" | "other" =>
    some (.union .unassigned (.ofCategories [.control, .format, .privateUse]))
  | _ =>
    (categoryNames.find? fun entry => entry.1.contains name).map fun entry =>
      .ofCategories entry.2

/-- The set of a property that characters have or lack, by its plain name. -/
def binary? : String → Option CharSet
  | "alphabetic" | "alpha" => some .alphabetic
  | "lowercase" | "lower" => some .lowercase
  | "uppercase" | "upper" => some .uppercase
  | "cased" => some .cased
  | "whitespace" | "wspace" | "space" => some .blank
  | "joincontrol" | "joinc" => some .joinControl
  | "asciihexdigit" | "ahex" => some .hexDigit
  | _ => none

def letters (name : List Char) : List Char :=
  (name.filter fun c => c.toNat < 0x80 && c != ' ' && c != '_' && c != '-').map Char.toLower

def plainName (name : List Char) : String :=
  match name with
  | first :: second :: rest =>
    if first.toLower == 'i' && second.toLower == 's' then
      let plain := letters rest
      if plain == ['c'] then "isc" else String.ofList plain
    else String.ofList (letters name)
  | _ => String.ofList (letters name)

def named? (name : List Char) : Option CharSet :=
  let plain := plainName name
  (binary? plain).or (category? plain)

/-- The set of the characters that have a given value of a property. -/
def valued? (name value : List Char) : Option CharSet :=
  if plainName name == "gc" || plainName name == "generalcategory" then
    category? (plainName value)
  else none

end FileSearch.Pattern.Property
