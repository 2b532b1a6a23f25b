/-
Unicode properties of characters by name.

Names are compared without regard to case, blanks, hyphens, underscores and a leading `is`. A name on its own is
that of a property, of a group of general categories or of a script; a name with a value asks for the characters
that have the value.
-/
import SearchFilter.Text.CategoryData
import SearchFilter.Text.PropertyData
import SearchFilter.Text.ScriptData

namespace SearchFilter.Text

/-! ## Properties of a character -/

def category (n : Nat) : Category := categoryIn categoryRuns n

def Property.has (p : Property) (n : Nat) : Bool :=
  (p.plus.has n || (!p.categories.isEmpty && p.categories.contains (category n))) && !p.minus.has n

/-- what the first run that reaches a code point gives it -/
def runValue {α : Type} (runs : List (Nat × Nat × α)) (n : Nat) : Option α :=
  match runs with
  | [] => none
  | (lo, hi, a) :: rest => if n ≤ hi then (if lo ≤ n then some a else none) else runValue rest n

/-- code of the script of a code point -/
def script? (n : Nat) : Option String := runValue scriptRuns n

/-- codes of all scripts that a code point is used with -/
def scriptExtensions (n : Nat) : List String :=
  (runValue scriptExtensionRuns n).getD (script? n).toList

/-- a letter, or what is counted as one -/
def isAlphabetic (c : Char) : Bool := alphabeticProperty.has c.toNat

/-- decimal digits of all scripts, letters used as numbers, and other numbers -/
def isNumeric (c : Char) : Bool := [Category.nd, .nl, .no].contains (category c.toNat)

/-! ## Names -/

def categoryNames : List (List String × List Category) := [
  (["any"], [.lu, .ll, .lt, .lm, .lo, .mn, .mc, .me, .nd, .nl, .no, .pc, .pd, .ps, .pe, .pi, .pf, .po, .sm, .sc, .sk,
    .so, .zs, .zl, .zp, .cc, .cf, .co, .cn]),
  (["assigned"], [.lu, .ll, .lt, .lm, .lo, .mn, .mc, .me, .nd, .nl, .no, .pc, .pd, .ps, .pe, .pi, .pf, .po, .sm, .sc,
    .sk, .so, .zs, .zl, .zp, .cc, .cf, .co]),
  (["c", "other"], [.cc, .cf, .co, .cn]),
  (["cc", "control", "cntrl"], [.cc]),
  (["cf", "format"], [.cf]),
  (["cn", "unassigned"], [.cn]),
  (["co", "privateuse"], [.co]),
  (["cs", "surrogate"], []),
  (["l", "letter"], [.lu, .ll, .lt, .lm, .lo]),
  (["lc", "casedletter"], [.lu, .ll, .lt]),
  (["ll", "lowercaseletter"], [.ll]),
  (["lm", "modifierletter"], [.lm]),
  (["lo", "otherletter"], [.lo]),
  (["lt", "titlecaseletter"], [.lt]),
  (["lu", "uppercaseletter"], [.lu]),
  (["m", "mark", "combiningmark"], [.mn, .mc, .me]),
  (["mc", "spacingmark"], [.mc]),
  (["me", "enclosingmark"], [.me]),
  (["mn", "nonspacingmark"], [.mn]),
  (["n", "number"], [.nd, .nl, .no]),
  (["nd", "decimalnumber", "digit"], [.nd]),
  (["nl", "letternumber"], [.nl]),
  (["no", "othernumber"], [.no]),
  (["p", "punctuation", "punct"], [.pc, .pd, .ps, .pe, .pi, .pf, .po]),
  (["pc", "connectorpunctuation"], [.pc]),
  (["pd", "dashpunctuation"], [.pd]),
  (["pe", "closepunctuation"], [.pe]),
  (["pf", "finalpunctuation"], [.pf]),
  (["pi", "initialpunctuation"], [.pi]),
  (["po", "otherpunctuation"], [.po]),
  (["ps", "openpunctuation"], [.ps]),
  (["s", "symbol"], [.sm, .sc, .sk, .so]),
  (["sc", "currencysymbol"], [.sc]),
  (["sk", "modifiersymbol"], [.sk]),
  (["sm", "mathsymbol"], [.sm]),
  (["so", "othersymbol"], [.so]),
  (["z", "separator"], [.zs, .zl, .zp]),
  (["zl", "lineseparator"], [.zl]),
  (["zp", "paragraphseparator"], [.zp]),
  (["zs", "spaceseparator"], [.zs])]

/-- properties with values of other kinds, none of which can be asked for -/
def otherPropertyNames : List String := [
  "age", "bc", "bidiclass", "bidimirroringglyph", "bidipairedbracket", "bidipairedbrackettype", "blk", "block",
  "bmg", "bpb", "bpt", "canonicalcombiningclass", "casefolding", "ccc", "cf", "decompositionmapping",
  "decompositiontype", "dm", "dt", "ea", "eastasianwidth", "gcb", "graphemeclusterbreak", "hangulsyllabletype",
  "hst", "indicpositionalcategory", "indicsyllabiccategory", "inpc", "insc", "isc", "isocomment", "jamoshortname",
  "jg", "joininggroup", "joiningtype", "jsn", "jt", "lb", "lc", "linebreak", "lowercasemapping", "na", "na1", "name",
  "namealias", "nfcqc", "nfcquickcheck", "nfdqc", "nfdquickcheck", "nfkccasefold", "nfkccf", "nfkcqc",
  "nfkcquickcheck", "nfkdqc", "nfkdquickcheck", "nt", "numerictype", "numericvalue", "nv", "sb", "scf",
  "sentencebreak", "sfc", "simplecasefolding", "simplelowercasemapping", "simpletitlecasemapping",
  "simpleuppercasemapping", "slc", "stc", "suc", "tc", "titlecasemapping", "uc", "unicode1name", "uppercasemapping",
  "verticalorientation", "vo", "wb", "wordbreak"]

/-- lower case, and without blanks, hyphens, underscores and characters beyond ASCII -/
def bareName (s : List Char) : List Char :=
  s.filterMap fun c =>
    if c = ' ' || c = '_' || c = '-' || c.toNat > 0x7F then none
    else if 'A' ≤ c ∧ c ≤ 'Z' then some (Char.ofNat (c.toNat + 32))
    else some c

/-- A name in the form in which it is looked up. Only the abbreviation of one property starts with `is` by itself. -/
def propertyName (s : String) : String :=
  match s.toList with
  | a :: b :: rest =>
    if (a = 'i' || a = 'I') && (b = 's' || b = 'S') then
      let bare := bareName rest
      if bare = ['c'] then "isc" else String.ofList bare
    else String.ofList (bareName (a :: b :: rest))
  | short => String.ofList (bareName short)

/-! ## Queries -/

/-- a set of characters that a query stands for -/
inductive Named where
  | ascii
  | categories (cs : List Category)
  | property (p : Property)
  | script (code : String)
  | scriptExtension (code : String)

def Named.has (n : Nat) : Named → Bool
  | .ascii => n ≤ 0x7F
  | .categories cs => cs.contains (category n)
  | .property p => p.has n
  | .script code => script? n == some code
  | .scriptExtension code => (scriptExtensions n).contains code

/-- why a query stands for nothing -/
inductive QueryError where
  | unknownProperty
  | unknownValue
  deriving DecidableEq, Repr

def findCategories? (name : String) : Option Named :=
  if name = "ascii" then some .ascii
  else (categoryNames.find? fun e => e.1.contains name).map fun e => .categories e.2

def findScript? (name : String) : Option String :=
  (scriptNames.find? fun e => e.2.contains name).map Prod.fst

def findProperty? (name : String) : Option Property := properties.find? fun p => p.names.contains name

/-- The set of a name on its own. Three names of properties are also names of categories, which win. -/
def Named.ofName (s : String) : Except QueryError Named :=
  let name := propertyName s
  let asProperty := if name = "cf" || name = "sc" || name = "lc" then none else findProperty? name
  match asProperty with
  | some p => .ok (.property p)
  | none =>
    if name != "cf" && name != "sc" && name != "lc" && otherPropertyNames.contains name then .error .unknownProperty
    else
      match findCategories? name with
      | some set => .ok set
      | none =>
        match findScript? name with
        | some code => .ok (.script code)
        | none => .error .unknownProperty

/-- the set of the characters for which a property has a value -/
def Named.ofValue (property value : String) : Except QueryError Named :=
  let name := propertyName property
  let value := propertyName value
  if name = "gc" || name = "generalcategory" then
    match findCategories? value with
    | some set => .ok set
    | none => .error .unknownValue
  else if name = "sc" || name = "script" then
    match findScript? value with
    | some code => .ok (.script code)
    | none => .error .unknownValue
  else if name = "scx" || name = "scriptextensions" then
    match findScript? value with
    | some code => .ok (.scriptExtension code)
    | none => .error .unknownValue
  else if otherPropertyNames.contains name || (findProperty? name).isSome then .error .unknownValue
  else .error .unknownProperty

end SearchFilter.Text
