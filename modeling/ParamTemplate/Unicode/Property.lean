/-
**Looking up a property of characters.**

A property is asked for by one name, which is that of a binary property, of a general category or of
a script, or by a name and a value.

Main definitions:

* `Unicode.PropertyQuery` — what is asked for;
* `Unicode.PropertyError` — why there is no answer;
* `Unicode.PropertyQuery.find` — the set of the characters with the property.
-/

import ParamTemplate.Unicode.Age
import ParamTemplate.Unicode.Binary
import ParamTemplate.Unicode.Boundary
import ParamTemplate.Unicode.Category
import ParamTemplate.Unicode.Script
import ParamTemplate.Unicode.ScriptExtension

set_option autoImplicit false

namespace ParamTemplate.Unicode

/-- A question for the characters with a property: a single name, or a name with a value. -/
inductive PropertyQuery where
  | named (name : List Char)
  | valued (name value : List Char)
deriving DecidableEq

/-- Why a question has no answer: no set belongs to the name, or none to the value. -/
inductive PropertyError where
  | propertyNotFound
  | valueNotFound
deriving DecidableEq

/-- The properties that have a value for each character and can be asked for with one. -/
inductive ValuedProperty where
  | generalCategory
  | script
  | scriptExtensions
  | age
  | graphemeBreak
  | wordBreak
  | sentenceBreak
deriving DecidableEq

/-- The property with values that has a name, given in loose form. -/
def ValuedProperty.ofName? (name : String) : Option ValuedProperty :=
  match name with
  | "gc" | "generalcategory" => some .generalCategory
  | "sc" | "script" => some .script
  | "scx" | "scriptextensions" => some .scriptExtensions
  | "age" => some .age
  | "gcb" | "graphemeclusterbreak" => some .graphemeBreak
  | "wb" | "wordbreak" => some .wordBreak
  | "sb" | "sentencebreak" => some .sentenceBreak
  | _ => none

/-- The names, in loose form, of the properties of the character database that have no set. -/
def otherProperties : List String :=
  ["bc", "bidiclass", "bidimirroringglyph", "bidipairedbracket", "bidipairedbrackettype", "blk",
   "block", "bmg", "bpb", "bpt", "canonicalcombiningclass", "casefolding", "ccc", "ce", "cf",
   "changeswhennfkccasefolded", "cjkaccountingnumeric", "cjkcompatibilityvariant", "cjkiicore",
   "cjkirggsource", "cjkirghsource", "cjkirgjsource", "cjkirgkpsource", "cjkirgksource",
   "cjkirgmsource", "cjkirgssource", "cjkirgtsource", "cjkirguksource", "cjkirgusource",
   "cjkirgvsource", "cjkothernumeric", "cjkprimarynumeric", "cjkrsunicode", "compex",
   "compositionexclusion", "cwkcf", "decompositionmapping", "decompositiontype", "dm", "dt",
   "ea", "eastasianwidth", "equideo", "equivalentunifiedideograph", "expandsonnfc",
   "expandsonnfd", "expandsonnfkc", "expandsonnfkd", "fcnfkc", "fcnfkcclosure",
   "fullcompositionexclusion", "hangulsyllabletype", "hst", "incb", "indicconjunctbreak",
   "indicpositionalcategory", "indicsyllabiccategory", "inpc", "insc", "isc", "isocomment",
   "jamoshortname", "jg", "joininggroup", "joiningtype", "jsn", "jt", "kaccountingnumeric",
   "kcompatibilityvariant", "kehcat", "kehdesc", "kehhg", "kehifao", "kehjsesh", "kehnomirror",
   "kehnorotate", "kiicore", "kirggsource", "kirghsource", "kirgjsource", "kirgkpsource",
   "kirgksource", "kirgmsource", "kirgssource", "kirgtsource", "kirguksource", "kirgusource",
   "kirgvsource", "kothernumeric", "kprimarynumeric", "krsunicode", "lb", "lc", "linebreak",
   "lowercasemapping", "na", "na1", "name", "namealias", "nfcqc", "nfcquickcheck", "nfdqc",
   "nfdquickcheck", "nfkccasefold", "nfkccf", "nfkcqc", "nfkcquickcheck", "nfkcscf",
   "nfkcsimplecasefold", "nfkdqc", "nfkdquickcheck", "nt", "numerictype", "numericvalue", "nv",
   "scf", "sfc", "simplecasefolding", "simplelowercasemapping", "simpletitlecasemapping",
   "simpleuppercasemapping", "slc", "stc", "suc", "tc", "titlecasemapping", "uc", "unicode1name",
   "unicoderadicalstroke", "uppercasemapping", "urs", "verticalorientation", "vo", "xonfc",
   "xonfd", "xonfkc", "xonfkd"]

/-- Whether a name, given in loose form, is that of a property. -/
def isProperty (name : String) : Bool :=
  (findSet binaryProperties name).isSome || (ValuedProperty.ofName? name).isSome ||
    otherProperties.contains name

/-- The set of an entry, if it has one. -/
def NamedSet.set? (entry : NamedSet) : Option CharSet := entry.gaps.map CharSet.decode

/-- The general category with a name, in loose form.  Three names besides the categories stand for
all characters, for the assigned ones and for the first 128. -/
def category? (name : String) : Option NamedSet ⊕ CharSet :=
  match name with
  | "any" => .inr .full
  | "ascii" => .inr (.interval 0 0x7F)
  | "assigned" =>
      .inr (((findSet categories "unassigned").bind NamedSet.set?).getD .empty).compl
  | name => .inl (findSet categories name)

/-- The set of an entry, or an error if the entry is missing or has no set. -/
def setOrError (entry : Option NamedSet) : Except PropertyError CharSet :=
  match entry.bind NamedSet.set? with
  | some set => .ok set
  | none => .error .valueNotFound

/-- The set that belongs to a single name. -/
def findNamed (name : String) : Except PropertyError CharSet :=
  -- Three short names of categories are short names of properties too.
  if isProperty name && name != "cf" && name != "sc" && name != "lc" then
    match (findSet binaryProperties name).bind NamedSet.set? with
    | some set => .ok set
    | none => .error .propertyNotFound
  else
    match category? name with
    | .inr set => .ok set
    | .inl (some entry) => setOrError (some entry)
    | .inl none =>
        match findSet scripts name with
        | some entry => setOrError (some entry)
        | none => .error .propertyNotFound

/-- The characters that were there in a version, given by its loose name. -/
def findAge (name : String) : Except PropertyError CharSet :=
  if (findSet newInVersion name).isSome then
    let older := newInVersion.takeWhile fun entry => !entry.names.contains name
    .ok (.unions (((older.filterMap NamedSet.set?)) ++
      ((findSet newInVersion name).bind NamedSet.set?).toList))
  else .error .valueNotFound

/-- The characters for which a property has a value, given by its loose name. -/
def ValuedProperty.find (property : ValuedProperty) (value : String) :
    Except PropertyError CharSet :=
  match property with
  | .generalCategory =>
      match category? value with
      | .inr set => .ok set
      | .inl entry => setOrError entry
  | .script => setOrError (findSet scripts value)
  | .scriptExtensions =>
      setOrError ((findSet Unicode.scriptExtensions value).or (findSet scripts value))
  | .age => findAge value
  | .graphemeBreak => setOrError (findSet graphemeBreaks value)
  | .wordBreak => setOrError (findSet wordBreaks value)
  | .sentenceBreak => setOrError (findSet sentenceBreaks value)

/-- The characters with the property that is asked for. -/
def PropertyQuery.find : PropertyQuery → Except PropertyError CharSet
  | .named name => findNamed (looseName name)
  | .valued name value =>
      let name := looseName name
      match ValuedProperty.ofName? name with
      | some property => property.find (looseName value)
      | none => if isProperty name then .error .valueNotFound else .error .propertyNotFound

end ParamTemplate.Unicode
