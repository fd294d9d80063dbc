import SourceContract.Text.Property.Age
import SourceContract.Text.Property.Script
import SourceContract.Text.Property.Segmentation

/-!
# Looking up a property by name

Names are compared in loose form.  A bare name may be a property, a general
category, a group of categories or a script, in this order; `cf`, `lc` and `sc`
always mean categories.  A name with a value asks for the characters that have
this value of a property.
-/

namespace SourceContract.Text.Property

/-- Drops what comparison ignores: case, blanks, hyphens, low lines and a leading `is`. -/
def looseName (name : String) : String :=
  let chars := name.toList
  let bare := match chars with
    | i :: s :: rest => if i.toLower == 'i' && s.toLower == 's' then rest else chars
    | _ => chars
  let kept := bare.filter fun c => c.toNat < 0x80 && c != ' ' && c != '_' && c != '-'
  let loose := String.ofList (kept.map Char.toLower)
  -- `is c` would be the category of all that is no character, where `isc` is a property
  if loose == "c" && bare.length < chars.length then "isc" else loose

/-! ## Categories -/

def categoryGroup? (name : String) : Option CharSet :=
  if name = "any" then some CharSet.all
  else if name = "ascii" then some (CharSet.range 0 0x7F)
  else if name = "assigned" then some assigned
  else if name ∈ ["cn", "unassigned"] then some assigned.compl
  else if name ∈ ["c", "other"] then
    some ((categoriesNamed ["cc", "cf", "co"]).union assigned.compl)
  else if name ∈ ["lc", "casedletter"] then some (categoriesNamed ["lu", "ll", "lt"])
  else if name ∈ ["l", "letter"] then some letters.set
  else if name ∈ ["m", "mark", "combiningmark"] then some (categoriesNamed ["mc", "me", "mn"])
  else if name ∈ ["n", "number"] then some (categoriesNamed ["nd", "nl", "no"])
  else if name ∈ ["p", "punctuation", "punct"] then
    some (categoriesNamed ["pc", "pd", "pe", "pf", "pi", "po", "ps"])
  else if name ∈ ["s", "symbol"] then some (categoriesNamed ["sc", "sk", "sm", "so"])
  else if name ∈ ["z", "separator"] then some (categoriesNamed ["zl", "zp", "zs"])
  else none

def category? (name : String) : Option CharSet :=
  (categoryGroup? name).or ((lookup? name categories).map CharSet.ofTable)

def vacantNames : List String :=
  ["cs", "surrogate", "hrkt", "katakanaorhiragana", "zzzz", "unknown"]

/-! ## Properties with values -/

/-- Each with what finds the characters of a value. -/
def valued : List (Named (String → Option CharSet)) := [
  ⟨["gc", "generalcategory"], category?⟩,
  ⟨["sc", "script"], script?⟩,
  ⟨["scx", "scriptextensions"], scriptExtension?⟩,
  ⟨["age"], age?⟩,
  ⟨["gcb", "graphemeclusterbreak"],
    fun value => (lookup? value graphemeClusterBreaks).map Composition.set⟩,
  ⟨["wb", "wordbreak"], fun value => (lookup? value wordBreaks).map Composition.set⟩,
  ⟨["sb", "sentencebreak"], fun value => (lookup? value sentenceBreaks).map Composition.set⟩]

/-- Names of properties about whose values nothing can be asked. -/
def closedNames : List String := [
  "kaccountingnumeric", "cjkaccountingnumeric", "kothernumeric", "cjkothernumeric",
  "kprimarynumeric", "cjkprimarynumeric", "nv", "numericvalue", "bmg", "bidimirroringglyph",
  "bpb", "bidipairedbracket", "cf", "casefolding", "kcompatibilityvariant",
  "cjkcompatibilityvariant", "dm", "decompositionmapping", "equideo",
  "equivalentunifiedideograph", "fcnfkc", "fcnfkcclosure", "lc", "lowercasemapping", "nfkccf",
  "nfkccasefold", "nfkcscf", "nfkcsimplecasefold", "scf", "sfc", "simplecasefolding", "slc",
  "simplelowercasemapping", "stc", "simpletitlecasemapping", "suc", "simpleuppercasemapping",
  "tc", "titlecasemapping", "uc", "uppercasemapping", "kiicore", "cjkiicore", "kirggsource",
  "cjkirggsource", "kirghsource", "cjkirghsource", "kirgjsource", "cjkirgjsource", "kirgkpsource",
  "cjkirgkpsource", "kirgksource", "cjkirgksource", "kirgmsource", "cjkirgmsource", "kirgssource",
  "cjkirgssource", "kirgtsource", "cjkirgtsource", "kirguksource", "cjkirguksource",
  "kirgusource", "cjkirgusource", "kirgvsource", "cjkirgvsource", "krsunicode", "cjkrsunicode",
  "unicoderadicalstroke", "urs", "isc", "ocomment", "jsn", "jamoshortname", "kehcat", "kehdesc",
  "kehhg", "kehifao", "kehjsesh", "kehcore", "kehnomirror", "kehnorotate", "na", "name", "na1",
  "unicode1name", "namealias", "blk", "block", "bc", "bidiclass", "bpt", "bidipairedbrackettype",
  "ccc", "canonicalcombiningclass", "dt", "decompositiontype", "ea", "eastasianwidth", "hst",
  "hangulsyllabletype", "incb", "indicconjunctbreak", "inpc", "indicpositionalcategory", "insc",
  "indicsyllabiccategory", "jg", "joininggroup", "jt", "joiningtype", "lb", "linebreak", "nfcqc",
  "nfcquickcheck", "nfdqc", "nfdquickcheck", "nfkcqc", "nfkcquickcheck", "nfkdqc",
  "nfkdquickcheck", "nt", "numerictype", "vo", "verticalorientation", "ce",
  "compositionexclusion", "compex", "fullcompositionexclusion", "cwkcf",
  "changeswhennfkccasefolded", "xonfc", "expandsonnfc", "xonfd", "expandsonnfd", "xonfkc",
  "expandsonnfkc", "xonfkd", "expandsonnfkd"]

/-! ## Questions -/

/-- Why no set answers to a name. -/
inductive Missing where
  | property
  | value
deriving DecidableEq, Repr

def byName (name : String) : Except Missing CharSet :=
  let loose := looseName name
  let property? := if loose ∈ ["cf", "lc", "sc"] then none else binary? loose
  match property?.or ((category? loose).or (script? loose)) with
  | some set => .ok set
  | none => .error (if loose ∈ vacantNames then .value else .property)

def byValue (property value : String) : Except Missing CharSet :=
  let loose := looseName property
  match lookup? loose valued with
  | some charactersOf => match charactersOf (looseName value) with
      | some set => .ok set
      | none => .error .value
  | none => .error (if loose ∈ binaryNames ++ closedNames then .value else .property)

end SourceContract.Text.Property
