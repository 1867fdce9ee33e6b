import StackDepth.Text.Unicode.Age
import StackDepth.Text.Unicode.Break
import StackDepth.Text.Unicode.Script

namespace StackDepth.Text.Unicode

inductive PropertyFault where
  | property
  | value
  deriving DecidableEq, Repr

/-- A name as it is compared: without case, blanks, hyphens, low lines and an "is" in front. The
name "isc" is kept, since it is not that of the category C. -/
def looseName (name : String) : String :=
  let (cut, rest) := match name.toList with
    | i :: s :: rest =>
      if i.toLower = 'i' && s.toLower = 's' then (true, rest) else (false, name.toList)
    | short => (false, short)
  let kept := rest.filter fun c ↦ c.toNat < 0x80 && c != ' ' && c != '_' && c != '-'
  let key := String.ofList (kept.map Char.toLower)
  if cut && key == "c" then "isc" else key

def isNamed (key : String) (names : List String) : Bool :=
  names.any fun name ↦ looseName name == key

def propertyIn? (properties : List Property) (key : String) : Option Property :=
  properties.find? fun p ↦ isNamed key p.names

/-- The characters of a category or a class of categories, if the key names one. There are no
characters among the surrogates. -/
def categoryNamed? (key : String) : Option (Except PropertyFault CharSet) :=
  if key == "any" then some (.ok .all)
  else if key == "assigned" then some (.ok assigned)
  else if key == "ascii" then some (.ok (.ofRuns [(0, 0x7F)]))
  else if isNamed key ["Cn", "Unassigned"] then some (.ok assigned.complement)
  else if isNamed key ["C", "Other"] then
    some (.ok ((categories ["Cc", "Cf", "Co"]).union assigned.complement))
  else if isNamed key ["Cs", "Surrogate"] then some (.error .value)
  else match categoryTable.find? fun row ↦ isNamed key row.1 with
    | some row => some (.ok (.ofText row.2))
    | none => (categoryClasses.find? fun row ↦ isNamed key row.1).map fun row ↦
        .ok (categories row.2)

def scriptNamed? (key : String) : Option (Except PropertyFault Script) :=
  if isNamed key ["Hrkt", "Katakana_Or_Hiragana"] || isNamed key ["Zzzz", "Unknown"] then
    some (.error .value)
  else (scripts.find? fun s ↦ isNamed key s.names).map .ok

def graphemePart? (key : String) : Option CharSet :=
  if key == "lv" then some openSyllables
  else if key == "lvt" then some (syllables.diff openSyllables)
  else (propertyIn? graphemeParts key).map Property.characters

structure ValuedProperty where
  names : List String
  characters : String → Option (Except PropertyFault CharSet)

def valuedProperties : List ValuedProperty :=
  [⟨["General_Category", "gc"], categoryNamed?⟩,
    ⟨["Script", "sc"], fun key ↦ (scriptNamed? key).map (·.map Script.characters)⟩,
    ⟨["Script_Extensions", "scx"], fun key ↦ (scriptNamed? key).map (·.map Script.extension)⟩,
    ⟨["Age"], fun key ↦ (inUseIn? key).map .ok⟩,
    ⟨["Grapheme_Cluster_Break", "GCB"], fun key ↦ (graphemePart? key).map .ok⟩,
    ⟨["Sentence_Break", "SB"], fun key ↦
      (propertyIn? sentenceParts key).map fun p ↦ .ok p.characters⟩,
    ⟨["Word_Break", "WB"], fun key ↦ (propertyIn? wordParts key).map fun p ↦ .ok p.characters⟩]

def needsValue (key : String) : Bool :=
  isNamed key otherProperties || valuedProperties.any fun p ↦ isNamed key p.names

/-- The characters of a property, a category or a script by its name. Three names of categories
are those of other properties too. -/
def named (name : String) : Except PropertyFault CharSet :=
  let key := looseName name
  let isCategory := ["cf", "sc", "lc"].contains key
  match if isCategory then none else propertyIn? properties key with
  | some p => .ok p.characters
  | none =>
    if !isCategory && needsValue key then .error .property
    else match categoryNamed? key with
      | some characters => characters
      | none =>
        match scriptNamed? key with
        | some script => script.map Script.characters
        | none => .error .property

def valued (name value : String) : Except PropertyFault CharSet :=
  let key := looseName name
  match valuedProperties.find? fun p ↦ isNamed key p.names with
  | some p => (p.characters (looseName value)).getD (.error .value)
  | none =>
    if (propertyIn? properties key).isSome || isNamed key otherProperties then .error .value
    else .error .property

def characters (property : String) : CharSet :=
  match propertyIn? properties (looseName property) with
  | some p => p.characters
  | none => .empty

def alphabetic : CharSet := characters "Alphabetic"

def numeric : CharSet := categories ["Nd", "Nl", "No"]

def digits : CharSet := category "Nd"

def wordCharacters : CharSet :=
  (alphabetic.union (categories ["Mn", "Mc", "Me", "Nd", "Pc"])).union (characters "Join_Control")

def nameLetters : CharSet :=
  alphabetic.union (.ofText
    "88F C5C CDC A7CE-A7CF A7D2 A7D4 A7F1 10940-10959 10EC5-10EC7 10EFA-10EFB 11B60-11B67
    11DB0-11DDB 16EA0-16EB8 16EBB-16ED3 16FF2-16FF6 187F8-187FF 18D09-18D1E 18D80-18DF2
    1E6C0-1E6DE 1E6E0-1E6F5 1E6FE-1E6FF 2B73A-2B73F 2CEA2-2CEAD 323B0-33479")

def nameNumerals : CharSet := numeric.union (.ofText "11DE0-11DE9 16FF4-16FF6")

end StackDepth.Text.Unicode
