import RecordQuery.Unicode.Age
import RecordQuery.Unicode.BinaryProperty
import RecordQuery.Unicode.GeneralCategory
import RecordQuery.Unicode.Script
import RecordQuery.Unicode.ScriptExtension
import RecordQuery.Unicode.TextBreak

/-! The classes that patterns name: digits, blanks and word characters, the classes in brackets and colons, and
the properties of Unicode. Names of properties are compared loosely, without regard to case, blanks, hyphens,
underscores, or a leading "is". -/
namespace RecordQuery.Pattern
set_option autoImplicit false

open Unicode (Ranges)

/-! ## Names -/

/-- A name as it is compared. -/
def looseName (name : List Char) : List Char :=
  let rest := match name with
    | i :: s :: more => if i.toLower = 'i' ∧ s.toLower = 's' then some more else none
    | _ => none
  let reduce := fun (cs : List Char) =>
    (cs.filter fun c => c ≠ ' ' ∧ c ≠ '_' ∧ c ≠ '-' ∧ c.toNat < 0x80).map Char.toLower
  match rest with
  | some more => if reduce more = ['c'] then ['i', 's', 'c'] else reduce more
  | none => reduce name

/-- Whether one of the names is the given one, which is in the form that is compared. -/
def isNamed (names : List String) (name : List Char) : Bool := names.any fun n => looseName n.toList = name

/-- The characters of the property in a table that has the given name. -/
def lookupName (table : List Unicode.Property) (name : List Char) : Option Ranges :=
  (table.find? fun p => isNamed p.names name).map (·.ranges)

/-! ## Properties -/

/-- The categories that a group of them joins. -/
def categoryGroups : List (List String × List String) :=
  [(["LC", "Cased_Letter"], ["Lu", "Ll", "Lt"]),
    (["L", "Letter"], ["Lu", "Ll", "Lt", "Lm", "Lo"]),
    (["M", "Mark", "Combining_Mark"], ["Mn", "Mc", "Me"]),
    (["N", "Number"], ["Nd", "Nl", "No"]),
    (["P", "Punctuation", "punct"], ["Pc", "Pd", "Ps", "Pe", "Pi", "Pf", "Po"]),
    (["S", "Symbol"], ["Sm", "Sc", "Sk", "So"]),
    (["Z", "Separator"], ["Zs", "Zl", "Zp"]),
    (["C", "Other"], ["Cc", "Cf", "Co", "Cn"]),
    (["digit"], ["Nd"]),
    (["cntrl"], ["Cc"])]

/-- The union of the categories with the given short names. -/
def categories (names : List String) : Ranges :=
  Ranges.ofList ((Unicode.generalCategories.filter fun p => p.names.any names.contains).flatMap (·.ranges))

def categoryNamed (name : List Char) : Option Ranges :=
  if name = "any".toList then some Ranges.all
  else if name = "ascii".toList then some [(0, 0x7F)]
  else if name = "assigned".toList then some (Ranges.compl (categories ["Cn"]))
  else match categoryGroups.find? fun g => isNamed g.1 name with
    | some (_, members) => some (categories members)
    | none => lookupName Unicode.generalCategories name

def scriptNamed (name : List Char) : Option Ranges := lookupName Unicode.scripts name

/-- A script's characters with those that it shares. -/
def scriptExtensionNamed (name : List Char) : Option Ranges :=
  (lookupName Unicode.scriptExtensions name).orElse fun _ => scriptNamed name

/-- What a table of versions holds up to the one with the given name. -/
def upToVersion (name : List Char) : List Unicode.Property → Option (List Ranges)
  | [] => none
  | p :: ps => if isNamed p.names name then some [p.ranges] else (upToVersion name ps).map (p.ranges :: ·)

/-- The code points that were assigned in the named version. -/
def ageNamed (name : List Char) : Option Ranges :=
  (upToVersion name Unicode.ages).map fun versions => Ranges.ofList versions.flatten

/-- The class that a property's bare name stands for. A few short names mean a category before anything else. -/
def propertyNamed (name : List Char) : Option Ranges :=
  let name := looseName name
  let binary :=
    if ["cf", "sc", "lc"].any (·.toList = name) then none else lookupName Unicode.binaryProperties name
  (binary.orElse fun _ => categoryNamed name).orElse fun _ => scriptNamed name

/-- The properties that have values, with what a value stands for. -/
def valuedProperties : List (List String × (List Char → Option Ranges)) :=
  [(["gc", "General_Category"], categoryNamed),
    (["sc", "Script"], scriptNamed),
    (["scx", "Script_Extensions"], scriptExtensionNamed),
    (["age", "Age"], ageNamed),
    (["GCB", "Grapheme_Cluster_Break"], lookupName Unicode.graphemeBreaks),
    (["WB", "Word_Break"], lookupName Unicode.wordBreaks),
    (["SB", "Sentence_Break"], lookupName Unicode.sentenceBreaks)]

/-- The class of the characters for which a property has a value. -/
def propertyValued (name value : List Char) : Option Ranges := do
  let property ← valuedProperties.find? fun p => isNamed p.1 (looseName name)
  property.2 (looseName value)

/-! ## Letters after a backslash -/

def digits : Ranges := categories ["Nd"]

def blanks : Ranges := (lookupName Unicode.binaryProperties "whitespace".toList).getD []

/-- Letters, marks, decimal digits, connectors and joiners. -/
def wordCharacters : Ranges :=
  Ranges.ofList
    ((lookupName Unicode.binaryProperties "alphabetic".toList).getD [] ++
      categories ["Mn", "Mc", "Me", "Nd", "Pc"] ++
      (lookupName Unicode.binaryProperties "joincontrol".toList).getD [])

def asciiDigits : Ranges := [(0x30, 0x39)]

def asciiBlanks : Ranges := [(0x09, 0x0D), (0x20, 0x20)]

def asciiWordCharacters : Ranges := [(0x30, 0x39), (0x41, 0x5A), (0x5F, 0x5F), (0x61, 0x7A)]

/-! ## Names between colons -/

/-- The ASCII class with the given name. -/
def bracketClass? (name : List Char) : Option Ranges :=
  [("alnum", [(0x30, 0x39), (0x41, 0x5A), (0x61, 0x7A)]), ("alpha", [(0x41, 0x5A), (0x61, 0x7A)]),
    ("ascii", [(0x00, 0x7F)]), ("blank", [(0x09, 0x09), (0x20, 0x20)]),
    ("cntrl", [(0x00, 0x1F), (0x7F, 0x7F)]), ("digit", asciiDigits), ("graph", [(0x21, 0x7E)]),
    ("lower", [(0x61, 0x7A)]), ("print", [(0x20, 0x7E)]),
    ("punct", [(0x21, 0x2F), (0x3A, 0x40), (0x5B, 0x60), (0x7B, 0x7E)]), ("space", asciiBlanks),
    ("upper", [(0x41, 0x5A)]), ("word", asciiWordCharacters),
    ("xdigit", [(0x30, 0x39), (0x41, 0x46), (0x61, 0x66)])].lookup (String.ofList name)

end RecordQuery.Pattern
