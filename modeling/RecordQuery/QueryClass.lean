/-! The classes of queries and the tags that name them in documents. Several tags may name one class; the first
of them is canonical. -/
namespace RecordQuery
set_option autoImplicit false

/-- How the conditions of a filter or an exclusion are written in a document. -/
inductive ConditionForm where
  | plain
  /-- A comparison with another field of the same record. -/
  | selfField
  /-- A condition on a path below another. -/
  | nested
deriving DecidableEq, Repr

inductive QueryClass where
  | identity
  | all
  | filter (form : ConditionForm)
  | exclude (form : ConditionForm)
  | orderBy
  | distinct
  | allOf
  | anyOf
deriving DecidableEq, Repr

namespace QueryClass

/-- The tags in use, with the class that each names. -/
def tags : List (String × QueryClass) :=
  [("query", identity), ("all", all), ("filter", filter .plain), ("exclude", exclude .plain),
    ("orderby", orderBy), ("distinct", distinct),
    ("selffieldfilter", filter .selfField), ("selffieldexclude", exclude .selfField),
    ("nestedfilter", filter .nested), ("queryfilter", filter .nested),
    ("nestedexclude", exclude .nested), ("queryexclude", exclude .nested),
    ("compositeand", allOf), ("compositequery", allOf), ("compositeor", anyOf), ("orquery", anyOf)]

/-- The tag in lower case, as far as ASCII goes. -/
def foldTag (tag : String) : String := String.ofList (tag.toList.map Char.toLower)

/-- The class that a tag names, ignoring the case of ASCII letters. -/
def ofTag? (tag : String) : Option QueryClass := tags.lookup (foldTag tag)

/-- The canonical tag of a class. -/
def tag : QueryClass → String
  | identity => "query"
  | all => "all"
  | filter .plain => "filter"
  | exclude .plain => "exclude"
  | orderBy => "orderby"
  | distinct => "distinct"
  | filter .selfField => "selffieldfilter"
  | exclude .selfField => "selffieldexclude"
  | filter .nested => "nestedfilter"
  | exclude .nested => "nestedexclude"
  | allOf => "compositeand"
  | anyOf => "compositeor"

/-- Whether queries of the class are made of others. -/
def isComposite : QueryClass → Bool
  | allOf | anyOf => true
  | _ => false

/-- Whether queries of the class hold a group of conditions. -/
def isNested : QueryClass → Bool
  | filter .nested | exclude .nested => true
  | _ => false

end QueryClass

end RecordQuery
