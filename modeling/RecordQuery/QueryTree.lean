import RecordQuery.Builder
import RecordQuery.QueryClass

/-! Query trees and their application to a builder. A conjunction hands the builder from child to child; a
disjunction gives each child the builder it started from and joins the outcomes. -/
namespace RecordQuery
set_option autoImplicit false

inductive QueryTree where
  | identity
  | all
  | filter (form : ConditionForm) (conditions : List Condition)
  | exclude (form : ConditionForm) (conditions : List Condition)
  | orderBy (entries : List String)
  | distinct
  | allOf (children : List QueryTree)
  | anyOf (children : List QueryTree)
deriving Repr, Inhabited

namespace QueryTree

def queryClass : QueryTree → QueryClass
  | identity => .identity
  | all => .all
  | filter form _ => .filter form
  | exclude form _ => .exclude form
  | orderBy _ => .orderBy
  | distinct => .distinct
  | allOf _ => .allOf
  | anyOf _ => .anyOf

/-- The queries that a composite is made of; others have none. -/
def children : QueryTree → List QueryTree
  | allOf ts => ts
  | anyOf ts => ts
  | _ => []

/-- The conditions of a filter or an exclusion. -/
def conditions? : QueryTree → Option (List Condition)
  | filter _ cs => some cs
  | exclude _ cs => some cs
  | _ => none

/-! ## Application -/

universe u v
variable {B : Type u} {ε : Type v} [QueryBuilder B ε]

mutual

/-- Applies a tree to a builder; the first operation that fails decides. -/
def apply : QueryTree → B → Except ε B
  | identity, b => .ok b
  | all, b => QueryBuilder.all b
  | filter _ cs, b => QueryBuilder.filter cs b
  | exclude _ cs, b => QueryBuilder.exclude cs b
  | orderBy entries, b => QueryBuilder.orderBy entries b
  | distinct, b => QueryBuilder.distinct b
  | allOf ts, b => applyEach ts b
  | anyOf ts, b => do
    let nothing ← QueryBuilder.none b
    joinEach ts b nothing

/-- Applies trees one after the other, each to what the one before made. -/
def applyEach : List QueryTree → B → Except ε B
  | [], b => .ok b
  | t :: ts, b => do
    let b ← apply t b
    applyEach ts b

/-- Applies each tree to `start` and joins the outcomes to what is `joined` so far. -/
def joinEach : List QueryTree → B → B → Except ε B
  | [], _, joined => .ok joined
  | t :: ts, start, joined => do
    let branch ← apply t start
    let joined ← QueryBuilder.union joined branch
    joinEach ts start joined

end

/-! ## Written form -/

/-- The name with which a tree is written, whatever tag its document had. -/
def writtenName : QueryTree → String
  | identity => "query"
  | all => "all"
  | filter .plain _ => "filter"
  | filter .selfField _ => "selffieldfilter"
  | filter .nested _ => "nestedfilter"
  | exclude .plain _ => "exclude"
  | exclude .selfField _ => "selffieldexclude"
  | exclude .nested _ => "nestedexclude"
  | orderBy _ => "orderby"
  | distinct => "distinct"
  | allOf _ => "compositeand"
  | anyOf _ => "compositeor"

mutual

def toJson : QueryTree → Json
  | identity => .object [("_query_class", .string (writtenName identity))]
  | all => .object [("_query_class", .string (writtenName all))]
  | distinct => .object [("_query_class", .string (writtenName distinct))]
  | filter form cs =>
    pairJson "_query_class" (.string (writtenName (filter form cs))) "spec" (.array (conditionsJson cs))
  | exclude form cs =>
    pairJson "_query_class" (.string (writtenName (exclude form cs))) "spec" (.array (conditionsJson cs))
  | orderBy entries =>
    pairJson "_query_class" (.string (writtenName (orderBy entries))) "order" (.array (entries.map Json.string))
  | allOf ts =>
    pairJson "_query_class" (.string (writtenName (allOf ts))) "children" (.array (childrenJson ts))
  | anyOf ts =>
    pairJson "_query_class" (.string (writtenName (anyOf ts))) "children" (.array (childrenJson ts))

def childrenJson : List QueryTree → List Json
  | [] => []
  | t :: ts => toJson t :: childrenJson ts

end

end QueryTree

end RecordQuery
