import RecordQuery.Condition

/-! What a query can be applied to: anything with a current selection that can be narrowed, ordered, freed of
duplicates and joined with another. Every operation may fail. -/
namespace RecordQuery
set_option autoImplicit false

universe u v

class QueryBuilder (B : Type u) (ε : outParam (Type v)) where
  /-- Everything that is selected. -/
  all : B → Except ε B
  /-- Nothing. -/
  none : B → Except ε B
  /-- Keeps what meets all the conditions. -/
  filter : List Condition → B → Except ε B
  /-- Drops what meets all the conditions. -/
  exclude : List Condition → B → Except ε B
  /-- Puts another ordering in place of the present one. -/
  orderBy : List String → B → Except ε B
  /-- Asks for results without duplicates. -/
  distinct : B → Except ε B
  /-- What is in either selection. -/
  union : B → B → Except ε B

end RecordQuery
