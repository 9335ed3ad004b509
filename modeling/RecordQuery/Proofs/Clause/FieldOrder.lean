import RecordQuery.Proofs.Clause.Reference
import RecordQuery.Proofs.Value.NaturalOrder

/-! Fields of one record in order. All comparisons of one field with another are answered by the natural order of the
two values where both are there, so they agree with each other whichever field comes first. -/
namespace RecordQuery
set_option autoImplicit false

/-! ## Orders as lookups see them -/

namespace Lookup

theorem any_accepts_swap (o : Option Ordering) :
    (o.map Ordering.swap).any lt.accepts = o.any gt.accepts ∧
    (o.map Ordering.swap).any lte.accepts = o.any gte.accepts ∧
    (o.map Ordering.swap).any exact.accepts = o.any exact.accepts := by
  cases o with
  | none => decide
  | some o => cases o <;> decide

theorem any_accepts_or (o : Option Ordering) :
    o.any gte.accepts = (o.any gt.accepts || o.any exact.accepts) ∧
    o.any lte.accepts = (o.any lt.accepts || o.any exact.accepts) := by
  cases o with
  | none => decide
  | some o => cases o <;> decide

theorem any_accepts_unique (o : Option Ordering) : ∀ l ∈ [lt, exact, gt], ∀ m ∈ [lt, exact, gt],
    o.any l.accepts = true → o.any m.accepts = true → l = m := by
  cases o with
  | none => decide
  | some o => cases o <;> decide

theorem exists_any_accepts (o : Option Ordering) :
    (∃ l ∈ [lt, exact, gt], o.any l.accepts = true) ↔ o.isSome = true := by
  cases o with
  | none => decide
  | some o => cases o <;> decide

end Lookup

/-! ## Answers -/

section Fields

open Lookup

variable {R : Type} [Record R]

/-- What a record answers to a lookup that compares a field with another one. -/
def fieldAnswer (a : String) (l : Lookup) (b : String) (r : R) : Except QueryError Bool :=
  (Clause.compileAll [referenceCondition a l b]).map (RecordSet.meets · r)

/-- The order of two fields of a record, where both are there. -/
def fieldOrder (r : R) (a b : String) : Option Ordering := (Record.value r a).comparePresent? (Record.value r b)

theorem fieldOrder_swap (r : R) (a b : String) : fieldOrder r b a = (fieldOrder r a b).map Ordering.swap :=
  Value.comparePresent?_swap _ _

theorem fieldAnswer_eq (r : R) (a : String) (ha : a ≠ "") (l : Lookup) (hl : l.takesField = true) (b : String) :
    fieldAnswer a l b r = .ok ((fieldOrder r a b).any l.accepts) := by
  have hmeets : RecordSet.meets [⟨a, l, .field b⟩] r =
      (!(Record.value r a).isMissing && l.matchField (Record.value r a) (Record.value r b)) := Bool.and_true _
  rw [fieldAnswer, compileAll_referenceCondition a ha l hl b, Except.map, hmeets, matchField, fieldOrder,
    Value.comparePresent?]
  cases (Record.value r a).isMissing with
  | true => rfl
  | false => cases (Record.value r b).isMissing <;> rfl

/-- Comparing two fields of a record with each other gives the same order from either side: at most one of less, equal
and greater, and one of them just where the values have an order. -/
theorem fieldAnswer_consistent (r : R) (a b : String) (ha : a ≠ "") (hb : b ≠ "") :
    (∀ l ∈ [exact, gt, gte, lt, lte], ∃ answer, fieldAnswer a l b r = .ok answer) ∧
    fieldAnswer a gt b r = fieldAnswer b lt a r ∧
    fieldAnswer a gte b r = fieldAnswer b lte a r ∧
    fieldAnswer a exact b r = fieldAnswer b exact a r ∧
    (fieldAnswer a gte b r = .ok true ↔ fieldAnswer a gt b r = .ok true ∨ fieldAnswer a exact b r = .ok true) ∧
    (fieldAnswer a lte b r = .ok true ↔ fieldAnswer a lt b r = .ok true ∨ fieldAnswer a exact b r = .ok true) ∧
    (∀ l ∈ [lt, exact, gt], ∀ m ∈ [lt, exact, gt],
      fieldAnswer a l b r = .ok true → fieldAnswer a m b r = .ok true → l = m) ∧
    ((∃ l ∈ [lt, exact, gt], fieldAnswer a l b r = .ok true) ↔
      (Record.value r a).Comparable (Record.value r b)) := by
  have hanswer := fieldAnswer_eq r a ha
  have hback : ∀ l, l.takesField = true →
      fieldAnswer b l a r = .ok (((fieldOrder r a b).map Ordering.swap).any l.accepts) := by
    intro l hl
    rw [fieldAnswer_eq r b hb l hl a, fieldOrder_swap r a b]
  have hstrict : ∀ l ∈ [lt, exact, gt], l.takesField = true := by decide
  obtain ⟨hlt, hlte, hexact⟩ := any_accepts_swap (fieldOrder r a b)
  obtain ⟨hgteOr, hlteOr⟩ := any_accepts_or (fieldOrder r a b)
  refine ⟨fun l hl => ⟨_, hanswer l ?_ b⟩, ?_, ?_, ?_, ?_, ?_, ?_, ?_⟩
  · exact (by decide : ∀ l ∈ [exact, gt, gte, lt, lte], l.takesField = true) l hl
  · rw [hanswer gt rfl, hback lt rfl, hlt]
  · rw [hanswer gte rfl, hback lte rfl, hlte]
  · rw [hanswer exact rfl, hback exact rfl, hexact]
  · rw [hanswer gte rfl, hanswer gt rfl, hanswer exact rfl, hgteOr]
    simp only [Except.ok.injEq, Bool.or_eq_true]
  · rw [hanswer lte rfl, hanswer lt rfl, hanswer exact rfl, hlteOr]
    simp only [Except.ok.injEq, Bool.or_eq_true]
  · intro l hl m hm hanswerL hanswerM
    rw [hanswer l (hstrict l hl), Except.ok.injEq] at hanswerL
    rw [hanswer m (hstrict m hm), Except.ok.injEq] at hanswerM
    exact any_accepts_unique _ l hl m hm hanswerL hanswerM
  · rw [← Value.isSome_comparePresent?, ← fieldOrder, ← exists_any_accepts]
    refine exists_congr fun l => and_congr_right fun hl => ?_
    rw [hanswer l (hstrict l hl), Except.ok.injEq]

end Fields

/-- An integer and the double that it rounds to are equal, whichever of them comes first. -/
theorem fieldAnswer_consistent_stock :
    let record := Json.object [("limits", .object [("low", .ofBinary64 (.ofInt 9007199254740992))]),
      ("stock", .number (.int 9007199254740993))]
    fieldAnswer "limits__low" .exact "stock" record = .ok true ∧
      fieldAnswer "limits__low" .gte "stock" record = .ok true ∧
      fieldAnswer "stock" .gt "limits__low" record ≠ .ok true := by
  intro record
  have hexact : fieldAnswer "stock" .exact "limits__low" record = .ok true := rfl
  obtain ⟨-, -, -, hswap, -, hlte, hunique, -⟩ :=
    fieldAnswer_consistent record "stock" "limits__low" (by decide) (by decide)
  obtain ⟨-, -, hback, -⟩ := fieldAnswer_consistent record "limits__low" "stock" (by decide) (by decide)
  refine ⟨hswap.symm.trans hexact, hback.trans (hlte.mpr (.inr hexact)), fun hgt => ?_⟩
  exact absurd (hunique .exact (by decide) .gt (by decide) hexact hgt) nofun

end RecordQuery
