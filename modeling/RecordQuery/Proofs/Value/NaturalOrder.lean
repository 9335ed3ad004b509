import RecordQuery.Proofs.Number.Order
import RecordQuery.Value.Basic

/-! The natural order of values. Taking two values the other way round reverses it, and beside what is missing it
places just the values of one kind that have an order: strings, booleans, and numbers that are numbers. -/
namespace RecordQuery
set_option autoImplicit false

/-! ## Numbers -/

theorem Binary64.compare?_swap (x y : Binary64) : y.compare? x = (x.compare? y).map Ordering.swap := by
  rw [compare?, compare?, Bool.or_comm]
  split
  · rfl
  · exact congrArg some Std.OrientedCmp.eq_swap

theorem Binary64.isSome_compare? (x y : Binary64) :
    (x.compare? y).isSome = true ↔ x.isNaN = false ∧ y.isNaN = false := by
  rw [compare?]
  cases x.isNaN <;> cases y.isNaN <;> simp

namespace Number

theorem compare?_swap (m n : Number) : n.compare? m = (m.compare? n).map Ordering.swap := by
  rw [compare?, compare?]
  cases m.int? with
  | none =>
    cases n.int? <;> exact Binary64.compare?_swap _ _
  | some i =>
    cases n.int? with
    | none => exact Binary64.compare?_swap _ _
    | some j => exact congrArg some Std.OrientedCmp.eq_swap

theorem isNaN_of_int (n : Number) (i : Int) (h : n.int? = some i) : n.toBinary64.isNaN = false := by
  rw [n.toBinary64_of_int i h, Binary64.isNaN_ofInt]

theorem isSome_compare? (m n : Number) :
    (m.compare? n).isSome = true ↔ m.toBinary64.isNaN = false ∧ n.toBinary64.isNaN = false := by
  rw [compare?]
  cases hm : m.int? with
  | none => exact Binary64.isSome_compare? _ _
  | some i =>
    cases hn : n.int? with
    | none => exact Binary64.isSome_compare? _ _
    | some j => exact iff_of_true rfl ⟨isNaN_of_int m i hm, isNaN_of_int n j hn⟩

end Number

/-! ## Values -/

namespace Value

theorem compare?_swap (a b : Value) : b.compare? a = (a.compare? b).map Ordering.swap := by
  cases a with
  | string s =>
    cases b with
    | string t => exact congrArg some Std.OrientedCmp.eq_swap
    | _ => rfl
  | number m =>
    cases b with
    | number n => exact m.compare?_swap n
    | _ => rfl
  | bool x =>
    cases b with
    | bool y => cases x <;> cases y <;> rfl
    | _ => rfl
  | geometry _ | other | missing => cases b <;> rfl

/-- Values of one kind that have an order. -/
inductive Comparable : Value → Value → Prop where
  | strings (s t : String) : Comparable (string s) (string t)
  | bools (x y : Bool) : Comparable (bool x) (bool y)
  | numbers (m n : Number) (hm : m.toBinary64.isNaN = false) (hn : n.toBinary64.isNaN = false) :
      Comparable (number m) (number n)

/-- The natural order of two values that are there. -/
def comparePresent? (a b : Value) : Option Ordering :=
  if a.isMissing || b.isMissing then none else a.compare? b

theorem comparePresent?_swap (a b : Value) : b.comparePresent? a = (a.comparePresent? b).map Ordering.swap := by
  rw [comparePresent?, comparePresent?, Bool.or_comm]
  split
  · rfl
  · exact compare?_swap a b

theorem isSome_comparePresent? (a b : Value) : (a.comparePresent? b).isSome = true ↔ Comparable a b := by
  constructor
  · intro h
    cases a with
    | string s =>
      cases b with
      | string t => exact .strings s t
      | _ => exact absurd h nofun
    | number m =>
      cases b with
      | number n =>
        obtain ⟨hm, hn⟩ := (m.isSome_compare? n).mp h
        exact .numbers m n hm hn
      | _ => exact absurd h nofun
    | bool x =>
      cases b with
      | bool y => exact .bools x y
      | _ => exact absurd h nofun
    | geometry _ | other | missing => cases b <;> exact absurd h nofun
  · intro h
    cases h with
    | strings | bools => rfl
    | numbers m n hm hn => exact (m.isSome_compare? n).mpr ⟨hm, hn⟩

end Value

end RecordQuery
