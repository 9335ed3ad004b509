import Mathlib.Data.List.Sort
import RecordQuery.OrderBy

/-! The order of results among values that are no doubles. Such a value stands where its kind, its integer and its
text put it, so the order is a lexicographic one, and so is that of records by any number of keys in any directions.
Doubles are left out, because integers beyond their precision are compared exactly among themselves and rounded
beside a double. -/
namespace RecordQuery
set_option autoImplicit false

/-! ## Values -/

namespace Value

def isDouble : Value → Bool
  | number (.float _) => true
  | _ => false

/-- The integer by which a value is ordered within its kind. -/
def integerKey : Value → Int
  | bool b => if b then 1 else 0
  | number n => n.int?.getD 0
  | _ => 0

/-- The text by which a value is ordered within its kind. -/
def textKey : Value → String
  | string s => s
  | _ => ""

/-- The lexicographic order by kind, integer and text. -/
def keyCompare : Value → Value → Ordering :=
  compareLex (compareOn rank) (compareLex (compareOn integerKey) (compareOn textKey))

instance : Std.TransCmp keyCompare :=
  inferInstanceAs (Std.TransCmp (compareLex _ (compareLex _ _)))

theorem sortCompare_number (m n : Number) (hm : (number m).isDouble = false) (hn : (number n).isDouble = false) :
    sortCompare (number m) (number n) = compare (number m).integerKey (number n).integerKey := by
  cases m with
  | float _ => exact absurd hm nofun
  | signed _ | unsigned _ =>
    cases n with
    | float _ => exact absurd hn nofun
    | signed _ | unsigned _ => rfl

theorem sortCompare_eq_keyCompare (a b : Value) (ha : a.isDouble = false) (hb : b.isDouble = false) :
    sortCompare a b = keyCompare a b := by
  cases a with
  | number m =>
    cases b with
    | number n =>
      rw [sortCompare_number m n ha hb]
      exact Ordering.then_eq.symm
    | _ => rfl
  | string s =>
    cases b <;> rfl
  | bool x =>
    cases b with
    | bool y => cases x <;> cases y <;> rfl
    | _ => rfl
  | geometry _ | other | missing => cases b <;> rfl

end Value

/-! ## Records -/

namespace OrderBy

variable {R : Type} [Record R]

/-- The order of two records by the keys of one field. -/
def keyCompare (o : OrderBy) (a b : R) : Ordering :=
  o.direction.apply ((Record.value a o.field).keyCompare (Record.value b o.field))

/-- The lexicographic order of two records by several fields. -/
def keyCompareAll : List OrderBy → R → R → Ordering
  | [] => fun _ _ => .eq
  | o :: os => compareLex o.keyCompare (keyCompareAll os)

theorem keyCompare_swap (o : OrderBy) (a b : R) : o.keyCompare a b = (o.keyCompare b a).swap := by
  have hvalues : (Record.value a o.field).keyCompare (Record.value b o.field) =
      ((Record.value b o.field).keyCompare (Record.value a o.field)).swap := Std.OrientedCmp.eq_swap
  rw [keyCompare, keyCompare, hvalues]
  cases o.direction <;> rfl

theorem keyCompare_trans (o : OrderBy) (a b c : R) (hab : (o.keyCompare a b).isLE) (hbc : (o.keyCompare b c).isLE) :
    (o.keyCompare a c).isLE := by
  rw [keyCompare] at hab hbc ⊢
  cases hd : o.direction with
  | ascending =>
    rw [hd] at hab hbc
    exact @Std.TransCmp.isLE_trans _ Value.keyCompare _ _ _ _ hab hbc
  | descending =>
    rw [hd, Direction.apply, Ordering.isLE_swap] at hab hbc
    rw [Direction.apply, Ordering.isLE_swap]
    exact Std.TransCmp.isGE_trans hab hbc

instance (o : OrderBy) : Std.TransCmp (o.keyCompare : R → R → Ordering) where
  eq_swap := o.keyCompare_swap _ _
  isLE_trans := o.keyCompare_trans _ _ _

instance (os : List OrderBy) : Std.TransCmp (keyCompareAll os : R → R → Ordering) := by
  induction os with
  | nil => exact { eq_swap := rfl, isLE_trans := fun _ _ => rfl }
  | cons o os ih => exact inferInstanceAs (Std.TransCmp (compareLex o.keyCompare (keyCompareAll os)))

/-- A record has no double in any of the fields by which keys sort. -/
def SortsExactly (os : List OrderBy) (r : R) : Prop := ∀ o ∈ os, (Record.value r o.field).isDouble = false

theorem compareByAll_eq_keyCompareAll (os : List OrderBy) (a b : R) (ha : SortsExactly os a)
    (hb : SortsExactly os b) : compareByAll os a b = keyCompareAll os a b := by
  induction os with
  | nil => rfl
  | cons o os ih =>
    obtain ⟨hao, haos⟩ := List.forall_mem_cons.mp ha
    obtain ⟨hbo, hbos⟩ := List.forall_mem_cons.mp hb
    have hkey : o.compareRecords a b = o.keyCompare a b := by
      rw [compareRecords, keyCompare, Value.sortCompare_eq_keyCompare _ _ hao hbo]
    rw [compareByAll, hkey, ih haos hbos, keyCompareAll, compareLex]
    cases o.keyCompare a b <;> rfl

/-- Among records without doubles in their fields, any keys in any directions make a total preorder. -/
theorem compareByAll_preorder (os : List OrderBy) (a b c : R) (ha : SortsExactly os a) (hb : SortsExactly os b)
    (hc : SortsExactly os c) :
    compareByAll os a a = .eq ∧
    compareByAll os b a = (compareByAll os a b).swap ∧
    (compareByAll os a b ≠ .gt → compareByAll os b c ≠ .gt → compareByAll os a c ≠ .gt) := by
  rw [compareByAll_eq_keyCompareAll os a a ha ha, compareByAll_eq_keyCompareAll os b a hb ha,
    compareByAll_eq_keyCompareAll os a b ha hb, compareByAll_eq_keyCompareAll os b c hb hc,
    compareByAll_eq_keyCompareAll os a c ha hc]
  exact ⟨Std.ReflCmp.compare_self, Std.OrientedCmp.eq_swap, Std.TransCmp.le_trans⟩

end OrderBy

end RecordQuery
