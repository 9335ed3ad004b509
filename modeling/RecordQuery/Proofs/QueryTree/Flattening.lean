import RecordQuery.Proofs.RecordSet.Reachable

/-! Composites within composites of the same kind. The parts of an inner conjunction can stand in its place for every
builder, since the builder is only handed on. The parts of an inner disjunction can do so for sets of records: joining
is associative, and what an outer disjunction has joined so far already takes in the nothing that an inner one starts
from. -/
namespace RecordQuery
set_option autoImplicit false

/-! ## Lists of trees -/

namespace QueryTree

universe u v
variable {B : Type u} {ε : Type v} [QueryBuilder B ε]

theorem applyEach_append (ts us : List QueryTree) (b : B) :
    applyEach (ts ++ us) b = applyEach ts b >>= applyEach us := by
  induction ts generalizing b with
  | nil => rfl
  | cons t ts ih =>
    rw [List.cons_append, applyEach, applyEach]
    cases t.apply b with
    | error e => rfl
    | ok b' => exact ih b'

theorem applyEach_singleton (t : QueryTree) (b : B) : applyEach [t] b = t.apply b := by
  rw [applyEach]
  cases t.apply b <;> rfl

theorem joinEach_append (ts us : List QueryTree) (start joined : B) :
    joinEach (ts ++ us) start joined = joinEach ts start joined >>= joinEach us start := by
  induction ts generalizing joined with
  | nil => rfl
  | cons t ts ih =>
    rw [List.cons_append, joinEach, joinEach]
    cases t.apply start with
    | error e => rfl
    | ok branch =>
      rw [ok_bind, ok_bind]
      cases QueryBuilder.union joined branch with
      | error e => rfl
      | ok joined' => exact ih joined'

theorem joinEach_singleton (t : QueryTree) (start joined : B) :
    joinEach [t] start joined = t.apply start >>= QueryBuilder.union joined := by
  rw [joinEach]
  cases t.apply start with
  | error e => rfl
  | ok branch =>
    rw [ok_bind, ok_bind]
    cases QueryBuilder.union joined branch <;> rfl

end QueryTree

/-! ## Joined sets -/

variable {R : Type}

namespace RecordSet

theorem union_assoc [Record R] (s t u : RecordSet R) (ht : t.source = s.source) (hu : u.source = s.source) :
    (QueryBuilder.union s t >>= fun joined => QueryBuilder.union joined u) =
      QueryBuilder.union t u >>= QueryBuilder.union s := by
  rw [union_eq s t ht, union_eq t u (hu.trans ht.symm), ok_bind, ok_bind]
  have hleft := union_eq { s with rows := mergeRows s.rows t.rows, distinct := s.distinct || t.distinct } u hu
  have hright := union_eq s { t with rows := mergeRows t.rows u.rows, distinct := t.distinct || u.distinct } ht
  rw [hleft, hright, mergeRows_assoc, Bool.or_assoc]

/-- What a disjunction that starts from a set may have joined so far. -/
structure JoinedFrom (start joined : RecordSet R) : Prop where
  source_eq : joined.source = start.source
  increasing : joined.rows.Pairwise (· < ·)
  distinct : start.distinct = true → joined.distinct = true

namespace JoinedFrom

theorem nothing (start : RecordSet R) : JoinedFrom start { start with rows := [] } :=
  ⟨rfl, List.Pairwise.nil, id⟩

variable [Record R] {start joined : RecordSet R}

theorem union_nothing (h : JoinedFrom start joined) :
    QueryBuilder.union joined { start with rows := [] } = .ok joined := by
  have hdistinct : (joined.distinct || start.distinct) = joined.distinct := by
    cases hs : start.distinct with
    | false => rw [Bool.or_false]
    | true => rw [h.distinct hs, Bool.or_true]
  have hunion := union_eq joined { start with rows := [] } h.source_eq.symm
  rw [hunion, mergeRows_nil joined.rows h.increasing, hdistinct]

theorem union (h : JoinedFrom start joined) {branch joined' : RecordSet R}
    (hunion : QueryBuilder.union joined branch = .ok joined') : JoinedFrom start joined' := by
  rw [union_eq_ok joined branch joined' hunion]
  exact ⟨h.source_eq, increasing_mergeRows _ _, fun hs => by rw [h.distinct hs, Bool.true_or]⟩

theorem joinEach (h : JoinedFrom start joined) (ts : List QueryTree) {joined' : RecordSet R}
    (hjoin : QueryTree.joinEach ts start joined = .ok joined') : JoinedFrom start joined' := by
  induction ts generalizing joined with
  | nil => exact Except.ok.inj hjoin ▸ h
  | cons t ts ih =>
    rw [QueryTree.joinEach, bind_eq_ok] at hjoin
    obtain ⟨branch, _, hjoin⟩ := hjoin
    rw [bind_eq_ok] at hjoin
    obtain ⟨next, hunion, hjoin⟩ := hjoin
    exact ih (h.union hunion) hjoin

end JoinedFrom

end RecordSet

namespace QueryTree

open RecordSet (JoinedFrom)

variable [Record R]

/-- Joining to a set what trees join to another is joining the other first. -/
theorem joinEach_union (ts : List QueryTree) (start joined acc : RecordSet R) (hjoined : joined.source = start.source)
    (hacc : acc.source = start.source) :
    (joinEach ts start acc >>= QueryBuilder.union joined) =
      QueryBuilder.union joined acc >>= joinEach ts start := by
  induction ts generalizing acc with
  | nil =>
    rw [joinEach, ok_bind]
    cases QueryBuilder.union joined acc <;> rfl
  | cons t ts ih =>
    have hfirst := RecordSet.union_eq joined acc (hacc.trans hjoined.symm)
    rw [hfirst, ok_bind, joinEach, joinEach]
    cases ht : t.apply start with
    | error e => rfl
    | ok branch =>
      have hbranch : branch.source = start.source := RecordSet.source_of_apply t start branch ht
      have hsecond := RecordSet.union_eq acc branch (hbranch.trans hacc.symm)
      have hassoc := RecordSet.union_assoc joined acc branch (hacc.trans hjoined.symm) (hbranch.trans hjoined.symm)
      rw [hfirst, hsecond, ok_bind, ok_bind] at hassoc
      rw [ok_bind, ok_bind, hassoc, hsecond, ok_bind]
      exact ih _ hacc

/-- To what a disjunction has joined so far, an inner one adds what its parts would add. -/
theorem joinEach_anyOf (ts : List QueryTree) {start joined : RecordSet R} (h : JoinedFrom start joined) :
    joinEach [anyOf ts] start joined = joinEach ts start joined := by
  have hnone : QueryBuilder.none start = .ok { start with rows := [] } := rfl
  have hjoin := joinEach_union ts start joined { start with rows := [] } h.source_eq rfl
  rw [joinEach_singleton, apply, hnone, ok_bind, hjoin, h.union_nothing, ok_bind]

/-! ## Composites -/

universe u v

/-- The parts of a conjunction in a conjunction can stand in its place, and a part that changes nothing can be left out,
whatever the builder; the parts of a disjunction in a disjunction can stand in its place where sets of records are
queried. Errors are the same too. -/
theorem composites_flatten (xs ys zs : List QueryTree) :
    (∀ (B : Type u) (ε : Type v) [QueryBuilder B ε] (b : B),
      (allOf (xs ++ [allOf ys] ++ zs)).apply b = (allOf (xs ++ ys ++ zs)).apply b ∧
      (allOf (xs ++ [identity] ++ zs)).apply b = (allOf (xs ++ zs)).apply b) ∧
    ∀ (R : Type) [Record R] (q : RecordSet R),
      (anyOf (xs ++ [anyOf ys] ++ zs)).apply q = (anyOf (xs ++ ys ++ zs)).apply q := by
  refine ⟨fun B ε _ b => ⟨?_, ?_⟩, fun R _ q => ?_⟩
  · have hinner : applyEach [allOf ys] = (applyEach ys : B → Except ε B) := by
      funext b'
      rw [applyEach_singleton, apply]
    rw [apply, apply, applyEach_append, applyEach_append, applyEach_append, applyEach_append, hinner]
  · have hidentity : applyEach (xs ++ [identity]) b = applyEach xs b := by
      rw [applyEach_append]
      cases applyEach xs b with
      | error e => rfl
      | ok b' => rw [ok_bind, applyEach_singleton, apply]
    rw [apply, apply, applyEach_append (xs ++ [identity]), hidentity, applyEach_append xs]
  · have hinner : joinEach (xs ++ [anyOf ys]) q { q with rows := [] } =
        joinEach (xs ++ ys) q { q with rows := [] } := by
      rw [joinEach_append, joinEach_append]
      cases hxs : joinEach xs q { q with rows := [] } with
      | error e => rfl
      | ok joined => exact joinEach_anyOf ys ((RecordSet.JoinedFrom.nothing q).joinEach xs hxs)
    have hnone : QueryBuilder.none q = .ok { q with rows := [] } := rfl
    rw [apply, apply, hnone, ok_bind, ok_bind, joinEach_append (xs ++ [anyOf ys]), joinEach_append (xs ++ ys), hinner]

end QueryTree

end RecordQuery
