import RecordQuery.Proofs.QueryTree.Meaning
import RecordQuery.Proofs.RecordSet.Reachable

/-! What becomes of a set when a tree is applied to it. Whether it succeeds is what the check of the tree says, for
every set alike. Where it succeeds, the outcome is one effect on the set: a test for records, a change of the sort
keys, and a wish for distinct results. A conjunction composes effects, a disjunction joins them. -/
namespace RecordQuery
set_option autoImplicit false

variable {R : Type}

/-! ## Effects -/

@[ext] structure Effect (R : Type) where
  keeps : R → Bool
  reorder : List OrderBy → List OrderBy
  asksDistinct : Bool

namespace Effect

/-- The set that an effect makes of a set. -/
def on (e : Effect R) (s : RecordSet R) : RecordSet R where
  source := s.source
  rows := (s.keep e.keeps).rows
  orderings := e.reorder s.orderings
  distinct := s.distinct || e.asksDistinct

/-- Leaves everything as it is. -/
def unchanged : Effect R := ⟨fun _ => true, id, false⟩

/-- Keeps no record. -/
def nothing : Effect R := ⟨fun _ => false, id, false⟩

/-- One effect after another. -/
def andThen (e f : Effect R) : Effect R :=
  ⟨fun r => e.keeps r && f.keeps r, fun os => f.reorder (e.reorder os), e.asksDistinct || f.asksDistinct⟩

/-- Two effects on one set, joined; the sort keys are those of the first. -/
def orElse (e f : Effect R) : Effect R :=
  ⟨fun r => e.keeps r || f.keeps r, e.reorder, e.asksDistinct || f.asksDistinct⟩

theorem on_andThen (e f : Effect R) (s : RecordSet R) : (e.andThen f).on s = f.on (e.on s) := by
  have hrows := congrArg RecordSet.rows (RecordSet.keep_keep s e.keeps f.keeps)
  simp only [on, andThen, Bool.or_assoc, RecordSet.mk.injEq, true_and, and_true]
  exact hrows.symm

theorem orElse_nothing (e : Effect R) : e.orElse nothing = e := by
  simp only [orElse, nothing, Bool.or_false]

theorem orElse_assoc (e f g : Effect R) : (e.orElse f).orElse g = e.orElse (f.orElse g) := by
  simp only [orElse, Bool.or_assoc]

theorem soundRows_on (e : Effect R) (s : RecordSet R) (hs : s.SoundRows) : (e.on s).SoundRows :=
  ⟨(hs.keep e.keeps).increasing, (hs.keep e.keeps).bounded⟩

/-- An effect that keeps every record leaves the rows as they are. -/
theorem on_of_keeps_all (reorder : List OrderBy → List OrderBy) (asksDistinct : Bool) (s : RecordSet R)
    (hs : s.SoundRows) :
    (⟨fun _ => true, reorder, asksDistinct⟩ : Effect R).on s =
      { s with orderings := reorder s.orderings, distinct := s.distinct || asksDistinct } := by
  have hrows : (s.keep fun _ => true).rows = s.rows := by
    rw [RecordSet.keep, List.filter_eq_self]
    intro i hi
    rw [List.getElem?_eq_getElem (hs.bounded i hi), Option.any_some]
  simp only [on, hrows]

theorem unchanged_on (s : RecordSet R) (hs : s.SoundRows) : unchanged.on s = s := by
  rw [unchanged, on_of_keeps_all id false s hs, id, Bool.or_false]

theorem on_keeping (passes : R → Bool) (s : RecordSet R) :
    (⟨passes, id, false⟩ : Effect R).on s = s.keep passes := by
  simp only [on, id, Bool.or_false, RecordSet.keep]

theorem nothing_on (s : RecordSet R) : nothing.on s = { s with rows := [] } := by
  have hrows : (s.keep fun _ => false).rows = [] := by
    rw [RecordSet.keep, List.filter_eq_nil_iff]
    intro i _
    cases s.source.records[i]? <;> simp
  simp only [on, nothing, hrows, id, Bool.or_false]

theorem union_on [Record R] (e f : Effect R) (s : RecordSet R) (hs : s.SoundRows) :
    QueryBuilder.union (e.on s) (f.on s) = .ok ((e.orElse f).on s) := by
  have hany : ∀ i : Nat, (s.source.records[i]?.any e.keeps || s.source.records[i]?.any f.keeps) =
      s.source.records[i]?.any fun r => e.keeps r || f.keeps r := by
    intro i
    cases s.source.records[i]? <;> rfl
  have hrows := RecordSet.mergeRows_filter s.rows hs.increasing (fun i => s.source.records[i]?.any e.keeps)
    (fun i => s.source.records[i]?.any f.keeps)
  simp only [hany] at hrows
  have hdistinct : ((s.distinct || e.asksDistinct) || (s.distinct || f.asksDistinct)) =
      (s.distinct || (e.asksDistinct || f.asksDistinct)) := by
    cases s.distinct <;> simp
  rw [RecordSet.union_eq (e.on s) (f.on s) rfl]
  simp only [on, orElse, RecordSet.keep, hrows, hdistinct]

end Effect

namespace QueryTree

variable [Record R]

/-! ## Whether a tree applies -/

mutual

/-- A tree applies to a set, or fails, as its check says, which knows nothing of the set. -/
theorem apply_check : ∀ (t : QueryTree) (s : RecordSet R), (t.apply s).map (fun _ => ()) = t.check R
  | identity, s => by rw [apply, check, map_ok]
  | all, s => by rw [apply, check]; rfl
  | filter _ cs, s => by
    rw [apply, check, RecordSet.filter_eq]
    cases RecordSet.compile R cs <;> rfl
  | exclude _ cs, s => by
    rw [apply, check, RecordSet.exclude_eq]
    cases RecordSet.compile R cs <;> rfl
  | orderBy entries, s => by
    rw [apply, check, RecordSet.orderBy_eq]
    cases RecordSet.checkFields R ((entries.filterMap OrderBy.parse?).map OrderBy.field) <;> rfl
  | distinct, s => by rw [apply, check]; rfl
  | allOf ts, s => by
    rw [apply, check]
    exact applyEach_check ts s
  | anyOf ts, s => by
    rw [apply, check]
    exact joinEach_check ts s { s with rows := [] } rfl

theorem applyEach_check : ∀ (ts : List QueryTree) (s : RecordSet R),
    (applyEach ts s).map (fun _ => ()) = checkEach R ts
  | [], s => by rw [applyEach, checkEach, map_ok]
  | t :: ts, s => by
    rw [applyEach, checkEach, ← apply_check t s]
    cases t.apply s with
    | error e => rfl
    | ok s' => exact applyEach_check ts s'

theorem joinEach_check : ∀ (ts : List QueryTree) (start joined : RecordSet R), joined.source = start.source →
    (joinEach ts start joined).map (fun _ => ()) = checkEach R ts
  | [], start, joined, hj => by rw [joinEach, checkEach, map_ok]
  | t :: ts, start, joined, hj => by
    rw [joinEach, checkEach, ← apply_check t start]
    cases ht : t.apply start with
    | error e => rfl
    | ok branch =>
      -- no tree leaves the source of its builder, so a branch can always be joined
      have hb : branch.source = start.source := RecordSet.source_of_apply t start branch ht
      rw [ok_bind, RecordSet.union_eq joined branch (hb.trans hj.symm), ok_bind]
      exact joinEach_check ts start _ hj

end

/-! ## What a tree makes of a set -/

def effect (t : QueryTree) : Effect R := ⟨t.selects, t.orderingsAfter, t.asksDistinct⟩

def effectOfAll (ts : List QueryTree) : Effect R := ⟨everySelects ts, orderingsAfterEach ts, someAsksDistinct ts⟩

def effectOfAny (ts : List QueryTree) : Effect R := ⟨someSelects ts, id, someAsksDistinct ts⟩

theorem keep_conditionsHold (conditions : List Condition) (clauses : List Clause)
    (h : RecordSet.compile R conditions = .ok clauses) :
    (RecordSet.meets clauses : R → Bool) = conditionsHold conditions := by
  funext r
  rw [conditionsHold, RecordSet.compileAll_of_compile conditions clauses h]

mutual

theorem apply_effect : ∀ (t : QueryTree) (s s' : RecordSet R), s.SoundRows → t.apply s = .ok s' →
    s' = t.effect.on s
  | identity, s, s', hs, h => by
    rw [apply, Except.ok.injEq] at h
    rw [← h]
    exact (Effect.unchanged_on s hs).symm
  | all, s, s', hs, h => by
    rw [apply] at h
    rw [← Except.ok.inj h]
    exact (Effect.unchanged_on s hs).symm
  | filter form cs, s, s', hs, h => by
    rw [apply, RecordSet.filter_eq, map_eq_ok] at h
    obtain ⟨clauses, hc, rfl⟩ := h
    rw [keep_conditionsHold cs clauses hc]
    exact (Effect.on_keeping (conditionsHold cs) s).symm
  | exclude form cs, s, s', hs, h => by
    rw [apply, RecordSet.exclude_eq, map_eq_ok] at h
    obtain ⟨clauses, hc, rfl⟩ := h
    rw [keep_conditionsHold cs clauses hc]
    exact (Effect.on_keeping (fun r => !conditionsHold cs r) s).symm
  | orderBy entries, s, s', hs, h => by
    rw [apply, RecordSet.orderBy_eq, map_eq_ok] at h
    obtain ⟨_, _, rfl⟩ := h
    rw [← Bool.or_false s.distinct]
    exact (Effect.on_of_keeps_all (fun _ => entries.filterMap OrderBy.parse?) false s hs).symm
  | distinct, s, s', hs, h => by
    rw [apply] at h
    rw [← Except.ok.inj h, ← Bool.or_true s.distinct]
    exact (Effect.on_of_keeps_all id true s hs).symm
  | allOf ts, s, s', hs, h => applyEach_effect ts s s' hs (by rwa [apply] at h)
  | anyOf ts, s, s', hs, h => by
    rw [apply] at h
    exact joinEach_effect ts Effect.nothing s s' hs (by rw [Effect.nothing_on]; exact h)

theorem applyEach_effect : ∀ (ts : List QueryTree) (s s' : RecordSet R), s.SoundRows → applyEach ts s = .ok s' →
    s' = (effectOfAll ts).on s
  | [], s, s', hs, h => by
    rw [applyEach, Except.ok.injEq] at h
    rw [← h]
    exact (Effect.unchanged_on s hs).symm
  | t :: ts, s, s', hs, h => by
    rw [applyEach, bind_eq_ok] at h
    obtain ⟨s₁, h₁, h⟩ := h
    have hs₁ : s₁ = t.effect.on s := apply_effect t s s₁ hs h₁
    have hs' : s' = (effectOfAll ts).on s₁ :=
      applyEach_effect ts s₁ s' (hs₁ ▸ Effect.soundRows_on t.effect s hs) h
    rw [hs', hs₁, ← Effect.on_andThen]
    rfl

theorem joinEach_effect : ∀ (ts : List QueryTree) (e : Effect R) (s s' : RecordSet R), s.SoundRows →
    joinEach ts s (e.on s) = .ok s' → s' = (e.orElse (effectOfAny ts)).on s
  | [], e, s, s', hs, h => by
    rw [joinEach, Except.ok.injEq] at h
    rw [← h]
    exact congrArg (·.on s) e.orElse_nothing.symm
  | t :: ts, e, s, s', hs, h => by
    rw [joinEach, bind_eq_ok] at h
    obtain ⟨branch, hb, h⟩ := h
    rw [apply_effect t s branch hs hb, Effect.union_on e t.effect s hs, ok_bind] at h
    rw [joinEach_effect ts (e.orElse t.effect) s s' hs h, Effect.orElse_assoc]
    rfl

end

theorem apply_eq (t : QueryTree) (s : RecordSet R) (hs : s.SoundRows) :
    t.apply s = (t.check R).map fun _ => t.effect.on s := by
  have hc := apply_check t s
  cases h : t.apply s with
  | error e =>
    rw [← hc, h]
    rfl
  | ok s' =>
    rw [← hc, h, apply_effect t s s' hs h]
    rfl

/-- Trees with one effect, of which one is refused just where the other is, make the same of every set. -/
theorem agree_of_effect (t u : QueryTree) (s : RecordSet R) (hs : s.SoundRows)
    (hcheck : t.check R = .ok () ↔ u.check R = .ok ()) (heffect : (t.effect : Effect R) = u.effect) :
    Agree (t.apply s) (u.apply s) := by
  rw [apply_eq t s hs, apply_eq u s hs, heffect]
  exact (agree_of_succeeds hcheck).map _

end QueryTree

end RecordQuery
