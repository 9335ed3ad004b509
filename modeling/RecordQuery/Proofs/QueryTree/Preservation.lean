import RecordQuery.Document
import RecordQuery.Proofs.Attempt

/-! Properties that queries keep. What every operation of a builder keeps, where it succeeds, is kept by every tree
and by every document. -/
namespace RecordQuery
set_option autoImplicit false

universe u v
variable {B : Type u} {ε : Type v} [QueryBuilder B ε]

/-- A property of builders that the result of an operation has where those it is made from have it. -/
structure QueryBuilder.Kept (P : B → Prop) : Prop where
  all : ∀ b b', P b → QueryBuilder.all b = .ok b' → P b'
  none : ∀ b b', P b → QueryBuilder.none b = .ok b' → P b'
  filter : ∀ conditions b b', P b → QueryBuilder.filter conditions b = .ok b' → P b'
  exclude : ∀ conditions b b', P b → QueryBuilder.exclude conditions b = .ok b' → P b'
  orderBy : ∀ entries b b', P b → QueryBuilder.orderBy entries b = .ok b' → P b'
  distinct : ∀ b b', P b → QueryBuilder.distinct b = .ok b' → P b'
  union : ∀ b c b', P b → P c → QueryBuilder.union b c = .ok b' → P b'

namespace QueryTree

variable {P : B → Prop}

mutual

theorem apply_kept (hP : QueryBuilder.Kept P) : ∀ (t : QueryTree) (b b' : B), P b → t.apply b = .ok b' → P b'
  | identity, b, b', hb, h => by
    rw [apply, Except.ok.injEq] at h
    exact h ▸ hb
  | all, b, b', hb, h => hP.all b b' hb (by rwa [apply] at h)
  | filter _ cs, b, b', hb, h => hP.filter cs b b' hb (by rwa [apply] at h)
  | exclude _ cs, b, b', hb, h => hP.exclude cs b b' hb (by rwa [apply] at h)
  | orderBy entries, b, b', hb, h => hP.orderBy entries b b' hb (by rwa [apply] at h)
  | distinct, b, b', hb, h => hP.distinct b b' hb (by rwa [apply] at h)
  | allOf ts, b, b', hb, h => applyEach_kept hP ts b b' hb (by rwa [apply] at h)
  | anyOf ts, b, b', hb, h => by
    rw [apply, bind_eq_ok] at h
    obtain ⟨nothing, hn, h⟩ := h
    exact joinEach_kept hP ts b nothing b' hb (hP.none b nothing hb hn) h

theorem applyEach_kept (hP : QueryBuilder.Kept P) : ∀ (ts : List QueryTree) (b b' : B), P b →
    applyEach ts b = .ok b' → P b'
  | [], b, b', hb, h => by
    rw [applyEach, Except.ok.injEq] at h
    exact h ▸ hb
  | t :: ts, b, b', hb, h => by
    rw [applyEach, bind_eq_ok] at h
    obtain ⟨b₁, h₁, h⟩ := h
    exact applyEach_kept hP ts b₁ b' (apply_kept hP t b b₁ hb h₁) h

theorem joinEach_kept (hP : QueryBuilder.Kept P) : ∀ (ts : List QueryTree) (start joined b' : B), P start →
    P joined → joinEach ts start joined = .ok b' → P b'
  | [], start, joined, b', hs, hj, h => by
    rw [joinEach, Except.ok.injEq] at h
    exact h ▸ hj
  | t :: ts, start, joined, b', hs, hj, h => by
    rw [joinEach, bind_eq_ok] at h
    obtain ⟨branch, hb, h⟩ := h
    rw [bind_eq_ok] at h
    obtain ⟨joined', hu, h⟩ := h
    have hbranch : P branch := apply_kept hP t start branch hs hb
    exact joinEach_kept hP ts start joined' b' hs (hP.union joined branch joined' hj hbranch hu) h

end

end QueryTree

theorem applyDocument_kept {P : B → Prop} (hP : QueryBuilder.Kept P) (s : Settings) (document : Option Json)
    (b b' : B) (hb : P b) (h : applyDocument s document b = .ok b') : P b' := by
  unfold applyDocument at h
  cases hd : decode s document with
  | none =>
    rw [hd, Except.ok.injEq] at h
    exact h ▸ hb
  | some tree =>
    rw [hd] at h
    exact QueryTree.apply_kept hP tree b b' hb h

end RecordQuery
