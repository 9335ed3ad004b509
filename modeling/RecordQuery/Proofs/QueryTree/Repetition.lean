import RecordQuery.Proofs.QueryTree.Outcome

/-! Sort keys and the wish for distinct results after a tree, and what happens when a tree is applied again: nothing,
since its effect on its own outcome is none. -/
namespace RecordQuery
set_option autoImplicit false

variable {R : Type}

/-- Effects that change nothing more when they come again. -/
theorem Effect.on_on (e : Effect R) (s : RecordSet R) (h : ∀ os, e.reorder (e.reorder os) = e.reorder os) :
    e.on (e.on s) = e.on s := by
  have hand : e.andThen e = e := by
    simp only [andThen, Bool.and_self, Bool.or_self, h]
  rw [← on_andThen, hand]

namespace QueryTree

variable [Record R]

/-- The sort keys and the wish for distinct results after a tree are told by the tree and those before; the source
stays; and the tree applies to its outcome again, which it leaves as it is. -/
theorem orderings_distinct_again {source : Source R} {q q' : RecordSet R} (hq : q.Reachable source) (t : QueryTree)
    (h : t.apply q = .ok q') :
    q'.orderings = t.orderingsAfter q.orderings ∧
    q'.distinct = (q.distinct || t.asksDistinct) ∧
    q'.source = source ∧
    t.apply q' = .ok q' := by
  obtain ⟨rfl, hs, _⟩ := hq.sound
  have hq' : q' = t.effect.on q := apply_effect t q q' hs h
  have hs' : q'.SoundRows := hq' ▸ Effect.soundRows_on t.effect q hs
  have hcheck : t.check R = .ok () := by rw [← apply_check t q, h, map_ok]
  have hagain : t.effect.on q' = q' := by
    rw [hq']
    exact Effect.on_on t.effect q (orderingsAfter_idem t)
  refine ⟨by rw [hq']; rfl, by rw [hq']; rfl, by rw [hq']; rfl, ?_⟩
  rw [apply_eq t q' hs', hcheck, map_ok, hagain]

/-- Sorts by title, and by votes inside a disjunction, where it has no effect. -/
def byTitle : QueryTree :=
  allOf [
    orderBy ["title", ""],
    anyOf [
      allOf [distinct, orderBy ["-votes"]],
      exclude .plain [("votes__gt", .literal (.number (.int 5)))]]]

def popularByTitle : RecordSet Post := ⟨Post.posts, [0, 1], [⟨"title", .ascending⟩], true⟩

theorem popularByTitle_again :
    Post.popularPosts.Reachable Post.posts ∧
    byTitle.apply Post.popularPosts = .ok popularByTitle ∧
    popularByTitle.orderings = byTitle.orderingsAfter Post.popularPosts.orderings ∧
    popularByTitle.distinct = (Post.popularPosts.distinct || byTitle.asksDistinct) ∧
    popularByTitle.source = Post.posts ∧
    byTitle.apply popularByTitle = .ok popularByTitle := by
  have h : byTitle.apply Post.popularPosts = .ok popularByTitle := by
    rw [apply_eq _ _ Post.popularPosts_reachable.sound.rows]
    rfl
  exact ⟨Post.popularPosts_reachable, h, orderings_distinct_again Post.popularPosts_reachable byTitle h⟩

end QueryTree

end RecordQuery
