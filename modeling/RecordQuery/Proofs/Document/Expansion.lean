import RecordQuery.Proofs.Clause.Expansion
import RecordQuery.Proofs.Document.Coercion
import RecordQuery.Proofs.Document.Conjuncts

/-! Documents with a range or a membership and their spelling with comparisons: a range is the conjunction of the
comparisons with its bounds, and membership the disjunction of the equalities. Coercion makes no difference to what
documents do, so they are compared as they are without it, with plain literals. -/
namespace RecordQuery
set_option autoImplicit false

/-! ## Trees -/

namespace QueryTree

variable {R : Type} [Record R] (form : ConditionForm) (field : String) (hfield : field ≠ "") (q : RecordSet R)
  (hq : q.SoundRows)

include hfield hq

theorem range_agrees (low high : Json) :
    Agree ((filter form [lookupCondition field .range (.array [low, high])]).apply q)
      ((allOf (filtersByEach form [lookupCondition field .gte low, lookupCondition field .lte high])).apply q) := by
  refine (filter_agrees_filter form _ _ q hq ?_ fun r => ?_).trans (filter_agrees form _ q hq)
  · have hgte := compile_comparison (R := R) field hfield .gte low fun _ => rfl
    have hlte := compile_comparison (R := R) field hfield .lte high fun _ => rfl
    rw [RecordSet.compile_cons_succeeds (lookupCondition field .gte low), hgte, hlte,
      compile_range field hfield low high]
    exact and_and_right
  · rw [conditionsHold_range field hfield low high, conditionsHold_cons (lookupCondition field .gte low),
      conditionsHold_comparison field hfield .gte low (fun _ => rfl),
      conditionsHold_comparison field hfield .lte high (fun _ => rfl)]

theorem oneOf_agrees (values : List Json) (hne : values ≠ []) (hvalues : ∀ v ∈ values, v.isScalar = true) :
    Agree ((filter form [lookupCondition field .oneOf (.array values)]).apply q)
      ((anyOf (filtersByEach form (values.map (lookupCondition field .exact)))).apply q) := by
  refine filter_agrees_anyOf form _ _ q hq ?_ fun r => ?_
  · have hexact : ∀ v ∈ values,
        (∃ clauses, RecordSet.compile R [lookupCondition field .exact v] = .ok clauses) ↔
          Record.knows R field = true :=
      fun v hv => compile_equality field hfield v (hvalues v hv)
    rw [compile_oneOf field hfield values hvalues, List.forall_mem_map, forall₂_congr hexact]
    -- without a value there would be no equality to refuse the field
    obtain ⟨v, hv⟩ := List.exists_mem_of_ne_nil values hne
    exact ⟨fun hknown _ _ => hknown, fun h => h v hv⟩
  · rw [conditionsHold_oneOf field hfield values hvalues, List.any_map]
    rfl

end QueryTree

/-! ## Documents -/

/-- The document that filters by one lookup of a field. -/
def lookupDocument (field : String) (l : Lookup) (value : Json) : Json :=
  singleDocument "filter" (Text.joinPath field l.name, value)

section Decoding

variable (s : Settings) (field : String)

theorem tryDecode_lookupDocument (l : Lookup) (value : Json) :
    tryDecode s.uncoerced (lookupDocument field l value) = .ok (.filter .plain [lookupCondition field l value]) :=
  tryDecode_filter s.uncoerced (Text.joinPath field l.name, value)

theorem tryDecode_bounds (low high : Json) :
    tryDecode s.uncoerced (compositeDocument "compositeand"
        [lookupDocument field .gte low, lookupDocument field .lte high]) =
      .ok (.allOf (QueryTree.filtersByEach .plain
        [lookupCondition field .gte low, lookupCondition field .lte high])) :=
  tryDecode_filters s.uncoerced
    [(Text.joinPath field Lookup.gte.name, low), (Text.joinPath field Lookup.lte.name, high)]

theorem tryDecode_equalities (values : List Json) :
    tryDecode s.uncoerced (compositeDocument "compositeor" (values.map (lookupDocument field .exact))) =
      .ok (.anyOf (QueryTree.filtersByEach .plain (values.map (lookupCondition field .exact)))) := by
  have htrees := decodeEntries_map s.uncoerced 0 values (lookupDocument field .exact) _
    (tryDecode_lookupDocument s field .exact)
  rw [tryDecode_anyOf, htrees, QueryTree.filtersByEach, List.map_map]
  rfl

end Decoding

variable {R : Type} [Record R]

/-- The filter by a range and the conjunction of the filters by its bounds make the same of a reachable set, or fail
both, whatever the bounds are; so do the filter by a list of scalars and the disjunction of the filters by each. -/
theorem range_and_membership_spelled_out {source : Source R} {q : RecordSet R} (hq : q.Reachable source)
    (s : Settings) (field : String) (hfield : field ≠ "") :
    (∀ low high : Json,
      Agree (applyDocument s (some (lookupDocument field .range (.array [low, high]))) q)
        (applyDocument s (some (compositeDocument "compositeand"
          [lookupDocument field .gte low, lookupDocument field .lte high])) q)) ∧
    ∀ values : List Json, values ≠ [] → (∀ v ∈ values, v.isScalar = true) →
      Agree (applyDocument s (some (lookupDocument field .oneOf (.array values))) q)
        (applyDocument s (some (compositeDocument "compositeor" (values.map (lookupDocument field .exact)))) q) := by
  have hrows : q.SoundRows := hq.sound.rows
  have hplain : ∀ document other : Json,
      Agree (applyDocument s.uncoerced (some document) q) (applyDocument s.uncoerced (some other) q) →
        Agree (applyDocument s (some document) q) (applyDocument s (some other) q) := fun document other h =>
    ((applyDocument_uncoerced s _ q).trans h).trans (applyDocument_uncoerced s _ q).symm
  refine ⟨fun low high => hplain _ _ ?_, fun values hne hvalues => hplain _ _ ?_⟩
  · rw [applyDocument_of_ok _ _ _ (tryDecode_lookupDocument s field .range _),
      applyDocument_of_ok _ _ _ (tryDecode_bounds s field low high)]
    exact QueryTree.range_agrees .plain field hfield q hrows low high
  · rw [applyDocument_of_ok _ _ _ (tryDecode_lookupDocument s field .oneOf _),
      applyDocument_of_ok _ _ _ (tryDecode_equalities s field values)]
    exact QueryTree.oneOf_agrees .plain field hfield q hrows values hne hvalues

theorem popularPosts_spelled_out :
    Post.popularPosts.Reachable Post.posts ∧ "votes" ≠ "" ∧
    applyDocument {} (some (compositeDocument "compositeand"
        [lookupDocument "votes" .gte (.number (.int 6)), lookupDocument "votes" .lte (.number (.int 9))]))
      Post.popularPosts = .ok { Post.popularPosts with rows := [1] } ∧
    [Json.string "Ada", .number (.int 5)] ≠ [] ∧
    (∀ v ∈ [Json.string "Ada", .number (.int 5)], v.isScalar = true) ∧
    applyDocument {} (some (compositeDocument "compositeor"
        [lookupDocument "votes" .exact (.string "Ada"), lookupDocument "votes" .exact (.number (.int 5))]))
      Post.popularPosts = .ok { Post.popularPosts with rows := [0] } := by
  have hvotes : "votes" ≠ "" := by decide
  have hne : [Json.string "Ada", .number (.int 5)] ≠ [] := List.cons_ne_nil _ _
  have hscalars : ∀ v ∈ [Json.string "Ada", .number (.int 5)], v.isScalar = true := by
    simp only [List.forall_mem_cons, Json.isScalar, List.not_mem_nil, false_imp_iff, implies_true, and_self]
  obtain ⟨hrange, hmembers⟩ := range_and_membership_spelled_out Post.popularPosts_reachable {} "votes" hvotes
  exact ⟨Post.popularPosts_reachable, hvotes, (hrange _ _).eq_ok rfl, hne, hscalars,
    (hmembers _ hne hscalars).eq_ok rfl⟩

end RecordQuery
