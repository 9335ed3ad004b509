import RecordQuery.Proofs.Attempt
import RecordQuery.Proofs.RecordSet.Rows

/-! What each operation makes of a set of records, and when. Only compiling and the check of fields can fail, and
neither looks at the set. -/
namespace RecordQuery
set_option autoImplicit false

theorem Source.same_self {R : Type} (source : Source R) : source.same source = true := by
  rw [Source.same, beq_self_eq_true, beq_self_eq_true, Bool.true_or, Bool.and_true]

namespace RecordSet

variable {R : Type}

/-! ## Keeping -/

theorem mem_keep (s : RecordSet R) (passes : R → Bool) (i : Nat) :
    i ∈ (s.keep passes).rows ↔ i ∈ s.rows ∧ ∃ r, s.source.records[i]? = some r ∧ passes r = true := by
  rw [keep, List.mem_filter, Option.any_eq_true]

theorem keep_keep (s : RecordSet R) (p q : R → Bool) : (s.keep p).keep q = s.keep fun r => p r && q r := by
  have h : ∀ i : Nat, (s.source.records[i]?.any q && s.source.records[i]?.any p) =
      s.source.records[i]?.any fun r => p r && q r := by
    intro i
    cases s.source.records[i]? with
    | none => rfl
    | some r => exact Bool.and_comm (q r) (p r)
  simp only [keep, List.filter_filter, h]

/-! ## Operations -/

variable [Record R]

theorem filter_eq (conditions : List Condition) (s : RecordSet R) :
    QueryBuilder.filter conditions s = (compile R conditions).map fun clauses => s.keep (meets clauses) := by
  change filter conditions s = _
  rw [filter]
  cases compile R conditions <;> rfl

theorem exclude_eq (conditions : List Condition) (s : RecordSet R) :
    QueryBuilder.exclude conditions s =
      (compile R conditions).map fun clauses => s.keep fun r => !meets clauses r := by
  change exclude conditions s = _
  rw [exclude]
  cases compile R conditions <;> rfl

theorem orderBy_eq (entries : List String) (s : RecordSet R) :
    QueryBuilder.orderBy entries s =
      (checkFields R ((entries.filterMap OrderBy.parse?).map OrderBy.field)).map fun _ =>
        { s with orderings := entries.filterMap OrderBy.parse? } := by
  change orderBy entries s = _
  rw [orderBy]
  cases checkFields R ((entries.filterMap OrderBy.parse?).map OrderBy.field) <;> rfl

theorem union_eq (s t : RecordSet R) (h : t.source = s.source) :
    QueryBuilder.union s t =
      .ok { s with rows := mergeRows s.rows t.rows, distinct := s.distinct || t.distinct } := by
  change union s t = _
  rw [union, h, Source.same_self, if_pos rfl]

theorem union_eq_ok (s t u : RecordSet R) (h : QueryBuilder.union s t = .ok u) :
    u = { s with rows := mergeRows s.rows t.rows, distinct := s.distinct || t.distinct } := by
  change union s t = .ok u at h
  rw [union] at h
  split at h
  · exact (Except.ok.inj h).symm
  · exact absurd h nofun

/-! ## Fields that an operation reads -/

theorem compile_eq_ok (conditions : List Condition) (clauses : List Clause) :
    compile R conditions = .ok clauses ↔
      Clause.compileAll conditions = .ok clauses ∧ checkFields R (clauses.flatMap Clause.reads) = .ok () := by
  rw [compile, bind_eq_ok]
  constructor
  · rintro ⟨compiled, hc, h⟩
    rw [bind_eq_ok] at h
    obtain ⟨_, hf, h⟩ := h
    obtain rfl := Except.ok.inj h
    exact ⟨hc, hf⟩
  · rintro ⟨hc, hf⟩
    exact ⟨clauses, hc, by rw [hf, ok_bind]⟩

theorem compileAll_of_compile (conditions : List Condition) (clauses : List Clause)
    (h : compile R conditions = .ok clauses) : Clause.compileAll conditions = .ok clauses :=
  ((compile_eq_ok conditions clauses).mp h).1

theorem checkFields_eq_ok (paths : List String) :
    checkFields R paths = .ok () ↔ ∀ path ∈ paths, Record.knows R path = true := by
  induction paths with
  | nil => simp [checkFields]
  | cons path paths ih =>
    rw [checkFields, checkField]
    cases hk : Record.knows R path with
    | true => simpa [hk] using ih
    | false => simp [hk]

theorem checkField_eq_ok (path : String) : checkField R path = .ok () ↔ Record.knows R path = true := by
  rw [checkField]
  cases Record.knows R path <;> simp

theorem checkField_eq_error (path : String) (e : QueryError) :
    checkField R path = .error e ↔ Record.knows R path = false ∧ e = .unknownField path := by
  rw [checkField]
  cases Record.knows R path <;> simp [eq_comm]

/-- Of several paths, the first that starts at no declared field is refused. -/
theorem checkFields_eq_error (paths : List String) (e : QueryError) :
    checkFields R paths = .error e ↔
      ∃ before path after, paths = before ++ path :: after ∧ (∀ p ∈ before, Record.knows R p = true) ∧
        Record.knows R path = false ∧ e = .unknownField path := by
  have hcons : ∀ path paths e, checkFields R (path :: paths) = .error e ↔
      checkField R path = .error e ∨ (∃ a, checkField R path = .ok a) ∧ checkFields R paths = .error e := by
    intro path paths e
    rw [checkFields]
    cases checkField R path <;> simp
  rw [eq_error_iff_first nofun hcons]
  simp only [succeeds_iff, checkField_eq_ok, checkField_eq_error]

end RecordSet

end RecordQuery
