import RecordQuery.Proofs.Clause.Operands

/-! Tests for null. They alone hold of a field that is missing, and what is there but cannot be compared meets only
the one that asks for anything at all; as the second side of a comparison neither ever serves, though the order by
which results are sorted has a place for both. -/
namespace RecordQuery
set_option autoImplicit false

/-! ## Values without an order -/

theorem Value.compare?_other (a : Value) (h : a.isMissing = false) : a.compare? .other = none := by
  cases a with
  | missing => exact absurd h nofun
  | _ => rfl

namespace Lookup

section Incomparable

variable (l : Lookup) (read : String → Value)

theorem matchScalar_other (v : ClauseValue) : l.matchScalar .other v = false := by
  cases v <;> rfl

theorem matchField_other_left (second : Value) : l.matchField .other second = false := by
  cases second <;> rfl

theorem matchField_other_right (field : Value) (h : field.isMissing = false) : l.matchField field .other = false := by
  rw [matchField, field.compare?_other h, Option.any_none, Bool.and_false]

/-- What cannot be compared meets nothing that asks for more than that it is there. -/
theorem matchPresent_other (v : ClauseValue) : l.matchPresent read .other v = false := by
  cases v with
  | field path => exact l.matchField_other_left (read path)
  | pattern p => rfl
  | geometry g => rfl
  | string s =>
    rw [matchPresent, matchScalar_other]
    exact ite_self false
  | list items =>
    have hitems : items.any (exact.matchScalar .other) = false :=
      List.any_eq_false.mpr fun v _ => by simp [matchScalar_other]
    unfold matchPresent
    dsimp only
    split
    · exact hitems
    · rw [matchScalar_other, Bool.false_and]
    · rfl
  | number _ | bool _ | null => rfl

end Incomparable

/-! ## Null tests -/

/-- A compiled clause is a test for null, or needs a value that is there. -/
theorem Suits.nullTest_or {l : Lookup} {v : ClauseValue} (h : l.Suits v) :
    (l = isNull ∧ ∃ b, v = .bool b) ∨ (l = exact ∧ v = .null) ∨
    (l ≠ isNull ∧ v ≠ .null ∧
      ∀ read field, l.matchValue read field v = (!field.isMissing && l.matchPresent read field v)) := by
  cases h with
  | null => exact .inr (.inl ⟨rfl, rfl⟩)
  | truth b => exact .inl ⟨rfl, b, rfl⟩
  | scalar hl hv =>
    refine .inr (.inr ?_)
    cases l with
    | exact | gt | gte | lt | lte => cases hv <;> exact ⟨nofun, nofun, fun _ _ => rfl⟩
    | _ => exact absurd hl (by decide)
  | field hl path => exact .inr (.inr ⟨ne_of_mem_of_not_mem hl (by decide), nofun, fun _ _ => rfl⟩)
  | pattern hl p => exact .inr (.inr ⟨ne_of_mem_of_not_mem hl (by decide), nofun, fun _ _ => rfl⟩)
  | text hl s => exact .inr (.inr ⟨ne_of_mem_of_not_mem hl (by decide), nofun, fun _ _ => rfl⟩)
  | geometry hl g => exact .inr (.inr ⟨ne_of_mem_of_not_mem hl (by decide), nofun, fun _ _ => rfl⟩)
  | members h => exact .inr (.inr ⟨nofun, nofun, fun _ _ => rfl⟩)
  | bounds ha hb => exact .inr (.inr ⟨nofun, nofun, fun _ _ => rfl⟩)

section Matching

variable {l : Lookup} {v : ClauseValue} (h : l.Suits v) (read : String → Value)

include h

theorem matchValue_missing :
    l.matchValue read .missing v = true ↔ (l = isNull ∧ v = .bool true) ∨ (l = exact ∧ v = .null) := by
  rcases h.nullTest_or with ⟨rfl, b, rfl⟩ | ⟨rfl, rfl⟩ | ⟨hl, hv, hmatch⟩
  · simp [matchValue, Value.isMissing, eq_comm]
  · simp [matchValue, Value.isMissing]
  · rw [hmatch]
    simp [Value.isMissing, hl, hv]

theorem matchValue_other : l.matchValue read .other v = true ↔ l = isNull ∧ v = .bool false := by
  rcases h.nullTest_or with ⟨rfl, b, rfl⟩ | ⟨rfl, rfl⟩ | ⟨hl, hv, hmatch⟩
  · cases b <;> simp [matchValue, Value.isMissing]
  · simp [matchValue, Value.isMissing]
  · rw [hmatch, matchPresent_other]
    simp [hl]

end Matching

theorem matchValue_field (l : Lookup) (read : String → Value) (field : Value) (path : String)
    (h : read path = .missing ∨ read path = .other) : l.matchValue read field (.field path) = false := by
  change (!field.isMissing && l.matchField field (read path)) = false
  cases hfield : field.isMissing with
  | true => rfl
  | false =>
    rcases h with hpath | hpath
    · rw [hpath]
      rfl
    · rw [hpath, l.matchField_other_right field hfield]
      rfl

end Lookup

/-! ## Clauses -/

/-- Of all compiled clauses, only tests for null hold of a field that is missing or cannot be compared, and none
compares with such a field. -/
theorem Clause.holds_only_for_null (path : String) (operand : Operand) (clauses : List Clause)
    (h : compile path operand = .ok clauses) (c : Clause) (hc : c ∈ clauses) {R : Type} [Record R] (r : R) :
    (Record.value r c.field = .missing →
      (c.holds r = true ↔ (c.lookup = .isNull ∧ c.value = .bool true) ∨ (c.lookup = .exact ∧ c.value = .null))) ∧
    (Record.value r c.field = .other → (c.holds r = true ↔ c.lookup = .isNull ∧ c.value = .bool false)) ∧
    ∀ other, c.value = .field other → Record.value r other = .missing ∨ Record.value r other = .other →
      c.holds r = false := by
  have hsuits := suits_of_compile path operand clauses h c hc
  refine ⟨fun hfield => ?_, fun hfield => ?_, fun other hother hread => ?_⟩
  · rw [holds, hfield]
    exact Lookup.matchValue_missing hsuits _
  · rw [holds, hfield]
    exact Lookup.matchValue_other hsuits _
  · rw [holds, hother]
    exact c.lookup.matchValue_field _ _ other hread

/-- A rank below a limit that is a list. -/
theorem Clause.not_holds_rank_limit :
    compile "author" (.group [("rank__lt", .field "limit")]) = .ok [⟨"author__rank", .lt, .field "limit"⟩] ∧
    (Clause.mk "author__rank" .lt (.field "limit")).holds
      (Json.object [("author", .object [("rank", .number (.int 3))]), ("limit", .array [.number (.int 5)])]) =
      false := by
  have hcompile : compile "author" (.group [("rank__lt", .field "limit")]) =
      .ok [⟨"author__rank", .lt, .field "limit"⟩] := rfl
  exact ⟨hcompile, (holds_only_for_null "author" _ _ hcompile _ List.mem_cons_self _).2.2 "limit" rfl (.inr rfl)⟩

end RecordQuery
