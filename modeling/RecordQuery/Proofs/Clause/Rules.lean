import RecordQuery.Proofs.Clause.Operands

/-! Rules of matching. Orders, texts and geometries are each asked for by lookups of their own, and lists by two; the
answer to anything else is no, as a last resort. Compiled clauses never come to it, so that any other would do. -/
namespace RecordQuery
set_option autoImplicit false

namespace Lookup

/-! ## Matching with any last resort -/

section Resorts

variable (last : Bool) (l : Lookup)

/-- Whether an order is the one that the lookup asks for, if it asks for one. -/
def acceptsOr (o : Ordering) : Bool := if l ∈ comparisons then l.accepts o else last

def matchStringOr (field pattern : String) : Bool :=
  if l ∈ searches ++ foldedSearches then l.matchString field pattern else last

def matchGeometryOr (field : Value) (operand : Geometry) : Bool :=
  if l ∈ relations then l.matchGeometry field operand else last

def matchScalarOr (field : Value) (operand : ClauseValue) : Bool :=
  match operand.value? with
  | some v => (field.compare? v).any (l.acceptsOr last)
  | none => false

def matchListOr (field : Value) (items : List ClauseValue) : Bool :=
  match l, items with
  | oneOf, items => items.any (exact.matchScalarOr last field)
  | range, [low, high] => gte.matchScalarOr last field low && lte.matchScalarOr last field high
  | _, _ => last

def matchPresentOr (read : String → Value) (field : Value) (value : ClauseValue) : Bool :=
  match value with
  | .field other => !(read other).isMissing && (field.compare? (read other)).any (l.acceptsOr last)
  | .pattern p => field.string?.any p.matchesIn
  | .string s =>
    if l.isForStrings then field.string?.any (l.matchStringOr last · s) else l.matchScalarOr last field value
  | .list items => l.matchListOr last field items
  | .geometry g => l.matchGeometryOr last field g
  | value => l.matchScalarOr last field value

/-- Matching as it is, except for the answer to what no rule is for. -/
def matchValueOr (read : String → Value) (field : Value) (value : ClauseValue) : Bool :=
  match value, l with
  | .bool expected, isNull => field.isMissing == expected
  | .null, _ => field.isMissing
  | value, l => !field.isMissing && l.matchPresentOr last read field value

end Resorts

/-! ## The last resort -/

section Last

variable (l : Lookup)

theorem acceptsOr_false : l.acceptsOr false = l.accepts := by
  funext o
  cases l <;> rfl

theorem matchStringOr_false (field pattern : String) :
    l.matchStringOr false field pattern = l.matchString field pattern := by
  cases l <;> rfl

theorem matchGeometryOr_false (field : Value) (g : Geometry) :
    l.matchGeometryOr false field g = l.matchGeometry field g := by
  by_cases h : l ∈ relations
  · exact if_pos h
  · rw [matchGeometryOr, if_neg h, matchGeometry]
    cases field.geometry? with
    | none => rfl
    | some f =>
      dsimp only
      have hexact : l ≠ exact := fun he => h (he ▸ by decide)
      rw [if_neg hexact]
      split
      · cases l with
        | exact | boxContains | boxOverlaps | contained => exact absurd (by decide) h
        | _ => rfl
      · rfl

theorem matchScalarOr_false : l.matchScalarOr false = l.matchScalar := by
  funext field operand
  rw [matchScalarOr, acceptsOr_false]
  rfl

theorem matchPresentOr_false (read : String → Value) (field : Value) (value : ClauseValue) :
    l.matchPresentOr false read field value = l.matchPresent read field value := by
  have hscalar := congrFun (congrFun l.matchScalarOr_false field)
  cases value with
  | field other => rw [matchPresentOr, matchPresent, acceptsOr_false, matchField]
  | pattern p => rfl
  | string s => simp only [matchPresentOr, matchPresent, matchStringOr_false, matchScalarOr_false]
  | list items =>
    simp only [matchPresentOr, matchListOr, matchScalarOr_false]
    rfl
  | geometry g => exact l.matchGeometryOr_false field g
  | number n => exact hscalar (.number n)
  | bool b => exact hscalar (.bool b)
  | null => exact hscalar .null

/-- The last resort of matching is no. -/
theorem matchValueOr_false (read : String → Value) (field : Value) (value : ClauseValue) :
    l.matchValueOr false read field value = l.matchValue read field value := by
  simp only [matchValueOr, matchPresentOr_false]
  rfl

end Last

/-! ## Compiled clauses -/

section Compiled

variable (last : Bool) {l : Lookup}

theorem acceptsOr_of_mem (hl : l ∈ comparisons) : l.acceptsOr last = l.acceptsOr false := by
  funext o
  rw [acceptsOr, acceptsOr, if_pos hl, if_pos hl]

theorem matchScalarOr_of_mem (hl : l ∈ comparisons) : l.matchScalarOr last = l.matchScalarOr false := by
  funext field operand
  rw [matchScalarOr, matchScalarOr, acceptsOr_of_mem last hl]

theorem matchStringOr_of_mem (hl : l ∈ searches ++ foldedSearches) :
    l.matchStringOr last = l.matchStringOr false := by
  funext field pattern
  rw [matchStringOr, matchStringOr, if_pos hl, if_pos hl]

theorem matchGeometryOr_of_mem (hl : l ∈ relations) : l.matchGeometryOr last = l.matchGeometryOr false := by
  funext field operand
  rw [matchGeometryOr, matchGeometryOr, if_pos hl, if_pos hl]

/-- Where there is a rule, nothing is left to the last resort. -/
theorem Suits.matchValueOr_eq {v : ClauseValue} (h : l.Suits v) (read : String → Value) (field : Value) :
    l.matchValueOr last read field v = l.matchValue read field v := by
  rw [← matchValueOr_false]
  cases h with
  | null | truth b | pattern hl p => rfl
  | scalar hl hv =>
    have hscalar : ∀ last, l.matchValueOr last read field v = (!field.isMissing && l.matchScalarOr last field v) := by
      intro last
      cases l with
      | exact | gt | gte | lt | lte => cases hv <;> rfl
      | _ => exact absurd hl (by decide)
    rw [hscalar, hscalar, matchScalarOr_of_mem last hl]
  | field hl path => simp only [matchValueOr, matchPresentOr, acceptsOr_of_mem last hl]
  | text hl s =>
    have hstrings : ∀ l ∈ searches ++ foldedSearches, l.isForStrings = true := by decide
    simp only [matchValueOr, matchPresentOr, hstrings l hl, if_true, matchStringOr_of_mem last hl]
  | geometry hl g => simp only [matchValueOr, matchPresentOr, matchGeometryOr_of_mem last hl]
  | members h =>
    have hexact := matchScalarOr_of_mem last (l := exact) (by decide)
    simp only [matchValueOr, matchPresentOr, matchListOr, hexact]
  | bounds ha hb =>
    have hgte := matchScalarOr_of_mem last (l := gte) (by decide)
    have hlte := matchScalarOr_of_mem last (l := lte) (by decide)
    simp only [matchValueOr, matchPresentOr, matchListOr, hgte, hlte]

end Compiled

end Lookup

namespace Clause

/-- A condition compiles where the table has its operand, to the one clause with the value that is there; and what any
condition compiles to is of a shape that matching has rules for, whatever its last resort. -/
theorem compile_by_table (path : String) (operand : Operand) :
    (operand.isGroup = false → ∀ field l, Lookup.ofPath path = (field, l) → ∀ clauses,
      compile path operand = .ok clauses ↔ ∃ v, l.Takes operand v ∧ clauses = [⟨field, l, v⟩]) ∧
    ∀ clauses, compile path operand = .ok clauses → ∀ c ∈ clauses, c.lookup.Suits c.value ∧
      ∀ last read field, c.lookup.matchValueOr last read field c.value = c.lookup.matchValue read field c.value := by
  refine ⟨fun hoperand field l hpath clauses => ?_, fun clauses hclauses c hc => ?_⟩
  · simp only [compile_eq_ok path operand hoperand, ofLeaf_eq_ok, hpath]
    constructor
    · rintro ⟨c, ⟨v, hv, rfl⟩, rfl⟩
      exact ⟨v, hv, rfl⟩
    · rintro ⟨v, hv, rfl⟩
      exact ⟨_, ⟨v, hv, rfl⟩, rfl⟩
  · have hsuits := suits_of_compile path operand clauses hclauses c hc
    exact ⟨hsuits, fun last read field => hsuits.matchValueOr_eq last read field⟩

/-- A list may name null beside scalars. -/
theorem compile_names_by_table :
    Lookup.ofPath "author__name__in" = ("author__name", .oneOf) ∧
    compile "author__name__in" (.literal (.array [.string "ada", .null])) =
      .ok [⟨"author__name", .oneOf, .list [.string "ada", .null]⟩] ∧
    Lookup.oneOf.Suits (.list [.string "ada", .null]) := by
  obtain ⟨htable, hrules⟩ := compile_by_table "author__name__in" (.literal (.array [.string "ada", .null]))
  have hpath : Lookup.ofPath "author__name__in" = ("author__name", .oneOf) := by decide
  have hcompile := (htable rfl _ _ hpath [⟨"author__name", .oneOf, .list [.string "ada", .null]⟩]).mpr
    ⟨_, .members (.cons (.scalar rfl) (.cons .null .nil)), rfl⟩
  exact ⟨hpath, hcompile, (hrules _ hcompile _ List.mem_cons_self).1⟩

end Clause

end RecordQuery
