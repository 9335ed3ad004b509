import Mathlib.Data.List.Forall2
import RecordQuery.Proofs.Clause.Reference

/-! What conditions compile to. Each lookup takes operands of its own kinds and makes a value of one kind of each, so
that a compiled clause never pairs a lookup with a value that matching has no rule for. -/
namespace RecordQuery
set_option autoImplicit false

open ClauseValue

namespace Lookup

/-! ## The table -/

/-- Equality and the lookups for an order, which compare with scalars and with other fields. -/
def comparisons : List Lookup := [exact, gt, gte, lt, lte]

/-- The lookups that relate geometries. -/
def relations : List Lookup := [exact, boxContains, boxOverlaps, contained]

def searches : List Lookup := [contains, startsWith, endsWith]

def foldedSearches : List Lookup := [iexact, icontains, istartsWith, iendsWith]

theorem mem_comparisons (l : Lookup) : l ∈ comparisons ↔ l.takesField = true := by
  cases l <;> decide

theorem mem_relations (l : Lookup) : l ∈ relations ↔ (l.isForBoxes || l == exact) = true := by
  cases l <;> decide

/-- What a list may hold: scalars, and null. -/
inductive Candidate : Json → ClauseValue → Prop where
  | scalar {j : Json} {v : ClauseValue} (h : comparable? j = some v) : Candidate j v
  | null : Candidate .null .null

/-- The operands that a lookup takes, with what each becomes. -/
inductive Takes : Lookup → Operand → ClauseValue → Prop where
  | field {l : Lookup} (hl : l ∈ comparisons) (path : String) : Takes l (.field path) (.field path)
  | geometry {l : Lookup} (hl : l ∈ relations) (g : Geometry) : Takes l (.geometry g) (.geometry g)
  | writtenGeometry {l : Lookup} (hl : l ∈ relations) {j : Json} {g : Geometry} (hg : Geometry.ofJson j = .ok g) :
    Takes l (.literal j) (.geometry g)
  | pattern {source : String} {p : TextPattern} (hp : TextPattern.parse? false source = some p) :
    Takes regex (.literal (.string source)) (.pattern p)
  | foldedPattern {source : String} {p : TextPattern} (hp : TextPattern.parse? true source = some p) :
    Takes iregex (.literal (.string source)) (.pattern p)
  | text {l : Lookup} (hl : l ∈ searches) (s : String) : Takes l (.literal (.string s)) (.string s)
  | foldedText {l : Lookup} (hl : l ∈ foldedSearches) (s : String) :
    Takes l (.literal (.string s)) (.string (Text.lowercase s))
  | scalar {l : Lookup} (hl : l ∈ comparisons) {j : Json} {v : ClauseValue} (hv : comparable? j = some v) :
    Takes l (.literal j) v
  | null : Takes exact (.literal .null) .null
  | truth (b : Bool) : Takes isNull (.literal (.bool b)) (.bool b)
  | members {items : List Json} {vs : List ClauseValue} (h : List.Forall₂ Candidate items vs) :
    Takes oneOf (.literal (.array items)) (.list vs)
  | bounds {low high : Json} {a b : ClauseValue} (ha : comparable? low = some a) (hb : comparable? high = some b) :
    Takes range (.literal (.array [low, high])) (.list [a, b])

/-! ## Literals -/

section Literals

variable (l : Lookup) (j : Json) (v : ClauseValue)

theorem scalar_eq_ok : l.scalar j = .ok v ↔ Candidate j v := by
  constructor
  · intro h
    cases j with
    | null =>
      obtain rfl := Except.ok.inj h
      exact .null
    | string _ | number _ | bool _ =>
      obtain rfl := Except.ok.inj h
      exact .scalar rfl
    | array _ | object _ => exact absurd h nofun
  · intro h
    cases h with
    | scalar h => exact l.scalar_of_comparable? j v h
    | null => rfl

theorem scalars_eq_ok (js : List Json) (vs : List ClauseValue) :
    l.scalars js = .ok vs ↔ List.Forall₂ Candidate js vs := by
  induction js generalizing vs with
  | nil =>
    rw [scalars, List.forall₂_nil_left_iff, Except.ok.injEq, eq_comm]
  | cons j js ih =>
    rw [scalars, bind_eq_ok, List.forall₂_cons_left_iff]
    simp only [bind_eq_ok, scalar_eq_ok, ih, Except.ok.injEq]
    constructor
    · rintro ⟨v, hv, vs, hvs, rfl⟩
      exact ⟨v, vs, hv, hvs, rfl⟩
    · rintro ⟨v, vs, hv, hvs, rfl⟩
      exact ⟨v, hv, vs, hvs, rfl⟩

theorem patternOperand_eq_ok :
    l.patternOperand j = .ok v ↔
      ∃ source p, j = .string source ∧ TextPattern.parse? (l == iregex) source = some p ∧ v = .pattern p := by
  cases j with
  | string source =>
    rw [patternOperand]
    cases hp : TextPattern.parse? (l == iregex) source with
    | none => simp [hp]
    | some p => simp [hp, eq_comm]
  | _ => exact iff_of_false nofun nofun

theorem stringOperand_eq_ok :
    l.stringOperand j = .ok v ↔
      ∃ s, j = .string s ∧ v = .string (if l.ignoresCase then Text.lowercase s else s) := by
  cases j with
  | string s =>
    constructor
    · intro h
      exact ⟨s, rfl, (Except.ok.inj h).symm⟩
    · rintro ⟨_, ⟨⟩, rfl⟩
      rfl
  | _ => exact iff_of_false nofun nofun

theorem listOperand_eq_ok :
    l.listOperand j = .ok v ↔ ∃ items vs, j = .array items ∧ List.Forall₂ Candidate items vs ∧ v = .list vs := by
  cases j with
  | array items =>
    change (l.scalars items).map ClauseValue.list = .ok v ↔ _
    simp only [map_eq_ok, scalars_eq_ok]
    constructor
    · rintro ⟨vs, hvs, rfl⟩
      exact ⟨items, vs, rfl, hvs, rfl⟩
    · rintro ⟨_, vs, ⟨⟩, hvs, rfl⟩
      exact ⟨vs, hvs, rfl⟩
  | _ => exact iff_of_false nofun nofun

theorem truthOperand_eq_ok : l.truthOperand j = .ok v ↔ ∃ b, j = .bool b ∧ v = .bool b := by
  cases j with
  | bool b =>
    constructor
    · intro h
      exact ⟨b, rfl, (Except.ok.inj h).symm⟩
    · rintro ⟨_, ⟨⟩, rfl⟩
      rfl
  | _ => exact iff_of_false nofun nofun

theorem equalOperand_eq_ok :
    l.equalOperand j = .ok v ↔ Candidate j v ∨ ∃ g, Geometry.ofJson j = .ok g ∧ v = .geometry g := by
  cases j with
  | object ms =>
    have hscalar : ¬Candidate (.object ms) v := nofun
    rw [equalOperand, geometryOperand_eq_ok, or_iff_right hscalar]
  | _ =>
    rw [equalOperand.eq_def]
    simp [scalar_eq_ok, Geometry.ofJson]

theorem orderedOperand_eq_ok : l.orderedOperand j = .ok v ↔ comparable? j = some v := by
  rw [orderedOperand_eq]
  cases comparable? j <;> simp

theorem boundsOperand_eq_ok :
    range.boundsOperand j = .ok v ↔
      ∃ low high a b, j = .array [low, high] ∧ comparable? low = some a ∧ comparable? high = some b ∧
        v = .list [a, b] := by
  constructor
  · intro h
    unfold boundsOperand at h
    split at h
    · rename_i low high
      cases ha : comparable? low with
      | none =>
        obtain ⟨e, he⟩ := literalOperand_range_fails low high (.inl ha)
        exact absurd (he.symm.trans h) nofun
      | some a =>
        cases hb : comparable? high with
        | none =>
          obtain ⟨e, he⟩ := literalOperand_range_fails low high (.inr hb)
          exact absurd (he.symm.trans h) nofun
        | some b =>
          have hok := literalOperand_range low high a b ha hb
          exact ⟨low, high, a, b, rfl, ha, hb, (Except.ok.inj (hok.symm.trans h)).symm⟩
    · exact absurd h nofun
  · rintro ⟨low, high, a, b, rfl, ha, hb, rfl⟩
    exact literalOperand_range low high a b ha hb

/-- A lookup takes a literal where it compiles to what the table says. -/
theorem literalOperand_eq_ok : l.literalOperand j = .ok v ↔ Takes l (.literal j) v := by
  constructor
  · intro h
    cases l with
    | regex =>
      obtain ⟨source, p, rfl, hp, rfl⟩ := (patternOperand_eq_ok regex j v).mp h
      exact .pattern hp
    | iregex =>
      obtain ⟨source, p, rfl, hp, rfl⟩ := (patternOperand_eq_ok iregex j v).mp h
      exact .foldedPattern hp
    | oneOf =>
      obtain ⟨items, vs, rfl, hvs, rfl⟩ := (listOperand_eq_ok oneOf j v).mp h
      exact .members hvs
    | range =>
      obtain ⟨low, high, a, b, rfl, ha, hb, rfl⟩ := (boundsOperand_eq_ok j v).mp h
      exact .bounds ha hb
    | isNull =>
      obtain ⟨b, rfl, rfl⟩ := (truthOperand_eq_ok isNull j v).mp h
      exact .truth b
    | boxContains | boxOverlaps | contained =>
      obtain ⟨g, hg, rfl⟩ := (geometryOperand_eq_ok _ j v).mp h
      exact .writtenGeometry (by decide) hg
    | contains | startsWith | endsWith =>
      obtain ⟨s, rfl, rfl⟩ := (stringOperand_eq_ok _ j v).mp h
      exact .text (by decide) s
    | iexact | icontains | istartsWith | iendsWith =>
      obtain ⟨s, rfl, rfl⟩ := (stringOperand_eq_ok _ j v).mp h
      exact .foldedText (by decide) s
    | exact =>
      rcases (equalOperand_eq_ok exact j v).mp h with (hv | -) | ⟨g, hg, rfl⟩
      · exact .scalar (by decide) hv
      · exact .null
      · exact .writtenGeometry (by decide) hg
    | gt | gte | lt | lte => exact .scalar (by decide) ((orderedOperand_eq_ok _ j v).mp h)
  · intro h
    cases h with
    | writtenGeometry hl hg =>
      have hread : ∀ m : Lookup, m.geometryOperand j = .ok (.geometry _) := fun m =>
        (geometryOperand_eq_ok m j _).mpr ⟨_, hg, rfl⟩
      cases l with
      | exact => exact (equalOperand_eq_ok exact j _).mpr (.inr ⟨_, hg, rfl⟩)
      | boxContains | boxOverlaps | contained => exact hread _
      | _ => exact absurd hl (by decide)
    | pattern hp => exact (patternOperand_eq_ok regex _ _).mpr ⟨_, _, rfl, hp, rfl⟩
    | foldedPattern hp => exact (patternOperand_eq_ok iregex _ _).mpr ⟨_, _, rfl, hp, rfl⟩
    | text hl s =>
      cases l with
      | contains | startsWith | endsWith => rfl
      | _ => exact absurd hl (by decide)
    | foldedText hl s =>
      cases l with
      | iexact | icontains | istartsWith | iendsWith => rfl
      | _ => exact absurd hl (by decide)
    | scalar hl hv =>
      cases l with
      | exact => exact literalOperand_exact j v hv
      | gt | gte | lt | lte => exact (orderedOperand_eq_ok _ j v).mpr hv
      | _ => exact absurd hl (by decide)
    | null => rfl
    | truth b => rfl
    | members h => exact (listOperand_eq_ok oneOf _ _).mpr ⟨_, _, rfl, h, rfl⟩
    | bounds ha hb => exact literalOperand_range _ _ _ _ ha hb

end Literals

/-! ## Rules of matching -/

/-- The pairs of a lookup and a value that matching has a rule for. -/
inductive Suits : Lookup → ClauseValue → Prop where
  | null : Suits exact .null
  | truth (b : Bool) : Suits isNull (.bool b)
  | scalar {l : Lookup} (hl : l ∈ comparisons) {v : ClauseValue} (hv : v.IsScalar) : Suits l v
  | field {l : Lookup} (hl : l ∈ comparisons) (path : String) : Suits l (.field path)
  | pattern {l : Lookup} (hl : l ∈ [regex, iregex]) (p : TextPattern) : Suits l (.pattern p)
  | text {l : Lookup} (hl : l ∈ searches ++ foldedSearches) (s : String) : Suits l (.string s)
  | geometry {l : Lookup} (hl : l ∈ relations) (g : Geometry) : Suits l (.geometry g)
  | members {vs : List ClauseValue} (h : ∀ v ∈ vs, v.IsScalar ∨ v = .null) : Suits oneOf (.list vs)
  | bounds {a b : ClauseValue} (ha : a.IsScalar) (hb : b.IsScalar) : Suits range (.list [a, b])

theorem Candidate.isScalar_or_null {j : Json} {v : ClauseValue} (h : Candidate j v) : v.IsScalar ∨ v = .null := by
  cases h with
  | scalar h => exact .inl (isScalar_of_comparable? j v h)
  | null => exact .inr rfl

theorem isScalar_or_null_of_forall₂ {items : List Json} {vs : List ClauseValue} (h : List.Forall₂ Candidate items vs) :
    ∀ v ∈ vs, v.IsScalar ∨ v = .null := by
  induction h with
  | nil => exact fun v hv => absurd hv List.not_mem_nil
  | cons hj _ ih => exact List.forall_mem_cons.mpr ⟨hj.isScalar_or_null, ih⟩

theorem Takes.suits {l : Lookup} {operand : Operand} {v : ClauseValue} (h : l.Takes operand v) : l.Suits v := by
  cases h with
  | field hl path => exact .field hl path
  | geometry hl g => exact .geometry hl g
  | writtenGeometry hl hg => exact .geometry hl _
  | pattern hp => exact .pattern (by decide) _
  | foldedPattern hp => exact .pattern (by decide) _
  | text hl s => exact .text (List.mem_append_left _ hl) s
  | foldedText hl s => exact .text (List.mem_append_right _ hl) _
  | scalar hl hv => exact .scalar hl (isScalar_of_comparable? _ _ hv)
  | null => exact .null
  | truth b => exact .truth b
  | members h => exact .members (isScalar_or_null_of_forall₂ h)
  | bounds ha hb => exact .bounds (isScalar_of_comparable? _ _ ha) (isScalar_of_comparable? _ _ hb)

end Lookup

namespace Clause

/-! ## Conditions -/

theorem ofLeaf_eq_ok (path : String) (operand : Operand) (c : Clause) :
    ofLeaf path operand = .ok c ↔
      ∃ v, (Lookup.ofPath path).2.Takes operand v ∧ c = ⟨(Lookup.ofPath path).1, (Lookup.ofPath path).2, v⟩ := by
  unfold ofLeaf
  generalize Lookup.ofPath path = place
  obtain ⟨field, l⟩ := place
  cases operand with
  | literal j =>
    dsimp only
    rw [bind_eq_ok]
    simp only [Lookup.literalOperand_eq_ok, Except.ok.injEq]
    exact exists_congr fun v => and_congr_right fun _ => eq_comm
  | geometry g =>
    dsimp only
    by_cases hl : l ∈ Lookup.relations
    · rw [if_pos (l.mem_relations.mp hl), ok_bind, Except.ok.injEq]
      constructor
      · rintro rfl
        exact ⟨_, .geometry hl g, rfl⟩
      · rintro ⟨_, ⟨⟩, rfl⟩
        rfl
    · rw [if_neg (mt l.mem_relations.mpr hl)]
      refine iff_of_false nofun ?_
      rintro ⟨v, hv, -⟩
      cases hv with
      | geometry hmem _ => exact hl hmem
  | field other =>
    dsimp only
    by_cases hl : l ∈ Lookup.comparisons
    · rw [if_pos (l.mem_comparisons.mp hl), ok_bind, Except.ok.injEq]
      constructor
      · rintro rfl
        exact ⟨_, .field hl other, rfl⟩
      · rintro ⟨_, ⟨⟩, rfl⟩
        rfl
    · rw [if_neg (mt l.mem_comparisons.mpr hl)]
      refine iff_of_false nofun ?_
      rintro ⟨v, hv, -⟩
      cases hv with
      | field hmem _ => exact hl hmem
  | group conditions => exact iff_of_false nofun nofun

theorem compile_of_not_isGroup (path : String) (operand : Operand) (hoperand : operand.isGroup = false) :
    compile path operand = (ofLeaf path operand).map fun c => [c] := by
  cases operand with
  | group conditions => exact absurd hoperand nofun
  | literal _ | geometry _ | field _ =>
    rw [compile]
    cases ofLeaf path _ <;> rfl

theorem compile_eq_ok (path : String) (operand : Operand) (hoperand : operand.isGroup = false)
    (clauses : List Clause) :
    compile path operand = .ok clauses ↔ ∃ c, ofLeaf path operand = .ok c ∧ clauses = [c] := by
  rw [compile_of_not_isGroup path operand hoperand, map_eq_ok]
  simp only [eq_comm]

mutual

/-- What holds of the clause of every leaf holds of all clauses of groups of any depth. -/
theorem forall_mem_compile {P : Clause → Prop} (hleaf : ∀ path operand c, ofLeaf path operand = .ok c → P c) :
    ∀ (path : String) (operand : Operand) (clauses : List Clause),
    compile path operand = .ok clauses → ∀ c ∈ clauses, P c
  | path, .group conditions, clauses, h => by
    rw [compile] at h
    exact forall_mem_compileUnder hleaf path conditions clauses h
  | path, .literal j, clauses, h => by
    obtain ⟨c, hc, rfl⟩ := (compile_eq_ok path (.literal j) rfl clauses).mp h
    exact List.forall_mem_singleton.mpr (hleaf path _ c hc)
  | path, .geometry g, clauses, h => by
    obtain ⟨c, hc, rfl⟩ := (compile_eq_ok path (.geometry g) rfl clauses).mp h
    exact List.forall_mem_singleton.mpr (hleaf path _ c hc)
  | path, .field other, clauses, h => by
    obtain ⟨c, hc, rfl⟩ := (compile_eq_ok path (.field other) rfl clauses).mp h
    exact List.forall_mem_singleton.mpr (hleaf path _ c hc)

theorem forall_mem_compileUnder {P : Clause → Prop} (hleaf : ∀ path operand c, ofLeaf path operand = .ok c → P c) :
    ∀ (outer : String) (conditions : List (String × Operand)) (clauses : List Clause),
    compileUnder outer conditions = .ok clauses → ∀ c ∈ clauses, P c
  | outer, [], clauses, h => by
    rw [compileUnder] at h
    obtain rfl := Except.ok.inj h
    exact fun c hc => absurd hc List.not_mem_nil
  | outer, (inner, operand) :: conditions, clauses, h => by
    rw [compileUnder, bind_eq_ok] at h
    obtain ⟨first, hfirst, h⟩ := h
    rw [bind_eq_ok] at h
    obtain ⟨rest, hrest, h⟩ := h
    obtain rfl := Except.ok.inj h
    rw [List.forall_mem_append]
    exact ⟨forall_mem_compile hleaf _ operand first hfirst,
      forall_mem_compileUnder hleaf outer conditions rest hrest⟩

end

theorem suits_of_compile (path : String) (operand : Operand) (clauses : List Clause)
    (h : compile path operand = .ok clauses) : ∀ c ∈ clauses, c.lookup.Suits c.value := by
  refine forall_mem_compile (fun path operand c hc => ?_) path operand clauses h
  obtain ⟨v, hv, rfl⟩ := (ofLeaf_eq_ok path operand c).mp hc
  exact hv.suits

end Clause

end RecordQuery
