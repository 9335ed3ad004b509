import RecordQuery.Proofs.Clause.IgnoringCase
import RecordQuery.Proofs.Clause.Operands
import RecordQuery.Proofs.Geometry.Box
import RecordQuery.Proofs.Geometry.Collection
import RecordQuery.Proofs.Number.Rounding

/-! Lookups given the value that a field has. The value is read twice, as a field and as an operand, and every lookup
that takes it answers as for two equal ones. -/
namespace RecordQuery
set_option autoImplicit false

open ClauseValue

/-! ## Values beside themselves -/

theorem Number.isNaN_ofJson (n : JsonNumber) : (Number.ofJson n).toBinary64.isNaN = false := by
  cases n with
  | double x => exact x.value.not_isNaN_of_isFinite x.finite
  | int i =>
    rw [ofJson]
    split_ifs <;> exact Binary64.isNaN_ofInt _

theorem Number.compare?_self (n : Number) (h : n.toBinary64.isNaN = false) : n.compare? n = some .eq := by
  cases hn : n.int? with
  | some i =>
    rw [compare?, hn]
    exact congrArg some Std.ReflCmp.compare_self
  | none => rw [compare?, hn, Binary64.compare?_self h]

theorem Json.isScalar_canonical (j : Json) : j.canonical.isScalar = j.isScalar := by
  cases j <;> rfl

namespace Value

theorem compare?_ofJson_self (j : Json) (hj : j.isScalar = true) : (ofJson j).compare? (ofJson j) = some .eq := by
  cases j with
  | string s => exact congrArg some Std.ReflCmp.compare_self
  | bool b => exact congrArg some Std.ReflCmp.compare_self
  | number n => exact (Number.ofJson n).compare?_self (Number.isNaN_ofJson n)
  | _ => exact absurd hj nofun

/-- Equal scalars may differ in the sign of zero, which the order does not tell. -/
theorem compare?_ofJson_of_beq (j k : Json) (hj : j.isScalar = true) (h : (j == k) = true) :
    (ofJson j).compare? (ofJson k) = some .eq := by
  have hcanonical : (ofJson k).canonical = (ofJson j).canonical := by
    rw [← ofJson_canonical k, ← ofJson_canonical j, (Json.beq_iff j k).mp h]
  rw [← compare?_canonical_right, hcanonical, compare?_canonical_right, compare?_ofJson_self j hj]

end Value

/-! ## Lookups -/

namespace Lookup

theorem matchScalar_of_beq (l : Lookup) (j k : Json) (v : ClauseValue) (hj : j.isScalar = true)
    (h : (j == k) = true) (hv : comparable? k = some v) : l.matchScalar (Value.ofJson j) v = l.accepts .eq := by
  obtain ⟨hvalue, -⟩ := Value.ofJson_comparable? k v hv
  rw [matchScalar, hvalue]
  dsimp only
  rw [Value.compare?_ofJson_of_beq j k hj h]
  rfl

/-- What a list compares with in place of one of its items. -/
def candidate (j : Json) : ClauseValue := (comparable? j).getD .null

theorem forall₂_candidate (items : List Json) (h : ∀ j ∈ items, j.isScalar = true ∨ j = .null) :
    List.Forall₂ Candidate items (items.map candidate) := by
  rw [List.forall₂_map_right_iff, List.forall₂_same]
  intro j hj
  rcases h j hj with hscalar | rfl
  · obtain ⟨v, hv⟩ := comparable?_of_isScalar j hscalar
    rw [candidate, hv]
    exact .scalar hv
  · exact .null

section Matching

variable (read : String → Value) (j : Json) (hj : j.isScalar = true)

include hj

theorem matchValue_self (l : Lookup) (hl : l ∈ comparisons) (v : ClauseValue) (hv : comparable? j = some v) :
    l.matchValue read (Value.ofJson j) v = l.accepts .eq := by
  obtain ⟨-, hmissing⟩ := Value.ofJson_comparable? j v hv
  rw [matchValue_scalar read _ l (l.mem_comparisons.mp hl) (isScalar_of_comparable? j v hv), hmissing,
    l.matchScalar_of_beq j j v hj ((Json.beq_iff j j).mpr rfl) hv]
  rfl

theorem matchValue_range_self (v : ClauseValue) (hv : comparable? j = some v) :
    range.matchValue read (Value.ofJson j) (.list [v, v]) = true := by
  have hscalar := isScalar_of_comparable? j v hv
  rw [matchValue_range read _ hscalar hscalar, matchValue_self read j hj gte (by decide) v hv,
    matchValue_self read j hj lte (by decide) v hv]
  rfl

theorem matchValue_oneOf_self (items : List Json) (hmem : items.contains j = true) :
    oneOf.matchValue read (Value.ofJson j) (.list (items.map candidate)) = true := by
  obtain ⟨v, hv⟩ := comparable?_of_isScalar j hj
  obtain ⟨-, hmissing⟩ := Value.ofJson_comparable? j v hv
  -- the list need not hold the value itself, but has one equal to it, which is a scalar too
  obtain ⟨k, hk, hequal⟩ := List.contains_iff_exists_mem_beq.mp hmem
  have hkscalar : k.isScalar = true := by
    rw [← k.isScalar_canonical, ← (Json.beq_iff j k).mp hequal, j.isScalar_canonical, hj]
  obtain ⟨w, hw⟩ := comparable?_of_isScalar k hkscalar
  have hcandidate : candidate k = w := by rw [candidate, hw, Option.getD_some]
  change (!(Value.ofJson j).isMissing && (items.map candidate).any (exact.matchScalar (Value.ofJson j))) = true
  rw [hmissing, Bool.not_false, Bool.true_and, List.any_eq_true]
  refine ⟨w, List.mem_map.mpr ⟨k, hk, hcandidate⟩, ?_⟩
  rw [exact.matchScalar_of_beq j k w hj hequal hw]
  rfl

end Matching

/-- Every lookup that looks for a text finds it in itself. -/
theorem matchValue_string_self (read : String → Value) (l : Lookup) (hl : l.findsText = true) (s : String) :
    l.matchValue read (.string s) (.string (String.ofList (l.folded s))) = true := by
  rw [matchValue_string read _ _ l hl, String.toList_ofList]
  exact ⟨s, rfl, [], [], (List.append_nil _).symm, fun _ => rfl, fun _ => rfl⟩

section Geometries

variable (read : String → Value) (g : Geometry) (h : g.check = .ok ())

include h

theorem matchValue_geometry_self : exact.matchValue read (.geometry g) (.geometry g) = true := by
  rw [matchValue_exact_geometry]
  exact g.beq_self_of_check h

theorem matchValue_box_self (l : Lookup) (hl : l.isForBoxes = true) (hpositions : g.positions ≠ []) :
    l.matchValue read (.geometry g) (.geometry g) = true := by
  obtain ⟨b, hbox, hproper⟩ := g.box?_of_check h hpositions
  have hmatch : l.matchValue read (.geometry g) (.geometry g) = l.matchGeometry (.geometry g) g := by
    cases l <;> rfl
  rw [hmatch]
  cases l with
  | boxContains | contained => simp [matchGeometry, Value.geometry?, hbox, hproper.contains_self]
  | boxOverlaps => simp [matchGeometry, Value.geometry?, hbox, hproper.intersects_self]
  | _ => exact absurd hl nofun

end Geometries

end Lookup

/-! ## Answers -/

/-- What a record answers to a lookup of a value in a field, with the value coerced or not. -/
def lookupAnswer {R : Type} [Record R] (coerced : Bool) (field : String) (l : Lookup) (value : Json) (r : R) :
    Except QueryError Bool :=
  (Clause.compile (Text.joinPath field l.name) (Operand.coerceIf coerced value)).map (RecordSet.meets · r)

/-- A lookup that takes the value as a literal takes it coerced, and makes the same of it. -/
theorem lookupAnswer_eq {R : Type} [Record R] (coerced : Bool) (field : String) (hfield : field ≠ "") (l : Lookup)
    (value : Json) (v : ClauseValue) (h : l.Takes (.literal value) v) (r : R) :
    lookupAnswer coerced field l value r = .ok (l.matchValue (Record.value r) (Record.value r field) v) := by
  have hpath := l.ofPath_joinPath field hfield
  have hcompile : Clause.compile (Text.joinPath field l.name) (.literal value) = .ok [⟨field, l, v⟩] := by
    rw [Clause.compile_eq_ok _ _ rfl]
    refine ⟨_, (Clause.ofLeaf_eq_ok _ _ _).mpr ⟨v, ?_, rfl⟩, ?_⟩
    · rwa [hpath]
    · rw [hpath]
  -- coercion changes the operand, but not what it compiles to
  have hcoerced := (Clause.compile_coerceLiteral coerced (Text.joinPath field l.name) (.literal value)).symm
  change (Clause.compile _ ((Operand.literal value).coerceLiteral coerced)).map _ = _
  rw [hcoerced.eq_ok hcompile]
  exact congrArg Except.ok (Bool.and_true _)

/-- The path of a key without a separator leads to that key. -/
theorem Record.value_key (record : Json) (key : String) (hkey : ¬Text.separator <:+: key.toList) (v : Json)
    (hv : record.get? key = some v) : Record.value record key = Value.ofJson v := by
  refine value_of_follow record key v ?_
  rw [(Text.segments_eq_singleton key.toList).mpr hkey, Json.follow, String.ofList_toList, hv]
  rfl

section Answers

open Lookup

variable (record : Json) (key : String) (hne : key ≠ "") (hkey : ¬Text.separator <:+: key.toList) (v : Json)
  (hv : record.get? key = some v) (coerced : Bool)

include hne hkey hv

theorem lookupAnswer_scalar_self (hscalar : v.isScalar = true) (l : Lookup) (hl : l ∈ comparisons) :
    lookupAnswer coerced key l v record = .ok (l.accepts .eq) := by
  obtain ⟨c, hc⟩ := comparable?_of_isScalar v hscalar
  rw [lookupAnswer_eq coerced key hne l v c (.scalar hl hc), Record.value_key record key hkey v hv,
    l.matchValue_self _ v hscalar hl c hc]

theorem lookupAnswer_range_self (hscalar : v.isScalar = true) :
    lookupAnswer coerced key range (.array [v, v]) record = .ok true := by
  obtain ⟨c, hc⟩ := comparable?_of_isScalar v hscalar
  rw [lookupAnswer_eq coerced key hne range _ _ (.bounds hc hc), Record.value_key record key hkey v hv,
    matchValue_range_self _ v hscalar c hc]

theorem lookupAnswer_oneOf_self (hscalar : v.isScalar = true) (items : List Json)
    (hitems : ∀ j ∈ items, j.isScalar = true ∨ j = .null) (hmem : items.contains v = true) :
    lookupAnswer coerced key oneOf (.array items) record = .ok true := by
  rw [lookupAnswer_eq coerced key hne oneOf _ _ (.members (forall₂_candidate items hitems)),
    Record.value_key record key hkey v hv, matchValue_oneOf_self _ v hscalar items hmem]

theorem lookupAnswer_string_self (s : String) (hs : v = .string s) (l : Lookup) (hl : l.findsText = true) :
    lookupAnswer coerced key l v record = .ok true := by
  subst hs
  have htakes := (l.literalOperand_eq_ok _ _).mp (l.literalOperand_string hl s)
  rw [lookupAnswer_eq coerced key hne l _ _ htakes, Record.value_key record key hkey _ hv]
  exact congrArg Except.ok (matchValue_string_self _ l hl s)

theorem lookupAnswer_geometry_self (g : Geometry) (hg : Geometry.ofJson v = .ok g) :
    lookupAnswer coerced key exact v record = .ok true ∧
      (g.positions ≠ [] → ∀ l : Lookup, l.isForBoxes = true → lookupAnswer coerced key l v record = .ok true) := by
  have hcheck := ((Geometry.ofJson_eq_ok v g).mp hg).2.2
  have hread : Record.value record key = .geometry g := by
    rw [Record.value_key record key hkey v hv, Value.ofJson_of_geometry v g hg]
  refine ⟨?_, fun hpositions l hl => ?_⟩
  · rw [lookupAnswer_eq coerced key hne exact v _ (.writtenGeometry (by decide) hg), hread,
      matchValue_geometry_self _ g hcheck]
  · have hrelation : l ∈ relations := by
      rw [l.mem_relations, hl]
      rfl
    rw [lookupAnswer_eq coerced key hne l v _ (.writtenGeometry hrelation hg), hread,
      matchValue_box_self _ g hcheck l hl hpositions]

theorem lookupAnswer_null_self (hnull : v = .null) :
    lookupAnswer coerced key exact .null record = .ok true ∧
      lookupAnswer coerced key isNull (.bool true) record = .ok true := by
  subst hnull
  have hread := Record.value_key record key hkey .null hv
  rw [lookupAnswer_eq coerced key hne exact .null _ .null, lookupAnswer_eq coerced key hne isNull _ _ (.truth true),
    hread]
  exact ⟨rfl, rfl⟩

/-- A record has in a field what it has there: every lookup, given the value of the field, answers as for two equal
values. -/
theorem lookupAnswer_self :
    (v.isScalar = true →
      (∀ l ∈ [exact, gte, lte], lookupAnswer coerced key l v record = .ok true) ∧
      (∀ l ∈ [gt, lt], lookupAnswer coerced key l v record = .ok false) ∧
      lookupAnswer coerced key range (.array [v, v]) record = .ok true ∧
      ∀ items : List Json, (∀ j ∈ items, j.isScalar = true ∨ j = .null) → items.contains v = true →
        lookupAnswer coerced key oneOf (.array items) record = .ok true) ∧
    (∀ s, v = .string s → ∀ l ∈ searches ++ foldedSearches, lookupAnswer coerced key l v record = .ok true) ∧
    (∀ g, Geometry.ofJson v = .ok g →
      lookupAnswer coerced key exact v record = .ok true ∧
      (g.positions ≠ [] →
        ∀ l ∈ [boxContains, boxOverlaps, contained], lookupAnswer coerced key l v record = .ok true)) ∧
    (v = .null →
      lookupAnswer coerced key exact .null record = .ok true ∧
      lookupAnswer coerced key isNull (.bool true) record = .ok true) := by
  refine ⟨fun hscalar => ?_, fun s hs l hl => ?_, fun g hg => ?_, ?_⟩
  · have hcompare := lookupAnswer_scalar_self record key hne hkey v hv coerced hscalar
    have hequal : ∀ l ∈ [exact, gte, lte], l ∈ comparisons ∧ l.accepts .eq = true := by decide
    have hdiffer : ∀ l ∈ [gt, lt], l ∈ comparisons ∧ l.accepts .eq = false := by decide
    refine ⟨fun l hl => ?_, fun l hl => ?_, ?_, ?_⟩
    · rw [hcompare l (hequal l hl).1, (hequal l hl).2]
    · rw [hcompare l (hdiffer l hl).1, (hdiffer l hl).2]
    · exact lookupAnswer_range_self record key hne hkey v hv coerced hscalar
    · exact lookupAnswer_oneOf_self record key hne hkey v hv coerced hscalar
  · have htext : ∀ l ∈ searches ++ foldedSearches, l.findsText = true := by decide
    exact lookupAnswer_string_self record key hne hkey v hv coerced s hs l (htext l hl)
  · have hbox : ∀ l ∈ [boxContains, boxOverlaps, contained], l.isForBoxes = true := by decide
    obtain ⟨hexact, hboxes⟩ := lookupAnswer_geometry_self record key hne hkey v hv coerced g hg
    exact ⟨hexact, fun hpositions l hl => hboxes hpositions l (hbox l hl)⟩
  · exact lookupAnswer_null_self record key hne hkey v hv coerced

end Answers

/-- A number that no signed word holds, under a key that ends with an underscore; and a point. -/
theorem lookupAnswer_self_number_point :
    let number := Json.number (.int 18446744073709551615)
    let point := Geometry.typed .point "coordinates" (.array [.number (.int 1), .number (.int 2)])
    let record := Json.object [("id_", number), ("place", point)]
    lookupAnswer true "id_" .oneOf (.array [.null, number]) record = .ok true ∧
      lookupAnswer true "id_" .lt number record = .ok false ∧
      lookupAnswer true "place" .contained point record = .ok true := by
  intro number point record
  obtain ⟨hscalar, -⟩ := lookupAnswer_self record "id_" (by decide) (by decide) number rfl true
  obtain ⟨-, hdiffer, -, hmember⟩ := hscalar rfl
  obtain ⟨-, -, hgeometry, -⟩ := lookupAnswer_self record "place" (by decide) (by decide) point rfl true
  obtain ⟨-, hboxes⟩ := hgeometry _ rfl
  have hitems : ∀ j ∈ [.null, number], j.isScalar = true ∨ j = .null :=
    List.forall_mem_cons.mpr ⟨.inr rfl, List.forall_mem_singleton.mpr (.inl rfl)⟩
  exact ⟨hmember _ hitems rfl, hdiffer .lt (by decide), hboxes (List.cons_ne_nil _ _) .contained (by decide)⟩

end RecordQuery
