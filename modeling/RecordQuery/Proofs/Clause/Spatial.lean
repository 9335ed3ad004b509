import RecordQuery.Proofs.Clause.Reflexive
import RecordQuery.Proofs.Geometry.Canonical
import RecordQuery.Proofs.Geometry.LeastBox

/-! Lookups that compare boxes. What a record answers to one is how the box of its geometry stands to that of the
operand, so the three lookups have the laws of boxes in common: containment is an order, read from either side, and
boxes that are in it overlap. Equal geometries stand in all three relations. -/
namespace RecordQuery
set_option autoImplicit false

/-! ## Boxes of two geometries -/

namespace Geometry

/-- Both geometries have boxes, and the boxes are in a relation. -/
def BoxesIn (related : Box → Box → Bool) (g h : Geometry) : Prop :=
  ∃ b c, g.box? = some b ∧ h.box? = some c ∧ related b c = true

theorem boxesIn_iff (related : Box → Box → Bool) (g h : Geometry) :
    BoxesIn related g h ↔
      (match g.box?, h.box? with
        | some b, some c => related b c
        | _, _ => false) = true := by
  rw [BoxesIn]
  cases g.box? <;> cases h.box? <;> simp

theorem boxesIn_swap (related : Box → Box → Bool) (g h : Geometry) :
    BoxesIn (fun b c => related c b) g h ↔ BoxesIn related h g := by
  constructor
  · rintro ⟨b, c, hb, hc, hrelated⟩
    exact ⟨c, b, hc, hb, hrelated⟩
  · rintro ⟨c, b, hc, hb, hrelated⟩
    exact ⟨b, c, hb, hc, hrelated⟩

theorem boxesIn_intersects_comm (g h : Geometry) : BoxesIn Box.intersects g h ↔ BoxesIn Box.intersects h g := by
  rw [← boxesIn_swap]
  simp only [Box.intersects_comm]

theorem boxesIn_intersects_of_contains {g h : Geometry} (hh : h.check = .ok ()) (hin : BoxesIn Box.contains g h) :
    BoxesIn Box.intersects g h := by
  obtain ⟨b, c, hb, hc, hcontains⟩ := hin
  exact ⟨b, c, hb, hc, Box.intersects_of_contains (isProper_box? hh hc) hcontains⟩

theorem boxesIn_contains_trans {g h k : Geometry} (hgh : BoxesIn Box.contains g h) (hhk : BoxesIn Box.contains h k) :
    BoxesIn Box.contains g k := by
  obtain ⟨b, c, hb, hc, hbc⟩ := hgh
  obtain ⟨c', d, hc', hd, hcd⟩ := hhk
  obtain rfl := Option.some.inj (hc.symm.trans hc')
  exact ⟨b, d, hb, hd, Box.contains_trans hbc hcd⟩

theorem exists_hasPosition_iff {g : Geometry} (hg : g.check = .ok ()) :
    (∃ p, g.HasPosition p) ↔ g.box?.isSome = true := by
  rw [Option.isSome_iff_ne_none, ne_eq, box?_eq_none hg, not_forall_not]

/-- Geometries with positions contain each other's boxes where the boxes are equal. -/
theorem boxesIn_contains_both {g h : Geometry} (hg : g.check = .ok ()) (hh : h.check = .ok ()) :
    BoxesIn Box.contains g h ∧ BoxesIn Box.contains h g ↔
      (∃ p, g.HasPosition p) ∧ (∃ p, h.HasPosition p) ∧ (g.box? == h.box?) = true := by
  rw [exists_hasPosition_iff hg, exists_hasPosition_iff hh, Option.isSome_iff_exists, Option.isSome_iff_exists]
  constructor
  · rintro ⟨⟨b, c, hb, hc, hbc⟩, c', b', hc', hb', hcb⟩
    obtain rfl := Option.some.inj (hb.symm.trans hb')
    obtain rfl := Option.some.inj (hc.symm.trans hc')
    refine ⟨⟨b, hb⟩, ⟨c, hc⟩, ?_⟩
    rw [hb, hc]
    exact Box.beq_iff_contains.mpr ⟨hbc, hcb⟩
  · rintro ⟨⟨b, hb⟩, ⟨c, hc⟩, hequal⟩
    rw [hb, hc] at hequal
    obtain ⟨hbc, hcb⟩ := Box.beq_iff_contains.mp hequal
    exact ⟨⟨b, c, hb, hc, hbc⟩, c, b, hc, hb, hcb⟩

/-! ## Equal geometries -/

section Equal

variable {g h : Geometry} (hequal : (g == h) = true)

include hequal

theorem map_canonical_box?_of_beq : g.box?.map Box.canonical = h.box?.map Box.canonical := by
  rw [← box?_canonical, ← box?_canonical, canonical_eq_of_equal g h hequal]

theorem box?_beq_of_beq (hg : g.check = .ok ()) : (g.box? == h.box?) = true := by
  have hcanonical := map_canonical_box?_of_beq hequal
  cases hb : g.box? with
  | none =>
    rw [hb, Option.map_none, eq_comm, Option.map_eq_none_iff] at hcanonical
    rw [hcanonical]
    rfl
  | some b =>
    rw [hb, Option.map_some, eq_comm, Option.map_eq_some_iff] at hcanonical
    obtain ⟨c, hc, hcanonical⟩ := hcanonical
    have hself := (isProper_box? hg hb).contains_self
    rw [hc]
    refine Box.beq_iff_contains.mpr ⟨?_, ?_⟩
    · rw [← Box.contains_canonical_right, hcanonical, Box.contains_canonical_right, hself]
    · rw [← Box.contains_canonical_left, hcanonical, Box.contains_canonical_left, hself]

theorem exists_hasPosition_of_beq (hg : g.check = .ok ()) (hh : h.check = .ok ()) :
    (∃ p, g.HasPosition p) ↔ ∃ p, h.HasPosition p := by
  have hsome := congrArg Option.isSome (map_canonical_box?_of_beq hequal)
  rw [Option.isSome_map, Option.isSome_map] at hsome
  rw [exists_hasPosition_iff hg, exists_hasPosition_iff hh, hsome]

end Equal

end Geometry

/-! ## Answers -/

namespace Lookup

section Answers

variable (read : String → Value) (g h : Geometry)

theorem matchValue_boxContains :
    boxContains.matchValue read (.geometry g) (.geometry h) = true ↔ Geometry.BoxesIn Box.contains g h := by
  rw [Geometry.boxesIn_iff]
  rfl

theorem matchValue_boxOverlaps :
    boxOverlaps.matchValue read (.geometry g) (.geometry h) = true ↔ Geometry.BoxesIn Box.intersects g h := by
  rw [Geometry.boxesIn_iff]
  rfl

theorem matchValue_contained :
    contained.matchValue read (.geometry g) (.geometry h) = true ↔ Geometry.BoxesIn Box.contains h g := by
  rw [← Geometry.boxesIn_swap, Geometry.boxesIn_iff]
  rfl

end Answers

end Lookup

section Records

open Lookup

variable {R : Type} [Record R] (coerced : Bool) (field : String)

/-- A record answers yes to a lookup of a value in a field. -/
def Meets (l : Lookup) (value : Json) (r : R) : Prop := lookupAnswer coerced field l value r = .ok true

section Geometries

variable (hfield : field ≠ "") {u v : Json} {g h : Geometry} (hu : Geometry.ofJson u = .ok g)
  (hv : Geometry.ofJson v = .ok h) {r : R} (hr : Record.value r field = Value.ofJson u)

include hfield hu hv hr

/-- A record with a geometry answers a lookup of another one by how the two geometries stand. -/
theorem lookupAnswer_geometries (l : Lookup) (hl : l ∈ relations) :
    lookupAnswer coerced field l v r = .ok (l.matchValue (Record.value r) (.geometry g) (.geometry h)) := by
  rw [lookupAnswer_eq coerced field hfield l v _ (.writtenGeometry hl hv), hr, Value.ofJson_of_geometry u g hu]

theorem meets_geometries (l : Lookup) (hl : l ∈ relations) :
    Meets coerced field l v r ↔ l.matchValue (Record.value r) (.geometry g) (.geometry h) = true := by
  rw [Meets, lookupAnswer_geometries coerced field hfield hu hv hr l hl, Except.ok.injEq]

theorem meets_exact : Meets coerced field exact v r ↔ (g == h) = true := by
  rw [meets_geometries coerced field hfield hu hv hr exact (by decide), matchValue_exact_geometry]
  rfl

theorem meets_boxContains : Meets coerced field boxContains v r ↔ Geometry.BoxesIn Box.contains g h :=
  (meets_geometries coerced field hfield hu hv hr boxContains (by decide)).trans (matchValue_boxContains _ g h)

theorem meets_boxOverlaps : Meets coerced field boxOverlaps v r ↔ Geometry.BoxesIn Box.intersects g h :=
  (meets_geometries coerced field hfield hu hv hr boxOverlaps (by decide)).trans (matchValue_boxOverlaps _ g h)

theorem meets_contained : Meets coerced field contained v r ↔ Geometry.BoxesIn Box.contains h g :=
  (meets_geometries coerced field hfield hu hv hr contained (by decide)).trans (matchValue_contained _ g h)

end Geometries

/-- The lookups of geometries have the laws of boxes. A record with one geometry is contained in a second one where a
record with the second contains the first; overlap is symmetric and follows from either; containment is transitive, and
mutual just where both have positions and the boxes are equal; equal geometries with a position meet all three. -/
theorem spatial_lookups_coherent (hfield : field ≠ "") (u v w : Json) (g h k : Geometry)
    (hu : Geometry.ofJson u = .ok g) (hv : Geometry.ofJson v = .ok h) (hw : Geometry.ofJson w = .ok k) (r s : R)
    (hr : Record.value r field = Value.ofJson u) (hs : Record.value s field = Value.ofJson v) :
    (∀ l ∈ [exact, boxContains, boxOverlaps, contained], ∃ answer, lookupAnswer coerced field l v r = .ok answer) ∧
    (Meets coerced field contained v r ↔ Meets coerced field boxContains u s) ∧
    (Meets coerced field boxOverlaps v r ↔ Meets coerced field boxOverlaps u s) ∧
    (Meets coerced field boxContains v r → Meets coerced field boxOverlaps v r) ∧
    (Meets coerced field contained v r → Meets coerced field boxOverlaps v r) ∧
    (Meets coerced field boxContains v r → Meets coerced field boxContains w s →
      Meets coerced field boxContains w r) ∧
    (Meets coerced field boxContains v r ∧ Meets coerced field contained v r ↔
      (∃ p, g.HasPosition p) ∧ (∃ p, h.HasPosition p) ∧ (g.box? == h.box?) = true) ∧
    (Meets coerced field exact v r → ((∃ p, g.HasPosition p) ∨ ∃ p, h.HasPosition p) →
      Meets coerced field boxContains v r ∧ Meets coerced field boxOverlaps v r ∧
        Meets coerced field contained v r) := by
  have hg : g.check = .ok () := ((Geometry.ofJson_eq_ok u g).mp hu).2.2
  have hh : h.check = .ok () := ((Geometry.ofJson_eq_ok v h).mp hv).2.2
  rw [meets_exact coerced field hfield hu hv hr, meets_boxContains coerced field hfield hu hv hr,
    meets_boxOverlaps coerced field hfield hu hv hr, meets_contained coerced field hfield hu hv hr,
    meets_boxContains coerced field hfield hv hu hs, meets_boxOverlaps coerced field hfield hv hu hs,
    meets_boxContains coerced field hfield hv hw hs, meets_boxContains coerced field hfield hu hw hr]
  have hoverlaps : Geometry.BoxesIn Box.contains g h → Geometry.BoxesIn Box.intersects g h :=
    Geometry.boxesIn_intersects_of_contains hh
  refine ⟨fun l hl => ⟨_, lookupAnswer_geometries coerced field hfield hu hv hr l hl⟩, Iff.rfl,
    Geometry.boxesIn_intersects_comm g h, hoverlaps, fun hcontained => ?_, Geometry.boxesIn_contains_trans,
    Geometry.boxesIn_contains_both hg hh, fun hequal hposition => ?_⟩
  · exact (Geometry.boxesIn_intersects_comm h g).mp (Geometry.boxesIn_intersects_of_contains hg hcontained)
  · have hpositions := Geometry.exists_hasPosition_of_beq hequal hg hh
    have hboth : (∃ p, g.HasPosition p) ∧ ∃ p, h.HasPosition p :=
      hposition.elim (fun hp => ⟨hp, hpositions.mp hp⟩) fun hp => ⟨hpositions.mpr hp, hp⟩
    obtain ⟨hcontains, hcontained⟩ := (Geometry.boxesIn_contains_both hg hh).mpr
      ⟨hboth.1, hboth.2, Geometry.box?_beq_of_beq hequal hg⟩
    exact ⟨hcontains, hoverlaps hcontains, hcontained⟩

end Records

/-- A line around two points around one more. -/
theorem spatial_lookups_coherent_nested :
    let place (x y : Int) : Json := .array [.number (.int x), .number (.int y)]
    let line := Geometry.typed .lineString "coordinates" (.array [place 0 0, place 4 4])
    let points := Geometry.typed .multiPoint "coordinates" (.array [place 1 3, place 3 1])
    let point := Geometry.typed .point "coordinates" (place 2 2)
    let route := Json.object [("home", line)]
    let stops := Json.object [("home", points)]
    Record.value route "home" = Value.ofJson line ∧ Record.value stops "home" = Value.ofJson points ∧
      Meets true "home" .boxContains points route ∧ Meets true "home" .boxContains point stops ∧
      Meets true "home" .boxContains point route ∧ Meets true "home" .contained line stops ∧
      Meets true "home" .boxOverlaps line stops := by
  intro place line points point route stops
  have hroute : Record.value route "home" = Value.ofJson line := rfl
  have hstops : Record.value stops "home" = Value.ofJson points := rfl
  have hpoints : Meets true "home" .boxContains points route := rfl
  have hpoint : Meets true "home" .boxContains point stops := rfl
  obtain ⟨-, -, hoverlaps, hwithin, -, htrans, -⟩ :=
    spatial_lookups_coherent true "home" (by decide) line points point _ _ _ rfl rfl rfl route stops hroute hstops
  obtain ⟨-, hcontained, -⟩ :=
    spatial_lookups_coherent true "home" (by decide) points line point _ _ _ rfl rfl rfl stops route hstops hroute
  exact ⟨hroute, hstops, hpoints, hpoint, htrans hpoints hpoint, hcontained.mpr hpoints,
    hoverlaps.mp (hwithin hpoints)⟩

end RecordQuery
