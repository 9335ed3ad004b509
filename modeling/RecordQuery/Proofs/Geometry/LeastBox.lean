import Mathlib.Tactic.Tauto
import RecordQuery.Proofs.Geometry.Box
import RecordQuery.Proofs.Geometry.Collection
import RecordQuery.Proofs.Geometry.Parts

/-! The box of a geometry is the least one that covers its positions. Growing a box joins it with a point, so a box
contains what was grown where it contains what there was before and the point; over all positions this says which boxes
contain the box of the geometry, and nothing else decides what that box is. -/
namespace RecordQuery
set_option autoImplicit false

namespace Box

/-! ## The order of boxes -/

theorem contains_eq_true {b c : Box} :
    b.contains c = true ↔
      b.minX.le c.minX = true ∧ b.minY.le c.minY = true ∧ c.maxX.le b.maxX = true ∧ c.maxY.le b.maxY = true := by
  simp only [contains, Bool.and_eq_true, and_assoc]

theorem contains_trans {b c d : Box} (hbc : b.contains c = true) (hcd : c.contains d = true) :
    b.contains d = true := by
  obtain ⟨hminX, hminY, hmaxX, hmaxY⟩ := contains_eq_true.mp hbc
  obtain ⟨hminX', hminY', hmaxX', hmaxY'⟩ := contains_eq_true.mp hcd
  exact contains_eq_true.mpr ⟨Binary64.le_trans hminX hminX', Binary64.le_trans hminY hminY',
    Binary64.le_trans hmaxX' hmaxX, Binary64.le_trans hmaxY' hmaxY⟩

/-- Boxes are equal where each contains the other. -/
theorem beq_iff_contains {b c : Box} : (b == c) = true ↔ b.contains c = true ∧ c.contains b = true := by
  change b.equal c = true ↔ _
  simp only [equal, Bool.and_eq_true, Binary64.beq_iff_le, contains_eq_true]
  tauto

theorem intersects_comm (b c : Box) : b.intersects c = c.intersects b := by
  rw [intersects, intersects, Bool.and_comm (b.minX.le c.maxX), Bool.and_assoc (_ && _),
    Bool.and_comm (b.minY.le c.maxY), ← Bool.and_assoc]

/-- A box whose bounds are in order shares a point with every box that contains it. -/
theorem intersects_of_contains {b c : Box} (hc : c.IsProper) (h : b.contains c = true) : b.intersects c = true := by
  obtain ⟨hminX, hminY, hmaxX, hmaxY⟩ := contains_eq_true.mp h
  rw [intersects, Binary64.le_trans hminX hc.width, Binary64.le_trans hc.width hmaxX,
    Binary64.le_trans hminY hc.height, Binary64.le_trans hc.height hmaxY]
  rfl

/-- A grown box is the join of the box and the point. -/
theorem contains_extend {b c : Box} {x y : Binary64} (h : c.IsProper) (hx : x.isNaN = false) (hy : y.isNaN = false) :
    b.contains (c.extend x y) = true ↔ b.contains c = true ∧ b.contains (point x y) = true := by
  obtain ⟨hminX, hmaxX, -⟩ := Binary64.le_eq_true.mp h.width
  obtain ⟨hminY, hmaxY, -⟩ := Binary64.le_eq_true.mp h.height
  simp only [contains_eq_true, extend, point, Binary64.le_min_iff hminX hx, Binary64.le_min_iff hminY hy,
    Binary64.max_le_iff hmaxX hx, Binary64.max_le_iff hmaxY hy]
  tauto

/-! ## Positions in a box -/

/-- The point that the first two ordinates of a position give lies in the box. -/
def Covers (b : Box) (p : Position) : Prop := ∃ x y rest, p = x :: y :: rest ∧ b.contains (point x y) = true

theorem covers_cons {b : Box} {x y : Binary64} {rest : Position} :
    b.Covers (x :: y :: rest) ↔ b.contains (point x y) = true := by
  constructor
  · rintro ⟨_, _, _, ⟨⟩, h⟩
    exact h
  · intro h
    exact ⟨x, y, rest, rfl, h⟩

/-- A box contains what positions make of a proper box where it contains that box and covers the positions. -/
theorem contains_foldl (ps : List Position) (h : ∀ p ∈ ps, Geometry.checkPosition p = .ok ()) (start grown b : Box)
    (hstart : start.IsProper) (hgrown : ps.foldl addPosition (some start) = some grown) :
    b.contains grown = true ↔ b.contains start = true ∧ ∀ p ∈ ps, b.Covers p := by
  induction ps generalizing start with
  | nil =>
    obtain rfl := Option.some.inj hgrown
    exact (and_iff_left fun p hp => absurd hp List.not_mem_nil).symm
  | cons p ps ih =>
    obtain ⟨hp, hps⟩ := List.forall_mem_cons.mp h
    obtain ⟨x, y, rest, rfl, hx, hy⟩ := Geometry.plane_of_checkPosition p hp
    rw [ih hps (start.extend x y) (hstart.extend hx hy) hgrown, contains_extend hstart hx hy, List.forall_mem_cons,
      covers_cons, and_assoc]

end Box

namespace Geometry

/-! ## The box of a geometry -/

section Valid

variable {g : Geometry} (h : g.check = .ok ())

include h

/-- Only a geometry without positions has no box. -/
theorem box?_eq_none : g.box? = none ↔ ∀ p, ¬g.HasPosition p := by
  have hpositions : (∀ p, ¬g.HasPosition p) ↔ g.positions = [] := by
    simp only [← mem_positions, List.eq_nil_iff_forall_not_mem]
  rw [hpositions]
  constructor
  · intro hnone
    by_contra hne
    obtain ⟨b, hb, -⟩ := g.box?_of_check h hne
    exact absurd (hnone.symm.trans hb) nofun
  · intro hnil
    rw [box?, hnil]
    rfl

omit h in
theorem positions_ne_nil_of_box? {b : Box} (hb : g.box? = some b) : g.positions ≠ [] := by
  intro hnil
  rw [box?, hnil] at hb
  exact Option.some_ne_none b hb.symm

theorem isProper_box? {b : Box} (hb : g.box? = some b) : b.IsProper := by
  obtain ⟨c, hc, hproper⟩ := g.box?_of_check h (positions_ne_nil_of_box? hb)
  obtain rfl := Option.some.inj (hb.symm.trans hc)
  exact hproper

/-- The boxes that contain the box of a geometry are those that cover its positions. -/
theorem contains_box?_iff {b c : Box} (hb : g.box? = some b) :
    c.contains b = true ↔ ∀ p, g.HasPosition p → c.Covers p := by
  obtain ⟨p, ps, hg⟩ := List.exists_cons_of_ne_nil (positions_ne_nil_of_box? hb)
  have hchecks := positions_of_check g h
  rw [hg] at hchecks
  obtain ⟨hp, hps⟩ := List.forall_mem_cons.mp hchecks
  obtain ⟨x, y, rest, rfl, hx, hy⟩ := plane_of_checkPosition p hp
  rw [box?, hg] at hb
  simp only [← mem_positions]
  rw [hg, Box.contains_foldl ps hps (Box.point x y) b c (Box.isProper_point hx hy) hb, List.forall_mem_cons,
    Box.covers_cons]

end Valid

/-- Valid geometries with the same positions, in whatever order and grouping, have the same box. -/
theorem box?_congr {g k : Geometry} (hg : g.check = .ok ()) (hk : k.check = .ok ())
    (h : ∀ p, g.HasPosition p ↔ k.HasPosition p) : (g.box? == k.box?) = true := by
  have hnone : g.box? = none ↔ k.box? = none := by
    rw [box?_eq_none hg, box?_eq_none hk]
    simp only [h]
  cases hb : g.box? with
  | none =>
    rw [hnone.mp hb]
    rfl
  | some b =>
    cases hc : k.box? with
    | none => exact absurd ((hnone.mpr hc).symm.trans hb) nofun
    | some c =>
      -- each box covers the positions of its own geometry, so those of the other as well
      have hcovers := (contains_box?_iff hg hb).mp (isProper_box? hg hb).contains_self
      have hcovers' := (contains_box?_iff hk hc).mp (isProper_box? hk hc).contains_self
      have hbc : b.contains c = true := (contains_box?_iff hk hc).mpr fun p hp => hcovers p ((h p).mpr hp)
      have hcb : c.contains b = true := (contains_box?_iff hg hb).mpr fun p hp => hcovers' p ((h p).mp hp)
      exact Box.beq_iff_contains.mpr ⟨hbc, hcb⟩

/-- The box of a geometry that was read covers every position in it, and is contained in every box that does; there is
none only where there is no position. Geometries with the same positions have the same box. -/
theorem box_least (j : Json) (g : Geometry) (h : ofJson j = .ok g) :
    (g.box? = none ↔ ∀ p, ¬g.HasPosition p) ∧
    (∀ b, g.box? = some b →
      (∀ p, g.HasPosition p → b.Covers p) ∧
      ∀ c : Box, (∀ p, g.HasPosition p → c.Covers p) → c.contains b = true) ∧
    ∀ (i : Json) (k : Geometry), ofJson i = .ok k → (∀ p, g.HasPosition p ↔ k.HasPosition p) →
      (g.box? == k.box?) = true := by
  have hcheck : g.check = .ok () := ((ofJson_eq_ok j g).mp h).2.2
  refine ⟨box?_eq_none hcheck, fun b hb => ⟨?_, fun c hc => ?_⟩, fun i k hk hsame => ?_⟩
  · exact (contains_box?_iff hcheck hb).mp (isProper_box? hcheck hb).contains_self
  · exact (contains_box?_iff hcheck hb).mpr hc
  · exact box?_congr hcheck ((ofJson_eq_ok i k).mp hk).2.2 hsame

/-- A point beside a line that has a height at one end. -/
def pointAndLine : Geometry :=
  let place (x y : Int) : Position := [Binary64.ofInt x, Binary64.ofInt y]
  collection [point (place 3 1), lineString [place 0 2, place 1 1 ++ [Binary64.ofInt 5]]]

/-- The same positions in another order, all in one. -/
def scatteredPoints : Geometry := multiPoint pointAndLine.positions.reverse

theorem box_least_pointAndLine :
    let b : Box := ⟨Binary64.ofInt 0, Binary64.ofInt 1, Binary64.ofInt 3, Binary64.ofInt 2⟩
    let c : Box := ⟨Binary64.ofInt (-1), Binary64.ofInt 1, Binary64.ofInt 4, Binary64.ofInt 2⟩
    ofJson pointAndLine.toJson = .ok pointAndLine ∧ pointAndLine.box? = some b ∧
      b.Covers [Binary64.ofInt 1, Binary64.ofInt 1, Binary64.ofInt 5] ∧ c.contains b = true ∧
      (pointAndLine.box? == scatteredPoints.box?) = true := by
  intro b c
  have hread : ofJson pointAndLine.toJson = .ok pointAndLine := rfl
  have hread' : ofJson scatteredPoints.toJson = .ok scatteredPoints := rfl
  have hbox : pointAndLine.box? = some b := rfl
  have hsame : ∀ p, pointAndLine.HasPosition p ↔ scatteredPoints.HasPosition p := by
    intro p
    rw [← mem_positions, ← mem_positions]
    exact List.mem_reverse.symm
  obtain ⟨-, hleast, hgrouping⟩ := box_least pointAndLine.toJson pointAndLine hread
  obtain ⟨hcovers, hcontained⟩ := hleast b hbox
  refine ⟨hread, hbox, hcovers _ ((mem_positions _ _).mp ?_), hcontained c ?_, hgrouping _ _ hread' hsame⟩
  · exact List.mem_cons_of_mem _ (List.mem_cons_of_mem _ List.mem_cons_self)
  · intro p hp
    have hp := (mem_positions _ _).mpr hp
    obtain rfl | rfl | rfl : p = _ ∨ p = _ ∨ p = _ := by simpa [pointAndLine, positions, positionsOf] using hp
    all_goals exact Box.covers_cons.mpr (by decide)

end Geometry

end RecordQuery
