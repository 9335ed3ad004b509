import RecordQuery.Geometry.Box
import RecordQuery.Proofs.Geometry.Validity

/-! Boxes of valid geometries. The first position gives a box whose bounds are in order, and no further one puts them
out of it; in every relation that boxes can have, such a box has it to itself. -/
namespace RecordQuery
set_option autoImplicit false

namespace Box

/-- The bounds are numbers, and in order. -/
structure IsProper (b : Box) : Prop where
  width : b.minX.le b.maxX = true
  height : b.minY.le b.maxY = true

/-! ## Relations of a box to itself -/

section Relations

variable {b : Box} (h : b.IsProper)

include h

theorem IsProper.contains_self : b.contains b = true := by
  obtain ⟨hminX, hmaxX, -⟩ := Binary64.le_eq_true.mp h.width
  obtain ⟨hminY, hmaxY, -⟩ := Binary64.le_eq_true.mp h.height
  rw [contains, Binary64.le_self hminX, Binary64.le_self hminY, Binary64.le_self hmaxX, Binary64.le_self hmaxY]
  rfl

theorem IsProper.intersects_self : b.intersects b = true := by
  rw [intersects, h.width, h.height]
  rfl

end Relations

/-! ## Boxes of positions -/

section Growth

variable {x y : Binary64} (hx : x.isNaN = false) (hy : y.isNaN = false)

include hx hy

theorem isProper_point : (point x y).IsProper := ⟨Binary64.le_self hx, Binary64.le_self hy⟩

theorem IsProper.extend {b : Box} (h : b.IsProper) : (b.extend x y).IsProper :=
  ⟨Binary64.min_le_max h.width hx, Binary64.min_le_max h.height hy⟩

end Growth

end Box

namespace Geometry

theorem plane_of_checkPosition (p : Position) (h : checkPosition p = .ok ()) :
    ∃ x y rest, p = x :: y :: rest ∧ x.isNaN = false ∧ y.isNaN = false := by
  obtain ⟨hlength, hfinite⟩ := (checkPosition_eq_ok p).mp h
  match p with
  | [] | [_] => exact absurd hlength (by simp)
  | x :: y :: rest =>
    have hx := hfinite x List.mem_cons_self
    have hy := hfinite y (List.mem_cons_of_mem x List.mem_cons_self)
    exact ⟨x, y, rest, rfl, x.not_isNaN_of_isFinite hx, y.not_isNaN_of_isFinite hy⟩

theorem isProper_foldl (ps : List Position) (h : ∀ p ∈ ps, checkPosition p = .ok ()) (b : Box) (hb : b.IsProper) :
    ∃ c, ps.foldl Box.addPosition (some b) = some c ∧ c.IsProper := by
  induction ps generalizing b with
  | nil => exact ⟨b, rfl, hb⟩
  | cons p ps ih =>
    obtain ⟨hp, hps⟩ := List.forall_mem_cons.mp h
    obtain ⟨x, y, rest, rfl, hx, hy⟩ := plane_of_checkPosition p hp
    exact ih hps (b.extend x y) (hb.extend hx hy)

/-- A valid geometry has a box unless it has no position at all. -/
theorem box?_of_check (g : Geometry) (h : g.check = .ok ()) (hpositions : g.positions ≠ []) :
    ∃ b, g.box? = some b ∧ b.IsProper := by
  obtain ⟨p, ps, hg⟩ := List.exists_cons_of_ne_nil hpositions
  have hchecks := positions_of_check g h
  rw [hg] at hchecks
  obtain ⟨hp, hps⟩ := List.forall_mem_cons.mp hchecks
  obtain ⟨x, y, rest, rfl, hx, hy⟩ := plane_of_checkPosition p hp
  rw [box?, hg]
  exact isProper_foldl ps hps (Box.point x y) (Box.isProper_point hx hy)

end Geometry

end RecordQuery
