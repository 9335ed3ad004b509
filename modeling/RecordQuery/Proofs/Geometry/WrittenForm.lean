import RecordQuery.Proofs.Geometry.Canonical
import RecordQuery.Proofs.Geometry.RoundTrip
import RecordQuery.Proofs.Json.Canonical

/-! Written forms of geometries. Signs of zero pass through writing, so valid geometries are written alike just where
they are equal, and in the same way only if they are the same. -/
namespace RecordQuery
set_option autoImplicit false

theorem Json.ofBinary64_canonical (x : Binary64) : ofBinary64 x.canonical = (ofBinary64 x).canonical := by
  rw [ofBinary64, ofBinary64, Binary64.finite?, Binary64.finite?]
  by_cases hx : x.isFinite = true
  · rw [dif_pos hx, dif_pos (x.isFinite_canonical.trans hx)]
    rfl
  · rw [dif_neg hx, dif_neg (x.isFinite_canonical.symm ▸ hx)]
    rfl

/-- A list is written item by item, and so are its signs of zero. -/
theorem Json.array_map_canonical {α : Type} {f : α → α} {write : α → Json}
    (h : ∀ x, write (f x) = (write x).canonical) (xs : List α) :
    array ((xs.map f).map write) = (array (xs.map write)).canonical := by
  rw [canonical, canonicalItems_eq, List.map_map, List.map_map]
  exact congrArg array (List.map_congr_left fun x _ => h x)

namespace Geometry

theorem positionJson_canonical (p : Position) : positionJson (canonicalPosition p) = (positionJson p).canonical :=
  Json.array_map_canonical Json.ofBinary64_canonical p

theorem positionsJson_canonical (ps : List Position) :
    positionsJson (ps.map canonicalPosition) = (positionsJson ps).canonical :=
  Json.array_map_canonical positionJson_canonical ps

theorem linesJson_canonical (ls : List (List Position)) :
    linesJson (ls.map (List.map canonicalPosition)) = (linesJson ls).canonical :=
  Json.array_map_canonical positionsJson_canonical ls

theorem typed_canonical (type : GeometryType) (key : String) (value : Json) :
    (typed type key value).canonical = typed type key value.canonical := rfl

mutual

theorem toJson_canonical : ∀ g : Geometry, g.canonical.toJson = g.toJson.canonical
  | point p => by rw [canonical, toJson, toJson, typed_canonical, positionJson_canonical]
  | multiPoint ps => by rw [canonical, toJson, toJson, typed_canonical, positionsJson_canonical]
  | lineString line => by rw [canonical, toJson, toJson, typed_canonical, positionsJson_canonical]
  | multiLineString lines => by rw [canonical, toJson, toJson, typed_canonical, linesJson_canonical]
  | polygon rings => by rw [canonical, toJson, toJson, typed_canonical, linesJson_canonical]
  | multiPolygon polygons => by
    rw [canonical, toJson, toJson, typed_canonical, Json.array_map_canonical linesJson_canonical]
  | collection gs => by rw [canonical, toJson, toJson, typed_canonical, Json.canonical, membersJson_canonical gs]

theorem membersJson_canonical : ∀ gs : List Geometry,
    membersJson (canonicalEach gs) = Json.canonicalItems (membersJson gs)
  | [] => rfl
  | g :: gs => by
    rw [canonicalEach, membersJson, membersJson, Json.canonicalItems, toJson_canonical g, membersJson_canonical gs]

end

theorem beq_iff_canonical (g h : Geometry) (hh : h.check = .ok ()) :
    (g == h) = true ↔ g.canonical = h.canonical := by
  refine ⟨canonical_eq_of_equal g h, fun hcanonical => ?_⟩
  change equal g h = true
  rw [← equal_canonical_left, hcanonical, equal_canonical_left]
  exact h.beq_self_of_check hh

variable {g h : Geometry} (hg : g.check = .ok ()) (hh : h.check = .ok ())

include hg hh

theorem toJson_inj (heq : g.toJson = h.toJson) : g = h := by
  have hread := ofJson_toJson g hg
  rw [heq, ofJson_toJson h hh] at hread
  exact (Except.ok.inj hread).symm

theorem toJson_beq : (g.toJson == h.toJson) = (g == h) := by
  rw [Bool.eq_iff_iff, Json.beq_iff, ← toJson_canonical, ← toJson_canonical, beq_iff_canonical g h hh]
  exact ⟨toJson_inj (g.check_canonical.trans hg) (h.check_canonical.trans hh), congrArg toJson⟩

end Geometry

end RecordQuery
