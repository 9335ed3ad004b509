import RecordQuery.Geometry.Basic
import RecordQuery.Proofs.Attempt
import RecordQuery.Proofs.Number.Bounds

/-! Valid geometries. A check of many parts succeeds where it does on each of them, so all positions of a valid
geometry have two or three finite ordinates, and such a geometry is equal to itself. -/
namespace RecordQuery.Geometry
set_option autoImplicit false

/-! ## Checks of many parts -/

theorem checkAll_eq_ok {α : Type} {check : α → Except Fault Unit} {checkAll : List α → Except Fault Unit}
    (hnil : checkAll [] = .ok ()) (hcons : ∀ x xs, checkAll (x :: xs) = do check x; checkAll xs) (xs : List α) :
    checkAll xs = .ok () ↔ ∀ x ∈ xs, check x = .ok () := by
  induction xs with
  | nil => simp [hnil]
  | cons x xs ih =>
    rw [hcons, bind_eq_ok, List.forall_mem_cons, ← ih]
    constructor
    · rintro ⟨_, hx, hxs⟩
      exact ⟨hx, hxs⟩
    · rintro ⟨hx, hxs⟩
      exact ⟨(), hx, hxs⟩

theorem checkPosition_eq_ok (p : Position) :
    checkPosition p = .ok () ↔ (p.length = 2 ∨ p.length = 3) ∧ ∀ x ∈ p, x.isFinite = true := by
  rw [← List.all_eq_true]
  unfold checkPosition
  split
  · rename_i h
    exact iff_of_true rfl h
  · rename_i h
    exact iff_of_false nofun h

theorem checkPositions_eq_ok (ps : List Position) : checkPositions ps = .ok () ↔ ∀ p ∈ ps, checkPosition p = .ok () :=
  checkAll_eq_ok rfl (fun _ _ => rfl) ps

theorem checkLine_eq_ok (line : List Position) :
    checkLine line = .ok () ↔ 2 ≤ line.length ∧ ∀ p ∈ line, checkPosition p = .ok () := by
  rw [checkLine, ← checkPositions_eq_ok]
  by_cases h : line.length < 2
  · rw [if_pos h]
    exact iff_of_false nofun fun hline => by omega
  · rw [if_neg h]
    exact ⟨fun hline => ⟨by omega, hline⟩, fun hline => hline.2⟩

theorem checkLines_eq_ok (ls : List (List Position)) : checkLines ls = .ok () ↔ ∀ l ∈ ls, checkLine l = .ok () :=
  checkAll_eq_ok rfl (fun _ _ => rfl) ls

theorem checkRing_eq_ok (ring : List Position) :
    checkRing ring = .ok () ↔
      4 ≤ ring.length ∧ (∀ p ∈ ring, checkPosition p = .ok ()) ∧ (ring.head? == ring.getLast?) = true := by
  rw [checkRing, ← checkPositions_eq_ok]
  by_cases h : ring.length < 4
  · rw [if_pos h]
    exact iff_of_false nofun fun hring => by omega
  · rw [if_neg h, bind_eq_ok]
    cases hclosed : ring.head? == ring.getLast? with
    | true =>
      constructor
      · rintro ⟨_, hps, -⟩
        exact ⟨by omega, hps, rfl⟩
      · rintro ⟨-, hps, -⟩
        exact ⟨(), hps, rfl⟩
    | false =>
      refine iff_of_false ?_ fun hring => absurd hring.2.2 nofun
      rintro ⟨_, -, hopen⟩
      exact absurd hopen nofun

theorem checkRings_eq_ok (rs : List (List Position)) : checkRings rs = .ok () ↔ ∀ r ∈ rs, checkRing r = .ok () :=
  checkAll_eq_ok rfl (fun _ _ => rfl) rs

theorem checkPolygons_eq_ok (ps : List (List (List Position))) :
    checkPolygons ps = .ok () ↔ ∀ p ∈ ps, checkRings p = .ok () :=
  checkAll_eq_ok rfl (fun _ _ => rfl) ps

/-! ## Positions of valid geometries -/

theorem positions_of_checkLines (ls : List (List Position)) (h : checkLines ls = .ok ()) :
    ∀ p ∈ ls.flatten, checkPosition p = .ok () := by
  intro p hp
  obtain ⟨l, hl, hp⟩ := List.mem_flatten.mp hp
  have hline := (checkLines_eq_ok ls).mp h l hl
  exact ((checkLine_eq_ok l).mp hline).2 p hp

theorem positions_of_checkRings (rs : List (List Position)) (h : checkRings rs = .ok ()) :
    ∀ p ∈ rs.flatten, checkPosition p = .ok () := by
  intro p hp
  obtain ⟨r, hr, hp⟩ := List.mem_flatten.mp hp
  have hring := (checkRings_eq_ok rs).mp h r hr
  exact ((checkRing_eq_ok r).mp hring).2.1 p hp

theorem positions_of_checkPolygons (ps : List (List (List Position))) (h : checkPolygons ps = .ok ()) :
    ∀ p ∈ ps.flatten.flatten, checkPosition p = .ok () := by
  intro p hp
  obtain ⟨r, hr, hp⟩ := List.mem_flatten.mp hp
  obtain ⟨rs, hrs, hr⟩ := List.mem_flatten.mp hr
  have hrings := (checkPolygons_eq_ok ps).mp h rs hrs
  exact positions_of_checkRings rs hrings p (List.mem_flatten.mpr ⟨r, hr, hp⟩)

mutual

theorem positions_of_check : ∀ g : Geometry, check g = .ok () → ∀ p ∈ positions g, checkPosition p = .ok ()
  | point _, h => List.forall_mem_singleton.mpr h
  | multiPoint ps, h => (checkPositions_eq_ok ps).mp h
  | lineString line, h => ((checkLine_eq_ok line).mp h).2
  | multiLineString lines, h => positions_of_checkLines lines h
  | polygon rings, h => positions_of_checkRings rings h
  | multiPolygon polygons, h => positions_of_checkPolygons polygons h
  | collection gs, h => positionsOf_of_checkMembers gs h

theorem positionsOf_of_checkMembers : ∀ gs : List Geometry, checkMembers gs = .ok () →
    ∀ p ∈ positionsOf gs, checkPosition p = .ok ()
  | [], _ => fun p hp => absurd hp List.not_mem_nil
  | g :: gs, h => by
    rw [checkMembers, bind_eq_ok] at h
    obtain ⟨_, hg, hgs⟩ := h
    rw [positionsOf, List.forall_mem_append]
    exact ⟨positions_of_check g hg, positionsOf_of_checkMembers gs hgs⟩

end

/-! ## Equality -/

theorem beq_self_of_forall {α : Type} [BEq α] (xs : List α) (h : ∀ x ∈ xs, (x == x) = true) : (xs == xs) = true := by
  induction xs with
  | nil => rfl
  | cons x xs ih =>
    obtain ⟨hx, hxs⟩ := List.forall_mem_cons.mp h
    rw [List.cons_beq_cons, hx, ih hxs, Bool.and_self]

theorem beq_self_of_flatten (ls : List (List Position)) (h : ∀ p ∈ ls.flatten, (p == p) = true) :
    (ls == ls) = true :=
  beq_self_of_forall ls fun l hl => beq_self_of_forall l fun p hp => h p (List.mem_flatten.mpr ⟨l, hl, hp⟩)

mutual

theorem equal_self : ∀ g : Geometry, (∀ p ∈ positions g, (p == p) = true) → equal g g = true
  | point p, h => h p List.mem_cons_self
  | multiPoint ps, h => beq_self_of_forall ps h
  | lineString line, h => beq_self_of_forall line h
  | multiLineString lines, h => beq_self_of_flatten lines h
  | polygon rings, h => beq_self_of_flatten rings h
  | multiPolygon polygons, h => by
    refine beq_self_of_forall polygons fun rings hrings => beq_self_of_flatten rings fun p hp => h p ?_
    obtain ⟨ring, hring, hp⟩ := List.mem_flatten.mp hp
    exact List.mem_flatten.mpr ⟨ring, List.mem_flatten.mpr ⟨rings, hrings, hring⟩, hp⟩
  | collection gs, h => equalMembers_self gs h

theorem equalMembers_self : ∀ gs : List Geometry, (∀ p ∈ positionsOf gs, (p == p) = true) → equalMembers gs gs = true
  | [], _ => rfl
  | g :: gs, h => by
    rw [positionsOf, List.forall_mem_append] at h
    rw [equalMembers, equal_self g h.1, equalMembers_self gs h.2, Bool.and_self]

end

theorem beq_self_of_check (g : Geometry) (h : g.check = .ok ()) : (g == g) = true := by
  refine equal_self g fun p hp => beq_self_of_forall p fun x hx => Binary64.beq_self ?_
  have hfinite := ((checkPosition_eq_ok p).mp (positions_of_check g h p hp)).2 x hx
  exact x.not_isNaN_of_isFinite hfinite

end RecordQuery.Geometry
