import RecordQuery.Proofs.Geometry.WrittenForm

/-! Written forms of conditions. An operand is written as an object that begins with its kind, so whatever stands in a
value or a geometry, it is not taken for another operand; conditions are written alike just where they are equal. -/
namespace RecordQuery
set_option autoImplicit false

/-! ## Objects with two members -/

theorem pairJson_beq (firstKey secondKey : String) (v v' w w' : Json) :
    (pairJson firstKey v secondKey w == pairJson firstKey v' secondKey w') = (v == v' && w == w') := by
  change Json.equal (pairJson _ _ _ _) (pairJson _ _ _ _) = (Json.equal v v' && Json.equal w w')
  simp [pairJson, Json.equal, Json.equalMembers]

theorem pairJson_inj {firstKey secondKey : String} {v v' w w' : Json}
    (h : pairJson firstKey v secondKey w = pairJson firstKey v' secondKey w') : v = v' ∧ w = w' := by
  simpa [pairJson] using h

theorem string_beq (s t : String) : (Json.string s == Json.string t) = decide (s = t) := rfl

/-- Behind one and the same tag only the second members count. -/
theorem tagged_beq (key tag second : String) (w w' : Json) :
    (pairJson key (.string tag) second w == pairJson key (.string tag) second w') = (w == w') := by
  rw [pairJson_beq, string_beq, decide_eq_true rfl, Bool.true_and]

/-! ## Equality and validity -/

mutual

/-- Equality of operands, with values and geometries compared by their own equality. -/
def Operand.equal : Operand → Operand → Bool
  | .literal v, .literal w => v == w
  | .geometry g, .geometry h => g == h
  | .field p, .field q => decide (p = q)
  | .group cs, .group ds => equalConditions cs ds
  | _, _ => false

def equalConditions : List (String × Operand) → List (String × Operand) → Bool
  | [], [] => true
  | (p, o) :: cs, (q, w) :: ds => decide (p = q) && o.equal w && equalConditions cs ds
  | _, _ => false

end

instance : BEq Operand := ⟨Operand.equal⟩

mutual

/-- Every geometry in an operand is valid. -/
def Operand.IsValid : Operand → Prop
  | .literal _ => True
  | .geometry g => g.check = .ok ()
  | .field _ => True
  | .group cs => ValidConditions cs

def ValidConditions : List (String × Operand) → Prop
  | [] => True
  | (_, o) :: cs => o.IsValid ∧ ValidConditions cs

end

theorem validConditions_iff (cs : List (String × Operand)) : ValidConditions cs ↔ ∀ c ∈ cs, c.2.IsValid := by
  induction cs with
  | nil => exact iff_of_true trivial nofun
  | cons c cs ih => rw [ValidConditions, ih, List.forall_mem_cons]

theorem Operand.isValid_coerceIf (geometries : Bool) (value : Json) : (coerceIf geometries value).IsValid := by
  rw [coerceIf, coerce]
  split
  · split
    · rename_i g hg
      exact ((Geometry.ofJson_eq_ok value g).mp hg).2.2
    · trivial
  · trivial

/-! ## Written operands -/

mutual

theorem Operand.toJson_beq : ∀ o w : Operand, o.IsValid → w.IsValid → (o.toJson == w.toJson) = (o == w)
  | .literal v, w, _, _ => by
    cases w with
    | literal w => exact tagged_beq _ _ _ v w
    | _ => rfl
  | .geometry g, w, hg, hw => by
    cases w with
    | geometry h => exact (tagged_beq _ _ _ _ _).trans (Geometry.toJson_beq hg hw)
    | _ => rfl
  | .field p, w, _, _ => by
    cases w with
    | field q => exact tagged_beq _ _ _ (.string p) (.string q)
    | _ => rfl
  | .group cs, w, hcs, hw => by
    cases w with
    | group ds => exact (tagged_beq _ _ _ _ _).trans (conditionsJson_beq cs ds hcs hw)
    | _ => rfl

theorem conditionsJson_beq : ∀ cs ds : List (String × Operand), ValidConditions cs → ValidConditions ds →
    Json.equalItems (conditionsJson cs) (conditionsJson ds) = equalConditions cs ds
  | [], ds, _, _ => by cases ds <;> rfl
  | (p, o) :: cs, ds, hcs, hds => by
    cases ds with
    | nil => rfl
    | cons d ds =>
      obtain ⟨q, w⟩ := d
      rw [conditionsJson, conditionsJson, Json.equalItems, equalConditions, conditionsJson_beq cs ds hcs.2 hds.2]
      have hpair := pairJson_beq "path" "operand" (.string p) (.string q) o.toJson w.toJson
      rw [string_beq, o.toJson_beq w hcs.1 hds.1] at hpair
      exact congrArg (· && equalConditions cs ds) hpair

end

theorem Operand.beq_of_toJson (o w : Operand) (ho : o.IsValid) (hw : w.IsValid) (h : o.toJson = w.toJson) :
    (o == w) = true := by
  rw [← o.toJson_beq w ho hw, Json.beq_iff, h]

-- operands of different kinds are unequal, so by their written forms only those of one kind remain
mutual

theorem Operand.toJson_inj : ∀ o w : Operand, o.IsValid → w.IsValid → o.toJson = w.toJson → o = w
  | .literal v, w, ho, hw, h => by
    have hbeq := Operand.beq_of_toJson (.literal v) w ho hw h
    cases w with
    | literal w => exact congrArg Operand.literal (pairJson_inj h).2
    | _ => exact absurd hbeq Bool.false_ne_true
  | .geometry g, w, ho, hw, h => by
    have hbeq := Operand.beq_of_toJson (.geometry g) w ho hw h
    cases w with
    | geometry h' => exact congrArg Operand.geometry (Geometry.toJson_inj ho hw (pairJson_inj h).2)
    | _ => exact absurd hbeq Bool.false_ne_true
  | .field p, w, ho, hw, h => by
    have hbeq := Operand.beq_of_toJson (.field p) w ho hw h
    cases w with
    | field q => exact congrArg Operand.field (Json.string.inj (pairJson_inj h).2)
    | _ => exact absurd hbeq Bool.false_ne_true
  | .group cs, w, ho, hw, h => by
    have hbeq := Operand.beq_of_toJson (.group cs) w ho hw h
    cases w with
    | group ds => exact congrArg Operand.group (conditionsJson_inj cs ds ho hw (Json.array.inj (pairJson_inj h).2))
    | _ => exact absurd hbeq Bool.false_ne_true

theorem conditionsJson_inj : ∀ cs ds : List (String × Operand), ValidConditions cs → ValidConditions ds →
    conditionsJson cs = conditionsJson ds → cs = ds
  | [], [], _, _, _ => rfl
  | [], _ :: _, _, _, h => absurd h nofun
  | _ :: _, [], _, _, h => absurd h nofun
  | (p, o) :: cs, (q, w) :: ds, hcs, hds, h => by
    obtain ⟨hpair, hrest⟩ := List.cons.inj h
    obtain ⟨hpath, hoperand⟩ := pairJson_inj hpair
    rw [Json.string.inj hpath, o.toJson_inj w hcs.1 hds.1 hoperand, conditionsJson_inj cs ds hcs.2 hds.2 hrest]

end

end RecordQuery
