import Mathlib.Data.List.Forall2
import RecordQuery.Geometry.Reader
import RecordQuery.Proofs.Attempt

/-! Collections and their members. A collection is read where each of its members is, but members may be written in
ways that the outermost geometry may not: as lists, and with numbers for types. -/
namespace RecordQuery.Geometry
set_option autoImplicit false

/-! ## Members -/

/-- Whether a value is an object that names its type. -/
def namesType : Json → Bool
  | .object ms => (Json.member? "type" ms).any (·.string?.isSome)
  | _ => false

/-- A value serves as a member of a collection and gives a valid geometry. -/
def ServesAs (j : Json) (g : Geometry) : Prop := readMember j = .ok g ∧ g.check = .ok ()

theorem forall₂_servesAs (js : List Json) (gs : List Geometry) :
    List.Forall₂ ServesAs js gs ↔ readMembers js = .ok gs ∧ checkMembers gs = .ok () := by
  induction js generalizing gs with
  | nil =>
    rw [readMembers, List.forall₂_nil_left_iff]
    constructor
    · rintro rfl
      exact ⟨rfl, rfl⟩
    · rintro ⟨h, _⟩
      exact (Except.ok.inj h).symm
  | cons j js ih =>
    rw [List.forall₂_cons_left_iff]
    constructor
    · rintro ⟨g, hs, ⟨hg, hcheck⟩, hrest, rfl⟩
      obtain ⟨hread, hchecks⟩ := (ih hs).mp hrest
      rw [readMembers, checkMembers, hg, hread, hcheck, hchecks]
      exact ⟨rfl, rfl⟩
    · rintro ⟨hread, hcheck⟩
      rw [readMembers, bind_eq_ok] at hread
      obtain ⟨g, hg, hread⟩ := hread
      rw [bind_eq_ok] at hread
      obtain ⟨hs, hhs, heq⟩ := hread
      obtain rfl := Except.ok.inj heq
      rw [checkMembers, bind_eq_ok] at hcheck
      obtain ⟨_, hgcheck, hchecks⟩ := hcheck
      exact ⟨g, hs, ⟨hg, hgcheck⟩, (ih hs).mpr ⟨hhs, hchecks⟩, rfl⟩

/-! ## Outermost geometries -/

theorem ofJson_object (ms : List (String × Json)) (g : Geometry) :
    ofJson (.object ms) = .ok g ↔ readOuter ms = .ok g ∧ g.check = .ok () := by
  rw [ofJson, bind_eq_ok]
  constructor
  · rintro ⟨h, hread, hcheck⟩
    rw [bind_eq_ok] at hcheck
    obtain ⟨_, hcheck, heq⟩ := hcheck
    obtain rfl := Except.ok.inj heq
    exact ⟨(mapError_eq_ok _ _ _).mp hread, (mapError_eq_ok _ _ _).mp hcheck⟩
  · rintro ⟨hread, hcheck⟩
    exact ⟨g, by rw [hread]; rfl, by rw [hcheck]; rfl⟩

/-- Once the type is named, an object is read alike as a member and by itself. -/
theorem readOuter_eq (ms : List (String × Json)) :
    (namesType (.object ms) = true ∧ readOuter ms = readMember (.object ms)) ∨
    (namesType (.object ms) = false ∧ ∃ why, readOuter ms = .error why) := by
  rw [namesType, readOuter, readMember]
  cases Json.member? "type" ms with
  | none => exact .inr ⟨rfl, _, rfl⟩
  | some t =>
    cases t with
    | string name => exact .inl ⟨rfl, rfl⟩
    | _ => exact .inr ⟨rfl, _, rfl⟩

/-- A value is a geometry by itself where it names its type and serves as a member. -/
theorem ofJson_eq_ok (j : Json) (g : Geometry) : ofJson j = .ok g ↔ namesType j = true ∧ ServesAs j g := by
  cases j with
  | object ms =>
    rw [ofJson_object, ServesAs]
    rcases readOuter_eq ms with ⟨hnames, hread⟩ | ⟨hnames, why, hread⟩
    · rw [hnames, hread]
      exact ⟨fun h => ⟨rfl, h⟩, fun h => h.2⟩
    · rw [hnames, hread]
      exact ⟨fun h => absurd h.1 nofun, fun h => absurd h.1 nofun⟩
  | _ => exact ⟨nofun, fun h => absurd h.1 nofun⟩

theorem forall₂_ofJson (js : List Json) (gs : List Geometry) :
    List.Forall₂ (fun j g => ofJson j = .ok g) js gs ↔
      (∀ j ∈ js, namesType j = true) ∧ List.Forall₂ ServesAs js gs := by
  simp only [ofJson_eq_ok]
  exact List.forall₂_and_left _ _

/-! ## Collections -/

theorem ofJson_collection (js : List Json) (g : Geometry) :
    ofJson (typed .collection "geometries" (.array js)) = .ok g ↔
      ∃ gs, g = collection gs ∧ List.Forall₂ ServesAs js gs := by
  have houter : readOuter [("type", .string GeometryType.collection.name), ("geometries", .array js)] =
      collection <$> readMembers js := rfl
  rw [typed, ofJson_object, houter]
  constructor
  · rintro ⟨hread, hcheck⟩
    obtain ⟨gs, hgs, rfl⟩ := (map_eq_ok _ _ _).mp hread
    exact ⟨gs, rfl, (forall₂_servesAs js gs).mpr ⟨hgs, hcheck⟩⟩
  · rintro ⟨gs, rfl, hgs⟩
    obtain ⟨hread, hcheck⟩ := (forall₂_servesAs js gs).mp hgs
    exact ⟨(map_eq_ok _ _ _).mpr ⟨gs, hread, rfl⟩, hcheck⟩

/-- What the members of a collection give by themselves makes the collection. Nothing else does, unless a member that
does not name its type serves. -/
theorem collection_of_members (js : List Json) :
    (∀ gs, List.Forall₂ (fun j g => ofJson j = .ok g) js gs →
      ofJson (typed .collection "geometries" (.array js)) = .ok (collection gs)) ∧
    ((∀ g, ofJson (typed .collection "geometries" (.array js)) = .ok g →
      ∃ gs, g = collection gs ∧ List.Forall₂ (fun j g => ofJson j = .ok g) js gs) ↔
    ((∃ g, ofJson (typed .collection "geometries" (.array js)) = .ok g) → ∀ j ∈ js, namesType j = true)) := by
  simp only [ofJson_collection, forall₂_ofJson]
  refine ⟨fun gs hgs => ⟨gs, rfl, hgs.2⟩, ?_, ?_⟩
  · rintro h ⟨g, hg⟩
    obtain ⟨_, _, hnames, _⟩ := h g hg
    exact hnames
  · rintro h g ⟨gs, rfl, hgs⟩
    exact ⟨gs, rfl, h ⟨_, gs, rfl, hgs⟩, hgs⟩

/-- A list that begins with a type is no geometry, but serves as a member. -/
theorem collection_of_list :
    (∃ g, ofJson (typed .collection "geometries"
      (.array [.array [.string "Point", .array [.number (.int 1), .number (.int 2)]]])) = .ok g) ∧
    ofJson (.array [.string "Point", .array [.number (.int 1), .number (.int 2)]]) = .error .notAnObject := by
  exact ⟨⟨collection [point [Binary64.ofInt 1, Binary64.ofInt 2]], rfl⟩, rfl⟩

end RecordQuery.Geometry
