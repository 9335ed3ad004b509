import RecordQuery.Builder

/-! Attempts: results that may be an error. A chain of attempts gives what its last one gives, and the error of
the first that fails. -/
namespace RecordQuery
set_option autoImplicit false

universe u v
variable {ε : Type u} {α β : Type v}

@[simp] theorem ok_bind (a : α) (f : α → Except ε β) : (Except.ok a >>= f) = f a := rfl

@[simp] theorem error_bind (e : ε) (f : α → Except ε β) : (Except.error e >>= f) = .error e := rfl

@[simp] theorem map_ok (a : α) (f : α → β) : (Except.ok a : Except ε α).map f = .ok (f a) := rfl

@[simp] theorem map_error (e : ε) (f : α → β) : (Except.error e : Except ε α).map f = .error e := rfl

theorem bind_eq_ok (x : Except ε α) (f : α → Except ε β) (b : β) :
    (x >>= f) = .ok b ↔ ∃ a, x = .ok a ∧ f a = .ok b := by
  cases x <;> simp

theorem map_eq_ok (x : Except ε α) (f : α → β) (b : β) : x.map f = .ok b ↔ ∃ a, x = .ok a ∧ f a = b := by
  cases x <;> simp

theorem map_eq_error (x : Except ε α) (f : α → β) (e : ε) : x.map f = .error e ↔ x = .error e := by
  cases x <;> simp

theorem mapError_eq_ok {ζ : Type u} (x : Except ε α) (f : ε → ζ) (a : α) : x.mapError f = .ok a ↔ x = .ok a := by
  cases x with
  | ok b => exact ⟨fun h => congrArg Except.ok (Except.ok.inj h), fun h => congrArg Except.ok (Except.ok.inj h)⟩
  | error e => exact ⟨nofun, nofun⟩

theorem succeeds_iff (x : Except ε PUnit.{v+1}) : (∃ a, x = .ok a) ↔ x = .ok PUnit.unit :=
  ⟨fun ⟨_, h⟩ => h, fun h => ⟨_, h⟩⟩

/-! ## One item after another -/

/-- Items that are tried one after another fail as the first of them that fails. -/
theorem eq_error_iff_first {ι : Type} {f : ι → Except ε α} {F : List ι → Except ε β} (hnil : ∀ e, F [] ≠ .error e)
    (hcons : ∀ x xs e, F (x :: xs) = .error e ↔ f x = .error e ∨ (∃ a, f x = .ok a) ∧ F xs = .error e)
    (xs : List ι) (e : ε) :
    F xs = .error e ↔
      ∃ before x after, xs = before ++ x :: after ∧ (∀ y ∈ before, ∃ a, f y = .ok a) ∧ f x = .error e := by
  induction xs with
  | nil =>
    refine iff_of_false (hnil e) ?_
    rintro ⟨before, x, after, hsplit, -⟩
    exact List.append_ne_nil_of_right_ne_nil before (List.cons_ne_nil x after) hsplit.symm
  | cons x xs ih =>
    rw [hcons, ih]
    constructor
    · rintro (hx | ⟨hx, before, y, after, rfl, hbefore, hy⟩)
      · exact ⟨[], x, xs, rfl, nofun, hx⟩
      · exact ⟨x :: before, y, after, rfl, List.forall_mem_cons.mpr ⟨hx, hbefore⟩, hy⟩
    · rintro ⟨before, y, after, hsplit, hbefore, hy⟩
      rcases List.cons_eq_append_iff.mp hsplit with ⟨rfl, heq⟩ | ⟨rest, rfl, rfl⟩
      · obtain ⟨rfl, -⟩ := List.cons.inj heq
        exact .inl hy
      · obtain ⟨hx, hrest⟩ := List.forall_mem_cons.mp hbefore
        exact .inr ⟨hx, rest, y, after, rfl, hrest, hy⟩

/-! ## Kinds of errors -/

/-- Every error that an attempt may give has a property. -/
def FailsAs (P : ε → Prop) (x : Except ε α) : Prop := ∀ e, x = .error e → P e

variable {P : ε → Prop}

theorem failsAs_ok (a : α) : FailsAs P (.ok a) := nofun

theorem failsAs_error {e : ε} (h : P e) : FailsAs P (.error e : Except ε α) :=
  fun _ he => Except.error.inj he ▸ h

theorem FailsAs.mono {Q : ε → Prop} {x : Except ε α} (hx : FailsAs P x) (h : ∀ e, P e → Q e) : FailsAs Q x :=
  fun e he => h e (hx e he)

theorem FailsAs.bind {x : Except ε α} {f : α → Except ε β} (hx : FailsAs P x) (hf : ∀ a, FailsAs P (f a)) :
    FailsAs P (x >>= f) := by
  cases x with
  | error e => exact failsAs_error (hx e rfl)
  | ok a => exact hf a

theorem FailsAs.map {x : Except ε α} (hx : FailsAs P x) (f : α → β) : FailsAs P (f <$> x) := by
  cases x with
  | error e => exact failsAs_error (hx e rfl)
  | ok a => exact failsAs_ok (f a)

/-! ## Agreement -/

/-- Two attempts agree: they give the same result, or both fail, for whatever reasons. -/
inductive Agree : Except ε α → Except ε α → Prop where
  | ok (a : α) : Agree (.ok a) (.ok a)
  | error (e f : ε) : Agree (.error e) (.error f)

theorem Agree.refl (x : Except ε α) : Agree x x := by
  cases x with
  | error e => exact .error e e
  | ok a => exact .ok a

theorem Agree.trans {x y z : Except ε α} (h : Agree x y) (h' : Agree y z) : Agree x z := by
  cases h with
  | ok a => exact h'
  | error e f =>
    cases h' with
    | error _ g => exact .error e g

theorem Agree.symm {x y : Except ε α} (h : Agree x y) : Agree y x := by
  cases h with
  | ok a => exact .ok a
  | error e f => exact .error f e

theorem Agree.eq_ok {x y : Except ε α} (h : Agree x y) {a : α} (hx : x = .ok a) : y = .ok a := by
  cases h with
  | ok b => exact hx
  | error e f => exact absurd hx nofun

theorem Agree.bind {x y : Except ε α} {f g : α → Except ε β} (h : Agree x y) (hf : ∀ a, Agree (f a) (g a)) :
    Agree (x >>= f) (y >>= g) := by
  cases h with
  | ok a => exact hf a
  | error e e' => exact .error e e'

theorem Agree.map {x y : Except ε α} (h : Agree x y) (f : α → β) : Agree (x.map f) (y.map f) := by
  cases h with
  | ok a => exact .ok (f a)
  | error e e' => exact .error e e'

/-- Attempts without a result to compare agree when one succeeds just where the other does. -/
theorem agree_of_succeeds {x y : Except ε PUnit.{v+1}} (h : x = .ok PUnit.unit ↔ y = .ok PUnit.unit) :
    Agree x y := by
  cases x with
  | ok a =>
    rw [h.mp rfl]
    exact .ok PUnit.unit
  | error e =>
    cases y with
    | error f => exact .error e f
    | ok b => exact absurd (h.mpr rfl) nofun

/-! ## Agreement up to a view -/

section Views

variable {γ δ : Type v} {v : α → γ} {w : β → δ}

/-- Two attempts agree as far as a view of their results tells. -/
def AgreeUpTo (v : α → γ) (x y : Except ε α) : Prop := Agree (x.map v) (y.map v)

theorem agreeUpTo_ok {a b : α} (h : v a = v b) : AgreeUpTo v (.ok a : Except ε α) (.ok b) := by
  rw [AgreeUpTo, map_ok, map_ok, h]
  exact .ok (v b)

theorem agreeUpTo_error (v : α → γ) (e f : ε) : AgreeUpTo v (.error e) (.error f) := .error e f

theorem AgreeUpTo.refl (v : α → γ) (x : Except ε α) : AgreeUpTo v x x := Agree.refl _

theorem AgreeUpTo.cases {x y : Except ε α} (h : AgreeUpTo v x y) :
    (∃ a b, x = .ok a ∧ y = .ok b ∧ v a = v b) ∨ ∃ e f, x = .error e ∧ y = .error f := by
  cases x with
  | ok a =>
    obtain ⟨b, rfl, hb⟩ := (map_eq_ok y v (v a)).mp (h.eq_ok rfl)
    exact .inl ⟨a, b, rfl, rfl, hb.symm⟩
  | error e =>
    cases y with
    | ok b => exact absurd (h.symm.eq_ok rfl) nofun
    | error f => exact .inr ⟨e, f, rfl, rfl⟩

theorem AgreeUpTo.bind {x y : Except ε α} {f g : α → Except ε β} (h : AgreeUpTo v x y)
    (hf : ∀ a b, v a = v b → AgreeUpTo w (f a) (g b)) : AgreeUpTo w (x >>= f) (y >>= g) := by
  obtain ⟨a, b, rfl, rfl, hab⟩ | ⟨e, e', rfl, rfl⟩ := h.cases
  · exact hf a b hab
  · exact agreeUpTo_error w e e'

theorem Agree.bindUpTo {x y : Except ε α} {f g : α → Except ε β} (h : Agree x y)
    (hf : ∀ a, AgreeUpTo w (f a) (g a)) : AgreeUpTo w (x >>= f) (y >>= g) := by
  cases h with
  | ok a => exact hf a
  | error e e' => exact agreeUpTo_error w e e'

theorem AgreeUpTo.map {x y : Except ε α} {f : α → β} (h : AgreeUpTo v x y)
    (hf : ∀ a b, v a = v b → w (f a) = w (f b)) : AgreeUpTo w (f <$> x) (f <$> y) :=
  h.bind fun a b hab => agreeUpTo_ok (hf a b hab)

theorem AgreeUpTo.mapError {ζ : Type u} {x y : Except ε α} (h : AgreeUpTo v x y) (f : ε → ζ) :
    AgreeUpTo v (x.mapError f) (y.mapError f) := by
  obtain ⟨a, b, rfl, rfl, hab⟩ | ⟨e, e', rfl, rfl⟩ := h.cases
  · exact agreeUpTo_ok hab
  · exact agreeUpTo_error v _ _

/-- A list whose items are each read alike is read alike. -/
theorem agreeUpTo_mapM {ι : Type} {f : ι → Except ε α} {g : ι → ι} (h : ∀ i, AgreeUpTo v (f (g i)) (f i))
    (items : List ι) : AgreeUpTo (List.map v) ((items.map g).mapM f) (items.mapM f) := by
  induction items with
  | nil => exact .refl _ _
  | cons i items ih =>
    rw [List.map_cons, List.mapM_cons, List.mapM_cons]
    refine (h i).bind fun a b hab => ih.bind fun as bs habs => agreeUpTo_ok ?_
    rw [List.map_cons, List.map_cons, hab, habs]

end Views

end RecordQuery
