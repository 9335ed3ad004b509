import RecordQuery.Document
import RecordQuery.Proofs.Attempt

/-! The entries of a document. They are smaller than the document, so what passes from all entries to the document
holds of every document. What decoding makes of a list of entries is told entry by entry: the trees of those that
decode, and of each the diagnostics that it has by itself, seen from the list. -/
namespace RecordQuery
set_option autoImplicit false

namespace Json

/-- The entries of a document, where it has a list of them. -/
def entries? (document : Json) : Option (List Json) := (document.get? "_sub_queries").bind array?

theorem entries?_object (members : List (String × Json)) (entries : List Json)
    (h : member? "_sub_queries" members = some (.array entries)) : (object members).entries? = some entries := by
  rw [entries?, get?, h]
  rfl

theorem sizeOf_member? (key : String) (value : Json) (members : List (String × Json))
    (h : member? key members = some value) : sizeOf value < sizeOf members := by
  induction members with
  | nil => exact absurd h nofun
  | cons m ms ih =>
    obtain ⟨k, v⟩ := m
    rw [member?] at h
    simp only [List.cons.sizeOf_spec, Prod.mk.sizeOf_spec]
    by_cases hk : k = key
    · rw [if_pos hk, Option.some.injEq] at h
      rw [h]
      omega
    · rw [if_neg hk] at h
      have hv := ih h
      omega

theorem sizeOf_entry (document : Json) (entries : List Json) (h : document.entries? = some entries) (entry : Json)
    (he : entry ∈ entries) : sizeOf entry < sizeOf document := by
  rw [entries?, Option.bind_eq_some_iff] at h
  obtain ⟨value, hv, h⟩ := h
  cases document with
  | object members =>
    have hm := sizeOf_member? "_sub_queries" value members hv
    cases value with
    | array items =>
      obtain rfl : items = entries := Option.some.inj h
      have hi := List.sizeOf_lt_of_mem he
      simp only [array.sizeOf_spec, object.sizeOf_spec] at hm ⊢
      omega
    | _ => exact absurd h nofun
  | _ => exact absurd hv nofun

/-- What holds of a document when it holds of all its entries, holds of every document. -/
@[elab_as_elim]
theorem entriesInduction {P : Json → Prop}
    (step : ∀ document : Json,
      (∀ entries, document.entries? = some entries → ∀ entry ∈ entries, P entry) → P document)
    (document : Json) : P document :=
  step document fun entries h entry he =>
    have := sizeOf_entry document entries h entry he
    entriesInduction step entry
termination_by sizeOf document

end Json

/-! ## Decoding entries -/

theorem tryDecode_eq_ok (s : Settings) (document : Json) (tree : QueryTree) :
    tryDecode s document = .ok tree ↔ ∃ dropped, decodeTree s document = .ok (tree, dropped) := by
  rw [tryDecode, map_eq_ok]
  constructor
  · rintro ⟨⟨t, dropped⟩, h, rfl⟩
    exact ⟨dropped, h⟩
  · rintro ⟨dropped, h⟩
    exact ⟨(tree, dropped), h, rfl⟩

theorem tryDecode_eq_error (s : Settings) (document : Json) (e : DecodeError) :
    tryDecode s document = .error e ↔ decodeTree s document = .error e :=
  map_eq_error _ _ e

theorem decode_of_ok (s : Settings) (document : Json) (tree : QueryTree) (h : tryDecode s document = .ok tree) :
    decode s (some document) = some tree := by
  simp only [decode, Option.bind_some, h, Except.toOption]

theorem decode_of_error (s : Settings) (document : Json) (e : DecodeError) (h : tryDecode s document = .error e) :
    decode s (some document) = none := by
  simp only [decode, Option.bind_some, h, Except.toOption]

universe u v

theorem applyDocument_of_ok {B : Type u} {ε : Type v} [QueryBuilder B ε] (s : Settings) (document : Json)
    (tree : QueryTree) (h : tryDecode s document = .ok tree) (b : B) :
    applyDocument s (some document) b = tree.apply b := by
  rw [applyDocument, decode_of_ok s document tree h]

/-- A diagnostic of an entry by itself becomes one of the list by the index of the entry. -/
theorem decodeEntries_eq (s : Settings) (entries : List Json) (index : Nat) :
    decodeEntries s index entries =
      (entries.filterMap fun entry => decode s (some entry),
        (entries.zipIdx index).flatMap fun place =>
          (decodeWithDiagnostics s place.1).diagnostics.map (·.below place.2)) := by
  induction entries generalizing index with
  | nil =>
    rw [decodeEntries]
    rfl
  | cons entry entries ih =>
    rw [decodeEntries, ih (index + 1), List.filterMap_cons, List.zipIdx_cons, List.flatMap_cons]
    cases h : decodeTree s entry with
    | ok result =>
      have ht : tryDecode s entry = .ok result.1 := (tryDecode_eq_ok s entry result.1).mpr ⟨result.2, h⟩
      rw [decode_of_ok s entry result.1 ht, decodeWithDiagnostics, h]
    | error e =>
      -- such an entry has one diagnostic, with the empty path, and stands in the list by its index alone
      rw [decode_of_error s entry e ((tryDecode_eq_error s entry e).mpr h), decodeWithDiagnostics, h]
      rfl

theorem decodeEntries_map {α : Type} (s : Settings) (index : Nat) (xs : List α) (entry : α → Json)
    (tree : α → QueryTree) (h : ∀ x, tryDecode s (entry x) = .ok (tree x)) :
    (decodeEntries s index (xs.map entry)).1 = xs.map tree := by
  have hdecode : ∀ x, decode s (some (entry x)) = some (tree x) := fun x => decode_of_ok s (entry x) (tree x) (h x)
  rw [decodeEntries_eq, List.filterMap_map]
  simp only [Function.comp_def, hdecode]
  exact congrFun List.filterMap_eq_map xs

theorem subQueries_eq_ok (s : Settings) (cls : QueryClass) (fields : List (String × Json))
    (result : List QueryTree × List Diagnostic) :
    subQueries s cls fields = .ok result ↔
      ∃ entries, Json.member? "_sub_queries" fields = some (.array entries) ∧ decodeEntries s 0 entries = result := by
  induction fields with
  | nil => simp [subQueries, Json.member?]
  | cons field fields ih =>
    obtain ⟨key, value⟩ := field
    rw [subQueries, Json.member?]
    by_cases hk : key = "_sub_queries"
    · rw [if_pos hk, if_pos hk]
      cases value <;> simp [subQueryList]
    · rw [if_neg hk, if_neg hk]
      exact ih

end RecordQuery
