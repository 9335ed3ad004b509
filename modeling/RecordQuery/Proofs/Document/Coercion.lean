import RecordQuery.Document
import RecordQuery.Proofs.Clause.Coercion
import RecordQuery.Proofs.RecordSet.Operations

/-! Coercion of geometries in documents. It touches nothing but the literals of plain conditions, so decoding with it
is decoding without it and coercing afterwards. Trees before and after do the same to every set of records, or fail
both. -/
namespace RecordQuery
set_option autoImplicit false

namespace QueryTree

mutual

/-- A tree with the literals of its conditions coerced, where geometries are wanted. -/
def coerceLiterals (geometries : Bool) : QueryTree → QueryTree
  | identity => identity
  | all => all
  | filter form conditions => filter form (coerceConditions geometries conditions)
  | exclude form conditions => exclude form (coerceConditions geometries conditions)
  | orderBy entries => orderBy entries
  | distinct => distinct
  | allOf trees => allOf (coerceEach geometries trees)
  | anyOf trees => anyOf (coerceEach geometries trees)

def coerceEach (geometries : Bool) : List QueryTree → List QueryTree
  | [] => []
  | tree :: trees => coerceLiterals geometries tree :: coerceEach geometries trees

end

/-! ## Application -/

section Application

variable {R : Type} [Record R]

mutual

/-- Coercion does not change what a tree makes of a set of records. -/
theorem apply_coerceLiterals (geometries : Bool) : ∀ (tree : QueryTree) (q : RecordSet R),
    Agree ((tree.coerceLiterals geometries).apply q) (tree.apply q)
  | identity, q => by
    rw [coerceLiterals]
    exact Agree.refl _
  | all, q => by
    rw [coerceLiterals]
    exact Agree.refl _
  | filter form conditions, q => by
    rw [coerceLiterals, apply, apply, RecordSet.filter_eq, RecordSet.filter_eq]
    exact (RecordSet.compile_coerceConditions R geometries conditions).map _
  | exclude form conditions, q => by
    rw [coerceLiterals, apply, apply, RecordSet.exclude_eq, RecordSet.exclude_eq]
    exact (RecordSet.compile_coerceConditions R geometries conditions).map _
  | orderBy entries, q => by
    rw [coerceLiterals]
    exact Agree.refl _
  | distinct, q => by
    rw [coerceLiterals]
    exact Agree.refl _
  | allOf trees, q => by
    rw [coerceLiterals, apply, apply]
    exact applyEach_coerceEach geometries trees q
  | anyOf trees, q => by
    rw [coerceLiterals, apply, apply]
    exact (Agree.refl _).bind fun nothing => joinEach_coerceEach geometries trees q nothing

theorem applyEach_coerceEach (geometries : Bool) : ∀ (trees : List QueryTree) (q : RecordSet R),
    Agree (applyEach (coerceEach geometries trees) q) (applyEach trees q)
  | [], q => by
    rw [coerceEach]
    exact Agree.refl _
  | tree :: trees, q => by
    rw [coerceEach, applyEach, applyEach]
    exact (apply_coerceLiterals geometries tree q).bind fun q' => applyEach_coerceEach geometries trees q'

theorem joinEach_coerceEach (geometries : Bool) : ∀ (trees : List QueryTree) (start joined : RecordSet R),
    Agree (joinEach (coerceEach geometries trees) start joined) (joinEach trees start joined)
  | [], start, joined => by
    rw [coerceEach]
    exact Agree.refl _
  | tree :: trees, start, joined => by
    rw [coerceEach, joinEach, joinEach]
    exact (apply_coerceLiterals geometries tree start).bind fun branch =>
      (Agree.refl (QueryBuilder.union joined branch)).bind fun joined' =>
        joinEach_coerceEach geometries trees start joined'

end

end Application

end QueryTree

/-! ## Decoding -/

def Settings.uncoerced (s : Settings) : Settings := { s with coerceGeometry := false }

section Fields

variable (s : Settings) (cls : QueryClass) (fields : List (String × Json))

theorem pairConditions_coerce (paths : List String) (values : List Json) :
    pairConditions s paths values =
      coerceConditions s.coerceGeometry (pairConditions s.uncoerced paths values) := by
  rw [pairConditions, pairConditions, coerceConditions, List.map_zipWith]
  rfl

theorem plainConditions_coerce :
    plainConditions cls fields s =
      (plainConditions cls fields s.uncoerced).map (coerceConditions s.coerceGeometry) := by
  rw [plainConditions, plainConditions]
  cases requireField cls fields "_condition" with
  | error e => rfl
  | ok condition =>
    cases requireField cls fields "_value" with
    | error e => rfl
    | ok value =>
      rw [ok_bind, ok_bind, ok_bind, ok_bind]
      cases condition with
      | string path => rfl
      | array items =>
        cases hitems : stringItems? items with
        | none => simp only [hitems, map_error]
        | some paths =>
          simp only [hitems]
          by_cases hempty : paths.isEmpty
          · rw [if_pos hempty, if_pos hempty, map_error]
          rw [if_neg hempty, if_neg hempty]
          cases value with
          | array values =>
            dsimp only
            by_cases hlen : paths.length ≠ values.length ∧ s.shape = .reject
            · have hlen' : paths.length ≠ values.length ∧ s.uncoerced.shape = .reject := hlen
              rw [if_pos hlen, if_pos hlen', map_error]
            have hlen' : ¬(paths.length ≠ values.length ∧ s.uncoerced.shape = .reject) := hlen
            rw [if_neg hlen, if_neg hlen']
            by_cases hvalues : values.isEmpty
            · rw [if_pos hvalues, if_pos hvalues, map_error]
            rw [if_neg hvalues, if_neg hvalues, map_ok, pairConditions_coerce]
          | _ => rfl
      | _ => rfl

theorem formConditions_coerce (form : ConditionForm) :
    formConditions cls fields s form =
      (formConditions cls fields s.uncoerced form).map (coerceConditions s.coerceGeometry) := by
  cases form with
  | plain => exact plainConditions_coerce s cls fields
  -- neither a compared field nor a group is a literal
  | selfField =>
    rw [formConditions, formConditions, selfFieldConditions]
    cases requireString cls fields "_condition" with
    | error e => rfl
    | ok path => cases requireString cls fields "_field_to_compare" <;> rfl
  | nested =>
    rw [formConditions, formConditions, nestedConditions]
    cases requireString cls fields "_condition" with
    | error e => rfl
    | ok outer =>
      cases requireString cls fields "_inner_condition" with
      | error e => rfl
      | ok inner => cases requireField cls fields "_value" <;> rfl

theorem documentClass_uncoerced : documentClass s.uncoerced fields = documentClass s fields := rfl

end Fields

open QueryTree (coerceLiterals coerceEach)

mutual

/-- Decoding is decoding without coercion, and coercing what comes of it. -/
theorem decodeTree_coerce (s : Settings) : ∀ document : Json,
    decodeTree s document =
      (decodeTree s.uncoerced document).map fun r => (coerceLiterals s.coerceGeometry r.1, r.2)
  | .null => by rw [decodeTree, decodeTree, map_error]
  | .bool _ | .number _ | .string _ | .array _ => by simp only [decodeTree, map_error]
  | .object fields => by
    rw [decodeTree, decodeTree, documentClass_uncoerced]
    cases documentClass s fields with
    | error e => rfl
    | ok cls =>
      cases cls with
      | identity | all | distinct => simp only [ok_bind, map_ok, coerceLiterals]
      | filter form =>
        rw [ok_bind, ok_bind]
        dsimp only
        rw [formConditions_coerce]
        cases formConditions (.filter form) fields s.uncoerced form with
        | error e => rfl
        | ok conditions => simp only [ok_bind, map_ok, coerceLiterals]
      | exclude form =>
        rw [ok_bind, ok_bind]
        dsimp only
        rw [formConditions_coerce]
        cases formConditions (.exclude form) fields s.uncoerced form with
        | error e => rfl
        | ok conditions => simp only [ok_bind, map_ok, coerceLiterals]
      | orderBy =>
        cases orderEntries .orderBy fields with
        | error e => rfl
        | ok entries => simp only [ok_bind, map_ok, coerceLiterals]
      | allOf =>
        rw [ok_bind, ok_bind]
        dsimp only
        rw [subQueries_coerce s .allOf fields]
        cases subQueries s.uncoerced .allOf fields with
        | error e => rfl
        | ok r => simp only [ok_bind, map_ok, coerceLiterals]
      | anyOf =>
        rw [ok_bind, ok_bind]
        dsimp only
        rw [subQueries_coerce s .anyOf fields]
        cases subQueries s.uncoerced .anyOf fields with
        | error e => rfl
        | ok r => simp only [ok_bind, map_ok, coerceLiterals]

theorem subQueries_coerce (s : Settings) (cls : QueryClass) : ∀ fields : List (String × Json),
    subQueries s cls fields =
      (subQueries s.uncoerced cls fields).map fun r => (coerceEach s.coerceGeometry r.1, r.2)
  | [] => by rw [subQueries, subQueries, map_error]
  | (key, value) :: fields => by
    rw [subQueries, subQueries]
    by_cases hk : key = "_sub_queries"
    · rw [if_pos hk, if_pos hk]
      exact subQueryList_coerce s cls value
    · rw [if_neg hk, if_neg hk]
      exact subQueries_coerce s cls fields

theorem subQueryList_coerce (s : Settings) (cls : QueryClass) : ∀ value : Json,
    subQueryList s cls value =
      (subQueryList s.uncoerced cls value).map fun r => (coerceEach s.coerceGeometry r.1, r.2)
  | .array entries => by rw [subQueryList, subQueryList, map_ok, decodeEntries_coerce s 0 entries]
  | .null | .bool _ | .number _ | .string _ | .object _ => by simp only [subQueryList, map_error]

theorem decodeEntries_coerce (s : Settings) (index : Nat) : ∀ entries : List Json,
    decodeEntries s index entries =
      (coerceEach s.coerceGeometry (decodeEntries s.uncoerced index entries).1,
        (decodeEntries s.uncoerced index entries).2)
  | [] => by simp only [decodeEntries, coerceEach]
  | entry :: entries => by
    rw [decodeEntries, decodeEntries, decodeEntries_coerce s (index + 1) entries, decodeTree_coerce s entry]
    cases decodeTree s.uncoerced entry with
    | error e => rfl
    | ok r => simp only [map_ok, coerceEach]

end

theorem decode_coerce (s : Settings) (document : Option Json) :
    decode s document = (decode s.uncoerced document).map (coerceLiterals s.coerceGeometry) := by
  cases document with
  | none => rfl
  | some document =>
    simp only [decode, Option.bind_some, tryDecode]
    rw [decodeTree_coerce]
    cases decodeTree s.uncoerced document <;> rfl

variable {R : Type} [Record R]

theorem applyDocument_uncoerced (s : Settings) (document : Option Json) (q : RecordSet R) :
    Agree (applyDocument s document q) (applyDocument s.uncoerced document q) := by
  rw [applyDocument, applyDocument, decode_coerce]
  cases decode s.uncoerced document with
  | none => exact Agree.refl _
  | some tree => exact QueryTree.apply_coerceLiterals s.coerceGeometry tree q

/-- Whether geometries are coerced makes no difference to what a document makes of a set of records: the same set,
or no set at all. -/
theorem coercion_unobservable (s : Settings) (geometries : Bool) (document : Option Json) (q : RecordSet R) :
    Agree (applyDocument { s with coerceGeometry := geometries } document q) (applyDocument s document q) :=
  (applyDocument_uncoerced { s with coerceGeometry := geometries } document q).trans
    (applyDocument_uncoerced s document q).symm

end RecordQuery
