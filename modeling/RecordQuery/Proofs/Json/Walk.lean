import RecordQuery.Proofs.Text.Segments
import RecordQuery.Proofs.Value.Canonical

/-! Walking into JSON records. The path that keys make is cut back into these keys, and reading it is looking them up
one after another in nested objects. -/
namespace RecordQuery
set_option autoImplicit false

namespace Json

/-! ## Walks -/

/-- Keys lead to a value, each of them from an object to a member of it. -/
inductive Leads : Json → List String → Json → Prop where
  | here (target : Json) : Leads target [] target
  | member {members : List (String × Json)} {key : String} {next target : Json} {keys : List String}
      (hnext : member? key members = some next) (hrest : Leads next keys target) :
      Leads (object members) (key :: keys) target

/-- Keys lead to a value that is no object, or to an object without a member for the next key. -/
inductive Stops : Json → List String → Prop where
  | notAnObject {j : Json} (hj : j.isObject = false) (key : String) (keys : List String) : Stops j (key :: keys)
  | noMember {members : List (String × Json)} {key : String} (hkey : member? key members = none)
      (keys : List String) : Stops (object members) (key :: keys)
  | member {members : List (String × Json)} {key : String} {next : Json} {keys : List String}
      (hnext : member? key members = some next) (hrest : Stops next keys) : Stops (object members) (key :: keys)

theorem leads_or_stops (j : Json) (keys : List String) : (∃ target, j.Leads keys target) ∨ j.Stops keys := by
  induction keys generalizing j with
  | nil => exact .inl ⟨j, .here j⟩
  | cons key keys ih =>
    cases j with
    | object members =>
      cases hkey : member? key members with
      | none => exact .inr (.noMember hkey keys)
      | some next =>
        rcases ih next with ⟨target, htarget⟩ | hstops
        · exact .inl ⟨target, .member hkey htarget⟩
        · exact .inr (.member hkey hstops)
    | _ => exact .inr (.notAnObject rfl key keys)

theorem follow_member (members : List (String × Json)) (key : String) (next : Json) (keys : List (List Char))
    (h : member? key members = some next) : (object members).follow (key.toList :: keys) = next.follow keys := by
  rw [follow, String.ofList_toList, get?, h]
  rfl

theorem follow_of_leads {j target : Json} {keys : List String} (h : j.Leads keys target) :
    j.follow (keys.map String.toList) = some target := by
  induction h with
  | here target => rfl
  | member hnext _ ih => rw [List.map_cons, follow_member _ _ _ _ hnext, ih]

theorem follow_of_stops {j : Json} {keys : List String} (h : j.Stops keys) :
    j.follow (keys.map String.toList) = none := by
  induction h with
  | notAnObject hj key keys =>
    rename_i j
    cases j with
    | object members => exact absurd hj nofun
    | _ => rfl
  | noMember hkey keys =>
    rw [List.map_cons, follow, String.ofList_toList, get?, hkey]
    rfl
  | member hnext _ ih => rw [List.map_cons, follow_member _ _ _ _ hnext, ih]

end Json

/-! ## Paths -/

theorem Record.value_of_segments (record : Json) (keys : List String) (hne : keys ≠ [])
    (hkeys : ∀ key ∈ keys, ¬Text.separator <:+: key.toList)
    (hends : ∀ key ∈ keys.dropLast, key.toList.getLast? ≠ some '_') :
    Record.value record ("__".intercalate keys) =
      ((record.follow (keys.map String.toList)).map Value.ofJson).getD .missing := by
  have hsegments : Text.segments ("__".intercalate keys).toList = keys.map String.toList := by
    rw [String.toList_intercalate]
    refine Text.segments_intercalate _ (fun h => hne (List.map_eq_nil_iff.mp h)) (List.forall_mem_map.mpr hkeys) ?_
    rw [← List.map_dropLast]
    exact List.forall_mem_map.mpr hends
  rw [value_json, hsegments]

/-- The path of several keys is read by looking them up in nested objects, and finds nothing where a key is missing or a
value on the way is no object. -/
theorem Record.value_along_keys (record : Json) (keys : List String) (hne : keys ≠ [])
    (hkeys : ∀ key ∈ keys, ¬Text.separator <:+: key.toList)
    (hends : ∀ key ∈ keys.dropLast, key.toList.getLast? ≠ some '_') :
    (∀ target, record.Leads keys target → Record.value record ("__".intercalate keys) = Value.ofJson target) ∧
    (record.Stops keys → Record.value record ("__".intercalate keys) = .missing) ∧
    ((∃ target, record.Leads keys target) ∨ record.Stops keys) := by
  rw [value_of_segments record keys hne hkeys hends]
  refine ⟨fun target h => ?_, fun h => ?_, record.leads_or_stops keys⟩
  · rw [Json.follow_of_leads h]
    rfl
  · rw [Json.follow_of_stops h]
    rfl

/-- Empty keys, keys with underscores at their ends, and a list where an object would have to be. -/
theorem Record.value_along_keys_underscores :
    let record := Json.object [("", .object [("_list", .array [.number (.int 5)]), ("_rank_", .number (.int 7))])]
    Record.value record "___rank_" = .number (.signed 7) ∧ Record.value record "___list__0" = .missing := by
  intro record
  have hrank : record.Leads ["", "_rank_"] (.number (.int 7)) := .member rfl (.member rfl (.here _))
  have hlist : record.Stops ["", "_list", "0"] := .member rfl (.member rfl (.notAnObject rfl "0" []))
  obtain ⟨hleads, -, -⟩ := value_along_keys record ["", "_rank_"] (by decide) (by decide) (by decide)
  obtain ⟨-, hstops, -⟩ := value_along_keys record ["", "_list", "0"] (by decide) (by decide) (by decide)
  exact ⟨hleads _ hrank, hstops hlist⟩

end RecordQuery
