import RecordQuery.Proofs.Clause.Canonical
import RecordQuery.Proofs.RecordSet.Occurrences
import RecordQuery.Proofs.RecordSet.Results

/-! Distinct results. Equal JSON records have one canonical form, and no clause tells them apart; so it is the same to
look for repetitions before records are filtered or after, and the order in which records come decides only which of
equal ones stays. -/
namespace RecordQuery
set_option autoImplicit false

namespace RecordSet

/-! ## What is kept -/

section Results

variable {R : Type} (s : RecordSet R)

theorem selected_keep (p : R → Bool) : (s.keep p).selected = s.selected.filter fun placed => p placed.2 := by
  rw [selected, keep, selected, List.filter_filterMap, List.filterMap_filter]
  refine List.filterMap_congr fun row _ => ?_
  cases s.source.records[row]? with
  | none => rfl
  | some r => rfl

variable [Record R]

theorem perm_sorted_records : (s.sorted.map Prod.snd).Perm (s.selected.map Prod.snd) := s.perm_sorted.map Prod.snd

variable [BEq R]

/-- The selected records in the order of the source, without repetitions. -/
def firstRecords : List R := firstOccurrences (· == ·) [] (s.selected.map Prod.snd)

theorem results_of_distinct (h : s.distinct = true) :
    s.results = firstOccurrences (· == ·) [] (s.sorted.map Prod.snd) := by
  rw [results, resultRows, if_pos h]
  exact map_firstOccurrences (· == ·) Prod.snd [] s.sorted

theorem results_of_not_distinct (h : s.distinct = false) : s.results = s.sorted.map Prod.snd := by
  rw [results, resultRows, if_neg (Bool.eq_false_iff.mp h)]

theorem count_of_distinct (h : s.distinct = true) : s.count = s.results.length := by
  rw [count, if_pos h, results, List.length_map]

end Results

/-! ## JSON records -/

theorem length_results_of_distinct (s : RecordSet Json) (h : s.distinct = true) :
    s.results.length = s.firstRecords.length := by
  rw [s.results_of_distinct h, firstRecords]
  exact length_firstOccurrences_perm Json.beq_iff s.perm_sorted_records

/-- Repetitions may be dropped before records are tested, or after. -/
theorem firstRecords_keep (s : RecordSet Json) (p : Json → Bool)
    (hp : ∀ a b : Json, a.canonical = b.canonical → p a = p b) :
    (s.keep p).firstRecords = s.firstRecords.filter p := by
  rw [firstRecords, firstRecords, filter_firstOccurrences Json.beq_iff p hp, selected_keep, List.filter_map]
  rfl

/-- The results of a reachable set with the wish for distinct ones: of the records that it has without the wish, one
for each of those that are equal. How many they are does not depend on the sort keys, and repetitions may be dropped
before records are filtered, or excluded, or after. -/
theorem distinct_exact {source : Source Json} {q : RecordSet Json} (hq : q.Reachable source)
    (hdistinct : q.distinct = true) :
    q.results.Sublist ({ q with distinct := false } : RecordSet Json).results ∧
    q.results.Pairwise (fun a b => (a == b) = false) ∧
    (∀ i ∈ q.rows, ∀ r, source.records[i]? = some r → q.results.countP (r == ·) = 1) ∧
    q.count = q.results.length ∧
    (∀ os, ({ q with orderings := os } : RecordSet Json).count = q.count) ∧
    ∀ conditions clauses, compile Json conditions = .ok clauses →
      ∃ kept dropped, QueryBuilder.filter conditions q = .ok kept ∧ QueryBuilder.exclude conditions q = .ok dropped ∧
        q.firstRecords.filter (meets clauses) = kept.firstRecords ∧
        q.firstRecords.filter (fun r => !meets clauses r) = dropped.firstRecords := by
  obtain ⟨rfl, _, _⟩ := hq.sound
  have hresults := q.results_of_distinct hdistinct
  refine ⟨?_, ?_, fun i hi r hr => ?_, q.count_of_distinct hdistinct, fun os => ?_, fun conditions clauses hc => ?_⟩
  · rw [hresults, results_of_not_distinct _ rfl]
    exact sublist_firstOccurrences _ _ _
  · rw [hresults]
    exact pairwise_firstOccurrences Json.beq_iff _
  · rw [hresults]
    have hselected : r ∈ q.selected.map Prod.snd :=
      List.mem_map.mpr ⟨(i, r), (q.mem_selected (i, r)).mpr ⟨hi, hr⟩, rfl⟩
    exact countP_firstOccurrences Json.beq_iff (q.perm_sorted_records.mem_iff.mpr hselected)
  · have hordered : ({ q with orderings := os } : RecordSet Json).distinct = true := hdistinct
    rw [count_of_distinct _ hordered, length_results_of_distinct _ hordered, count_of_distinct _ hdistinct,
      length_results_of_distinct _ hdistinct]
    rfl
  · refine ⟨_, _, (filter_eq conditions q).trans (by rw [hc, map_ok]), (exclude_eq conditions q).trans
      (by rw [hc, map_ok]), ?_, ?_⟩
    · exact (q.firstRecords_keep _ fun _ _ => meets_congr clauses).symm
    · exact (q.firstRecords_keep _ fun _ _ h => congrArg not (meets_congr clauses h)).symm

end RecordSet

/-! ## Readings -/

/-- Two of the same degrees, one of them written with a minus, and one of others. -/
def thermometer : List Json :=
  [.object [("degrees", .number (.double ⟨.zero, rfl⟩))],
    .object [("degrees", .number (.int (-3)))],
    .object [("degrees", .number (.double ⟨.negativeZero, rfl⟩))]]

def coldestReadings : RecordSet Json := ⟨⟨0, thermometer⟩, [0, 1, 2], [⟨"degrees", .ascending⟩], true⟩

def freezing : List Condition := [("degrees__lt", .literal (.number (.int 0)))]

theorem coldestReadings_reachable : coldestReadings.Reachable ⟨0, thermometer⟩ :=
  .step (.step .start (.distinct rfl)) (.orderBy ["degrees"] rfl)

theorem coldestReadings_exact :
    coldestReadings.Reachable ⟨0, thermometer⟩ ∧ coldestReadings.distinct = true ∧
    coldestReadings.results = [thermometer[1], thermometer[0]] ∧
    (∀ i ∈ coldestReadings.rows, ∀ r, thermometer[i]? = some r → coldestReadings.results.countP (r == ·) = 1) ∧
    (∀ os, ({ coldestReadings with orderings := os } : RecordSet Json).count = 2) ∧
    ∃ clauses kept dropped, RecordSet.compile Json freezing = .ok clauses ∧
      QueryBuilder.filter freezing coldestReadings = .ok kept ∧
      QueryBuilder.exclude freezing coldestReadings = .ok dropped ∧
      kept.firstRecords = [thermometer[1]] ∧ dropped.firstRecords = [thermometer[0]] := by
  obtain ⟨_, _, hcounts, hlength, horder, hclauses⟩ := RecordSet.distinct_exact coldestReadings_reachable rfl
  have hresults : coldestReadings.results = [thermometer[1], thermometer[0]] := rfl
  have hcount : coldestReadings.count = 2 := by rw [hlength, hresults]; rfl
  obtain ⟨kept, dropped, hkept, hdropped, hfirst, hothers⟩ := hclauses freezing _ rfl
  exact ⟨coldestReadings_reachable, rfl, hresults, hcounts, fun os => (horder os).trans hcount, _, kept, dropped, rfl,
    hkept, hdropped, hfirst.symm, hothers.symm⟩

end RecordQuery
