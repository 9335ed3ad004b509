import RecordQuery.Proofs.RecordSet.Reachable
import RecordQuery.Proofs.Sorting
import RecordQuery.Proofs.Value.Order

/-! The order of results. The selected records come in the order of the sort keys, and those that tie in the order of
the source, whichever way the keys point; no other arrangement of them does. -/
namespace RecordQuery
set_option autoImplicit false

namespace RecordSet

variable {R : Type}

/-! ## Selected records -/

/-- The record of a row, with the row. -/
def recordAt (s : RecordSet R) (row : Nat) : Option (Nat × R) := s.source.records[row]?.map fun r => (row, r)

theorem selected_eq (s : RecordSet R) : s.selected = s.rows.filterMap s.recordAt := rfl

theorem recordAt_eq_some (s : RecordSet R) (row : Nat) (p : Nat × R) :
    s.recordAt row = some p ↔ p.1 = row ∧ s.source.records[p.1]? = some p.2 := by
  rw [recordAt, Option.map_eq_some_iff]
  constructor
  · rintro ⟨r, hr, rfl⟩
    exact ⟨rfl, hr⟩
  · rintro ⟨rfl, hr⟩
    exact ⟨p.2, hr, rfl⟩

theorem mem_selected (s : RecordSet R) (p : Nat × R) :
    p ∈ s.selected ↔ p.1 ∈ s.rows ∧ s.source.records[p.1]? = some p.2 := by
  simp only [selected_eq, List.mem_filterMap, recordAt_eq_some]
  constructor
  · rintro ⟨row, hrow, rfl, hrecord⟩
    exact ⟨hrow, hrecord⟩
  · rintro ⟨hrow, hrecord⟩
    exact ⟨p.1, hrow, rfl, hrecord⟩

/-- Rows with their records are determined by the rows. -/
theorem filterMap_recordAt (s : RecordSet R) (placed : List (Nat × R))
    (h : ∀ p ∈ placed, s.source.records[p.1]? = some p.2) : (placed.map Prod.fst).filterMap s.recordAt = placed := by
  induction placed with
  | nil => rfl
  | cons p ps ih =>
    obtain ⟨hp, hps⟩ := List.forall_mem_cons.mp h
    rw [List.map_cons, List.filterMap_cons, (s.recordAt_eq_some p.1 p).mpr ⟨rfl, hp⟩, ih hps]

theorem rows_selected (s : RecordSet R) (hs : s.SoundRows) : s.selected.map Prod.fst = s.rows := by
  have hrow : ∀ row ∈ s.rows, (s.recordAt row).map Prod.fst = some row := by
    intro row hrow
    rw [recordAt, List.getElem?_eq_getElem (hs.bounded row hrow)]
    rfl
  rw [selected_eq, List.map_filterMap, List.filterMap_congr hrow]
  exact List.filterMap_some

theorem increasing_selected (s : RecordSet R) (hs : s.SoundRows) : s.selected.Pairwise fun a b => a.1 < b.1 := by
  have hrows := hs.increasing
  rwa [← s.rows_selected hs, List.pairwise_map] at hrows

/-! ## Sorted records -/

variable [Record R]

theorem perm_sorted (s : RecordSet R) : s.sorted.Perm s.selected := by
  rw [sorted]
  split
  · exact .refl _
  · exact perm_stableSort _ _

/-- An arrangement of the selected records in the order of the sort keys, ties in the order of the source. -/
structure InOrder (s : RecordSet R) (placed : List (Nat × R)) : Prop where
  rows : (placed.map Prod.fst).Perm s.rows
  records : ∀ p ∈ placed, s.source.records[p.1]? = some p.2
  ordered : placed.Pairwise fun a b =>
    OrderBy.compareByAll s.orderings a.2 b.2 ≠ .gt ∧
    (OrderBy.compareByAll s.orderings a.2 b.2 = .eq → a.1 < b.1)

theorem InOrder.perm_sorted {s : RecordSet R} {placed : List (Nat × R)} (h : s.InOrder placed) :
    placed.Perm s.sorted := by
  have hselected := h.rows.filterMap s.recordAt
  rw [s.filterMap_recordAt placed h.records] at hselected
  exact hselected.trans s.perm_sorted.symm

instance (os : List OrderBy) : Std.TransCmp fun a b : Nat × R => OrderBy.keyCompareAll os a.2 b.2 where
  eq_swap := Std.OrientedCmp.eq_swap
  isLE_trans := Std.TransCmp.isLE_trans

section Order

variable (s : RecordSet R) (hs : s.SoundRows) (hvalues : ∀ p ∈ s.selected, OrderBy.SortsExactly s.orderings p.2)

include hs hvalues

theorem inOrder_sorted : s.InOrder s.sorted := by
  have hperm := s.perm_sorted
  refine ⟨?_, fun p hp => ((s.mem_selected p).mp (hperm.mem_iff.mp hp)).2, ?_⟩
  · rw [← s.rows_selected hs]
    exact hperm.map Prod.fst
  have hkeys : ∀ a ∈ s.selected, ∀ b ∈ s.selected,
      OrderBy.compareByAll s.orderings a.2 b.2 = OrderBy.keyCompareAll s.orderings a.2 b.2 := fun a ha b hb =>
    OrderBy.compareByAll_eq_keyCompareAll s.orderings a.2 b.2 (hvalues a ha) (hvalues b hb)
  have hprecedes : s.sorted.Pairwise
      (Precedes (fun a b => OrderBy.keyCompareAll s.orderings a.2 b.2) fun a b => a.1 < b.1) := by
    rw [sorted]
    split
    · rename_i hnone
      rw [List.isEmpty_iff.mp hnone]
      exact (s.increasing_selected hs).imp fun hlt => .inr ⟨rfl, hlt⟩
    · rw [stableSort_congr _ _ s.selected hkeys]
      exact pairwise_stableSort s.selected (s.increasing_selected hs)
  refine hprecedes.imp_of_mem fun {a b} ha hb h => ?_
  rw [hkeys a (hperm.mem_iff.mp ha) b (hperm.mem_iff.mp hb)]
  rcases h with hlt | ⟨heq, htie⟩
  · dsimp only at hlt
    rw [hlt]
    exact ⟨nofun, nofun⟩
  · dsimp only at heq
    rw [heq]
    exact ⟨nofun, fun _ => htie⟩

theorem eq_sorted_of_inOrder {placed : List (Nat × R)} (h : s.InOrder placed) : placed = s.sorted := by
  refine List.Perm.eq_of_pairwise (fun a b ha hb hab hba => ?_) h.ordered (s.inOrder_sorted hs hvalues).ordered
    h.perm_sorted
  have hselected : ∀ p, p ∈ s.sorted → OrderBy.SortsExactly s.orderings p.2 := fun p hp =>
    hvalues p (s.perm_sorted.mem_iff.mp hp)
  have hb' := hselected b hb
  obtain ⟨_, hswap, _⟩ := OrderBy.compareByAll_preorder s.orderings a.2 b.2 b.2
    (hselected a (h.perm_sorted.mem_iff.mp ha)) hb' hb'
  rw [hswap] at hba
  cases hcmp : OrderBy.compareByAll s.orderings a.2 b.2 with
  | lt =>
    rw [hcmp] at hba
    exact absurd rfl hba.1
  | eq =>
    rw [hcmp] at hab hba
    have hlt := hab.2 rfl
    have hgt := hba.2 rfl
    omega
  | gt => exact absurd hcmp hab.1

end Order

theorem length_sorted (s : RecordSet R) (hs : s.SoundRows) : s.sorted.length = s.rows.length := by
  rw [s.perm_sorted.length_eq, ← s.rows_selected hs, List.length_map]

/-! ## Results -/

variable [BEq R]

/-- The results of a reachable set without the wish for distinct ones, where none of the values to sort by is a double:
the one arrangement of the selected records that is in order. The keys make a total preorder of all such records. -/
theorem results_in_order {source : Source R} {q : RecordSet R} (hq : q.Reachable source) (hplain : q.distinct = false)
    (hvalues : ∀ i ∈ q.rows, ∀ r, source.records[i]? = some r → OrderBy.SortsExactly q.orderings r) :
    (∃ placed, q.InOrder placed ∧ placed.map Prod.snd = q.results ∧ ∀ other, q.InOrder other → other = placed) ∧
    q.count = q.results.length ∧
    ∀ (os : List OrderBy) (a b c : R),
      OrderBy.SortsExactly os a → OrderBy.SortsExactly os b → OrderBy.SortsExactly os c →
        OrderBy.compareByAll os a a = .eq ∧
        OrderBy.compareByAll os b a = (OrderBy.compareByAll os a b).swap ∧
        (OrderBy.compareByAll os a b ≠ .gt → OrderBy.compareByAll os b c ≠ .gt →
          OrderBy.compareByAll os a c ≠ .gt) := by
  obtain ⟨rfl, hs, _⟩ := hq.sound
  have hexact : ∀ p ∈ q.selected, OrderBy.SortsExactly q.orderings p.2 := by
    intro p hp
    obtain ⟨hrow, hrecord⟩ := (q.mem_selected p).mp hp
    exact hvalues p.1 hrow p.2 hrecord
  have hresults : q.results = q.sorted.map Prod.snd := by
    rw [results, resultRows, hplain, if_neg Bool.false_ne_true]
  refine ⟨⟨q.sorted, q.inOrder_sorted hs hexact, hresults.symm, fun other h => q.eq_sorted_of_inOrder hs hexact h⟩, ?_,
    OrderBy.compareByAll_preorder⟩
  rw [count, hplain, if_neg Bool.false_ne_true, hresults, List.length_map, q.length_sorted hs]

end RecordSet

/-! ## Ballots -/

/-- Votes as numbers, as text, and not at all. -/
def ballots : List Json :=
  [.object [("name", .string "Ada"), ("votes", .number (.int 3))],
    .object [("name", .string "Grace"), ("votes", .string "many")],
    .object [("name", .string "Nicola")],
    .object [("name", .string "Mary"), ("votes", .number (.int 3))]]

def ballotsByVotes : RecordSet Json := ⟨⟨0, ballots⟩, [0, 1, 2, 3], [⟨"votes", .descending⟩], false⟩

theorem ballotsByVotes_reachable : ballotsByVotes.Reachable ⟨0, ballots⟩ :=
  .step .start (.orderBy ["-votes"] rfl)

theorem ballots_sortExactly : ∀ r ∈ ballots, OrderBy.SortsExactly ballotsByVotes.orderings r := by
  simp only [ballots, List.forall_mem_cons, OrderBy.SortsExactly, ballotsByVotes]
  decide

theorem ballotsByVotes_in_order :
    ballotsByVotes.Reachable ⟨0, ballots⟩ ∧ ballotsByVotes.distinct = false ∧
    (∀ i ∈ ballotsByVotes.rows, ∀ r, ballots[i]? = some r → OrderBy.SortsExactly ballotsByVotes.orderings r) ∧
    (∃ placed, ballotsByVotes.InOrder placed ∧
      placed.map Prod.snd = [ballots[2], ballots[1], ballots[0], ballots[3]] ∧
      ∀ other, ballotsByVotes.InOrder other → other = placed) ∧
    ballotsByVotes.count = 4 ∧
    OrderBy.compareByAll ballotsByVotes.orderings ballots[0] ballots[2] = .gt ∧
    (OrderBy.compareByAll ballotsByVotes.orderings ballots[2] ballots[1] ≠ .gt →
      OrderBy.compareByAll ballotsByVotes.orderings ballots[1] ballots[0] ≠ .gt →
      OrderBy.compareByAll ballotsByVotes.orderings ballots[2] ballots[0] ≠ .gt) := by
  have hvalues : ∀ i ∈ ballotsByVotes.rows, ∀ r, ballots[i]? = some r →
      OrderBy.SortsExactly ballotsByVotes.orderings r := fun i _ r hr =>
    ballots_sortExactly r (List.mem_of_getElem? hr)
  obtain ⟨⟨placed, hplaced, hresults, hunique⟩, hcount, hpreorder⟩ :=
    RecordSet.results_in_order ballotsByVotes_reachable rfl hvalues
  obtain ⟨_, _, htrans⟩ := hpreorder ballotsByVotes.orderings ballots[2] ballots[1] ballots[0]
    (ballots_sortExactly _ (List.getElem_mem _)) (ballots_sortExactly _ (List.getElem_mem _))
    (ballots_sortExactly _ (List.getElem_mem _))
  have hplace : ballotsByVotes.results = [ballots[2], ballots[1], ballots[0], ballots[3]] := rfl
  exact ⟨ballotsByVotes_reachable, rfl, hvalues, ⟨placed, hplaced, hresults.trans hplace, hunique⟩,
    hcount.trans (congrArg List.length hplace), rfl, htrans⟩

end RecordQuery
