import Mathlib.Data.List.Forall2
import RecordQuery.Proofs.QueryTree.Outcome

/-! What a tree may learn of a record. A clause looks at the paths that it says it reads and nowhere else, and a
tree looks at records through its clauses alone. From two sources that differ elsewhere it selects the same rows, or it
fails on both; where the fields are declared, whatever lies outside of them does not count. -/
namespace RecordQuery
set_option autoImplicit false

variable {R : Type} [Record R]

/-! ## Clauses -/

/-- The two records cannot be told apart by their values at these paths. -/
def SameOn (paths : String → Prop) (r r' : R) : Prop :=
  ∀ path, paths path → Record.value r path = Record.value r' path

theorem SameOn.mono {paths others : String → Prop} {r r' : R} (h : SameOn paths r r')
    (hsub : ∀ path, others path → paths path) : SameOn others r r' :=
  fun path hpath => h path (hsub path hpath)

theorem Lookup.matchValue_congr (l : Lookup) (read read' : String → Value) (field : Value) (value : ClauseValue)
    (h : ∀ other, value = .field other → read other = read' other) :
    l.matchValue read field value = l.matchValue read' field value := by
  cases value with
  | field other =>
    have hother : read other = read' other := h other rfl
    simp only [matchValue, matchPresent, hother]
  | bool expected => cases l <;> rfl
  | _ => rfl

namespace Clause

theorem field_mem_reads (c : Clause) : c.field ∈ c.reads := by
  rw [reads]
  split <;> exact List.mem_cons_self

theorem other_mem_reads (c : Clause) (other : String) (h : c.value = .field other) : other ∈ c.reads := by
  rw [reads, h]
  exact List.mem_cons_of_mem c.field List.mem_cons_self

theorem holds_of_sameOn (c : Clause) {r r' : R} (h : SameOn (· ∈ c.reads) r r') : c.holds r = c.holds r' := by
  have hfield : Record.value r c.field = Record.value r' c.field := h c.field c.field_mem_reads
  rw [holds, holds, hfield]
  exact c.lookup.matchValue_congr _ _ _ _ fun other hother => h other (c.other_mem_reads other hother)

end Clause

theorem RecordSet.meets_of_sameOn (clauses : List Clause) {r r' : R}
    (h : SameOn (· ∈ clauses.flatMap Clause.reads) r r') : meets clauses r = meets clauses r' := by
  have hclause : ∀ c ∈ clauses, c.holds r = c.holds r' := fun c hc =>
    c.holds_of_sameOn (h.mono fun path hpath => List.mem_flatMap_of_mem hc hpath)
  rw [meets, meets, Bool.eq_iff_iff, List.all_eq_true, List.all_eq_true]
  exact forall₂_congr fun c hc => by rw [hclause c hc]

/-! ## Conditions -/

/-- The paths that the clauses of conditions read. -/
def conditionReads (conditions : List Condition) : List String :=
  match Clause.compileAll conditions with
  | .ok clauses => clauses.flatMap Clause.reads
  | .error _ => []

theorem conditionsHold_of_sameOn (conditions : List Condition) {r r' : R}
    (h : SameOn (· ∈ conditionReads conditions) r r') : conditionsHold conditions r = conditionsHold conditions r' := by
  rw [conditionReads] at h
  rw [conditionsHold, conditionsHold]
  cases hc : Clause.compileAll conditions with
  | error e => rfl
  | ok clauses =>
    rw [hc] at h
    exact RecordSet.meets_of_sameOn clauses h

theorem knows_conditionReads (conditions : List Condition) (clauses : List Clause)
    (h : RecordSet.compile R conditions = .ok clauses) :
    ∀ path ∈ conditionReads conditions, Record.knows R path = true := by
  obtain ⟨hclauses, hfields⟩ := (RecordSet.compile_eq_ok conditions clauses).mp h
  rw [conditionReads, hclauses]
  exact (RecordSet.checkFields_eq_ok _).mp hfields

/-! ## Trees -/

namespace QueryTree

/-- The paths that a tree reads to select records. Those that it sorts by are not among them. -/
def reads (t : QueryTree) : List String := t.conditionLists.flatMap conditionReads

section Selection

variable {r r' : R}

mutual

/-- The conditions in a tree are all that it asks of a record. -/
theorem selects_congr : ∀ t : QueryTree,
    (∀ cs ∈ t.conditionLists, conditionsHold cs r = conditionsHold cs r') → t.selects r = t.selects r'
  | identity, _ => by rw [selects, selects]
  | all, _ => by rw [selects, selects]
  | filter _ cs, h => by
    rw [selects, selects]
    exact h cs List.mem_cons_self
  | exclude _ cs, h => by
    rw [selects, selects]
    exact congrArg not (h cs List.mem_cons_self)
  | orderBy _, _ => by rw [selects, selects]
  | distinct, _ => by rw [selects, selects]
  | allOf ts, h => by
    rw [selects, selects]
    exact (selectsEach_congr ts h).1
  | anyOf ts, h => by
    rw [selects, selects]
    exact (selectsEach_congr ts h).2

theorem selectsEach_congr : ∀ ts : List QueryTree,
    (∀ cs ∈ (leavesOfEach ts).filterMap conditions?, conditionsHold cs r = conditionsHold cs r') →
    everySelects ts r = everySelects ts r' ∧ someSelects ts r = someSelects ts r'
  | [], _ => ⟨rfl, rfl⟩
  | t :: ts, h => by
    rw [leavesOfEach, List.filterMap_append, List.forall_mem_append] at h
    obtain ⟨hfirst, hrest⟩ := h
    have ht : t.selects r = t.selects r' := selects_congr t hfirst
    obtain ⟨hevery, hsome⟩ := selectsEach_congr ts hrest
    simp only [everySelects, someSelects, ht, hevery, hsome, and_self]

end

theorem selects_of_sameOn (t : QueryTree) (h : SameOn (· ∈ t.reads) r r') : t.selects r = t.selects r' := by
  refine selects_congr t fun cs hcs => conditionsHold_of_sameOn cs (h.mono fun path hpath => ?_)
  exact List.mem_flatMap_of_mem hcs hpath

end Selection

theorem compile_of_check (leaf : QueryTree) (conditions : List Condition) (hleaf : leaf.conditions? = some conditions)
    (h : leaf.check R = .ok ()) : ∃ clauses, RecordSet.compile R conditions = .ok clauses := by
  cases leaf with
  | filter form cs =>
    obtain rfl := Option.some.inj hleaf
    rw [check, map_eq_ok] at h
    exact h.imp fun _ hc => hc.1
  | exclude form cs =>
    obtain rfl := Option.some.inj hleaf
    rw [check, map_eq_ok] at h
    exact h.imp fun _ hc => hc.1
  | _ => exact absurd hleaf nofun

/-- A tree that is not refused reads declared fields alone. -/
theorem knows_reads (t : QueryTree) (h : t.check R = .ok ()) : ∀ path ∈ t.reads, Record.knows R path = true := by
  intro path hpath
  obtain ⟨conditions, hconditions, hpath⟩ := List.mem_flatMap.mp hpath
  obtain ⟨leaf, hleaf, hleafConditions⟩ := List.mem_filterMap.mp hconditions
  rw [← checkEach_leaves, checkEach_eq_ok] at h
  obtain ⟨clauses, hclauses⟩ := compile_of_check leaf conditions hleafConditions (h leaf hleaf)
  exact knows_conditionReads conditions clauses hclauses path hpath

end QueryTree

/-! ## Rows -/

theorem any_congr_of_forall₂ {α : Type} {passes : α → Bool} {xs ys : List α}
    (h : List.Forall₂ (fun x y => passes x = passes y) xs ys) (i : Nat) : xs[i]?.any passes = ys[i]?.any passes := by
  induction h generalizing i with
  | nil => rfl
  | cons hxy _ ih =>
    cases i with
    | zero => exact hxy
    | succ i => exact ih i

namespace QueryTree

/-- The rows that a tree selects among all the records of a source. -/
def rowsOf (t : QueryTree) (source : Source R) : Except QueryError (List Nat) :=
  (t.apply (RecordSet.ofSource source)).map RecordSet.rows

theorem rowsOf_eq (t : QueryTree) (source : Source R) :
    t.rowsOf source = (t.check R).map fun _ =>
      (List.range source.records.length).filter fun i => source.records[i]?.any t.selects := by
  rw [rowsOf, apply_eq t _ (RecordSet.soundRows_ofSource source)]
  cases t.check R <;> rfl

theorem rowsOf_congr (t : QueryTree) (a b : Source R)
    (h : List.Forall₂ (fun r r' => t.selects r = t.selects r') a.records b.records) : t.rowsOf a = t.rowsOf b := by
  have hany : ∀ i : Nat, a.records[i]?.any t.selects = b.records[i]?.any t.selects := any_congr_of_forall₂ h
  simp only [rowsOf_eq, h.length_eq, hany]

/-- From two sources whose records are the same, row by row, on the paths that it reads, a tree selects the same rows,
or it fails on both with one error. Where the type declares its fields, it is enough that they are the same on paths
that start at one of them. -/
theorem selection_noninterfering (t : QueryTree) (a b : Source R) :
    (List.Forall₂ (SameOn (· ∈ t.reads)) a.records b.records → t.rowsOf a = t.rowsOf b) ∧
    ∀ names, Record.declared R = some names →
      List.Forall₂ (SameOn fun path => rootSegment path ∈ names) a.records b.records → t.rowsOf a = t.rowsOf b := by
  have hreads : List.Forall₂ (SameOn (· ∈ t.reads)) a.records b.records → t.rowsOf a = t.rowsOf b :=
    fun h => rowsOf_congr t a b (h.imp fun _ _ => t.selects_of_sameOn)
  refine ⟨hreads, fun names hnames h => ?_⟩
  cases hc : t.check R with
  | error e => rw [rowsOf_eq, rowsOf_eq, hc, map_error, map_error]
  | ok _ =>
    -- the check of the tree has found every path that it reads among the declared fields
    refine hreads (h.imp fun r r' hr => hr.mono fun path hpath => ?_)
    exact (Record.knows_iff R path).mp (knows_reads t hc path hpath) names hnames

end QueryTree

/-! ## Drafts -/

/-- Records with a note that is not among the declared fields. -/
structure Draft where
  title : String
  note : String

instance : Record Draft where
  value draft path :=
    if path = "note" then .string draft.note
    else if path = "title" then .string draft.title
    else .missing
  declared := some ["title"]

namespace Draft

def drafts : Source Draft := ⟨0, [⟨"Nicola", "private"⟩, ⟨"Ada", ""⟩]⟩

def published : Source Draft := ⟨1, [⟨"Nicola", ""⟩, ⟨"Ada", "translated"⟩]⟩

/-- The drafts about Ada, and those without a title. -/
def aboutAda : QueryTree :=
  .anyOf [.filter .plain [("title__startswith", .literal (.string "Ad"))],
    .exclude .plain [("title__isnull", .literal (.bool false))]]

theorem sameOn_notes (title note note' : String) {paths : String → Prop} (hnote : ¬paths "note") :
    SameOn paths (⟨title, note⟩ : Draft) ⟨title, note'⟩ := by
  intro path hpath
  have hne : path ≠ "note" := fun he => hnote (he ▸ hpath)
  simp only [Record.value, if_neg hne]

theorem sameOn_published {paths : String → Prop} (hnote : ¬paths "note") :
    List.Forall₂ (SameOn paths) drafts.records published.records :=
  .cons (sameOn_notes _ _ _ hnote) (.cons (sameOn_notes _ _ _ hnote) .nil)

theorem selection_ignores_notes :
    List.Forall₂ (SameOn (· ∈ aboutAda.reads)) drafts.records published.records ∧
    List.Forall₂ (SameOn fun path => rootSegment path ∈ ["title"]) drafts.records published.records ∧
    aboutAda.rowsOf drafts = aboutAda.rowsOf published ∧
    aboutAda.rowsOf published = .ok [1] := by
  have hreads : List.Forall₂ (SameOn (· ∈ aboutAda.reads)) drafts.records published.records :=
    sameOn_published (by decide)
  have hdeclared : List.Forall₂ (SameOn fun path => rootSegment path ∈ ["title"]) drafts.records published.records :=
    sameOn_published (by decide)
  have hrows : aboutAda.rowsOf drafts = .ok [1] := by
    rw [QueryTree.rowsOf_eq]
    rfl
  obtain ⟨hread, hschema⟩ := QueryTree.selection_noninterfering aboutAda drafts published
  exact ⟨hreads, hdeclared, hread hreads, (hschema ["title"] rfl hdeclared).symm.trans hrows⟩

end Draft

end RecordQuery
