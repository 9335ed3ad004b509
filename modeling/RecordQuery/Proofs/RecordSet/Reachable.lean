import RecordQuery.Proofs.QueryTree.Preservation
import RecordQuery.Proofs.RecordSet.Operations

/-! Reachable sets: what operations make of the set of all records of a source, in any order and on any number of
sets that are joined later. Their rows are increasing places in the source, and their sort keys name fields that
records have. -/
namespace RecordQuery
set_option autoImplicit false

/-! ## Sort keys -/

/-- A key that sorts by a field which records of the type have. -/
def OrderBy.Valid (R : Type) [Record R] (o : OrderBy) : Prop :=
  o.field ≠ "" ∧ o.field ≠ "?" ∧ ∀ names, Record.declared R = some names → rootSegment o.field ∈ names

theorem OrderBy.field_of_parse? (entry : String) (o : OrderBy) (h : parse? entry = some o) :
    o.field ≠ "" ∧ o.field ≠ "?" := by
  rw [parse?] at h
  split at h
  rename_i direction field _
  split at h
  · exact absurd h nofun
  · rename_i hf
    obtain ⟨hempty, hrandom⟩ := not_or.mp hf
    rw [← Option.some.inj h]
    have hinj : ∀ cs, String.ofList field = String.ofList cs → field = cs := fun cs => String.ofList_inj.mp
    exact ⟨fun he => hempty (hinj [] he), fun he => hrandom (hinj ['?'] he)⟩

theorem Record.knows_iff (R : Type) [Record R] (path : String) :
    Record.knows R path = true ↔ ∀ names, Record.declared R = some names → rootSegment path ∈ names := by
  rw [Record.knows]
  cases Record.declared R with
  | none => simp
  | some names => simp

namespace RecordSet

variable {R : Type}

/-! ## Rows -/

/-- Rows that are increasing places in the source. -/
structure SoundRows (s : RecordSet R) : Prop where
  increasing : s.rows.Pairwise (· < ·)
  bounded : ∀ i ∈ s.rows, i < s.source.records.length

theorem soundRows_ofSource (source : Source R) : (ofSource source).SoundRows :=
  ⟨List.pairwise_lt_range, fun _ hi => List.mem_range.mp hi⟩

theorem SoundRows.keep {s : RecordSet R} (hs : s.SoundRows) (passes : R → Bool) : (s.keep passes).SoundRows :=
  ⟨hs.increasing.filter _, fun i hi => hs.bounded i (List.mem_of_mem_filter hi)⟩

/-! ## What operations keep -/

variable [Record R]

/-- All that operations do to a set: drop rows, put checked keys in place of its own, set the flag, take in the rows
and the flag of another. What these changes keep is kept. -/
theorem kept_of_changes {P : RecordSet R → Prop}
    (hnone : ∀ s, P s → P { s with rows := [] })
    (hkeep : ∀ s passes, P s → P (s.keep passes))
    (horder : ∀ (s : RecordSet R) (entries : List String), P s →
      checkFields R ((entries.filterMap OrderBy.parse?).map OrderBy.field) = .ok () →
      P { s with orderings := entries.filterMap OrderBy.parse? })
    (hdistinct : ∀ s, P s → P { s with distinct := true })
    (hunion : ∀ s t, P s → P t →
      P { s with rows := mergeRows s.rows t.rows, distinct := s.distinct || t.distinct }) :
    QueryBuilder.Kept P where
  all s s' hs h := Except.ok.inj h ▸ hs
  none s s' hs h := Except.ok.inj h ▸ hnone s hs
  filter conditions s s' hs h := by
    rw [filter_eq, map_eq_ok] at h
    obtain ⟨clauses, _, rfl⟩ := h
    exact hkeep s _ hs
  exclude conditions s s' hs h := by
    rw [exclude_eq, map_eq_ok] at h
    obtain ⟨clauses, _, rfl⟩ := h
    exact hkeep s _ hs
  orderBy entries s s' hs h := by
    rw [orderBy_eq, map_eq_ok] at h
    obtain ⟨_, hc, rfl⟩ := h
    exact horder s entries hs hc
  distinct s s' hs h := Except.ok.inj h ▸ hdistinct s hs
  union s t u hs ht h := by
    rw [union_eq_ok s t u h]
    exact hunion s t hs ht

theorem source_kept (source : Source R) : QueryBuilder.Kept fun s : RecordSet R => s.source = source :=
  kept_of_changes (fun _ hs => hs) (fun _ _ hs => hs) (fun _ _ hs _ => hs) (fun _ hs => hs) (fun _ _ hs _ => hs)

theorem source_of_apply (t : QueryTree) (s s' : RecordSet R) (h : t.apply s = .ok s') : s'.source = s.source :=
  t.apply_kept (source_kept s.source) s s' rfl h

/-- What holds of every set over a source. -/
structure Sound (source : Source R) (s : RecordSet R) : Prop where
  source_eq : s.source = source
  rows : s.SoundRows
  orderings : ∀ o ∈ s.orderings, o.Valid R

variable {source : Source R}

theorem sound_ofSource (source : Source R) : Sound source (ofSource source) :=
  ⟨rfl, soundRows_ofSource source, fun _ ho => absurd ho List.not_mem_nil⟩

theorem Sound.keep {s : RecordSet R} (hs : Sound source s) (passes : R → Bool) : Sound source (s.keep passes) :=
  ⟨hs.source_eq, hs.rows.keep passes, hs.orderings⟩

theorem Sound.orderBy {s : RecordSet R} (hs : Sound source s) (entries : List String)
    (h : checkFields R ((entries.filterMap OrderBy.parse?).map OrderBy.field) = .ok ()) :
    Sound source { s with orderings := entries.filterMap OrderBy.parse? } := by
  refine ⟨hs.source_eq, ⟨hs.rows.increasing, hs.rows.bounded⟩, fun o ho => ?_⟩
  obtain ⟨entry, _, hparse⟩ := List.mem_filterMap.mp ho
  obtain ⟨hempty, hrandom⟩ := OrderBy.field_of_parse? entry o hparse
  have hknown : Record.knows R o.field = true :=
    (checkFields_eq_ok _).mp h o.field (List.mem_map_of_mem ho)
  exact ⟨hempty, hrandom, (Record.knows_iff R o.field).mp hknown⟩

theorem Sound.union {s t : RecordSet R} (hs : Sound source s) (ht : Sound source t) :
    Sound source { s with rows := mergeRows s.rows t.rows, distinct := s.distinct || t.distinct } := by
  refine ⟨hs.source_eq, ⟨increasing_mergeRows _ _, fun i hi => ?_⟩, hs.orderings⟩
  rcases (mem_mergeRows i _ _).mp hi with hi | hi
  · exact hs.rows.bounded i hi
  · have hb := ht.rows.bounded i hi
    rwa [ht.source_eq, ← hs.source_eq] at hb

theorem sound_kept (source : Source R) : QueryBuilder.Kept (Sound source) :=
  kept_of_changes
    (fun _ hs => ⟨hs.source_eq, ⟨List.Pairwise.nil, fun _ hi => absurd hi List.not_mem_nil⟩, hs.orderings⟩)
    (fun _ passes hs => hs.keep passes)
    (fun _ entries hs h => hs.orderBy entries h)
    (fun _ hs => ⟨hs.source_eq, ⟨hs.rows.increasing, hs.rows.bounded⟩, hs.orderings⟩)
    (fun _ _ hs ht => hs.union ht)

/-! ## Reachable sets -/

/-- One operation on a set: a call of the builder, or a whole tree or document. -/
inductive Step (s s' : RecordSet R) : Prop where
  | all (h : QueryBuilder.all s = .ok s')
  | none (h : QueryBuilder.none s = .ok s')
  | filter (conditions : List Condition) (h : QueryBuilder.filter conditions s = .ok s')
  | exclude (conditions : List Condition) (h : QueryBuilder.exclude conditions s = .ok s')
  | orderBy (entries : List String) (h : QueryBuilder.orderBy entries s = .ok s')
  | distinct (h : QueryBuilder.distinct s = .ok s')
  | tree (t : QueryTree) (h : t.apply s = .ok s')
  | document (settings : Settings) (document : Option Json) (h : applyDocument settings document s = .ok s')

/-- The sets over a source that operations reach from the set of all its records. A set may be joined with any
other that is reached. -/
inductive Reachable (source : Source R) : RecordSet R → Prop where
  | start : Reachable source (ofSource source)
  | step {s s' : RecordSet R} : Reachable source s → Step s s' → Reachable source s'
  | union {s t u : RecordSet R} : Reachable source s → Reachable source t → QueryBuilder.union s t = .ok u →
      Reachable source u

theorem Sound.step {s s' : RecordSet R} (hs : Sound source s) (h : Step s s') : Sound source s' := by
  have hk := sound_kept source
  cases h with
  | all h => exact hk.all s s' hs h
  | none h => exact hk.none s s' hs h
  | filter conditions h => exact hk.filter conditions s s' hs h
  | exclude conditions h => exact hk.exclude conditions s s' hs h
  | orderBy entries h => exact hk.orderBy entries s s' hs h
  | distinct h => exact hk.distinct s s' hs h
  | tree t h => exact t.apply_kept hk s s' hs h
  | document settings document h => exact applyDocument_kept hk settings document s s' hs h

theorem Reachable.sound {s : RecordSet R} (hs : s.Reachable source) : Sound source s := by
  induction hs with
  | start => exact sound_ofSource source
  | step _ h ih => exact ih.step h
  | union _ _ h ihs iht => exact (sound_kept source).union _ _ _ ihs iht h

/-- Every reachable set selects increasing places in its source and sorts by fields that records have; two of
them can be joined, and then select what either selects. -/
theorem reachable_invariant {s : RecordSet R} (hs : s.Reachable source) :
    s.source = source ∧
    s.rows.Pairwise (· < ·) ∧
    (∀ i ∈ s.rows, i < source.records.length) ∧
    (∀ o ∈ s.orderings, o.field ≠ "" ∧ o.field ≠ "?" ∧
      ∀ names, Record.declared R = some names → rootSegment o.field ∈ names) ∧
    ∀ t, t.Reachable source → ∃ u, s.union t = .ok u ∧ ∀ i, i ∈ u.rows ↔ i ∈ s.rows ∨ i ∈ t.rows := by
  obtain ⟨rfl, hrows, hkeys⟩ := hs.sound
  refine ⟨rfl, hrows.increasing, hrows.bounded, hkeys, fun t ht => ?_⟩
  exact ⟨_, union_eq s t ht.sound.source_eq, fun i => mem_mergeRows i s.rows t.rows⟩

end RecordSet

/-! ## Posts -/

/-- Records that declare their fields. -/
structure Post where
  title : String
  votes : Int64

instance : Record Post where
  value post path :=
    match path with
    | "title" => .string post.title
    | "votes" => .number (.signed post.votes)
    | _ => .missing
  declared := some ["title", "votes"]

namespace Post

def posts : Source Post := ⟨0, [⟨"Nicola", 5⟩, ⟨"Ada", 9⟩, ⟨"nicolas", 1⟩, ⟨"Grace", 5⟩]⟩

/-- Posts with more than five votes. -/
def overFive : RecordSet Post := ⟨posts, [1], [], false⟩

def nicolas : RecordSet Post := ⟨posts, [0], [], false⟩

/-- Both together, most votes first. -/
def popularPosts : RecordSet Post := ⟨posts, [0, 1], [⟨"votes", .descending⟩], false⟩

theorem popularPosts_reachable : popularPosts.Reachable posts := by
  have hover : QueryBuilder.filter [("votes__gt", .literal (.number (.int 5)))] (RecordSet.ofSource posts) =
      .ok overFive := rfl
  have hnicolas : (QueryTree.filter .plain [("title", .literal (.string "Nicola"))]).apply
      (RecordSet.ofSource posts) = .ok nicolas := rfl
  have hrows : RecordSet.mergeRows [1] [0] = [0, 1] :=
    RecordSet.mergeRows_eq [1] [0] [0, 1] (by decide) (by simp [or_comm])
  have hunion : QueryBuilder.union overFive nicolas = .ok { overFive with rows := [0, 1] } := by
    rw [← hrows]
    rfl
  have horder : QueryBuilder.orderBy ["-votes", "?"] { overFive with rows := [0, 1] } = .ok popularPosts := rfl
  have hjoined : RecordSet.Reachable posts { overFive with rows := [0, 1] } :=
    .union (.step .start (.filter _ hover)) (.step .start (.tree _ hnicolas)) hunion
  exact .step hjoined (.orderBy _ horder)

theorem invariant_popularPosts :
    popularPosts.Reachable posts ∧
    popularPosts.source = posts ∧
    popularPosts.rows.Pairwise (· < ·) ∧
    (∀ i ∈ popularPosts.rows, i < posts.records.length) ∧
    (∀ o ∈ popularPosts.orderings, o.field ≠ "" ∧ o.field ≠ "?" ∧
      ∀ names, Record.declared Post = some names → rootSegment o.field ∈ names) ∧
    ∀ t, t.Reachable posts →
      ∃ u, popularPosts.union t = .ok u ∧ ∀ i, i ∈ u.rows ↔ i ∈ popularPosts.rows ∨ i ∈ t.rows :=
  ⟨popularPosts_reachable, RecordSet.reachable_invariant popularPosts_reachable⟩

end Post

end RecordQuery
