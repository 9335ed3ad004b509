import RecordQuery.Proofs.Clause.Errors
import RecordQuery.Proofs.Clause.Operands
import RecordQuery.Proofs.RecordSet.Reachable

/-! Which error a call with conditions gives. The operands of all conditions come first, groups taken apart: the first
that its lookup does not take decides. Where there is none, the fields that the conditions read are gone through in
order, and the first that no record has decides. Filters and exclusions fail alike, and otherwise both succeed. -/
namespace RecordQuery
set_option autoImplicit false

/-! ## Fields that a condition reads -/

/-- The field that a condition without groups is about, and after it the one that it compares that with. -/
def fieldsRead (c : Condition) : List String :=
  match c.2 with
  | .field other => [(Lookup.ofPath c.1).1, other]
  | _ => [(Lookup.ofPath c.1).1]

namespace Clause

theorem reads_of_ofLeaf (path : String) (operand : Operand) (c : Clause) (h : ofLeaf path operand = .ok c) :
    c.reads = fieldsRead (path, operand) := by
  obtain ⟨v, hv, rfl⟩ := (ofLeaf_eq_ok path operand c).mp h
  rw [fieldsRead]
  generalize Lookup.ofPath path = place at hv ⊢
  obtain ⟨field, l⟩ := place
  cases hv with
  | scalar _ hv => exact (ClauseValue.isScalar_of_comparable? _ _ hv).reads _ _
  | _ => rfl

theorem compileAll_eq_error (conditions : List Condition) (e : QueryError) :
    compileAll conditions = .error e ↔
      ∃ before leaf after, flatConditions conditions = before ++ leaf :: after ∧
        (∀ c ∈ before, ∃ clauses, compile c.1 c.2 = .ok clauses) ∧ compile leaf.1 leaf.2 = .error e := by
  have hcons : ∀ (c : Condition) cs e, compileAll (c :: cs) = .error e ↔
      compile c.1 c.2 = .error e ∨ (∃ a, compile c.1 c.2 = .ok a) ∧ compileAll cs = .error e := by
    intro c cs e
    rw [compileAll]
    cases compile c.1 c.2 with
    | error e' => simp
    | ok first => cases compileAll cs <;> simp
  rw [← compileAll_flatConditions]
  exact eq_error_iff_first nofun hcons (flatConditions conditions) e

/-- Conditions compile where each of the flat ones does, and then read the fields of those in order. -/
theorem reads_of_compileAll (conditions : List Condition) (clauses : List Clause)
    (h : compileAll conditions = .ok clauses) :
    (∀ leaf ∈ flatConditions conditions, ∃ first, compile leaf.1 leaf.2 = .ok first) ∧
      clauses.flatMap reads = (flatConditions conditions).flatMap fieldsRead := by
  have hgroups := not_isGroup_of_mem_flatConditions conditions
  rw [← compileAll_flatConditions] at h
  generalize flatConditions conditions = leaves at h hgroups
  induction leaves generalizing clauses with
  | nil =>
    obtain rfl := Except.ok.inj h
    exact ⟨fun leaf hleaf => absurd hleaf List.not_mem_nil, rfl⟩
  | cons leaf leaves ih =>
    obtain ⟨hgroup, hgroups⟩ := List.forall_mem_cons.mp hgroups
    rw [compileAll, bind_eq_ok] at h
    obtain ⟨first, hfirst, h⟩ := h
    rw [bind_eq_ok] at h
    obtain ⟨rest, hrest, h⟩ := h
    obtain rfl := Except.ok.inj h
    obtain ⟨hleaves, hreads⟩ := ih rest hrest hgroups
    obtain ⟨c, hc, rfl⟩ := (compile_eq_ok _ _ hgroup first).mp hfirst
    refine ⟨List.forall_mem_cons.mpr ⟨⟨_, hfirst⟩, hleaves⟩, ?_⟩
    rw [List.flatMap_append, List.flatMap_singleton, List.flatMap_cons, reads_of_ofLeaf _ _ c hc, hreads]

theorem compileAll_succeeds (conditions : List Condition)
    (h : ∀ leaf ∈ flatConditions conditions, ∃ first, compile leaf.1 leaf.2 = .ok first) :
    ∃ clauses, compileAll conditions = .ok clauses := by
  cases hclauses : compileAll conditions with
  | ok clauses => exact ⟨clauses, rfl⟩
  | error e =>
    obtain ⟨before, leaf, after, hleaves, -, hleaf⟩ := (compileAll_eq_error conditions e).mp hclauses
    obtain ⟨first, hfirst⟩ := h leaf (hleaves ▸ List.mem_append_right before List.mem_cons_self)
    exact absurd (hleaf.symm.trans hfirst) nofun

/-- What is no group fails with the error about its operand. -/
theorem compile_refusal (path : String) (operand : Operand) (hoperand : operand.isGroup = false) :
    FailsAs (· = (Lookup.ofPath path).2.refusalOf operand) (compile path operand) := by
  intro e he
  rw [compile_of_not_isGroup path operand hoperand, map_eq_error] at he
  exact ofLeaf_refusal path operand e he

end Clause

namespace RecordSet

variable {R : Type} [Record R]

/-! ## Refusals -/

/-- Conditions are refused for an operand, or else for a field. -/
inductive Refused (R : Type) [Record R] (conditions : List Condition) : QueryError → Prop where
  /-- The first of the flat conditions that does not compile fails so. -/
  | operand {before : List Condition} {leaf : Condition} {after : List Condition} {e : QueryError}
    (hleaves : flatConditions conditions = before ++ leaf :: after)
    (hbefore : ∀ c ∈ before, ∃ clauses, Clause.compile c.1 c.2 = .ok clauses)
    (hleaf : Clause.compile leaf.1 leaf.2 = .error e) : Refused R conditions e
  /-- All of them compile, and this is the first of their fields that starts at none of the declared ones. -/
  | field {names before : List String} {path : String} {after : List String}
    (hnames : Record.declared R = some names)
    (hleaves : ∀ c ∈ flatConditions conditions, ∃ clauses, Clause.compile c.1 c.2 = .ok clauses)
    (hreads : (flatConditions conditions).flatMap fieldsRead = before ++ path :: after)
    (hbefore : ∀ p ∈ before, rootSegment p ∈ names) (hpath : rootSegment path ∉ names) :
    Refused R conditions (.unknownField path)

theorem compile_eq_error (conditions : List Condition) (e : QueryError) :
    compile R conditions = .error e ↔
      Clause.compileAll conditions = .error e ∨
        ∃ clauses, Clause.compileAll conditions = .ok clauses ∧
          checkFields R (clauses.flatMap Clause.reads) = .error e := by
  rw [compile]
  cases Clause.compileAll conditions with
  | error e' => simp
  | ok clauses =>
    rw [ok_bind]
    cases hfields : checkFields R (clauses.flatMap Clause.reads) <;> simp [hfields]

theorem checkFields_eq_error_of_declared (names : List String) (hnames : Record.declared R = some names)
    (paths : List String) (e : QueryError) :
    checkFields R paths = .error e ↔
      ∃ before path after, paths = before ++ path :: after ∧ (∀ p ∈ before, rootSegment p ∈ names) ∧
        rootSegment path ∉ names ∧ e = .unknownField path := by
  have hknows : ∀ path, Record.knows R path = true ↔ rootSegment path ∈ names := by
    intro path
    rw [Record.knows, hnames]
    exact List.contains_iff_mem
  simp only [checkFields_eq_error, ← Bool.not_eq_true, hknows]

theorem checkFields_of_not_declared (hnames : Record.declared R = none) (paths : List String) :
    checkFields R paths = .ok () := by
  refine (checkFields_eq_ok paths).mpr fun path _ => ?_
  rw [Record.knows, hnames]

theorem compile_refused (conditions : List Condition) (e : QueryError) :
    compile R conditions = .error e ↔ Refused R conditions e := by
  rw [compile_eq_error, Clause.compileAll_eq_error]
  constructor
  · rintro (⟨before, leaf, after, hleaves, hbefore, hleaf⟩ | ⟨clauses, hclauses, hfields⟩)
    · exact .operand hleaves hbefore hleaf
    · obtain ⟨hleaves, hreads⟩ := Clause.reads_of_compileAll conditions clauses hclauses
      cases hnames : Record.declared R with
      | none => exact absurd ((checkFields_of_not_declared hnames _).symm.trans hfields) nofun
      | some names =>
        obtain ⟨before, path, after, hsplit, hbefore, hpath, rfl⟩ :=
          (checkFields_eq_error_of_declared names hnames _ e).mp hfields
        exact .field hnames hleaves (hreads ▸ hsplit) hbefore hpath
  · rintro (⟨hleaves, hbefore, hleaf⟩ | ⟨hnames, hleaves, hreads, hbefore, hpath⟩)
    · exact .inl ⟨_, _, _, hleaves, hbefore, hleaf⟩
    · obtain ⟨clauses, hclauses⟩ := Clause.compileAll_succeeds conditions hleaves
      obtain ⟨-, hsame⟩ := Clause.reads_of_compileAll conditions clauses hclauses
      refine .inr ⟨clauses, hclauses, (checkFields_eq_error_of_declared _ hnames _ _).mpr ?_⟩
      exact ⟨_, _, _, hsame.trans hreads, hbefore, hpath, rfl⟩

theorem not_refused (conditions : List Condition)
    (hleaves : ∀ leaf ∈ flatConditions conditions, ∃ clauses, Clause.compile leaf.1 leaf.2 = .ok clauses)
    (hfields : ∀ names, Record.declared R = some names →
      ∀ path ∈ (flatConditions conditions).flatMap fieldsRead, rootSegment path ∈ names) (e : QueryError) :
    ¬Refused R conditions e := by
  rintro (⟨hsplit, -, hleaf⟩ | ⟨hnames, -, hsplit, -, hpath⟩)
  · obtain ⟨clauses, hclauses⟩ := hleaves _ (hsplit ▸ List.mem_append_right _ List.mem_cons_self)
    exact absurd (hleaf.symm.trans hclauses) nofun
  · exact hpath (hfields _ hnames _ (hsplit ▸ List.mem_append_right _ List.mem_cons_self))

/-! ## Calls -/

theorem filter_eq_error (s : RecordSet R) (conditions : List Condition) (e : QueryError) :
    s.filter conditions = .error e ↔ Refused R conditions e := by
  change QueryBuilder.filter conditions s = .error e ↔ _
  rw [filter_eq, map_eq_error, compile_refused]

theorem exclude_eq_error (s : RecordSet R) (conditions : List Condition) (e : QueryError) :
    s.exclude conditions = .error e ↔ Refused R conditions e := by
  change QueryBuilder.exclude conditions s = .error e ↔ _
  rw [exclude_eq, map_eq_error, compile_refused]

/-- A filter and an exclusion of the same conditions fail alike: for the first operand that its lookup does not take,
with the error about that operand, or where there is none for the first field that is not declared; and else both
succeed. -/
theorem condition_calls_refused (s : RecordSet R) (conditions : List Condition) :
    (∀ e, s.filter conditions = .error e ↔ s.exclude conditions = .error e) ∧
    (∀ e, s.filter conditions = .error e ↔ Refused R conditions e) ∧
    (∀ leaf ∈ flatConditions conditions, ∀ e, Clause.compile leaf.1 leaf.2 = .error e →
      e.OfOperand ∧ e = (Lookup.ofPath leaf.1).2.refusalOf leaf.2) ∧
    ((∀ leaf ∈ flatConditions conditions, ∃ clauses, Clause.compile leaf.1 leaf.2 = .ok clauses) →
      (∀ names, Record.declared R = some names →
        ∀ path ∈ (flatConditions conditions).flatMap fieldsRead, rootSegment path ∈ names) →
      ∃ kept dropped, s.filter conditions = .ok kept ∧ s.exclude conditions = .ok dropped) := by
  refine ⟨fun e => (s.filter_eq_error conditions e).trans (s.exclude_eq_error conditions e).symm,
    s.filter_eq_error conditions, fun leaf hleaf e he => ?_, fun hleaves hfields => ?_⟩
  · have hgroup := not_isGroup_of_mem_flatConditions conditions leaf hleaf
    exact ⟨Clause.compile_fails leaf.1 leaf.2 e he, Clause.compile_refusal leaf.1 leaf.2 hgroup e he⟩
  · have hnone := not_refused conditions hleaves hfields
    cases hkept : s.filter conditions with
    | error e => exact absurd ((s.filter_eq_error conditions e).mp hkept) (hnone e)
    | ok kept =>
      cases hdropped : s.exclude conditions with
      | error e => exact absurd ((s.exclude_eq_error conditions e).mp hdropped) (hnone e)
      | ok dropped => exact ⟨kept, dropped, rfl, rfl⟩

end RecordSet

/-- Votes compared with the length of the title, which is no field of its own. -/
def longTitles : Condition := ("votes__gt", .field "title__length")

/-- Misspells a field, and names another that posts do not have. -/
def authorVotes : Condition := ("vote__gt", .field "author")

/-- A range without an upper bound, as the group has it and flat. -/
def openRange (path : String) : Condition := (path, .literal (.array [.number (.int 1), .null]))

theorem condition_calls_refused_votes :
    Post.popularPosts.filter [authorVotes, ("votes", .group [openRange "range"])] =
      .error (.invalidRange (.array [.number (.int 1), .null])) ∧
    Post.popularPosts.exclude [longTitles, authorVotes] = .error (.unknownField "vote") ∧
    ∃ kept dropped, Post.popularPosts.filter [longTitles] = .ok kept ∧
      Post.popularPosts.exclude [longTitles] = .ok dropped := by
  have hlong : ∃ clauses, Clause.compile longTitles.1 longTitles.2 = .ok clauses :=
    ⟨[⟨"votes", .gt, .field "title__length"⟩], rfl⟩
  have hauthor : ∃ clauses, Clause.compile authorVotes.1 authorVotes.2 = .ok clauses :=
    ⟨[⟨"vote", .gt, .field "author"⟩], rfl⟩
  have hgroup : flatConditions [authorVotes, ("votes", .group [openRange "range"])] =
      [authorVotes] ++ [openRange "votes__range"] := rfl
  have hreads : (flatConditions [longTitles, authorVotes]).flatMap fieldsRead =
      ["votes", "title__length"] ++ "vote" :: ["author"] := by decide
  obtain ⟨-, hrange, -⟩ := RecordSet.condition_calls_refused Post.popularPosts
    [authorVotes, ("votes", .group [openRange "range"])]
  obtain ⟨hsame, hunknown, -⟩ := RecordSet.condition_calls_refused Post.popularPosts [longTitles, authorVotes]
  obtain ⟨-, -, -, hsucceeds⟩ := RecordSet.condition_calls_refused Post.popularPosts [longTitles]
  refine ⟨(hrange _).mpr ?_, (hsame _).mp ((hunknown _).mpr ?_), hsucceeds ?_ ?_⟩
  · exact .operand hgroup (List.forall_mem_singleton.mpr hauthor) rfl
  · exact .field rfl (List.forall_mem_cons.mpr ⟨hlong, List.forall_mem_singleton.mpr hauthor⟩) hreads (by decide)
      (by decide)
  · exact List.forall_mem_singleton.mpr hlong
  · intro names hnames
    obtain rfl := Option.some.inj hnames
    decide

end RecordQuery
