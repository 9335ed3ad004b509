import RecordQuery.Clause.Compile
import RecordQuery.Proofs.Attempt

/-! Groups of conditions are prefixes of paths. Each operand that is no group lies below a chain of paths; written as
one condition with the joined chain for its path, all of them compile to the clauses of the groups that they were in,
or fail with the same error. -/
namespace RecordQuery
set_option autoImplicit false

/-! ## Leaves -/

namespace Operand

def isGroup : Operand → Bool
  | group _ => true
  | _ => false

mutual

/-- The operands in an operand that are no groups, in order, each with the paths that lead to it. -/
def leavesAt (chain : List String) : Operand → List (List String × Operand)
  | literal value => [(chain, literal value)]
  | geometry value => [(chain, geometry value)]
  | field path => [(chain, field path)]
  | group conditions => leavesUnder chain conditions

def leavesUnder (chain : List String) : List (String × Operand) → List (List String × Operand)
  | [] => []
  | (path, operand) :: conditions => leavesAt (chain ++ [path]) operand ++ leavesUnder chain conditions

end

mutual

theorem not_isGroup_of_mem_leavesAt : ∀ (operand : Operand) (chain : List String),
    ∀ leaf ∈ leavesAt chain operand, leaf.2.isGroup = false
  | literal _, chain, leaf, h | geometry _, chain, leaf, h | field _, chain, leaf, h => by
    rw [leavesAt, List.mem_singleton] at h
    rw [h]
    rfl
  | group conditions, chain, leaf, h => by
    rw [leavesAt] at h
    exact not_isGroup_of_mem_leavesUnder conditions chain leaf h

theorem not_isGroup_of_mem_leavesUnder : ∀ (conditions : List (String × Operand)) (chain : List String),
    ∀ leaf ∈ leavesUnder chain conditions, leaf.2.isGroup = false
  | [], chain, leaf, h => by
    rw [leavesUnder] at h
    exact absurd h List.not_mem_nil
  | (path, operand) :: conditions, chain, leaf, h => by
    rw [leavesUnder, List.mem_append] at h
    rcases h with h | h
    · exact not_isGroup_of_mem_leavesAt operand (chain ++ [path]) leaf h
    · exact not_isGroup_of_mem_leavesUnder conditions chain leaf h

end

end Operand

/-! ## Flat conditions -/

/-- The condition on the path that a chain of paths makes. -/
def chainCondition (leaf : List String × Operand) : Condition := ("__".intercalate leaf.1, leaf.2)

/-- The conditions without groups that groups come down to. -/
def flatConditions (conditions : List Condition) : List Condition :=
  (Operand.leavesUnder [] conditions).map chainCondition

theorem not_isGroup_of_mem_flatConditions (conditions : List Condition) :
    ∀ c ∈ flatConditions conditions, c.2.isGroup = false := by
  intro c hc
  obtain ⟨leaf, hleaf, rfl⟩ := List.mem_map.mp hc
  exact Operand.not_isGroup_of_mem_leavesUnder conditions [] leaf hleaf

theorem flatConditions_cons (path : String) (operand : Operand) (conditions : List Condition) :
    flatConditions ((path, operand) :: conditions) =
      (operand.leavesAt [path]).map chainCondition ++ flatConditions conditions := by
  rw [flatConditions, Operand.leavesUnder, List.nil_append, List.map_append]
  rfl

/-- Without groups, conditions are flat as they stand. -/
theorem flatConditions_of_not_isGroup (conditions : List Condition) (h : ∀ c ∈ conditions, c.2.isGroup = false) :
    flatConditions conditions = conditions := by
  induction conditions with
  | nil => rw [flatConditions, Operand.leavesUnder, List.map_nil]
  | cons condition conditions ih =>
    obtain ⟨path, operand⟩ := condition
    obtain ⟨hoperand, hconditions⟩ := List.forall_mem_cons.mp h
    have hleaf : (operand.leavesAt [path]).map chainCondition = [(path, operand)] := by
      cases operand with
      | group inner => exact absurd hoperand nofun
      | literal _ | geometry _ | field _ =>
        rw [Operand.leavesAt, List.map_singleton, chainCondition, String.intercalate_singleton]
    rw [flatConditions_cons, hleaf, ih hconditions]
    rfl

theorem joinPath_intercalate (chain : List String) (path : String) (h : chain ≠ []) :
    Text.joinPath ("__".intercalate chain) path = "__".intercalate (chain ++ [path]) := by
  rw [String.intercalate_append_of_ne_nil h (List.cons_ne_nil path []), String.intercalate_singleton]
  rfl

/-! ## Compiling -/

namespace Clause

theorem compileAll_append (conditions others : List Condition) :
    compileAll (conditions ++ others) = (do
      let first ← compileAll conditions
      let rest ← compileAll others
      .ok (first ++ rest)) := by
  induction conditions with
  | nil =>
    rw [List.nil_append, compileAll, ok_bind]
    cases compileAll others <;> rfl
  | cons condition conditions ih =>
    rw [List.cons_append, compileAll, compileAll, ih]
    cases compile condition.1 condition.2 with
    | error e => rfl
    | ok first =>
      cases compileAll conditions with
      | error e => rfl
      | ok rest =>
        cases compileAll others with
        | error e => rfl
        | ok last => simp only [ok_bind, List.append_assoc]

theorem compileAll_singleton (condition : Condition) :
    compileAll [condition] = compile condition.1 condition.2 := by
  rw [compileAll, compileAll]
  cases compile condition.1 condition.2 with
  | error e => rfl
  | ok first => rw [ok_bind, ok_bind, List.append_nil]

mutual

/-- Below a chain that leads somewhere, an operand compiles as its leaves do one after the other. -/
theorem compile_leaves : ∀ (operand : Operand) (chain : List String), chain ≠ [] →
    compile ("__".intercalate chain) operand = compileAll ((operand.leavesAt chain).map chainCondition)
  | .literal _, chain, _ | .geometry _, chain, _ | .field _, chain, _ => by
    rw [Operand.leavesAt, List.map_singleton, compileAll_singleton]
    rfl
  | .group conditions, chain, h => by
    rw [Operand.leavesAt, compile]
    exact compileUnder_leaves conditions chain h

theorem compileUnder_leaves : ∀ (conditions : List (String × Operand)) (chain : List String), chain ≠ [] →
    compileUnder ("__".intercalate chain) conditions =
      compileAll ((Operand.leavesUnder chain conditions).map chainCondition)
  | [], chain, _ => by rw [Operand.leavesUnder, compileUnder, List.map_nil, compileAll]
  | (path, operand) :: conditions, chain, h => by
    rw [Operand.leavesUnder, compileUnder, List.map_append, compileAll_append, joinPath_intercalate chain path h,
      compile_leaves operand (chain ++ [path]) (List.append_ne_nil_of_right_ne_nil chain (List.cons_ne_nil path [])),
      compileUnder_leaves conditions chain h]

end

/-- Conditions compile as the flat ones do: to the same clauses, or with the same error. -/
theorem compileAll_flatConditions (conditions : List Condition) :
    compileAll (flatConditions conditions) = compileAll conditions := by
  induction conditions with
  | nil => rw [flatConditions, Operand.leavesUnder, List.map_nil]
  | cons condition conditions ih =>
    obtain ⟨path, operand⟩ := condition
    have hpath : compile path operand = compileAll ((operand.leavesAt [path]).map chainCondition) := by
      rw [← compile_leaves operand [path] (List.cons_ne_nil path []), String.intercalate_singleton]
    rw [flatConditions_cons, compileAll_append, ih, compileAll, hpath]

/-! ## The number of clauses -/

theorem length_compile (path : String) (operand : Operand) (clauses : List Clause) (hoperand : operand.isGroup = false)
    (h : compile path operand = .ok clauses) : clauses.length = 1 := by
  cases operand with
  | group inner => exact absurd hoperand nofun
  | literal _ | geometry _ | field _ =>
    rw [compile, bind_eq_ok] at h
    obtain ⟨clause, _, h⟩ := h
    rw [← Except.ok.inj h, List.length_singleton]

theorem length_compileAll_of_not_isGroup (conditions : List Condition) (clauses : List Clause)
    (hgroups : ∀ c ∈ conditions, c.2.isGroup = false) (h : compileAll conditions = .ok clauses) :
    clauses.length = conditions.length := by
  induction conditions generalizing clauses with
  | nil =>
    rw [← Except.ok.inj h]
    rfl
  | cons condition conditions ih =>
    obtain ⟨hoperand, hgroups⟩ := List.forall_mem_cons.mp hgroups
    rw [compileAll, bind_eq_ok] at h
    obtain ⟨first, hfirst, h⟩ := h
    rw [bind_eq_ok] at h
    obtain ⟨rest, hrest, h⟩ := h
    have hone : first.length = 1 := length_compile condition.1 condition.2 first hoperand hfirst
    have hothers : rest.length = conditions.length := ih rest hgroups hrest
    rw [← Except.ok.inj h, List.length_append, List.length_cons, hone, hothers, Nat.add_comm]

/-- Conditions compile to one clause for each operand in them that is no group. -/
theorem length_compileAll (conditions : List Condition) (clauses : List Clause)
    (h : compileAll conditions = .ok clauses) : clauses.length = (flatConditions conditions).length := by
  rw [← compileAll_flatConditions] at h
  exact length_compileAll_of_not_isGroup _ clauses (not_isGroup_of_mem_flatConditions conditions) h

end Clause

end RecordQuery
