import RecordQuery.Proofs.Attempt
import RecordQuery.QueryTree
import RecordQuery.Recording

/-! Trees and the calls that they make. What a recorder keeps of a tree depends on the calls before, for each part of a
disjunction starts with all of them. Replayed from any builder, the calls do what the tree does: they come to the same
builder, or to the same error. -/
namespace RecordQuery
set_option autoImplicit false

/-- A recorder on which every call succeeds. -/
abbrev Transcript (ε : Type) : Type := Recorder fun _ : Call => (none : Option ε)

universe u v
variable {B : Type u} {ε : Type v} [QueryBuilder B ε]

theorem Call.runAll_append (start : B) (xs ys : List Call) (b : B) :
    runAll start (xs ++ ys) b = runAll start xs b >>= runAll start ys := by
  induction xs generalizing b with
  | nil => rfl
  | cons x xs ih =>
    rw [List.cons_append, runAll, runAll]
    cases run start x b with
    | error e => rfl
    | ok b' => exact ih b'

theorem Call.runAll_singleton (start : B) (call : Call) (b : B) : runAll start [call] b = run start call b := by
  rw [runAll]
  cases run start call b <;> rfl

namespace QueryTree

/-! ## Recorded calls -/

mutual

/-- The calls that a tree makes on a recorder, which has kept others before. -/
def callsAfter : QueryTree → List Call → List Call
  | identity, _ => []
  | all, _ => [.all]
  | filter _ cs, _ => [.filter cs]
  | exclude _ cs, _ => [.exclude cs]
  | orderBy entries, _ => [.orderBy entries]
  | distinct, _ => [.distinct]
  | allOf ts, before => callsAfterEach ts before
  | anyOf ts, before => .none :: joinsAfter ts before

def callsAfterEach : List QueryTree → List Call → List Call
  | [], _ => []
  | t :: ts, before => callsAfter t before ++ callsAfterEach ts (before ++ callsAfter t before)

/-- One union a tree; the recorder joined in has kept what was recorded before. -/
def joinsAfter : List QueryTree → List Call → List Call
  | [], _ => []
  | t :: ts, before => .union (before ++ callsAfter t before) :: joinsAfter ts before

end

variable {ζ : Type}

mutual

theorem apply_transcript : ∀ (t : QueryTree) (before : List Call),
    t.apply (⟨before⟩ : Transcript ζ) = .ok ⟨before ++ t.callsAfter before⟩
  | identity, before => by rw [apply, callsAfter, List.append_nil]
  | all, before => by rw [apply, callsAfter]; rfl
  | filter _ cs, before => by rw [apply, callsAfter]; rfl
  | exclude _ cs, before => by rw [apply, callsAfter]; rfl
  | orderBy entries, before => by rw [apply, callsAfter]; rfl
  | distinct, before => by rw [apply, callsAfter]; rfl
  | allOf ts, before => by
    rw [apply, callsAfter]
    exact applyEach_transcript ts before
  | anyOf ts, before => by
    have h := joinEach_transcript ts before (before ++ [.none])
    rw [List.append_assoc] at h
    rw [apply, callsAfter]
    exact h

theorem applyEach_transcript : ∀ (ts : List QueryTree) (before : List Call),
    applyEach ts (⟨before⟩ : Transcript ζ) = .ok ⟨before ++ callsAfterEach ts before⟩
  | [], before => by rw [applyEach, callsAfterEach, List.append_nil]
  | t :: ts, before => by
    have h := applyEach_transcript ts (before ++ t.callsAfter before)
    rw [List.append_assoc] at h
    rw [applyEach, callsAfterEach, apply_transcript t before, ok_bind, h]

theorem joinEach_transcript : ∀ (ts : List QueryTree) (before joined : List Call),
    joinEach ts (⟨before⟩ : Transcript ζ) ⟨joined⟩ = .ok ⟨joined ++ joinsAfter ts before⟩
  | [], before, joined => by rw [joinEach, joinsAfter, List.append_nil]
  | t :: ts, before, joined => by
    have h := joinEach_transcript ts before (joined ++ [.union (before ++ t.callsAfter before)])
    rw [List.append_assoc] at h
    rw [joinEach, joinsAfter, apply_transcript t before, ok_bind]
    exact h

end

/-! ## Replay -/

mutual

/-- From what the calls before come to, the calls of a tree do what the tree does. -/
theorem runAll_callsAfter (start : B) : ∀ (t : QueryTree) (before : List Call) (b : B),
    Call.runAll start before start = .ok b → Call.runAll start (t.callsAfter before) b = t.apply b
  | identity, before, b, _ => by rw [apply, callsAfter, Call.runAll]
  | all, before, b, _ => by rw [apply, callsAfter, Call.runAll_singleton, Call.run]
  | filter _ cs, before, b, _ => by rw [apply, callsAfter, Call.runAll_singleton, Call.run]
  | exclude _ cs, before, b, _ => by rw [apply, callsAfter, Call.runAll_singleton, Call.run]
  | orderBy entries, before, b, _ => by rw [apply, callsAfter, Call.runAll_singleton, Call.run]
  | distinct, before, b, _ => by rw [apply, callsAfter, Call.runAll_singleton, Call.run]
  | allOf ts, before, b, h => by
    rw [apply, callsAfter]
    exact runAll_callsAfterEach start ts before b h
  | anyOf ts, before, b, h => by
    rw [apply, callsAfter, Call.runAll, Call.run]
    cases QueryBuilder.none b with
    | error e => rfl
    | ok nothing => exact runAll_joinsAfter start ts before b nothing h

theorem runAll_callsAfterEach (start : B) : ∀ (ts : List QueryTree) (before : List Call) (b : B),
    Call.runAll start before start = .ok b → Call.runAll start (callsAfterEach ts before) b = applyEach ts b
  | [], before, b, _ => by rw [applyEach, callsAfterEach, Call.runAll]
  | t :: ts, before, b, h => by
    have ht := runAll_callsAfter start t before b h
    have hbefore : Call.runAll start (before ++ t.callsAfter before) start = t.apply b := by
      rw [Call.runAll_append, h, ok_bind, ht]
    rw [applyEach, callsAfterEach, Call.runAll_append, ht]
    cases hb : t.apply b with
    | error e => rfl
    | ok b' => exact runAll_callsAfterEach start ts _ b' (hbefore.trans hb)

theorem runAll_joinsAfter (start : B) : ∀ (ts : List QueryTree) (before : List Call) (b joined : B),
    Call.runAll start before start = .ok b → Call.runAll start (joinsAfter ts before) joined = joinEach ts b joined
  | [], before, b, joined, _ => by rw [joinEach, joinsAfter, Call.runAll]
  | t :: ts, before, b, joined, h => by
    -- the union runs the calls before once more, and so comes to the builder that the disjunction started from
    have hbranch : Call.runAll start (before ++ t.callsAfter before) start = t.apply b := by
      rw [Call.runAll_append, h, ok_bind, runAll_callsAfter start t before b h]
    rw [joinEach, joinsAfter, Call.runAll, Call.run, hbranch]
    cases t.apply b with
    | error e => rfl
    | ok branch =>
      rw [ok_bind, ok_bind]
      cases QueryBuilder.union joined branch with
      | error e => rfl
      | ok joined' => exact runAll_joinsAfter start ts before b joined' h

end

/-- A tree can be recorded, from the start, and replaying its calls on a builder gives what the tree gives, the same
builder or the same error. -/
theorem replay_recorded (t : QueryTree) (b : B) :
    ∃ r : Transcript ζ, t.apply ⟨[]⟩ = .ok r ∧ replay r.calls b = t.apply b := by
  refine ⟨_, apply_transcript t [], ?_⟩
  rw [List.nil_append, replay]
  exact runAll_callsAfter b t [] b rfl

example : (allOf [distinct, anyOf [all, anyOf [identity]]]).callsAfter [] =
    [.distinct, .none, .union [.distinct, .all], .union [.distinct, .none, .union [.distinct]]] := rfl

end QueryTree

end RecordQuery
