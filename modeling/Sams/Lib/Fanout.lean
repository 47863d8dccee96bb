import Mathlib.Algebra.Ring.Nat
import Mathlib.Data.List.Basic
import Sams.Lib.Runs

/-!
# A bounded fan-out

Tasks are started and finish in any order, at most `cap` of them at a time; each finish puts down
what the task came to in the task's own place.

* **`gathered`** — once all have finished, the results are those of the tasks, in
  the order of the tasks.
* **`completes`** — from wherever a schedule has come to, the tasks can be brought to an end.
-/

namespace Fanout

open Runs

variable {α : Type}

/-- Where a task stands. -/
inductive Phase (α : Type) where
  | waiting
  | running
  | done (a : α)
  deriving Repr

/-- The scheduler lets a task take the semaphore, or come to its end. -/
inductive Turn where
  | start (i : Nat)
  | finish (i : Nat)
  deriving DecidableEq, Repr

namespace Phase

def isRunning : Phase α → Bool
  | running => true
  | _ => false

/-- The turns that the task is away from its end. -/
def left : Phase α → Nat
  | waiting => 2
  | running => 1
  | done _ => 0

end Phase

/-- The tasks before any has started. -/
def initial (tasks : List α) : List (Phase α) := tasks.map fun _ => .waiting

/-- One turn; `tasks` is what each of them comes to. A turn that is not due does nothing. -/
def step (cap : Nat) (tasks : List α) (ps : List (Phase α)) : Turn → List (Phase α)
  | .start i =>
    match ps[i]? with
    | some .waiting => if ps.countP Phase.isRunning < cap then ps.set i .running else ps
    | _ => ps
  | .finish i =>
    match ps[i]?, tasks[i]? with
    | some .running, some a => ps.set i (.done a)
    | _, _ => ps

/-- The results, once all are there. -/
def results : List (Phase α) → Option (List α)
  | [] => some []
  | .done a :: ps => (results ps).map (a :: ·)
  | _ :: _ => none

theorem results_eq_some {ps : List (Phase α)} {rs : List α} :
    results ps = some rs ↔ ps = rs.map Phase.done := by
  induction ps generalizing rs with
  | nil => cases rs <;> simp [results]
  | cons p ps ih =>
    cases p with
    | done a =>
      rw [results, Option.map_eq_some_iff]
      constructor
      · intro h
        obtain ⟨as, has, h⟩ := h
        rw [← h, ih.1 has]
        rfl
      · intro h
        cases rs with
        | nil => cases h
        | cons b bs =>
          rw [List.map_cons, List.cons.injEq, Phase.done.injEq] at h
          exact ⟨bs, ih.2 h.2, by rw [h.1]⟩
    | waiting => cases rs <;> simp [results]
    | running => cases rs <;> simp [results]

section Laws

variable {cap : Nat} {tasks : List α} {ps : List (Phase α)}

/-- Every task has its place, and a result that is there is its own. -/
structure Sound (tasks : List α) (ps : List (Phase α)) : Prop where
  length : ps.length = tasks.length
  own : ∀ (i : Nat) (a : α), ps[i]? = some (.done a) → tasks[i]? = some a

theorem sound_initial (tasks : List α) : Sound tasks (initial tasks) where
  length := List.length_map _
  own i a h := by
    unfold initial at h
    rw [List.getElem?_map] at h
    obtain ⟨x, -, hx⟩ := Option.map_eq_some_iff.1 h
    cases hx

/-- What one turn can do. -/
theorem step_cases (cap : Nat) (tasks : List α) (ps : List (Phase α)) (turn : Turn) :
    step cap tasks ps turn = ps ∨
    (∃ i, ps[i]? = some .waiting ∧ ps.countP Phase.isRunning < cap ∧
      step cap tasks ps turn = ps.set i .running) ∨
    ∃ i a, ps[i]? = some .running ∧ tasks[i]? = some a ∧
      step cap tasks ps turn = ps.set i (.done a) := by
  cases turn with
  | start i =>
    simp only [step]
    split
    · rename_i h
      split_ifs with hcap
      · exact .inr (.inl ⟨i, h, hcap, rfl⟩)
      · exact .inl rfl
    · exact .inl rfl
  | finish i =>
    simp only [step]
    split
    · rename_i a h ha
      exact .inr (.inr ⟨i, a, h, ha, rfl⟩)
    · exact .inl rfl

theorem Sound.step (h : Sound tasks ps) (turn : Turn) : Sound tasks (step cap tasks ps turn) := by
  rcases step_cases cap tasks ps turn with hs | ⟨i, -, -, hs⟩ | ⟨i, a, -, ha, hs⟩
  · rw [hs]
    exact h
  · rw [hs]
    refine ⟨by rw [List.length_set, h.length], fun j b hj => ?_⟩
    rw [List.getElem?_set] at hj
    split_ifs at hj
    · cases hj
    · exact h.own j b hj
  · rw [hs]
    refine ⟨by rw [List.length_set, h.length], fun j b hj => ?_⟩
    rw [List.getElem?_set] at hj
    split_ifs at hj with hij
    · cases hj
      rw [← hij]
      exact ha
    · exact h.own j b hj

theorem Sound.run (cap : Nat) (h : Sound tasks ps) (turns : List Turn) :
    Sound tasks (run (Fanout.step cap tasks) ps turns) := by
  induction turns generalizing ps with
  | nil => exact h
  | cons turn turns ih => exact ih (h.step turn)

/-- **The results** stand in the order of the tasks, whatever the schedule. -/
theorem gathered {turns : List Turn} {rs : List α}
    (h : results (run (step cap tasks) (initial tasks) turns) = some rs) : rs = tasks := by
  have hsound := (sound_initial tasks).run cap turns
  rw [results_eq_some.1 h] at hsound
  apply List.ext_getElem
  · simpa using hsound.length
  · intro i hi hi'
    have hdone := hsound.own i rs[i] (by simp [List.getElem?_eq_getElem hi])
    rw [List.getElem?_eq_getElem hi', Option.some.injEq] at hdone
    exact hdone.symm

/-! ## The end -/

/-- The turns that are left to all the tasks. -/
def left (ps : List (Phase α)) : Nat := (ps.map Phase.left).sum

theorem left_set {i : Nat} {x y : Phase α} (hi : ps[i]? = some x) :
    left (ps.set i y) + x.left = left ps + y.left := by
  induction ps generalizing i with
  | nil => cases hi
  | cons p ps ih =>
    cases i with
    | zero =>
      rw [List.getElem?_cons_zero, Option.some.injEq] at hi
      subst hi
      simp only [left, List.set_cons_zero, List.map_cons, List.sum_cons]
      omega
    | succ i =>
      have h := ih hi
      simp only [left, List.set_cons_succ, List.map_cons, List.sum_cons] at h ⊢
      omega

/-- Where a task is not at its end, some turn brings one nearer to it. -/
theorem progress (hcap : 0 < cap) (h : Sound tasks ps) (hleft : left ps ≠ 0) :
    ∃ turn, left (step cap tasks ps turn) < left ps := by
  by_cases hrunning : ∃ i : Nat, ps[i]? = some Phase.running
  · obtain ⟨i, hi⟩ := hrunning
    obtain ⟨hlt, -⟩ := List.getElem?_eq_some_iff.1 hi
    have hi' : i < tasks.length := h.length ▸ hlt
    have hstep : step cap tasks ps (.finish i) = ps.set i (.done tasks[i]) := by
      simp only [step, hi, List.getElem?_eq_getElem hi']
    have hset := left_set (y := .done tasks[i]) hi
    refine ⟨.finish i, ?_⟩
    rw [hstep]
    simp only [Phase.left] at hset
    omega
  · have hnone : ps.countP Phase.isRunning = 0 := by
      rw [List.countP_eq_zero]
      intro p hp
      obtain ⟨i, hi⟩ := List.getElem?_of_mem hp
      cases p with
      | running => exact absurd ⟨i, hi⟩ hrunning
      | waiting => simp [Phase.isRunning]
      | done a => simp [Phase.isRunning]
    have hwaiting : ∃ p ∈ ps, p.left ≠ 0 := by
      by_contra hall
      refine hleft (List.sum_eq_zero_iff_forall_eq_nat.2 fun n hn => ?_)
      obtain ⟨p, hp, rfl⟩ := List.mem_map.1 hn
      by_contra hne
      exact hall ⟨p, hp, hne⟩
    obtain ⟨p, hp, hne⟩ := hwaiting
    obtain ⟨i, hi⟩ := List.getElem?_of_mem hp
    cases p with
    | running => exact absurd ⟨i, hi⟩ hrunning
    | done a => exact absurd rfl hne
    | waiting =>
      have hstep : step cap tasks ps (.start i) = ps.set i .running := by
        simp only [step, hi, hnone, if_pos hcap]
      have hset := left_set (y := .running) hi
      refine ⟨.start i, ?_⟩
      rw [hstep]
      simp only [Phase.left] at hset
      omega

/-- **The tasks come to their end** from wherever a schedule has brought them. -/
theorem completes (hcap : 0 < cap) (h : Sound tasks ps) :
    ∃ turns, results (run (step cap tasks) ps turns) = some tasks := by
  induction hn : left ps using Nat.strongRecOn generalizing ps with
  | ind n ih =>
    by_cases hleft : left ps = 0
    · refine ⟨[], results_eq_some.2 ?_⟩
      rw [run_nil]
      apply List.ext_getElem
      · rw [h.length, List.length_map]
      · intro i hi hi'
        have hzero : (ps[i]).left = 0 :=
          List.sum_eq_zero_iff_forall_eq_nat.1 hleft _ (List.mem_map_of_mem (List.getElem_mem hi))
        cases hp : ps[i] with
        | done a =>
          have hown := h.own i a (by rw [List.getElem?_eq_getElem hi, hp])
          rw [List.length_map] at hi'
          rw [List.getElem?_eq_getElem hi', Option.some.injEq] at hown
          rw [List.getElem_map, hown]
        | waiting =>
          rw [hp] at hzero
          cases hzero
        | running =>
          rw [hp] at hzero
          cases hzero
    · obtain ⟨turn, hturn⟩ := progress hcap h hleft
      obtain ⟨turns, hturns⟩ := ih _ (hn ▸ hturn) (h.step turn) rfl
      exact ⟨turn :: turns, hturns⟩

end Laws

end Fanout
