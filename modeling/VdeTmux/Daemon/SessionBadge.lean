import VdeTmux.Pane.Runtime

/-!
# Counts of badge states
-/

open Foundation VdeTmux.Pane
namespace VdeTmux.Daemon

structure BadgeStateCounts where
  blocked : ℕ := 0
  limited : ℕ := 0
  working : ℕ := 0
  done : ℕ := 0
  unknown : ℕ := 0
  idle : ℕ := 0
deriving DecidableEq

namespace BadgeStateCounts

def push (counts : BadgeStateCounts) : BadgeState → BadgeStateCounts
  | .blocked => { counts with blocked := counts.blocked + 1 }
  | .limited => { counts with limited := counts.limited + 1 }
  | .working => { counts with working := counts.working + 1 }
  | .done => { counts with done := counts.done + 1 }
  | .unknown => { counts with unknown := counts.unknown + 1 }
  | .idle => { counts with idle := counts.idle + 1 }

def fromStates (states : List BadgeState) : BadgeStateCounts := states.foldl push {}

def total (counts : BadgeStateCounts) : ℕ :=
  counts.blocked + counts.limited + counts.working + counts.done + counts.unknown + counts.idle

def of (counts : BadgeStateCounts) : BadgeState → ℕ
  | .blocked => counts.blocked
  | .limited => counts.limited
  | .working => counts.working
  | .done => counts.done
  | .unknown => counts.unknown
  | .idle => counts.idle

theorem of_push (counts : BadgeStateCounts) (state pushed : BadgeState) :
    (counts.push pushed).of state = counts.of state + if pushed = state then 1 else 0 := by
  cases pushed <;> cases state <;> rfl

theorem of_foldl (states : List BadgeState) (counts : BadgeStateCounts) (state : BadgeState) :
    (states.foldl push counts).of state = counts.of state + states.count state := by
  induction states generalizing counts with
  | nil => rfl
  | cons pushed states ih =>
    rw [List.foldl_cons, ih, of_push, List.count_cons, beq_eq_decide]
    simp only [decide_eq_true_eq]
    omega

theorem of_fromStates (states : List BadgeState) (state : BadgeState) :
    (fromStates states).of state = states.count state := by
  rw [fromStates, of_foldl]
  cases state <;> exact Nat.zero_add _

end BadgeStateCounts

end VdeTmux.Daemon
