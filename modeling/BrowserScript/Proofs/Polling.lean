import Mathlib.Algebra.Order.Floor.Div

/-!
# Polling

Something is probed again and again, at even intervals, until an answer decides or the time is up.
The time is looked at after a probe, so the last probe is the first one at which the time is up.
Main definition: `Polls`. Main results: `ceilDiv_room`, `ceilDiv_late`.
-/

set_option autoImplicit false

namespace BrowserScript

variable {α β : Type} {verdict? : α → Option β} {late outcome : β} {limit last : Nat}
  {answers : Nat → α}

/-- What comes of probes that are answered one after the other, and the number of the last one. The
first answer that decides is the last; if none up to the limit does, they come too late. -/
inductive Polls (verdict? : α → Option β) (late : β) (limit : Nat) (answers : Nat → α) :
    (last : Nat) → β → Prop
  | decided {last : Nat} {verdict : β} (within : last ≤ limit)
      (undecided : ∀ earlier < last, verdict? (answers earlier) = none)
      (decides : verdict? (answers last) = some verdict) :
      Polls verdict? late limit answers last verdict
  | late (undecided : ∀ probe ≤ limit, verdict? (answers probe) = none) :
      Polls verdict? late limit answers limit late

namespace Polls

theorem first {verdict : β} (decides : verdict? (answers 0) = some verdict) :
    Polls verdict? late limit answers 0 verdict :=
  .decided (Nat.zero_le limit) (fun _ less => absurd less (Nat.not_lt_zero _)) decides

/-- A first answer that does not decide leaves one probe less. -/
theorem goesOn (undecided : verdict? (answers 0) = none)
    (polls : Polls verdict? late limit (fun probe => answers (probe + 1)) last outcome) :
    Polls verdict? late (limit + 1) answers (last + 1) outcome := by
  cases polls with
  | decided within others decides =>
    refine .decided (Nat.succ_le_succ within) (fun earlier less => ?_) decides
    cases earlier with
    | zero => exact undecided
    | succ earlier => exact others earlier (Nat.lt_of_succ_lt_succ less)
  | late others =>
    refine .late fun probe within => ?_
    cases probe with
    | zero => exact undecided
    | succ probe => exact others probe (Nat.le_of_succ_le_succ within)

end Polls

/-! ## How many intervals there is time for -/

variable {interval : Nat}

/-- The time is not up at a probe after which another one is due. -/
theorem ceilDiv_room {timeout probe : Nat} (positive : 0 < interval) :
    probe < timeout ⌈/⌉ interval ↔ probe * interval < timeout := by
  rw [← not_le, ceilDiv_le_iff_le_smul positive, smul_eq_mul, not_le, Nat.mul_comm]

/-- At the last probe the time has been up for less than an interval. -/
theorem ceilDiv_late (timeout : Nat) (positive : 0 < interval) :
    timeout ≤ timeout ⌈/⌉ interval * interval ∧
      timeout ⌈/⌉ interval * interval < timeout + interval := by
  constructor
  · exact Nat.not_lt.mp fun early => Nat.lt_irrefl _ ((ceilDiv_room positive).mpr early)
  · cases limit : timeout ⌈/⌉ interval with
    | zero => omega
    | succ before =>
      have early : before * interval < timeout :=
        (ceilDiv_room positive).mp (limit ▸ Nat.lt_succ_self before)
      rw [Nat.succ_mul]
      exact Nat.add_lt_add_right early interval

end BrowserScript
