import Mathlib.Data.List.Sort
import BrowserScript.Proofs.Lists
import BrowserScript.Session.Line
import BrowserScript.Simulation.Client

/-!
# Ledgers of leases

What happens about the leases of targets, in order: they are asked for, granted and given back, and
calls are made under them. Main definitions: `Session.Ledger`, `Ledger.Ordered`. Main result:
`Ledger.Ordered.calls_eq`.
-/

set_option autoImplicit false

namespace BrowserScript.Session

open Simulation (ClientCall)

/-- Something that happens about the lease of a target. -/
inductive Deal where
  | asks (target : String) (lease : OperationId)
  | grants (target : String) (lease : OperationId)
  /-- The lease is given back, or it is no longer waited for. -/
  | returns (target : String) (lease : OperationId)
  /-- A call for the target by one who has asked for this lease, or for none. -/
  | calls (target : String) (lease : Option OperationId) (call : ClientCall)
  deriving DecidableEq

/-- All that has happened. -/
abbrev Ledger := List Deal

namespace Deal

variable (target : String)

/-- The lease of the target that is asked for. -/
def asked? : Deal → Option OperationId
  | asks other lease => if other = target then some lease else none
  | _ => none

def granted? : Deal → Option OperationId
  | grants other lease => if other = target then some lease else none
  | _ => none

/-- The call for the target, with the lease of the one who makes it. -/
def call? : Deal → Option (Option OperationId × ClientCall)
  | calls other lease call => if other = target then some (lease, call) else none
  | _ => none

end Deal

namespace Ledger

section

variable (ledger : Ledger) (target : String)

/-- The leases of a target in the order in which they were asked for. -/
def asked : List OperationId := ledger.filterMap (Deal.asked? target)

/-- The leases of a target in the order in which they were granted. -/
def granted : List OperationId := ledger.filterMap (Deal.granted? target)

/-- The calls for a target in order, with the leases of those who made them. -/
def calls : List (Option OperationId × ClientCall) := ledger.filterMap (Deal.call? target)

/-- The calls for a target by the one who has asked for this lease. -/
def callsUnder (lease : OperationId) : List (Option OperationId × ClientCall) :=
  (ledger.calls target).filter fun entry => entry.1 = some lease

/-- The lease has been asked for and has not been given up since. -/
def Wants (lease : OperationId) : Prop :=
  .asks target lease ∈ ledger ∧ .returns target lease ∉ ledger

/-- The lease has been asked for and is waited for. -/
def Awaits (lease : OperationId) : Prop :=
  ledger.Wants target lease ∧ .grants target lease ∉ ledger

/-- The lease has been granted and has not been given back since. -/
def Holds (lease : OperationId) : Prop :=
  .grants target lease ∈ ledger ∧ .returns target lease ∉ ledger

end

variable {ledger : Ledger} {target : String} {deal : Deal} {lease : OperationId}

theorem mem_asked : lease ∈ ledger.asked target ↔ .asks target lease ∈ ledger :=
  mem_filterMap_of_only fun deal => by cases deal <;> simp [Deal.asked?]

theorem mem_granted : lease ∈ ledger.granted target ↔ .grants target lease ∈ ledger :=
  mem_filterMap_of_only fun deal => by cases deal <;> simp [Deal.granted?]

theorem mem_calls {lease : Option OperationId} {call : ClientCall} :
    (lease, call) ∈ ledger.calls target ↔ .calls target lease call ∈ ledger :=
  mem_filterMap_of_only fun deal => by cases deal <;> simp [Deal.call?]

theorem asked_append :
    asked (ledger ++ [deal]) target = ledger.asked target ++ (deal.asked? target).toList :=
  filterMap_snoc ledger deal

theorem granted_append :
    granted (ledger ++ [deal]) target = ledger.granted target ++ (deal.granted? target).toList :=
  filterMap_snoc ledger deal

theorem calls_append :
    calls (ledger ++ [deal]) target = ledger.calls target ++ (deal.call? target).toList :=
  filterMap_snoc ledger deal

/-- Who has waited for a lease holds it when it is granted. -/
theorem Awaits.granted (awaits : ledger.Awaits target lease) :
    Holds (ledger ++ [.grants target lease]) target lease :=
  ⟨List.mem_append_right _ (List.mem_singleton_self _), by simpa using awaits.1.2⟩

/-! ## Ledgers in order -/

/-- The first of two leases is the earlier one. -/
def Earlier (first second : Option OperationId) : Prop :=
  ∃ lease later, first = some lease ∧ second = some later ∧ lease < later

/-- The second call is not made under an earlier lease than the first one. -/
def InTurn (first second : Option OperationId × ClientCall) : Prop :=
  ∃ lease later, first.1 = some lease ∧ second.1 = some later ∧ lease ≤ later

/-- Leases are numbered in the order in which they are asked for. Of a target they are granted in
this order, each when those before it have been given up, and calls are made under them only. -/
structure Ordered (ledger : Ledger) : Prop where
  asked : ∀ target lease, .grants target lease ∈ ledger ∨ .returns target lease ∈ ledger →
    .asks target lease ∈ ledger
  ascending : ∀ target, (ledger.asked target).Pairwise (· < ·)
  granted : ∀ target, (ledger.granted target).Pairwise (· < ·)
  turns : ∀ target earlier lease, .asks target earlier ∈ ledger → .grants target lease ∈ ledger →
    earlier < lease → .returns target earlier ∈ ledger
  called : ∀ target lease? call, .calls target lease? call ∈ ledger →
    ∃ lease, lease? = some lease ∧ .grants target lease ∈ ledger
  calls : ∀ target, (ledger.calls target).Pairwise InTurn

namespace Ordered

theorem nil : Ordered [] where
  asked _ _ member := by rcases member with member | member <;> cases member
  ascending _ := .nil
  granted _ := .nil
  turns _ _ _ member := by cases member
  called _ _ _ member := by cases member
  calls _ := .nil

theorem wants (ordered : ledger.Ordered) (holds : ledger.Holds target lease) :
    ledger.Wants target lease := ⟨ordered.asked target lease (.inl holds.1), holds.2⟩

/-- One holder at a time. -/
theorem holds_unique (ordered : ledger.Ordered) {first second : OperationId}
    (holds : ledger.Holds target first) (too : ledger.Holds target second) : first = second := by
  rcases Nat.lt_trichotomy first second with less | same | more
  · exact absurd (ordered.turns target first second (ordered.wants holds).1 too.1 less) holds.2
  · exact same
  · exact absurd (ordered.turns target second first (ordered.wants too).1 holds.1 more) too.2

/-- A new lease is asked for. -/
theorem after_asks (ordered : ledger.Ordered)
    (new : ∀ target other, .asks target other ∈ ledger → other < lease) :
    Ordered (ledger ++ [.asks target lease]) where
  asked wanted given member := List.mem_append_left _
    (ordered.asked wanted given (by simpa using member))
  ascending wanted := by
    rw [asked_append, Deal.asked?]
    split
    · refine List.pairwise_append.mpr ⟨ordered.ascending wanted, List.pairwise_singleton _ _, ?_⟩
      intro earlier member later last
      exact List.mem_singleton.mp last ▸ new wanted earlier (mem_asked.mp member)
    · simpa using ordered.ascending wanted
  granted := by simpa [granted_append, Deal.granted?] using ordered.granted
  turns wanted earlier later asks grants less := by
    have had : .grants wanted later ∈ ledger := by simpa using grants
    rw [List.mem_append, List.mem_singleton, Deal.asks.injEq] at asks
    rcases asks with old | ⟨_, rfl⟩
    · exact List.mem_append_left _ (ordered.turns wanted earlier later old had less)
    · have older := new wanted later (ordered.asked wanted later (.inl had))
      exact absurd less (Nat.lt_asymm older)
  called wanted lease? call member := by
    obtain ⟨given, same, grants⟩ := ordered.called wanted lease? call (by simpa using member)
    exact ⟨given, same, List.mem_append_left _ grants⟩
  calls := by simpa [calls_append, Deal.call?] using ordered.calls

/-- A lease is granted when all that were asked for before it have been given up. -/
theorem after_grants (ordered : ledger.Ordered) (awaits : ledger.Awaits target lease)
    (first : ∀ earlier, .asks target earlier ∈ ledger → earlier < lease →
      .returns target earlier ∈ ledger) :
    Ordered (ledger ++ [.grants target lease]) where
  asked wanted given member := by
    simp only [List.mem_append, List.mem_singleton, Deal.grants.injEq, reduceCtorEq,
      or_false] at member ⊢
    rcases member with (old | ⟨rfl, rfl⟩) | old
    · exact ordered.asked _ _ (.inl old)
    · exact awaits.1.1
    · exact ordered.asked _ _ (.inr old)
  ascending := by simpa [asked_append, Deal.asked?] using ordered.ascending
  granted wanted := by
    rw [granted_append, Deal.granted?]
    split
    · next same =>
      subst same
      refine List.pairwise_append.mpr ⟨ordered.granted target, List.pairwise_singleton _ _, ?_⟩
      intro earlier member later last
      obtain rfl := List.mem_singleton.mp last
      have grants := mem_granted.mp member
      rcases Nat.lt_trichotomy earlier later with less | rfl | more
      · exact less
      · exact absurd grants awaits.2
      · exact absurd (ordered.turns target later earlier awaits.1.1 grants more) awaits.1.2
    · simpa using ordered.granted wanted
  turns wanted earlier later asks grants less := by
    simp only [List.mem_append, List.mem_singleton, Deal.grants.injEq, reduceCtorEq,
      or_false] at asks grants ⊢
    rcases grants with old | ⟨rfl, rfl⟩
    · exact ordered.turns wanted earlier later asks old less
    · exact first earlier asks less
  called wanted lease? call member := by
    obtain ⟨given, same, grants⟩ := ordered.called wanted lease? call (by simpa using member)
    exact ⟨given, same, List.mem_append_left _ grants⟩
  calls := by simpa [calls_append, Deal.call?] using ordered.calls

/-- A lease is given up. -/
theorem after_returns (ordered : ledger.Ordered) (asks : .asks target lease ∈ ledger) :
    Ordered (ledger ++ [.returns target lease]) where
  asked wanted given member := by
    simp only [List.mem_append, List.mem_singleton, Deal.returns.injEq, reduceCtorEq,
      or_false] at member ⊢
    rcases member with old | old | ⟨rfl, rfl⟩
    · exact ordered.asked _ _ (.inl old)
    · exact ordered.asked _ _ (.inr old)
    · exact asks
  ascending := by simpa [asked_append, Deal.asked?] using ordered.ascending
  granted := by simpa [granted_append, Deal.granted?] using ordered.granted
  turns wanted earlier later asks grants less := List.mem_append_left _
    (ordered.turns wanted earlier later (by simpa using asks) (by simpa using grants) less)
  called wanted lease? call member := by
    obtain ⟨given, same, grants⟩ := ordered.called wanted lease? call (by simpa using member)
    exact ⟨given, same, List.mem_append_left _ grants⟩
  calls := by simpa [calls_append, Deal.call?] using ordered.calls

/-- The one who holds the lease makes a call. -/
theorem after_calls (ordered : ledger.Ordered) (holds : ledger.Holds target lease)
    (call : ClientCall) : Ordered (ledger ++ [.calls target (some lease) call]) where
  asked := by simpa using ordered.asked
  ascending := by simpa [asked_append, Deal.asked?] using ordered.ascending
  granted := by simpa [granted_append, Deal.granted?] using ordered.granted
  turns := by simpa using ordered.turns
  called wanted lease? made member := by
    rw [List.mem_append, List.mem_singleton, Deal.calls.injEq] at member
    rcases member with old | ⟨rfl, rfl, _⟩
    · obtain ⟨given, same, grants⟩ := ordered.called wanted lease? made old
      exact ⟨given, same, List.mem_append_left _ grants⟩
    · exact ⟨lease, rfl, List.mem_append_left _ holds.1⟩
  calls wanted := by
    rw [calls_append, Deal.call?]
    split
    · next same =>
      subst same
      refine List.pairwise_append.mpr ⟨ordered.calls target, List.pairwise_singleton _ _, ?_⟩
      rintro ⟨lease?, made⟩ member _ last
      obtain rfl := List.mem_singleton.mp last
      obtain ⟨earlier, rfl, grants⟩ := ordered.called target lease? made (mem_calls.mp member)
      refine ⟨earlier, lease, rfl, rfl, Nat.not_lt.mp fun more => ?_⟩
      exact holds.2 (ordered.turns target lease earlier (ordered.wants holds).1 grants more)
    · simpa using ordered.calls wanted

/-- Leases are granted in the order in which they were asked for. -/
theorem granted_sublist (ordered : ledger.Ordered) (target : String) :
    (ledger.granted target).Sublist (ledger.asked target) :=
  have asked : ledger.granted target ⊆ ledger.asked target := fun lease member =>
    mem_asked.mpr (ordered.asked target lease (.inl (mem_granted.mp member)))
  have once : (ledger.granted target).Nodup := (ordered.granted target).imp Nat.ne_of_lt
  List.sublist_of_subperm_of_pairwise (List.subperm_of_subset once asked) (ordered.granted target)
    (ordered.ascending target)

/-- The calls for a target are those under its first lease, then those under its second one, and so
on. -/
theorem calls_eq (ordered : ledger.Ordered) (target : String) :
    ledger.calls target = (ledger.asked target).flatMap (ledger.callsUnder target) := by
  have ascending : ((ledger.asked target).map some).Pairwise Earlier :=
    List.pairwise_map.mpr ((ordered.ascending target).imp fun less => ⟨_, _, rfl, rfl, less⟩)
  have asymm : ∀ first second, Earlier first second → ¬ Earlier second first := by
    rintro _ _ ⟨lease, later, rfl, rfl, less⟩ ⟨_, _, same, too, more⟩
    cases same
    cases too
    exact Nat.lt_asymm less more
  have inOrder : (ledger.calls target).Pairwise fun first second =>
      first.1 = second.1 ∨ Earlier first.1 second.1 := by
    refine (ordered.calls target).imp ?_
    rintro ⟨_, _⟩ ⟨_, _⟩ ⟨lease, later, rfl, rfl, le⟩
    rcases Nat.eq_or_lt_of_le le with rfl | less
    · exact .inl rfl
    · exact .inr ⟨lease, later, rfl, rfl, less⟩
  have covered : ∀ entry ∈ ledger.calls target, entry.1 ∈ (ledger.asked target).map some := by
    rintro ⟨lease?, call⟩ member
    obtain ⟨lease, rfl, grants⟩ := ordered.called target lease? call (mem_calls.mp member)
    exact List.mem_map_of_mem (mem_asked.mpr (ordered.asked target lease (.inl grants)))
  rw [blocks_of_order Prod.fst ascending asymm inOrder covered, List.flatMap_map]
  rfl

end Ordered

end Ledger

end BrowserScript.Session
