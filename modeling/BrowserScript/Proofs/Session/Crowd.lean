import BrowserScript.Proofs.Session.News

/-!
# A crowd of sessions

However many targets there are, a manager can come to be attached to all of them. Main definition:
`Session.crowd`. Main results: `Session.crowd_reached`, `Session.crowd_attached_iff`.
-/

set_option autoImplicit false

namespace BrowserScript.Session

open Manager

/-- A name for every number. -/
def tally (mark : Char) (k : Nat) : String := String.ofList (List.replicate k mark)

theorem tally_inj {mark : Char} {k k' : Nat} (same : tally mark k = tally mark k') : k = k' := by
  have lists := String.ofList_injective same
  simpa using congrArg List.length lists

/-- The handle of the target with a number. -/
def crowdHandle (k : Nat) : SessionHandle := ⟨tally 'T' k, tally 'S' k, true, k + 1⟩

def crowdSlot (k : Nat) : Slot := ⟨tally 'T' k, .attached (crowdHandle k), [], [], false, true⟩

/-- A manager with so many attached targets. -/
def crowd (n : Nat) : Manager :=
  { ofSettings {} with
    slots := (List.range n).map crowdSlot
    nextOperation := n
    generation := n }

/-- A manager with so many attached targets and one that is being attached to. -/
def crowdWith (n : Nat) (slot : Slot) (operation : Operation) (generation : Nat) : Manager :=
  { ofSettings {} with
    slots := (List.range n).map crowdSlot ++ [slot]
    operations := [(n, operation)]
    nextOperation := n + 1
    generation }

theorem modify_last {α : Type} (init : List α) (last : α) (f : α → α) :
    (init ++ [last]).modify init.length f = init ++ [f last] := by
  induction init with
  | nil => rfl
  | cons _ _ induction => exact congrArg (List.cons _) induction

theorem crowd_missing (n : Nat) : (crowd n).find? (tally 'T' n) = none := by
  refine List.findIdx?_eq_none_iff.mpr fun slot member => ?_
  obtain ⟨k, inside, rfl⟩ := List.mem_map.mp member
  have different : tally 'T' k ≠ tally 'T' n := fun same =>
    Nat.ne_of_lt (List.mem_range.mp inside) (tally_inj same)
  simp [crowdSlot, different]

variable {n generation : Nat} {slot : Slot} {operation later : Operation}

theorem crowdWith_slot : (crowdWith n slot operation generation).slot n = slot := by
  simp [Manager.slot, crowdWith]

theorem crowdWith_updateSlot (f : Slot → Slot) :
    (crowdWith n slot operation generation).updateSlot n f =
      crowdWith n (f slot) operation generation := by
  have last : ((List.range n).map crowdSlot ++ [slot]).modify n f =
      (List.range n).map crowdSlot ++ [f slot] := by
    simpa using modify_last ((List.range n).map crowdSlot) slot f
  unfold updateSlot crowdWith
  rw [last]

theorem crowdWith_setOperation :
    (crowdWith n slot operation generation).setOperation n later =
      crowdWith n slot later generation := by
  simp [setOperation, crowdWith]

theorem crowdWith_publish (state : SessionState) (calm : waitsOn n operation = false) :
    (crowdWith n slot operation generation).publish n state =
      crowdWith n { slot with state } operation generation := by
  have watching : (crowdWith n slot operation generation).operations.filter
      (fun entry => waitsOn n entry.2) = [] := by simp [crowdWith, calm]
  unfold publish
  rw [watching, crowdWith_updateSlot]
  rfl

theorem crowdWith_joinAttachLine : (crowdWith n slot operation generation).joinAttachLine n n =
    crowdWith n { slot with attachLine := slot.attachLine.join n } operation generation :=
  crowdWith_updateSlot _

/-- The next target is attached to at once. -/
theorem crowd_ensure : (crowd n).move 0 (.ensure (tally 'T' n)) =
    (crowdWith n ⟨tally 'T' n, .attaching, [n], [], false, true⟩
      (.ensure n (.attempting .opening)) n, some (n, .attach (tally 'T' n))) := by
  have calm : waitsOn n (.ensure n .inLine) = false := rfl
  have turn : Line.hasTurn (Line.join [] n) n = true := by simp [Line.hasTurn, Line.join]
  have made : (crowd n).slotOf (tally 'T' n) = ({ crowd n with
      slots := (crowd n).slots ++ [⟨tally 'T' n, .detached, [], [], false, true⟩] }, n) := by
    unfold slotOf
    rw [crowd_missing]
    simp [crowd]
  have idle : ({ crowd n with
      slots := (crowd n).slots ++ [⟨tally 'T' n, .detached, [], [], false, true⟩] } : Manager).slot
        n = ⟨tally 'T' n, .detached, [], [], false, true⟩ := by
    simp [Manager.slot, crowd]
  have begun : ({ crowd n with
      slots := (crowd n).slots ++ [⟨tally 'T' n, .detached, [], [], false, true⟩] } : Manager).begin
        (.ensure n .inLine) =
      (crowdWith n ⟨tally 'T' n, .detached, [], [], false, true⟩ (.ensure n .inLine) n, n) := rfl
  simp only [Manager.move, ensure, made, idle, SessionState.handle?, begun, lineUp,
    crowdWith_joinAttachLine, crowdWith_setOperation, tryTurn, crowdWith_slot, turn, if_true,
    takeTurn, crowdWith_publish _ calm, openSession, attempting, Purpose.operation]
  rfl

theorem crowdWith_operation? :
    (crowdWith n slot operation generation).operation? n = some operation := by
  simp [Manager.operation?, crowdWith]

theorem crowdWith_leaveAttachLine (alone : slot.attachLine = [n]) :
    (crowdWith n slot operation generation).leaveAttachLine n n =
      crowdWith n { slot with attachLine := [] } operation generation := by
  have nobody : Line.next? [n] n = none := by simp [Line.next?, Line.leave]
  have left : Line.leave [n] n = [] := by simp [Line.leave]
  unfold leaveAttachLine
  rw [crowdWith_slot, alone, nobody, crowdWith_updateSlot, alone, left]
  rfl

theorem crowdWith_finish :
    (crowdWith n (crowdSlot n) operation (n + 1)).finish n = crowd (n + 1) := by
  simp [finish, crowdWith, crowd, List.range_succ, ofSettings]

theorem crowd_opened : ∃ deadline,
    ((crowdWith n slot (.ensure n (.attempting .opening)) n).move 0
      (.resume n (.attached (.ok (tally 'S' n))))).1 =
        crowdWith n slot (.ensure n (.attempting (.probing (tally 'S' n) deadline))) n := by
  refine ⟨0 + (ofSettings {}).settings.readyTimeoutMs.toNat, ?_⟩
  simp only [Manager.move, resume, crowdWith_operation?, advance, attempting, Purpose.operation,
    crowdWith_setOperation]
  rfl

theorem crowd_ready (deadline : Nat) :
    ((crowdWith n ⟨tally 'T' n, .attaching, [n], [], false, true⟩
      (.ensure n (.attempting (.probing (tally 'S' n) deadline))) n).move 0
        (.resume n (.probed (.ok (.str "complete"))))).1 = crowd (n + 1) := by
  have ready : readiness (.ok (.str "complete")) = .ready := rfl
  have calm : waitsOn n (.ensure n (.attempting (.probing (tally 'S' n) deadline))) = false := rfl
  simp only [Manager.move, resume, crowdWith_operation?, advance, ready, succeed, conclude,
    crowdWith_slot]
  change (((crowdWith n _ _ (n + 1)).publish n (.attached (crowdHandle n))).leaveAttachLine
    n n).finish n = _
  rw [crowdWith_publish _ calm, crowdWith_leaveAttachLine rfl]
  exact crowdWith_finish

/-- Every crowd can come together. -/
theorem crowd_reached (n : Nat) : Reaches {} 0 (crowd n) := by
  induction n with
  | zero => exact .start
  | succ n induction =>
    have wanted := induction.move (.ensure (tally 'T' n)) trivial
    rw [crowd_ensure] at wanted
    have opened := wanted.move (.resume n (.attached (.ok (tally 'S' n))))
      ⟨_, crowdWith_operation?, rfl⟩
    obtain ⟨deadline, probing⟩ := @crowd_opened n
      ⟨tally 'T' n, .attaching, [n], [], false, true⟩
    rw [probing] at opened
    have ready := opened.move (.resume n (.probed (.ok (.str "complete"))))
      ⟨_, crowdWith_operation?, rfl⟩
    rw [crowd_ready] at ready
    exact ready

/-- Exactly the targets of the crowd are attached. -/
theorem crowd_attached_iff {target : String} {handle : SessionHandle} :
    (crowd n).stateOf target = .attached handle ↔
      ∃ k, k < n ∧ target = tally 'T' k ∧ handle = crowdHandle k := by
  have slots : ∀ k, (crowd n).slot k = if k < n then crowdSlot k else default := by
    intro k
    unfold Manager.slot crowd
    rw [List.getD_eq_getElem?_getD, List.getElem?_map]
    split
    · next inside => simp [inside]
    · next outside => simp [outside]
  rw [attached_iff (crowd_reached n).sound]
  constructor
  · rintro ⟨k, known, rfl, state⟩
    rw [slots] at known state ⊢
    split at state
    · next inside =>
      rw [if_pos inside]
      exact ⟨k, inside, rfl, (SessionState.attached.inj state).symm⟩
    · cases state
  · rintro ⟨k, inside, rfl, rfl⟩
    have slot := slots k
    rw [if_pos inside] at slot
    exact ⟨k, by rw [slot]; rfl, by rw [slot]; rfl, by rw [slot]; rfl⟩

end BrowserScript.Session
