import Mathlib.Data.List.Basic
import BrowserScript.Session.Manager

/-!
# Slots and operations of the manager

What each small change of the manager does to its slots and to its operations, and what it leaves
alone. Main results: `Manager.slot_updateSlot`, `Manager.operation?_begin`,
`Manager.operation?_setOperation`, `Manager.operation?_finish`, `Manager.stateOf_eq`.
-/

set_option autoImplicit false

namespace BrowserScript.Session

namespace Line

variable {line : Line} {id other : OperationId}

@[grind =] theorem mem_join : other ∈ line.join id ↔ other ∈ line ∨ other = id := by
  unfold join
  rw [List.mem_append, List.mem_singleton]

@[grind =] theorem mem_leave (once : line.Nodup) :
    other ∈ line.leave id ↔ other ≠ id ∧ other ∈ line :=
  once.mem_erase_iff

theorem nodup_join (once : line.Nodup) (absent : id ∉ line) : (line.join id).Nodup :=
  List.nodup_append.mpr ⟨once, List.pairwise_singleton _ id, fun _ member _ last same =>
    absent (List.mem_singleton.mp last ▸ same ▸ member)⟩

theorem nodup_leave (once : line.Nodup) : (line.leave id).Nodup := once.erase id

@[grind =] theorem hasTurn_iff : line.hasTurn id = true ↔ line.head? = some id := beq_iff_eq

/-- Who comes last does not change who is first. -/
theorem head?_join (first : line.head? = some other) : (line.join id).head? = some other := by
  cases line with
  | nil => cases first
  | cons _ _ => exact first

/-- Who is first stays first when others leave. -/
theorem head?_leave (first : line.head? = some other) (others : other ≠ id) :
    (line.leave id).head? = some other := by
  cases line with
  | nil => cases first
  | cons front rest =>
    obtain rfl : front = other := Option.some.inj first
    unfold leave
    rw [List.erase_cons_tail (by simpa using others)]
    rfl

end Line

namespace Operation

/-- The slot of an operation. -/
def slot : Operation → SlotId
  | ensure slot _ | reattach slot _ | detach slot _ | acquire slot | recover slot _ _ => slot

end Operation

/-- Somebody uses the slot or waits for it. -/
def Slot.inUse (slot : Slot) : Bool :=
  slot.running || !slot.scriptLine.isEmpty || !slot.attachLine.isEmpty

namespace Manager

variable {m : Manager} {i j : SlotId} {id other : OperationId}

/-! ## Slots -/

@[simp, grind =] theorem slots_updateSlot (f : Slot → Slot) :
    (m.updateSlot i f).slots = m.slots.modify i f := rfl

@[grind =] theorem slot_updateSlot (f : Slot → Slot) :
    (m.updateSlot i f).slot j = if i = j ∧ j < m.slots.length then f (m.slot j) else m.slot j := by
  unfold slot
  rw [slots_updateSlot, List.getD_eq_getElem?_getD, List.getD_eq_getElem?_getD,
    List.getElem?_modify]
  by_cases inside : j < m.slots.length
  · rw [List.getElem?_eq_getElem inside]
    by_cases same : i = j <;> simp [same, inside]
  · rw [List.getElem?_eq_none (Nat.le_of_not_lt inside)]
    simp [inside]

/-- A slot that has not been made is idle. -/
theorem slot_outside (outside : m.slots.length ≤ i) : m.slot i = default := by
  unfold slot
  rw [List.getD_eq_getElem?_getD, List.getElem?_eq_none outside]
  rfl

@[grind =] theorem slot_added (slot : Slot) :
    ({ m with slots := m.slots ++ [slot] } : Manager).slot j =
      if j = m.slots.length then slot else m.slot j := by
  unfold Manager.slot
  rw [List.getD_eq_getElem?_getD, List.getD_eq_getElem?_getD, List.getElem?_append]
  split
  · next inside => rw [if_neg (Nat.ne_of_lt inside)]
  · next outside =>
    rw [List.getElem?_eq_none (Nat.le_of_not_lt outside), List.getElem?_singleton]
    split
    · next zero => rw [if_pos (Nat.le_antisymm (Nat.le_of_sub_eq_zero zero)
        (Nat.le_of_not_lt outside))]; rfl
    · next more => rw [if_neg fun same => more (by rw [same, Nat.sub_self])]

theorem inside_of_known (known : (m.slot i).known = true) : i < m.slots.length := by
  by_contra outside
  rw [slot_outside (Nat.le_of_not_lt outside)] at known
  cases known

@[simp, grind =] theorem slot_wake (ids : List OperationId) : (m.wake ids).slot i = m.slot i := rfl

@[simp, grind =] theorem slots_wake (ids : List OperationId) : (m.wake ids).slots = m.slots := rfl

@[simp, grind =] theorem slot_begin (operation : Operation) :
    (m.begin operation).1.slot i = m.slot i := rfl

@[simp, grind =] theorem slots_begin (operation : Operation) :
    (m.begin operation).1.slots = m.slots := rfl

@[simp, grind =] theorem slot_setOperation (operation : Operation) :
    (m.setOperation id operation).slot i = m.slot i := rfl

@[simp, grind =] theorem slots_setOperation (operation : Operation) :
    (m.setOperation id operation).slots = m.slots := rfl

@[simp, grind =] theorem slot_finish : (m.finish id).slot i = m.slot i := rfl

@[simp, grind =] theorem slots_finish : (m.finish id).slots = m.slots := rfl

@[grind =] theorem slot_publish (state : SessionState) :
    (m.publish i state).slot j =
      if i = j ∧ j < m.slots.length then { m.slot j with state } else m.slot j :=
  slot_updateSlot _

@[simp, grind =] theorem length_publish (state : SessionState) :
    (m.publish i state).slots.length = m.slots.length := List.length_modify ..

@[grind =] theorem slot_joinAttachLine :
    (m.joinAttachLine i id).slot j =
      if i = j ∧ j < m.slots.length then
        { m.slot j with attachLine := (m.slot j).attachLine.join id }
      else m.slot j :=
  slot_updateSlot _

@[simp, grind =] theorem length_joinAttachLine :
    (m.joinAttachLine i id).slots.length = m.slots.length := List.length_modify ..

@[grind =] theorem slot_leaveAttachLine :
    (m.leaveAttachLine i id).slot j =
      if i = j ∧ j < m.slots.length then
        { m.slot j with attachLine := (m.slot j).attachLine.leave id }
      else m.slot j :=
  slot_updateSlot _

@[simp, grind =] theorem length_leaveAttachLine :
    (m.leaveAttachLine i id).slots.length = m.slots.length := List.length_modify ..

@[simp, grind =] theorem length_updateSlot (f : Slot → Slot) :
    (m.updateSlot i f).slots.length = m.slots.length := List.length_modify ..

/-! ## Operations -/

@[simp, grind =] theorem operation?_updateSlot (f : Slot → Slot) :
    (m.updateSlot i f).operation? id = m.operation? id := rfl

@[simp, grind =] theorem operation?_added (slots : List Slot) :
    ({ m with slots } : Manager).operation? id = m.operation? id := rfl

@[simp, grind =] theorem operation?_wake (ids : List OperationId) :
    (m.wake ids).operation? id = m.operation? id := rfl

@[simp, grind =] theorem operation?_publish (state : SessionState) :
    (m.publish i state).operation? id = m.operation? id := rfl

@[simp, grind =] theorem operation?_joinAttachLine :
    (m.joinAttachLine i other).operation? id = m.operation? id := rfl

@[simp, grind =] theorem operation?_leaveAttachLine :
    (m.leaveAttachLine i other).operation? id = m.operation? id := rfl

@[grind =] theorem operation?_begin (operation : Operation)
    (fresh : m.operation? m.nextOperation = none) :
    (m.begin operation).1.operation? id =
      if id = m.nextOperation then some operation else m.operation? id := by
  unfold begin operation?
  rw [List.lookup_append]
  split
  · next same =>
    rw [same]
    unfold operation? at fresh
    rw [fresh]
    simp
  · next different => simp [List.lookup_cons, beq_false_of_ne different]

theorem operation?_begun (operation : Operation) (fresh : m.operation? m.nextOperation = none) :
    (m.begin operation).1.operation? m.nextOperation = some operation := by
  rw [operation?_begin operation fresh, if_pos rfl]

@[grind =] theorem operation?_setOperation (operation : Operation) :
    (m.setOperation other operation).operation? id =
      if id = other then (m.operation? id).map fun _ => operation else m.operation? id := by
  unfold setOperation operation?
  induction m.operations with
  | nil => simp
  | cons entry rest induction =>
    obtain ⟨key, value⟩ := entry
    by_cases same : id = key
    · subst same
      by_cases chosen : id = other
      · subst chosen
        simp
      · simp [chosen]
    · by_cases chosen : key = other
      · subst chosen
        simpa [List.lookup_cons, beq_false_of_ne same, same] using induction
      · simpa [List.lookup_cons, beq_false_of_ne same, chosen] using induction

theorem operation?_replaced {earlier : Operation} (operation : Operation)
    (here : m.operation? id = some earlier) :
    (m.setOperation id operation).operation? id = some operation := by
  rw [operation?_setOperation, if_pos rfl, here]
  rfl

@[grind =] theorem operation?_finish :
    (m.finish other).operation? id = if id = other then none else m.operation? id := by
  unfold finish operation?
  induction m.operations with
  | nil => simp
  | cons entry rest induction =>
    obtain ⟨key, value⟩ := entry
    by_cases same : id = key
    · subst same
      by_cases chosen : id = other
      · subst chosen
        simpa using induction
      · simp [chosen]
    · by_cases chosen : key = other
      · subst chosen
        simpa [List.filter_cons, List.lookup_cons, beq_false_of_ne same, same] using induction
      · simpa [List.filter_cons, List.lookup_cons, beq_false_of_ne same, chosen] using induction

/-! ## The numbering of operations -/

@[simp, grind =] theorem nextOperation_updateSlot (f : Slot → Slot) :
    (m.updateSlot i f).nextOperation = m.nextOperation := rfl

@[simp, grind =] theorem nextOperation_wake (ids : List OperationId) :
    (m.wake ids).nextOperation = m.nextOperation := rfl

@[simp, grind =] theorem nextOperation_publish (state : SessionState) :
    (m.publish i state).nextOperation = m.nextOperation := rfl

@[simp, grind =] theorem nextOperation_joinAttachLine :
    (m.joinAttachLine i id).nextOperation = m.nextOperation := rfl

@[simp, grind =] theorem nextOperation_leaveAttachLine :
    (m.leaveAttachLine i id).nextOperation = m.nextOperation := rfl

@[simp, grind =] theorem nextOperation_setOperation (operation : Operation) :
    (m.setOperation id operation).nextOperation = m.nextOperation := rfl

@[simp, grind =] theorem nextOperation_finish :
    (m.finish id).nextOperation = m.nextOperation := rfl

@[simp, grind =] theorem nextOperation_begin (operation : Operation) :
    (m.begin operation).1.nextOperation = m.nextOperation + 1 := rfl

/-! ## Ends of operations -/

/-- The state that an attempt publishes at its end. -/
def concluded : Except PageError SessionHandle → SessionState
  | .ok handle => .attached handle
  | .error _ => .detached

@[grind =] theorem slot_conclude (purpose : Purpose) (result : Except PageError SessionHandle) :
    (m.conclude purpose i id result).1.slot j =
      if i = j ∧ j < m.slots.length then
        { m.slot j with
          state := concluded result
          attachLine := (m.slot j).attachLine.leave id }
      else m.slot j := by
  have shown : (m.conclude purpose i id result).1.slot j =
      ((m.publish i (concluded result)).leaveAttachLine i id).slot j := by
    cases result <;> rfl
  rw [shown, slot_leaveAttachLine, length_publish, slot_publish]
  split <;> rfl

@[grind =] theorem operation?_conclude (purpose : Purpose)
    (result : Except PageError SessionHandle) :
    (m.conclude purpose i other result).1.operation? id =
      if id = other then none else m.operation? id := operation?_finish

@[simp, grind =] theorem length_conclude (purpose : Purpose)
    (result : Except PageError SessionHandle) :
    (m.conclude purpose i id result).1.slots.length = m.slots.length := by
  unfold conclude
  simp

@[simp, grind =] theorem nextOperation_conclude (purpose : Purpose)
    (result : Except PageError SessionHandle) :
    (m.conclude purpose i id result).1.nextOperation = m.nextOperation := rfl

/-- The handle that a page gets when it is ready. -/
def granted (m : Manager) (i : SlotId) (session : String) : SessionHandle :=
  ⟨(m.slot i).target, session, m.keepAlive, m.generation + 1⟩

@[grind =] theorem slot_succeed (purpose : Purpose) (session : String) :
    (m.succeed purpose i id session).1.slot j =
      if i = j ∧ j < m.slots.length then
        { m.slot j with
          state := .attached (m.granted i session)
          attachLine := (m.slot j).attachLine.leave id }
      else m.slot j :=
  slot_conclude purpose (.ok (m.granted i session))

@[grind =] theorem operation?_succeed (purpose : Purpose) (session : String) :
    (m.succeed purpose i other session).1.operation? id =
      if id = other then none else m.operation? id :=
  operation?_conclude purpose (.ok (m.granted i session))

@[simp, grind =] theorem length_succeed (purpose : Purpose) (session : String) :
    (m.succeed purpose i id session).1.slots.length = m.slots.length :=
  length_conclude purpose (.ok (m.granted i session))

@[simp, grind =] theorem nextOperation_succeed (purpose : Purpose) (session : String) :
    (m.succeed purpose i id session).1.nextOperation = m.nextOperation := rfl

@[grind =] theorem slot_leaveScripts :
    (m.leaveScripts i id).slot j =
      if i = j ∧ j < m.slots.length then
        { m.slot j with
          running := (m.slot j).running && !(m.slot j).scriptLine.hasTurn id
          scriptLine := (m.slot j).scriptLine.leave id }
      else m.slot j := by
  unfold leaveScripts leaveScriptLine
  simp only [slot_finish, slot_wake]
  split
  · next first =>
    simp only [slot_updateSlot, length_updateSlot]
    split
    · next same =>
      obtain ⟨rfl, _⟩ := same
      rw [first, Bool.not_true, Bool.and_false]
    · rfl
  · next first =>
    rw [slot_updateSlot]
    split
    · next same =>
      obtain ⟨rfl, _⟩ := same
      rw [Bool.not_eq_true] at first
      rw [first, Bool.not_false, Bool.and_true]
    · rfl

@[grind =] theorem operation?_leaveScripts :
    (m.leaveScripts i other).operation? id = if id = other then none else m.operation? id := by
  unfold leaveScripts leaveScriptLine
  rw [operation?_finish]
  split
  · rfl
  · split <;> rfl

@[simp, grind =] theorem length_leaveScripts :
    (m.leaveScripts i id).slots.length = m.slots.length := by
  unfold leaveScripts leaveScriptLine
  split <;> simp

@[simp, grind =] theorem nextOperation_leaveScripts :
    (m.leaveScripts i id).nextOperation = m.nextOperation := by
  unfold leaveScripts leaveScriptLine
  split <;> rfl

/-! ## Closed targets -/

/-- The state that is left when a target is gone. -/
def closed (state : SessionState) : SessionState :=
  match state with
  | .attached _ => .detached
  | state => state

theorem closed_eq (state : SessionState) :
    closed state = if state.handle?.isSome then .detached else state := by
  cases state <;> rfl

theorem slot_forget :
    (m.forget i).slot j =
      if i = j ∧ j < m.slots.length then
        { m.slot j with known := (m.slot j).known && (m.slot j).inUse }
      else m.slot j := by
  have unfolded : m.forget i =
      if (m.slot i).inUse then m else m.updateSlot i fun slot => { slot with known := false } := rfl
  rw [unfolded]
  split
  · next used =>
    split
    · next same =>
      obtain ⟨rfl, _⟩ := same
      rw [used, Bool.and_true]
    · rfl
  · next unused =>
    rw [slot_updateSlot]
    split
    · next same =>
      obtain ⟨rfl, _⟩ := same
      rw [Bool.not_eq_true] at unused
      rw [unused, Bool.and_false]
    · rfl

@[grind =] theorem slot_noticeClose :
    (m.noticeClose i).slot j =
      if i = j ∧ j < m.slots.length then
        { m.slot j with
          state := closed (m.slot j).state
          known := (m.slot j).known && (m.slot j).inUse }
      else m.slot j := by
  unfold noticeClose
  rw [slot_forget]
  split
  · rw [length_publish, slot_publish]
    grind [closed_eq, Slot.inUse]
  · grind [closed_eq]

@[grind =] theorem operation?_noticeClose : (m.noticeClose i).operation? id = m.operation? id := by
  unfold noticeClose forget
  split <;> simp only <;> split <;> rfl

@[simp, grind =] theorem length_noticeClose :
    (m.noticeClose i).slots.length = m.slots.length := by
  unfold noticeClose forget
  split <;> simp only <;> split <;> simp

@[simp, grind =] theorem nextOperation_noticeClose :
    (m.noticeClose i).nextOperation = m.nextOperation := by
  unfold noticeClose forget
  split <;> simp only <;> split <;> rfl

/-! ## The published state -/

variable {target : String}

theorem slot_getElem (inside : i < m.slots.length) : m.slots[i] = m.slot i := by
  unfold slot
  rw [List.getD_eq_getElem?_getD, List.getElem?_eq_getElem inside]
  rfl

theorem find?_some (found : m.find? target = some i) :
    (m.slot i).known = true ∧ (m.slot i).target = target := by
  obtain ⟨inside, matches_, _⟩ := List.findIdx?_eq_some_iff_getElem.mp found
  rw [slot_getElem inside] at matches_
  simpa using matches_

theorem find?_none (missing : m.find? target = none) (known : (m.slot i).known = true) :
    (m.slot i).target ≠ target := by
  intro same
  have inside := inside_of_known known
  have other := List.findIdx?_eq_none_iff.mp missing (m.slots[i]) (List.getElem_mem inside)
  rw [slot_getElem inside, known, same] at other
  simp at other

/-- No target has two slots. -/
def Single (m : Manager) : Prop :=
  ∀ i j, (m.slot i).known = true → (m.slot j).known = true →
    (m.slot i).target = (m.slot j).target → i = j

theorem Single.find? (single : m.Single) (known : (m.slot i).known = true) :
    m.find? (m.slot i).target = some i := by
  cases found : m.find? (m.slot i).target with
  | none => exact absurd rfl (find?_none found known)
  | some j =>
    obtain ⟨knownToo, same⟩ := find?_some found
    rw [single j i knownToo known same]

/-- The published state of a target is that of its slot. -/
theorem Single.stateOf (single : m.Single) (known : (m.slot i).known = true) :
    m.stateOf (m.slot i).target = (m.slot i).state := by
  unfold Manager.stateOf
  rw [single.find? known]

end Manager

end BrowserScript.Session
