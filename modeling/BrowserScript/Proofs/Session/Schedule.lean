import BrowserScript.Proofs.Session.Sound

/-!
# Schedules of the manager

Calls begin, operations go on and events come in any order, each as a whole. Of what a move does, at
most one deed changes what is published or who attempts to attach. Main definitions:
`Session.Move`, `Session.Reaches`, `Session.Acts`, `Session.Effect`.
-/

set_option autoImplicit false

namespace BrowserScript.Session

open Manager

/-- What happens at once. -/
inductive Move where
  | ensure (target : String)
  | detach (target : String)
  | acquire (target : String)
  | recover (stale : SessionHandle)
  | resume (id : OperationId) (input : Input)
  | release (lease : OperationId)
  | abandon (id : OperationId)
  | notice (event : SessionEvent)

/-- What somebody in an attempt to attach can be given. -/
def Attempt.expects : Attempt → Input → Bool
  | opening, .attached _ | probing _ _, .probed _ | pausing _ _, .turn
  | closing _ _, .closed _ => true
  | _, _ => false

/-- What an operation can be given. -/
def Operation.expects (operation : Operation) (input : Input) : Bool :=
  match operation.stage?, input with
  | some (.attempting attempt), input => attempt.expects input
  | some .detaching, .closed _ => true
  | some .detaching, _ => false
  | _, .turn => true
  | _, _ => false

namespace Manager

/-- The answers that come are those that have been asked for. -/
def Allows (m : Manager) : Move → Prop
  | .resume id input => ∃ operation, m.operation? id = some operation ∧
      operation.expects input = true
  | _ => True

/-- What a move makes of the manager, and what it tells whom. -/
def move (m : Manager) (now : Nat) : Move → Manager × Option (OperationId × Wait)
  | .ensure target => ((m.ensure now target).1, some (m.ensure now target).2)
  | .detach target => ((m.detach now target).1, some (m.detach now target).2)
  | .acquire target => ((m.acquire target).1, some (m.acquire target).2)
  | .recover stale => ((m.recover now stale).1, some (m.recover now stale).2)
  | .resume id input => ((m.resume now id input).1, some (id, (m.resume now id input).2))
  | .release lease => (m.release lease, none)
  | .abandon id => (m.abandon id, none)
  | .notice event => (m.notice event, none)

end Manager

/-- Every state of the manager, with the time. -/
inductive Reaches (settings : Settings) : Nat → Manager → Prop
  | start : Reaches settings 0 (ofSettings settings)
  | wait {now : Nat} {m : Manager} (time : Nat) (reaches : Reaches settings now m) :
      Reaches settings (now + time) m
  | move {now : Nat} {m : Manager} (move : Move) (reaches : Reaches settings now m)
      (allowed : m.Allows move) : Reaches settings now (m.move now move).1

/-! ## Moves are deeds -/

variable {m middle after : Manager} {deed? : Option Deed} {id : OperationId}

/-- Whom a deed asks the browser to attach for, and to which slot. -/
def Deed.asked? : Deed → Option (OperationId × SlotId)
  | asks id i | asksAgain id i => some (id, i)
  | _ => none

/-- The target that the browser is asked to attach to. -/
def Wait.target? : Wait → Option String
  | attach target => some target
  | _ => none

/-- Who asks the browser to attach, and to which target. -/
def asking? (told? : Option (OperationId × Wait)) : Option (OperationId × String) :=
  told?.bind fun told => told.2.target?.map (told.1, ·)

theorem asking?_eq_some {told? : Option (OperationId × Wait)} {target : String} :
    asking? told? = some (id, target) ↔ told? = some (id, .attach target) := by
  cases told? with
  | none => exact ⟨nofun, nofun⟩
  | some told =>
    obtain ⟨_, wait⟩ := told
    cases wait <;> simp [asking?, Wait.target?]

def Quietly (m after : Manager) : Prop :=
  ∃ deeds, Deeds m deeds after ∧ ∀ deed ∈ deeds, deed.isQuiet = true

theorem Quietly.nothing (m : Manager) : Quietly m m :=
  ⟨[], .none m, fun _ member => absurd member List.not_mem_nil⟩

theorem Quietly.one {deed : Deed} (does : Does m deed after) (quiet : deed.isQuiet = true) :
    Quietly m after :=
  ⟨[deed], .one does, fun _ member => List.mem_singleton.mp member ▸ quiet⟩

theorem Quietly.trans (early : Quietly m middle) (late : Quietly middle after) :
    Quietly m after := by
  obtain ⟨first, done, quiet⟩ := early
  obtain ⟨rest, further, quietToo⟩ := late
  refine ⟨first ++ rest, done.append further, fun deed member => ?_⟩
  rcases List.mem_append.mp member with member | member
  · exact quiet deed member
  · exact quietToo deed member

theorem Quietly.sound (done : Quietly m after) (sound : Sound m) : Sound after := by
  obtain ⟨_, done, _⟩ := done
  exact done.sound sound

/-- At most one deed that is not quiet. -/
inductive Acts : Manager → Option Deed → Manager → Prop
  | quietly {m after : Manager} (done : Quietly m after) : Acts m none after
  | once {m before later after : Manager} {deed : Deed} (early : Quietly m before)
      (does : Does before deed later) (late : Quietly later after) : Acts m (some deed) after

namespace Acts

theorem one {deed : Deed} (does : Does m deed after) : Acts m (some deed) after :=
  .once (.nothing m) does (.nothing after)

theorem nothing (m : Manager) : Acts m none m := .quietly (.nothing m)

theorem afterQuiet (early : Quietly m middle) (acts : Acts middle deed? after) :
    Acts m deed? after := by
  cases acts with
  | quietly done => exact .quietly (early.trans done)
  | once before does late => exact .once (early.trans before) does late

theorem thenQuiet (acts : Acts m deed? middle) (late : Quietly middle after) :
    Acts m deed? after := by
  cases acts with
  | quietly done => exact .quietly (done.trans late)
  | once before does further => exact .once before does (further.trans late)

theorem deeds (acts : Acts m deed? after) : ∃ deeds, Deeds m deeds after := by
  cases acts with
  | quietly done =>
    obtain ⟨deeds, done, _⟩ := done
    exact ⟨deeds, done⟩
  | once early does late =>
    obtain ⟨first, before, _⟩ := early
    obtain ⟨rest, further, _⟩ := late
    exact ⟨_, (before.append (.one does)).append further⟩

theorem sound (acts : Acts m deed? after) (sound : Sound m) : Sound after := by
  obtain ⟨_, done⟩ := acts.deeds
  exact done.sound sound

end Acts

/-- What a move does and tells: it asks the browser to attach exactly where it says so. -/
structure Effect (m : Manager) (deed? : Option Deed) (after : Manager)
    (told? : Option (OperationId × Wait)) : Prop where
  acts : Acts m deed? after
  asked : asking? told? =
    (deed?.bind Deed.asked?).map fun asked => (asked.1, (after.slot asked.2).target)

end BrowserScript.Session
