import BrowserScript.Proofs.Session.Attachment

/-!
# One attachment for everybody

While nothing happens to a target but that people want sessions of it, the browser is asked once to
attach, and all get the same handle. Main definitions: `Session.Stretch`, `Session.OneAtATime`. Main
results: `Session.Stretch.shared`, `Session.Reaches.one_at_a_time`.
-/

set_option autoImplicit false

namespace BrowserScript.Session

open Manager

variable {m after : Manager} {deed : Deed} {deed? : Option Deed} {i j : SlotId}
  {id other : OperationId} {target : String} {now asked : Nat} {move : Move}

/-! ## What has been asked so far -/

/-- How a target that was detached stands after so many requests to attach. -/
inductive Stands (target : String) (m : Manager) : Nat → Prop
  | detached (state : m.stateOf target = .detached) : Stands target m 0
  | attaching {id : OperationId} {i : SlotId} {attempt : Attempt}
      (here : m.operation? id = some (.ensure i (.attempting attempt)))
      (home : (m.slot i).target = target) : Stands target m 1
  | attached {handle : SessionHandle} (state : m.stateOf target = .attached handle) :
      Stands target m 1

theorem Keeps.stands (keeps : Keeps m after) (sound : Sound m) (stands : Stands target m asked) :
    Stands target after asked := by
  cases stands with
  | detached state => exact .detached ((keeps.stateOf target).trans state)
  | attaching here home =>
    have inside := sound.crew.placed _ _ here
    obtain ⟨_, _, sameHome, _⟩ := keeps.slots _ inside
    exact .attaching ((keeps.attempts _ _ rfl).mpr here) (sameHome.trans home)
  | attached state => exact .attached ((keeps.stateOf target).trans state)

/-- A deed that neither gives the target up nor is done by an orphan. -/
structure Mild (target : String) (m : Manager) (deed : Deed) (after : Manager) : Prop where
  staysAttached : ∀ handle, m.stateOf target = .attached handle →
    after.stateOf target = .attached handle
  staysUp : m.stateOf target ≠ .detached → after.stateOf target ≠ .detached
  patient : ∀ id operation, deed = .leaves id operation → operation.isAttempting = true →
    (m.slot operation.slot).target ≠ target
  tidy : ∀ id i, deed.asked? = some (id, i) → (m.slot i).target = target →
    (m.slot i).known = true

/-- The first who wants a session of a detached target asks for it. -/
theorem Does.asks_first (does : Does m deed after) (sound : Sound m)
    (stands : Stands target m asked) (mild : Mild target m deed after)
    (asks : deed.asked? = some (id, i)) (home : (m.slot i).target = target) :
    asked = 0 ∧ Stands target after 1 := by
  have known := mild.tidy id i asks home
  have shown := sound.homes.single.stateOf known
  rw [home] at shown
  obtain ⟨_, unattached, _, fixed, _⟩ := does.asked sound asks
  have attempted : ∀ id' i' attempt, m.operation? id' = some (.ensure i' (.attempting attempt)) →
      (m.slot i').target = target →
      (m.slot i).state = .attaching ∧ (m.slot i).attachLine.head? = some id' := by
    intro id' i' attempt here there
    have knownToo := sound.homes.kept id' _ here rfl
    obtain rfl := sound.homes.single i' i knownToo known (there.trans home.symm)
    exact ⟨sound.phases.attaching _ _ _ here, sound.lines.first _ _ here rfl⟩
  cases does with
  | asks id' i' here turn =>
    cases asks
    cases stands with
    | detached state =>
      have published : (m.publish i .attaching).operation? id = some (.ensure i .inLine) := here
      exact ⟨rfl, .attaching (operation?_replaced _ published) ((fixed i).2.trans home)⟩
    | attaching earlier there =>
      have first := (attempted _ _ _ earlier there).2
      rw [Line.hasTurn_iff, first] at turn
      obtain rfl := Option.some.inj turn
      rw [here] at earlier
      cases earlier
    | attached state =>
      rw [← shown, state] at unattached
      cases unattached
  | asksAgain id' i' here =>
    cases asks
    have lost := sound.phases.reattaching _ _ _ here rfl
    rw [lost] at shown attempted
    cases stands with
    | detached state =>
      rw [shown] at state
      cases state
    | attaching earlier there => cases (attempted _ _ _ earlier there).1
    | attached state =>
      rw [shown] at state
      cases state
  | _ => cases asks

theorem Does.stands (does : Does m deed after) (sound : Sound m) (stands : Stands target m asked)
    (mild : Mild target m deed after)
    (silent : ∀ id i, deed.asked? = some (id, i) → (m.slot i).target ≠ target) :
    Stands target after asked := by
  cases stands with
  | detached state =>
    refine .detached ?_
    by_cases unknown : ∀ j, (m.slot j).known = true → (m.slot j).target ≠ target
    · exact does.stateOf_unknown sound unknown
    push Not at unknown
    obtain ⟨j, known, rfl⟩ := unknown
    rw [sound.homes.single.stateOf known] at state
    rw [does.stateOf sound known]
    have ensuring := sound.phases.attaching
    have replacing := sound.phases.reattaching
    cases does with
    | succeeds id i purpose attempt session here | fails id i purpose attempt error here =>
      cases purpose with
      | ensure => grind [Deed.published, Purpose.operation]
      | reattach => grind [Deed.published, Purpose.operation, Operation.isBusy, Operation.stage?]
    | asks id i here =>
      have apart : i ≠ j := fun same => silent id i rfl (same ▸ rfl)
      rw [Deed.published, if_neg apart, state]
    | closes i _ => grind [Deed.published, closed]
    | _ => grind [Deed.published]
  | attaching here there =>
    rename_i id i attempt
    have inside := sound.crew.placed id _ here
    have known : (m.slot i).known = true := sound.homes.kept id _ here rfl
    have state := sound.phases.attaching id i attempt here
    have first : (m.slot i).attachLine.head? = some id := sound.lines.first id _ here rfl
    have fresh := sound.crew.fresh
    have up := mild.staysUp
    rw [← there, does.stateOf sound known, sound.homes.single.stateOf known, state] at up
    have goesOn : (∃ later, after.operation? id = some (.ensure i (.attempting later))) ∨
        ∃ handle, deed.published m i = .attached handle := by
      cases does with
      | leaves id' operation stage here' lined =>
        have patient := mild.patient id' operation rfl
        grind [Operation.isAttempting, Operation.stage?, Operation.slot]
      | proceeds id' i' purpose => cases purpose <;> grind [Purpose.operation]
      | succeeds id' i' purpose => cases purpose <;> grind [Purpose.operation, Deed.published]
      | fails id' i' purpose => cases purpose <;> grind [Purpose.operation, Deed.published]
      | _ => grind [Deed.published]
    rcases goesOn with ⟨later, still⟩ | ⟨handle, published⟩
    · exact .attaching still ((does.slot sound known).1.trans there)
    · rw [← does.stateOf sound known, there] at published
      exact .attached published
  | attached state => exact .attached (mild.staysAttached _ state)

/-! ## Stretches -/

/-- A move that neither gives the target up, nor fails, nor lets an orphan attach. -/
structure Calm (target : String) (m : Manager) (now : Nat) (move : Move) : Prop where
  staysAttached : ∀ handle, m.stateOf target = .attached handle →
    (m.move now move).1.stateOf target = .attached handle
  staysUp : m.stateOf target ≠ .detached → (m.move now move).1.stateOf target ≠ .detached
  patient : ∀ id, move = .abandon id → ¬ m.Attempts id target
  tidy : ∀ id, (m.move now move).2 = some (id, .attach target) →
    ¬ (m.move now move).1.Orphaned id

/-- What a move tells, and the target of the call that it is of. -/
structure Happening where
  wanted? : Option String
  told? : Option (OperationId × Wait)

namespace Happening

def asks (target : String) (happening : Happening) : Bool :=
  (asking? happening.told?).any fun asked => asked.2 == target

/-- What a call that wants a session of the target returns. -/
def returned? (target : String) (happening : Happening) :
    Option (Except PageError SessionHandle) :=
  match happening.told? with
  | some (_, .over (.attached result)) =>
    if happening.wanted? = some target then some result else none
  | _ => none

end Happening

def Manager.happening (m : Manager) (now : Nat) (move : Move) : Happening :=
  ⟨m.wanted? move, (m.move now move).2⟩

/-- Moves in a row that are calm for a target, and what happened. -/
inductive Stretch (target : String) : Manager → List Happening → Manager → Prop
  | nothing (m : Manager) : Stretch target m [] m
  | move {m middle : Manager} {happenings : List Happening} (now : Nat) (move : Move)
      (early : Stretch target m happenings middle) (allowed : middle.Allows move)
      (calm : Calm target middle now move) :
      Stretch target m (happenings ++ [middle.happening now move]) (middle.move now move).1

theorem Calm.mild {before later : Manager} (calm : Calm target m now move) (sound : Sound m)
    (early : Quietly m before) (does : Does before deed later)
    (late : Quietly later (m.move now move).1) (explained : Explains m move deed)
    (asked : asking? (m.move now move).2 = deed.asked?.map fun asked =>
      (asked.1, ((m.move now move).1.slot asked.2).target)) : Mild target before deed later := by
  have soundBefore := early.sound sound
  have first := early.keeps sound
  have last := late.keeps (does.sound soundBefore)
  refine ⟨?_, ?_, ?_, ?_⟩
  · rw [first.stateOf, ← last.stateOf]
    exact calm.staysAttached
  · rw [first.stateOf, ← last.stateOf]
    exact calm.staysUp
  · rintro id operation rfl attempting home
    rcases explained with ordinary | ⟨_, _, gaveUp, leaves⟩ | ⟨_, _, _, _, closes⟩
    · rw [Deed.isOrdinary, attempting] at ordinary
      cases ordinary
    · obtain ⟨rfl, rfl⟩ := Deed.leaves.inj leaves
      have here : before.operation? id = some operation := by
        cases does
        assumption
      have was := (first.attempts id operation attempting).mp here
      obtain ⟨_, _, sameHome, _⟩ := first.slots _ (sound.crew.placed _ _ was)
      exact calm.patient id gaveUp ⟨operation, was, attempting, sameHome.symm.trans home⟩
    · cases closes
  · intro id i asks home
    obtain ⟨sameHome, knownOf⟩ := does.asked_home late soundBefore asks
    rw [asks] at asked
    refine knownOf (calm.tidy id (asking?_eq_some.mp ?_))
    rw [asked, Option.map_some, sameHome, home]

theorem Calm.stands (calm : Calm target m now move) (sound : Sound m) (allowed : m.Allows move)
    (stands : Stands target m asked) :
    Stands target (m.move now move).1
      (asked + if (m.happening now move).asks target then 1 else 0) := by
  obtain ⟨deed?, ⟨acts, asking⟩, explained⟩ := move_effect now sound allowed
  have asks : (m.happening now move).asks target =
      ((deed?.bind Deed.asked?).any fun asked =>
        ((m.move now move).1.slot asked.2).target == target) := by
    rw [Happening.asks, happening, asking, Option.any_map]
  generalize (m.happening now move).asks target = asksNow at asks ⊢
  cases acts with
  | quietly done =>
    rw [asks]
    exact (done.keeps sound).stands sound stands
  | @once before later _ deed early does late =>
    have mild := calm.mild sound early does late (explained _ rfl) asking
    have soundBefore := early.sound sound
    have standsBefore := (early.keeps sound).stands sound stands
    have soundLater := does.sound soundBefore
    have last := late.keeps soundLater
    rw [Option.bind_some] at asks
    cases asked? : deed.asked? with
    | none =>
      have silent : ∀ id i, deed.asked? = some (id, i) → (before.slot i).target ≠ target := by
        rw [asked?]
        exact nofun
      rw [asks, asked?]
      exact last.stands soundLater (does.stands soundBefore standsBefore mild silent)
    | some entry =>
      obtain ⟨id, i⟩ := entry
      obtain ⟨sameHome, _⟩ := does.asked_home late soundBefore asked?
      rw [asked?, Option.any_some, sameHome] at asks
      by_cases home : (before.slot i).target = target
      · obtain ⟨rfl, first⟩ := does.asks_first soundBefore standsBefore mild asked? home
        rw [asks, beq_iff_eq.mpr home]
        exact last.stands soundLater first
      · have silent : ∀ id' i', deed.asked? = some (id', i') →
            (before.slot i').target ≠ target := by
          intro id' i' same
          rw [asked?] at same
          cases same
          exact home
        rw [asks, beq_false_of_ne home]
        exact last.stands soundLater (does.stands soundBefore standsBefore mild silent)

/-- In a calm stretch from a detached target, the browser is asked at most once to attach. Every
call that returns has been served by that one attachment, and returns the handle that is
published. -/
structure Shared (target : String) (happenings : List Happening) (after : Manager) : Prop where
  once : happenings.countP (Happening.asks target) ≤ 1
  served : ∀ result ∈ happenings.filterMap (Happening.returned? target),
    happenings.countP (Happening.asks target) = 1 ∧
      ∃ handle, result = .ok handle ∧ after.stateOf target = .attached handle

theorem Stretch.stands {happenings : List Happening} (stretch : Stretch target m happenings after)
    (sound : Sound m) (detached : m.stateOf target = .detached) :
    Sound after ∧ Stands target after (happenings.countP (Happening.asks target)) := by
  induction stretch with
  | nothing => exact ⟨sound, .detached detached⟩
  | move now move early allowed calm induction =>
    obtain ⟨soundMiddle, stands⟩ := induction
    obtain ⟨_, effect, _⟩ := move_effect now soundMiddle allowed
    refine ⟨effect.acts.sound soundMiddle, ?_⟩
    rw [List.countP_append, List.countP_singleton]
    exact calm.stands soundMiddle allowed stands

theorem Stands.le_one (stands : Stands target m asked) : asked ≤ 1 := by
  cases stands <;> omega

theorem Stands.eq_one (stands : Stands target m asked) {handle : SessionHandle}
    (attached : m.stateOf target = .attached handle) : asked = 1 := by
  cases stands with
  | detached state =>
    rw [state] at attached
    cases attached
  | attaching | attached => rfl

/-- What a calm move returns is the handle that it leaves published. -/
theorem Calm.returns (calm : Calm target m now move) (sound : Sound m) (allowed : m.Allows move)
    {result : Except PageError SessionHandle}
    (returned : (m.happening now move).returned? target = some result) :
    ∃ handle, result = .ok handle ∧ (m.move now move).1.stateOf target = .attached handle := by
  unfold Happening.returned? happening at returned
  simp only at returned
  split at returned
  · next told =>
    split at returned
    · next wanted =>
      rw [Option.some.inj returned] at told
      obtain ⟨_, same, state, failed⟩ := move_returns sound allowed told
      obtain rfl := Option.some.inj (wanted.symm.trans same)
      cases result with
      | ok handle => exact ⟨handle, rfl, state⟩
      | error error =>
        have attaching := failed rfl
        exact absurd state (calm.staysUp (by rw [attaching]; exact nofun))
    · cases returned
  · cases returned

theorem Stretch.shared {happenings : List Happening} (stretch : Stretch target m happenings after)
    (sound : Sound m) (detached : m.stateOf target = .detached) :
    Shared target happenings after := by
  induction stretch with
  | nothing => exact ⟨Nat.zero_le 1, fun result member => absurd member List.not_mem_nil⟩
  | @move middle happenings now move early allowed calm induction =>
    obtain ⟨soundMiddle, _⟩ := early.stands sound detached
    obtain ⟨_, stands⟩ := (Stretch.move now move early allowed calm).stands sound detached
    refine ⟨stands.le_one, fun result member => ?_⟩
    have served : ∃ handle, result = .ok handle ∧
        (middle.move now move).1.stateOf target = .attached handle := by
      rw [List.filterMap_append, List.mem_append] at member
      rcases member with member | member
      · obtain ⟨_, handle, same, state⟩ := induction.served result member
        exact ⟨handle, same, calm.staysAttached handle state⟩
      · obtain ⟨_, last, returned⟩ := List.mem_filterMap.mp member
        rw [List.mem_singleton] at last
        subst last
        exact calm.returns soundMiddle allowed returned
    obtain ⟨handle, same, state⟩ := served
    exact ⟨stands.eq_one state, handle, same, state⟩

/-- A published handle is one to its target. -/
theorem Sound.named (sound : Sound m) {handle : SessionHandle}
    (attached : m.stateOf target = .attached handle) : handle.targetId = target := by
  obtain ⟨i, _, home, state⟩ := known_of_stateOf sound (by rw [attached]; exact nofun)
  rw [← home]
  exact sound.homes.named i handle (state.trans attached)

/-! ## The whole of it -/

/-- What holds of attachments in a state of the manager. -/
structure OneAtATime (now : Nat) (m : Manager) : Prop where
  /-- Of those who are not orphaned, one at most attempts to attach to a target. -/
  alone : ∀ target id other, m.Attempts id target → m.Attempts other target → ¬ m.Orphaned id →
    ¬ m.Orphaned other → id = other
  /-- Nobody but an orphan asks the browser to attach to a target that is attached. -/
  unattached : ∀ move id target, m.Allows move →
    (m.move now move).2 = some (id, .attach target) → ¬ (m.move now move).1.Orphaned id →
      (m.stateOf target).handle? = none ∧ ((m.move now move).1.stateOf target).handle? = none
  /-- The handle that a call returns is the one that is published for its target. -/
  published : ∀ move id handle, m.Allows move →
    (m.move now move).2 = some (id, .over (.attached (.ok handle))) →
      m.wanted? move = some handle.targetId ∧
        (m.move now move).1.stateOf handle.targetId = .attached handle
  /-- From a detached target, one attachment serves everybody. -/
  shared : ∀ target happenings after, m.stateOf target = .detached →
    Stretch target m happenings after → Shared target happenings after
  /-- Orphans are made by the news that a target is gone while a reattachment to its slot, which
  nobody uses, has yet to line up. -/
  orphaned : ∀ move id, m.Allows move →
    ((m.move now move).1.Orphaned id ∧ ¬ m.Orphaned id ↔
      ∃ target i, move = .notice (.targetClosed target) ∧ m.find? target = some i ∧
        m.operation? id = some (.reattach i .fresh) ∧ (m.slot i).inUse = false)
  /-- A reattachment that finds its slot as it was left asks the browser to attach, whatever is
  published for the target by then. -/
  strays : ∀ id i later, m.operation? id = some (.reattach i .fresh) →
    (m.slot i).attachLine = [] → (m.slot i).state = .reattaching →
      ((m.move now (.resume id .turn)).1.move later (.resume id .turn)).2 =
        some (id, .attach (m.slot i).target)

theorem fresh_strays (sound : Sound m) (later : Nat)
    (here : m.operation? id = some (.reattach i .fresh)) (empty : (m.slot i).attachLine = [])
    (lost : (m.slot i).state = .reattaching) :
    ((m.move now (.resume id .turn)).1.move later (.resume id .turn)).2 =
      some (id, .attach (m.slot i).target) := by
  have inside : i < m.slots.length := sound.crew.placed id _ here
  have lined : ((m.joinAttachLine i id).setOperation id (.reattach i .inLine)).slot i =
      { m.slot i with attachLine := [id] } := by
    rw [slot_setOperation, slot_joinAttachLine, if_pos ⟨rfl, inside⟩, empty]
    rfl
  have first : (m.move now (.resume id .turn)).1 =
      ((m.joinAttachLine i id).setOperation id (.reattach i .inLine)).setOperation id
        (.reattach i .backoff) := by
    have turn : Line.hasTurn [id] id = true := Line.hasTurn_iff.mpr rfl
    simp only [Manager.move, resume, here, lineUp, tryTurn, lined, turn, takeTurn, lost, if_true]
  have waiting : (m.move now (.resume id .turn)).1.operation? id = some (.reattach i .backoff) := by
    rw [first]
    exact operation?_replaced _ (operation?_replaced _ here)
  have home : ((m.move now (.resume id .turn)).1.slot i).target = (m.slot i).target := by
    rw [first, slot_setOperation, lined]
  generalize (m.move now (.resume id .turn)).1 = middle at waiting home ⊢
  simp only [Manager.move, resume, waiting]
  rw [← home]
  rfl

end BrowserScript.Session
