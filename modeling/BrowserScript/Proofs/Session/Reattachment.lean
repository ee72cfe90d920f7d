import BrowserScript.Proofs.Session.Attachment
import BrowserScript.Proofs.Session.Lease

/-!
# Reattachments

Each loss of a session begins one reattachment, and that asks the browser to attach at most once.
Main definitions: `Session.Passage.loses`, `Session.Passage.retry?`, `Session.Passage.causes`. Main
results: `Session.Passage.begins_iff_loses`, `Session.Runs.retried_once`, `Session.Runs.caused`.
-/

set_option autoImplicit false

namespace BrowserScript.Session

open Manager

namespace Manager

def isReattachment (m : Manager) (id : OperationId) : Bool :=
  match m.operation? id with
  | some (.reattach _ _) => true
  | _ => false

theorem isReattachment_iff {m : Manager} {id : OperationId} :
    m.isReattachment id = true ↔ ∃ i stage, m.operation? id = some (.reattach i stage) := by
  unfold isReattachment
  split
  · next i stage here => exact ⟨fun _ => ⟨i, stage, here⟩, fun _ => rfl⟩
  · next others => exact ⟨nofun, fun ⟨i, stage, here⟩ => absurd here (others i stage)⟩

/-- A reattachment that has not asked the browser to attach, or a number that is still free. -/
def MayAsk (m : Manager) (id : OperationId) : Prop :=
  m.nextOperation ≤ id ∨ ∃ i stage, m.operation? id = some (.reattach i stage) ∧
    (Operation.reattach i stage).isAttempting = false

end Manager

namespace Passage

/-- The target loses its session, which is to be replaced. -/
def loses (target : String) (p : Passage) : Bool :=
  (p.before.stateOf target).handle?.isSome && p.after.stateOf target == .reattaching

/-- The operation is a reattachment that the move begins. -/
def begins (id : OperationId) (p : Passage) : Bool :=
  (p.before.operation? id).isNone && p.after.isReattachment id

/-- The reattachment that asks the browser to attach, and to which target. -/
def retry? (p : Passage) : Option (OperationId × String) :=
  (asking? p.told?).filter fun asked => p.after.isReattachment asked.1

def retries (id : OperationId) (p : Passage) : Bool :=
  p.retry?.any fun asked => asked.1 == id

/-- The first move begins the reattachment that asks the browser to attach in the second. -/
def causes (p q : Passage) : Bool :=
  q.retry?.any fun asked => p.begins asked.1

end Passage

variable {settings : Settings} {now : Nat} {m after : Manager} {deed : Deed} {deed? : Option Deed}
  {i j : SlotId} {id other : OperationId} {handle : SessionHandle} {target : String} {p : Passage}
  {past : List Passage}

/-! ## Reattachments and deeds -/

attribute [local grind] Operation.isAttempting Operation.stage?

theorem Does.nextOperation_le (does : Does m deed after) :
    m.nextOperation ≤ after.nextOperation := by
  cases does with
  | makes => exact Nat.le_refl _
  | _ => grind

theorem Deeds.nextOperation_le {deeds : List Deed} (done : Deeds m deeds after) :
    m.nextOperation ≤ after.nextOperation := by
  induction done with
  | none m => exact Nat.le_refl _
  | next does _ induction => exact Nat.le_trans does.nextOperation_le induction

/-- What may ask the browser later may do so now. -/
theorem Does.mayAsk (does : Does m deed after) (sound : Sound m) (may : after.MayAsk id) :
    m.MayAsk id := by
  have fresh := sound.crew.fresh
  have increases := does.nextOperation_le
  rcases may with free | ⟨i, stage, here, patient⟩
  · exact .inl (Nat.le_trans increases free)
  · unfold MayAsk
    cases does with
    | proceeds id' j purpose before later => cases purpose <;> grind [Purpose.operation]
    | _ => grind

theorem Deeds.mayAsk {deeds : List Deed} (done : Deeds m deeds after) (sound : Sound m)
    (may : after.MayAsk id) : m.MayAsk id := by
  induction done with
  | none m => exact may
  | next does _ induction => exact does.mayAsk sound (induction (does.sound sound) may)

/-- Only a loss begins a reattachment. -/
theorem Does.begun (does : Does m deed after) (sound : Sound m) {stage : Stage}
    (here : after.operation? id = some (.reattach i stage)) :
    (∃ earlier, m.operation? id = some (.reattach i earlier)) ∨
      ∃ handle, deed = .loses id i handle := by
  have fresh := sound.crew.fresh
  cases does with
  | proceeds id' j purpose before later => cases purpose <;> grind [Purpose.operation]
  | loses j handle =>
    by_cases same : id = m.nextOperation
    · subst same
      have begun := operation?_begun (m := m.publish j .reattaching) (.reattach j .fresh) fresh
      cases here.symm.trans begun
      exact .inr ⟨handle, rfl⟩
    · grind
  | _ => grind

/-- Nobody sees a reattachment end in quiet. -/
theorem Does.stays (does : Does m deed after) (sound : Sound m) (quiet : deed.isQuiet = true)
    (here : ∃ stage, m.operation? id = some (.reattach i stage)) :
    ∃ stage, after.operation? id = some (.reattach i stage) := by
  have fresh := sound.crew.fresh
  cases does with
  | _ => grind [Deed.isQuiet]

theorem Quietly.stays (done : Quietly m after) (sound : Sound m)
    (here : ∃ stage, m.operation? id = some (.reattach i stage)) :
    ∃ stage, after.operation? id = some (.reattach i stage) := by
  obtain ⟨deeds, done, quiet⟩ := done
  induction done with
  | none m => exact here
  | next does _ induction =>
    have first := does.stays sound (quiet _ List.mem_cons_self) here
    exact induction (does.sound sound) first fun deed member =>
      quiet deed (List.mem_cons_of_mem _ member)

theorem Acts.begun (acts : Acts m deed? after) (sound : Sound m) {stage : Stage}
    (here : after.operation? id = some (.reattach i stage)) :
    (∃ earlier, m.operation? id = some (.reattach i earlier)) ∨
      ∃ handle, deed? = some (.loses id i handle) := by
  cases acts with
  | quietly done => exact .inl ((done.keeps sound).reattachments id i stage here)
  | once early does late =>
    have soundBefore := early.sound sound
    obtain ⟨later, there⟩ := (late.keeps (does.sound soundBefore)).reattachments id i stage here
    rcases does.begun soundBefore there with ⟨earlier, before⟩ | ⟨handle, rfl⟩
    · exact .inl ((early.keeps sound).reattachments id i earlier before)
    · exact .inr ⟨handle, rfl⟩

/-- What a loss makes of the target, and the reattachment that it begins. -/
structure Loss (m : Manager) (id : OperationId) (target : String) (handle : SessionHandle)
    (after : Manager) : Prop where
  attached : m.stateOf target = .attached handle
  reattaching : after.stateOf target = .reattaching
  free : m.operation? id = none
  begun : ∃ i stage, after.operation? id = some (.reattach i stage) ∧ (after.slot i).target = target

theorem Acts.loss (acts : Acts m (some (.loses id i handle)) after) (sound : Sound m) :
    ∃ target, Loss m id target handle after := by
  generalize same : some (Deed.loses id i handle) = deed? at acts
  cases acts with
  | quietly => cases same
  | @once before later _ deed early does late =>
    obtain rfl := Option.some.inj same
    have soundBefore := early.sound sound
    have soundLater := does.sound soundBefore
    cases does with
    | loses _ _ known running attached =>
      have lost := (Does.loses i handle known running attached).stateOf soundBefore known
      have begun := operation?_begun (m := before.publish i .reattaching) (.reattach i .fresh)
        soundBefore.crew.fresh
      obtain ⟨stage, here⟩ := late.stays soundLater ⟨_, begun⟩
      refine ⟨(before.slot i).target, ?_, ?_, ?_, i, stage, here, ?_⟩
      · rw [← (early.keeps sound).stateOf, soundBefore.homes.single.stateOf known, attached]
      · rw [(late.keeps soundLater).stateOf, lost, Deed.published, if_pos rfl]
      · obtain ⟨_, done, _⟩ := early
        by_contra taken
        obtain ⟨operation, taken⟩ := Option.ne_none_iff_exists'.mp taken
        exact absurd (sound.crew.numbered _ _ taken) (Nat.not_lt.mpr done.nextOperation_le)
      · have inside := inside_of_known known
        obtain ⟨insideToo, home, _⟩ :=
          (Does.loses i handle known running attached).keepsSlots soundBefore inside
        exact ((late.keeps soundLater).slots i insideToo).2.2.1.trans home

/-- A session is lost by nothing else. -/
theorem Does.loses_of_stateOf (does : Does m deed after) (sound : Sound m)
    (attached : m.stateOf target = .attached handle)
    (lost : after.stateOf target = .reattaching) :
    ∃ id i handle, deed = .loses id i handle := by
  obtain ⟨j, known, rfl, state⟩ := known_of_stateOf sound (by rw [attached]; exact nofun)
  rw [attached] at state
  rw [does.stateOf sound known] at lost
  cases does <;> grind [Deed.published, closed]

theorem Acts.loses_of_stateOf (acts : Acts m deed? after) (sound : Sound m)
    (attached : m.stateOf target = .attached handle)
    (lost : after.stateOf target = .reattaching) :
    ∃ id i handle, deed? = some (.loses id i handle) := by
  cases acts with
  | quietly done =>
    rw [(done.keeps sound).stateOf, attached] at lost
    cases lost
  | once early does late =>
    have soundBefore := early.sound sound
    rw [← (early.keeps sound).stateOf] at attached
    rw [(late.keeps (does.sound soundBefore)).stateOf] at lost
    obtain ⟨id, i, handle, same⟩ := does.loses_of_stateOf soundBefore attached lost
    exact ⟨id, i, handle, congrArg some same⟩

/-! ## Losses and reattachments -/

namespace Passage

theorem begins_iff : p.begins id = true ↔
    p.before.operation? id = none ∧ p.after.isReattachment id = true := by
  rw [begins, Bool.and_eq_true, Option.isNone_iff_eq_none]

theorem loses_iff : p.loses target = true ↔
    (∃ handle, p.before.stateOf target = .attached handle) ∧
      p.after.stateOf target = .reattaching := by
  rw [loses, Bool.and_eq_true, beq_iff_eq, Option.isSome_iff_exists]
  refine and_congr_left fun _ => exists_congr fun handle => ⟨handle?_eq_some, fun state => ?_⟩
  rw [state]
  rfl

theorem retries_iff : p.retries id = true ↔ ∃ target, p.retry? = some (id, target) := by
  unfold retries
  cases p.retry? with
  | none => exact ⟨nofun, nofun⟩
  | some asked =>
    obtain ⟨other, target⟩ := asked
    simp

theorem causes_iff {q : Passage} : p.causes q = true ↔
    ∃ id, p.begins id = true ∧ q.retries id = true := by
  unfold causes retries
  cases q.retry? with
  | none => exact ⟨nofun, nofun⟩
  | some asked => simp

section

variable (sound : Sound p.before) (allowed : p.before.Allows p.move)
include sound allowed

omit allowed in
theorem loses_of_begins {deed? : Option Deed} (acts : Acts p.before deed? p.after)
    (begins : p.begins id = true) : ∃ i stage handle, deed? = some (.loses id i handle) ∧
      p.after.operation? id = some (.reattach i stage) := by
  obtain ⟨free, again⟩ := begins_iff.mp begins
  obtain ⟨i, stage, here⟩ := isReattachment_iff.mp again
  rcases acts.begun sound here with ⟨_, before⟩ | ⟨handle, loses⟩
  · rw [free] at before
    cases before
  · exact ⟨i, stage, handle, loses, here⟩

/-- A reattachment is begun by the loss of the session of its target, and no other one with it. -/
theorem begun (begins : p.begins id = true) : (∀ other, p.begins other = true → other = id) ∧
    ∃ i stage, p.after.operation? id = some (.reattach i stage) ∧
      p.loses (p.after.slot i).target = true := by
  obtain ⟨deed?, effect, _⟩ := move_effect p.now sound allowed
  obtain ⟨i, stage, handle, rfl, here⟩ := loses_of_begins sound effect.acts begins
  obtain ⟨target, loss⟩ := effect.acts.loss sound
  refine ⟨fun other begins => ?_, ?_⟩
  · obtain ⟨_, _, _, same, _⟩ := loses_of_begins sound effect.acts begins
    cases same
    rfl
  · obtain ⟨j, stage, there, rfl⟩ := loss.begun
    exact ⟨j, stage, there, loses_iff.mpr ⟨⟨handle, loss.attached⟩, loss.reattaching⟩⟩

/-- Who loses a session begins to replace it. -/
theorem begins_of_loses (loses : p.loses target = true) : ∃ id, p.begins id = true := by
  obtain ⟨deed?, effect, _⟩ := move_effect p.now sound allowed
  obtain ⟨⟨handle, attached⟩, lost⟩ := loses_iff.mp loses
  obtain ⟨id, i, other, rfl⟩ := effect.acts.loses_of_stateOf sound attached lost
  obtain ⟨_, loss⟩ := effect.acts.loss sound
  obtain ⟨j, stage, here, _⟩ := loss.begun
  exact ⟨id, begins_iff.mpr ⟨loss.free, isReattachment_iff.mpr ⟨j, stage, here⟩⟩⟩

/-- Who asks the browser to attach again has not done so before, and will not do so any more. -/
theorem retried (retries : p.retry? = some (id, target)) :
    (∃ i stage, p.before.operation? id = some (.reattach i stage) ∧
      (Operation.reattach i stage).isAttempting = false ∧ (p.before.slot i).target = target) ∧
      ¬ p.after.MayAsk id := by
  obtain ⟨deed?, ⟨acts, asked⟩, _⟩ := move_effect p.now sound allowed
  obtain ⟨asking, again⟩ := Option.filter_eq_some_iff.mp retries
  have still : Sound p.after := acts.sound sound
  rw [show asking? p.told? = _ from asked] at asking
  obtain ⟨i, stage, here⟩ := isReattachment_iff.mp again
  cases acts with
  | quietly => cases asking
  | once early does late =>
    obtain ⟨⟨_, j⟩, asks, entry⟩ := Option.map_eq_some_iff.mp asking
    obtain ⟨rfl, home⟩ := Prod.mk.inj entry
    have soundBefore := early.sound sound
    have first := early.keeps sound
    have last := late.keeps (does.sound soundBefore)
    obtain ⟨sameHome, _⟩ := does.asked_home late soundBefore asks
    cases does with
    | asks _ _ waiting =>
      cases asks
      have opened := (last.attempts _ _ rfl).mpr (operation?_replaced _ waiting)
      rw [show p.after.operation? _ = _ from opened] at here
      cases here
    | asksAgain _ _ waiting =>
      cases asks
      obtain ⟨earlier, was⟩ := first.reattachments _ _ _ waiting
      have opened := (last.attempts _ _ rfl).mpr (operation?_replaced _ waiting)
      obtain ⟨_, _, fixed, _⟩ := first.slots _ (sound.crew.placed _ _ was)
      refine ⟨⟨_, earlier, was, ?_, fixed.symm.trans (sameHome.symm.trans home)⟩, ?_⟩
      · by_contra attempting
        have same := (first.attempts _ _ (by simpa using attempting)).mpr was
        rw [waiting] at same
        cases same
        exact attempting rfl
      · rintro (free | ⟨_, _, there, patient⟩)
        · exact absurd (still.crew.numbered _ _ opened) (Nat.not_lt.mpr free)
        · rw [show p.after.operation? _ = _ from opened] at there
          cases there
          cases patient
    | _ => cases asks

end

end Passage

/-! ## Reattachments in runs -/

namespace Runs

/-- A reattachment asks at most once. -/
theorem retries_le_one (run : Runs settings now m past) (id : OperationId) :
    past.countP (Passage.retries id) ≤ 1 ∧
      (m.MayAsk id → past.countP (Passage.retries id) = 0) := by
  induction run with
  | start => exact ⟨Nat.zero_le 1, fun _ => rfl⟩
  | wait _ _ induction => exact induction
  | @move now m past move run allowed patient induction =>
    obtain ⟨le_one, eq_zero⟩ := induction
    obtain ⟨_, effect, _⟩ := move_effect now run.sound allowed
    obtain ⟨_, done⟩ := effect.acts.deeds
    rw [List.countP_cons]
    by_cases retries : Passage.retries id ⟨now, m, move⟩ = true
    · rw [if_pos retries]
      obtain ⟨target, retry⟩ := Passage.retries_iff.mp retries
      obtain ⟨⟨i, stage, here, waits, _⟩, ended⟩ :=
        Passage.retried (p := ⟨now, m, move⟩) run.sound allowed retry
      have none := eq_zero (.inr ⟨i, stage, here, waits⟩)
      exact ⟨by omega, fun may => absurd may ended⟩
    · rw [if_neg retries]
      exact ⟨le_one, fun may => eq_zero (done.mayAsk run.sound may)⟩

/-- Every reattachment was begun by the loss of a session of its target. -/
theorem begun (run : Runs settings now m past) {stage : Stage}
    (here : m.operation? id = some (.reattach i stage)) :
    ∃ p ∈ past, p.begins id = true ∧ p.loses (m.slot i).target = true := by
  induction run generalizing stage with
  | start => cases here
  | wait _ _ induction => exact induction here
  | @move now m past move run allowed patient induction =>
    obtain ⟨_, effect, _⟩ := move_effect now run.sound allowed
    rcases effect.acts.begun run.sound here with ⟨earlier, before⟩ | ⟨handle, rfl⟩
    · obtain ⟨p, member, begins, loses⟩ := induction before
      have inside : i < m.slots.length := run.sound.crew.placed id _ before
      obtain ⟨_, home, _⟩ := move_keepsSlots now run.sound allowed inside
      exact ⟨p, List.mem_cons_of_mem _ member, begins, home ▸ loses⟩
    · obtain ⟨_, loss⟩ := effect.acts.loss run.sound
      obtain ⟨j, later, there, home⟩ := loss.begun
      rw [here] at there
      cases there
      refine ⟨⟨now, m, move⟩, List.mem_cons_self, Passage.begins_iff.mpr ⟨loss.free, ?_⟩, ?_⟩
      · exact isReattachment_iff.mpr ⟨i, stage, here⟩
      · exact Passage.loses_iff.mpr ⟨⟨handle, home ▸ loss.attached⟩, home ▸ loss.reattaching⟩

/-- A change to reattaching is behind at most one request to attach again. -/
theorem retried_once (run : Runs settings now m past) (member : p ∈ past) :
    past.countP p.causes ≤ 1 := by
  obtain ⟨_, early, allowed, _⟩ := run.of_mem member
  by_cases begins : ∃ id, p.begins id = true
  · obtain ⟨id, begins⟩ := begins
    obtain ⟨only, _⟩ := Passage.begun early.sound allowed begins
    refine Nat.le_trans (List.countP_mono_left fun q _ causes => ?_) (run.retries_le_one id).1
    obtain ⟨other, begun, retries⟩ := Passage.causes_iff.mp causes
    rwa [only other begun] at retries
  · have none : past.countP p.causes = 0 := by
      refine List.countP_eq_zero.mpr fun q _ causes => begins ?_
      obtain ⟨id, begun, _⟩ := Passage.causes_iff.mp causes
      exact ⟨id, begun⟩
    omega

/-- Behind a request to attach again there is a loss. -/
theorem caused (run : Runs settings p.now p.before past) (allowed : p.before.Allows p.move)
    (retries : p.retry? = some (id, target)) :
    ∃ q ∈ past, q.begins id = true ∧ q.loses target = true := by
  obtain ⟨⟨i, stage, here, _, rfl⟩, _⟩ := Passage.retried run.sound allowed retries
  exact run.begun here

end Runs

end BrowserScript.Session
