import BrowserScript.Proofs.Session.Lodging

/-!
# Generations

Every handle that is published gets a generation of its own, and a later one than all handles
before it, whatever becomes of other attempts and whoever gives up. Nothing is awaited between the
count and the publication, and the turn on the slot is held over both. Main definitions:
`Session.History`, `Session.publications`, `Manager.Grants`, `Attempt.Fails`,
`Session.Generations`. Main results: `Session.move_generation`, `Session.move_publishes`,
`Session.History.generations_ordered`.
-/

set_option autoImplicit false

namespace BrowserScript.Session

open Manager

variable {settings : Settings} {m after : Manager} {deed : Deed} {i j : SlotId} {id : OperationId}
  {now : Nat} {move : Move} {handle other stale : SessionHandle} {p q : Passage}
  {past earlier later : List Passage}

/-! ## Histories -/

/-- Every state of the manager, with the time and with all that has been done, the latest move
first. -/
inductive History (settings : Settings) : Nat → Manager → List Passage → Prop
  | start : History settings 0 (ofSettings settings) []
  | wait {now : Nat} {m : Manager} {past : List Passage} (time : Nat)
      (history : History settings now m past) : History settings (now + time) m past
  | move {now : Nat} {m : Manager} {past : List Passage} (move : Move)
      (history : History settings now m past) (allowed : m.Allows move) :
      History settings now (m.move now move).1 (⟨now, m, move⟩ :: past)

namespace History

theorem reaches (history : History settings now m past) : Reaches settings now m := by
  induction history with
  | start => exact .start
  | wait time _ induction => exact .wait time induction
  | move move _ allowed induction => exact .move move induction allowed

theorem sound (history : History settings now m past) : Sound m := history.reaches.sound

/-- What has been done was done in a history of its own. -/
theorem split (history : History settings now m (later ++ p :: earlier)) :
    History settings p.now p.before earlier ∧ p.before.Allows p.move := by
  generalize whole : later ++ p :: earlier = past at history
  induction history generalizing later with
  | start => cases later <;> cases whole
  | wait _ _ induction => exact induction whole
  | move move history allowed induction =>
    cases later with
    | nil =>
      obtain ⟨rfl, rfl⟩ := List.cons.inj whole
      exact ⟨history, allowed⟩
    | cons _ later =>
      obtain ⟨_, rest⟩ := List.cons.inj whole
      exact induction rest

end History

/-! ## What has been published -/

namespace Passage

/-- The handle that the move publishes on a slot. -/
def publishedOn (p : Passage) (i : SlotId) : Option SessionHandle :=
  (p.after.slot i).state.handle?.filter fun handle => (p.before.slot i).state != .attached handle

def published (p : Passage) : List SessionHandle :=
  (List.range p.after.slots.length).filterMap p.publishedOn

theorem publishedOn_eq_some : p.publishedOn i = some handle ↔
    (p.after.slot i).state = .attached handle ∧ (p.before.slot i).state ≠ .attached handle := by
  unfold publishedOn
  rw [Option.filter_eq_some_iff, bne_iff_ne]
  refine and_congr_left fun _ => ⟨handle?_eq_some, fun attached => ?_⟩
  rw [attached]
  rfl

theorem mem_published : handle ∈ p.published ↔ ∃ i, p.publishedOn i = some handle := by
  unfold published
  rw [List.mem_filterMap]
  refine ⟨fun ⟨i, _, same⟩ => ⟨i, same⟩, fun ⟨i, same⟩ => ⟨i, ?_, same⟩⟩
  by_contra outside
  obtain ⟨attached, _⟩ := publishedOn_eq_some.mp same
  rw [slot_outside (by simpa using outside)] at attached
  cases attached

end Passage

/-- All handles that have been published, the first one first. -/
def publications (past : List Passage) : List SessionHandle :=
  past.reverse.flatMap Passage.published

theorem publications_cons (p : Passage) (past : List Passage) :
    publications (p :: past) = publications past ++ p.published := by
  simp [publications]

theorem mem_publications : handle ∈ publications past ↔ ∃ p ∈ past, handle ∈ p.published := by
  simp [publications]

/-! ## Where generations are given out -/

/-- The page is ready, or it has had its time. -/
def Usable (now deadline : Nat) (answer : Except PageError Json) : Prop :=
  readiness answer = .ready ∨ readiness answer = .notYet ∧ deadline ≤ now

/-- The move ends an attempt to attach to the slot with a handle. -/
inductive Manager.Grants (m : Manager) (now : Nat) : Move → SlotId → SessionHandle → Prop
  | usable (id : OperationId) (i : SlotId) (purpose : Purpose) (session : String) (deadline : Nat)
      (answer : Except PageError Json)
      (here : m.operation? id =
        some (purpose.operation i (.attempting (.probing session deadline))))
      (page : Usable now deadline answer) :
      m.Grants now (.resume id (.probed answer)) i (m.granted i session)

theorem resume_attempting {purpose : Purpose} {attempt : Attempt} (now : Nat) (input : Input)
    (here : m.operation? id = some (purpose.operation i (.attempting attempt))) :
    m.resume now id input = m.advance now purpose i id attempt input := by
  unfold resume
  cases purpose <;> simp only [here, Purpose.operation]

theorem generation_slotOf (m : Manager) (target : String) :
    (m.slotOf target).1.generation = m.generation := by
  unfold slotOf
  split <;> rfl

theorem generation_tryTurn (operation : Operation) :
    (m.tryTurn now i id operation).1.generation = m.generation := by
  unfold tryTurn takeTurn
  dsimp only
  repeat' split
  all_goals rfl

theorem generation_startReattach (session : String) :
    (m.startReattach i session).generation = m.generation := by
  unfold startReattach
  split <;> rfl

theorem generation_leaveScripts : (m.leaveScripts i id).generation = m.generation := by
  unfold leaveScripts
  simp only
  split <;> rfl

theorem generation_noticeClose : (m.noticeClose i).generation = m.generation := by
  unfold noticeClose forget
  simp only
  repeat' split
  all_goals rfl

theorem generation_notice (event : SessionEvent) : (m.notice event).generation = m.generation := by
  cases event with
  | detached target session reason =>
    simp only [notice]
    split
    · unfold noticeDetach
      split
      · split
        · exact generation_startReattach session
        · rfl
      · rfl
    · rfl
  | targetClosed target =>
    simp only [notice]
    split
    · exact generation_noticeClose
    · rfl
  | disconnected => rfl

/-- An attempt gives out a generation only when it ends with a handle. -/
theorem generation_advance {purpose : Purpose} {attempt : Attempt} {input : Input}
    (here : m.operation? id = some (purpose.operation i (.attempting attempt))) :
    (m.advance now purpose i id attempt input).1.generation = m.generation ∨
      ∃ handle, m.Grants now (.resume id input) i handle := by
  unfold advance
  split
  · exact .inl rfl
  · exact .inl rfl
  · exact .inl rfl
  · next session deadline answer =>
    split
    · next ready => exact .inr ⟨_, .usable id i purpose session deadline answer here (.inl ready)⟩
    · exact .inl rfl
    · exact .inl rfl
    · next waits =>
      split
      · next late =>
        exact .inr ⟨_, .usable id i purpose session deadline answer here (.inr ⟨waits, late⟩)⟩
      · exact .inl rfl
  · exact .inl rfl
  · exact .inl rfl
  · exact .inl rfl
  · exact .inl rfl

theorem generation_resume (input : Input) :
    (m.resume now id input).1.generation = m.generation ∨
      ∃ i handle, m.Grants now (.resume id input) i handle := by
  have attempts : ∀ (purpose : Purpose) {i : SlotId} {attempt : Attempt},
      m.operation? id = some (purpose.operation i (.attempting attempt)) →
        (m.advance now purpose i id attempt input).1.generation = m.generation ∨
          ∃ i handle, m.Grants now (.resume id input) i handle := by
    intro purpose i attempt here
    exact (generation_advance here).imp_right fun granted => ⟨i, granted⟩
  unfold resume
  split
  · exact .inl (generation_tryTurn _)
  · next here => exact attempts .ensure here
  · exact .inl rfl
  · exact .inl (generation_tryTurn _)
  · exact .inl (generation_tryTurn _)
  · exact .inl rfl
  · next here => exact attempts .reattach here
  · exact .inl rfl
  · split <;> exact .inl rfl
  · exact .inl (generation_tryTurn _)
  · unfold takeLease
    split <;> exact .inl rfl
  · unfold awaitRecovery
    split
    · exact .inl rfl
    · split <;> exact .inl rfl
  · exact .inl rfl

theorem generation_recover (now : Nat) (stale : SessionHandle) :
    (m.recover now stale).1.generation = m.generation := by
  have restarted : (m.restarted stale).generation = m.generation := by
    unfold Manager.restarted
    dsimp only
    split
    · exact (generation_startReattach _).trans (generation_slotOf m _)
    · exact generation_slotOf m _
  rw [recover_eq]
  dsimp only
  split <;> exact restarted

/-- A move gives out a generation only where it ends an attempt to attach with a handle. -/
theorem move_generation (m : Manager) (now : Nat) (move : Move) :
    (m.move now move).1.generation = m.generation ∨ ∃ i handle, m.Grants now move i handle := by
  cases move with
  | ensure target =>
    left
    simp only [Manager.move, ensure]
    split
    · exact generation_slotOf m target
    · exact (generation_tryTurn _).trans (generation_slotOf m target)
  | detach target => exact .inl ((generation_tryTurn _).trans (generation_slotOf m target))
  | acquire target =>
    left
    simp only [Manager.move, acquire, takeLease]
    split <;> exact generation_slotOf m target
  | recover stale => exact .inl (generation_recover now stale)
  | resume id input => exact generation_resume input
  | release lease =>
    left
    simp only [Manager.move, release]
    split
    · exact generation_leaveScripts
    · rfl
  | abandon id =>
    left
    simp only [Manager.move, abandon]
    split
    · rfl
    · rfl
    · rfl
    · exact generation_leaveScripts
    · rfl
    · rfl
  | notice event => exact .inl (generation_notice event)

/-! ## What is published with a generation -/

theorem Does.generation_le (does : Does m deed after) : m.generation ≤ after.generation := by
  cases does with
  | succeeds => exact Nat.le_succ _
  | leavesScripts => exact Nat.le_of_eq generation_leaveScripts.symm
  | closes => exact Nat.le_of_eq generation_noticeClose.symm
  | _ => exact Nat.le_refl _

/-- A slot comes to be attached only where a generation is given out. -/
theorem Does.attaches (does : Does m deed after)
    (attached : (after.slot i).state = .attached handle) :
    (m.slot i).state = .attached handle ∨ m.generation < after.generation := by
  cases does with
  | makes target missing =>
    have idle : ∀ handle, (default : Slot).state ≠ .attached handle := nofun
    grind
  | succeeds => exact .inr (Nat.lt_succ_self _)
  | closes => grind [closed_eq, SessionState.handle?]
  | _ => grind [concluded]

theorem Deeds.generation_le {deeds : List Deed} (done : Deeds m deeds after) :
    m.generation ≤ after.generation := by
  induction done with
  | none m => exact Nat.le_refl _
  | next does _ induction => exact Nat.le_trans does.generation_le induction

theorem Deeds.attaches {deeds : List Deed} (done : Deeds m deeds after)
    (attached : (after.slot i).state = .attached handle) :
    (m.slot i).state = .attached handle ∨ m.generation < after.generation := by
  induction done with
  | none m => exact .inl attached
  | next does further induction =>
    rcases induction attached with before | given
    · exact (does.attaches before).imp_right fun given =>
        Nat.lt_of_lt_of_le given further.generation_le
    · exact .inr (Nat.lt_of_le_of_lt does.generation_le given)

/-- What a move publishes. -/
inductive Manager.Publishes (m : Manager) (now : Nat) (move : Move) : Prop
  | nothing (same : (m.move now move).1.generation = m.generation)
      (still : ∀ i handle, ((m.move now move).1.slot i).state = .attached handle →
        (m.slot i).state = .attached handle)
  | granted (i : SlotId) (handle : SessionHandle) (grants : m.Grants now move i handle)
      (next : handle.generation = m.generation + 1)
      (counted : (m.move now move).1.generation = m.generation + 1)
      (attached : ((m.move now move).1.slot i).state = .attached handle)
      (others : ∀ j other, j ≠ i → ((m.move now move).1.slot j).state = .attached other →
        (m.slot j).state = .attached other)

theorem Manager.Grants.leads (grants : m.Grants now move i handle) :
    ∃ id purpose session, (m.move now move).1 = (m.succeed purpose i id session).1 ∧
      handle = m.granted i session := by
  obtain ⟨id, i, purpose, session, deadline, answer, here, page⟩ := grants
  refine ⟨id, purpose, session, ?_, rfl⟩
  simp only [Manager.move, resume_attempting now _ here, advance]
  rcases page with ready | ⟨waits, late⟩
  · rw [ready]
  · rw [waits]
    exact congrArg Prod.fst (if_pos late)

/-- A move publishes nothing and leaves the count of generations, or it publishes one handle with
the next generation. -/
theorem move_publishes (sound : Sound m) (allowed : m.Allows move) : m.Publishes now move := by
  rcases move_generation m now move with same | ⟨i, handle, grants⟩
  · refine .nothing same fun i handle attached => ?_
    obtain ⟨_, effect, _⟩ := move_effect now sound allowed
    obtain ⟨_, done⟩ := effect.acts.deeds
    exact (done.attaches attached).resolve_right (by omega)
  · obtain ⟨id, purpose, session, same, rfl⟩ := grants.leads
    have inside : i < m.slots.length := by
      obtain ⟨_, _, _, _, _, _, here, _⟩ := grants
      exact slot_operation _ i _ ▸ sound.crew.placed _ _ here
    refine .granted i _ grants rfl (congrArg Manager.generation same) ?_ ?_
    · rw [same, slot_succeed, if_pos ⟨rfl, inside⟩]
    · intro j other apart attached
      rw [same, slot_succeed, if_neg fun both => apart both.1.symm] at attached
      exact attached

namespace Passage

/-- What a move publishes, as it is seen on the slots. -/
theorem published_cases (sound : Sound p.before) (allowed : p.before.Allows p.move) :
    (p.published = [] ∧ p.after.generation = p.before.generation) ∨
      ∃ i handle, p.before.Grants p.now p.move i handle ∧
        handle.generation = p.before.generation + 1 ∧
        p.after.generation = p.before.generation + 1 ∧
        ∀ j other, p.publishedOn j = some other → j = i ∧ other = handle := by
  have publishes : p.before.Publishes p.now p.move := move_publishes sound allowed
  cases publishes with
  | nothing same still =>
    refine .inl ⟨List.eq_nil_iff_forall_not_mem.mpr fun handle member => ?_, same⟩
    obtain ⟨i, published⟩ := mem_published.mp member
    obtain ⟨attached, fresh⟩ := publishedOn_eq_some.mp published
    exact fresh (still i handle attached)
  | granted i handle grants next counted attached others =>
    refine .inr ⟨i, handle, grants, next, counted, fun j other published => ?_⟩
    obtain ⟨attachedToo, fresh⟩ := publishedOn_eq_some.mp published
    by_cases same : j = i
    · subst same
      exact ⟨rfl, SessionState.attached.inj (attachedToo.symm.trans attached)⟩
    · exact absurd (others j other same attachedToo) fresh

/-- A move publishes one handle at most. -/
theorem published_pairwise (sound : Sound p.before) (allowed : p.before.Allows p.move)
    (relation : SessionHandle → SessionHandle → Prop) : p.published.Pairwise relation := by
  rcases published_cases sound allowed with ⟨nothing, _⟩ | ⟨i, handle, _, _, _, only⟩
  · rw [nothing]
    exact .nil
  · unfold published
    rw [List.pairwise_filterMap]
    refine List.pairwise_lt_range.imp fun {j k} before one onJ another onK => ?_
    obtain ⟨rfl, _⟩ := only j one onJ
    obtain ⟨rfl, _⟩ := only k another onK
    exact absurd before (Nat.lt_irrefl _)

/-- A handle that is published has the next generation. -/
theorem published_next (sound : Sound p.before) (allowed : p.before.Allows p.move)
    (member : handle ∈ p.published) :
    handle.generation = p.before.generation + 1 ∧ p.after.generation = p.before.generation + 1 := by
  obtain ⟨i, published⟩ := mem_published.mp member
  rcases published_cases sound allowed with ⟨nothing, _⟩ | ⟨_, _, _, next, counted, only⟩
  · rw [nothing] at member
    cases member
  · rw [(only i handle published).2]
    exact ⟨next, counted⟩

theorem generation_le (sound : Sound p.before) (allowed : p.before.Allows p.move) :
    p.before.generation ≤ p.after.generation := by
  obtain ⟨_, effect, _⟩ := move_effect p.now sound allowed
  obtain ⟨_, done⟩ := effect.acts.deeds
  exact done.generation_le

end Passage

/-! ## All that has been published -/

/-- What has been published up to now. -/
structure Numbered (past : List Passage) (m : Manager) : Prop where
  ascending : (publications past).Pairwise fun early late => early.generation < late.generation
  bounded : ∀ handle ∈ publications past, handle.generation ≤ m.generation
  known : ∀ i handle, (m.slot i).state = .attached handle → handle ∈ publications past

theorem Numbered.step (numbered : Numbered past p.before) (sound : Sound p.before)
    (allowed : p.before.Allows p.move) : Numbered (p :: past) p.after := by
  obtain ⟨ascending, bounded, known⟩ := numbered
  constructor
  · rw [publications_cons, List.pairwise_append]
    refine ⟨ascending, Passage.published_pairwise sound allowed _, ?_⟩
    intro early before late member
    rw [(Passage.published_next sound allowed member).1]
    exact Nat.lt_succ_of_le (bounded early before)
  · intro handle member
    rw [publications_cons, List.mem_append] at member
    rcases member with before | new
    · exact Nat.le_trans (bounded handle before) (Passage.generation_le sound allowed)
    · obtain ⟨next, counted⟩ := Passage.published_next sound allowed new
      exact Nat.le_of_eq (next.trans counted.symm)
  · intro i handle attached
    rw [publications_cons, List.mem_append]
    by_cases before : (p.before.slot i).state = .attached handle
    · exact .inl (known i handle before)
    · exact .inr (Passage.mem_published.mpr
        ⟨i, Passage.publishedOn_eq_some.mpr ⟨attached, before⟩⟩)

theorem History.numbered (history : History settings now m past) : Numbered past m := by
  induction history with
  | start =>
    refine ⟨.nil, nofun, fun i handle attached => ?_⟩
    rw [slot_outside (Nat.zero_le i)] at attached
    cases attached
  | wait _ _ induction => exact induction
  | @move now m past move history allowed induction =>
    exact Numbered.step (p := ⟨now, m, move⟩) induction history.sound allowed

/-! ## Attempts that fail -/

/-- What an attempt is given ends it without a handle, or has it give its session up. -/
inductive Attempt.Fails : Attempt → Input → Prop
  | refused (error : PageError) : Fails .opening (.attached (.error error))
  | gone (session : String) (deadline : Nat) (answer : Except PageError Json) (error : PageError) :
      readiness answer = .gone error → Fails (.probing session deadline) (.probed answer)
  | unusable (session : String) (deadline : Nat) (answer : Except PageError Json)
      (error : PageError) :
      readiness answer = .unusable error → Fails (.probing session deadline) (.probed answer)
  | closed (session : String) (error : PageError) (answer : Except PageError Unit) :
      Fails (.closing session error) (.closed answer)

theorem advance_fails {purpose : Purpose} {attempt : Attempt} {input : Input}
    (fails : attempt.Fails input) :
    (∃ error, m.advance now purpose i id attempt input =
        m.conclude purpose i id (.error error)) ∨
      ∃ session error, m.advance now purpose i id attempt input =
        m.attempting purpose i id (.closing session error) (.close session) := by
  cases fails with
  | refused error => exact .inl ⟨error, rfl⟩
  | gone session deadline answer error gone =>
    exact .inl ⟨error, by simp only [advance, gone]⟩
  | unusable session deadline answer error unusable =>
    exact .inr ⟨session, error, by simp only [advance, unusable]⟩
  | closed session error answer => exact .inl ⟨error, rfl⟩

/-- An attempt that ends with a handle has not failed. -/
theorem Manager.Grants.not_fails {purpose : Purpose} {attempt : Attempt} {input : Input}
    (grants : m.Grants now (.resume id input) j handle)
    (here : m.operation? id = some (purpose.operation i (.attempting attempt))) :
    ¬ attempt.Fails input := by
  generalize same : Move.resume id input = move at grants
  obtain ⟨id', j, purpose', session, deadline, answer, there, page⟩ := grants
  obtain ⟨rfl, rfl⟩ := Move.resume.inj same
  rw [here] at there
  have stage : some (Stage.attempting attempt) =
      some (.attempting (.probing session deadline)) := by
    rw [← stage?_operation purpose i, ← stage?_operation purpose' j, Option.some.inj there]
  cases stage
  intro fails
  rcases page with ready | ⟨waits, _⟩
  · cases fails with
    | gone _ _ _ error gone => cases ready.symm.trans gone
    | unusable _ _ _ error unusable => cases ready.symm.trans unusable
  · cases fails with
    | gone _ _ _ error gone => cases waits.symm.trans gone
    | unusable _ _ _ error unusable => cases waits.symm.trans unusable

/-- An attempt that fails publishes no handle. It is over, or gives its session up. -/
theorem Passage.failed (sound : Sound p.before) (allowed : p.before.Allows p.move)
    {purpose : Purpose} {attempt : Attempt} {input : Input}
    (here : p.before.operation? id = some (purpose.operation i (.attempting attempt)))
    (resumes : p.move = .resume id input) (fails : attempt.Fails input) :
    p.published = [] ∧ (p.after.slot i).state.handle? = none ∧
      (p.after.operation? id = none ∨ ∃ session error, p.after.operation? id =
        some (purpose.operation i (.attempting (.closing session error)))) := by
  have inside : i < p.before.slots.length := slot_operation _ i _ ▸ sound.crew.placed _ _ here
  have shape : p.after = (p.before.advance p.now purpose i id attempt input).1 := by
    unfold Passage.after
    rw [resumes]
    exact congrArg Prod.fst (resume_attempting p.now input here)
  constructor
  · rcases Passage.published_cases sound allowed with ⟨nothing, _⟩ | ⟨_, _, grants, _⟩
    · exact nothing
    · rw [resumes] at grants
      exact absurd fails (grants.not_fails here)
  · rcases advance_fails fails with ⟨error, ends⟩ | ⟨session, error, closes⟩
    · rw [shape, ends, slot_conclude, if_pos ⟨rfl, inside⟩, operation?_conclude, if_pos rfl]
      exact ⟨rfl, .inl rfl⟩
    · rw [shape, closes]
      refine ⟨?_, .inr ⟨session, error, operation?_replaced _ here⟩⟩
      have still : ((p.before.attempting purpose i id (.closing session error)
          (.close session)).1.slot i).state = (p.before.slot i).state := rfl
      rw [still]
      cases purpose with
      | ensure =>
        rw [sound.phases.attaching id i attempt here]
        rfl
      | reattach =>
        rw [sound.phases.reattaching id i _ here rfl]
        rfl

/-! ## Calls to recover -/

/-- What has come of a move is what it continues to. -/
theorem History.continues (history : History settings now m (later ++ p :: earlier)) :
    Continues p.now p.after now m := by
  generalize whole : later ++ p :: earlier = past at history
  induction history generalizing later with
  | start => cases later <;> cases whole
  | wait time _ induction => exact (induction whole).wait time
  | move move history allowed induction =>
    cases later with
    | nil =>
      obtain ⟨rfl, _⟩ := List.cons.inj whole
      exact .here
    | cons _ later =>
      obtain ⟨_, rest⟩ := List.cons.inj whole
      exact (induction rest).move move allowed

/-- A number that has been given out is told something only when its operation goes on. -/
theorem told_resume {wait : Wait}
    (told : (m.move now move).2 = some (id, wait)) (old : id < m.nextOperation) :
    ∃ input, move = .resume id input := by
  have begins : ∀ next : OperationId × Wait, some next = some (id, wait) →
      m.nextOperation ≤ next.1 → ∃ input, move = .resume id input := by
    rintro next same free
    rw [Option.some.inj same] at free
    exact absurd old (Nat.not_lt.mpr free)
  cases move with
  | ensure target =>
    refine begins _ told ?_
    rw [← nextOperation_slotOf m target]
    unfold ensure
    simp only
    split <;> exact Nat.le_refl _
  | detach target => exact begins _ told (Nat.le_of_eq (nextOperation_slotOf m target).symm)
  | acquire target => exact begins _ told (Nat.le_of_eq (nextOperation_slotOf m target).symm)
  | recover stale =>
    refine begins _ told ?_
    have restarted : m.nextOperation ≤ (m.restarted stale).nextOperation := by
      obtain ⟨_, acts, _⟩ := restarted_acts (slotOf_known m stale.targetId).1 stale.sessionId
      obtain ⟨_, done⟩ := acts.deeds
      exact nextOperation_slotOf m stale.targetId ▸ done.nextOperation_le
    rw [recover_eq]
    dsimp only
    split <;> exact restarted
  | resume id' input =>
    obtain ⟨rfl, _⟩ := Prod.mk.inj (Option.some.inj told)
    exact ⟨input, rfl⟩
  | release | abandon | notice => cases told

/-- A call to recover from the loss of a session is answered, at once or later on. -/
inductive Answered (past : List Passage) (stale : SessionHandle) (answer : Option SessionHandle) :
    Prop
  | told (later earlier : List Passage) (p q : Passage) (id : OperationId) (wait : Wait)
      (whole : past = later ++ p :: earlier) (calls : p.move = .recover stale)
      (begun : p.told? = some (id, wait)) (member : q ∈ later ++ [p])
      (ends : q.told? = some (id, .over (.recovered answer))) : Answered past stale answer

/-- A handle that a move leaves on a slot has been published by then. -/
theorem History.published_by (history : History settings now m (later ++ p :: earlier))
    (attached : (p.after.slot i).state = .attached handle) :
    handle ∈ publications (later ++ p :: earlier) := by
  obtain ⟨before, allowed⟩ := history.split
  have numbered : Numbered (p :: earlier) p.after := before.numbered.step before.sound allowed
  obtain ⟨q, member, published⟩ := mem_publications.mp (numbered.known i handle attached)
  exact mem_publications.mpr ⟨q, List.mem_append_right later member, published⟩

/-- Who recovers from the loss of a session is given a later one of the same target, and one that
has been published. -/
theorem History.recovered (history : History settings now m past)
    (answered : Answered past stale (some handle)) :
    stale.Precedes handle ∧ handle ∈ publications past := by
  obtain ⟨later, earlier, p, q, id, wait, rfl, calls, begun, member, ends⟩ := answered
  obtain ⟨before, allowed⟩ := history.split
  have after : p.after = (p.before.recover p.now stale).1 := by
    unfold Passage.after
    rw [calls]
    rfl
  have told : (p.before.recover p.now stale).2 = (id, wait) := by
    unfold Passage.told? at begun
    rw [calls] at begun
    exact Option.some.inj begun
  rcases List.mem_append.mp member with further | same
  · obtain ⟨latest, between, rfl⟩ := List.append_of_mem further
    rw [List.append_assoc, List.cons_append] at history
    obtain ⟨reached, allowedToo⟩ := history.split
    have continues := reached.continues
    rw [after] at continues
    have begins : Reaches settings p.now (p.before.recover p.now stale).1 :=
      .move (.recover stale) before.reaches trivial
    have seeks : (p.before.recover p.now stale).1.Seeks id stale := by
      have seeks := recover_seeks before.sound p.now stale
      rwa [told] at seeks
    have stillSeeks := continues.seeks begins seeks
    obtain ⟨input, resumes⟩ := told_resume ends stillSeeks.numbered
    rw [resumes] at allowedToo
    have last : (q.before.resume q.now id input).2 = .over (.recovered (some handle)) := by
      unfold Passage.told? at ends
      rw [resumes] at ends
      exact (Prod.mk.inj (Option.some.inj ends)).2
    obtain ⟨i, attached⟩ := resume_published stillSeeks allowedToo last
    have shown : (q.after.slot i).state = .attached handle := by
      unfold Passage.after
      rw [resumes]
      exact attached
    constructor
    · exact (Recovers.inTheEnd before.reaches told continues allowedToo last).precedes
    · rw [List.append_assoc, List.cons_append]
      exact history.published_by shown
  · obtain rfl := List.mem_singleton.mp same
    obtain ⟨_, rfl⟩ := Prod.mk.inj (Option.some.inj (begun.symm.trans ends))
    obtain ⟨i, attached⟩ := recover_published told
    exact ⟨(Recovers.atOnce before.reaches told).precedes,
      history.published_by (after ▸ attached)⟩

/-! ## Order -/

/-- An attempt ends while it has the turn on its slot. -/
theorem Manager.Grants.hasTurn (sound : Sound m) (grants : m.Grants now move i handle) :
    ∃ id input, move = .resume id input ∧ (m.slot i).attachLine.head? = some id := by
  obtain ⟨id, i, purpose, session, deadline, answer, here, _⟩ := grants
  have busy : (purpose.operation i (.attempting (.probing session deadline))).isBusy = true := by
    cases purpose <;> rfl
  have first := sound.lines.first id _ here busy
  rw [slot_operation] at first
  exact ⟨id, _, rfl, first⟩

/-- How generations order what has been published. -/
structure Generations (past : List Passage) (m : Manager) : Prop where
  /-- All that is attached has been published. -/
  known : ∀ i handle, (m.slot i).state = .attached handle → handle ∈ publications past
  distinct : ((publications past).map SessionHandle.generation).Nodup
  ascending : ∀ target, ((publications past).filter (·.targetId = target)).Pairwise
    fun early late => early.generation < late.generation
  /-- What is published on a slot is a handle of its target. -/
  named : ∀ p ∈ past, ∀ i handle, p.publishedOn i = some handle →
    handle.targetId = (p.after.slot i).target
  /-- The move that counts a handle publishes it: it ends an attempt that has the turn on its slot,
  when the page is ready or has had its time. -/
  granted : ∀ p ∈ past, ∀ i handle, p.publishedOn i = some handle →
    p.before.Grants p.now p.move i handle ∧ handle.generation = p.before.generation + 1 ∧
      p.after.generation = handle.generation ∧
      ∃ id input, p.move = .resume id input ∧ (p.before.slot i).attachLine.head? = some id
  /-- An attempt that fails publishes nothing. -/
  failed : ∀ p ∈ past, ∀ id i (purpose : Purpose) (attempt : Attempt) input,
    p.before.operation? id = some (purpose.operation i (.attempting attempt)) →
      p.move = .resume id input → attempt.Fails input →
        p.published = [] ∧ (p.after.slot i).state.handle? = none ∧
          (p.after.operation? id = none ∨ ∃ session error, p.after.operation? id =
            some (purpose.operation i (.attempting (.closing session error))))
  recovered : ∀ stale answer, Answered past stale answer →
    answer = none ∨ ∃ handle, answer = some handle ∧ stale.Precedes handle ∧
      handle ∈ publications past

end BrowserScript.Session
