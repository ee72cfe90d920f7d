import BrowserScript.Proofs.Relay.Flags
import BrowserScript.Proofs.Relay.Handling
import Mathlib.Data.List.Nodup

/-!
# The cancel flags of a worker

A worker that handles any number of commands at once, whose programs go on one request at a time in
any order. Which flags are found under a script id is decided by the runs of it that are under way.
Main definitions: `Worker.Keeps`, `Host`, `Host.Step`, `Host.Registered`. Main results:
`Worker.handle_keeps`, `Host.Reaches.tracked`, `Host.Reaches.runs_registered`.
-/

set_option autoImplicit false

namespace BrowserScript

open Program

/-! ## What a program does with its flag -/

namespace Worker

/-- A program that has entered a flag or not. It enters one at most, for a script it is meant to
run, asks for no other, and takes it out right before it is done. -/
inductive Keeps (wanted : String → Prop) :
    Option (String × Relay.FlagId) → WorkerProgram Reply → Prop
  | done (reply : Reply) : Keeps wanted none (.done reply)
  | register (id : String) (next : Relay.FlagId → WorkerProgram Reply) :
      wanted id → (∀ flag, Keeps wanted (some (id, flag)) (next flag)) →
      Keeps wanted none (.ask (.register id) next)
  | unregister (id : String) (flag : Relay.FlagId) (next : Unit → WorkerProgram Reply)
      (result : RunResult) :
      next () = .done (.execution result) →
      Keeps wanted (some (id, flag)) (.ask (.unregister id flag) next)
  | isCancelled (id : String) (flag : Relay.FlagId) (next : Bool → WorkerProgram Reply) :
      (∀ answer, Keeps wanted (some (id, flag)) (next answer)) →
      Keeps wanted (some (id, flag)) (.ask (.isCancelled flag) next)
  | run (held : Option (String × Relay.FlagId)) (request : Run.Request)
      (next : request.Answer → WorkerProgram Reply) :
      (∀ answer, Keeps wanted held (next answer)) →
      Keeps wanted held (.ask (.run request) next)
  | load (id : String) (next : Except LoadError Script → WorkerProgram Reply) :
      (∀ answer, Keeps wanted none (next answer)) → Keeps wanted none (.ask (.load id) next)
  | classify (text : String) (next : Option IntentMatch → WorkerProgram Reply) :
      (∀ answer, Keeps wanted none (next answer)) → Keeps wanted none (.ask (.classify text) next)
  | cancel (id : String) (next : Bool → WorkerProgram Reply) :
      (∀ answer, Keeps wanted none (next answer)) → Keeps wanted none (.ask (.cancel id) next)

variable {wanted : String → Prop} {config : Config} {command : Command} {id : String}

/-- A run keeps the flag it has been given until it has ended. -/
theorem run_keeps (flag : Relay.FlagId) (program : RunProgram RunResult) :
    Keeps wanted (some (id, flag)) (program.interpret (underFlag flag) >>= fun result =>
      unregister id flag >>= fun _ => pure (.execution result)) := by
  induction program with
  | done result => exact .unregister id flag _ result rfl
  | ask request next induction =>
    have plain : underFlag flag request = Program.request (Request.run request) →
        Keeps wanted (some (id, flag)) ((Program.ask request next).interpret (underFlag flag) >>=
          fun result => unregister id flag >>= fun _ => pure (.execution result)) := by
      intro same
      rw [interpret, same]
      exact .run _ request _ induction
    cases request with
    | isCancelled => exact .isCancelled id flag _ induction
    | _ => exact plain rfl

theorem runScript_keeps {parameters : Variables} {target : Option String} {detach : Bool}
    (meant : target.or config.defaultTarget ≠ none → wanted id) :
    Keeps wanted none (runScript config id parameters target detach) := by
  unfold runScript
  split
  · exact .done _
  · next chosen =>
    refine .load id _ fun loaded => ?_
    cases loaded with
    | error error => exact .done _
    | ok script =>
      exact .register id _ (meant (by simp [chosen])) fun flag => run_keeps flag _

/-- The scripts that a command can make the worker run. -/
def Means (config : Config) (command : Command) (id : String) : Prop :=
  ∃ opening parameters options, Seeks config command opening id parameters options

theorem handle_keeps (config : Config) (command : Command) :
    Keeps (Means config command) none (handle config command) := by
  cases command with
  | runScript id parameters target detach =>
    refine runScript_keeps fun some => ?_
    obtain ⟨chosen, here⟩ := Option.ne_none_iff_exists'.mp some
    exact ⟨_, _, _, .named id parameters target detach chosen here⟩
  | processIntent text target =>
    change Keeps _ none (processIntent config text target)
    unfold processIntent
    split
    · next classifies =>
      refine .classify text _ fun found => ?_
      simp only [Program.bind]
      split
      · exact .done _
      · next intent =>
        split
        · next id refers =>
          refine runScript_keeps fun some => ?_
          obtain ⟨chosen, here⟩ := Option.ne_none_iff_exists'.mp some
          exact ⟨_, _, _, .understood text target intent id chosen classifies refers here⟩
        · exact .done _
    · exact .done _
  | attach target =>
    refine .run none _ _ fun answer => ?_
    cases answer <;> exact .done _
  | detach target =>
    refine .run none _ _ fun answer => ?_
    cases answer <;> exact .done _
  | cancel id => exact .cancel id _ fun _ => .done _

end Worker

namespace Relay

/-! ## Commands under way -/

/-- A command that is being handled. -/
structure Errand where
  command : Command
  /-- What has been exchanged for it. -/
  log : Worker.Log
  /-- What there is still to do. -/
  rest : WorkerProgram Reply

/-- The script id and the flag of a run that begins. -/
def registered? : Entry Worker.Request Worker.Request.Answer → Option (String × FlagId)
  | ⟨.register id, flag⟩ => some (id, flag)
  | _ => none

namespace Errand

def start (config : Worker.Config) (command : Command) : Errand :=
  ⟨command, [], Worker.handle config command⟩

/-- One of its requests has been answered. -/
def onward (errand : Errand) (request : Worker.Request) (answer : request.Answer)
    (rest : WorkerProgram Reply) : Errand :=
  { errand with log := errand.log ++ [⟨request, answer⟩], rest }

def isOver (errand : Errand) : Bool :=
  match errand.rest with
  | .done _ => true
  | .ask _ _ => false

/-- The runs that have been registered. -/
def registered (errand : Errand) : List (String × FlagId) := errand.log.filterMap registered?

/-- The runs that have been registered and have not returned. -/
def runs (errand : Errand) : List (String × FlagId) :=
  if errand.isOver then [] else errand.registered

end Errand

/-- How the registry answers a request; all else is answered in any way. -/
inductive Registry.Answers (r : Registry) :
    (request : Worker.Request) → request.Answer → Registry → Prop
  | register (id : String) : Answers r (.register id) (r.register id).2 (r.register id).1
  | unregister (id : String) (flag : FlagId) :
      Answers r (.unregister id flag) () (r.unregister id flag)
  | isCancelled (flag : FlagId) : Answers r (.isCancelled flag) (r.isCancelled flag) r
  | cancel (id : String) : Answers r (.cancel id) (r.cancel id).2 (r.cancel id).1
  | run (request : Run.Request) (answer : request.Answer) : Answers r (.run request) answer r
  | load (id : String) (answer : Except LoadError Script) : Answers r (.load id) answer r
  | classify (text : String) (answer : Option IntentMatch) : Answers r (.classify text) answer r

/-- The flags of a script among some runs. -/
def flagsIn (runs : List (String × FlagId)) (id : String) : List FlagId :=
  (runs.filter fun run => run.1 == id).map Prod.snd

/-- A worker with the commands that have been given to it. -/
structure Host where
  registry : Registry
  errands : List Errand

namespace Host

/-- All runs that have been registered and have not returned. -/
def runs (h : Host) : List (String × FlagId) := h.errands.flatMap Errand.runs

/-- The flags of the runs of a script that have been registered and have not returned. -/
def live (h : Host) (id : String) : List FlagId := flagsIn h.runs id

/-- All runs that have ever been registered. -/
def registered (h : Host) : List (String × FlagId) := h.errands.flatMap Errand.registered

inductive Step (config : Worker.Config) : Host → Host → Prop
  | begin (h : Host) (command : Command) :
      Step config h { h with errands := h.errands ++ [.start config command] }
  | exchange (registry after : Registry) (before later : List Errand) (errand : Errand)
      (request : Worker.Request) (next : request.Answer → WorkerProgram Reply)
      (answer : request.Answer) :
      errand.rest = .ask request next → registry.Answers request answer after →
      Step config ⟨registry, before ++ errand :: later⟩
        ⟨after, before ++ errand.onward request answer (next answer) :: later⟩

/-- The states a worker can get into. -/
inductive Reaches (config : Worker.Config) : Host → Prop
  | start : Reaches config ⟨.empty, []⟩
  | step {h after : Host} : Reaches config h → Step config h after → Reaches config after

end Host

variable {config : Worker.Config} {h : Host} {errand next : Errand} {r after : Registry}
  {before later : List Errand} {id : String} {flag : FlagId} {flags : List FlagId}

/-! ## One errand -/

namespace Errand

/-- What an errand has registered is what its program is to take out again. -/
structure Sound (config : Worker.Config) (errand : Errand)
    (held : Option (String × FlagId)) : Prop where
  keeps : Worker.Keeps (Worker.Means config errand.command) held errand.rest
  runs : errand.runs = held.toList
  meant : ∀ run ∈ errand.registered, Worker.Means config errand.command run.1
  /-- A cancelling command is answered with what has been found. -/
  cancels : ∀ id, errand.command = .cancel id →
    errand.rest = Worker.handle config (.cancel id) ∧ errand.log = [] ∨
      ∃ found, errand.rest = .done (.cancelled id found) ∧
        errand.log = [⟨.cancel id, found⟩]

theorem start_sound (command : Command) : Sound config (start config command) none where
  keeps := Worker.handle_keeps config command
  runs := by
    unfold Errand.runs
    split <;> rfl
  meant _ none := by cases none
  cancels id same := .inl ⟨congrArg (Worker.handle config) same, rfl⟩

/-- A program that is finished holds nothing. -/
theorem runs_eq {held : Option (String × FlagId)} {wanted : String → Prop}
    (keeps : Worker.Keeps wanted held errand.rest)
    (going : errand.isOver = false → errand.registered = held.toList) :
    errand.runs = held.toList := by
  obtain ⟨command, log, rest⟩ := errand
  cases keeps with
  | done reply => rfl
  | _ => exact going rfl

theorem registered_onward {request : Worker.Request} {answer : request.Answer}
    {rest : WorkerProgram Reply} : (errand.onward request answer rest).registered =
      errand.registered ++ (registered? ⟨request, answer⟩).toList :=
  filterMap_snoc errand.log _

end Errand

/-- What an exchange does to the flag that is held and to the registry, and the run it registers. -/
inductive Turns (r : Registry) : Option (String × FlagId) → Option (String × FlagId) →
    List (String × FlagId) → Registry → Prop
  | enters (id : String) :
      Turns r none (some (id, r.nextFlag)) [(id, r.nextFlag)] (r.register id).1
  | leaves (id : String) (flag : FlagId) :
      Turns r (some (id, flag)) none [] (r.unregister id flag)
  | stays (held : Option (String × FlagId)) : Turns r held held [] r
  | cancels (id : String) : Turns r none none [] (r.cancel id).1

theorem Errand.Sound.exchange {held : Option (String × FlagId)} (sound : errand.Sound config held)
    {request : Worker.Request} {further : request.Answer → WorkerProgram Reply}
    {answer : request.Answer} (asks : errand.rest = .ask request further)
    (answers : r.Answers request answer after) :
    ∃ now new, (errand.onward request answer (further answer)).Sound config now ∧
      (errand.onward request answer (further answer)).registered = errand.registered ++ new ∧
      Turns r held now new after := by
  obtain ⟨command, log, rest⟩ := errand
  cases asks
  have has : Errand.registered ⟨command, log, .ask request further⟩ = held.toList := sound.runs
  have replied : ∀ id, command = .cancel id →
      further answer = Worker.handle config (.cancel id) ∧ log ++ [⟨request, answer⟩] = [] ∨
        ∃ found, further answer = .done (.cancelled id found) ∧
          log ++ [⟨request, answer⟩] = [⟨.cancel id, found⟩] := by
    intro id same
    rcases sound.cancels id same with ⟨begun, none⟩ | ⟨found, finished, _⟩
    · cases begun
      cases none
      exact .inr ⟨answer, rfl, rfl⟩
    · cases finished
  have meant : ∀ run ∈ (onward ⟨command, log, .ask request further⟩ request answer
      (further answer)).registered, Worker.Means config command run.1 := by
    rw [registered_onward]
    intro run member
    rcases List.mem_append.mp member with old | new
    · exact sound.meant run old
    · cases request with
      | register id =>
        cases List.mem_singleton.mp new
        cases sound.keeps with
        | register _ _ wanted _ => exact wanted
      | _ => cases new
  have goes : ∀ {now : Option (String × FlagId)},
      Worker.Keeps (Worker.Means config command) now (further answer) →
      held.toList ++ (registered? ⟨request, answer⟩).toList = now.toList →
      (onward ⟨command, log, .ask request further⟩ request answer (further answer)).Sound
        config now := by
    intro now keeps same
    refine ⟨keeps, runs_eq keeps fun _ => ?_, meant, replied⟩
    rw [registered_onward, has, same]
  cases sound.keeps with
  | register id next wanted keeps =>
    cases answers
    exact ⟨_, _, goes (keeps _) rfl, registered_onward, .enters id⟩
  | unregister id flag next result ends =>
    cases answers
    refine ⟨none, [], ⟨?_, ?_, meant, replied⟩, registered_onward, .leaves id flag⟩
    · exact ends ▸ .done _
    · change Errand.runs ⟨command, _, next ()⟩ = []
      rw [ends]
      rfl
  | isCancelled id flag next keeps =>
    cases answers
    exact ⟨_, _, goes (keeps _) (List.append_nil _), registered_onward, .stays _⟩
  | run held request next keeps =>
    cases answers
    exact ⟨_, _, goes (keeps _) (List.append_nil _), registered_onward, .stays _⟩
  | load id next keeps =>
    cases answers
    exact ⟨_, _, goes (keeps _) rfl, registered_onward, .stays _⟩
  | classify text next keeps =>
    cases answers
    exact ⟨_, _, goes (keeps _) rfl, registered_onward, .stays _⟩
  | cancel id next keeps =>
    cases answers
    exact ⟨_, _, goes (keeps _) rfl, registered_onward, .cancels id⟩

/-! ## All errands -/

theorem flagsIn_perm {runs others : List (String × FlagId)} (same : runs.Perm others)
    (id : String) : (flagsIn runs id).Perm (flagsIn others id) :=
  (same.filter _).map Prod.snd

theorem flagsIn_cons {runs : List (String × FlagId)} {other : String} :
    flagsIn ((id, flag) :: runs) other =
      if other = id then flag :: flagsIn runs other else flagsIn runs other := by
  unfold flagsIn
  by_cases same : other = id
  · simp [same]
  · simp [same, Ne.symm same]

theorem mem_flagsIn {runs : List (String × FlagId)} :
    flag ∈ flagsIn runs id ↔ (id, flag) ∈ runs := by
  simp [flagsIn]

/-- The registry is in order, and so is what the errands have entered into it. -/
structure Host.Tracked (config : Worker.Config) (h : Host) : Prop where
  sound : h.registry.Sound
  errands : ∀ errand ∈ h.errands, ∃ held, errand.Sound config held
  same : ∀ id, (h.registry.flagsOf id).Perm (h.live id)
  /-- No two runs have the same flag. -/
  apart : (h.registered.map Prod.snd).Nodup
  within : ∀ run ∈ h.registered, run.2 < h.registry.nextFlag
  unset : ∀ flag ∈ h.registry.cancelled, flag < h.registry.nextFlag

/-- What the registry finds goes along with the runs. -/
theorem Turns.flagsOf {held now : Option (String × FlagId)} {new rest : List (String × FlagId)}
    (turns : Turns r held now new after) (sound : r.Sound)
    (apart : ((held.toList ++ rest).map Prod.snd).Nodup)
    (same : ∀ id, (r.flagsOf id).Perm (flagsIn (held.toList ++ rest) id)) (id : String) :
    (after.flagsOf id).Perm (flagsIn (now.toList ++ rest) id) := by
  cases turns with
  | enters entered =>
    rw [Registry.flagsOf_register]
    change List.Perm _ (flagsIn ((entered, r.nextFlag) :: rest) id)
    rw [flagsIn_cons]
    split
    · next here =>
      subst here
      exact (List.perm_append_singleton _ _).trans ((same id).cons _)
    · exact same id
  | leaves left flag =>
    have kept := same id
    change List.Perm _ (flagsIn ((left, flag) :: rest) id) at kept
    rw [flagsIn_cons] at kept
    rw [sound.flagsOf_unregister]
    split
    · next here =>
      subst here
      rw [if_pos rfl] at kept
      have fresh : flag ∉ flagsIn rest id := fun member =>
        (List.nodup_cons.mp apart).1 (List.mem_map.mpr ⟨_, mem_flagsIn.mp member, rfl⟩)
      have others : (flag :: flagsIn rest id).filter (· != flag) = flagsIn rest id := by
        rw [List.filter_cons_of_neg (by simp), List.filter_eq_self]
        intro other member
        exact bne_iff_ne.mpr fun equal => fresh (equal ▸ member)
      exact others ▸ kept.filter _
    · next elsewhere =>
      rw [if_neg elsewhere] at kept
      exact kept
  | stays held => exact same id
  | cancels cancelled =>
    rw [Registry.flagsOf, Registry.running_cancel]
    exact same id

theorem Turns.sound {held now : Option (String × FlagId)} {new : List (String × FlagId)}
    (turns : Turns r held now new after) (sound : r.Sound) : after.Sound := by
  cases turns with
  | enters id => exact sound.register id
  | leaves id flag => exact sound.unregister id flag
  | stays held => exact sound
  | cancels id => exact sound.cancel id

theorem Turns.nextFlag_le {held now : Option (String × FlagId)} {new : List (String × FlagId)}
    (turns : Turns r held now new after) : r.nextFlag ≤ after.nextFlag ∧
      ∀ run ∈ new, run.2 = r.nextFlag ∧ run.2 < after.nextFlag := by
  cases turns with
  | enters id =>
    refine ⟨Nat.le_succ _, fun run member => ?_⟩
    cases List.mem_singleton.mp member
    exact ⟨rfl, Nat.lt_succ_self _⟩
  | leaves id flag => exact ⟨Nat.le_refl _, by simp⟩
  | stays held => exact ⟨Nat.le_refl _, by simp⟩
  | cancels id => exact ⟨Nat.le_of_eq Registry.nextFlag_cancel.symm, by simp⟩

theorem Turns.cancelled {held now : Option (String × FlagId)} {new : List (String × FlagId)}
    (turns : Turns r held now new after) (set : flag ∈ after.cancelled) :
    flag ∈ r.cancelled ∨ ∃ id, flag ∈ r.flagsOf id := by
  cases turns with
  | enters id => exact .inl set
  | leaves id flag => exact .inl set
  | stays held => exact .inl set
  | cancels id =>
    have set : (r.cancel id).1.isCancelled flag = true := List.contains_iff_mem.mpr set
    rcases Registry.isCancelled_cancel.mp set with before | found
    · exact .inl (List.contains_iff_mem.mp before)
    · exact .inr ⟨id, found⟩

namespace Host

theorem runs_sublist (h : Host) : h.runs.Sublist h.registered := by
  unfold runs registered
  induction h.errands with
  | nil => exact .slnil
  | cons errand rest induction =>
    have here : errand.runs.Sublist errand.registered := by
      unfold Errand.runs
      split
      · exact List.nil_sublist _
      · exact List.Sublist.refl _
    exact here.append induction

/-- One errand can be put in front of all others. -/
theorem flatMap_perm {B : Type} (f : Errand → List B) :
    ((before ++ errand :: later).flatMap f).Perm (f errand ++ (before ++ later).flatMap f) := by
  rw [List.flatMap_append, List.flatMap_cons, List.flatMap_append]
  exact List.perm_append_comm_assoc _ _ _

namespace Tracked

theorem started : Tracked config ⟨.empty, []⟩ where
  sound := ⟨List.nodup_nil, by simp [Registry.empty]⟩
  errands _ none := by cases none
  same _ := .nil
  apart := List.nodup_nil
  within _ none := by cases none
  unset _ none := by cases none

theorem runs_apart (tracked : Tracked config h) : (h.runs.map Prod.snd).Nodup :=
  tracked.apart.sublist (h.runs_sublist.map Prod.snd)

/-- A flag that is found belongs to a run. -/
theorem mem_flagsOf (tracked : Tracked config h) :
    flag ∈ h.registry.flagsOf id ↔ (id, flag) ∈ h.runs :=
  (tracked.same id).mem_iff.trans mem_flagsIn

theorem begin (tracked : Tracked config h) (command : Command) :
    Tracked config { h with errands := h.errands ++ [.start config command] } := by
  have registers : ({ h with errands := h.errands ++ [.start config command] } : Host).registered =
      h.registered := by
    rw [registered, List.flatMap_append]
    exact List.append_nil _
  have goes : ({ h with errands := h.errands ++ [.start config command] } : Host).runs =
      h.runs := by
    rw [runs, List.flatMap_append, List.flatMap_singleton, (Errand.start_sound command).runs]
    exact List.append_nil _
  refine ⟨tracked.sound, fun errand member => ?_, fun id => ?_, ?_, ?_, tracked.unset⟩
  · rcases List.mem_append.mp member with old | new
    · exact tracked.errands errand old
    · exact ⟨none, List.mem_singleton.mp new ▸ Errand.start_sound command⟩
  · rw [live, goes]
    exact tracked.same id
  · rw [registers]
    exact tracked.apart
  · rw [registers]
    exact tracked.within

theorem exchange (tracked : Tracked config ⟨r, before ++ errand :: later⟩)
    {request : Worker.Request} {further : request.Answer → WorkerProgram Reply}
    {answer : request.Answer} (asks : errand.rest = .ask request further)
    (answers : r.Answers request answer after) :
    Tracked config
      ⟨after, before ++ errand.onward request answer (further answer) :: later⟩ := by
  obtain ⟨held, sound⟩ := tracked.errands errand
    (List.mem_append_right _ List.mem_cons_self)
  obtain ⟨now, new, still, registers, turns⟩ := sound.exchange asks answers
  have was : (⟨r, before ++ errand :: later⟩ : Host).runs.Perm
      (held.toList ++ (before ++ later).flatMap Errand.runs) :=
    sound.runs ▸ flatMap_perm Errand.runs
  have is : (⟨after, before ++ errand.onward request answer (further answer) :: later⟩ :
      Host).runs.Perm (now.toList ++ (before ++ later).flatMap Errand.runs) :=
    still.runs ▸ flatMap_perm Errand.runs
  have registered : (⟨after, before ++ errand.onward request answer (further answer) :: later⟩ :
      Host).registered.Perm (new ++ (⟨r, before ++ errand :: later⟩ : Host).registered) := by
    refine (flatMap_perm Errand.registered).trans ?_
    rw [registers]
    refine (List.perm_append_comm.append_right _).trans ?_
    rw [List.append_assoc]
    exact (flatMap_perm Errand.registered).symm.append_left _
  obtain ⟨grows, fresh⟩ := turns.nextFlag_le
  refine ⟨turns.sound tracked.sound, fun other member => ?_, fun id => ?_, ?_, ?_, ?_⟩
  · rcases List.mem_append.mp member with early | late
    · exact tracked.errands other (List.mem_append_left _ early)
    · rcases List.mem_cons.mp late with rfl | late
      · exact ⟨now, still⟩
      · exact tracked.errands other (List.mem_append_right _ (List.mem_cons_of_mem _ late))
  · refine (turns.flagsOf tracked.sound ?_ (fun id => ?_) id).trans (flagsIn_perm is id).symm
    · exact (was.map Prod.snd).nodup_iff.mp tracked.runs_apart
    · exact (tracked.same id).trans (flagsIn_perm was id)
  · rw [(registered.map Prod.snd).nodup_iff, List.map_append]
    refine List.nodup_append.mpr ⟨?_, tracked.apart, ?_⟩
    · cases turns with
      | enters id => exact List.nodup_singleton _
      | leaves | stays | cancels => exact List.nodup_nil
    · rintro _ here _ there rfl
      obtain ⟨run, member, rfl⟩ := List.mem_map.mp here
      obtain ⟨other, known, same⟩ := List.mem_map.mp there
      have older := tracked.within other known
      rw [same, (fresh run member).1] at older
      exact Nat.lt_irrefl _ older
  · intro run member
    rcases List.mem_append.mp (registered.mem_iff.mp member) with here | there
    · exact (fresh run here).2
    · exact Nat.lt_of_lt_of_le (tracked.within run there) grows
  · intro flag set
    refine Nat.lt_of_lt_of_le ?_ grows
    rcases turns.cancelled set with old | ⟨id, found⟩
    · exact tracked.unset flag old
    · exact tracked.within _ ((runs_sublist _).subset (tracked.mem_flagsOf.mp found))

end Tracked

theorem Step.tracked {h next : Host} (step : Step config h next) (tracked : Tracked config h) :
    Tracked config next := by
  cases step with
  | begin _ command => exact tracked.begin command
  | exchange registry after before later errand request further answer asks answers =>
    exact tracked.exchange asks answers

theorem Reaches.tracked (reaches : Reaches config h) : Tracked config h := by
  induction reaches with
  | start => exact .started
  | step _ step tracked => exact step.tracked tracked

/-! ## The registry and the runs -/

/-- What the registry says of the runs, and what cancelling a script and the end of a run do. -/
structure Registers (config : Worker.Config) (h : Host) : Prop where
  /-- An entry holds the flags of the runs of its script, and there is one only if there are any. -/
  entries : ∀ id flags, (id, flags) ∈ h.registry.running → flags ≠ [] ∧ flags.Perm (h.live id)
  found : ∀ id, h.live id ≠ [] → ∃ flags, (id, flags) ∈ h.registry.running
  once : (h.registry.running.map Prod.fst).Nodup
  /-- No two runs have the same flag. -/
  apart : (h.registered.map Prod.snd).Nodup
  /-- A run is registered for a script that its command means. -/
  meant : ∀ errand ∈ h.errands, ∀ run ∈ errand.registered,
    Worker.Means config errand.command run.1
  /-- A run asks for its own flag only. -/
  asks : ∀ errand ∈ h.errands, ∀ flag further, errand.rest = .ask (.isCancelled flag) further →
    ∃ id, (id, flag) ∈ errand.runs
  /-- Cancelling a script sets the flags of its runs under way, and says if there are any. -/
  cancels : ∀ id found after, h.registry.Answers (.cancel id) found after →
    (found = true ↔ h.live id ≠ []) ∧ after.running = h.registry.running ∧
      ∀ run ∈ h.registered, after.isCancelled run.2 = true ↔
        h.registry.isCancelled run.2 = true ∨ run ∈ h.runs ∧ run.1 = id
  /-- Nothing else sets a flag. -/
  leaves : ∀ request answer after, h.registry.Answers request answer after →
    (∀ id, request ≠ .cancel id) → after.cancelled = h.registry.cancelled
  replies : ∀ errand ∈ h.errands, ∀ id reply, errand.command = .cancel id →
    errand.rest = .done reply →
    ∃ found, reply = .cancelled id found ∧ errand.log = [⟨.cancel id, found⟩]
  /-- A run that ends takes out its own flag and no other, and it has then returned. -/
  ends : ∀ errand ∈ h.errands, ∀ id flag further,
    errand.rest = .ask (.unregister id flag) further →
    (id, flag) ∈ errand.runs ∧ (∃ result, further () = .done (.execution result)) ∧
      ∀ other held, held ∈ (h.registry.unregister id flag).flagsOf other ↔
        held ∈ h.registry.flagsOf other ∧ (other, held) ≠ (id, flag)

/-- However the programs of the commands take turns, the registry knows the runs under way. -/
theorem Reaches.runs_registered (reaches : Reaches config h) : Registers config h where
  entries id flags member := by
    obtain ⟨same, some⟩ := reaches.tracked.sound.mem_running.mp member
    exact ⟨some, same ▸ reaches.tracked.same id⟩
  found id some := by
    refine ⟨_, reaches.tracked.sound.mem_running.mpr ⟨rfl, fun none => some ?_⟩⟩
    exact List.Perm.nil_eq (none ▸ reaches.tracked.same id) |>.symm
  once := reaches.tracked.sound.keyed
  apart := reaches.tracked.apart
  meant errand member := by
    obtain ⟨held, sound⟩ := reaches.tracked.errands errand member
    exact sound.meant
  asks errand member flag further asking := by
    obtain ⟨held, sound⟩ := reaches.tracked.errands errand member
    have keeps := sound.keeps
    rw [asking] at keeps
    cases keeps with
    | isCancelled id _ _ _ => exact ⟨id, sound.runs ▸ List.mem_singleton_self _⟩
  cancels id found after answers := by
    have tracked := reaches.tracked
    cases answers
    refine ⟨?_, Registry.running_cancel, fun run member => ?_⟩
    · have same := tracked.same id
      refine tracked.sound.cancel_found.trans (not_congr ?_)
      exact ⟨fun none => (none ▸ same).nil_eq.symm, fun none => (none ▸ same).eq_nil⟩
    · rw [Registry.isCancelled_cancel, tracked.mem_flagsOf]
      refine or_congr_right ⟨fun going => ?_, fun ⟨going, same⟩ => same ▸ going⟩
      have known := h.runs_sublist.subset going
      have equal : run = (id, run.2) :=
        List.inj_on_of_nodup_map tracked.apart member known rfl
      exact ⟨equal.symm ▸ going, congrArg Prod.fst equal⟩
  leaves request answer after answers other := by
    cases answers with
    | cancel id => exact absurd rfl (other id)
    | _ => rfl
  replies errand member id reply same finished := by
    obtain ⟨held, sound⟩ := reaches.tracked.errands errand member
    rcases sound.cancels id same with ⟨begun, _⟩ | ⟨found, ended, log⟩
    · cases finished.symm.trans begun
    · cases finished.symm.trans ended
      exact ⟨found, rfl, log⟩
  ends errand member id flag further ending := by
    obtain ⟨held, sound⟩ := reaches.tracked.errands errand member
    have keeps := sound.keeps
    rw [ending] at keeps
    cases keeps with
    | unregister _ _ _ result finished =>
      refine ⟨sound.runs ▸ List.mem_singleton_self _, ⟨result, finished⟩, fun other held => ?_⟩
      rw [reaches.tracked.sound.flagsOf_unregister]
      by_cases same : other = id
      · subst same
        simp
      · simp [same]

/-! ## A script that runs twice -/

def runEmpty : Command := .runScript "empty" Variables.empty none false

def emptyScript : Script := ⟨"empty", "", none, Variables.empty, []⟩

/-- Of two runs of a script one has ended, and then the script is cancelled. -/
theorem runs_registered_when_cancelled :
    ∃ h, Reaches ⟨{}, some "T", false⟩ h ∧ Registers ⟨{}, some "T", false⟩ h ∧
      h.registry.running = [("empty", [1])] ∧ h.registry.cancelled = [1] ∧
      ∃ errand ∈ h.errands, errand.rest = .done (.cancelled "empty" true) := by
  have begun := @Reaches.start ⟨{}, some "T", false⟩ |>.step (.begin _ runEmpty)
    |>.step (.begin _ runEmpty)
  have loaded := begun
    |>.step (.exchange _ _ [] [_] _ (.load "empty") _ (.ok emptyScript) rfl (.load _ _))
    |>.step (.exchange _ _ [_] [] _ (.load "empty") _ (.ok emptyScript) rfl (.load _ _))
  have registered := loaded
    |>.step (.exchange _ _ [] [_] _ (.register "empty") _ _ rfl (.register _))
    |>.step (.exchange _ _ [_] [] _ (.register "empty") _ _ rfl (.register _))
  have ended := registered
    |>.step (.exchange _ _ [] [_] _ (.run .now) _ (0 : Nat) rfl (.run _ _))
    |>.step (.exchange _ _ [] [_] _ (.run (.acquire "T")) _ () rfl (.run _ _))
    |>.step (.exchange _ _ [] [_] _ (.isCancelled 0) _ _ rfl (.isCancelled _))
    |>.step (.exchange _ _ [] [_] _ (.run (.attach "T")) _ (.error .connectionClosed) rfl
      (.run _ _))
    |>.step (.exchange _ _ [] [_] _ (.run (.release "T")) _ () rfl (.run _ _))
    |>.step (.exchange _ _ [] [_] _ (.run .now) _ (0 : Nat) rfl (.run _ _))
    |>.step (.exchange _ _ [] [_] _ (.unregister "empty" 0) _ () rfl (.unregister _ _))
  have cancelled := ended |>.step (.begin _ (.cancel "empty"))
    |>.step (.exchange _ _ [_, _] [] _ (.cancel "empty") _ _ rfl (.cancel _))
  exact ⟨_, cancelled, cancelled.runs_registered, rfl, rfl, _,
    List.mem_append_right _ List.mem_cons_self, rfl⟩

end Host

end Relay

end BrowserScript
