import BrowserScript.Devtools.Connection
import BrowserScript.Proofs.Lists

/-!
# The loss of sessions

When sessions are lost, the commands sent to them fail, and only those; what was attached is
announced to be lost, behind the failures of its commands. Main definitions:
`Connection.without`, `Devtools.completions`, `Connection.announced`. Main results:
`Connection.sessionsGone_without`, `Connection.sessionsGone_conserves`,
`Connection.mem_sessionsGone`, `Connection.announced_sessionsGone`,
`Connection.failed_before_detached`.
-/

set_option autoImplicit false

namespace BrowserScript.Devtools

/-- The command that a notice completes. -/
def Notice.completes? : Notice → Option CallId
  | completed id _ => some id
  | event _ => none

/-- The commands that some notices complete. -/
def completions (notices : List Notice) : List CallId := notices.filterMap Notice.completes?

/-- The targets of a session with which its loss is announced. -/
def Notice.announces? (session : String) : Notice → Option String
  | event (.detached target lost _) => if lost = session then some target else none
  | _ => none

namespace Connection

variable {c : Connection} {call : Waiting} {gone : List String} {notices early late : List Notice}
  {session target reason : String} {id : CallId} {result : Except PageError Json}

/-- The command was sent to one of the sessions. -/
def isOn (gone : List String) (call : Waiting) : Bool := call.session.any gone.contains

theorem isOn_iff : isOn gone call = true ↔ ∃ session ∈ gone, call.session = some session := by
  unfold isOn
  cases call.session <;> simp

theorem isOn_singleton : isOn [session] = fun call => call.session == some session := by
  funext call
  rw [Bool.eq_iff_iff, isOn_iff]
  simp

/-! ## What the loss of sessions does -/

/-- The notices with which the commands of a session fail. -/
def failures (c : Connection) (session : String) : List Notice :=
  (c.waiting.filter fun call => call.session == some session).map fun call =>
    .completed call.id (.error (.sessionDetached session))

/-- The connection when sessions are lost. -/
def without (c : Connection) (gone : List String) : Connection :=
  { c with
    waiting := c.waiting.filter fun call => !isOn gone call
    sessions := c.sessions.filter fun entry => !gone.contains entry.1 }

theorem sessionGone_notices : (c.sessionGone session reason).2 = c.failures session ++
    ((c.sessions.lookup session).map fun target =>
      Notice.event (.detached target session reason)).toList := by
  simp [sessionGone, failSession, unregister, failures, List.partition_eq_filter_filter]

theorem sessionGone_without : (c.sessionGone session reason).1 = c.without [session] := by
  have named : (fun entry : String × String => !([session].contains entry.1)) =
      fun entry => entry.1 != session := by
    funext entry
    rw [List.contains_cons, List.contains_nil, Bool.or_false]
    rfl
  simp only [sessionGone, failSession, unregister, without, List.partition_eq_filter_filter,
    isOn_singleton, named]
  rfl

theorem without_without (first rest : List String) :
    (c.without first).without rest = c.without (first ++ rest) := by
  simp only [without, List.filter_filter]
  congr 2
  · funext call
    cases call with
    | mk id on => cases on <;> simp [isOn, Bool.and_comm]
  · funext entry
    simp [Bool.and_comm]

theorem without_nil : c.without [] = c := by
  have waiting : c.waiting.filter (fun call => !isOn [] call) = c.waiting := by
    refine List.filter_eq_self.mpr fun call _ => ?_
    rw [Bool.not_eq_true', Bool.eq_false_iff, Ne, isOn_iff]
    simp
  have sessions : c.sessions.filter (fun entry => !([] : List String).contains entry.1) =
      c.sessions := List.filter_eq_self.mpr fun _ _ => rfl
  rw [without, waiting, sessions]

theorem sessionsGone_without (reason : String) (gone : List String) (c : Connection) :
    (sessionsGone reason gone c).1 = c.without gone := by
  induction gone generalizing c with
  | nil => exact without_nil.symm
  | cons session rest induction =>
    calc (sessionsGone reason (session :: rest) c).1
        = (sessionsGone reason rest (c.sessionGone session reason).1).1 := rfl
      _ = (c.without [session]).without rest := by rw [induction, sessionGone_without]
      _ = c.without (session :: rest) := without_without _ _

theorem sessionsGone_notices (reason session : String) (rest : List String) (c : Connection) :
    (sessionsGone reason (session :: rest) c).2 =
      (c.sessionGone session reason).2 ++ (sessionsGone reason rest (c.without [session])).2 := by
  have gone : (c.sessionGone session reason).1 = c.without [session] := sessionGone_without
  rw [← gone]
  rfl

theorem mem_without_waiting :
    call ∈ (c.without gone).waiting ↔ call ∈ c.waiting ∧ isOn gone call = false := by
  simp [without]

theorem mem_failures : Notice.completed id result ∈ c.failures session ↔
    ⟨id, some session⟩ ∈ c.waiting ∧ result = .error (.sessionDetached session) := by
  unfold failures
  rw [List.mem_map]
  constructor
  · rintro ⟨⟨_, _⟩, member, same⟩
    obtain ⟨here, on⟩ := List.mem_filter.mp member
    cases same
    exact ⟨beq_iff_eq.mp on ▸ here, rfl⟩
  · rintro ⟨here, rfl⟩
    exact ⟨_, List.mem_filter.mpr ⟨here, beq_self_eq_true _⟩, rfl⟩

/-- What is lost with a session are the commands sent to it. -/
theorem mem_sessionsGone : Notice.completed id result ∈ (sessionsGone reason gone c).2 ↔
    ∃ session ∈ gone, ⟨id, some session⟩ ∈ c.waiting ∧
      result = .error (.sessionDetached session) := by
  induction gone generalizing c with
  | nil => simp [sessionsGone]
  | cons session rest induction =>
    have event : Notice.completed id result ∉ ((c.sessions.lookup session).map fun target =>
        Notice.event (.detached target session reason)).toList := by
      cases c.sessions.lookup session <;> simp
    rw [sessionsGone_notices, List.mem_append, sessionGone_notices, List.mem_append,
      or_iff_left event, mem_failures, induction]
    constructor
    · rintro (failed | ⟨other, later, waits, same⟩)
      · exact ⟨session, List.mem_cons_self, failed⟩
      · exact ⟨other, List.mem_cons_of_mem _ later, (mem_without_waiting.mp waits).1, same⟩
    · rintro ⟨other, member, waits, same⟩
      by_cases first : other = session
      · exact .inl (first ▸ ⟨waits, same⟩)
      · refine .inr ⟨other, (List.mem_cons.mp member).resolve_left first, ?_, same⟩
        exact mem_without_waiting.mpr ⟨waits, by simp [isOn, first]⟩

theorem completions_append :
    completions (early ++ late) = completions early ++ completions late :=
  List.filterMap_append

theorem completions_sessionGone : completions (c.sessionGone session reason).2 =
    (c.waiting.filter fun call => isOn [session] call).map Waiting.id := by
  have event : completions ((c.sessions.lookup session).map fun target =>
      Notice.event (.detached target session reason)).toList = [] := by
    cases c.sessions.lookup session <;> rfl
  rw [sessionGone_notices, completions_append, event, List.append_nil, failures, completions,
    List.filterMap_map, isOn_singleton]
  exact congrFun List.filterMap_eq_map _

/-- What waits no longer has been completed. -/
theorem sessionsGone_conserves :
    (completions (sessionsGone reason gone c).2 ++ (c.without gone).waiting.map Waiting.id).Perm
      (c.waiting.map Waiting.id) := by
  induction gone generalizing c with
  | nil =>
    rw [without_nil]
    exact .refl _
  | cons session rest induction =>
    have apart : ((c.waiting.filter (isOn [session])).map Waiting.id ++
        (c.without [session]).waiting.map Waiting.id).Perm (c.waiting.map Waiting.id) := by
      rw [← List.map_append]
      exact (List.filter_append_perm (isOn [session]) c.waiting).map Waiting.id
    have whole : c.without (session :: rest) = (c.without [session]).without rest :=
      (without_without [session] rest).symm
    rw [sessionsGone_notices, completions_append, completions_sessionGone, whole,
      List.append_assoc]
    exact (induction.append_left _).trans apart

/-- The announcements of the loss of a session. -/
def announced (session : String) (notices : List Notice) : List String :=
  notices.filterMap (Notice.announces? session)

theorem announced_append :
    announced session (early ++ late) = announced session early ++ announced session late :=
  List.filterMap_append

theorem announced_failures {other : String} : announced session (c.failures other) = [] := by
  refine List.filterMap_eq_nil_iff.mpr fun notice member => ?_
  obtain ⟨call, _, rfl⟩ := List.mem_map.mp member
  rfl

theorem announced_sessionGone {other : String} :
    announced session (c.sessionGone other reason).2 =
      if other = session then (c.sessions.lookup session).toList else [] := by
  rw [sessionGone_notices, announced_append, announced_failures, List.nil_append]
  split
  · next same =>
    subst same
    cases c.sessions.lookup other <;> simp [announced, Notice.announces?]
  · next different =>
      cases c.sessions.lookup other <;> simp [announced, Notice.announces?, different]

theorem lookup_without : (c.without gone).sessions.lookup session =
    if session ∈ gone then none else c.sessions.lookup session := by
  simp only [without]
  rw [lookup_filter fun key => !gone.contains key]
  by_cases member : session ∈ gone <;> simp [member]

/-- A session is announced once at most, with the target that it was attached to. -/
theorem announced_sessionsGone : announced session (sessionsGone reason gone c).2 =
    if session ∈ gone then (c.sessions.lookup session).toList else [] := by
  induction gone generalizing c with
  | nil => rfl
  | cons first rest induction =>
    rw [sessionsGone_notices, announced_append, announced_sessionGone, induction, lookup_without]
    by_cases same : first = session
    · subst same
      simp
    · have other : ¬ session = first := fun equal => same equal.symm
      simp [same, other]

/-- A connection keeps every session once. -/
theorem register_keyed (keyed : (c.sessions.map Prod.fst).Nodup) (session target : String) :
    ((c.register session target).sessions.map Prod.fst).Nodup := by
  unfold register
  rw [List.map_append]
  refine List.nodup_append.mpr ⟨?_, List.pairwise_singleton _ _, ?_⟩
  · exact keyed.sublist (List.filter_sublist.map Prod.fst)
  · intro other member _ last same
    obtain ⟨entry, kept, rfl⟩ := List.mem_map.mp member
    have different := (List.mem_filter.mp kept).2
    rw [same, List.mem_singleton.mp last] at different
    simp at different

theorem mem_announced :
    target ∈ announced session notices ↔
      ∃ reason, .event (.detached target session reason) ∈ notices := by
  unfold announced
  rw [List.mem_filterMap]
  constructor
  · rintro ⟨notice, member, told⟩
    cases notice with
    | completed id result => cases told
    | event event =>
      cases event <;> simp only [Notice.announces?, reduceCtorEq] at told
      split at told
      · next same =>
        cases told
        exact ⟨_, same ▸ member⟩
      · cases told
  · rintro ⟨reason, member⟩
    exact ⟨_, member, if_pos rfl⟩

/-- The loss of sessions is announced, and nothing else. -/
theorem event_of_sessionsGone {event : SessionEvent}
    (member : .event event ∈ (sessionsGone reason gone c).2) :
    ∃ target session, event = .detached target session reason := by
  induction gone generalizing c with
  | nil => cases member
  | cons first rest induction =>
    rw [sessionsGone_notices, sessionGone_notices] at member
    rcases List.mem_append.mp member with here | later
    · have told := (List.mem_append.mp here).resolve_left (by simp [failures])
      cases known : c.sessions.lookup first with
      | none => simp [known] at told
      | some target =>
        rw [known] at told
        cases List.mem_singleton.mp told
        exact ⟨target, first, rfl⟩
    · exact induction later

/-- Before a session is announced to be lost, all commands sent to it fail. -/
theorem failed_before_detached {cause : String} (split : (sessionsGone cause gone c).2 =
      early ++ .event (.detached target session reason) :: late)
    (waits : ⟨id, some session⟩ ∈ c.waiting) :
    .completed id (.error (.sessionDetached session)) ∈ early := by
  induction gone generalizing c early with
  | nil => simp [sessionsGone] at split
  | cons first rest induction =>
    rw [sessionsGone_notices, sessionGone_notices, List.append_assoc] at split
    have noEvent : .event (.detached target session reason) ∉ c.failures first := by
      simp [failures]
    obtain ⟨more, rfl, tail⟩ := split_after noEvent split
    by_cases same : first = session
    · subst same
      exact List.mem_append_left _ (mem_failures.mpr ⟨waits, rfl⟩)
    · have otherEvent : .event (.detached target session reason) ∉
          ((c.sessions.lookup first).map fun target =>
            Notice.event (.detached target first cause)).toList := by
        cases c.sessions.lookup first <;> simp [Ne.symm same]
      obtain ⟨most, rfl, last⟩ := split_after otherEvent tail
      have still : ⟨id, some session⟩ ∈ (c.without [first]).waiting :=
        mem_without_waiting.mpr ⟨waits, by simpa [isOn] using Ne.symm same⟩
      exact List.mem_append_right _ (List.mem_append_right _ (induction last still))

end Connection

end BrowserScript.Devtools
