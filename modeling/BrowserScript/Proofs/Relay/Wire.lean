import BrowserScript.Proofs.Json.Texts
import BrowserScript.Proofs.Script.Bindings
import BrowserScript.Relay.Command

/-!
# The wire forms

Commands, replies and what they carry are read back from their JSON forms, with the members in any
order. A form is not deep, so this holds of its texts too, and no text is one of two values. Main
results: `Command.decoder_reads`, `Reply.decoder_reads`, `wire_forms_read_back`.
-/

set_option autoImplicit false

namespace BrowserScript

open Json (Decoder Fits ReadsBack Writes)

theorem ResultCode.decoder_reads (code : ResultCode) : decoder.Reads (.str code.name) code := by
  apply Decoder.Reads.variant
  cases code <;> rfl

theorem StepKind.decoder_reads (kind : StepKind) : decoder.Reads (.str kind.name) kind := by
  apply Decoder.Reads.variant
  cases kind <;> rfl

theorem optionalText_reads (text : Option String) :
    (Decoder.optional Decoder.string).Reads (.ofOption .str text) text :=
  .optional (fun _ => Json.noConfusion) .string text

namespace ProgressEvent

theorem decoder_reads (event : ProgressEvent) : decoder.Reads event.toJson event :=
  .ofMembers (by simp) (.record _ (by decide)
    (.and (.and (.and (.and (.done _) (.string _)) (.index _)) (.string _))
      (StepKind.decoder_reads _)))

end ProgressEvent

namespace RunResult

theorem members_read (result : RunResult) : decoder.Reads (.obj result.members) result :=
  .record _ (by decide)
    (.and (.and (.and (.and (.and (.and (.and (.and (.and (.done _) (.bool _))
      (ResultCode.decoder_reads _)) (optionalText_reads _)) (optionalText_reads _))
      (.optional (fun _ => Json.noConfusion) .index _)) (optionalText_reads _))
      (.optional (fun _ => Json.noConfusion) StepKind.decoder_reads _)) (.index _)) (.uint64 _))

theorem names_nodup (result : RunResult) : (result.members.map Prod.fst).Nodup := by
  simp [members]

theorem decoder_reads (result : RunResult) : decoder.Reads result.toJson result :=
  .ofMembers result.names_nodup result.members_read

end RunResult

namespace IntentMatch

theorem members_read (intent : IntentMatch) : decoder.Reads (.obj intent.members) intent :=
  .record _ (by decide)
    (.and (.and (.and (.done _) (.string _)) (Variables.decoder_reads _)) (optionalText_reads _))

theorem names_nodup (intent : IntentMatch) : (intent.members.map Prod.fst).Nodup := by
  simp [members]

theorem decoder_reads (intent : IntentMatch) : decoder.Reads intent.toJson intent :=
  .ofMembers intent.names_nodup intent.members_read

end IntentMatch

/-- A record behind a tag, as an object holds it. -/
theorem Json.Decoder.Reads.taggedMembers {α : Type} {name tag variant : String}
    {variants : List (String × Decoder α)} {d : Decoder α} {members : List (String × Json)} {a : α}
    (listed : variants.lookup variant = some d) (single : (tag :: members.map Prod.fst).Nodup)
    (inner : d.Reads (.obj members) a) :
    (Decoder.tagged name tag variants).Reads (.ofMembers ((tag, .str variant) :: members)) a :=
  .ofMembers single
    (.tagged name listed (List.nodup_cons.mp single).2 (List.nodup_cons.mp single).1 inner)

namespace Command

theorem decoder_reads (command : Command) : decoder.Reads command.toJson command := by
  cases command with
  | runScript scriptId parameters target detachAfter =>
    exact .taggedMembers rfl (by simp) (.record _ (by decide)
      (.and (.and (.and (.and (.done _) (.string _)) (Variables.decoder_reads _))
        (optionalText_reads _)) (.bool _)))
  | processIntent text target =>
    exact .taggedMembers rfl (by simp) (.record _ (by decide)
      (.and (.and (.done _) (.string _)) (optionalText_reads _)))
  | attach target | detach target | cancel scriptId =>
    exact .taggedMembers rfl (by simp) (.record _ (by decide) (.and (.done _) (.string _)))

end Command

namespace Reply

theorem decoder_reads (reply : Reply) : decoder.Reads reply.toJson reply := by
  cases reply with
  | execution result =>
    exact .taggedMembers rfl (by simp [members, RunResult.members]) (result.members_read.map _)
  | intent found =>
    exact .taggedMembers rfl (by simp [members, IntentMatch.members]) (found.members_read.map _)
  | attached targetId sessionId generation =>
    exact .taggedMembers rfl (by simp [members]) (.record _ (by decide)
      (.and (.and (.and (.done _) (.string _)) (.string _)) (.uint64 _)))
  | cancelled scriptId found =>
    exact .taggedMembers rfl (by simp [members]) (.record _ (by decide)
      (.and (.and (.done _) (.string _)) (.bool _)))
  | failed code error =>
    exact .taggedMembers rfl (by simp [members]) (.record _ (by decide)
      (.and (.and (.done _) (ResultCode.decoder_reads _)) (.string _)))
  | detached targetId | noMatch text =>
    exact .taggedMembers rfl (by simp [members]) (.record _ (by decide)
      (.and (.done _) (.string _)))

end Reply

/-! ## Forms as texts -/

attribute [local simp] Fits.str Fits.bool Fits.ofNat Fits.ofOption

@[local simp] theorem Variables.fits (vars : Variables) : Fits 1 vars.toJson := by
  apply Fits.obj
  intro member inside
  obtain ⟨entry, _, rfl⟩ := List.mem_map.mp inside
  exact .str 0 entry.2

theorem ProgressEvent.fits (event : ProgressEvent) : Fits 2 event.toJson :=
  .ofMembers (by simp) (by simp)

theorem RunResult.members_fit (result : RunResult) :
    ∀ member ∈ result.members, Fits 1 member.2 := by
  simp [members]

theorem IntentMatch.members_fit (intent : IntentMatch) :
    ∀ member ∈ intent.members, Fits 1 member.2 := by
  simp [members]

/-- The form of a record behind its tag. -/
def Tagged (name : String) (form : Json) : Prop :=
  ∃ members : List (String × Json), form = .ofMembers (("type", .str name) :: members) ∧
    ("type" :: members.map Prod.fst).Nodup ∧ ∀ member ∈ members, Fits 1 member.2

namespace Tagged

variable {name other written : String} {form another : Json}

theorem fits (tagged : Tagged name form) : Fits 2 form := by
  obtain ⟨members, rfl, single, each⟩ := tagged
  exact .ofMembers single (List.forall_mem_cons.mpr ⟨.str 1 name, each⟩)

/-- The tag can be told from the text. -/
theorem unique (tagged : Tagged name form) (marked : Tagged other another)
    (first : Writes written form) (second : Writes written another) : name = other := by
  have shown := first.displays tagged.fits (by decide)
  have again := second.displays marked.fits (by decide)
  obtain ⟨members, rfl, single, _⟩ := tagged
  obtain ⟨others, rfl, alone, _⟩ := marked
  exact Decoder.tag_unique single alone (shown.of_held single) (again.of_held alone)

end Tagged

theorem Command.tagged (command : Command) : Tagged command.name command.toJson := by
  refine ⟨_, rfl, ?_⟩
  cases command <;> simp

theorem Reply.tagged (reply : Reply) : Tagged reply.name reply.toJson := by
  refine ⟨reply.members, rfl, ?_⟩
  cases reply with
  | execution result => exact ⟨by simp [members, RunResult.members], result.members_fit⟩
  | intent found => exact ⟨by simp [members, IntentMatch.members], found.members_fit⟩
  | _ => simp [members]

theorem name_ne (command : Command) (reply : Reply) : command.name ≠ reply.name := by
  cases command <;> cases reply <;> simp [Command.name, Reply.name]

/-! ## Reading back -/

theorem Command.reads_back : ReadsBack Command.decoder Command.toJson :=
  .of_reads decoder_reads (fun command => command.tagged.fits) (by decide)

theorem Command.toJson_injective : Function.Injective Command.toJson := reads_back.injective

theorem Reply.reads_back : ReadsBack Reply.decoder Reply.toJson :=
  .of_reads decoder_reads (fun reply => reply.tagged.fits) (by decide)

theorem Reply.toJson_injective : Function.Injective Reply.toJson := reads_back.injective

theorem RunResult.reads_back : ReadsBack RunResult.decoder RunResult.toJson :=
  .of_reads decoder_reads (fun result => .ofMembers result.names_nodup result.members_fit)
    (by decide)

theorem ProgressEvent.reads_back : ReadsBack ProgressEvent.decoder ProgressEvent.toJson :=
  .of_reads decoder_reads fits (by decide)

theorem IntentMatch.reads_back : ReadsBack IntentMatch.decoder IntentMatch.toJson :=
  .of_reads decoder_reads (fun intent => .ofMembers intent.names_nodup intent.members_fit)
    (by decide)

/-- Whatever goes over the wire is read back from it, and no text is the form of two commands, of
two replies or of a command and a reply. -/
theorem wire_forms_read_back :
    ReadsBack Command.decoder Command.toJson ∧ ReadsBack Reply.decoder Reply.toJson ∧
      ReadsBack RunResult.decoder RunResult.toJson ∧
      ReadsBack ProgressEvent.decoder ProgressEvent.toJson ∧
      ReadsBack IntentMatch.decoder IntentMatch.toJson ∧
      (∀ (written : String) (a b : Command),
        Writes written a.toJson → Writes written b.toJson → a = b) ∧
      (∀ (written : String) (a b : Reply),
        Writes written a.toJson → Writes written b.toJson → a = b) ∧
      ∀ (written : String) (command : Command) (reply : Reply),
        Writes written command.toJson → ¬ Writes written reply.toJson := by
  refine ⟨Command.reads_back, Reply.reads_back, RunResult.reads_back, ProgressEvent.reads_back,
    IntentMatch.reads_back, ?_, ?_, ?_⟩
  · intro written a b first second
    exact Command.reads_back.unique first second
  · intro written a b first second
    exact Reply.reads_back.unique first second
  · intro written command reply first second
    exact name_ne command reply (command.tagged.unique reply.tagged first second)

-- A writer that puts the tag first, where the form has the members in the order of their names.
example :
    Writes "\x7b\"type\":\"attach\",\"target\":\"T1\"\x7d" (Command.attach "T1").toJson := by
  have members := Json.Rearranged.members_refl [("type", .str "attach"), ("target", .str "T1")]
  exact ⟨_, .obj (.swap _ _ _) rfl members, by decide⟩

end BrowserScript
