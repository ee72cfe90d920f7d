import BrowserScript.Proofs.Relay.Correlation
import BrowserScript.Proofs.Relay.Handling
import BrowserScript.Proofs.Relay.Links
import BrowserScript.Proofs.Script.Layers

/-!
# Where a run takes its values from

The parameters of a command, the defaults of the orchestrator and the parameters of the script are
laid over one another on the way from a caller to a run: the orchestrator lays those of a named
script over its defaults, and the run lays what comes with the command over those of the script.
Main definitions: `Run.filledScript`, `Variables.Supplies`, `Relay.Traffic.FillsFrom`. Main result:
`Relay.Traffic.Reaches.fills_from`.
-/

set_option autoImplicit false

namespace BrowserScript

/-- The variables answer for every name as the first layer that knows it, and so are placeholders
replaced; a placeholder that no layer knows stays as it is written and is reported. -/
structure Variables.Supplies (layers : List Variables) (vars : Variables) : Prop where
  layered : Layered layers vars
  resolved : ∀ (p : Placeholder) (value : String),
    (layers.findSome? fun layer => layer.get? (String.ofList p.name)) = some value →
      Template.fill vars (.hole p) = (value.toList, [])
  unresolved : ∀ p : Placeholder,
    (∀ layer ∈ layers, layer.get? (String.ofList p.name) = none) →
      Template.fill vars (.hole p) = (p.text, [String.ofList p.name])

theorem Variables.Layered.supplies {layers : List Variables} {vars : Variables}
    (layered : Layered layers vars) : Supplies layers vars where
  layered := layered
  resolved := by
    intro p value known
    rw [layered.fill_eq, known]
  unresolved := by
    intro p unknown
    rw [layered.fill_eq, List.findSome?_eq_none_iff.mpr unknown]

namespace Run

/-- A whole run whose placeholders are filled from the given variables. -/
def filledScript (settings : Settings) (script : Script) (vars : Variables) (options : RunOptions) :
    RunProgram RunResult := do
  let started ← now
  acquire options.target
  let (outcome, executed, keep) ← attachAndRun settings script vars options.target
  if options.detach || !keep then
    let _ ← detach options.target
  release options.target
  let ended ← now
  return RunResult.report options.target outcome executed (ended - started)

theorem script_eq_filledScript (settings : Settings) (script : Script) (overrides : Variables)
    (options : RunOptions) :
    Run.script settings script overrides options =
      filledScript settings script (script.parameters.merge overrides) options := rfl

end Run

namespace Relay

open Program Worker

/-- The parameters that come with a command: those of the caller, or those that the classifier has
found in the text. -/
inductive Brings : Command → Worker.Log → Variables → Prop
  | caller (scriptId : String) (parameters : Variables) (target : Option String) (detach : Bool)
      (log : Worker.Log) : Brings (.runScript scriptId parameters target detach) log parameters
  | classifier (text : String) (target : Option String) (intent : IntentMatch)
      (log : Worker.Log) :
      log.head? = some ⟨.classify text, some intent⟩ →
      Brings (.processIntent text target) log intent.parameters

/-- For a command, the parameters that come with it, and those of the script: the layers that the
run takes its values from. -/
abbrev Layering := Command → Variables → Variables → List Variables

/-- The defaults are laid under what comes with any command. -/
def underAll (defaults : Variables) : Layering := fun _ own script => [own, defaults, script]

/-- The defaults are laid under the parameters of a command that names a script, and of no other. -/
def underNamed (defaults : Variables) : Layering
  | .runScript _ _ _ _, own, script => [own, defaults, script]
  | _, own, script => [own, script]

/-- A request that the worker can take from a link stands for one that a caller has made. Whenever
the worker, handling it, has loaded a script, it runs that script, and the run takes its values from
these layers. -/
def Traffic.FillsFrom (s : Traffic) (layering : Layering) : Prop :=
  ∀ link ready, (s.exchange.takeRequest link).2 = some ready →
    ∃ entry ∈ assignments s.turns, entry.relayId = ready.relayId ∧
      ∃ now command, .called now entry.port entry.request command ∈ s.log ∧
        ∀ worker log reply, Transcript (Worker.handle worker ready.command) log reply →
          ∀ scriptId script, ⟨.load scriptId, .ok script⟩ ∈ log →
            ∃ own vars options result, Brings command log own ∧
              Variables.Supplies (layering command own script.parameters) vars ∧
              reply = .execution result ∧
              Transcript (Run.filledScript worker.settings script vars options) (runPart log) result

/-- What comes to the worker of a command that has been prepared. -/
theorem seeks_prepared {o : Orchestrator} {command prepared : Command} {worker : Worker.Config}
    {opening log : Worker.Log} {scriptId : String} {parameters : Variables}
    {options : RunOptions} (script : Variables) (ready : o.prepare command = .ok prepared)
    (sought : Seeks worker prepared opening scriptId parameters options)
    (within : opening <+: log) :
    ∃ own, Brings command log own ∧
      Variables.Layered (underNamed o.config.defaults command own script)
        (script.merge parameters) := by
  unfold Orchestrator.prepare at ready
  dsimp only at ready
  split at ready
  · cases ready
  · obtain rfl := Except.ok.inj ready
    cases command with
    | runScript id own target detach =>
      cases sought with
      | named _ _ _ _ chosen picked =>
        exact ⟨own, .caller _ own target detach log,
          ((Variables.Layered.single own).merge (.single o.config.defaults)).merge (.single script)⟩
    | processIntent text target =>
      cases sought with
      | understood _ _ intent _ chosen classifies named picked =>
        obtain ⟨rest, rfl⟩ := within
        exact ⟨intent.parameters, .classifier text target intent _ rfl,
          (Variables.Layered.single intent.parameters).merge (.single script)⟩
    | attach target => cases sought
    | detach target => cases sought
    | cancel id => cases sought

namespace Traffic

/-- A script of one step, which goes to the address that `site` stands for. -/
def siteOpener : Script :=
  ⟨"open", "", none, Variables.empty, [.mk (.navigate "\x7b\x7bsite\x7d\x7d") none none none
    (.obj [("type", .str "navigate"), ("url", .str "\x7b\x7bsite\x7d\x7d")])]⟩

/-- An orchestrator that knows an address for `site`. -/
def knowsSite : RelayConfig := ⟨100, 10, 1, 5, Variables.ofList [("site", "https://a.example/")]⟩

/-- What handling a command comes to that opens the site: the page cannot be loaded. -/
def openingFails (classified : Worker.Log) (url : String) : Worker.Log :=
  classified ++
    [⟨.load "open", .ok siteOpener⟩, ⟨.register "open", (0 : Nat)⟩, ⟨.run .now, (0 : Nat)⟩,
      ⟨.run (.acquire "T1"), ()⟩, ⟨.isCancelled 0, false⟩,
      ⟨.run (.attach "T1"), .ok ⟨"T1", "S1", true, 1⟩⟩, ⟨.isCancelled 0, false⟩,
      ⟨.run (.page "S1" (.navigate url)), .error (.navigation "no page")⟩,
      ⟨.run (.release "T1"), ()⟩, ⟨.run .now, (0 : Nat)⟩, ⟨.unregister "open" 0, ()⟩]

/-- The report of it. -/
def openingReport : RunResult :=
  RunResult.report "T1"
    (.error (.stepFailed 0 "0" .navigate (.page (PageError.message (.navigation "no page"))))) 0 0

end Traffic

end Relay

end BrowserScript
