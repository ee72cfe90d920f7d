import BrowserScript.Proofs.Json.Faithful
import BrowserScript.Proofs.Lists
import BrowserScript.Proofs.Script.Layers

/-!
# Variables from bindings in any order

Bindings of different names make the same variables in whatever order they are put in, so variables
are read back from a document that lists them in any order. Main results:
`Variables.ofList_of_perm`, `Variables.decoder_reads`.
-/

set_option autoImplicit false

namespace BrowserScript.Variables

/-- Bindings of different names put in one after the other are all there. -/
theorem get?_insertEach {bindings : List (String × String)} (single : (bindings.map Prod.fst).Nodup)
    (vars : Variables) (name : String) :
    (bindings.foldl (fun vars binding => vars.insert binding.1 binding.2) vars).get? name =
      (bindings.lookup name).or (vars.get? name) := by
  induction bindings generalizing vars with
  | nil => rfl
  | cons binding rest induction =>
    obtain ⟨fresh, others⟩ := List.nodup_cons.mp single
    rw [List.foldl_cons, induction others, get?_insert, lookup_cons_eq]
    by_cases here : name = binding.1
    · rw [if_pos here, if_pos here, here, lookup_eq_none fresh]
      rfl
    · rw [if_neg here, if_neg here]

theorem names_nodup (vars : Variables) : (vars.entries.map Prod.fst).Nodup := by
  rw [List.Nodup, List.pairwise_map]
  refine vars.ascending.imp ?_
  intro first second less same
  rw [same] at less
  exact String.lt_irrefl _ less

theorem ofList_of_perm {bindings : List (String × String)} {vars : Variables}
    (order : bindings.Perm vars.entries) : ofList bindings = vars := by
  have names := order.map Prod.fst
  have single := names.nodup_iff.mpr vars.names_nodup
  apply ext_get
  intro name
  have put : (ofList bindings).get? name = bindings.lookup name := by
    rw [ofList, get?_insertEach single]
    exact Option.or_none
  rw [put]
  apply Option.ext
  intro value
  rw [lookup_eq_some single, get?, lookup_eq_some vars.names_nodup, order.mem_iff]

theorem decoder_reads (vars : Variables) : decoder.Reads vars.toJson vars := by
  intro origin o displayed
  obtain ⟨found, order, read⟩ :=
    Json.Decoder.dictionary_of_displays Json.Decoder.Reads.string displayed origin
  unfold decoder Json.Decoder.map
  rw [read]
  exact congrArg Except.ok (ofList_of_perm order)

end BrowserScript.Variables
