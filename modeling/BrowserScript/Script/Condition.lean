import BrowserScript.Script.Selectors

/-!
# Conditions

A check against the current state of the page. A script gives it as an expression, or as an object
with exactly one check.
-/

namespace BrowserScript

inductive Condition where
  /-- Holds when the value of the expression is truthy. -/
  | expression (source : String)
  /-- Holds when an element is present, or absent if `present` is false. -/
  | element (selectors : Selectors) (present : Bool)
  | urlContains (part : String)
  | textContains (part : String)
  deriving DecidableEq, Repr, Inhabited

namespace Condition

/-- The object form of a condition before its checks are counted. -/
structure Draft where
  expression : Option String
  selectors : Option Selectors
  present : Bool
  urlContains : Option String
  textContains : Option String

/-- The checks an object asks for, in a fixed order. -/
def Draft.checks (draft : Draft) : List Condition :=
  (draft.expression.map Condition.expression).toList ++
    (draft.selectors.map fun selectors => element selectors draft.present).toList ++
    (draft.urlContains.map Condition.urlContains).toList ++
    (draft.textContains.map Condition.textContains).toList

/-- Accepts exactly one check. -/
def ofDraft : String ⊕ Draft → Except Json.Mismatch Condition
  | .inl source => .ok (expression source)
  | .inr draft =>
    match draft.checks with
    | [check] => .ok check
    | [] =>
      .error (.rule "condition needs one of expression, selectors, urlContains, textContains")
    | _ => .error (.rule "condition must specify exactly one check")

def draftDecoder : Json.Decoder Draft :=
  .recordWith .refused "struct ConditionMap"
    (Json.Fields.done Draft.mk
      |>.and (.optional "expression" .string)
      |>.and (.optional "selectors" Selectors.decoder)
      |>.and (.orDefault "exists" .bool true)
      |>.and (.optional "urlContains" .string)
      |>.and (.optional "textContains" .string))

def decoder : Json.Decoder Condition :=
  .andThen
    (.firstOf "RawCondition" [Json.Decoder.string.map Sum.inl, draftDecoder.map Sum.inr])
    ofDraft

end Condition

end BrowserScript
