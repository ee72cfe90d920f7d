import BrowserScript.Yaml.Cutting
import BrowserScript.Yaml.Node

/-!
# YAML documents

Tokens become the tree of a document. Reading ends at the first fault, and the tree shows what came
before it. Names are given to nodes in the order they begin: a name gets the number of names known
before it, so a name that is given again may share its number with others.
-/

namespace BrowserScript.Yaml

/-- The tokens that are left, and what the document has said so far. -/
structure Reader where
  lexemes : List Lexeme
  fault : Option Fault
  /-- The names of anchors and their present numbers. -/
  numbers : List (String × Nat)
  /-- What tag handles stand for. -/
  handles : List (String × Tag)

/-- Something that has been read, and how to go on behind it. -/
abbrev Read (α : Type) := α × Except Fault Reader

/-- What stands in front of a node's content. -/
structure Lead where
  mark : Mark
  anchor : Option String
  tag : Option Tag

namespace Reader

def start (cutting : Cutting) : Reader := ⟨cutting.lexemes, cutting.fault, [], []⟩

def peek (r : Reader) : Except Fault Lexeme :=
  match r.lexemes, r.fault with
  | lexeme :: _, _ => .ok lexeme
  | [], some fault => .error fault
  | [], none => .ok ⟨.streamEnd, .start⟩

def next (r : Reader) : Reader := { r with lexemes := r.lexemes.tail }

/-- A node whose reading fails at once. -/
def stop (fault : Fault) : Read Node := (.broken fault, .error fault)

def stopItems (fault : Fault) : Read (List Node) := ([.broken fault], .error fault)

def stopEntries (fault : Fault) : Read (List (Node × Node)) :=
  ([(.broken fault, .broken fault)], .error fault)

/-- What begins a node, with its number if it has a name. -/
def enter (r : Reader) (lead : Lead) : Head × Reader :=
  match lead.anchor with
  | none => (⟨lead.mark, none, lead.tag⟩, r)
  | some name =>
    let number := r.numbers.length
    let others := r.numbers.filter fun known => known.1 ≠ name
    (⟨lead.mark, some number, lead.tag⟩, { r with numbers := (name, number) :: others })

/-- The full tag of a handle and a suffix. -/
def fullTag (r : Reader) (start mark : Mark) (handle : String) (suffix : Tag) :
    Except Fault Tag :=
  if handle.isEmpty then .ok suffix
  else
    match r.handles.lookup handle with
    | some lead => .ok (lead ++ suffix)
    | none => .error (.syntactic .undefinedHandle mark (some (.node, start)))

/-- The anchor and the tag in front of a node, in either order, and the first token behind them. -/
def lead (r : Reader) : Except Fault (Lead × Lexeme × Reader) := do
  let first ← r.peek
  match first.token with
  | .anchor name =>
    let r := r.next
    let second ← r.peek
    match second.token with
    | .tag handle suffix =>
      let r := r.next
      let behind ← r.peek
      let tag ← r.fullTag first.mark second.mark handle suffix
      .ok (⟨first.mark, some name, some tag⟩, behind, r)
    | _ => .ok (⟨first.mark, some name, none⟩, second, r)
  | .tag handle suffix =>
    let r := r.next
    let second ← r.peek
    match second.token with
    | .anchor name =>
      let r := r.next
      let behind ← r.peek
      let tag ← r.fullTag first.mark first.mark handle suffix
      .ok (⟨first.mark, some name, some tag⟩, behind, r)
    | _ =>
      let tag ← r.fullTag first.mark first.mark handle suffix
      .ok (⟨first.mark, none, some tag⟩, second, r)
  | _ => .ok (⟨first.mark, none, none⟩, first, r)

/-- Reads a node, unless one of some tokens shows that there is none. -/
def orMissing (r : Reader) (absent : List Token) (read : Reader → Read Node) : Read Node :=
  match r.peek with
  | .error fault => stop fault
  | .ok lexeme =>
    if absent.contains lexeme.token then (.missing lexeme.mark, .ok r) else read r

/-- The value behind a key. -/
def valueOf (r : Reader) (absent : List Token) (read : Reader → Read Node) : Read Node :=
  match r.peek with
  | .error fault => stop fault
  | .ok ⟨.value, _⟩ => r.next.orMissing absent read
  | .ok lexeme => (.missing lexeme.mark, .ok r)

/-- A key and then its value. -/
def entry (key : Read Node) (value : Reader → Read Node) : Read (Node × Node) :=
  match key with
  | (key, .error fault) => ((key, .broken fault), .error fault)
  | (key, .ok r) =>
    let (value, r) := value r
    ((key, value), r)

/-- One thing and then those that follow it. -/
def andMore {α : Type} (first : Read α) (more : Reader → Read (List α)) : Read (List α) :=
  match first with
  | (a, .error fault) => ([a], .error fault)
  | (a, .ok r) =>
    let (rest, r) := more r
    (a :: rest, r)

def sequence (head : Head) (items : Read (List Node)) : Read Node :=
  (.sequence head items.1, items.2)

def mapping (head : Head) (entries : Read (List (Node × Node))) : Read Node :=
  (.mapping head entries.1, entries.2)

/-- Passes what separates the parts of a flow collection. -/
def separated (r : Reader) (first : Bool) (closing : Token) (problem : Problem)
    (situation : Situation) : Except Fault (Lexeme × Reader) := do
  let lexeme ← r.peek
  if first || lexeme.token = closing then .ok (lexeme, r)
  else if lexeme.token = .flowEntry then .ok (← r.next.peek, r.next)
  else .error (.syntactic problem lexeme.mark situation)

mutual

/-- A node. Inside a block, block collections are allowed; `indentless` allows a sequence that is
not indented deeper than its key. -/
def node (fuel : Nat) (block indentless : Bool) (r : Reader) : Read Node :=
  match fuel with
  | 0 => (.void, .ok r)
  | fuel + 1 =>
    match r.peek with
    | .error fault => stop fault
    | .ok ⟨.alias name, mark⟩ =>
      match r.numbers.lookup name with
      | some number => (.alias number, .ok r.next)
      | none => stop (.unknownAnchor mark)
    | .ok _ =>
      match r.lead with
      | .error fault => stop fault
      | .ok (lead, lexeme, r) =>
        let (head, inside) := r.enter lead
        let bare : Read Node :=
          if lead.anchor.isSome || lead.tag.isSome then (.scalar head "" .plain, .ok inside)
          else
            let context := if block then Context.blockNode else .flowNode
            stop (.syntactic .noContent lexeme.mark (some (context, lead.mark)))
        match lexeme.token with
        | .scalar text style => (.scalar head text style, .ok inside.next)
        | .blockEntry => if indentless then sequence head (indentlessItems fuel inside) else bare
        | .flowSequenceStart => sequence head (flowItems fuel lexeme.mark true inside.next)
        | .flowMappingStart => mapping head (flowEntries fuel lexeme.mark true inside.next)
        | .blockSequenceStart =>
          if block then sequence head (blockItems fuel lexeme.mark inside.next) else bare
        | .blockMappingStart =>
          if block then mapping head (blockEntries fuel lexeme.mark inside.next) else bare
        | _ => bare

def blockItems (fuel : Nat) (start : Mark) (r : Reader) : Read (List Node) :=
  match fuel with
  | 0 => ([], .ok r)
  | fuel + 1 =>
    match r.peek with
    | .error fault => stopItems fault
    | .ok ⟨.blockEntry, _⟩ =>
      andMore (r.next.orMissing [.blockEntry, .blockEnd] (node fuel true false))
        (blockItems fuel start)
    | .ok ⟨.blockEnd, _⟩ => ([], .ok r.next)
    | .ok lexeme =>
      stopItems (.syntactic .noEntry lexeme.mark (some (.blockCollection, start)))

def indentlessItems (fuel : Nat) (r : Reader) : Read (List Node) :=
  match fuel with
  | 0 => ([], .ok r)
  | fuel + 1 =>
    match r.peek with
    | .error fault => stopItems fault
    | .ok ⟨.blockEntry, _⟩ =>
      andMore (r.next.orMissing [.blockEntry, .key, .value, .blockEnd] (node fuel true false))
        (indentlessItems fuel)
    | .ok _ => ([], .ok r)

def blockEntries (fuel : Nat) (start : Mark) (r : Reader) : Read (List (Node × Node)) :=
  match fuel with
  | 0 => ([], .ok r)
  | fuel + 1 =>
    let absent : List Token := [.key, .value, .blockEnd]
    match r.peek with
    | .error fault => stopEntries fault
    | .ok ⟨.key, _⟩ =>
      andMore
        (entry (r.next.orMissing absent (node fuel true true)) fun r =>
          r.valueOf absent (node fuel true true))
        (blockEntries fuel start)
    | .ok ⟨.blockEnd, _⟩ => ([], .ok r.next)
    | .ok lexeme =>
      stopEntries (.syntactic .noKey lexeme.mark (some (.blockMapping, start)))

def flowItems (fuel : Nat) (start : Mark) (first : Bool) (r : Reader) : Read (List Node) :=
  match fuel with
  | 0 => ([], .ok r)
  | fuel + 1 =>
    match r.separated first .flowSequenceEnd .noItemEnd (some (.flowSequence, start)) with
    | .error fault => stopItems fault
    | .ok (⟨.flowSequenceEnd, _⟩, r) => ([], .ok r.next)
    | .ok (⟨.key, mark⟩, r) =>
      andMore (mapping { mark } (singlePair fuel r.next)) (flowItems fuel start false)
    | .ok (_, r) => andMore (node fuel false false r) (flowItems fuel start false)

/-- A key and its value that stand in a flow sequence without braces. -/
def singlePair (fuel : Nat) (r : Reader) : Read (List (Node × Node)) :=
  match fuel with
  | 0 => ([], .ok r)
  | fuel + 1 =>
    let key : Read Node :=
      match r.peek with
      | .error fault => stop fault
      | .ok ⟨.value, mark⟩ | .ok ⟨.flowEntry, mark⟩ | .ok ⟨.flowSequenceEnd, mark⟩ =>
        (.missing mark, .ok r.next)
      | .ok _ => node fuel false false r
    andMore
      (entry key fun r => r.valueOf [.flowEntry, .flowSequenceEnd] (node fuel false false))
      fun r =>
        match r.peek with
        | .error fault => stopEntries fault
        | .ok _ => ([], .ok r)

def flowEntries (fuel : Nat) (start : Mark) (first : Bool) (r : Reader) :
    Read (List (Node × Node)) :=
  match fuel with
  | 0 => ([], .ok r)
  | fuel + 1 =>
    match r.separated first .flowMappingEnd .noMemberEnd (some (.flowMapping, start)) with
    | .error fault => stopEntries fault
    | .ok (⟨.flowMappingEnd, _⟩, r) => ([], .ok r.next)
    | .ok (⟨.key, _⟩, r) =>
      andMore
        (entry
          (r.next.orMissing [.value, .flowEntry, .flowMappingEnd] (node fuel false false)) fun r =>
          r.valueOf [.flowEntry, .flowMappingEnd] (node fuel false false))
        (flowEntries fuel start false)
    | .ok (_, r) =>
      andMore
        (entry (node fuel false false r) fun r =>
          match r.peek with
          | .error fault => stop fault
          | .ok lexeme => (.missing lexeme.mark, .ok r))
        (flowEntries fuel start false)

end

def defaultHandles : List (String × Tag) :=
  [("!", .ofText "!"), ("!!", .ofText "tag:yaml.org,2002:")]

def isDirective : Token → Bool
  | .versionDirective _ _ | .tagDirective _ _ => true
  | _ => false

/-- What the directives in front of a document have said. -/
structure Directives where
  hasVersion : Bool
  handles : List (String × Tag)

def Directives.add (known : Directives) (lexeme : Lexeme) : Except Fault Directives :=
  let refuse (problem : Problem) := .error (.syntactic problem lexeme.mark none)
  match lexeme.token with
  | .versionDirective major minor =>
    if known.hasVersion then refuse .secondVersion
    else if major ≠ 1 || (minor ≠ 1 && minor ≠ 2) then refuse .wrongVersion
    else .ok { known with hasVersion := true }
  | .tagDirective handle lead =>
    if (known.handles.lookup handle).isSome then refuse .secondHandle
    else .ok { known with handles := (handle, lead) :: known.handles }
  | _ => .ok known

/-- The mark behind the directives, from which on a document may be empty. -/
def documentStart (r : Reader) : Except Fault Reader := do
  let isPart (lexeme : Lexeme) := isDirective lexeme.token
  let known ← (r.lexemes.takeWhile isPart).foldlM Directives.add ⟨false, []⟩
  let r := { r with
    lexemes := r.lexemes.dropWhile isPart, handles := known.handles ++ defaultHandles }
  let lexeme ← r.peek
  if lexeme.token = .documentStart then .ok r.next
  else .error (.syntactic .noDocumentStart lexeme.mark none)

/-- Tokens that no document has as its content. -/
def endsDocument (token : Token) : Bool :=
  isDirective token || [.documentStart, .documentEnd, .streamEnd].contains token

/-- The content of a document that begins with a token. -/
def content (r : Reader) (first : Token) : Read Node :=
  let fuel := 2 * r.lexemes.length + 4
  if isDirective first || first = .documentStart then
    match r.documentStart with
    | .error fault => stop fault
    | .ok r =>
      match r.peek with
      | .error fault => stop fault
      | .ok lexeme =>
        if endsDocument lexeme.token then (.missing lexeme.mark, .ok r)
        else node fuel true false r
  else node fuel true false { r with handles := defaultHandles }

end Reader

/-- What follows the content of a document. -/
inductive Ending where
  | sound
  | faulty (fault : Fault)
  /-- More than the marks that end a document. -/
  | followed
  deriving DecidableEq, Repr

structure Document where
  root : Node
  ending : Ending

namespace Document

/-- The ending of a document behind its content. -/
def endingOf (r : Reader) : Ending :=
  match r.peek with
  | .error fault => .faulty fault
  | .ok _ =>
    match r.lexemes.dropWhile fun lexeme => lexeme.token = .documentEnd with
    | [⟨.streamEnd, _⟩] => .sound
    | _ => .followed

def ofCutting (cutting : Cutting) : Document :=
  let r := Reader.start cutting
  match r.peek with
  | .error fault => ⟨.broken fault, .faulty fault⟩
  | .ok ⟨.streamEnd, _⟩ => ⟨.void, .sound⟩
  | .ok lexeme =>
    match r.content lexeme.token with
    | (root, .error fault) => ⟨root, .faulty fault⟩
    | (root, .ok r) => ⟨root, endingOf r⟩

def ofText (text : String) : Document := ofCutting (.ofText text)

def anchored (document : Document) : Anchored := document.root.anchored []

end Document

end BrowserScript.Yaml
