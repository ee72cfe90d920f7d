/-!
# Faults of YAML texts

Why a text is not YAML: what is wrong, where, and what was being read when it showed.
-/

namespace BrowserScript.Yaml

/-- A place in a text: the bytes, and the lines and columns, that precede it. -/
structure Mark where
  index : Nat
  line : Nat
  column : Nat
  deriving DecidableEq, Repr, Inhabited

namespace Mark

def start : Mark := ⟨0, 0, 0⟩

/-- Behind a character of a line. -/
def past (mark : Mark) (c : Char) : Mark :=
  ⟨mark.index + c.utf8Size, mark.line, mark.column + 1⟩

/-- At the beginning of the next line, behind a break of so many bytes. -/
def pastBreak (mark : Mark) (bytes : Nat) : Mark := ⟨mark.index + bytes, mark.line + 1, 0⟩

/-- The beginning of the text goes without saying. -/
def isTold (mark : Mark) : Bool := mark.line ≠ 0 || mark.column ≠ 0

/-- The place as the end of a message. -/
def told (mark : Mark) : String :=
  if mark.isTold then s!" at line {mark.line + 1} column {mark.column + 1}" else ""

end Mark

inductive Problem where
  | keyWithoutValue
  | noToken
  | entryNotAllowed
  | keyNotAllowed
  | valueNotAllowed
  | noDirectiveName
  | badDirectiveName
  | unknownDirective
  | noCommentOrBreak
  | noVersionPoint
  | versionTooLong
  | noVersionNumber
  | noBlank
  | noBlankOrBreak
  | noName
  | noTagEnd
  | noTagSign
  | noTagText
  | noOctet
  | badFirstOctet
  | badLaterOctet
  | zeroIndentation
  | tabAsIndentation
  | documentInScalar
  | endInScalar
  | unknownEscape
  | noHexNumber
  | badCode
  | colonInFlow
  | tabBeforeText
  | noDocumentStart
  | undefinedHandle
  | noContent
  | noEntry
  | noKey
  | noItemEnd
  | noMemberEnd
  | secondVersion
  | wrongVersion
  | secondHandle
  deriving DecidableEq, Repr, Inhabited

def Problem.message : Problem → String
  | keyWithoutValue => "could not find expected ':'"
  | noToken => "found character that cannot start any token"
  | entryNotAllowed => "block sequence entries are not allowed in this context"
  | keyNotAllowed => "mapping keys are not allowed in this context"
  | valueNotAllowed => "mapping values are not allowed in this context"
  | noDirectiveName => "could not find expected directive name"
  | badDirectiveName => "found unexpected non-alphabetical character"
  | unknownDirective => "found unknown directive name"
  | noCommentOrBreak => "did not find expected comment or line break"
  | noVersionPoint => "did not find expected digit or '.' character"
  | versionTooLong => "found extremely long version number"
  | noVersionNumber => "did not find expected version number"
  | noBlank => "did not find expected whitespace"
  | noBlankOrBreak => "did not find expected whitespace or line break"
  | noName => "did not find expected alphabetic or numeric character"
  | noTagEnd => "did not find the expected '>'"
  | noTagSign => "did not find expected '!'"
  | noTagText => "did not find expected tag URI"
  | noOctet => "did not find URI escaped octet"
  | badFirstOctet => "found an incorrect leading UTF-8 octet"
  | badLaterOctet => "found an incorrect trailing UTF-8 octet"
  | zeroIndentation => "found an indentation indicator equal to 0"
  | tabAsIndentation => "found a tab character where an indentation space is expected"
  | documentInScalar => "found unexpected document indicator"
  | endInScalar => "found unexpected end of stream"
  | unknownEscape => "found unknown escape character"
  | noHexNumber => "did not find expected hexdecimal number"
  | badCode => "found invalid Unicode character escape code"
  | colonInFlow => "found unexpected ':'"
  | tabBeforeText => "found a tab character that violates indentation"
  | noDocumentStart => "did not find expected <document start>"
  | undefinedHandle => "found undefined tag handle"
  | noContent => "did not find expected node content"
  | noEntry => "did not find expected '-' indicator"
  | noKey => "did not find expected key"
  | noItemEnd => "did not find expected ',' or ']'"
  | noMemberEnd => "did not find expected ',' or '\x7d'"
  | secondVersion => "found duplicate %YAML directive"
  | wrongVersion => "found incompatible YAML document"
  | secondHandle => "found duplicate %TAG directive"

/-- What was being read. -/
inductive Context where
  | simpleKey
  | nextToken
  | directive
  | versionDirective
  | tagDirective
  | tagDirectiveHandle
  | tagDirectiveHandleEnd
  | tagDirectiveText
  | anchor
  | alias
  | tag
  | tagText
  | blockScalar
  | quotedScalar
  | quotedEscape
  | plainScalar
  | node
  | blockNode
  | flowNode
  | blockCollection
  | blockMapping
  | flowSequence
  | flowMapping
  deriving DecidableEq, Repr, Inhabited

def Context.message : Context → String
  | simpleKey => "while scanning a simple key"
  | nextToken => "while scanning for the next token"
  | directive => "while scanning a directive"
  | versionDirective => "while scanning a %YAML directive"
  | tagDirective => "while scanning a %TAG directive"
  | tagDirectiveHandle => "while scanning a tag directive"
  | tagDirectiveHandleEnd => "while parsing a tag directive"
  | tagDirectiveText => "while parsing a %TAG directive"
  | anchor => "while scanning an anchor"
  | .alias => "while scanning an alias"
  | tag => "while scanning a tag"
  | tagText => "while parsing a tag"
  | blockScalar => "while scanning a block scalar"
  | quotedScalar => "while scanning a quoted scalar"
  | quotedEscape => "while parsing a quoted scalar"
  | plainScalar => "while scanning a plain scalar"
  | node => "while parsing a node"
  | blockNode => "while parsing a block node"
  | flowNode => "while parsing a flow node"
  | blockCollection => "while parsing a block collection"
  | blockMapping => "while parsing a block mapping"
  | flowSequence => "while parsing a flow sequence"
  | flowMapping => "while parsing a flow mapping"

inductive Fault where
  | syntactic (problem : Problem) (mark : Mark) (context : Option (Context × Mark))
  /-- A character that no text may hold, behind so many bytes. -/
  | character (offset : Nat)
  /-- An alias of a name that nothing has been given. -/
  | unknownAnchor (mark : Mark)
  deriving DecidableEq, Repr, Inhabited

def Fault.message : Fault → String
  | syntactic problem mark context =>
    let situation := match context with
      | none => ""
      | some (context, start) =>
        let differs := start.line ≠ mark.line || start.column ≠ mark.column
        ", " ++ context.message ++ if differs then start.told else ""
    problem.message ++ mark.told ++ situation
  | character offset =>
    "control characters are not allowed" ++
      if offset = 0 then "" else s!" at position {offset}"
  | unknownAnchor mark => "unknown anchor" ++ mark.told

end BrowserScript.Yaml
