/-!
# Web addresses

The address of a web server, as the people who type it write it: blanks around it, line breaks in
it, either kind of slash and steps up the path are put right, and characters that cannot stand in a
request are escaped. Main definition: `WebAddress.ofText`.
-/

namespace BrowserScript.Devtools

structure WebAddress where
  scheme : String
  /-- The host and its port, without the name of a user. -/
  host : String
  /-- What the server is asked for: a path and perhaps a query. -/
  resource : String
  deriving DecidableEq, Repr

namespace WebAddress

/-- The part before the first character that satisfies `p`, and the part from there on. -/
def cutAt (p : Char → Bool) (cs : List Char) : List Char × List Char :=
  (cs.takeWhile fun c => !p c, cs.dropWhile fun c => !p c)

def isSlash (c : Char) : Bool := c = '/' || c = '\\'

def endsHost (c : Char) : Bool := isSlash c || c = '?' || c = '#'

/-- A text without control characters and spaces around it, and without tabs and line breaks. -/
def cleaned (cs : List Char) : List Char :=
  let trim (cs : List Char) := cs.dropWhile fun c => c.toNat ≤ 32
  (trim (trim cs).reverse).reverse.filter fun c => !(c = '\t' || c = '\n' || c = '\r')

def hexDigit (n : Nat) : Char := (Nat.digitChar n).toUpper

/-- The bytes of a character, each as a percent sign and two digits. -/
def escaped (c : Char) : List Char :=
  (String.singleton c).toUTF8.toList.flatMap fun byte =>
    ['%', hexDigit (byte.toNat / 16), hexDigit (byte.toNat % 16)]

/-- Escapes the given characters, and all that are not visible ASCII characters. -/
def escape (marks : List Char) (cs : List Char) : List Char :=
  cs.flatMap fun c =>
    if c.toNat ≤ 32 || 126 < c.toNat || marks.contains c then escaped c else [c]

def escapePath (cs : List Char) : List Char := escape ['"', '<', '>', '`', '#', '?', '{', '}'] cs

def escapeQuery (cs : List Char) : List Char := escape ['"', '<', '>', '#', '\''] cs

/-- The parts of a path between its slashes. -/
def segments : List Char → List (List Char)
  | [] => [[]]
  | c :: rest =>
    match isSlash c, segments rest with
    | true, parts => [] :: parts
    | false, part :: parts => (c :: part) :: parts
    | false, [] => [[c]]

/-- How many dots a part consists of, each as it is or escaped; `none` if there is anything else. -/
def dots : List Char → Option Nat
  | [] => some 0
  | '.' :: rest => (dots rest).map (· + 1)
  | '%' :: '2' :: 'e' :: rest => (dots rest).map (· + 1)
  | '%' :: '2' :: 'E' :: rest => (dots rest).map (· + 1)
  | _ => none

/-- The name of a drive. -/
def isDrive : List Char → Bool
  | [letter, mark] => letter.isAlpha && (mark = ':' || mark = '|')
  | _ => false

/-- One step up from a place, whose parts are given from the last on. A drive is not left. -/
def up : List (List Char) → List (List Char)
  | [] => []
  | part :: parts => if isDrive part then part :: parts else parts

/-- Follows the parts of a path from a place on; the result starts at the root. A path that ends
with a step stands for the directory that it leads to. -/
def follow (place : List (List Char)) : List (List Char) → List (List Char)
  | [] => place.reverse
  | part :: rest =>
    let next := match dots part with
      | some 1 => place
      | some 2 => up place
      | _ => part :: place
    match rest with
    | [] => (if dots part = some 1 || dots part = some 2 then [] :: next else next).reverse
    | _ :: _ => follow next rest

/-- A path with its steps taken, from the root on. -/
def straightened (cs : List Char) : List Char :=
  let path := match cs with
    | [] => []
    | c :: rest => if isSlash c then rest else c :: rest
  (follow [] (segments (escapePath path))).flatMap fun part => '/' :: part

/-- The host is what follows the name of a user, if there is one. -/
def hostOf (authority : List Char) : List Char := (authority.reverse.takeWhile (· != '@')).reverse

/-- Reads the address of a web server: the scheme up to the colon, the host behind any number of
slashes, the path, and the query; a fragment is dropped. -/
def ofText (text : String) : Option WebAddress :=
  let (scheme, rest) := cutAt (· = ':') (cleaned text.toList)
  let scheme := (String.ofList scheme).toLower
  if !(["http", "https"].contains scheme) then none
  else
    let (authority, rest) := cutAt endsHost (rest.tail.dropWhile isSlash)
    let host := hostOf authority
    if host.isEmpty then none
    else
      let (path, rest) := cutAt (fun c => c = '?' || c = '#') rest
      let query := match rest with
        | '?' :: rest => '?' :: escapeQuery (rest.takeWhile (· != '#'))
        | _ => []
      some ⟨scheme, String.ofList host, String.ofList (straightened path ++ query)⟩

end WebAddress

end BrowserScript.Devtools
