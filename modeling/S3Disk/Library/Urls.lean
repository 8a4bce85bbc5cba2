import Mathlib.Data.List.TakeWhile
import S3Disk.Library.TextEncoding

/-! URLs as the standard library of Go reads and writes them: the reader splits a text into its
parts and decodes them, the writer encodes the parts again. -/

namespace Urls

open TextEncoding

abbrev Text := List UInt8

/-- The part of a URL that a text stands in; `other` is the user and the fragment. -/
inductive Mode where
  | host
  | zone
  | path
  | other
  deriving DecidableEq, Repr

def alphanumeric (character : UInt8) : Bool :=
  97 ≤ character && character ≤ 122 || 65 ≤ character && character ≤ 90 ||
    48 ≤ character && character ≤ 57

def hostMarks : Text := [33, 36, 38, 39, 40, 41, 42, 43, 44, 59, 61, 58, 91, 93, 60, 62, 34]

def marks : Text := [45, 95, 46, 126]

def pathMarks : Text := [36, 38, 43, 44, 47, 58, 59, 61, 64]

def shouldEscape (mode : Mode) (character : UInt8) : Bool :=
  !(alphanumeric character || marks.contains character || match mode with
    | .host | .zone => hostMarks.contains character
    | .path => pathMarks.contains character
    | .other => false)

def upperHexDigit (value : UInt8) : UInt8 := if value < 10 then 48 + value else 55 + value

def escapeByte (mode : Mode) (character : UInt8) : Text :=
  if shouldEscape mode character then
    [37, upperHexDigit (character / 16), upperHexDigit (character % 16)]
  else [character]

def escape (mode : Mode) (text : Text) : Text := text.flatMap (escapeByte mode)

def escapable (mode : Mode) (value : UInt8) : Bool := match mode with
  | .host => value == 37 || 0x80 ≤ value
  | .zone => value == 37 || value == 32 || !shouldEscape .host value
  | .path | .other => true

def literal (mode : Mode) (character : UInt8) : Bool := match mode with
  | .host | .zone => 0x80 ≤ character || !shouldEscape mode character
  | .path | .other => true

def unescape (mode : Mode) : Text → Option Text
  | [] => some []
  | character :: rest =>
      if character = 37 then match rest with
        | high :: low :: after => do
            let upper ← hexValue high
            let lower ← hexValue low
            if escapable mode (16 * upper + lower) then
              (unescape mode after).map ((16 * upper + lower) :: ·)
            else none
        | _ => none
      else if literal mode character then (unescape mode rest).map (character :: ·)
      else none

def cut (byte : UInt8) (text : Text) : Text × Text :=
  (text.takeWhile (· != byte), (text.dropWhile (· != byte)).tail)

def cutLast (byte : UInt8) (text : Text) : Option (Text × Text) :=
  if text.contains byte then
    some ((text.reverse.dropWhile (· != byte)).tail.reverse,
      (text.reverse.takeWhile (· != byte)).reverse)
  else none

def validPort (port : Text) : Bool := port.all fun digit => 48 ≤ digit && digit ≤ 57

def validOptionalPort : Text → Bool
  | [] => true
  | colon :: port => colon == 58 && validPort port

def splitHostPort (hostPort : Text) : Text × Text :=
  let (host, port) := match cutLast 58 hostPort with
    | some (host, port) => if validPort port then (host, port) else (hostPort, [])
    | none => (hostPort, [])
  if host.head? = some 91 ∧ host.getLast? = some 93 then (host.tail.dropLast, port)
  else (host, port)

def splitZone : Text → Option (Text × Text)
  | [] => none
  | character :: rest =>
      if [37, 50, 53].isPrefixOf (character :: rest) then some ([], character :: rest)
      else (splitZone rest).map fun (before, zone) => (character :: before, zone)

def parseHost (text : Text) : Option Text :=
  if text.head? = some 91 then match cutLast 93 text with
    | none => none
    | some (inner, colonPort) =>
        if validOptionalPort colonPort then match splitZone inner with
          | some (before, zone) => do
              let first ← unescape .host before
              let second ← unescape .zone zone
              let third ← unescape .host (93 :: colonPort)
              return first ++ second ++ third
          | none => unescape .host text
        else none
  else match cutLast 58 text with
    | some (_, port) => if validPort port then unescape .host text else none
    | none => unescape .host text

def validUserinfo (text : Text) : Bool := text.all fun character =>
  alphanumeric character || marks.contains character ||
    [58, 33, 36, 38, 39, 40, 41, 42, 43, 44, 59, 61, 37, 64].contains character

def parseAuthority (authority : Text) : Option (Bool × Text) :=
  match cutLast 64 authority with
  | none => (parseHost authority).map fun host => (false, host)
  | some (userinfo, hostText) => do
      let host ← parseHost hostText
      if validUserinfo userinfo then
        let _ ← unescape .other (cut 58 userinfo).1
        let _ ← unescape .other (cut 58 userinfo).2
        return (true, host)
      else none

structure Url where
  scheme : Text
  opaquePart : Text
  user : Bool
  host : Text
  path : Text
  rawPath : Text
  omitHost : Bool
  forceQuery : Bool
  rawQuery : Text
  fragment : Text
  deriving DecidableEq, Repr

def emptyUrl : Url := ⟨[], [], false, [], [], [], false, false, [], []⟩

def isLetter (character : UInt8) : Bool :=
  97 ≤ character && character ≤ 122 || 65 ≤ character && character ≤ 90

def schemeCharacter (character : UInt8) : Bool :=
  alphanumeric character || character == 43 || character == 45 || character == 46

def getScheme (text : Text) : Option (Text × Text) :=
  let scheme := text.takeWhile schemeCharacter
  match text.dropWhile schemeCharacter with
  | [] => some ([], text)
  | next :: rest =>
      if scheme.head?.any (fun first => !isLetter first) then some ([], text)
      else if next = 58 then if scheme = [] then none else some (scheme, rest)
      else some ([], text)

def lowerLetter (character : UInt8) : UInt8 :=
  if 65 ≤ character ∧ character ≤ 90 then character + 32 else character

def splitQuery (text : Text) : Text × Bool × Text :=
  if text.getLast? = some 63 ∧ text.count 63 = 1 then (text.dropLast, true, [])
  else ((cut 63 text).1, false, (cut 63 text).2)

def setPath (url : Url) (text : Text) : Option Url :=
  (unescape .path text).map fun path =>
    { url with path, rawPath := if text = escape .path path then [] else text }

def isControl (character : UInt8) : Bool := character < 0x20 || character == 0x7f

def parseFront (text : Text) : Option Url :=
  if text.any isControl then none
  else if text = [42] then some { emptyUrl with path := [42] }
  else match getScheme text with
    | none => none
    | some (scheme, rest) =>
        let (rest, forceQuery, rawQuery) := splitQuery rest
        let url := { emptyUrl with scheme := scheme.map lowerLetter, forceQuery, rawQuery }
        if rest.head? ≠ some 47 ∧ scheme ≠ [] then some { url with opaquePart := rest }
        else if rest.head? ≠ some 47 ∧ (cut 47 rest).1.contains 58 then none
        else if (scheme ≠ [] ∨ ¬[47, 47, 47].isPrefixOf rest) ∧ [47, 47].isPrefixOf rest then
          match parseAuthority ((rest.drop 2).takeWhile (· != 47)) with
          | none => none
          | some (user, host) =>
              setPath { url with user, host } ((rest.drop 2).dropWhile (· != 47))
        else setPath { url with omitHost := scheme ≠ [] } rest

def parse (text : Text) : Option Url := do
  let url ← parseFront (cut 35 text).1
  if (cut 35 text).2 = [] then return url
  else
    let fragment ← unescape .other (cut 35 text).2
    return { url with fragment }

def validEncoded (text : Text) : Bool := text.all fun character =>
  [33, 36, 38, 39, 40, 41, 42, 43, 44, 59, 61, 58, 64, 91, 93, 37].contains character ||
    !shouldEscape .path character

def queryText (forceQuery : Bool) (rawQuery : Text) : Text :=
  if forceQuery ∨ rawQuery ≠ [] then 63 :: rawQuery else []

namespace Url

variable (url : Url)

def escapedPath : Text :=
  if url.rawPath ≠ [] ∧ validEncoded url.rawPath ∧ unescape .path url.rawPath = some url.path then
    url.rawPath
  else if url.path = [42] then [42]
  else escape .path url.path

def authority : Text :=
  if url.scheme = [] ∧ url.host = [] ∧ url.user = false then []
  else if url.omitHost ∧ url.host = [] ∧ url.user = false then []
  else (if url.host ≠ [] ∨ url.path ≠ [] ∨ url.user then [47, 47] else []) ++
    escape .host url.host

def query : Text := queryText url.forceQuery url.rawQuery

/-- The text of a URL that has neither a user nor a fragment and is not relative. -/
def render : Text :=
  (if url.scheme = [] then [] else url.scheme ++ [58]) ++
    (if url.opaquePart ≠ [] then url.opaquePart
    else url.authority ++
      (if url.escapedPath ≠ [] ∧ url.escapedPath.head? ≠ some 47 ∧ url.host ≠ [] then [47] else []) ++
        url.escapedPath) ++
    url.query

end Url

end Urls
