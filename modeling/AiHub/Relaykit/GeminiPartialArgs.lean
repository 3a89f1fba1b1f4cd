import AiHub.Library.GoJSONValue

/-!
# Arguments of function calls in parts

Gemini streams the arguments of a function call as values at JSON paths.  The values are set in
the arguments that have been collected so far; strings at the same path are appended.
-/

namespace AiHub.Relaykit

open AiHub.Library

/-- `geminiPartialArgPathSegment` -/
inductive PathSegment where
  | member (member : String)
  | index (index : Nat)
  deriving DecidableEq, Repr

/-- Why a path is not read. -/
inductive PathError where
  | unsupportedPath
  | emptyMember
  | unsupportedMember (member : String)
  | unterminatedSelector
  | invalidMember
  | unterminatedMember
  | unsupportedSelector
  | invalidIndex
  | indexLimit (index : Nat)
  | root
  deriving DecidableEq, Repr

def maxGeminiPartialArgArrayIndex : Nat := 4095

def singleQuote : Char := Char.ofNat 39

/-- The characters of a quoted member up to the quote that ends it, and what follows.  What is
escaped does not end it. -/
def quotedMember (quote : Char) : List Char → Option (List Char × List Char)
  | [] => none
  | [char] => if char = '\\' then none else if char = quote then some ([], []) else none
  | char :: next :: rest =>
    if char = '\\' then
      (quotedMember quote rest).map fun (member, after) => (char :: next :: member, after)
    else if char = quote then some ([], next :: rest)
    else (quotedMember quote (next :: rest)).map fun (member, after) => (char :: member, after)

/-- Double quotes are escaped, and then escaped single quotes are not. -/
def escapeSingleQuoted (chars : List Char) : List Char :=
  let escaped := chars.flatMap fun char => if char = '"' then ['\\', '"'] else [char]
  unescape escaped
where
  unescape : List Char → List Char
    | [] => []
    | [char] => [char]
    | char :: next :: rest =>
      if char = '\\' ∧ next = singleQuote then next :: unescape rest
      else char :: unescape (next :: rest)

/-- `parseGeminiPartialArgMember`, after the quote it starts with. -/
def parseGeminiPartialArgMember (quote : Char) (chars : List Char) :
    Except PathError (String × List Char) :=
  match quotedMember quote chars with
  | none => .error .invalidMember
  | some (inner, rest) =>
    let raw := if quote = singleQuote then escapeSingleQuoted inner else inner
    match JSON.unmarshal (String.ofList ('"' :: raw ++ ['"'])) with
    | some (.string member) => .ok (member, rest)
    | _ => .error .invalidMember

def isDigit (char : Char) : Bool := '0' ≤ char && char ≤ '9'

/-- One selector of a path, and what follows it. -/
def parseSelector : List Char → Except PathError (PathSegment × List Char)
  | '.' :: rest =>
    let (member, rest) := rest.span fun char => char ≠ '.' && char ≠ '['
    if member = [] then .error .emptyMember
    else if member.any (· ∈ [']', '*', '?']) then
      .error (.unsupportedMember (String.ofList member))
    else .ok (.member (String.ofList member), rest)
  | '[' :: [] => .error .unterminatedSelector
  | '[' :: next :: rest =>
    if next = singleQuote ∨ next = '"' then
      match parseGeminiPartialArgMember next rest with
      | .error error => .error error
      | .ok (member, ']' :: rest) => .ok (.member member, rest)
      | .ok _ => .error .unterminatedMember
    else
      match (next :: rest).span isDigit with
      | (digit :: digits, ']' :: rest) =>
        let index := JSON.digitsValue (digit :: digits)
        if 2 ^ 63 ≤ index then .error .invalidIndex
        else if maxGeminiPartialArgArrayIndex < index then .error (.indexLimit index)
        else .ok (.index index, rest)
      | _ => .error .unsupportedSelector
  | _ => .error .unsupportedSelector

/-- The selectors of a path; each takes at least one character. -/
def parseSelectors : Nat → List Char → Except PathError (List PathSegment)
  | _, [] => .ok []
  | 0, _ :: _ => .error .unsupportedSelector
  | fuel + 1, chars =>
    match parseSelector chars with
    | .error error => .error error
    | .ok (segment, rest) => (parseSelectors fuel rest).map (segment :: ·)

def parseGeminiPartialArgPath (jsonPath : String) : Except PathError (List PathSegment) :=
  match (trimSpace jsonPath).toList with
  | '$' :: chars =>
    match parseSelectors chars.length chars with
    | .ok [] => .error .root
    | result => result
  | _ => .error .unsupportedPath

/-- `GeminiPartialArg`; of several values the first in this order counts. -/
structure GeminiPartialArg where
  jsonPath : String
  stringValue : Option String
  numberValue : Option GoNumber
  boolValue : Option Bool
  nullValue : Bool
  deriving DecidableEq, Repr

def geminiPartialArgValue (partialArg : GeminiPartialArg) : Option JSON :=
  match partialArg.stringValue, partialArg.numberValue, partialArg.boolValue with
  | some text, _, _ => some (.string text)
  | none, some number, _ => some (.number number)
  | none, none, some value => some (.bool value)
  | none, none, none => if partialArg.nullValue then some .null else none

/-- What a path leads through that has no members or items. -/
inductive TraverseError where
  | index (index : Nat)
  | member (member : String)
  deriving DecidableEq, Repr

def setGeminiPartialArgValue (value : JSON) (appendString : Bool) :
    List PathSegment → JSON → Except TraverseError JSON
  | [], current =>
    match appendString, current, value with
    | true, .string existing, .string text => .ok (.string (existing ++ text))
    | _, _, value => .ok value
  | .index index :: path, current =>
    match current with
    | .null | .array _ =>
      let items := match current with
        | .array items => items
        | _ => []
      let items := items ++ List.replicate (index + 1 - items.length) .null
      (setGeminiPartialArgValue value appendString path (items.getD index .null)).map
        fun updated => .array (items.set index updated)
    | _ => .error (.index index)
  | .member member :: path, current =>
    match current with
    | .null | .object _ =>
      let members := match current with
        | .object members => members
        | _ => []
      (setGeminiPartialArgValue value appendString path (JSON.member members member)).map
        fun updated => .object (JSON.insertMember member updated members)
    | _ => .error (.member member)

end AiHub.Relaykit
