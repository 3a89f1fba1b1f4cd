import Mathlib.Data.List.Basic

/-!
# JSON strings

A string is marshalled between quotes, with escapes for quotes, backslashes, control characters
and the characters that HTML or JavaScript would misread.  Unmarshalling undoes any escape that
JSON allows.
-/

namespace AiHub.Library

/-! ## Marshalling -/

/-- Four hexadecimal digits. -/
def hexDigits (code : Nat) : List Char :=
  [Nat.digitChar (code / 4096), Nat.digitChar (code / 256 % 16), Nat.digitChar (code / 16 % 16),
    Nat.digitChar (code % 16)]

/-- The characters that have an escape of one letter, with the letter. -/
def shortEscapes : List (Char × Char) :=
  [('"', '"'), ('\\', '\\'), ('\x08', 'b'), ('\x0c', 'f'), ('\n', 'n'), ('\r', 'r'), ('\t', 't')]

/-- The characters that are written by their code: control characters, the characters that HTML
reads as markup, and the separators that JavaScript reads as ends of lines. -/
def needsCode (char : Char) : Bool :=
  char.toNat < 0x20 || char = '<' || char = '>' || char = '&' || char.toNat = 0x2028 ||
    char.toNat = 0x2029

def escapeChar (char : Char) : List Char :=
  match shortEscapes.find? fun escape => escape.1 = char with
  | some escape => ['\\', escape.2]
  | none => if needsCode char then '\\' :: 'u' :: hexDigits char.toNat else [char]

/-- `json.Marshal` of a string. -/
def marshalString (text : String) : String :=
  String.ofList ('"' :: text.toList.flatMap escapeChar ++ ['"'])

/-! ## Unmarshalling -/

/-- The value of a hexadecimal digit. -/
def hexValue (char : Char) : Option Nat :=
  if '0' ≤ char ∧ char ≤ '9' then some (char.toNat - '0'.toNat)
  else if 'a' ≤ char ∧ char ≤ 'f' then some (char.toNat - 'a'.toNat + 10)
  else if 'A' ≤ char ∧ char ≤ 'F' then some (char.toNat - 'A'.toNat + 10)
  else none

/-- The code of four hexadecimal digits, and what follows. -/
def readCode : List Char → Option (Nat × List Char)
  | first :: second :: third :: fourth :: rest =>
    match hexValue first, hexValue second, hexValue third, hexValue fourth with
    | some a, some b, some c, some d => some (a * 4096 + b * 256 + c * 16 + d, rest)
    | _, _, _, _ => none
  | _ => none

/-- The code of an escape that follows a high surrogate. -/
def readPair : List Char → Option (Nat × List Char)
  | first :: second :: rest => if first = '\\' ∧ second = 'u' then readCode rest else none
  | _ => none

/-- A character by its code; a surrogate without its partner is replaced. -/
def readUnicode (chars : List Char) : Option (Char × List Char) :=
  match readCode chars with
  | none => none
  | some (code, rest) =>
    if 0xD800 ≤ code ∧ code < 0xE000 then
      match readPair rest with
      | some (low, after) =>
        if code < 0xDC00 ∧ 0xDC00 ≤ low ∧ low < 0xE000 then
          some (Char.ofNat ((code - 0xD800) * 1024 + (low - 0xDC00) + 0x10000), after)
        else some (Char.ofNat 0xFFFD, rest)
      | none => some (Char.ofNat 0xFFFD, rest)
    else some (Char.ofNat code, rest)

/-- The escapes of one letter that are read. -/
def shortUnescape (letter : Char) : Option Char :=
  if letter = '/' then some '/'
  else (shortEscapes.find? fun escape => escape.2 = letter).map Prod.fst

/-- The character of an escape, after its backslash. -/
def readEscape : List Char → Option (Char × List Char)
  | [] => none
  | letter :: rest =>
    if letter = 'u' then readUnicode rest
    else (shortUnescape letter).map fun char => (char, rest)

end AiHub.Library
