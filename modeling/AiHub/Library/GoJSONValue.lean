import AiHub.Library.GoJSON
import AiHub.Library.GoNumber
import Mathlib.Data.List.Sort
import Mathlib.Data.String.Basic

/-!
# JSON values

The values that `encoding/json` reads into an `any`, how it reads and how it writes them.  The
members of an object that has been read are in the order of their keys, and of equal keys the
last one counts, so that equal maps are equal values.
-/

namespace AiHub.Library

inductive JSON where
  | null
  | bool (value : Bool)
  | number (value : GoNumber)
  | string (text : String)
  | array (items : List JSON)
  | object (members : List (String × JSON))
  deriving Repr

namespace JSON

mutual

def decideEq : (left right : JSON) → Decidable (left = right)
  | .null, .null => isTrue rfl
  | .bool left, .bool right => decidable_of_iff (left = right) (by rw [bool.injEq])
  | .number left, .number right => decidable_of_iff (left = right) (by rw [number.injEq])
  | .string left, .string right => decidable_of_iff (left = right) (by rw [string.injEq])
  | .array left, .array right =>
    @decidable_of_iff _ (left = right) (by rw [array.injEq]) (decideItemsEq left right)
  | .object left, .object right =>
    @decidable_of_iff _ (left = right) (by rw [object.injEq]) (decideMembersEq left right)
  | .null, .bool _ | .null, .number _ | .null, .string _ | .null, .array _ | .null, .object _
  | .bool _, .null | .bool _, .number _ | .bool _, .string _ | .bool _, .array _
  | .bool _, .object _ | .number _, .null | .number _, .bool _ | .number _, .string _
  | .number _, .array _ | .number _, .object _ | .string _, .null | .string _, .bool _
  | .string _, .number _ | .string _, .array _ | .string _, .object _ | .array _, .null
  | .array _, .bool _ | .array _, .number _ | .array _, .string _ | .array _, .object _
  | .object _, .null | .object _, .bool _ | .object _, .number _ | .object _, .string _
  | .object _, .array _ => isFalse fun same => by cases same

def decideItemsEq : (left right : List JSON) → Decidable (left = right)
  | [], [] => isTrue rfl
  | [], _ :: _ | _ :: _, [] => isFalse fun same => by cases same
  | left :: lefts, right :: rights =>
    @decidable_of_iff _ (left = right ∧ lefts = rights) (by rw [List.cons.injEq])
      (@instDecidableAnd _ _ (decideEq left right) (decideItemsEq lefts rights))

def decideMembersEq : (left right : List (String × JSON)) → Decidable (left = right)
  | [], [] => isTrue rfl
  | [], _ :: _ | _ :: _, [] => isFalse fun same => by cases same
  | (leftKey, left) :: lefts, (rightKey, right) :: rights =>
    @decidable_of_iff _ (leftKey = rightKey ∧ left = right ∧ lefts = rights)
      (by rw [List.cons.injEq, Prod.mk.injEq, and_assoc])
      (@instDecidableAnd _ _ _
        (@instDecidableAnd _ _ (decideEq left right) (decideMembersEq lefts rights)))

end

instance : DecidableEq JSON := decideEq

/-! ## Writing -/

/-- The members of a map in the order of their keys. -/
def sortMembers {Value : Type} (members : List (String × Value)) : List (String × Value) :=
  members.insertionSort fun left right => left.1 ≤ right.1

mutual

/-- `json.Marshal` -/
def marshal : JSON → String
  | .null => "null"
  | .bool value => if value then "true" else "false"
  | .number value => value.marshal
  | .string text => marshalString text
  | .array items => "[" ++ String.intercalate "," (marshalItems items) ++ "]"
  | .object members =>
    "\x7b" ++ String.intercalate "," ((sortMembers (marshalMembers members)).map fun member =>
      marshalString member.1 ++ ":" ++ member.2) ++ "\x7d"

def marshalItems : List JSON → List String
  | [] => []
  | item :: items => item.marshal :: marshalItems items

def marshalMembers : List (String × JSON) → List (String × String)
  | [] => []
  | (key, value) :: members => (key, value.marshal) :: marshalMembers members

end

mutual

/-- `fmt.Sprintf("%v")` -/
def display : JSON → String
  | .null => "<nil>"
  | .bool value => if value then "true" else "false"
  | .number value => value.formatGeneral
  | .string text => text
  | .array items => "[" ++ String.intercalate " " (displayItems items) ++ "]"
  | .object members =>
    "map[" ++ String.intercalate " " ((sortMembers (displayMembers members)).map fun member =>
      member.1 ++ ":" ++ member.2) ++ "]"

def displayItems : List JSON → List String
  | [] => []
  | item :: items => item.display :: displayItems items

def displayMembers : List (String × JSON) → List (String × String)
  | [] => []
  | (key, value) :: members => (key, value.display) :: displayMembers members

end

/-! ## Reading -/

def skipSpace (chars : List Char) : List Char :=
  chars.dropWhile fun char => char = ' ' || char = '\t' || char = '\n' || char = '\r'

/-- The characters up to the closing quote, and what follows it. -/
def readQuoted : Nat → List Char → Option (List Char × List Char)
  | fuel + 1, char :: rest =>
    if char = '"' then some ([], rest)
    else if char = '\\' then
      match readEscape rest with
      | none => none
      | some (read, after) => (readQuoted fuel after).map fun text => (read :: text.1, text.2)
    else if char.toNat < 0x20 then none
    else (readQuoted fuel rest).map fun text => (char :: text.1, text.2)
  | _, _ => none

/-- The digits of a decimal, as a number. -/
def digitsValue (digits : List Char) : Nat :=
  digits.foldl (fun value digit => 10 * value + (digit.toNat - '0'.toNat)) 0

/-- The digits after a point, if there is one. -/
def readFraction : List Char → Option (List Char × List Char)
  | [] => some ([], [])
  | char :: rest =>
    if char = '.' then
      if (rest.takeWhile Char.isDigit) = [] then none
      else some (rest.takeWhile Char.isDigit, rest.dropWhile Char.isDigit)
    else some ([], char :: rest)

def readExponent : List Char → Option (Int × List Char)
  | [] => some (0, [])
  | char :: rest =>
    if char = 'e' ∨ char = 'E' then
      let signed := rest.head? = some '+' ∨ rest.head? = some '-'
      let digits := if signed then rest.drop 1 else rest
      let value : Int := digitsValue (digits.takeWhile Char.isDigit)
      if digits.takeWhile Char.isDigit = [] then none
      else some (if rest.head? = some '-' then -value else value,
        digits.dropWhile Char.isDigit)
    else some (0, char :: rest)

/-- A number; one that no double is near to is an error. -/
def readNumber (chars : List Char) : Option (GoNumber × List Char) :=
  let negative := chars.head? = some '-'
  let unsigned := if negative then chars.drop 1 else chars
  let whole := unsigned.takeWhile Char.isDigit
  if whole = [] ∨ (1 < whole.length ∧ whole.head? = some '0') then none
  else
    match readFraction (unsigned.dropWhile Char.isDigit) with
    | none => none
    | some (fraction, afterFraction) =>
      match readExponent afterFraction with
      | none => none
      | some (exponent, rest) =>
        (GoNumber.ofDecimal negative (digitsValue (whole ++ fraction))
          (exponent - fraction.length)).map (·, rest)

/-- A keyword, and what follows it. -/
def readWord (word : String) (value : JSON) (chars : List Char) : Option (JSON × List Char) :=
  if word.toList.isPrefixOf chars then some (value, chars.drop word.length) else none

/-- Of equal keys the last one counts. -/
def insertMember (key : String) (value : JSON) : List (String × JSON) → List (String × JSON)
  | [] => [(key, value)]
  | (other, otherValue) :: members =>
    if key < other then (key, value) :: (other, otherValue) :: members
    else if key = other then (key, value) :: members
    else (other, otherValue) :: insertMember key value members

/-- How deep values may be nested. -/
def maxNestingDepth : Nat := 10000

mutual

/-- A value, and what follows it. -/
def readValue : Nat → Nat → List Char → Option (JSON × List Char)
  | 0, _, _ => none
  | fuel + 1, depth, chars =>
    match skipSpace chars with
    | [] => none
    | first :: rest =>
      if first = '\x7b' then
        if depth < maxNestingDepth then
          if (skipSpace rest).head? = some '\x7d' then
            some (.object [], (skipSpace rest).drop 1)
          else readMembers fuel (depth + 1) [] rest
        else none
      else if first = '[' then
        if depth < maxNestingDepth then
          if (skipSpace rest).head? = some ']' then some (.array [], (skipSpace rest).drop 1)
          else readItems fuel (depth + 1) [] rest
        else none
      else if first = '"' then
        (readQuoted rest.length rest).map fun text => (.string (String.ofList text.1), text.2)
      else if first = 't' then readWord "true" (.bool true) (first :: rest)
      else if first = 'f' then readWord "false" (.bool false) (first :: rest)
      else if first = 'n' then readWord "null" .null (first :: rest)
      else (readNumber (first :: rest)).map fun number => (.number number.1, number.2)

/-- The items of an array after those that have been read. -/
def readItems : Nat → Nat → List JSON → List Char → Option (JSON × List Char)
  | 0, _, _, _ => none
  | fuel + 1, depth, items, chars =>
    match readValue fuel depth chars with
    | none => none
    | some (item, after) =>
      match skipSpace after with
      | [] => none
      | next :: rest =>
        if next = ',' then readItems fuel depth (items ++ [item]) rest
        else if next = ']' then some (.array (items ++ [item]), rest)
        else none

/-- The members of an object after those that have been read. -/
def readMembers : Nat → Nat → List (String × JSON) → List Char → Option (JSON × List Char)
  | 0, _, _, _ => none
  | fuel + 1, depth, members, chars =>
    match skipSpace chars with
    | [] => none
    | quote :: rest =>
      if quote = '"' then
        match readQuoted rest.length rest with
        | none => none
        | some (key, afterKey) =>
          if (skipSpace afterKey).head? = some ':' then
            match readValue fuel depth ((skipSpace afterKey).drop 1) with
            | none => none
            | some (value, after) =>
              let all := insertMember (String.ofList key) value members
              match skipSpace after with
              | [] => none
              | next :: rest =>
                if next = ',' then readMembers fuel depth all rest
                else if next = '\x7d' then some (.object all, rest)
                else none
          else none
      else none

end

/-- `json.Unmarshal` into an `any`. -/
def unmarshal (text : String) : Option JSON :=
  match readValue (2 * text.length + 2) 0 text.toList with
  | none => none
  | some (value, rest) => if skipSpace rest = [] then some value else none

/-- `json.Unmarshal` into a map: `null` leaves no map, and nothing else but an object is read. -/
def unmarshalMap (text : String) : Option (Option (List (String × JSON))) :=
  match unmarshal text with
  | some (.object members) => some (some members)
  | some .null => some none
  | _ => none

/-! ## Members and their types -/

/-- The member of a map under a key, if there is one. -/
def member? (members : List (String × JSON)) (key : String) : Option JSON :=
  (members.find? fun entry => entry.1 = key).map Prod.snd

/-- The member of a map under a key. -/
def member (members : List (String × JSON)) (key : String) : JSON :=
  (member? members key).getD .null

def string? : JSON → Option String
  | .string text => some text
  | _ => none

end JSON

end AiHub.Library
