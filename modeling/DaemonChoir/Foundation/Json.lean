import Mathlib.Data.List.TakeWhile
import Mathlib.Data.List.Basic
import Mathlib.Data.Nat.Notation
set_option autoImplicit false

/-!
# Foundation: JSON texts

The values of RFC 8259, the compact text of a value, and a reader of texts.  A number stays
the literal that it is written with, so nothing is rounded here; an object keeps its members
in order, and may have two of one name.
-/

namespace DaemonChoir.Foundation

namespace JsonText

/-! ## Number literals -/

/-- One digit or more. -/
def isDigits (chars : List Char) : Bool := !chars.isEmpty && chars.all Char.isDigit

/-- An exponent, or nothing. -/
def isExponent : List Char → Bool
  | [] => true
  | c :: rest =>
      (c == 'e' || c == 'E') &&
        match rest with
        | [] => false
        | sign :: digits =>
            if sign == '+' || sign == '-' then isDigits digits else isDigits rest

/-- A fraction or nothing, and an exponent or nothing. -/
def isFraction : List Char → Bool
  | [] => true
  | c :: rest =>
      if c == '.' then
        isDigits (rest.takeWhile Char.isDigit) && isExponent (rest.dropWhile Char.isDigit)
      else isExponent (c :: rest)

/-- The digits before the point: no leading zero. -/
def isWhole : List Char → Bool
  | [] => false
  | c :: rest => c != '0' || rest.isEmpty

/-- A number without its sign. -/
def isUnsigned (chars : List Char) : Bool :=
  isWhole (chars.takeWhile Char.isDigit) && isFraction (chars.dropWhile Char.isDigit)

/-- A number literal. -/
def isNumber : List Char → Bool
  | [] => false
  | c :: rest => if c == '-' then isUnsigned rest else isUnsigned (c :: rest)

/-- A character that may stand in a number literal. -/
def isNumberChar (c : Char) : Bool :=
  c.isDigit || c == '-' || c == '+' || c == '.' || c == 'e' || c == 'E'

end JsonText

open JsonText

/-- A number literal. -/
structure NumberLiteral where
  chars : List Char
  valid : isNumber chars = true
  deriving DecidableEq, Repr

/-- A JSON value. -/
inductive Json where
  | null
  | bool (value : Bool)
  | number (literal : NumberLiteral)
  | string (text : String)
  | array (items : List Json)
  | object (members : List (String × Json))

namespace JsonText

/-! ## The compact text -/

/-- What stands for a character after a backslash; `none` where the character stands for
itself. -/
def escape (c : Char) : Option (List Char) :=
  if c = '"' then some ['"']
  else if c = '\\' then some ['\\']
  else if c = '\x08' then some ['b']
  else if c = '\x0c' then some ['f']
  else if c = '\n' then some ['n']
  else if c = '\r' then some ['r']
  else if c = '\t' then some ['t']
  else if c.toNat < 32 then
    some ['u', '0', '0', Nat.digitChar (c.toNat / 16), Nat.digitChar (c.toNat % 16)]
  else none

/-- A character in a string literal. -/
def writeChar (c : Char) : List Char :=
  match escape c with
  | some escaped => '\\' :: escaped
  | none => [c]

/-- A string literal after its opening quote. -/
def writeString (text : List Char) : List Char := text.flatMap writeChar ++ ['"']

mutual

/-- The text of a value. -/
def write : Json → List Char
  | .null => ['n', 'u', 'l', 'l']
  | .bool true => ['t', 'r', 'u', 'e']
  | .bool false => ['f', 'a', 'l', 's', 'e']
  | .number literal => literal.chars
  | .string text => '"' :: writeString text.toList
  | .array [] => ['[', ']']
  | .array (item :: items) => '[' :: (write item ++ writeItems items)
  | .object [] => ['{', '}']
  | .object ((name, value) :: members) =>
      '{' :: '"' :: (writeString name.toList ++ ':' :: (write value ++ writeMembers members))
termination_by structural json => json

/-- The later items of an array, and its closing bracket. -/
def writeItems : List Json → List Char
  | [] => [']']
  | item :: items => ',' :: (write item ++ writeItems items)
termination_by structural items => items

/-- The later members of an object, and its closing brace. -/
def writeMembers : List (String × Json) → List Char
  | [] => ['}']
  | (name, value) :: members =>
      ',' :: '"' :: (writeString name.toList ++ ':' :: (write value ++ writeMembers members))
termination_by structural members => members

end

/-! ## The reader -/

/-- White space. -/
def isSpace (c : Char) : Bool := c == ' ' || c == '\n' || c == '\r' || c == '\t'

/-- Skip white space. -/
def skipSpace (chars : List Char) : List Char := chars.dropWhile isSpace

/-- The value of a hexadecimal digit. -/
def hexValue (c : Char) : Option ℕ :=
  if c.isDigit then some (c.toNat - 48)
  else if 'a' ≤ c ∧ c ≤ 'f' then some (c.toNat - 87)
  else if 'A' ≤ c ∧ c ≤ 'F' then some (c.toNat - 55)
  else none

/-- Four hexadecimal digits, and the rest. -/
def readUnit : List Char → Option (ℕ × List Char)
  | a :: b :: c :: d :: rest =>
      match hexValue a, hexValue b, hexValue c, hexValue d with
      | some a, some b, some c, some d => some (4096 * a + 256 * b + 16 * c + d, rest)
      | _, _, _, _ => none
  | _ => none

/-- What follows the first half of a surrogate pair. -/
def readLowSurrogate (high : ℕ) : List Char → Option (Char × List Char)
  | backslash :: u :: rest =>
      if backslash = '\\' ∧ u = 'u' then
        match readUnit rest with
        | none => none
        | some (low, rest) =>
            if 0xdc00 ≤ low ∧ low < 0xe000 then
              some (Char.ofNat (0x10000 + (high - 0xd800) * 0x400 + (low - 0xdc00)), rest)
            else none
      else none
  | _ => none

/-- The character of an escape sequence after its backslash, and the rest. -/
def readEscape : List Char → Option (Char × List Char)
  | [] => none
  | c :: rest =>
      if c = '"' then some ('"', rest)
      else if c = '\\' then some ('\\', rest)
      else if c = '/' then some ('/', rest)
      else if c = 'b' then some ('\x08', rest)
      else if c = 'f' then some ('\x0c', rest)
      else if c = 'n' then some ('\n', rest)
      else if c = 'r' then some ('\r', rest)
      else if c = 't' then some ('\t', rest)
      else if c = 'u' then
        match readUnit rest with
        | none => none
        | some (unit, rest) =>
            if unit < 0xd800 ∨ 0xe000 ≤ unit then some (Char.ofNat unit, rest)
            -- the second half of a pair never comes first
            else if unit < 0xdc00 then readLowSurrogate unit rest
            else none
      else none

/-- A string literal after its opening quote, and the rest. -/
def readString : ℕ → List Char → Option (List Char × List Char)
  | 0, _ => none
  | _ + 1, [] => none
  | fuel + 1, c :: rest =>
      if c = '"' then some ([], rest)
      else if c = '\\' then
        match readEscape rest with
        | none => none
        | some (plain, rest) => (readString fuel rest).map fun read => (plain :: read.1, read.2)
      else if c.toNat < 32 then none
      else (readString fuel rest).map fun read => (c :: read.1, read.2)

/-- A string literal, which is no longer than what is left. -/
def readText (chars : List Char) : Option (List Char × List Char) :=
  readString (chars.length + 1) chars

/-- A number literal, and the rest. -/
def readNumber (chars : List Char) : Option (NumberLiteral × List Char) :=
  if valid : isNumber (chars.takeWhile isNumberChar) = true then
    some (⟨chars.takeWhile isNumberChar, valid⟩, chars.dropWhile isNumberChar)
  else none

/-- A given word. -/
def expectWord : List Char → List Char → Option (List Char)
  | [], rest => some rest
  | _ :: _, [] => none
  | expected :: word, c :: rest => if c = expected then expectWord word rest else none

mutual

/-- A value, and the rest. -/
def readValue : ℕ → List Char → Option (Json × List Char)
  | 0, _ => none
  | fuel + 1, chars =>
      match skipSpace chars with
      | [] => none
      | c :: rest =>
          if c = '"' then
            (readText rest).map fun read => (.string (String.ofList read.1), read.2)
          else if c = '[' then
            match skipSpace rest with
            | ']' :: rest => some (.array [], rest)
            | _ => (readItems fuel rest).map fun read => (.array read.1, read.2)
          else if c = '{' then
            match skipSpace rest with
            | '}' :: rest => some (.object [], rest)
            | _ => (readMembers fuel rest).map fun read => (.object read.1, read.2)
          else if c = 'n' then (expectWord ['u', 'l', 'l'] rest).map fun rest => (.null, rest)
          else if c = 't' then
            (expectWord ['r', 'u', 'e'] rest).map fun rest => (.bool true, rest)
          else if c = 'f' then
            (expectWord ['a', 'l', 's', 'e'] rest).map fun rest => (.bool false, rest)
          else (readNumber (c :: rest)).map fun read => (.number read.1, read.2)

/-- The items of an array up to its closing bracket, and the rest. -/
def readItems : ℕ → List Char → Option (List Json × List Char)
  | 0, _ => none
  | fuel + 1, chars =>
      match readValue fuel chars with
      | none => none
      | some (item, rest) =>
          match skipSpace rest with
          | ',' :: rest => (readItems fuel rest).map fun read => (item :: read.1, read.2)
          | ']' :: rest => some ([item], rest)
          | _ => none

/-- The members of an object up to its closing brace, and the rest. -/
def readMembers : ℕ → List Char → Option (List (String × Json) × List Char)
  | 0, _ => none
  | fuel + 1, chars =>
      match skipSpace chars with
      | '"' :: rest =>
          match readText rest with
          | none => none
          | some (name, rest) =>
              match skipSpace rest with
              | ':' :: rest =>
                  match readValue fuel rest with
                  | none => none
                  | some (value, rest) =>
                      match skipSpace rest with
                      | ',' :: rest =>
                          (readMembers fuel rest).map fun read =>
                            ((String.ofList name, value) :: read.1, read.2)
                      | '}' :: rest => some ([(String.ofList name, value)], rest)
                      | _ => none
              | _ => none
      | _ => none

end

end JsonText

namespace Json

/-- The compact text of a value. -/
def toText (json : Json) : String := String.ofList (write json)

/-- The value of a text. -/
def ofText (text : String) : Option Json :=
  match readValue (text.toList.length + 1) text.toList with
  | none => none
  | some (json, rest) => if skipSpace rest = [] then some json else none

end Json

end DaemonChoir.Foundation
