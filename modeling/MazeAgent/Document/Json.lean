import MazeAgent.Document.Value

/-!
# JSON text

Reading and writing documents as JSON. A number written without fraction and exponent is an
integer when 64 bits hold it; every other number is a real, minus zero included.

**Results.**
* `Json.read`: the document of a text.
* `Json.write`: the text of a document, without blanks.
-/

namespace MazeAgent
namespace Json

/-! ## Reading -/

def skipBlanks : List Char → List Char
  | c :: rest =>
      if c = ' ' ∨ c = '\n' ∨ c = '\t' ∨ c = '\r' then skipBlanks rest else c :: rest
  | [] => []

def hexDigit? (c : Char) : Option Nat :=
  if '0' ≤ c ∧ c ≤ '9' then some (c.toNat - '0'.toNat)
  else if 'a' ≤ c ∧ c ≤ 'f' then some (c.toNat - 'a'.toNat + 10)
  else if 'A' ≤ c ∧ c ≤ 'F' then some (c.toNat - 'A'.toNat + 10)
  else none

def hexQuad? (a b c d : Char) : Option Nat := do
  let high := (← hexDigit? a) * 16 + (← hexDigit? b)
  return (high * 16 + (← hexDigit? c)) * 16 + (← hexDigit? d)

/-- The character of a code point that is no surrogate. -/
def scalar? (code : Nat) : Option Char :=
  if code < 0xd800 ∨ (0xdfff < code ∧ code < 0x110000) then some (Char.ofNat code) else none

def shortEscape? : Char → Option Char
  | '"' => some '"'
  | '\\' => some '\\'
  | '/' => some '/'
  | 'b' => some '\x08'
  | 'f' => some '\x0c'
  | 'n' => some '\n'
  | 'r' => some '\r'
  | 't' => some '\t'
  | _ => none

/-- The characters of a string up to its closing quote, and the text after it; `done` holds the
characters already read, in reverse. -/
def readString (done : List Char) : List Char → Option (String × List Char)
  | '"' :: rest => some (String.ofList done.reverse, rest)
  | '\\' :: 'u' :: a :: b :: c :: d :: '\\' :: 'u' :: e :: f :: g :: h :: rest =>
      match hexQuad? a b c d with
      | none => none
      | some high =>
          if 0xd800 ≤ high ∧ high < 0xdc00 then
            match hexQuad? e f g h with
            | none => none
            | some low =>
                if 0xdc00 ≤ low ∧ low < 0xe000 then
                  readString
                    (Char.ofNat (0x10000 + (high - 0xd800) * 0x400 + (low - 0xdc00)) :: done) rest
                else
                  none
          else
            match scalar? high with
            | none => none
            | some char => readString (char :: done) ('\\' :: 'u' :: e :: f :: g :: h :: rest)
  | '\\' :: 'u' :: a :: b :: c :: d :: rest =>
      match (hexQuad? a b c d).bind scalar? with
      | none => none
      | some char => readString (char :: done) rest
  | '\\' :: c :: rest =>
      match shortEscape? c with
      | none => none
      | some char => readString (char :: done) rest
  | c :: rest => if c.toNat < 0x20 then none else readString (c :: done) rest
  | [] => none

/-- The number of a list of decimal digits. -/
def ofDigits (digits : List Char) : Nat :=
  digits.foldl (fun n c => n * 10 + (c.toNat - '0'.toNat)) 0

/-- The digits after a decimal point, if there is one, and the text after them. -/
def readFraction : List Char → Option (List Char × List Char)
  | '.' :: text =>
      let digits := text.takeWhile Char.isDigit
      if digits.isEmpty then none else some (digits, text.dropWhile Char.isDigit)
  | text => some ([], text)

/-- Whether a minus comes first, and the text after the sign. -/
def readSign : List Char → Bool × List Char
  | '-' :: text => (true, text)
  | '+' :: text => (false, text)
  | text => (false, text)

/-- The exponent, if there is one, and the text after it. -/
def readExponent : List Char → Option (Option Int × List Char)
  | mark :: text =>
      if mark = 'e' ∨ mark = 'E' then
        let (minus, text) := readSign text
        let digits := text.takeWhile Char.isDigit
        if digits.isEmpty then
          none
        else
          let size : Int := ofDigits digits
          some (some (if minus then -size else size), text.dropWhile Char.isDigit)
      else
        some (none, mark :: text)
  | [] => some (none, [])

/-- The document of a number by its parts. -/
def ofNumber (negative : Bool) (whole fraction : List Char) (exponent : Option Int) : Document :=
  let digits := ofDigits (whole ++ fraction)
  let isInteger :=
    fraction.isEmpty && exponent.isNone &&
      (if negative then digits ≠ 0 ∧ Word.isSigned 64 (-digits)
      else Word.isUnsigned 64 digits)
  if isInteger then
    .integer (if negative then -(digits : Int) else digits)
  else
    .real (.decimal negative digits (exponent.getD 0 - fraction.length))

/-- A number after its sign, and the text after it. -/
def readNumber (negative : Bool) (text : List Char) : Option (Document × List Char) :=
  let whole := text.takeWhile Char.isDigit
  if whole.isEmpty ∨ (1 < whole.length ∧ whole.head? = some '0') then
    none
  else do
    let (fraction, text) ← readFraction (text.dropWhile Char.isDigit)
    let (exponent, text) ← readExponent text
    return (ofNumber negative whole fraction exponent, text)

mutual

/-- A value, and the text after it. -/
def readValue : (fuel : Nat) → List Char → Option (Document × List Char)
  | 0, _ => none
  | fuel + 1, text =>
      match skipBlanks text with
      | 'n' :: 'u' :: 'l' :: 'l' :: rest => some (.null, rest)
      | 't' :: 'r' :: 'u' :: 'e' :: rest => some (.boolean true, rest)
      | 'f' :: 'a' :: 'l' :: 's' :: 'e' :: rest => some (.boolean false, rest)
      | '"' :: rest =>
          match readString [] rest with
          | some (value, rest) => some (.text value, rest)
          | none => none
      | '-' :: rest => readNumber true rest
      | '[' :: rest =>
          match skipBlanks rest with
          | ']' :: rest => some (.list [], rest)
          | rest =>
              match readItems fuel rest with
              | some (items, rest) => some (.list items, rest)
              | none => none
      | '{' :: rest =>
          match skipBlanks rest with
          | '}' :: rest => some (.table [], rest)
          | rest =>
              match readFields fuel rest with
              | some (fields, rest) => some (.table fields, rest)
              | none => none
      | rest => readNumber false rest

/-- The items of a list from the next one on, and the text after the closing bracket. -/
def readItems : (fuel : Nat) → List Char → Option (List Document × List Char)
  | 0, _ => none
  | fuel + 1, text =>
      match readValue fuel text with
      | none => none
      | some (item, rest) =>
          match skipBlanks rest with
          | ']' :: rest => some ([item], rest)
          | ',' :: rest =>
              match readItems fuel rest with
              | some (items, rest) => some (item :: items, rest)
              | none => none
          | _ => none

/-- The fields of a table from the next one on, and the text after the closing brace. -/
def readFields : (fuel : Nat) → List Char → Option (List (String × Document) × List Char)
  | 0, _ => none
  | fuel + 1, text =>
      match skipBlanks text with
      | '"' :: rest =>
          match readString [] rest with
          | none => none
          | some (name, rest) =>
              match skipBlanks rest with
              | ':' :: rest =>
                  match readValue fuel rest with
                  | none => none
                  | some (value, rest) =>
                      match skipBlanks rest with
                      | '}' :: rest => some ([(name, value)], rest)
                      | ',' :: rest =>
                          match readFields fuel rest with
                          | some (fields, rest) => some ((name, value) :: fields, rest)
                          | none => none
                      | _ => none
              | _ => none
      | _ => none

end

def read (text : String) : Option Document :=
  let chars := text.toList
  match readValue (2 * chars.length + 2) chars with
  | some (value, rest) => if (skipBlanks rest).isEmpty then some value else none
  | none => none

/-! ## Writing -/

/-- The hexadecimal digit of a number below sixteen. -/
def hexChar (n : Nat) : Char :=
  if n < 10 then Char.ofNat ('0'.toNat + n) else Char.ofNat ('a'.toNat + n - 10)

/-- What stands after the backslash for a character that has a short escape. -/
def shortLetter? : Char → Option Char
  | '"' => some '"'
  | '\\' => some '\\'
  | '\x08' => some 'b'
  | '\x0c' => some 'f'
  | '\n' => some 'n'
  | '\r' => some 'r'
  | '\t' => some 't'
  | _ => none

def writeChar (c : Char) : List Char :=
  match shortLetter? c with
  | some letter => ['\\', letter]
  | none =>
      if c.toNat < 0x20 then
        ['\\', 'u', '0', '0', hexChar (c.toNat / 16), hexChar (c.toNat % 16)]
      else [c]

def writeString (text : String) : List Char :=
  '"' :: (text.toList.flatMap writeChar ++ ['"'])

/-- A numeral; what is no finite number is null. -/
def writeNumeral : Numeral → List Char
  | .decimal negative digits exponent =>
      (if negative then ['-'] else []) ++ (Nat.toDigits 10 digits) ++
        'e' :: (toString exponent).toList
  | .infinity _ => "null".toList
  | .notANumber _ => "null".toList

mutual

def writeValue : Document → List Char
  | .null => "null".toList
  | .boolean true => "true".toList
  | .boolean false => "false".toList
  | .integer value => (toString value).toList
  | .real value => writeNumeral value
  | .text value => writeString value
  | .moment value => writeString value
  | .list [] => ['[', ']']
  | .list (item :: items) => '[' :: (writeValue item ++ writeItems items)
  | .table [] => ['{', '}']
  | .table ((name, value) :: fields) =>
      '{' :: (writeString name ++ ':' :: (writeValue value ++ writeFields fields))

/-- The text of further items and the closing bracket. -/
def writeItems : List Document → List Char
  | [] => [']']
  | item :: items => ',' :: (writeValue item ++ writeItems items)

/-- The text of further fields and the closing brace. -/
def writeFields : List (String × Document) → List Char
  | [] => ['}']
  | (name, value) :: fields =>
      ',' :: (writeString name ++ ':' :: (writeValue value ++ writeFields fields))

end

def write (document : Document) : String := String.ofList (writeValue document)

end Json
end MazeAgent
