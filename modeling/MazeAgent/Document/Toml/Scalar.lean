import MazeAgent.Document.Json

/-!
# TOML scalars

Strings, keys, numbers, truth values, dates and times of TOML.

**Results.**
* `Toml.readString?`: a quoted string of one of the four kinds.
* `Toml.readKey?`: one part of a key.
* `Toml.scalar?`: the value of a word without quotes.
-/

namespace MazeAgent
namespace Toml

/-- Whether a character may not stand in a string or a comment. -/
def isControl (c : Char) : Bool :=
  (c.toNat < 0x20 && c != '\t') || c = '\x7f'

/-- Whether a character is a blank within a line. -/
def isBlank (c : Char) : Bool := c = ' ' || c = '\t'

/-! ## Strings -/

/-- The number of a list of hexadecimal digits. -/
def hexNumber? (digits : List Char) : Option Nat :=
  digits.foldlM (fun n c => (Json.hexDigit? c).map (fun d => n * 16 + d)) 0

/-- The character of an escape that follows a backslash, and the text after it. -/
def readEscape? : List Char → Option (Char × List Char)
  | 'b' :: rest => some ('\x08', rest)
  | 't' :: rest => some ('\t', rest)
  | 'n' :: rest => some ('\n', rest)
  | 'f' :: rest => some ('\x0c', rest)
  | 'r' :: rest => some ('\r', rest)
  | 'e' :: rest => some ('\x1b', rest)
  | '"' :: rest => some ('"', rest)
  | '\\' :: rest => some ('\\', rest)
  | mark :: rest =>
      let count := if mark = 'x' then 2 else if mark = 'u' then 4 else if mark = 'U' then 8 else 0
      if count = 0 ∨ rest.length < count then
        none
      else
        match (hexNumber? (rest.take count)).bind Json.scalar? with
        | some char => some (char, rest.drop count)
        | none => none
  | [] => none

/-- A string between double quotes, after the first quote. -/
def readBasic? : (fuel : Nat) → (done : List Char) → List Char → Option (String × List Char)
  | 0, _, _ => none
  | _ + 1, _, [] => none
  | fuel + 1, done, c :: rest =>
      if c = '"' then
        some (String.ofList done.reverse, rest)
      else if c = '\\' then
        match readEscape? rest with
        | some (char, rest) => readBasic? fuel (char :: done) rest
        | none => none
      else if isControl c then
        none
      else
        readBasic? fuel (c :: done) rest

/-- A string between single quotes, after the first quote. -/
def readLiteral? (done : List Char) : List Char → Option (String × List Char)
  | [] => none
  | c :: rest =>
      if c = '\'' then some (String.ofList done.reverse, rest)
      else if isControl c then none
      else readLiteral? (c :: done) rest

/-- The text after a backslash at the end of a line, with all blanks and line ends dropped;
none when the backslash is not the last of its line. -/
def dropLineEnd? (text : List Char) : Option (List Char) :=
  match text.dropWhile isBlank with
  | '\n' :: rest => some (rest.dropWhile (fun c => isBlank c || c = '\n' || c = '\r'))
  | '\r' :: '\n' :: rest => some (rest.dropWhile (fun c => isBlank c || c = '\n' || c = '\r'))
  | _ => none

/-- A string over several lines between three quotes of the given kind, after the first three.
Up to two quotes may stand right before the closing ones. -/
def readMultiLine? (quote : Char) :
    (fuel : Nat) → (done : List Char) → List Char → Option (String × List Char)
  | 0, _, _ => none
  | _ + 1, _, [] => none
  | fuel + 1, done, c :: rest =>
      if c = quote then
        let run := (c :: rest).takeWhile (· = quote)
        if run.length < 3 then
          readMultiLine? quote fuel (c :: done) rest
        else
          let inner := min (run.length - 3) 2
          some (String.ofList (List.replicate inner quote ++ done).reverse,
            (c :: rest).drop (inner + 3))
      else if c = '\\' ∧ quote = '"' then
        match dropLineEnd? rest with
        | some rest => readMultiLine? quote fuel done rest
        | none =>
            match readEscape? rest with
            | some (char, rest) => readMultiLine? quote fuel (char :: done) rest
            | none => none
      else if c = '\n' ∨ (c = '\r' ∧ rest.head? = some '\n') then
        readMultiLine? quote fuel (c :: done) rest
      else if isControl c then
        none
      else
        readMultiLine? quote fuel (c :: done) rest

/-- The text without a line end at its start. -/
def dropFirstBreak : List Char → List Char
  | '\n' :: rest => rest
  | '\r' :: '\n' :: rest => rest
  | text => text

/-- A quoted string that may be used as a key, and the text after it. -/
def readQuoted? : List Char → Option (String × List Char)
  | '"' :: rest => readBasic? (rest.length + 1) [] rest
  | '\'' :: rest => readLiteral? [] rest
  | _ => none

/-- A quoted string, and the text after it. -/
def readString? : List Char → Option (String × List Char)
  | '"' :: '"' :: '"' :: rest =>
      readMultiLine? '"' (rest.length + 1) [] (dropFirstBreak rest)
  | '\'' :: '\'' :: '\'' :: rest =>
      readMultiLine? '\'' (rest.length + 1) [] (dropFirstBreak rest)
  | text => readQuoted? text

/-! ## Keys -/

/-- Whether a character may stand in a key without quotes. -/
def isBare (c : Char) : Bool := c.isAlphanum || c = '_' || c = '-'

/-- One part of a key, and the text after it. -/
def readKey? (text : List Char) : Option (String × List Char) :=
  let bare := text.takeWhile isBare
  if bare.isEmpty then readQuoted? text else some (String.ofList bare, text.dropWhile isBare)

/-- The parts of a dotted key, and the text after it. -/
def readKeyPath? : (fuel : Nat) → List Char → Option (List String × List Char)
  | 0, _ => none
  | fuel + 1, text =>
      match readKey? (text.dropWhile isBlank) with
      | none => none
      | some (key, rest) =>
          match rest.dropWhile isBlank with
          | '.' :: more =>
              match readKeyPath? fuel more with
              | some (keys, rest) => some (key :: keys, rest)
              | none => none
          | rest => some ([key], rest)

/-! ## Numbers -/

/-- Digits with single underscores between them, without the underscores. -/
def ungroup? (isDigit : Char → Bool) : List Char → Option (List Char)
  | [] => none
  | [c] => if isDigit c then some [c] else none
  | c :: '_' :: rest =>
      if isDigit c then (ungroup? isDigit rest).map (c :: ·) else none
  | c :: rest => if isDigit c then (ungroup? isDigit rest).map (c :: ·) else none

def ofBase (base : Nat) (digits : List Char) : Nat :=
  digits.foldl (fun n c => n * base + (Json.hexDigit? c).getD 0) 0

/-- Whether a character is a digit of a base up to sixteen. -/
def isDigitOf (base : Nat) (c : Char) : Bool :=
  match Json.hexDigit? c with
  | some d => d < base
  | none => false

/-- An integer, when 128 bits hold it. -/
def boundedInteger? (n : Int) : Option Document :=
  if Word.isSigned 128 n || Word.isUnsigned 128 n then some (.integer n) else none

/-- An integer in a base other than ten, after the mark of the base. -/
def basedInteger? (base : Nat) (text : List Char) : Option Document :=
  (ungroup? (isDigitOf base) text).bind (fun digits => boundedInteger? (ofBase base digits))

/-- The digits of a number in base ten that does not start with a needless zero. -/
def wholeDigits? (text : List Char) : Option (List Char) :=
  match ungroup? Char.isDigit text with
  | some digits => if 1 < digits.length ∧ digits.head? = some '0' then none else some digits
  | none => none

/-- A real number from its digits before and after the point and its exponent. -/
def real? (negative : Bool) (whole fraction : List Char) (exponent : Int) : Option Document :=
  let numeral :=
    Numeral.decimal negative (Json.ofDigits (whole ++ fraction)) (exponent - fraction.length)
  if numeral.overflows then none else some (.real numeral)

/-- The exponent of a real number, after its mark. -/
def exponent? (text : List Char) : Option Int :=
  let (minus, digits) :=
    match text with
    | '-' :: rest => (true, rest)
    | '+' :: rest => (false, rest)
    | rest => (false, rest)
  (ungroup? Char.isDigit digits).map (fun digits =>
    let size : Int := Json.ofDigits digits
    if minus then -size else size)

def isExponentMark (c : Char) : Bool := c = 'e' || c = 'E'

/-- An integer or a real number after its sign. -/
def number? (negative : Bool) (text : List Char) : Option Document :=
  let inWhole (c : Char) : Bool := c.isDigit || c = '_'
  match wholeDigits? (text.takeWhile inWhole) with
  | none => none
  | some whole =>
      match text.dropWhile inWhole with
      | [] =>
          let size : Int := Json.ofDigits whole
          boundedInteger? (if negative then -size else size)
      | mark :: rest =>
          if mark = '.' then
            match ungroup? Char.isDigit (rest.takeWhile inWhole) with
            | none => none
            | some fraction =>
                match rest.dropWhile inWhole with
                | [] => real? negative whole fraction 0
                | mark :: rest =>
                    if isExponentMark mark then
                      (exponent? rest).bind (real? negative whole fraction)
                    else
                      none
          else if isExponentMark mark then
            (exponent? rest).bind (real? negative whole [])
          else
            none

/-- An infinity or a not-a-number, or a number, after its sign. -/
def signed? (negative : Bool) (text : List Char) : Option Document :=
  if text = ['i', 'n', 'f'] then some (.real (.infinity negative))
  else if text = ['n', 'a', 'n'] then some (.real (.notANumber negative))
  else number? negative text

/-! ## Dates and times -/

/-- The number of a list of exactly `count` digits. -/
def fixedDigits? (count : Nat) (text : List Char) : Option Nat :=
  if text.length = count ∧ text.all Char.isDigit then some (Json.ofDigits text) else none

/-- The number of days of a month. -/
def daysOf (year month : Nat) : Nat :=
  if month = 2 then
    if year % 4 = 0 ∧ (year % 100 ≠ 0 ∨ year % 400 = 0) then 29 else 28
  else if month = 4 ∨ month = 6 ∨ month = 9 ∨ month = 11 then 30
  else 31

def isDate (text : List Char) : Bool :=
  text.length = 10 && text[4]? = some '-' && text[7]? = some '-' &&
    match fixedDigits? 4 (text.take 4), fixedDigits? 2 ((text.drop 5).take 2),
        fixedDigits? 2 (text.drop 8) with
    | some year, some month, some day =>
        1 ≤ month && month ≤ 12 && 1 ≤ day && day ≤ daysOf year month
    | _, _, _ => false

/-- Whether a text is an hour and a minute. -/
def isHourMinute (text : List Char) : Bool :=
  text.length = 5 && text[2]? = some ':' &&
    match fixedDigits? 2 (text.take 2), fixedDigits? 2 (text.drop 3) with
    | some hour, some minute => hour < 24 && minute < 60
    | _, _ => false

/-- Whether a text is a time; seconds may be left out. -/
def isTime (text : List Char) : Bool :=
  isHourMinute (text.take 5) &&
    match text.drop 5 with
    | [] => true
    | ':' :: a :: b :: rest =>
        (match fixedDigits? 2 [a, b] with
          | some second => second ≤ 60
          | none => false) &&
        (match rest with
          | [] => true
          | '.' :: digits => !digits.isEmpty && digits.all Char.isDigit
          | _ => false)
    | _ => false

/-- Whether a text is a time with or without an offset. -/
def isOffsetTime (text : List Char) : Bool :=
  isTime text ||
    (match text.getLast? with
      | some 'Z' => isTime text.dropLast
      | some 'z' => isTime text.dropLast
      | _ => false) ||
    (let cut := text.length - 6
     6 < text.length && (text[cut]? = some '+' || text[cut]? = some '-') &&
      isHourMinute (text.drop (cut + 1)) && isTime (text.take cut))

/-- Whether a text is a date, a time or both. -/
def isMoment (text : List Char) : Bool :=
  isDate text || isTime text ||
    (isDate (text.take 10) &&
      (match text.drop 10 with
        | 'T' :: time => isOffsetTime time
        | 't' :: time => isOffsetTime time
        | ' ' :: time => isOffsetTime time
        | _ => false))

/-! ## Words -/

/-- The value of a word without quotes. -/
def scalar? (text : List Char) : Option Document :=
  if text = "true".toList then some (.boolean true)
  else if text = "false".toList then some (.boolean false)
  else if isMoment text then some (.moment (String.ofList text))
  else
    match text with
    | '+' :: rest => signed? false rest
    | '-' :: rest => signed? true rest
    | '0' :: 'x' :: rest => basedInteger? 16 rest
    | '0' :: 'o' :: rest => basedInteger? 8 rest
    | '0' :: 'b' :: rest => basedInteger? 2 rest
    | _ => signed? false text

/-- Whether a character may stand in a word without quotes. -/
def inWord (c : Char) : Bool := c.isAlphanum || c = '_' || c = '-' || c = '+' || c = '.' || c = ':'

/-- A word without quotes, and the text after it. A date may be followed by a blank and a time. -/
def readWord (text : List Char) : List Char × List Char :=
  let word := text.takeWhile inWord
  let rest := text.dropWhile inWord
  match rest with
  | ' ' :: next :: more =>
      if isDate word && next.isDigit then
        (word ++ ' ' :: (next :: more).takeWhile inWord, (next :: more).dropWhile inWord)
      else
        (word, rest)
  | _ => (word, rest)

end Toml
end MazeAgent
