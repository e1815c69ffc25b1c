import MazeAgent.Document.Json

/-!
# RON text

The notation of scenarios: records with optional names, choices as bare words, optional values
with an explicit `Some`, comments, trailing commas, and attributes that relax some rules.

**Results.**
* `Ron.read`: the value of a text, with the attributes that it starts with.
* `Ron.Value.field?` and the decoders of numbers, words, optional values and lists.
-/

namespace MazeAgent
namespace Ron

/-- A value as it is written. A name may stand before a tuple or a record. -/
inductive Value where
  | word (name : String)
  | integer (value : Int)
  | real
  | character (value : Char)
  | text (value : String)
  | bytes
  | list (items : List Value)
  | tuple (name : Option String) (items : List Value)
  | record (name : Option String) (fields : List (String × Value))
  | table (entries : List (Value × Value))
  deriving Inhabited

/-- The attributes of a text. -/
structure Attributes where
  /-- A value may stand for itself where an optional one is expected. -/
  implicitSome : Bool := false
  /-- Records have to be named. -/
  explicitNames : Bool := false
  /-- The fields of an optional record follow `Some` at once. -/
  flatSome : Bool := false

/-! ## Blanks and comments -/

def isBlank (c : Char) : Bool :=
  [' ', '\t', '\n', '\r', '\x0b', '\x0c', '\u0085', '\u200e', '\u200f', '\u2028',
    '\u2029'].contains c

/-- What the text before a position has opened. -/
inductive Inside where
  | nothing
  | lineComment
  | blockComment (depth : Nat)

/-- The text after blanks and comments; none when a comment is left open or is no comment. -/
def skipBlanks? : Inside → List Char → Option (List Char)
  | .nothing, '/' :: '/' :: rest => skipBlanks? .lineComment rest
  | .nothing, '/' :: '*' :: rest => skipBlanks? (.blockComment 0) rest
  | .nothing, '/' :: _ => none
  | .nothing, c :: rest => if isBlank c then skipBlanks? .nothing rest else some (c :: rest)
  | .nothing, [] => some []
  | .lineComment, c :: rest => skipBlanks? (if c = '\n' then .nothing else .lineComment) rest
  | .lineComment, [] => some []
  | .blockComment depth, '/' :: '*' :: rest => skipBlanks? (.blockComment (depth + 1)) rest
  | .blockComment depth, '*' :: '/' :: rest =>
      skipBlanks? (if depth = 0 then .nothing else .blockComment (depth - 1)) rest
  | .blockComment depth, _ :: rest => skipBlanks? (.blockComment depth) rest
  | .blockComment _, [] => none

def skip? (text : List Char) : Option (List Char) := skipBlanks? .nothing text

/-! ## Words -/

/-- Whether a character beyond the first 128 may stand in a word. -/
def isForeignLetter (c : Char) : Bool :=
  0xc0 ≤ c.toNat && c != '×' && c != '÷' && !(0x2000 ≤ c.toNat && c.toNat < 0x2070) &&
    !(0x3000 ≤ c.toNat && c.toNat < 0x3005)

/-- Whether a word may start with a character. -/
def startsWord (c : Char) : Bool := c.isAlpha || c = '_' || isForeignLetter c

/-- Whether a word may go on with a character. -/
def inWord (c : Char) : Bool := startsWord c || c.isDigit

/-- Whether a word marked as raw may have a character. -/
def inRawWord (c : Char) : Bool := inWord c || c = '.' || c = '+' || c = '-'

/-- Whether a text starts with a quoted literal that has a letter before the quote. -/
def startsLiteral : List Char → Bool
  | 'r' :: '"' :: _ => true
  | 'r' :: '#' :: '"' :: _ => true
  | 'r' :: '#' :: '#' :: _ => true
  | 'b' :: '"' :: _ => true
  | 'b' :: '\'' :: _ => true
  | 'b' :: 'r' :: '"' :: _ => true
  | 'b' :: 'r' :: '#' :: _ => true
  | _ => false

/-- A word, and the text after it. -/
def readWord? (text : List Char) : Option (String × List Char) :=
  if startsLiteral text then
    none
  else
    match text with
    | 'r' :: '#' :: rest =>
        let word := rest.takeWhile inRawWord
        if word.isEmpty then none else some (String.ofList word, rest.dropWhile inRawWord)
    | c :: _ =>
        let word := text.takeWhile inWord
        if startsWord c && word.length == (text.takeWhile inRawWord).length then
          some (String.ofList word, text.dropWhile inWord)
        else
          none
    | [] => none

/-! ## Strings -/

/-- The byte of two hexadecimal digits, and the text after them. -/
def readByte? : List Char → Option (UInt8 × List Char)
  | a :: b :: rest => do
      return (((← Json.hexDigit? a) * 16 + (← Json.hexDigit? b)).toUInt8, rest)
  | _ => none

/-- The character of some bytes, which are its whole UTF-8 form. -/
def charOfBytes? (bytes : List UInt8) : Option Char :=
  match (String.fromUTF8? ⟨bytes.toArray⟩).map String.toList with
  | some [c] => some c
  | _ => none

/-- The character of up to `count` more escaped bytes that follow the given ones. -/
def readBytes? : (count : Nat) → (bytes : List UInt8) → List Char → Option (Char × List Char)
  | 0, _, _ => none
  | count + 1, bytes, text =>
      match charOfBytes? bytes, text with
      | some c, _ => some (c, text)
      | none, '\\' :: 'x' :: rest =>
          match readByte? rest with
          | some (byte, rest) => readBytes? count (bytes ++ [byte]) rest
          | none => none
      | none, _ => none

/-- The character of an escape after its backslash, and the text after it. A character literal
cannot build its character from several bytes. -/
def readEscape? (single : Bool) : List Char → Option (Char × List Char)
  | '\'' :: rest => some ('\'', rest)
  | '"' :: rest => some ('"', rest)
  | '\\' :: rest => some ('\\', rest)
  | 'n' :: rest => some ('\n', rest)
  | 'r' :: rest => some ('\r', rest)
  | 't' :: rest => some ('\t', rest)
  | '0' :: rest => some (Char.ofNat 0, rest)
  | 'x' :: rest =>
      match readByte? rest with
      | some (byte, rest) => readBytes? (if single then 1 else 4) [byte] rest
      | none => none
  | 'u' :: '{' :: rest =>
      let digits := rest.takeWhile (· != '}')
      match rest.dropWhile (· != '}') with
      | '}' :: after =>
          if digits.isEmpty || 6 < digits.length then
            none
          else
            let code? := digits.foldlM (fun n c => (Json.hexDigit? c).map (fun d => n * 16 + d)) 0
            (code?.bind Json.scalar?).map (fun c => (c, after))
      | _ => none
  | _ => none

/-- A string after its first quote, and the text after it. -/
def readString? : (fuel : Nat) → (done : List Char) → List Char → Option (String × List Char)
  | 0, _, _ => none
  | _ + 1, _, [] => none
  | _ + 1, done, '"' :: rest => some (String.ofList done.reverse, rest)
  | fuel + 1, done, '\\' :: rest =>
      match readEscape? false rest with
      | some (c, rest) => readString? fuel (c :: done) rest
      | none => none
  | fuel + 1, done, c :: rest => readString? fuel (c :: done) rest

/-- The rest of a raw string that ends in the given characters, and the text after it. -/
def readUntil? (ending : List Char) :
    (done : List Char) → List Char → Option (String × List Char)
  | _, [] => none
  | done, c :: rest =>
      if ending.isPrefixOf (c :: rest) then
        some (String.ofList done.reverse, (c :: rest).drop ending.length)
      else
        readUntil? ending (c :: done) rest

/-- A raw string after its letter, and the text after it. -/
def readRaw? (text : List Char) : Option (String × List Char) :=
  let hashes := text.takeWhile (· = '#')
  match text.dropWhile (· = '#') with
  | '"' :: rest => readUntil? ('"' :: hashes) [] rest
  | _ => none

/-! ## Numbers -/

/-- The digits of an integer in a base; they may be grouped by underscores after the first. -/
def ofDigits? (base : Nat) (digits : List Char) : Option Nat :=
  if digits.isEmpty || digits.head? == some '_' then
    none
  else
    (digits.filter (· != '_')).foldlM (fun n c =>
      match Json.hexDigit? c with
      | some d => if d < base then some (n * base + d) else none
      | none => none) 0

/-- Whether an integer may have a suffix, which says signed or not and how many bits; without a
suffix 64 bits have to hold the integer. -/
def allowsSuffix (suffix : List Char) (n : Int) : Bool :=
  let word := String.ofList suffix
  if suffix.isEmpty then
    Word.isSigned 64 n || Word.isUnsigned 64 n
  else
    [8, 16, 32, 64].any (fun bits =>
      (word == s!"u{bits}" && Word.isUnsigned bits n) ||
        (word == s!"i{bits}" && Word.isSigned bits n))

/-- Whether a character may stand in an integer. -/
def inInteger (c : Char) : Bool := c = '_' || (Json.hexDigit? c).isSome

/-- Whether a character may stand in a real number. -/
def inReal (c : Char) : Bool :=
  c.isDigit || c = '_' || c = '.' || c = 'e' || c = 'E' || c = '+' || c = '-'

/-- The base of an integer, and the text after the mark of the base. -/
def readBase : List Char → Nat × List Char
  | '0' :: 'b' :: rest => (2, rest)
  | '0' :: 'o' :: rest => (8, rest)
  | '0' :: 'x' :: rest => (16, rest)
  | text => (10, text)

/-- An integer after its sign, and the text after it. -/
def readInteger? (negative : Bool) (text : List Char) : Option (Value × List Char) :=
  let (base, body) := readBase text
  let rest := body.dropWhile inInteger
  match ofDigits? base (body.takeWhile inInteger) with
  | none => none
  | some size =>
      let value : Int := if negative then -size else size
      let suffix := rest.takeWhile inWord
      if allowsSuffix suffix value then
        some (.integer value, rest.dropWhile inWord)
      else
        none

/-- Whether a text is the digits of a real number with its point and its exponent. -/
def isReal (text : List Char) : Bool :=
  let whole := text.takeWhile Char.isDigit
  let rest := text.dropWhile Char.isDigit
  let (fraction, rest) :=
    match rest with
    | '.' :: more => (more.takeWhile Char.isDigit, more.dropWhile Char.isDigit)
    | _ => ([], rest)
  !(whole.isEmpty && fraction.isEmpty) &&
    match rest with
    | [] => true
    | mark :: more =>
        let digits :=
          match more with
          | '-' :: more => more
          | '+' :: more => more
          | _ => more
        (mark = 'e' || mark = 'E') && !digits.isEmpty && digits.all Char.isDigit

/-- A real number after its sign, and the text after it. -/
def readReal? (text : List Char) : Option (Value × List Char) :=
  let real := text.takeWhile inReal
  let rest := text.dropWhile inReal
  let suffix := String.ofList (rest.takeWhile inWord)
  if real.head? != some '_' && isReal (real.filter (· != '_')) then
    some (.real, if suffix == "f32" || suffix == "f64" then rest.dropWhile inWord else rest)
  else
    none

/-- Whether a word is a number without digits. -/
def isRealWord (word : String) : Bool :=
  ["inf", "inff32", "inff64", "NaN", "NaNf32", "NaNf64"].contains word

/-- A number, and the text after it. What is too large for an integer, or has an exponent, is a
real number. -/
def readNumber? (text : List Char) : Option (Value × List Char) :=
  let (negative, body) :=
    match text with
    | '-' :: rest => (true, rest)
    | '+' :: rest => (false, rest)
    | _ => (false, text)
  if isRealWord (String.ofList (body.takeWhile inWord)) then
    some (.real, body.dropWhile inWord)
  else if (body.takeWhile inInteger).length < (body.takeWhile inReal).length then
    readReal? body
  else
    (readInteger? negative body).or (readReal? body)

/-! ## Values -/

/-- The text after a comma, if there is one, and whether there was one. -/
def readComma? (text : List Char) : Option (Bool × List Char) :=
  match skip? text with
  | some (',' :: rest) => (skip? rest).map (fun rest => (true, rest))
  | some rest => some (false, rest)
  | none => none

/-- Whether the text after an opening parenthesis starts with a field. -/
def startsField (text : List Char) : Bool :=
  match (skip? text).bind readWord? with
  | some (_, rest) =>
      match skip? rest with
      | some (':' :: _) => true
      | _ => false
  | none => false

/-- A value without parts, and the text after it. -/
def readPlain? : List Char → Option (Value × List Char)
  | '"' :: rest => (readString? (rest.length + 1) [] rest).map (fun (s, rest) => (.text s, rest))
  | 'r' :: rest => (readRaw? rest).map (fun (s, rest) => (.text s, rest))
  | 'b' :: '"' :: rest =>
      (readString? (rest.length + 1) [] rest).map (fun (_, rest) => (.bytes, rest))
  | 'b' :: 'r' :: rest => (readRaw? rest).map (fun (_, rest) => (.bytes, rest))
  | 'b' :: '\'' :: '\\' :: rest =>
      match readEscape? true rest with
      | some (c, '\'' :: rest) => some (.integer c.toNat, rest)
      | _ => none
  | 'b' :: '\'' :: c :: '\'' :: rest =>
      if c.toNat < 128 then some (.integer c.toNat, rest) else none
  | '\'' :: '\\' :: rest =>
      match readEscape? true rest with
      | some (c, '\'' :: rest) => some (.character c, rest)
      | _ => none
  | '\'' :: c :: '\'' :: rest => some (.character c, rest)
  | text => readNumber? text

mutual

/-- A value, and the text after it. `depth` bounds the nesting and `fuel` the parts read. -/
def readValue? : (fuel depth : Nat) → List Char → Option (Value × List Char)
  | 0, _, _ => none
  | fuel + 1, depth, text =>
      match readWord? text with
      | some (name, rest) =>
          match skip? rest with
          | some ('(' :: inner) => readBody? fuel depth (some name) inner
          | _ => some (.word name, rest)
      | none =>
          match text with
          | '(' :: inner => readBody? fuel depth none inner
          | '[' :: inner =>
              match depth with
              | 0 => none
              | depth + 1 =>
                  (readItems? fuel depth ']' true [] inner).map
                    (fun (items, rest) => (.list items, rest))
          | '{' :: inner =>
              match depth with
              | 0 => none
              | depth + 1 =>
                  (readEntries? fuel depth true [] inner).map
                    (fun (entries, rest) => (.table entries, rest))
          | _ => readPlain? text

/-- The inside of parentheses, and the text after them. -/
def readBody? : (fuel depth : Nat) → Option String → List Char → Option (Value × List Char)
  | 0, _, _, _ => none
  | _ + 1, 0, _, _ => none
  | fuel + 1, depth + 1, name, text =>
      if startsField text then
        (readFields? fuel depth true [] text).map
          (fun (fields, rest) => (.record name fields, rest))
      else
        (readItems? fuel (if name = some "Some" then depth + 1 else depth) ')' true [] text).map
          (fun (items, rest) => (.tuple name items, rest))

/-- The items up to a closing bracket, and the text after it. `mayGoOn` says whether an item may
come next. -/
def readItems? : (fuel depth : Nat) → Char → (mayGoOn : Bool) → (done : List Value) →
    List Char → Option (List Value × List Char)
  | 0, _, _, _, _, _ => none
  | fuel + 1, depth, close, mayGoOn, done, text =>
      match skip? text with
      | some (c :: rest) =>
          if c = close then
            some (done.reverse, rest)
          else if !mayGoOn ∨ depth = 0 then
            none
          else
            match readValue? fuel (depth - 1) (c :: rest) with
            | some (value, rest) =>
                match readComma? rest with
                | some (comma, rest) => readItems? fuel depth close comma (value :: done) rest
                | none => none
            | none => none
      | _ => none

/-- The fields up to a closing parenthesis, and the text after it. -/
def readFields? : (fuel depth : Nat) → (mayGoOn : Bool) → (done : List (String × Value)) →
    List Char → Option (List (String × Value) × List Char)
  | 0, _, _, _, _ => none
  | fuel + 1, depth, mayGoOn, done, text =>
      match skip? text with
      | some (')' :: rest) => some (done.reverse, rest)
      | some text =>
          if !mayGoOn ∨ depth = 0 then
            none
          else
            match readWord? text with
            | none => none
            | some (name, rest) =>
                match skip? rest with
                | some (':' :: rest) =>
                    match (skip? rest).bind (readValue? fuel (depth - 1)) with
                    | some (value, rest) =>
                        match readComma? rest with
                        | some (comma, rest) =>
                            readFields? fuel depth comma ((name, value) :: done) rest
                        | none => none
                    | none => none
                | _ => none
      | none => none

/-- The entries up to a closing brace, and the text after it. -/
def readEntries? : (fuel depth : Nat) → (mayGoOn : Bool) → (done : List (Value × Value)) →
    List Char → Option (List (Value × Value) × List Char)
  | 0, _, _, _, _ => none
  | fuel + 1, depth, mayGoOn, done, text =>
      match skip? text with
      | some ('}' :: rest) => some (done.reverse, rest)
      | some text =>
          if !mayGoOn ∨ depth = 0 then
            none
          else
            match readValue? fuel (depth - 1) text with
            | none => none
            | some (key, rest) =>
                match skip? rest with
                | some (':' :: rest) =>
                    match (skip? rest).bind (readValue? fuel (depth - 1)) with
                    | some (value, rest) =>
                        match readComma? rest with
                        | some (comma, rest) =>
                            readEntries? fuel depth comma ((key, value) :: done) rest
                        | none => none
                    | none => none
                | _ => none
      | none => none

end

/-! ## Attributes -/

/-- The attributes with the one of a name added. -/
def Attributes.enable? (attributes : Attributes) : String → Option Attributes
  | "implicit_some" => some { attributes with implicitSome := true }
  | "explicit_struct_names" => some { attributes with explicitNames := true }
  | "unwrap_variant_newtypes" => some { attributes with flatSome := true }
  | "unwrap_newtypes" => some attributes
  | _ => none

/-- The text after some tokens with blanks between them. -/
def expect? : List String → List Char → Option (List Char)
  | [], text => some text
  | token :: tokens, text =>
      match skip? text with
      | some text =>
          if token.toList.isPrefixOf text then expect? tokens (text.drop token.length) else none
      | none => none

/-- The names of an attribute up to the closing parenthesis. -/
def readNames? : (fuel : Nat) → Attributes → List Char → Option (Attributes × List Char)
  | 0, _, _ => none
  | fuel + 1, attributes, text =>
      match (skip? text).bind readWord? with
      | none => none
      | some (name, rest) =>
          match attributes.enable? name, readComma? rest with
          | some attributes, some (comma, rest) =>
              if comma && (rest.head?.map startsWord).getD false then
                readNames? fuel attributes rest
              else
                some (attributes, rest)
          | _, _ => none

/-- The attributes that a text starts with, and the text after them. -/
def readAttributes? : (fuel : Nat) → Attributes → List Char → Option (Attributes × List Char)
  | 0, _, _ => none
  | fuel + 1, attributes, text =>
      match skip? text with
      | some ('#' :: rest) =>
          match (expect? ["!", "[", "enable", "("] rest).bind (readNames? fuel attributes) with
          | some (attributes, rest) =>
              match expect? [")", "]"] rest with
              | some rest => readAttributes? fuel attributes rest
              | none => none
          | none => none
      | some rest => some (attributes, rest)
      | none => none

/-- The greatest nesting of values; every pair of brackets counts for itself and for what is
inside. -/
def depthLimit : Nat := 128

/-- The value of a text, with its attributes. -/
def read (text : String) : Option (Attributes × Value) :=
  let chars := text.toList
  match readAttributes? (chars.length + 1) {} chars with
  | none => none
  | some (attributes, rest) =>
      match readValue? (3 * rest.length + 3) depthLimit rest with
      | some (value, rest) => if skip? rest = some [] then some (attributes, value) else none
      | none => none

/-! ## Decoding -/

namespace Value

def unsigned? (bits : Nat) : Value → Option Nat
  | integer value => if Word.isUnsigned bits value then some value.toNat else none
  | _ => none

def uint8? (value : Value) : Option UInt8 := (value.unsigned? 8).map Nat.toUInt8

def uint32? (value : Value) : Option UInt32 := (value.unsigned? 32).map Nat.toUInt32

def uint64? (value : Value) : Option UInt64 := (value.unsigned? 64).map Nat.toUInt64

def int32? : Value → Option Int32
  | integer value => if Word.isSigned 32 value then some (Int32.ofInt value) else none
  | _ => none

def text? : Value → Option String
  | text value => some value
  | _ => none

def word? {α : Type} (all : List α) (name : α → String) : Value → Option α
  | word given => all.find? (fun value => name value == given)
  | _ => none

def boolean? (value : Value) : Option Bool :=
  value.word? [true, false] (fun b => if b then "true" else "false")

def list? {α : Type} (decode : Value → Option α) : Value → Option (List α)
  | list items => items.mapM decode
  | _ => none

/-- Whether a value is written in parentheses without a name. -/
def isBareBody : Value → Bool
  | tuple none _ => true
  | record none _ => true
  | _ => false

def optional? {α : Type} (attributes : Attributes) (decode : Value → Option α) :
    Value → Option (Option α)
  | word "None" => some none
  | tuple (some "Some") [value] =>
      if attributes.flatSome && value.isBareBody then none else (decode value).map some
  | record (some "Some") fields =>
      if attributes.flatSome then (decode (record none fields)).map some else none
  | value => if attributes.implicitSome then (decode value).map some else none

/-- The fields of a record whose name, if given, is the right one, in the order asked for. No
field may be given twice; fields that are not asked for are ignored. -/
def record? (attributes : Attributes) (name : String) (names : List String) :
    Value → Option (List (Option Value))
  | record given fields =>
      if given = some name ∨ (given = none ∧ !attributes.explicitNames) then
        if names.any (fun field => 1 < fields.countP (fun entry => entry.1 == field)) then
          none
        else
          some (names.map (fun field => fields.lookup field))
      else
        none
  | _ => none

end Value
end Ron
end MazeAgent
