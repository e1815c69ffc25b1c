import MazeAgent.Document.Toml.Scalar
import MazeAgent.Number.Shortest

/-!
# Writing TOML text

A table is written with its plain values first, one on a line; the tables inside it, and the
lists of tables, follow with headers of their own and a blank line before each.

**Results.**
* `Toml.write`: the text of a table.
-/

namespace MazeAgent
namespace Toml

/-- A real number with a decimal point and without an exponent. -/
def writeNumeral : Numeral → List Char
  | .decimal negative digits exponent =>
      (if negative then ['-'] else []) ++ Numeral.positional digits exponent
  | .infinity negative => (if negative then ['-'] else []) ++ ['i', 'n', 'f']
  | .notANumber _ => ['n', 'a', 'n']

def writeChar (c : Char) : List Char :=
  if c = '"' then ['\\', '"']
  else if c = '\\' then ['\\', '\\']
  else if c = '\n' then ['\\', 'n']
  else if c = '\t' then ['\\', 't']
  else if c = '\r' then ['\\', 'r']
  else if isControl c then
    ['\\', 'u', '0', '0', Json.hexChar (c.toNat / 16), Json.hexChar (c.toNat % 16)]
  else [c]

def writeString (text : String) : List Char :=
  '"' :: (text.toList.flatMap writeChar ++ ['"'])

/-- One part of a key. -/
def writeKey (key : String) : List Char :=
  if !key.isEmpty && key.toList.all isBare then key.toList else writeString key

/-- The parts of a key with dots between them. -/
def writePath (path : List String) : List Char :=
  ((path.map writeKey).intersperse ['.']).flatten

mutual

/-- A value on one line; what TOML has no word for is an empty string. -/
def writeInline : Document → List Char
  | .null => ['"', '"']
  | .boolean true => "true".toList
  | .boolean false => "false".toList
  | .integer value => (toString value).toList
  | .real value => writeNumeral value
  | .text value => writeString value
  | .moment value => value.toList
  | .list [] => ['[', ']']
  | .list (item :: items) => '[' :: (writeInline item ++ writeInlineItems items)
  | .table [] => ['\x7b', '\x7d']
  | .table ((name, value) :: fields) =>
      ['\x7b', ' '] ++ writeKey name ++ [' ', '=', ' '] ++ writeInline value ++
        writeInlineFields fields

/-- Further items and the closing bracket. -/
def writeInlineItems : List Document → List Char
  | [] => [']']
  | item :: items => [',', ' '] ++ writeInline item ++ writeInlineItems items

/-- Further fields and the closing brace. -/
def writeInlineFields : List (String × Document) → List Char
  | [] => [' ', '\x7d']
  | (name, value) :: fields =>
      [',', ' '] ++ writeKey name ++ [' ', '=', ' '] ++ writeInline value ++
        writeInlineFields fields

end

def isTable : Document → Bool
  | .table _ => true
  | _ => false

/-- Whether a document gets headers of its own. -/
def hasHeader : Document → Bool
  | .table _ => true
  | .list items => !items.isEmpty && items.all isTable
  | _ => false

/-- The lines of the plain values of a table. -/
def writePlain (fields : List (String × Document)) : List Char :=
  fields.flatMap (fun field =>
    if hasHeader field.2 then
      []
    else
      writeKey field.1 ++ [' ', '=', ' '] ++ writeInline field.2 ++ ['\n'])

mutual

/-- The sections of the tables inside a table, which the path names. -/
def writeSections (path : List String) : List (String × Document) → List Char
  | [] => []
  | (name, value) :: rest => writeSection (path ++ [name]) value ++ writeSections path rest

def writeSection (path : List String) : Document → List Char
  | .table fields =>
      ['\n', '['] ++ writePath path ++ [']', '\n'] ++ writePlain fields ++
        writeSections path fields
  | .list items => if hasHeader (.list items) then writeItems path items else []
  | _ => []

def writeItems (path : List String) : List Document → List Char
  | [] => []
  | .table fields :: rest =>
      ['\n', '[', '['] ++ writePath path ++ [']', ']', '\n'] ++ writePlain fields ++
        writeSections path fields ++ writeItems path rest
  | _ :: rest => writeItems path rest

end

def write (fields : List (String × Document)) : String :=
  let plain := writePlain fields
  let sections := writeSections [] fields
  String.ofList (if plain.isEmpty then sections.drop 1 else plain ++ sections)

end Toml
end MazeAgent
