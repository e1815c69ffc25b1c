import MazeAgent.Document.Toml.Scalar
import MazeAgent.Document.Toml.Tree

/-!
# Reading TOML text

A TOML text is a sequence of headers and of keys with values, one on a line.

**Results.**
* `Toml.read`: the document of a text.
-/

namespace MazeAgent
namespace Toml

/-- The greatest depth of lists and tables inside values. -/
def depthLimit : Nat := 80

/-- The text after blanks, line ends and comments; `comment` says whether it starts in a
comment. -/
def skipTrivia? (comment : Bool) : List Char → Option (List Char)
  | [] => some []
  | '\n' :: rest => skipTrivia? false rest
  | '\r' :: '\n' :: rest => skipTrivia? false rest
  | c :: rest =>
      if comment then
        if isControl c then none else skipTrivia? true rest
      else if isBlank c then
        skipTrivia? false rest
      else if c = '#' then
        skipTrivia? true rest
      else
        some (c :: rest)

/-- The text after the rest of a line on which only a comment may follow. -/
def endLine? (text : List Char) : Option (List Char) :=
  match text.dropWhile isBlank with
  | [] => some []
  | '\n' :: rest => some rest
  | '\r' :: '\n' :: rest => some rest
  | '#' :: rest => skipTrivia? true rest
  | _ => none

mutual

/-- A value, and the text after it; `depth` more levels may be opened. -/
def readValue? : (fuel depth : Nat) → List Char → Option (Document × List Char)
  | 0, _, _ => none
  | fuel + 1, depth, text =>
      match text with
      | '"' :: _ => (readString? text).map (fun (value, rest) => (.text value, rest))
      | '\'' :: _ => (readString? text).map (fun (value, rest) => (.text value, rest))
      | '[' :: rest =>
          match depth with
          | 0 => none
          | depth + 1 =>
              match readItems? fuel depth rest with
              | some (items, rest) => some (.list items, rest)
              | none => none
      | '{' :: rest =>
          match depth with
          | 0 => none
          | depth + 1 =>
              match readFields? fuel depth [] rest with
              | some (fields, rest) => some (.table (documentOfFields fields), rest)
              | none => none
      | _ =>
          let (word, rest) := readWord text
          (scalar? word).map (fun value => (value, rest))

/-- The items of a list from the next one on, and the text after the closing bracket. -/
def readItems? : (fuel depth : Nat) → List Char → Option (List Document × List Char)
  | 0, _, _ => none
  | fuel + 1, depth, text =>
      match skipTrivia? false text with
      | some (']' :: rest) => some ([], rest)
      | some text =>
          match readValue? fuel depth text with
          | none => none
          | some (item, rest) =>
              match skipTrivia? false rest with
              | some (']' :: rest) => some ([item], rest)
              | some (',' :: rest) =>
                  match readItems? fuel depth rest with
                  | some (items, rest) => some (item :: items, rest)
                  | none => none
              | _ => none
      | none => none

/-- The fields of a table in braces, added to those already read, and the text after the
closing brace. -/
def readFields? : (fuel depth : Nat) → Fields → List Char → Option (Fields × List Char)
  | 0, _, _, _ => none
  | fuel + 1, depth, fields, text =>
      match skipTrivia? false text with
      | some ('\x7d' :: rest) => some (fields, rest)
      | some text =>
          match readKeyPath? (text.length + 1) text with
          | some (path, '=' :: rest) =>
              match readValue? fuel depth (rest.dropWhile isBlank) with
              | none => none
              | some (value, rest) =>
                  match assign? value path fields with
                  | none => none
                  | some fields =>
                      match skipTrivia? false rest with
                      | some ('\x7d' :: rest) => some (fields, rest)
                      | some (',' :: rest) => readFields? fuel depth fields rest
                      | _ => none
          | _ => none
      | none => none

end

/-- The fields of a text from the next line on, where `path` names the current table. -/
def readLines? : (fuel : Nat) → (path : List String) → Fields → List Char → Option Fields
  | 0, _, _, _ => none
  | fuel + 1, path, fields, text =>
      match skipTrivia? false text with
      | none => none
      | some [] => some fields
      | some ('[' :: '[' :: rest) =>
          match readKeyPath? (rest.length + 1) rest with
          | some (path, ']' :: ']' :: rest) =>
              match append? path fields, endLine? rest with
              | some fields, some rest => readLines? fuel path fields rest
              | _, _ => none
          | _ => none
      | some ('[' :: rest) =>
          match readKeyPath? (rest.length + 1) rest with
          | some (path, ']' :: rest) =>
              match declare? path fields, endLine? rest with
              | some fields, some rest => readLines? fuel path fields rest
              | _, _ => none
          | _ => none
      | some text =>
          match readKeyPath? (text.length + 1) text with
          | some (keys, '=' :: rest) =>
              match readValue? (2 * rest.length + 2) depthLimit (rest.dropWhile isBlank) with
              | none => none
              | some (value, rest) =>
                  match within? path (assign? value keys) fields, endLine? rest with
                  | some fields, some rest => readLines? fuel path fields rest
                  | _, _ => none
          | _ => none

/-- The text without a byte order mark. -/
def dropMark : List Char → List Char
  | '\ufeff' :: rest => rest
  | text => text

def read (text : String) : Option Document :=
  let chars := dropMark text.toList
  (readLines? (chars.length + 1) [] [] chars).map (fun fields => .table (documentOfFields fields))

end Toml
end MazeAgent
