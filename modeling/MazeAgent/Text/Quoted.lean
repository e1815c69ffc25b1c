import MazeAgent.Text.Unseen

/-!
# Quoted characters

A character is shown between single quotes. Characters that would not show, would join with the
quote before them, or have a meaning inside quotes are written as escapes.

**Results.**
* `Text.quoteChar`: the quoted form of a character.
-/

namespace MazeAgent
namespace Text

/-- The escape of a character by its code point. -/
def codePointEscape (c : Char) : String :=
  "\\u\x7b" ++ String.ofList (Nat.toDigits 16 c.toNat) ++ "\x7d"

def escapeChar (c : Char) : String :=
  if c = '\x00' then "\\0"
  else if c = '\t' then "\\t"
  else if c = '\r' then "\\r"
  else if c = '\n' then "\\n"
  else if c = '\'' then "\\'"
  else if c = '\\' then "\\\\"
  else if isUnseen c then codePointEscape c
  else String.singleton c

def quoteChar (c : Char) : String := "'" ++ escapeChar c ++ "'"

end Text
end MazeAgent
