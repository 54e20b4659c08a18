import AsyncClose.Text.Invisible
import AsyncClose.Text.Unassigned

/-!
The text of a structured value: words, tuples with a name before the parentheses, and records
with named fields between braces. A shape is written flat, on one line, or tall, with every
part on a line of its own.

Text among the words is quoted: between double quotes, with the characters that would end or break
the quotation, and those that a reader would not see in it, written as escapes.
-/

namespace AsyncClose.Text

/-- The outline of a structured value. A record may end in dots for fields it does not show. -/
inductive Shape where
  | word (text : String)
  | tuple (name : String) (parts : List Shape)
  | record (name : String) (fields : List (String × Shape))
  | partialRecord (name : String) (fields : List (String × Shape))

namespace Shape

def braced (items : List String) : String :=
  " \x7b " ++ ", ".intercalate items ++ " \x7d"

mutual

def flat : Shape → String
  | word s => s
  | tuple name parts => name ++ "(" ++ ", ".intercalate (flatParts parts) ++ ")"
  | record name fields => name ++ braced (flatFields fields)
  | partialRecord name fields => name ++ braced (flatFields fields ++ [".."])

def flatParts : List Shape → List String
  | [] => []
  | x :: rest => flat x :: flatParts rest

def flatFields : List (String × Shape) → List String
  | [] => []
  | (field, x) :: rest => (field ++ ": " ++ flat x) :: flatFields rest

end

/-- A line break followed by four blanks for every level of depth. -/
def newline (depth : Nat) : String := "\n" ++ String.ofList (List.replicate (4 * depth) ' ')

mutual

/-- The shape on several lines, the parts one level deeper than the name. -/
def tall (depth : Nat) : Shape → String
  | word s => s
  | tuple name parts =>
    name ++ "(" ++ String.join (tallParts (depth + 1) parts) ++ newline depth ++ ")"
  | record name fields =>
    name ++ " \x7b" ++ String.join (tallFields (depth + 1) fields) ++ newline depth ++ "\x7d"
  | partialRecord name fields =>
    name ++ " \x7b" ++ String.join (tallFields (depth + 1) fields) ++ newline (depth + 1) ++ ".."
      ++ newline depth ++ "\x7d"

def tallParts (depth : Nat) : List Shape → List String
  | [] => []
  | x :: rest => (newline depth ++ tall depth x ++ ",") :: tallParts depth rest

def tallFields (depth : Nat) : List (String × Shape) → List String
  | [] => []
  | (field, x) :: rest =>
    (newline depth ++ field ++ ": " ++ tall depth x ++ ",") :: tallFields depth rest

end

def text (pretty : Bool) (x : Shape) : String := if pretty then x.tall 0 else x.flat

end Shape

/-! ### Quoted text -/

/-- The two halfwidth sound marks. They extend the kana before them, but stand beside it in a
cell of their own. -/
def isSoundMark (c : Char) : Bool := c.toNat = 0xff9e || c.toNat = 0xff9f

def isVisible (c : Char) : Bool :=
  !isInvisible c && !isUnassigned c && (!isExtending c || isSoundMark c)

/-- How one character is written inside a quotation: a quote and a backslash behind a backslash,
common controls by a letter, and whatever is not visible by the hexadecimal digits of its code
point. -/
def escape (c : Char) : List Char :=
  if c = '"' then ['\\', '"']
  else if c = '\\' then ['\\', '\\']
  else if c = '\n' then ['\\', 'n']
  else if c = '\t' then ['\\', 't']
  else if c = '\r' then ['\\', 'r']
  else if c.toNat = 0 then ['\\', '0']
  else if isVisible c then [c]
  else ['\\', 'u', '\x7b'] ++ Nat.toDigits 16 c.toNat ++ ['\x7d']

def quoted (s : String) : String :=
  String.ofList ('"' :: (s.toList.flatMap escape ++ ['"']))

end AsyncClose.Text
