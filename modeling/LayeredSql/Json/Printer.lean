import LayeredSql.Json.Basic
import LayeredSql.Decimal.Style

namespace LayeredSql.Json

/-- Quotes, backslashes and controls are escaped, nothing else. -/
def escaped (c : Char) : List Char :=
  if c = '\x22' then ['\\', '\x22']
  else if c = '\\' then ['\\', '\\']
  else if c = '\x08' then ['\\', 'b']
  else if c = '\x0c' then ['\\', 'f']
  else if c = '\n' then ['\\', 'n']
  else if c = '\r' then ['\\', 'r']
  else if c = '\t' then ['\\', 't']
  else if c.toNat < 0x20 then
    ['\\', 'u', '0', '0', Nat.digitChar (c.toNat / 16), Nat.digitChar (c.toNat % 16)]
  else [c]

def stringText (s : String) : String :=
  String.ofList ('\x22' :: (s.toList.flatMap escaped ++ ['\x22']))

/-- A float that is no number is written as null. -/
def floatText (x : Float) : String :=
  if x.isFinite then Decimal.Style.json.text x else "null"

def scalarText : Json → String
  | .null => "null"
  | .bool b => if b then "true" else "false"
  | .int n => toString n
  | .float x => floatText x
  | .string s => stringText s
  | .array _ => "[]"
  | .object _ => "\x7b\x7d"

mutual

def compact : Json → String
  | .array items => "[" ++ compactItems items ++ "]"
  | .object members => "\x7b" ++ compactMembers members ++ "\x7d"
  | scalar => scalarText scalar

def compactItems : List Json → String
  | [] => ""
  | [v] => v.compact
  | v :: vs => v.compact ++ "," ++ compactItems vs

def compactMembers : List (String × Json) → String
  | [] => ""
  | [(k, v)] => stringText k ++ ":" ++ v.compact
  | (k, v) :: ms => stringText k ++ ":" ++ v.compact ++ "," ++ compactMembers ms

end

def indent (level : Nat) : String :=
  "\n" ++ String.ofList (List.replicate (2 * level) ' ')

mutual

/-- Each item on a line of its own, two blanks deeper than what holds it. -/
def indentedAt (level : Nat) : Json → String
  | .array (v :: vs) =>
    "[" ++ indent (level + 1) ++ v.indentedAt (level + 1) ++ indentedItems level vs
      ++ indent level ++ "]"
  | .object ((k, v) :: ms) =>
    "\x7b" ++ indent (level + 1) ++ stringText k ++ ": " ++ v.indentedAt (level + 1)
      ++ indentedMembers level ms ++ indent level ++ "\x7d"
  | other => scalarText other

def indentedItems (level : Nat) : List Json → String
  | [] => ""
  | v :: vs => "," ++ indent (level + 1) ++ v.indentedAt (level + 1) ++ indentedItems level vs

def indentedMembers (level : Nat) : List (String × Json) → String
  | [] => ""
  | (k, v) :: ms =>
    "," ++ indent (level + 1) ++ stringText k ++ ": " ++ v.indentedAt (level + 1)
      ++ indentedMembers level ms

end

def indented (v : Json) : String :=
  v.indentedAt 0

end LayeredSql.Json
