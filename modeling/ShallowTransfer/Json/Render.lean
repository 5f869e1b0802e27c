import ShallowTransfer.Json.Basic

/-!
Writing JSON text: the compact form without blanks, where characters outside of ASCII stand for
themselves.
-/

namespace ShallowTransfer.Json

/-- A hexadecimal digit in lower case. -/
def hexChar (n : Nat) : Char :=
  if n < 10 then Char.ofNat ('0'.toNat + n) else Char.ofNat ('a'.toNat + n - 10)

/-- A character as it is written inside of a string. -/
def escapeChar (c : Char) : List Char :=
  if c = '"' then ['\\', '"']
  else if c = '\\' then ['\\', '\\']
  else if c = '\n' then ['\\', 'n']
  else if c = '\r' then ['\\', 'r']
  else if c = '\t' then ['\\', 't']
  else if c = Char.ofNat 8 then ['\\', 'b']
  else if c = Char.ofNat 12 then ['\\', 'f']
  else if c.toNat < 0x20 then
    ['\\', 'u', '0', '0', hexChar (c.toNat / 16), hexChar (c.toNat % 16)]
  else [c]

/-- A text as a JSON string. -/
def quote (s : String) : String :=
  String.ofList ('"' :: (s.toList.flatMap escapeChar ++ ['"']))

mutual

/-- The pieces of the compact text of a value. -/
def pieces : Json → List String
  | .bool true => ["true"]
  | .bool false => ["false"]
  | .int n => [toString n]
  | .str s => [quote s]
  | .arr items _ => "[" :: (itemPieces items ++ ["]"])
  | .obj members _ => "\x7b" :: (memberPieces members ++ ["\x7d"])
  | _ => ["null"]

/-- The pieces of items between commas. -/
def itemPieces : List Json → List String
  | [] => []
  | [j] => pieces j
  | j :: rest => pieces j ++ "," :: itemPieces rest

/-- The pieces of members between commas. -/
def memberPieces : List (Option String × Json) → List String
  | [] => []
  | [(k, j)] => quote (k.getD "") :: ":" :: pieces j
  | (k, j) :: rest => quote (k.getD "") :: ":" :: (pieces j ++ "," :: memberPieces rest)

end

/-- The compact text of a value. -/
def render (j : Json) : String :=
  String.join (pieces j)

end ShallowTransfer.Json
