import TransferAudit.Json.Basic
import TransferAudit.Text.Hex

namespace TransferAudit.Json

def escape (c : Char) : List Char :=
  if c = '"' then ['\\', '"']
  else if c = '\\' then ['\\', '\\']
  else if c = '\n' then ['\\', 'n']
  else if c = '\r' then ['\\', 'r']
  else if c = '\t' then ['\\', 't']
  else if c = '\x08' then ['\\', 'b']
  else if c = '\x0c' then ['\\', 'f']
  else if c.toNat < 0x20 then
    ['\\', 'u', '0', '0', Text.Hex.digit (c.toNat / 16), Text.Hex.digit (c.toNat % 16)]
  else [c]

def quote (s : String) : List Char := '"' :: s.toList.flatMap escape ++ ['"']

def Number.chars : Number → List Char
  | .int i => (toString i).toList
  | .real x => x.text.toList

mutual

def chars : Json → List Char
  | .null => ['n', 'u', 'l', 'l']
  | .bool true => ['t', 'r', 'u', 'e']
  | .bool false => ['f', 'a', 'l', 's', 'e']
  | .number n => n.chars
  | .string s => quote s
  | .array xs => '[' :: elementChars xs
  | .object ms => '\x7b' :: memberChars ms

def elementChars : List Json → List Char
  | [] => [']']
  | [x] => chars x ++ [']']
  | x :: y :: xs => chars x ++ ',' :: elementChars (y :: xs)

def memberChars : List (String × Json) → List Char
  | [] => ['\x7d']
  | [(k, v)] => quote k ++ ':' :: chars v ++ ['\x7d']
  | (k, v) :: m :: ms => quote k ++ ':' :: chars v ++ ',' :: memberChars (m :: ms)

end

def text (j : Json) : String := String.ofList j.chars

end TransferAudit.Json
