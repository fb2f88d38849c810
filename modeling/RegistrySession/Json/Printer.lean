import RegistrySession.Json.Basic

/-!
# Writing JSON

The compact text of a value: no blanks, members in their order, and of all characters only the
quote, the backslash and those below U+0020 escaped.
-/

namespace RegistrySession.Json

def hexDigit (n : Nat) : Char :=
  Nat.digitChar (n % 16)

def escape (c : Char) : List Char :=
  if c = '"' then ['\\', '"']
  else if c = '\\' then ['\\', '\\']
  else if c = '\x08' then ['\\', 'b']
  else if c = '\x0c' then ['\\', 'f']
  else if c = '\n' then ['\\', 'n']
  else if c = '\r' then ['\\', 'r']
  else if c = '\t' then ['\\', 't']
  else if c.toNat < 0x20 then ['\\', 'u', '0', '0', hexDigit (c.toNat / 16), hexDigit c.toNat]
  else [c]

def quote (text : String) : List Char :=
  '"' :: text.toList.flatMap escape ++ ['"']

def Number.chars : Number → List Char
  | .whole (.ofNat n) _ => Nat.toDigits 10 n
  | .whole (.negSucc n) _ => '-' :: Nat.toDigits 10 (n + 1)
  | .real value => value.text

mutual

def chars : Json → List Char
  | .null => ['n', 'u', 'l', 'l']
  | .bool true => ['t', 'r', 'u', 'e']
  | .bool false => ['f', 'a', 'l', 's', 'e']
  | .number value => value.chars
  | .text value => quote value
  | .array [] => ['[', ']']
  | .array (item :: rest) => '[' :: (item.chars ++ itemChars rest)
  | .object [] => ['\x7b', '\x7d']
  | .object ((name, value) :: rest) =>
    '\x7b' :: (quote name ++ ':' :: (value.chars ++ memberChars rest))
termination_by structural value => value

/-- The items after the first, and the closing bracket. -/
def itemChars : List Json → List Char
  | [] => [']']
  | item :: rest => ',' :: (item.chars ++ itemChars rest)
termination_by structural items => items

/-- The members after the first, and the closing brace. -/
def memberChars : List (String × Json) → List Char
  | [] => ['\x7d']
  | (name, value) :: rest =>
    ',' :: (quote name ++ ':' :: (value.chars ++ memberChars rest))
termination_by structural members => members

end

def render (value : Json) : String :=
  String.ofList value.chars

end RegistrySession.Json
