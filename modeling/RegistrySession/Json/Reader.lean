import RegistrySession.Json.Literal
import RegistrySession.Json.Tree

/-!
# Reading JSON text

Takes a text apart into its tree. Every function here returns what it read together with the rest
of the text, or without a rest where reading cannot go on.
-/

namespace RegistrySession.Json.Reader

def isSpace (c : Char) : Bool :=
  c = ' ' || c = '\n' || c = '\t' || c = '\r'

def skipSpace (input : List Char) : List Char :=
  input.dropWhile isSpace

/-! ## Texts -/

def hexValue? (c : Char) : Option Nat :=
  if '0' ≤ c ∧ c ≤ '9' then some (c.toNat - '0'.toNat)
  else if 'a' ≤ c ∧ c ≤ 'f' then some (c.toNat - 'a'.toNat + 10)
  else if 'A' ≤ c ∧ c ≤ 'F' then some (c.toNat - 'A'.toNat + 10)
  else none

def hexNumber? : List Char → Option Nat
  | [] => some 0
  | digits => digits.foldlM (fun total c => (hexValue? c).map (16 * total + ·)) 0

/-- The number of four hexadecimal digits. A text with less than four bytes left has ended too
early, whatever these bytes are. -/
def fourDigits (input : List Char) : Except Failure Nat :=
  let digits := input.take 4
  if (String.ofList digits).utf8ByteSize < 4 then .error .truncated
  else if digits.length < 4 then .error .malformed
  else match hexNumber? digits with
    | some value => .ok value
    | none => .error .malformed

/-- The character of an escape with a single letter. -/
def shortEscape? : Char → Option Char
  | '"' => some '"'
  | '\\' => some '\\'
  | '/' => some '/'
  | 'b' => some '\x08'
  | 'f' => some '\x0c'
  | 'n' => some '\n'
  | 'r' => some '\r'
  | 't' => some '\t'
  | _ => none

def isHighSurrogate (n : Nat) : Bool := 0xD800 ≤ n && n ≤ 0xDBFF

def isLowSurrogate (n : Nat) : Bool := 0xDC00 ≤ n && n ≤ 0xDFFF

/-- The character above U+FFFF that a pair of surrogates stands for. -/
def joinSurrogates (high low : Nat) : Char :=
  Char.ofNat (0x10000 + (high - 0xD800) * 0x400 + (low - 0xDC00))

/-- What follows a backslash: the character meant, and how many characters were taken. -/
def escaped : List Char → Except Failure (Char × Nat)
  | [] => .error .truncated
  | 'u' :: rest => do
    let first ← fourDigits rest
    if isLowSurrogate first then .error .malformed
    else if isHighSurrogate first then
      match rest.drop 4 with
      | [] => .error .truncated
      | ['\\'] => .error .truncated
      | '\\' :: 'u' :: more => do
        let second ← fourDigits more
        if isLowSurrogate second then .ok (joinSurrogates first second, 11)
        else .error .malformed
      | _ => .error .malformed
    else .ok (Char.ofNat first, 5)
  | c :: _ =>
    match shortEscape? c with
    | some meant => .ok (meant, 1)
    | none => .error .malformed

/-- The characters of a text up to its closing quote, after skipping those that belong to an
escape already taken. -/
def textChars : Nat → List Char → Except Failure (List Char)
  | _, [] => .error .truncated
  | skip + 1, _ :: rest => textChars skip rest
  | 0, '"' :: _ => .ok []
  | 0, '\\' :: rest => do
    let (c, taken) ← escaped rest
    let chars ← textChars taken rest
    return c :: chars
  | 0, c :: rest => do
    if c.toNat < 0x20 then .error .malformed
    let chars ← textChars 0 rest
    return c :: chars

def escapeLength : List Char → Except Failure Nat
  | [] => .error .truncated
  | 'u' :: rest => do
    let _ ← fourDigits rest
    return 5
  | c :: _ => if (shortEscape? c).isSome then .ok 1 else .error .malformed

/-- What comes after the closing quote of a text. -/
def afterText : Nat → List Char → Except Failure (List Char)
  | _, [] => .error .truncated
  | skip + 1, _ :: rest => afterText skip rest
  | 0, '"' :: rest => .ok rest
  | 0, '\\' :: rest => do
    let taken ← escapeLength rest
    afterText taken rest
  | 0, c :: rest => if c.toNat < 0x20 then .error .malformed else afterText 0 rest

/-- A text after its opening quote: the strict reading, and what passing over it finds. -/
def readText (input : List Char) : Except Failure String × Except Failure (List Char) :=
  ((textChars 0 input).map String.ofList, afterText 0 input)

/-! ## Numbers -/

def isDigit (c : Char) : Bool :=
  '0' ≤ c && c ≤ '9'

/-- The digits in front of a text, of which there has to be one. -/
def digits (input : List Char) : Except Failure (List Char × List Char) :=
  match input with
  | [] => .error .truncated
  | c :: _ =>
    if isDigit c then .ok (input.takeWhile isDigit, input.dropWhile isDigit)
    else .error .malformed

/-- The digits before the point; a zero in front stands alone. -/
def wholeDigits (input : List Char) : Except Failure (List Char × List Char) := do
  let (found, rest) ← digits input
  match found with
  | '0' :: _ :: _ => .error .malformed
  | _ => .ok (found, rest)

def fractionDigits (input : List Char) : Except Failure (List Char × List Char) :=
  match input with
  | '.' :: rest => digits rest
  | _ => .ok ([], input)

def decimalValue (digits : List Char) : Nat :=
  digits.foldl (fun total c => 10 * total + Literal.digitValue c) 0

def exponent (input : List Char) : Except Failure (Option Int × List Char) :=
  let read (negative : Bool) (rest : List Char) : Except Failure (Option Int × List Char) := do
    let (found, rest) ← digits rest
    let value : Int := decimalValue found
    return (some (if negative then -value else value), rest)
  match input with
  | 'e' :: rest | 'E' :: rest =>
    match rest with
    | '+' :: rest => read false rest
    | '-' :: rest => read true rest
    | _ => read false rest
  | _ => .ok (none, input)

def number (input : List Char) : Except Failure (Literal × List Char) := do
  let (negative, input) := match input with
    | '-' :: rest => (true, rest)
    | _ => (false, input)
  let (whole, input) ← wholeDigits input
  let (fraction, input) ← fractionDigits input
  let (exponent, input) ← exponent input
  return (.ofDigits negative whole fraction exponent, input)

/-! ## Values -/

/-- The rest of a text after a word. -/
def word : List Char → List Char → Except Failure (List Char)
  | [], input => .ok input
  | _ :: _, [] => .error .truncated
  | expected :: more, c :: rest => if c = expected then word more rest else .error .malformed

/-- A word value whose first letter is read already. -/
def wordValue (value : Tree) (letters : List Char) (input : List Char) :
    Tree × Option (List Char) :=
  match word letters input with
  | .ok rest => (value, some rest)
  | .error fault => (.broken fault fault, none)

/-- Passing over a number finds an early end of the text malformed. -/
def numberValue (input : List Char) : Tree × Option (List Char) :=
  match number input with
  | .ok (literal, rest) => (.number literal.number?, some rest)
  | .error fault => (.broken fault .malformed, none)

def textValue (input : List Char) : Tree × Option (List Char) :=
  match readText input with
  | (reading, .ok rest) => (.text reading none, some rest)
  | (reading, .error fault) => (.text reading (some fault), none)

mutual

/-- One value. The fuel bounds how far the reader goes into the text: each two units stand for
at least one character, so twice the length and two more are enough. -/
def value : Nat → List Char → Tree × Option (List Char)
  | 0, _ => (.broken .malformed .malformed, none)
  | fuel + 1, input =>
    match skipSpace input with
    | [] => (.absent, none)
    | 'n' :: rest => wordValue .null ['u', 'l', 'l'] rest
    | 't' :: rest => wordValue (.bool true) ['r', 'u', 'e'] rest
    | 'f' :: rest => wordValue (.bool false) ['a', 'l', 's', 'e'] rest
    | '"' :: rest => textValue rest
    | '[' :: rest =>
      match skipSpace rest with
      | ']' :: rest => (.array [] none, some rest)
      | rest =>
        let (found, fault, rest) := items fuel rest
        (.array found fault, rest)
    | '\x7b' :: rest =>
      match skipSpace rest with
      | '\x7d' :: rest => (.object [] none, some rest)
      | rest =>
        let (found, fault, rest) := members fuel rest
        (.object found fault, rest)
    | c :: rest =>
      if c = '-' ∨ isDigit c then numberValue (c :: rest)
      else (.broken .malformed .malformed, none)
termination_by structural fuel => fuel

/-- The items of an array from the next one on. -/
def items : Nat → List Char → List Tree × Option Failure × Option (List Char)
  | 0, _ => ([], some .malformed, none)
  | fuel + 1, input =>
    match value fuel input with
    | (item, none) => ([item], none, none)
    | (item, some rest) =>
      match skipSpace rest with
      | ',' :: rest =>
        let (more, fault, rest) := items fuel rest
        (item :: more, fault, rest)
      | ']' :: rest => ([item], none, some rest)
      | [] => ([item], some .truncated, none)
      | _ => ([item], some .malformed, none)
termination_by structural fuel => fuel

/-- The members of an object from the next one on. -/
def members : Nat → List Char → List (Name × Tree) × Option Failure × Option (List Char)
  | 0, _ => ([], some .malformed, none)
  | fuel + 1, input =>
    match skipSpace input with
    | [] => ([(.missing .truncated, .absent)], none, none)
    | '"' :: rest =>
      match readText rest with
      | (reading, .error fault) => ([(.text reading, .broken fault fault)], none, none)
      | (reading, .ok rest) =>
        match skipSpace rest with
        | [] => ([(.text reading, .absent)], none, none)
        | ':' :: rest =>
          match value fuel rest with
          | (found, none) => ([(.text reading, found)], none, none)
          | (found, some rest) =>
            match skipSpace rest with
            | ',' :: rest =>
              let (more, fault, rest) := members fuel rest
              ((.text reading, found) :: more, fault, rest)
            | '\x7d' :: rest => ([(.text reading, found)], none, some rest)
            | [] => ([(.text reading, found)], some .truncated, none)
            | _ => ([(.text reading, found)], some .malformed, none)
        | _ => ([(.text reading, .broken .malformed .malformed)], none, none)
    | _ => ([(.missing .malformed, .absent)], none, none)
termination_by structural fuel => fuel

end

end RegistrySession.Json.Reader

namespace RegistrySession.Json

/-- A whole text: its tree, and whether something other than blanks follows the value. -/
structure Document where
  root : Tree
  excess : Bool

def Document.read (input : String) : Document :=
  let chars := input.toList
  match Reader.value (2 * chars.length + 2) chars with
  | (root, none) => ⟨root, false⟩
  | (root, some rest) => ⟨root, !(Reader.skipSpace rest).isEmpty⟩

def maxDepth : Nat := 127

def parse (input : String) : Except Failure Json := do
  let document := Document.read input
  let value ← document.root.json maxDepth
  if document.excess then .error .malformed
  return value

end RegistrySession.Json
