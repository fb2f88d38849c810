import RegistrySession.Double
import RegistrySession.Toml.Document

/-!
# Reading TOML

A reader for version 1.0 of the format. It tells whether a text is a document and keeps of its
values what settings need: texts and integers.
-/

namespace RegistrySession.Toml

/-- Takes something off the front of a text, or fails. -/
abbrev Reader (α : Type) : Type := StateT (List Char) Option α

namespace Reader

def peek : Reader (Option Char) := fun input => some (input.head?, input)

def satisfy (test : Char → Bool) : Reader Char
  | c :: rest => if test c then some (c, rest) else none
  | [] => none

def char (c : Char) : Reader Unit := discard (satisfy (· = c))

def word (letters : List Char) : Reader Unit := letters.forM char

def takeWhile (test : Char → Bool) : Reader (List Char) := fun input =>
  some (input.takeWhile test, input.dropWhile test)

def takeWhile1 (test : Char → Bool) : Reader (List Char) := do
  let first ← satisfy test
  let rest ← takeWhile test
  return first :: rest

def option {α : Type} (reader : Reader α) : Reader (Option α) :=
  (some <$> reader) <|> pure none

/-- Repeats a reader as often as it succeeds, at most once for each character left. -/
def many {α : Type} (reader : Reader α) : Reader (List α) := fun input =>
  let rec go : Nat → Reader (List α)
    | 0 => pure []
    | fuel + 1 => (do
        let first ← reader
        let rest ← go fuel
        return first :: rest) <|> pure []
  go input.length input

def exactly (count : Nat) (test : Char → Bool) : Reader (List Char) :=
  (List.replicate count ()).mapM fun _ => satisfy test

/-! ## Blanks and line ends -/

def isBlank (c : Char) : Bool := c = ' ' || c = '\t'

/-- Neither a control, other than the tab, nor a line end. -/
def isPlain (c : Char) : Bool :=
  c = '\t' || (0x20 ≤ c.toNat && c.toNat ≠ 0x7F)

def blanks : Reader Unit := discard (takeWhile isBlank)

def newline : Reader Unit := char '\n' <|> word ['\r', '\n']

def comment : Reader Unit := do
  char '#'
  discard (takeWhile isPlain)

def atEnd : Reader Unit := fun input => if input.isEmpty then some ((), input) else none

/-- The end of a line: blanks, a comment, and a line end or the end of the text. -/
def lineEnd : Reader Unit := do
  blanks
  discard (option comment)
  newline <|> atEnd

/-- Blanks, comments and line ends inside an array. -/
def spread : Reader Unit := do
  blanks
  discard (many do
    discard (option comment)
    newline
    blanks)

/-! ## Texts -/

def digitValue (c : Char) : Nat :=
  if '0' ≤ c ∧ c ≤ '9' then c.toNat - '0'.toNat
  else if 'a' ≤ c ∧ c ≤ 'f' then c.toNat - 'a'.toNat + 10
  else c.toNat - 'A'.toNat + 10

def isDigit (c : Char) : Bool := '0' ≤ c && c ≤ '9'

def isHexDigit (c : Char) : Bool :=
  isDigit c || ('a' ≤ c && c ≤ 'f') || ('A' ≤ c && c ≤ 'F')

/-- The number that digits of a base stand for. -/
def numeral (base : Nat) (digits : List Char) : Nat :=
  digits.foldl (fun total c => base * total + digitValue c) 0

/-- A character by its number, which has to be one. -/
def byNumber (digits : Nat) : Reader Char := do
  let number := numeral 16 (← exactly digits isHexDigit)
  if h : number.isValidChar then return Char.ofNatAux number h else failure

def escaped : Reader Char := do
  char '\\'
  match ← satisfy fun _ => true with
  | 'b' => return '\x08'
  | 't' => return '\t'
  | 'n' => return '\n'
  | 'f' => return '\x0c'
  | 'r' => return '\r'
  | '"' => return '"'
  | '\\' => return '\\'
  | 'u' => byNumber 4
  | 'U' => byNumber 8
  | _ => failure

/-- A text on one line with escapes. -/
def basicText : Reader String := do
  char '"'
  let chars ← many (escaped <|> satisfy fun c => isPlain c && c ≠ '"' && c ≠ '\\')
  char '"'
  return String.ofList chars

def literalText : Reader String := do
  char '\''
  let chars ← takeWhile fun c => isPlain c && c ≠ '\''
  char '\''
  return String.ofList chars

/-- A backslash at the end of a line joins the next line that is not blank. -/
def lineJoin : Reader (List Char) := do
  char '\\'
  blanks
  newline
  discard (many (discard (satisfy isBlank) <|> newline))
  return []

/-- One or two quotes that do not close a text of several lines. -/
def looseQuotes (quote : Char) : Reader (List Char) := fun input =>
  let count := (input.takeWhile (· = quote)).length
  if count = 1 ∨ count = 2 then some (List.replicate count quote, input.drop count) else none

/-- Three closing quotes, before which up to two belong to the text. -/
def closingQuotes (quote : Char) : Reader (List Char) := fun input =>
  let count := (input.takeWhile (· = quote)).length
  if 3 ≤ count ∧ count ≤ 5 then some (List.replicate (count - 3) quote, input.drop count)
  else none

/-- A text of several lines, made of pieces. A line end right after the opening is dropped, and
every other one is a single line feed. -/
def longText (quote : Char) (piece : Reader (List Char)) : Reader String := do
  word [quote, quote, quote]
  discard (option newline)
  let pieces ← many (piece <|> (do newline; return ['\n']) <|> looseQuotes quote)
  let tail ← closingQuotes quote
  return String.ofList (pieces.flatten ++ tail)

def longBasicText : Reader String :=
  longText '"' (lineJoin <|> (do return [← escaped]) <|>
    takeWhile1 fun c => isPlain c && c ≠ '"' && c ≠ '\\')

def longLiteralText : Reader String :=
  longText '\'' (takeWhile1 fun c => isPlain c && c ≠ '\'')

/-! ## Numbers and moments -/

/-- Digits with single underscores between them. -/
def grouped (test : Char → Bool) : Reader (List Char) := do
  let first ← satisfy test
  let rest ← many (satisfy test <|> (do char '_'; satisfy test))
  return first :: rest

def sign : Reader Bool := do
  match ← option (satisfy fun c => c = '+' || c = '-') with
  | some '-' => return true
  | _ => return false

/-- Decimal digits without a leading zero. -/
def decimalDigits : Reader (List Char) := do
  match ← peek with
  | some '0' => return [← satisfy isDigit]
  | _ => grouped isDigit

def within64 (value : Int) : Reader Scalar :=
  if Int64.minValue.toInt ≤ value ∧ value ≤ Int64.maxValue.toInt then return .integer value
  else failure

def radixInteger (mark : Char) (base : Nat) (test : Char → Bool) : Reader Scalar := do
  word ['0', mark]
  within64 (numeral base (← grouped test))

def decimalInteger : Reader Scalar := do
  let negative ← sign
  let value : Int := numeral 10 (← decimalDigits)
  within64 (if negative then -value else value)

def exponent : Reader Int := do
  discard (satisfy fun c => c = 'e' || c = 'E')
  let negative ← sign
  let value : Int := numeral 10 (← grouped isDigit)
  return if negative then -value else value

def fraction : Reader (List Char) := do
  char '.'
  grouped isDigit

/-- A float has a fraction or an exponent; a positive one has to be finite. -/
def float : Reader Scalar := do
  let negative ← sign
  (do word ['i', 'n', 'f']; return .other) <|> (do word ['n', 'a', 'n']; return .other) <|> do
    let whole ← decimalDigits
    let (places, power) ←
      (do let places ← fraction; return (places, (← option exponent).getD 0)) <|>
      (do return ([], ← exponent))
    let value := Double.ofDecimal? negative (numeral 10 (whole ++ places))
      (power - Int.ofNat places.length)
    if value.isSome || negative then return .other else failure

def twoDigits (least greatest : Nat) : Reader Nat := do
  let value := numeral 10 (← exactly 2 isDigit)
  if least ≤ value ∧ value ≤ greatest then return value else failure

def isLeapYear (year : Nat) : Bool :=
  year % 4 = 0 && (year % 100 ≠ 0 || year % 400 = 0)

def daysIn (year month : Nat) : Nat :=
  if month = 2 then (if isLeapYear year then 29 else 28)
  else if month = 4 ∨ month = 6 ∨ month = 9 ∨ month = 11 then 30
  else 31

def date : Reader Unit := do
  let year := numeral 10 (← exactly 4 isDigit)
  char '-'
  let month ← twoDigits 1 12
  char '-'
  discard (twoDigits 1 (daysIn year month))

def time : Reader Unit := do
  discard (twoDigits 0 23)
  char ':'
  discard (twoDigits 0 59)
  char ':'
  discard (twoDigits 0 60)
  discard (option (do char '.'; takeWhile1 isDigit))

def offset : Reader Unit :=
  discard (satisfy fun c => c = 'Z' || c = 'z') <|> do
    discard (satisfy fun c => c = '+' || c = '-')
    discard (twoDigits 0 23)
    char ':'
    discard (twoDigits 0 59)

def moment : Reader Scalar :=
  (do
    date
    discard (option do
      discard (satisfy fun c => c = 'T' || c = 't' || c = ' ')
      time
      discard (option offset))
    return .other) <|> (do time; return .other)

def number : Reader Scalar :=
  moment <|> float <|> radixInteger 'x' 16 isHexDigit <|>
    radixInteger 'o' 8 (fun c => '0' ≤ c && c ≤ '7') <|>
    radixInteger 'b' 2 (fun c => c = '0' || c = '1') <|> decimalInteger

/-! ## Keys and values -/

/-- How deep arrays and inline tables may be nested; the parts of a key are bounded too. -/
def maxDepth : Nat := 79

def isKeyChar (c : Char) : Bool :=
  isDigit c || ('a' ≤ c && c ≤ 'z') || ('A' ≤ c && c ≤ 'Z') || c = '-' || c = '_'

def simpleKey : Reader String :=
  basicText <|> literalText <|> do return String.ofList (← takeWhile1 isKeyChar)

def key : Reader (List String × String) := do
  let part : Reader String := do
    blanks
    let part ← simpleKey
    blanks
    return part
  let first ← part
  let rest ← many (do char '.'; part)
  let parts := first :: rest
  if maxDepth < parts.length then failure
  return (parts.dropLast, parts.getLast?.getD first)

def assignment (value : Reader Scalar) : Reader ((List String × String) × Scalar) := do
  let key ← key
  char '='
  blanks
  let value ← value
  return (key, value)

def array (value : Reader Scalar) : Reader Scalar := do
  char '['
  spread
  let item : Reader Unit := do
    discard value
    spread
  discard (option do
    item
    discard (many do
      char ','
      spread
      item)
    discard (option (char ','))
    spread)
  char ']'
  return .other

def inlineTable (value : Reader Scalar) : Reader Scalar := do
  char '\x7b'
  blanks
  let item := do
    let found ← assignment value
    blanks
    return found
  let pairs ← option do
    let first ← item
    let rest ← many (do char ','; item)
    return first :: rest
  char '\x7d'
  let entries := (pairs.getD []).foldlM
    (fun entries ((way, key), found) => Entries.put? false way.isEmpty entries way key (.leaf found))
    []
  if entries.isSome then return .other else failure

/-- A value without items of its own. -/
def scalar : Reader Scalar := do
  match ← peek with
  | some '"' => .text <$> (longBasicText <|> basicText)
  | some '\'' => .text <$> (longLiteralText <|> literalText)
  | some 't' => do word ['t', 'r', 'u', 'e']; return .other
  | some 'f' => do word ['f', 'a', 'l', 's', 'e']; return .other
  | _ => number

/-- A value in which so many arrays and inline tables may be nested. -/
def value : Nat → Reader Scalar
  | 0 => scalar
  | depth + 1 => do
    match ← peek with
    | some '[' => array (value depth)
    | some '\x7b' => inlineTable (value depth)
    | _ => scalar

/-! ## Documents -/

/-- What is read so far: the root table, and the way to the table that lines belong to. -/
structure Draft where
  root : Entries := []
  current : List String := []

def Draft.assign? (draft : Draft) (way : List String) (key : String) (value : Scalar) :
    Option Draft := do
  let root ← Entries.within?
    (fun entries => Entries.put? false way.isEmpty entries way key (.leaf value))
    draft.current draft.root
  some { draft with root }

def Draft.open? (draft : Draft) (way : List String) (key : String)
    (change : String → Entries → Option Entries) : Option Draft := do
  let root ← Entries.within? (change key) way draft.root
  some { root, current := way ++ [key] }

def line (draft : Draft) : Reader Draft := do
  blanks
  match ← peek with
  | some '[' => do
    char '['
    match ← option (char '[') with
    | some _ => do
      let (way, last) ← key
      word [']', ']']
      lineEnd
      match draft.open? way last Entries.addElement? with
      | some draft => return draft
      | none => failure
    | none => do
      let (way, last) ← key
      char ']'
      lineEnd
      match draft.open? way last Entries.define? with
      | some draft => return draft
      | none => failure
  | some c =>
    if isKeyChar c || c = '"' || c = '\'' then do
      let ((way, last), value) ← assignment (value maxDepth)
      lineEnd
      match draft.assign? way last value with
      | some draft => return draft
      | none => failure
    else do
      lineEnd
      return draft
  | none => return draft

/-- The lines of a document, at most one for each character and one more. -/
def lines : Nat → Draft → List Char → Option Entries
  | _, draft, [] => some draft.root
  | 0, _, _ => none
  | fuel + 1, draft, input => do
    let (draft, rest) ← line draft input
    lines fuel draft rest

end Reader

/-- The root table of a document. A byte order mark in front is passed over. -/
def read? (text : String) : Option Entries :=
  let input := match text.toList with
    | '\ufeff' :: rest => rest
    | input => input
  Reader.lines (input.length + 1) {} input

end RegistrySession.Toml
