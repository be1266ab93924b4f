import TableForge.Toml.Value

/-!
# The smallest parts of a TOML document

Blanks, comments, line ends, strings, keys and unquoted scalars. Each reader takes the text from
where it stands and returns what it read together with the text behind it, or `none` where the text
is not well formed. Line breaks inside strings stay as they are written, with or without a carriage
return.
-/
namespace TableForge.Toml

/-- Characters that may stand in comments and strings: a tab and everything that is no control
character. -/
def isTextChar (c : Char) : Bool :=
  c = '\t' || (' ' ≤ c && c ≠ '\x7f')

def isBlank (c : Char) : Bool :=
  c = ' ' || c = '\t'

def skipBlanks (text : List Char) : List Char :=
  text.dropWhile isBlank

/-- Passes over blanks, line breaks and comments. -/
def skipFiller (inComment : Bool) : List Char → List Char
  | [] => []
  | '\n' :: rest => skipFiller false rest
  | '\r' :: '\n' :: rest => skipFiller false rest
  | c :: rest =>
    if inComment then if isTextChar c then skipFiller true rest else c :: rest
    else if isBlank c then skipFiller false rest
    else if c = '#' then skipFiller true rest
    else c :: rest

/-- A line break, or the end of the text. -/
def takeLineBreak? : List Char → Option (List Char)
  | [] => some []
  | '\n' :: rest => some rest
  | '\r' :: '\n' :: rest => some rest
  | _ => none

/-- Blanks, an optional comment and the end of the line. -/
def takeLineEnd? (text : List Char) : Option (List Char) :=
  match skipBlanks text with
  | '#' :: rest => takeLineBreak? (rest.dropWhile isTextChar)
  | rest => takeLineBreak? rest

/-- The character that hexadecimal digits denote, if it exists. -/
def hexChar? (digits : List Char) : Option Char := do
  let n ← digits.foldlM (fun n c => (hexDigit? c).map (16 * n + ·)) 0
  if n.isValidChar then some (Char.ofNat n) else none
where
  hexDigit? (c : Char) : Option Nat :=
    if c.isDigit then some (c.toNat - '0'.toNat)
    else if 'a' ≤ c ∧ c ≤ 'f' then some (c.toNat - 'a'.toNat + 10)
    else if 'A' ≤ c ∧ c ≤ 'F' then some (c.toNat - 'A'.toNat + 10)
    else none

/-- The character that stands behind a backslash for another one. -/
def escapedChar? (c : Char) : Option Char :=
  match c with
  | 'b' => some '\x08'
  | 't' => some '\t'
  | 'n' => some '\n'
  | 'f' => some '\x0c'
  | 'r' => some '\r'
  | 'e' => some '\x1b'
  | '"' => some '"'
  | '\\' => some '\\'
  | _ => none

/-- Puts a character, if there is one, in front of a string that was read. -/
def prepend (c : Option Char) (body : Option (List Char × List Char)) :
    Option (List Char × List Char) := do
  let c ← c
  let (body, rest) ← body
  some (c :: body, rest)

/-- A string in double quotes, from behind its first quote. -/
def basicBody? : List Char → Option (List Char × List Char)
  | [] => none
  | '"' :: rest => some ([], rest)
  | '\\' :: 'x' :: a :: b :: rest => prepend (hexChar? [a, b]) (basicBody? rest)
  | '\\' :: 'u' :: a :: b :: c :: d :: rest =>
    prepend (hexChar? [a, b, c, d]) (basicBody? rest)
  | '\\' :: 'U' :: a :: b :: c :: d :: e :: f :: g :: h :: rest =>
    prepend (hexChar? [a, b, c, d, e, f, g, h]) (basicBody? rest)
  | '\\' :: c :: rest => prepend (escapedChar? c) (basicBody? rest)
  | c :: rest => if isTextChar c && c ≠ '\\' then prepend (some c) (basicBody? rest) else none

/-- A string in single quotes, from behind its first quote. -/
def literalBody? : List Char → Option (List Char × List Char)
  | [] => none
  | '\'' :: rest => some ([], rest)
  | c :: rest => if isTextChar c then prepend (some c) (literalBody? rest) else none

/-- Up to two quotes may stand directly before the three that end a multi-line string. -/
def closeQuotes (quote : Char) : List Char → List Char × List Char
  | a :: b :: rest =>
    if a = quote ∧ b = quote then ([quote, quote], rest)
    else if a = quote then ([quote], b :: rest)
    else ([], a :: b :: rest)
  | [a] => if a = quote then ([quote], []) else ([], [a])
  | [] => ([], [])

/-- Whether only blanks stand before the next line break. -/
def endsLine (text : List Char) : Bool :=
  match skipBlanks text with
  | '\n' :: _ => true
  | '\r' :: '\n' :: _ => true
  | _ => false

/-- A multi-line string in double quotes, from behind its first three quotes. After a backslash at
the end of a line, `trimming` passes over blanks and line breaks. -/
def basicLines? (trimming : Bool) : List Char → Option (List Char × List Char)
  | [] => none
  | '"' :: '"' :: '"' :: rest => some (closeQuotes '"' rest)
  | '\n' :: rest =>
    if trimming then basicLines? true rest else prepend (some '\n') (basicLines? false rest)
  | '\r' :: '\n' :: rest =>
    if trimming then basicLines? true rest
    else prepend (some '\r') (prepend (some '\n') (basicLines? false rest))
  | '\\' :: 'x' :: a :: b :: rest => prepend (hexChar? [a, b]) (basicLines? false rest)
  | '\\' :: 'u' :: a :: b :: c :: d :: rest =>
    prepend (hexChar? [a, b, c, d]) (basicLines? false rest)
  | '\\' :: 'U' :: a :: b :: c :: d :: e :: f :: g :: h :: rest =>
    prepend (hexChar? [a, b, c, d, e, f, g, h]) (basicLines? false rest)
  | '\\' :: c :: rest =>
    if endsLine (c :: rest) then basicLines? true (c :: rest)
    else prepend (escapedChar? c) (basicLines? false rest)
  | c :: rest =>
    if trimming && isBlank c then basicLines? true rest
    else if isTextChar c && c ≠ '\\' then prepend (some c) (basicLines? false rest)
    else none

/-- A multi-line string in single quotes, from behind its first three quotes. -/
def literalLines? : List Char → Option (List Char × List Char)
  | [] => none
  | '\'' :: '\'' :: '\'' :: rest => some (closeQuotes '\'' rest)
  | '\n' :: rest => prepend (some '\n') (literalLines? rest)
  | '\r' :: '\n' :: rest => prepend (some '\r') (prepend (some '\n') (literalLines? rest))
  | c :: rest => if isTextChar c then prepend (some c) (literalLines? rest) else none

/-- A line break directly behind the quotes that open a multi-line string is not part of it. -/
def dropFirstBreak : List Char → List Char
  | '\n' :: rest => rest
  | '\r' :: '\n' :: rest => rest
  | text => text

/-- A string of any of the four kinds. -/
def string? : List Char → Option (List Char × List Char)
  | '"' :: '"' :: '"' :: rest => basicLines? false (dropFirstBreak rest)
  | '\'' :: '\'' :: '\'' :: rest => literalLines? (dropFirstBreak rest)
  | '"' :: rest => basicBody? rest
  | '\'' :: rest => literalBody? rest
  | _ => none

def isBareKeyChar (c : Char) : Bool :=
  c.isAlphanum || c = '_' || c = '-'

/-- One part of a key: a bare word or a string on one line. -/
def key? : List Char → Option (String × List Char)
  | '"' :: rest => (basicBody? rest).map fun (name, rest) => (String.ofList name, rest)
  | '\'' :: rest => (literalBody? rest).map fun (name, rest) => (String.ofList name, rest)
  | text =>
    let (name, rest) := text.span isBareKeyChar
    if name = [] then none else some (String.ofList name, rest)

/-- A dotted key of at most as many parts as the given number. -/
def keyParts? : Nat → List Char → Option (List String × List Char)
  | 0, _ => none
  | parts + 1, text => do
    let (name, rest) ← key? (skipBlanks text)
    match skipBlanks rest with
    | '.' :: rest => do
      let (names, rest) ← keyParts? parts rest
      some (name :: names, rest)
    | rest => some ([name], rest)

/-- How many parts a dotted key may have. -/
def maxKeyParts : Nat := 80

/-- A dotted key and the text behind the blanks that follow it. -/
def keyPath? (text : List Char) : Option (List String × List Char) :=
  keyParts? maxKeyParts text

/-- Digits of the given kind with single underscores between them; `afterDigit` tells whether an
underscore or the end may come next. -/
def isGrouped (isDigit : Char → Bool) (afterDigit : Bool) : List Char → Bool
  | [] => afterDigit
  | '_' :: rest => afterDigit && isGrouped isDigit false rest
  | c :: rest => isDigit c && isGrouped isDigit true rest

def withoutUnderscores (text : List Char) : List Char :=
  text.filter (· ≠ '_')

/-- Decimal digits without a zero in front. -/
def isDecimal (text : List Char) : Bool :=
  match text with
  | ['0'] => true
  | '0' :: _ => false
  | _ => isGrouped Char.isDigit false text

def radixValue (radix : Nat) (digits : List Char) : Nat :=
  digits.foldl (fun n c => radix * n + digitValue c) 0
where
  digitValue (c : Char) : Nat :=
    if c.isDigit then c.toNat - '0'.toNat else c.toLower.toNat - 'a'.toNat + 10

/-- An integer in base 16, 8 or 2 behind its two-character mark. -/
def radixInteger? (radix : Nat) (digits : List Char) : Option Int :=
  let isDigit := fun c : Char =>
    (c.isDigit || ('a' ≤ c.toLower && c.toLower ≤ 'f')) && radixValue.digitValue c < radix
  if isGrouped isDigit false digits then some (radixValue radix (withoutUnderscores digits))
  else none

/-- An integer of any size. -/
def integer? : List Char → Option Int
  | '0' :: 'x' :: digits => radixInteger? 16 digits
  | '0' :: 'o' :: digits => radixInteger? 8 digits
  | '0' :: 'b' :: digits => radixInteger? 2 digits
  | text =>
    let (negative, digits) := Binary64.takeSign text
    if isDecimal digits then
      let n : Int := Binary64.digitsValue (withoutUnderscores digits)
      some (if negative then -n else n)
    else none

/-- An exponent part, or nothing. -/
def isExponent : List Char → Bool
  | [] => true
  | c :: rest => (c = 'e' || c = 'E') && isGrouped Char.isDigit false (Binary64.takeSign rest).2

/-- Whether an unsigned text has the form of a TOML float. -/
def isFloat (text : List Char) : Bool :=
  let (whole, rest) := text.span fun c => c.isDigit || c = '_'
  isDecimal whole &&
    match rest with
    | '.' :: rest =>
      let (fraction, rest) := rest.span fun c => c.isDigit || c = '_'
      isGrouped Char.isDigit false fraction && isExponent rest
    | [] => false
    | rest => isExponent rest

/-- A float; only the word `inf` is infinite. -/
def float? (text : List Char) : Option Value :=
  let (negative, unsigned) := Binary64.takeSign text
  if unsigned = ['i', 'n', 'f'] then some (.float (.infinite negative))
  else if unsigned = ['n', 'a', 'n'] then some (.float .nan)
  else if isFloat unsigned then
    (Binary64.ofText? (withoutUnderscores text)).map fun
      | .infinite _ => .hugeFloat
      | number => .float number
  else none

/-- The value of an unquoted scalar. -/
def scalarOfText? (text : List Char) : Option Value :=
  if text = ['t', 'r', 'u', 'e'] then some (.boolean true)
  else if text = ['f', 'a', 'l', 's', 'e'] then some (.boolean false)
  else
    (integer? text).map Value.integer
      <|> float? text
      <|> (Datetime.ofText? text).map Value.datetime

def isScalarChar (c : Char) : Bool :=
  c.isAlphanum || c ∈ ['+', '-', '.', '_', ':']

/-- An unquoted scalar. One blank may stand between a date and a time. -/
def scalar? (text : List Char) : Option (Value × List Char) :=
  let (word, rest) := text.span isScalarChar
  match takeDate? word, rest with
  | some (_, []), ' ' :: c :: more =>
    if c.isDigit then
      let (time, rest) := (c :: more).span isScalarChar
      (scalarOfText? (word ++ ' ' :: time)).map fun value => (value, rest)
    else (scalarOfText? word).map fun value => (value, rest)
  | _, _ => (scalarOfText? word).map fun value => (value, rest)

end TableForge.Toml
