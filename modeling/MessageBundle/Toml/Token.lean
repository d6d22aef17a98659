import MessageBundle.Text.Digit

/-!
# Tokens of TOML

A scanner goes over the characters of a text one by one and collects tokens. A
token is found without regard to what stands around it: a bare word is a token
whether it is a key or a part of a number, and a string is a token with its
escapes already undone. A text with a character out of place has no tokens.

## Main definitions

* `Token` — the tokens
* `scan?` — the tokens of a text, if every character has its place
-/

namespace MessageBundle.Toml

/-- A token. Blanks and line ends are tokens, since they end words and lines. -/
inductive Token
  | blank (text : String)
  | newline
  | comment
  | dot
  | equals
  | comma
  | openBracket
  | closeBracket
  | openBrace
  | closeBrace
  | word (text : String)
  /-- A string on one line. -/
  | text (value : String)
  /-- A string between triple quotes. -/
  | multilineText (value : String)
  deriving DecidableEq, Repr

/-- Where a string stands inside an escape. -/
inductive Escape
  | none
  | backslash
  /-- So many hexadecimal digits are due, behind those with this value. -/
  | code (due value : Nat)
  /-- Blanks behind a backslash that has to end its line. -/
  | lineEnd
  /-- The first characters of a line behind a backslash that ended the one before. -/
  | nextLine
  deriving DecidableEq, Repr

/-- A string under scan: the quote that ends it, its characters so far, the last
one first, and where it stands. -/
structure TextScan where
  quote : Char
  chars : List Char := []
  escape : Escape := .none
  deriving DecidableEq, Repr

/-- A string between triple quotes under scan. -/
structure MultilineScan where
  line : TextScan
  /-- Nothing was read behind the opening quotes. -/
  isFresh : Bool := true
  /-- A carriage return was read and its line feed is due. -/
  carriage : Bool := false
  /-- The quotes just read. -/
  quotes : Nat := 0
  deriving DecidableEq, Repr

/-- What the scanner is in the middle of. -/
inductive Mode
  | between
  | carriage
  | blank (chars : List Char)
  | comment
  | commentCarriage
  | word (chars : List Char)
  /-- So many quotes that open a string. -/
  | opening (quote : Char) (count : Nat)
  | text (scan : TextScan)
  | multiline (scan : MultilineScan)
  deriving DecidableEq, Repr

/-- What is being scanned, and the tokens so far, the last one first. -/
structure Scanner where
  mode : Mode
  tokens : List Token
  deriving DecidableEq, Repr

/-- A character that stands for itself in strings and comments: no control but the tab. -/
def isPlain (c : Char) : Bool := c = '\t' || (0x20 ≤ c.toNat && c.toNat ≠ 0x7F)

/-- The character that a backslash and a letter stand for. -/
def shortEscape? (c : Char) : Option Char :=
  ([('b', '\x08'), ('t', '\t'), ('n', '\n'), ('f', '\x0c'), ('r', '\r'), ('e', '\x1b'),
    ('"', '"'), ('\\', '\\')] : List (Char × Char)).lookup c

/-- The number of hexadecimal digits that a letter behind a backslash asks for. -/
def codeLength? (c : Char) : Option Nat :=
  ([('x', 2), ('u', 4), ('U', 8)] : List (Char × Nat)).lookup c

/-- The character with a code point, which has to be a Unicode scalar value. -/
def scalarValue? (code : Nat) : Option Char :=
  if code.isValidChar then some (.ofNat code) else none

namespace TextScan

/-- One more character of the string. -/
def push (t : TextScan) (c : Char) : TextScan := { t with chars := c :: t.chars }

/-- The string without its quotes. -/
def value (t : TextScan) : String := String.ofList t.chars.reverse

/-- A character behind a backslash, the ends of lines apart. -/
def stepBackslash (t : TextScan) (c : Char) : Option TextScan :=
  match shortEscape? c, codeLength? c with
  | some plain, _ => some { t.push plain with escape := .none }
  | none, some due => some { t with escape := .code due 0 }
  | none, none => none

/-- A hexadecimal digit of an escape. -/
def stepCode (t : TextScan) (due value : Nat) (c : Char) : Option TextScan := do
  let digit ← Text.hexDigit? c
  let value := 16 * value + digit
  if due ≤ 1 then
    let c ← scalarValue? value
    return { t.push c with escape := .none }
  else return { t with escape := .code (due - 1) value }

/-- A character outside escapes, quotes apart. -/
def stepPlain (t : TextScan) (c : Char) : Option TextScan :=
  if c = '\\' ∧ t.quote = '"' then some { t with escape := .backslash }
  else if isPlain c then some (t.push c)
  else none

/-- One more character of a string on one line, other than the quote that ends it. -/
def step (t : TextScan) (c : Char) : Option TextScan :=
  match t.escape with
  | .backslash => t.stepBackslash c
  | .code due value => t.stepCode due value c
  | _ => t.stepPlain c

end TextScan

namespace MultilineScan

/-- The quotes just read, but for those that end the string, belong to it. -/
def keepQuotes (m : MultilineScan) (count : Nat) : MultilineScan :=
  { m with
    line := { m.line with chars := List.replicate count m.line.quote ++ m.line.chars }
    quotes := 0 }

/-- The string has ended with the quotes just read. -/
def isClosed (m : MultilineScan) : Bool := 3 ≤ m.quotes

/-- The token of a string that has ended. -/
def token (m : MultilineScan) : Token :=
  .multilineText (m.keepQuotes (m.quotes - 3)).line.value

/-- The end of a line, behind a carriage return or not. -/
def endLine (m : MultilineScan) (characters : List Char) : Option MultilineScan :=
  let m := { m with carriage := false }
  if m.isFresh then some { m with isFresh := false }
  else
    match m.line.escape with
    | .none => some { m with line := { m.line with chars := characters ++ m.line.chars } }
    | .backslash | .lineEnd | .nextLine =>
      some { m with line := { m.line with escape := .nextLine } }
    | .code .. => none

/-- A character that neither ends a line nor is a quote that may end the string. -/
def stepInLine (m : MultilineScan) (c : Char) : Option MultilineScan := do
  let isSpace := c = ' ' || c = '\t'
  let line ←
    match m.line.escape with
    | .backslash =>
      if isSpace then some { m.line with escape := .lineEnd } else m.line.stepBackslash c
    | .lineEnd => if isSpace then some m.line else none
    | .nextLine =>
      if isSpace then some m.line else ({ m.line with escape := .none } : TextScan).stepPlain c
    | .code due value => m.line.stepCode due value c
    | .none => m.line.stepPlain c
  return { m with line, isFresh := false }

/-- One more character of a string that has not ended. -/
def step (m : MultilineScan) (c : Char) : Option MultilineScan :=
  if m.carriage then
    if c = '\n' then m.endLine ['\n', '\r'] else none
  else
    let isQuote := c = m.line.quote && (m.line.escape = .none || m.line.escape = .nextLine)
    if isQuote then
      some { m with
        line := { m.line with escape := .none }, isFresh := false, quotes := m.quotes + 1 }
    else
      let m := m.keepQuotes m.quotes
      if c = '\n' then m.endLine ['\n']
      else if c = '\r' then some { m with carriage := true }
      else m.stepInLine c

end MultilineScan

namespace Scanner

/-- One more token. -/
def emit (s : Scanner) (token : Token) : Scanner := ⟨.between, token :: s.tokens⟩

/-- The characters that are tokens on their own. -/
def signs : List (Char × Token) :=
  [('\n', .newline), ('.', .dot), ('=', .equals), (',', .comma), ('[', .openBracket),
    (']', .closeBracket), ('\x7b', .openBrace), ('\x7d', .closeBrace)]

/-- The token that a character is on its own. -/
def sign? (c : Char) : Option Token := signs.lookup c

/-- A character with which a token starts. -/
def start (s : Scanner) (c : Char) : Scanner :=
  match sign? c with
  | some token => s.emit token
  | none =>
    if c = ' ' ∨ c = '\t' then { s with mode := .blank [c] }
    else if c = '\r' then { s with mode := .carriage }
    else if c = '#' then { s with mode := .comment }
    else if c = '"' ∨ c = '\'' then { s with mode := .opening c 1 }
    else { s with mode := .word [c] }

/-- A character that ends a bare word; a quote does not. -/
def endsWord (c : Char) : Bool :=
  (sign? c).isSome || c = ' ' || c = '\t' || c = '\r' || c = '#'

/-- A character of a string on one line. -/
def stepText (s : Scanner) (t : TextScan) (c : Char) : Option Scanner :=
  if c = t.quote ∧ t.escape = .none then some (s.emit (.text t.value))
  else do
    let t ← t.step c
    return { s with mode := .text t }

/-- One more character. -/
def step (s : Scanner) (c : Char) : Option Scanner :=
  match s.mode with
  | .between => some (s.start c)
  | .carriage => if c = '\n' then some (s.emit .newline) else none
  | .blank chars =>
    if c = ' ' ∨ c = '\t' then some { s with mode := .blank (c :: chars) }
    else some ((s.emit (.blank (String.ofList chars.reverse))).start c)
  | .comment =>
    if c = '\n' then some ((s.emit .comment).emit .newline)
    else if c = '\r' then some { s with mode := .commentCarriage }
    else if isPlain c then some s
    else none
  | .commentCarriage => if c = '\n' then some ((s.emit .comment).emit .newline) else none
  | .word chars =>
    if endsWord c then some ((s.emit (.word (String.ofList chars.reverse))).start c)
    else some { s with mode := .word (c :: chars) }
  | .opening quote count =>
    if c = quote then
      if count = 1 then some { s with mode := .opening quote 2 }
      else some { s with mode := .multiline { line := { quote } } }
    else if count = 1 then s.stepText { quote } c
    else some ((s.emit (.text "")).start c)
  | .text t => s.stepText t c
  | .multiline m =>
    if m.isClosed ∧ (c ≠ m.line.quote ∨ m.quotes = 5) then some ((s.emit m.token).start c)
    else do
      let m ← m.step c
      return { s with mode := .multiline m }

/-- The tokens of a text that has ended. -/
def finish (s : Scanner) : Option (List Token) :=
  match s.mode with
  | .between => some s.tokens.reverse
  | .blank chars => some (.blank (String.ofList chars.reverse) :: s.tokens).reverse
  | .comment => some (.comment :: s.tokens).reverse
  | .word chars => some (.word (String.ofList chars.reverse) :: s.tokens).reverse
  | .opening _ 2 => some (.text "" :: s.tokens).reverse
  | .multiline m => if m.isClosed then some (m.token :: s.tokens).reverse else none
  | .carriage | .commentCarriage | .opening .. | .text _ => none

end Scanner

/-- The tokens of a text; a byte order mark may precede it. -/
def scan? (text : String) : Option (List Token) := do
  let chars :=
    match text.toList with
    | '\ufeff' :: rest => rest
    | all => all
  let scanner ← chars.foldlM Scanner.step ⟨.between, []⟩
  scanner.finish

end MessageBundle.Toml
