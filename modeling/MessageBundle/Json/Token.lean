import MessageBundle.Json.Number

/-!
# Tokens of JSON

A scanner goes over the bytes of a text one by one and collects tokens. It stops
at the first byte with which no token can go on. A string or number may be well
formed and still not readable: a string with half of a surrogate pair or with
bytes that are not UTF-8, a number out of range. Such a token can be passed over.

## Main definitions

* `Token` — the tokens, with the damage at which a scan stops
* `scan` — the tokens of a text
-/

namespace MessageBundle.Json

/-- A token. A broken one ends the scan; reading it and passing over it may find
different faults. -/
inductive Token
  | openList
  | closeList
  | openMap
  | closeMap
  | comma
  | colon
  /-- A string, if it is readable. -/
  | text (value : Except TextFault String)
  /-- A number or a name. -/
  | scalar (value : Data TextFault)
  /-- A string that breaks off. -/
  | brokenText (onReading onSkipping : TextFault)
  /-- Anything else that breaks off. -/
  | broken (onReading onSkipping : TextFault)

/-! ### Numbers -/

/-- How far a number has been scanned. -/
inductive NumberStage
  | sign
  | zero
  | whole
  | point
  | fraction
  | exponentMark
  | exponentSign
  | exponent
  deriving DecidableEq, Repr

namespace NumberStage

/-- A number may end here. -/
def mayEnd : NumberStage → Bool
  | zero | whole | fraction | exponent => true
  | sign | point | exponentMark | exponentSign => false

end NumberStage

/-- A number under scan; the digits are collected last one first. -/
structure NumberScan where
  stage : NumberStage
  spelling : Spelling
  deriving DecidableEq, Repr

/-- A byte is a decimal digit. -/
def isDigit (byte : UInt8) : Bool := 0x30 ≤ byte && byte ≤ 0x39

/-- The value of a decimal digit. -/
def digitValue (byte : UInt8) : Nat := byte.toNat - 0x30

/-- What a byte does to a number. -/
inductive NumberStep
  | more (scan : NumberScan)
  /-- The number ended before the byte. -/
  | ended
  /-- The byte is out of place. -/
  | misplaced

namespace NumberScan

/-- The scan after a digit before the point. -/
def pushWhole (n : NumberScan) (byte : UInt8) (stage : NumberStage) : NumberStep :=
  .more ⟨stage, { n.spelling with whole := digitValue byte :: n.spelling.whole }⟩

/-- The scan after a digit behind the point. -/
def pushFraction (n : NumberScan) (byte : UInt8) : NumberStep :=
  .more ⟨.fraction, { n.spelling with fraction := digitValue byte :: n.spelling.fraction }⟩

/-- The scan after a digit of the exponent. -/
def pushExponent (n : NumberScan) (byte : UInt8) : NumberStep :=
  .more ⟨.exponent, { n.spelling with exponent := digitValue byte :: n.spelling.exponent }⟩

/-- The scan after a byte behind the digits before the point. -/
def afterWhole (n : NumberScan) (byte : UInt8) : NumberStep :=
  if byte = 0x2E then .more { n with stage := .point }
  else if byte = 0x65 ∨ byte = 0x45 then .more { n with stage := .exponentMark }
  else .ended

/-- The scan after one more byte. -/
def step (n : NumberScan) (byte : UInt8) : NumberStep :=
  match n.stage with
  | .sign =>
    if byte = 0x30 then n.pushWhole byte .zero
    else if isDigit byte then n.pushWhole byte .whole
    else .misplaced
  | .zero => if isDigit byte then .misplaced else n.afterWhole byte
  | .whole => if isDigit byte then n.pushWhole byte .whole else n.afterWhole byte
  | .point => if isDigit byte then n.pushFraction byte else .misplaced
  | .fraction =>
    if isDigit byte then n.pushFraction byte
    else if byte = 0x65 ∨ byte = 0x45 then .more { n with stage := .exponentMark }
    else .ended
  | .exponentMark =>
    if byte = 0x2B then .more { n with stage := .exponentSign }
    else if byte = 0x2D then
      .more ⟨.exponentSign, { n.spelling with exponentIsNegative := true }⟩
    else if isDigit byte then n.pushExponent byte
    else .misplaced
  | .exponentSign => if isDigit byte then n.pushExponent byte else .misplaced
  | .exponent => if isDigit byte then n.pushExponent byte else .ended

/-- The token for a number that ended. -/
def token (n : NumberScan) : Token :=
  let s := n.spelling
  let inOrder : Spelling :=
    { s with
      whole := s.whole.reverse
      fraction := s.fraction.reverse
      exponent := s.exponent.reverse }
  .scalar (inOrder.toData.getD (.flaw .malformed none))

end NumberScan

/-! ### Strings -/

/-- Where a string stands inside an escape. -/
inductive EscapeStage
  | none
  | backslash
  /-- Behind `\u`, with the digits so far, the last one first. -/
  | unicode (digits : List UInt8)
  deriving DecidableEq, Repr

/-- A string under scan: its bytes so far, the last one first; the first half of
a surrogate pair whose second half is due; and whether the string is known to be
unreadable. -/
structure TextScan where
  bytes : List UInt8 := []
  escape : EscapeStage := .none
  highHalf : Option Nat := none
  isUnreadable : Bool := false
  deriving DecidableEq, Repr

/-- The value of hexadecimal digits, given last one first. -/
def hexNumber? : List UInt8 → Option Nat
  | [] => some 0
  | byte :: rest => do
    let value ← hexNumber? rest
    let digit ← Text.hexDigit? (.ofNat byte.toNat)
    return 16 * value + digit

/-- The byte that a backslash and a letter stand for. -/
def shortEscape? (byte : UInt8) : Option UInt8 :=
  ([(0x22, 0x22), (0x5C, 0x5C), (0x2F, 0x2F), (0x62, 0x08), (0x66, 0x0C), (0x6E, 0x0A),
    (0x72, 0x0D), (0x74, 0x09)] : List (UInt8 × UInt8)).lookup byte

/-- What a byte does to a string. -/
inductive TextStep
  | more (scan : TextScan)
  /-- The string ended with the byte. -/
  | ended
  /-- The byte is out of place. -/
  | misplaced

namespace TextScan

/-- A surrogate half without its partner makes a string unreadable. -/
def settle (t : TextScan) : TextScan :=
  if t.highHalf.isSome then { t with highHalf := none, isUnreadable := true } else t

/-- A character at the end of the string. -/
def pushChar (t : TextScan) (c : Char) : TextScan :=
  { t with bytes := (String.singleton c).toUTF8.data.toList.reverse ++ t.bytes }

/-- A code unit of sixteen bits at the end of the string. -/
def pushUnit (t : TextScan) (unit : Nat) : TextScan :=
  let isHigh := 0xD800 ≤ unit && unit < 0xDC00
  let isLow := 0xDC00 ≤ unit && unit < 0xE000
  match t.highHalf with
  | some high =>
    if isLow then
      { t with highHalf := none }.pushChar
        (.ofNat (0x10000 + (high - 0xD800) * 0x400 + (unit - 0xDC00)))
    else { t with highHalf := none, isUnreadable := true }
  | none =>
    if isHigh then { t with highHalf := some unit }
    else if isLow then { t with isUnreadable := true }
    else t.pushChar (.ofNat unit)

/-- The scan after one more byte. -/
def step (t : TextScan) (byte : UInt8) : TextStep :=
  match t.escape with
  | .none =>
    if byte = 0x22 then .ended
    else if byte = 0x5C then .more { t with escape := .backslash }
    else if byte < 0x20 then .misplaced
    else
      let t := t.settle
      .more { t with bytes := byte :: t.bytes }
  | .backslash =>
    if byte = 0x75 then .more { t with escape := .unicode [] }
    else
      match shortEscape? byte with
      | some plain =>
        let t := t.settle
        .more { t with bytes := plain :: t.bytes, escape := .none }
      | none => .misplaced
  | .unicode digits =>
    if digits.length < 3 then .more { t with escape := .unicode (byte :: digits) }
    else
      match hexNumber? (byte :: digits) with
      | some unit => .more ({ t with escape := .none }.pushUnit unit)
      | none => .misplaced

/-- The token for a string that ended. -/
def token (t : TextScan) : Token :=
  let t := t.settle
  if t.isUnreadable then .text (.error .malformed)
  else
    match String.fromUTF8? t.bytes.reverse.toByteArray with
    | some value => .text (.ok value)
    | none => .text (.error .malformed)

/-- The fault that reading finds where a string breaks off with another fault. -/
def faultOnReading (t : TextScan) (fault : TextFault) : TextFault :=
  if t.isUnreadable then .malformed else fault

end TextScan

/-! ### Texts -/

/-- What the scanner is in the middle of. -/
inductive Mode
  | between
  /-- A name, with the bytes that are due. -/
  | name (due : List UInt8) (value : Data TextFault)
  | number (scan : NumberScan)
  | text (scan : TextScan)
  /-- Something broke off. -/
  | stopped

/-- What is being scanned, and the tokens so far, the last one first. -/
structure Scanner where
  mode : Mode
  tokens : List Token

namespace Scanner

/-- One more token. -/
def emit (s : Scanner) (token : Token) : Scanner := ⟨.between, token :: s.tokens⟩

/-- The damage at which the scan stops. -/
def halt (s : Scanner) (token : Token) : Scanner := ⟨.stopped, token :: s.tokens⟩

/-- A byte is blank between tokens. -/
def isBlankByte (byte : UInt8) : Bool :=
  byte = 0x20 || byte = 0x0A || byte = 0x0D || byte = 0x09

/-- A byte with which a token starts. -/
def start (s : Scanner) (byte : UInt8) : Scanner :=
  if isBlankByte byte then { s with mode := .between }
  else if byte = 0x5B then s.emit .openList
  else if byte = 0x5D then s.emit .closeList
  else if byte = 0x7B then s.emit .openMap
  else if byte = 0x7D then s.emit .closeMap
  else if byte = 0x2C then s.emit .comma
  else if byte = 0x3A then s.emit .colon
  else if byte = 0x22 then { s with mode := .text {} }
  else if byte = 0x2D then { s with mode := .number ⟨.sign, { isNegative := true }⟩ }
  else if byte = 0x30 then { s with mode := .number ⟨.zero, { whole := [0] }⟩ }
  else if isDigit byte then { s with mode := .number ⟨.whole, { whole := [digitValue byte] }⟩ }
  else if byte = 0x6E then { s with mode := .name [0x75, 0x6C, 0x6C] .null }
  else if byte = 0x74 then { s with mode := .name [0x72, 0x75, 0x65] (.bool true) }
  else if byte = 0x66 then { s with mode := .name [0x61, 0x6C, 0x73, 0x65] (.bool false) }
  else s.halt (.broken .malformed .malformed)

/-- One more byte. -/
def step (s : Scanner) (byte : UInt8) : Scanner :=
  match s.mode with
  | .between => s.start byte
  | .name [] value => (s.emit (.scalar value)).start byte
  | .name (next :: due) value =>
    if byte ≠ next then s.halt (.broken .malformed .malformed)
    else if due.isEmpty then s.emit (.scalar value)
    else { s with mode := .name due value }
  | .number n =>
    match n.step byte with
    | .more n => { s with mode := .number n }
    | .ended => (s.emit n.token).start byte
    | .misplaced => s.halt (.broken .malformed .malformed)
  | .text t =>
    match t.step byte with
    | .more t => { s with mode := .text t }
    | .ended => s.emit t.token
    | .misplaced => s.halt (.brokenText .malformed .malformed)
  | .stopped => s

/-- The tokens of a text that has ended. -/
def finish (s : Scanner) : List Token :=
  let last :=
    match s.mode with
    | .between | .stopped => []
    | .name .. => [.broken .truncated .truncated]
    | .number n => if n.stage.mayEnd then [n.token] else [.broken .truncated .malformed]
    | .text t => [.brokenText (t.faultOnReading .truncated) .truncated]
  s.tokens.reverse ++ last

end Scanner

/-- The tokens of a text. -/
def scan (bytes : List UInt8) : List Token := (bytes.foldl Scanner.step ⟨.between, []⟩).finish

end MessageBundle.Json
