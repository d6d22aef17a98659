import MessageBundle.Text.Hidden

/-!
# Texts quoted for messages

A text that a message quotes stands between double quotes. The quote, the
backslash and the common controls are written with a backslash, and other hidden
characters by their code points, so that the message stays on one line.
-/

namespace MessageBundle.Text

/-- The code point of a character in hexadecimal, between braces. -/
def codePoint (c : Char) : List Char :=
  ['\\', 'u', '\x7b'] ++ Nat.toDigits 16 c.toNat ++ ['\x7d']

/-- A character as it is written between double quotes. -/
def quoteChar (c : Char) : List Char :=
  if c = '\x00' then ['\\', '0']
  else if c = '\t' then ['\\', 't']
  else if c = '\r' then ['\\', 'r']
  else if c = '\n' then ['\\', 'n']
  else if c = '\\' ∨ c = '"' then ['\\', c]
  else if isHidden c then codePoint c
  else [c]

/-- A text as a message quotes it. -/
def quote (s : String) : String :=
  String.ofList ('"' :: s.toList.flatMap quoteChar ++ ['"'])

end MessageBundle.Text
