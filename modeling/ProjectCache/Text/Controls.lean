/-
# ProjectCache.Text.Controls — text that steers no terminal.

A terminal takes some characters for orders. In a log they are spelled out, so that what was logged
can be told (`spelledOut`). In text for readers they are left out, together with the sequences that
they open (`withoutOrders`): short ones of a few characters, those with parameters, and titles and
messages of any length, which last until their own end.
-/
namespace ProjectCache.Text

/-! ## Spelling out -/

/-- The control characters below U+0080 that a terminal acts on beyond the line. -/
def orders : List Char := ['\x07', '\x08', '\x0c', '\x1b', '\x7f']

/-- A character as a log shows it. -/
def spelledChar (c : Char) : List Char :=
  if orders.contains c then
    '\\' :: 'x' :: [Nat.digitChar (c.toNat / 16), Nat.digitChar (c.toNat % 16)]
  else if 0x80 ≤ c.toNat && c.toNat ≤ 0x9f then
    '\\' :: 'u' :: '\x7b' :: (Nat.toDigits 16 c.toNat ++ ['\x7d'])
  else [c]

/-- Text as a log shows it. -/
def spelledOut (text : String) : String := String.ofList (text.toList.flatMap spelledChar)

/-! ## Leaving out -/

/-- What a terminal takes the next character for. -/
inductive Expecting where
  /-- Text. -/
  | text
  /-- What follows the escape character. -/
  | escape
  /-- The last character of a short sequence. -/
  | shortEnd
  /-- Parameters, or the character that ends them. -/
  | parameters
  /-- A title, which a bell ends. -/
  | title
  /-- A message, which the string terminator ends. -/
  | message
  deriving DecidableEq

/-- Is the character a control character that only moves on in the text? -/
def movesOn (c : Char) : Bool := c = '\t' || c = '\n' || c = '\x0c' || c = '\r'

/-- Is the code of the character between two others? -/
def isWithin (low high : Nat) (c : Char) : Bool := low ≤ c.toNat && c.toNat ≤ high

/-- Does the UTF-8 form of a character hold the byte that is the string terminator? -/
def holdsTerminator (c : Char) : Bool :=
  0x80 ≤ c.toNat && (String.utf8EncodeChar c).contains 0x9c

/-- What follows the escape character. -/
def Expecting.ofEscape (c : Char) : Expecting :=
  if c = '[' then .parameters
  else if c = ']' then .title
  else if ['P', 'X', '^', '_'].contains c then .message
  else if isWithin 0x20 0x2f c then .shortEnd
  else if isWithin 0x30 0x7e c then .text
  else .escape

/-- What is expected behind a character, and whether the character is shown. -/
def Expecting.next (expecting : Expecting) (c : Char) : Expecting × Bool :=
  if c = '\x1b' then (.escape, false)
  else if c = '\x18' ∨ c = '\x1a' then (.text, false)
  else
    match expecting with
    | .text => (.text, movesOn c || (0x20 ≤ c.toNat && c ≠ '\x7f'))
    | .escape => if movesOn c then (.text, true) else (.ofEscape c, false)
    | .shortEnd =>
      if movesOn c then (.text, true)
      else (if isWithin 0x30 0x7e c then .text else .shortEnd, false)
    | .parameters =>
      if movesOn c then (.text, true)
      else (if isWithin 0x40 0x7e c then .text else .parameters, false)
    | .title => (if c = '\x07' then .text else .title, false)
    | .message => (if holdsTerminator c then .text else .message, false)

/-- Leaves out orders, when something is expected at the start. -/
def leaveOut : Expecting → List Char → List Char
  | _, [] => []
  | expecting, c :: cs =>
    match expecting.next c with
    | (next, true) => c :: leaveOut next cs
    | (next, false) => leaveOut next cs

/-- Text without orders. -/
def withoutOrders (text : String) : String := String.ofList (leaveOut .text text.toList)

end ProjectCache.Text
