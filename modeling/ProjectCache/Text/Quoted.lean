/-
# ProjectCache.Text.Quoted — text quoted for a message.

`quoted` puts text between double quotes so that a reader of a message sees each character: quotes,
backslashes and line ends are written with a backslash, and characters that do not print by
themselves (`isUnmarked`) as their code in braces.
-/
import ProjectCache.Text.Unmarked

namespace ProjectCache.Text

/-- One character inside the quotes. -/
def quotedChar (c : Char) : List Char :=
  if c = '"' then ['\\', '"']
  else if c = '\\' then ['\\', '\\']
  else if c = '\n' then ['\\', 'n']
  else if c = '\r' then ['\\', 'r']
  else if c = '\t' then ['\\', 't']
  else if c.toNat = 0 then ['\\', '0']
  else if isUnmarked c then
    '\\' :: 'u' :: '\x7b' :: (Nat.toDigits 16 c.toNat ++ ['\x7d'])
  else [c]

/-- Text between double quotes. -/
def quoted (s : String) : String :=
  String.ofList ('"' :: (s.toList.flatMap quotedChar ++ ['"']))

/-- The number of bytes of the text's UTF-8 form. -/
def byteLength (cs : List Char) : Nat :=
  cs.foldl (fun n c => n + c.utf8Size) 0

end ProjectCache.Text
