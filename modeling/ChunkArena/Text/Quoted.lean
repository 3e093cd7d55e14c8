import ChunkArena.Text.CharacterClass

/-!
A text as a quoted literal. Control characters with a short form get it, quotation marks and
backslashes are preceded by a backslash, and any other character that would not be seen on its own
is written as its code point in hexadecimal.
-/

namespace ChunkArena

def codePointEscape (c : Char) : List Char :=
  '\\' :: 'u' :: '\x7b' :: (Nat.toDigits 16 c.toNat ++ ['\x7d'])

def quotedChar (c : Char) : List Char :=
  match c with
  | '\x00' => ['\\', '0']
  | '\t' => ['\\', 't']
  | '\n' => ['\\', 'n']
  | '\r' => ['\\', 'r']
  | '"' => ['\\', '"']
  | '\\' => ['\\', '\\']
  | c => if isUnprintable c || isExtending c then codePointEscape c else [c]

def quoted (text : String) : String :=
  String.ofList ('"' :: (text.toList.flatMap quotedChar ++ ['"']))

end ChunkArena
