import Roaming.Text.Extending
import Roaming.Text.Hex
import Roaming.Text.Unprintable

namespace Roaming.Text

/-! Text in quotes for a reader of messages.  What cannot be seen on its own is written as a code
point. -/

def codePoint (c : Char) : List Char :=
  "\\u\x7b".toList ++ shortestHex c.toNat ++ ['\x7d']

def quoteChar (c : Char) : List Char :=
  if c = '\x00' then ['\\', '0']
  else if c = '\t' then ['\\', 't']
  else if c = '\r' then ['\\', 'r']
  else if c = '\n' then ['\\', 'n']
  else if c = '"' || c = '\\' then ['\\', c]
  else if isExtending c || isUnprintable c then codePoint c
  else [c]

def quote (text : String) : String :=
  String.ofList ('"' :: text.toList.flatMap quoteChar ++ ['"'])

end Roaming.Text
