import AttributeRelease.Unicode.Latest

/-!
Texts in quotation marks for diagnostic output. Quotation marks, backslashes and everything that
would not be seen are escaped: the usual control characters by a letter, the others by their code
point in braces.
-/

namespace AttributeRelease.Text

open Unicode

/-- Letters that fill the place of another one and leave it blank. -/
def fillers : List Char := ['\u115F', '\u1160', '\u3164', '\uFFA0']

/-- Marks of voice that continue the character before them, though they take a place of their own. -/
def voiceMarks : List Char := ['\uFF9E', '\uFF9F']

/-- Characters that are seen on their own when printed. -/
def isPrintable (c : Char) : Bool :=
  c = ' ' ||
    !(Latest.other.contains c.toNat || Category.separator.contains c.toNat || fillers.contains c ||
      (Latest.graphemeExtend.contains c.toNat && !voiceMarks.contains c))

def quoteChar (c : Char) : List Char :=
  if c = '"' then ['\\', '"']
  else if c = '\\' then ['\\', '\\']
  else if c = '\x00' then ['\\', '0']
  else if c = '\t' then ['\\', 't']
  else if c = '\n' then ['\\', 'n']
  else if c = '\r' then ['\\', 'r']
  else if isPrintable c then [c]
  else '\\' :: 'u' :: '\x7b' :: Nat.toDigits 16 c.toNat ++ ['\x7d']

def quoted (text : String) : String :=
  String.ofList ('"' :: text.toList.flatMap quoteChar ++ ['"'])

end AttributeRelease.Text
