import AttributeRelease.Unicode.Case
import AttributeRelease.Unicode.Latest

/-!
Lower case of texts. Every character is mapped by itself, except that a capital sigma at the end of a
word becomes the final form of the letter.
-/

namespace AttributeRelease.Text

open Unicode

/-- Whether the first character that counts for case has case. -/
def meetsCased (cs : List Char) : Bool :=
  match cs.dropWhile fun c => Latest.caseIgnorable.contains c.toNat with
  | c :: _ => Latest.cased.contains c.toNat
  | [] => false

/-- The small sigma for its place between the characters before it, last first, and after it. -/
def sigma (before after : List Char) : Char :=
  if meetsCased before && !meetsCased after then 'ς' else 'σ'

/-- The lower case of the characters after those of `before`, which stand last first. -/
def lowerChars (before : List Char) : List Char → List Char
  | [] => []
  | c :: rest =>
    (if c = 'Σ' then [sigma before rest] else lowerChar c) ++ lowerChars (c :: before) rest

def lowercase (text : String) : String := String.ofList (lowerChars [] text.toList)

/-- A letter of the Latin alphabet in lower case, any other character as it is. -/
def lowerLatin (c : Char) : Char := if 'A' ≤ c ∧ c ≤ 'Z' then Char.ofNat (c.toNat + 32) else c

def lowercaseLatin (text : String) : String := text.map lowerLatin

end AttributeRelease.Text
