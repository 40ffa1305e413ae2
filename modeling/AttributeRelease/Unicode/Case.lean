import AttributeRelease.Unicode.CharSet

/-!
Case mappings of single characters: to lower case, and to the representative of all characters that
differ in case only. Texts are put in lower case by the seventeenth edition of the Unicode standard; patterns
that ignore case go by the sixteenth.
-/

namespace AttributeRelease.Unicode

/-- Moves the code points of a progression by a fixed distance. -/
structure Shift where
  range : Progression
  distance : Int

namespace Shift

/-- Reads a shift written as a progression and a hexadecimal distance with `:` between them. -/
def ofText? (text : List Char) : Option Shift :=
  match text.splitOn ':' with
  | [range, distance] => do
    let range ← Progression.ofText? range
    match distance with
    | '-' :: digits => return ⟨range, -(← hexNumber? digits : Nat)⟩
    | digits => return ⟨range, (← hexNumber? digits : Nat)⟩
  | _ => none

def ofTexts (text : String) : List Shift := (words text).filterMap ofText?

/-- Where a code point goes; those of no progression stay. -/
def apply (shifts : List Shift) (c : Nat) : Nat :=
  match shifts.find? (·.range.contains c) with
  | some s => (c + s.distance).toNat
  | none => c

/-- The code points that are moved, with the places where they go. -/
def table (shifts : List Shift) : List (Nat × Nat) :=
  shifts.flatMap fun s => s.range.toList.map fun c => (c, (c + s.distance).toNat)

end Shift

/-- Letters whose lower case is one other character. -/
def lowerShifts : List Shift :=
  Shift.ofTexts "41-5a:20 c0-d6:20 d8-de:20 100-12e/2:1 132-136/2:1 139-147/2:1 14a-176/2:1 178:-79
    179-17d/2:1 181:d2 182-184/2:1 186:ce 187:1 189-18a:cd 18b:1 18e:4f 18f:ca 190:cb 191:1 193:cd 194:cf
    196:d3 197:d1 198:1 19c:d3 19d:d5 19f:d6 1a0-1a4/2:1 1a6:da 1a7:1 1a9:da 1ac:1 1ae:da 1af:1
    1b1-1b2:d9 1b3-1b5/2:1 1b7:db 1b8:1 1bc:1 1c4:2 1c5:1 1c7:2 1c8:1 1ca:2 1cb-1db/2:1 1de-1ee/2:1 1f1:2
    1f2-1f4/2:1 1f6:-61 1f7:-38 1f8-21e/2:1 220:-82 222-232/2:1 23a:2a2b 23b:1 23d:-a3 23e:2a28 241:1
    243:-c3 244:45 245:47 246-24e/2:1 370-372/2:1 376:1 37f:74 386:26 388-38a:25 38c:40 38e-38f:3f
    391-3a1:20 3a3-3ab:20 3cf:8 3d8-3ee/2:1 3f4:-3c 3f7:1 3f9:-7 3fa:1 3fd-3ff:-82 400-40f:50 410-42f:20
    460-480/2:1 48a-4be/2:1 4c0:f 4c1-4cd/2:1 4d0-52e/2:1 531-556:30 10a0-10c5:1c60 10c7:1c60 10cd:1c60
    13a0-13ef:97d0 13f0-13f5:8 1c89:1 1c90-1cba:-bc0 1cbd-1cbf:-bc0 1e00-1e94/2:1 1e9e:-1dbf
    1ea0-1efe/2:1 1f08-1f0f:-8 1f18-1f1d:-8 1f28-1f2f:-8 1f38-1f3f:-8 1f48-1f4d:-8 1f59-1f5f/2:-8
    1f68-1f6f:-8 1f88-1f8f:-8 1f98-1f9f:-8 1fa8-1faf:-8 1fb8-1fb9:-8 1fba-1fbb:-4a 1fbc:-9 1fc8-1fcb:-56
    1fcc:-9 1fd8-1fd9:-8 1fda-1fdb:-64 1fe8-1fe9:-8 1fea-1feb:-70 1fec:-7 1ff8-1ff9:-80 1ffa-1ffb:-7e
    1ffc:-9 2126:-1d5d 212a:-20bf 212b:-2046 2132:1c 2160-216f:10 2183:1 24b6-24cf:1a 2c00-2c2f:30 2c60:1
    2c62:-29f7 2c63:-ee6 2c64:-29e7 2c67-2c6b/2:1 2c6d:-2a1c 2c6e:-29fd 2c6f:-2a1f 2c70:-2a1e 2c72:1
    2c75:1 2c7e-2c7f:-2a3f 2c80-2ce2/2:1 2ceb-2ced/2:1 2cf2:1 a640-a66c/2:1 a680-a69a/2:1 a722-a72e/2:1
    a732-a76e/2:1 a779-a77b/2:1 a77d:-8a04 a77e-a786/2:1 a78b:1 a78d:-a528 a790-a792/2:1 a796-a7a8/2:1
    a7aa:-a544 a7ab:-a54f a7ac:-a54b a7ad:-a541 a7ae:-a544 a7b0:-a512 a7b1:-a52a a7b2:-a515 a7b3:3a0
    a7b4-a7c2/2:1 a7c4:-30 a7c5:-a543 a7c6:-8a38 a7c7-a7c9/2:1 a7cb:-a567 a7cc-a7da/2:1 a7dc:-a641 a7f5:1
    ff21-ff3a:20 10400-10427:28 104b0-104d3:28 10570-1057a:27 1057c-1058a:27 1058c-10592:27
    10594-10595:27 10c80-10cb2:40 10d50-10d65:20 118a0-118bf:20 16e40-16e5f:20 16ea0-16eb8:1b
    1e900-1e921:22"

/-- Each character that has variants in case, the first of them apart, goes to the first. -/
def foldShifts : List Shift :=
  Shift.ofTexts "61-7a:-20 e0-f6:-20 f8-fe:-20 101-12f/2:-1 133-137/2:-1 13a-148/2:-1 14b-177/2:-1 178:-79
    17a-17e/2:-1 17f:-12c 183-185/2:-1 188:-1 18c:-1 192:-1 199:-1 1a1-1a5/2:-1 1a8:-1 1ad:-1 1b0:-1
    1b4-1b6/2:-1 1b9:-1 1bd:-1 1c5:-1 1c6:-2 1c8:-1 1c9:-2 1cb:-1 1cc:-2 1ce-1dc/2:-1 1dd:-4f
    1df-1ef/2:-1 1f2:-1 1f3:-2 1f5:-1 1f6:-61 1f7:-38 1f9-21f/2:-1 220:-82 223-233/2:-1 23c:-1 23d:-a3
    242:-1 243:-c3 247-24f/2:-1 253:-d2 254:-ce 256-257:-cd 259:-ca 25b:-cb 260:-cd 263:-cf 268:-d1
    269:-d3 26f:-d3 272:-d5 275:-d6 280:-da 283:-da 288:-da 289:-45 28a-28b:-d9 28c:-47 292:-db
    371-373/2:-1 377:-1 399:-54 39c:-2e7 3ac:-26 3ad-3af:-25 3b1-3b8:-20 3b9:-74 3ba-3bb:-20 3bc:-307
    3bd-3c1:-20 3c2:-1f 3c3-3cb:-20 3cc:-40 3cd-3ce:-3f 3d0:-3e 3d1:-39 3d5:-2f 3d6:-36 3d7:-8
    3d9-3ef/2:-1 3f0:-56 3f1:-50 3f3:-74 3f4:-5c 3f5:-60 3f8:-1 3f9:-7 3fb:-1 3fd-3ff:-82 430-44f:-20
    450-45f:-50 461-481/2:-1 48b-4bf/2:-1 4c2-4ce/2:-1 4cf:-f 4d1-52f/2:-1 561-586:-30 13f8-13fd:-8
    1c80:-186e 1c81:-186d 1c82:-1864 1c83-1c84:-1862 1c85:-1863 1c86:-185c 1c87:-1825 1c8a:-1
    1c90-1cba:-bc0 1cbd-1cbf:-bc0 1e01-1e95/2:-1 1e9b:-3b 1e9e:-1dbf 1ea1-1eff/2:-1 1f08-1f0f:-8
    1f18-1f1d:-8 1f28-1f2f:-8 1f38-1f3f:-8 1f48-1f4d:-8 1f59-1f5f/2:-8 1f68-1f6f:-8 1f88-1f8f:-8
    1f98-1f9f:-8 1fa8-1faf:-8 1fb8-1fb9:-8 1fba-1fbb:-4a 1fbc:-9 1fbe:-1c79 1fc8-1fcb:-56 1fcc:-9
    1fd3:-1c43 1fd8-1fd9:-8 1fda-1fdb:-64 1fe3:-1c33 1fe8-1fe9:-8 1fea-1feb:-70 1fec:-7 1ff8-1ff9:-80
    1ffa-1ffb:-7e 1ffc:-9 2126:-1d7d 212a:-20df 212b:-2066 214e:-1c 2170-217f:-10 2184:-1 24d0-24e9:-1a
    2c30-2c5f:-30 2c61:-1 2c62:-29f7 2c63:-ee6 2c64:-29e7 2c65:-2a2b 2c66:-2a28 2c68-2c6c/2:-1 2c6d:-2a1c
    2c6e:-29fd 2c6f:-2a1f 2c70:-2a1e 2c73:-1 2c76:-1 2c7e-2c7f:-2a3f 2c81-2ce3/2:-1 2cec-2cee/2:-1
    2cf3:-1 2d00-2d25:-1c60 2d27:-1c60 2d2d:-1c60 a641-a649/2:-1 a64a:-89c2 a64b:-89c3 a64d-a66d/2:-1
    a681-a69b/2:-1 a723-a72f/2:-1 a733-a76f/2:-1 a77a-a77c/2:-1 a77d:-8a04 a77f-a787/2:-1 a78c:-1
    a78d:-a528 a791-a793/2:-1 a797-a7a9/2:-1 a7aa:-a544 a7ab:-a54f a7ac:-a54b a7ad:-a541 a7ae:-a544
    a7b0:-a512 a7b1:-a52a a7b2:-a515 a7b5-a7c3/2:-1 a7c4:-30 a7c5:-a543 a7c6:-8a38 a7c8-a7ca/2:-1
    a7cb:-a567 a7cd:-1 a7d1:-1 a7d7-a7db/2:-1 a7dc:-a641 a7f6:-1 ab53:-3a0 ab70-abbf:-97d0 fb06:-1
    ff41-ff5a:-20 10428-1044f:-28 104d8-104fb:-28 10597-105a1:-27 105a3-105b1:-27 105b3-105b9:-27
    105bb-105bc:-27 10cc0-10cf2:-40 10d70-10d85:-20 118c0-118df:-20 16e60-16e7f:-20 1e922-1e943:-22"

/-- The characters that differ in case only from an earlier one, with that one. -/
def caseTable : List (Nat × Nat) := Shift.table foldShifts

def asciiCaseTable : List (Nat × Nat) := Shift.table [⟨⟨0x61, 0x7A, 1⟩, -0x20⟩]

/-- The lower case of a character by itself. Only the dotted capital I becomes two characters. -/
def lowerChar (c : Char) : List Char :=
  if c.toNat = 0x130 then ['i', '\u0307']
  else [Char.ofNat (Shift.apply lowerShifts c.toNat)]

end AttributeRelease.Unicode
