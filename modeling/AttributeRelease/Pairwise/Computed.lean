import AttributeRelease.Bytes.Base64
import AttributeRelease.Bytes.Hex
import AttributeRelease.Bytes.Sha2
import AttributeRelease.Pairwise.Dialogue
import AttributeRelease.Text.Lowercase

/-!
Computed identifiers. The identifier of a pair is a digest over a secret salt, the relying party and
the principal. Each of the three is preceded by its length in four bytes, so that no two different
inputs feed the same bytes to the digest.
-/

namespace AttributeRelease.Pairwise

/-- The digest that identifiers are computed with. -/
inductive DigestAlgorithm where
  | sha256
  | sha512
  deriving DecidableEq, Repr

namespace DigestAlgorithm

def name : DigestAlgorithm → String
  | .sha256 => "sha256"
  | .sha512 => "sha512"

/-- The algorithm with a name, in either case; a hyphen may stand before the number. -/
def ofName (text : String) : Except String DigestAlgorithm :=
  match Text.lowercaseLatin text with
  | "sha256" | "sha-256" => .ok .sha256
  | "sha512" | "sha-512" => .ok .sha512
  | other => .error s!"unknown digest algorithm '{other}'"

def digest : DigestAlgorithm → List UInt8 → List UInt8
  | .sha256 => Bytes.sha256
  | .sha512 => Bytes.sha512

end DigestAlgorithm

/-- How digests are written. -/
inductive IdEncoding where
  | base64
  | hex
  deriving DecidableEq, Repr

namespace IdEncoding

def name : IdEncoding → String
  | .base64 => "base64"
  | .hex => "hex"

/-- The encoding with a name, in either case. -/
def ofName (text : String) : Except String IdEncoding :=
  match Text.lowercaseLatin text with
  | "base64" => .ok .base64
  | "hex" => .ok .hex
  | other => .error s!"unknown identifier encoding '{other}'"

def encode : IdEncoding → List UInt8 → String
  | .base64 => Bytes.toBase64
  | .hex => Bytes.toHex

end IdEncoding

/-- A secret salt. -/
structure Salt where
  bytes : List UInt8
  deriving DecidableEq

namespace Salt

def ofString (text : String) : Salt := ⟨text.toUTF8.toList⟩

/-- What may be shown of a salt: its length. -/
def redacted (s : Salt) : String := s!"Salt([REDACTED; {s.bytes.length} bytes])"

end Salt

/-- Computes identifiers from a salt. -/
structure Generator where
  salt : Salt
  algorithm : DigestAlgorithm := .sha256
  encoding : IdEncoding := .base64

namespace Generator

/-- Bytes preceded by their length. -/
def field (bytes : List UInt8) : List UInt8 := Bytes.Sha2.bigEndian 4 bytes.length ++ bytes

/-- What the digest is taken of. -/
def message (salt : Salt) (pair : Pair) : List UInt8 :=
  field salt.bytes ++ field pair.relyingParty.toUTF8.toList ++ field pair.principal.toUTF8.toList

def generate (g : Generator) (pair : Pair) : String :=
  g.encoding.encode (g.algorithm.digest (message g.salt pair))

end Generator

end AttributeRelease.Pairwise
