import AttributeRelease.Pairwise.Computed
import AttributeRelease.Proofs.Bytes.Encodings

/-!
What computed identifiers keep apart. Each of the three parts of a message stands behind its own length, so that the
parts are read back from the message, whatever follows it; only a part too long for its length to be written in four
bytes could be mistaken for another. As both ways to write a digest keep all of it, two identifiers are the same only
where the parts are the same or the digest fails to tell two messages apart.
-/

namespace AttributeRelease.Pairwise.Generator

/-- The lengths of a salt and the two parts of a pair can be written in four bytes. -/
structure Fits (salt : Salt) (pair : Pair) : Prop where
  salt : salt.bytes.length < UInt32.size
  relyingParty : pair.relyingParty.utf8ByteSize < UInt32.size
  principal : pair.principal.utf8ByteSize < UInt32.size

theorem number_length {bytes : List UInt8} (h : bytes.length < UInt32.size) :
    Bytes.Sha2.number (Bytes.Sha2.bigEndian 4 bytes.length) = bytes.length := by
  refine Bytes.number_bigEndian ?_
  rw [Nat.shiftRight_eq_div_pow]
  exact Nat.div_eq_of_lt h

/-- Bytes are read back from their field, whatever comes behind it. -/
theorem field_append_inj {bytes bytes' rest rest' : List UInt8} (h : bytes.length < UInt32.size)
    (h' : bytes'.length < UInt32.size) (heq : field bytes ++ rest = field bytes' ++ rest') :
    bytes = bytes' ∧ rest = rest' := by
  rw [field, field, List.append_assoc, List.append_assoc] at heq
  obtain ⟨hlengths, hrest⟩ := List.append_inj heq (by simp)
  have hlength : bytes.length = bytes'.length := by rw [← number_length h, hlengths, number_length h']
  exact List.append_inj hrest hlength

/-- The parts are read back from a message, whatever comes behind it. -/
theorem message_append_inj {salt salt' : Salt} {pair pair' : Pair} {rest rest' : List UInt8} (h : Fits salt pair)
    (h' : Fits salt' pair') (heq : message salt pair ++ rest = message salt' pair' ++ rest') :
    salt = salt' ∧ pair = pair' ∧ rest = rest' := by
  have hbytes : ∀ {text : String}, text.utf8ByteSize < UInt32.size → text.toUTF8.toList.length < UInt32.size :=
    fun hsize => by rwa [Bytes.length_toUTF8]
  simp only [message, List.append_assoc] at heq
  obtain ⟨hsalt, heq⟩ := field_append_inj h.salt h'.salt heq
  obtain ⟨hrelying, heq⟩ := field_append_inj (hbytes h.relyingParty) (hbytes h'.relyingParty) heq
  obtain ⟨hprincipal, hrest⟩ := field_append_inj (hbytes h.principal) (hbytes h'.principal) heq
  obtain ⟨relyingParty, principal⟩ := pair
  obtain ⟨relyingParty', principal'⟩ := pair'
  obtain rfl : relyingParty = relyingParty' := Bytes.toUTF8_inj.1 hrelying
  obtain rfl : principal = principal' := Bytes.toUTF8_inj.1 hprincipal
  obtain ⟨bytes⟩ := salt
  obtain rfl : bytes = salt'.bytes := hsalt
  exact ⟨rfl, rfl, hrest⟩

theorem encode_injective (encoding : IdEncoding) : Function.Injective encoding.encode := by
  cases encoding with
  | base64 => exact Bytes.toBase64_injective
  | hex => exact Bytes.toHex_injective

/-- **Computed identifiers separate their inputs.** A message tells the salt, the relying party and the principal it is
made of, and none is the beginning of another one. So two identifiers of one algorithm and one encoding are the same
only if all three are the same, or if the two messages differ and have the same digest. -/
theorem identifiers_separate {salt salt' : Salt} {pair pair' : Pair} (h : Fits salt pair) (h' : Fits salt' pair') :
    (message salt pair = message salt' pair' ↔ salt = salt' ∧ pair = pair') ∧
    (message salt pair <+: message salt' pair' → message salt pair = message salt' pair') ∧
    ∀ algorithm encoding,
      generate ⟨salt, algorithm, encoding⟩ pair = generate ⟨salt', algorithm, encoding⟩ pair' →
      (salt = salt' ∧ pair = pair') ∨ (message salt pair ≠ message salt' pair' ∧
        algorithm.digest (message salt pair) = algorithm.digest (message salt' pair')) := by
  have hread : ∀ rest, message salt pair ++ rest = message salt' pair' → salt = salt' ∧ pair = pair' := by
    intro rest heq
    rw [← List.append_nil (message salt' pair')] at heq
    obtain ⟨hsalt, hpair, -⟩ := message_append_inj h h' heq
    exact ⟨hsalt, hpair⟩
  have hsame : message salt pair = message salt' pair' → salt = salt' ∧ pair = pair' := fun heq =>
    hread [] ((List.append_nil _).trans heq)
  refine ⟨⟨hsame, ?_⟩, ?_, fun algorithm encoding hids => ?_⟩
  · rintro ⟨rfl, rfl⟩
    rfl
  · rintro ⟨rest, heq⟩
    obtain ⟨rfl, rfl⟩ := hread rest heq
    rfl
  · by_cases heq : message salt pair = message salt' pair'
    · exact .inl (hsame heq)
    · exact .inr ⟨heq, encode_injective encoding hids⟩

/-! Two pairs whose parts are the same texts when put together. -/

namespace Shifted

def salt : Salt := ⟨(List.range 16).map UInt8.ofNat⟩

def pair : Pair := ⟨"https://sp.example.org/", "alice"⟩

def pair' : Pair := ⟨"https://sp.example.org/a", "lice"⟩

theorem fits : Fits salt pair := by
  constructor <;> decide

theorem fits' : Fits salt pair' := by
  constructor <;> decide

/-- The messages differ, neither is the beginning of the other, and their digests are all that could make the
identifiers the same. -/
theorem identifiers_separate_of_shifted :
    Fits salt pair ∧ Fits salt pair' ∧
      pair.relyingParty ++ pair.principal = pair'.relyingParty ++ pair'.principal ∧
      ¬ message salt pair <+: message salt pair' ∧
      ∀ algorithm encoding, generate ⟨salt, algorithm, encoding⟩ pair = generate ⟨salt, algorithm, encoding⟩ pair' →
        algorithm.digest (message salt pair) = algorithm.digest (message salt pair') := by
  obtain ⟨hsame, hbeginning, hids⟩ := identifiers_separate fits fits'
  have hne : ¬ (salt = salt ∧ pair = pair') := by decide
  refine ⟨fits, fits', by decide, fun h => hne (hsame.1 (hbeginning h)), fun algorithm encoding h => ?_⟩
  rcases hids algorithm encoding h with heq | ⟨-, hdigest⟩
  · exact absurd heq hne
  · exact hdigest

end Shifted

end AttributeRelease.Pairwise.Generator
