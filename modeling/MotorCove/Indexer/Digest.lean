import Mathlib.Logic.Equiv.List
import Mathlib.Tactic.DeriveEncodable
import MotorCove.Indexer.Schema
import MotorCove.Indexer.Events

/-!
# A digest that tells all evidence apart

The number of the evidence in an enumeration is one; for a mint the digests are
short texts.
-/

set_option autoImplicit false

namespace MotorCove.Indexer
open MotorCove.Text

instance encodableChar : Encodable Char :=
  .ofLeftInjection Char.toNat (fun n => some (Char.ofNat n)) fun c => by simp

instance encodableString : Encodable String :=
  .ofLeftInjection String.toList (fun l => some (String.ofList l)) fun s => by simp

deriving instance Encodable for ClaimKind
deriving instance Encodable for NormalizedEvent
deriving instance Encodable for Envelope
deriving instance Encodable for Evidence

def encodedDigest (e : Evidence) : String := Nat.repr (Encodable.encode e)

theorem encodedDigest_injective : Function.Injective encodedDigest :=
  fun _ _ h => Encodable.encode_injective (repr_injective.mp h)

def mint : OrderedEvent where
  blockNumber := 5
  blockHash := hex 64 1
  transactionHash := hex 64 2
  transactionIndex := 0
  logIndex := 0
  contractAddress := hex 40 3
  topics := []
  data := "0x"
  event := .transfer "1" (hex 40 0) (hex 40 4)

def mintBlock : BlockHeader := ⟨5, hex 64 1, hex 64 0, 1000⟩

/-- One piece of evidence gets a short text instead. -/
def named (evidence : Evidence) (text : String) (digest : Evidence → String) (e : Evidence) :
    String :=
  if e = evidence then text else digest e

section
variable {evidence : Evidence} {text : String} {digest : Evidence → String}

theorem named_ne {other : String} (htext : text ≠ other) (hdigest : ∀ e, digest e ≠ other)
    (e : Evidence) : named evidence text digest e ≠ other := by
  unfold named
  split
  · exact htext
  · exact hdigest e

theorem named_injective (hdigest : Function.Injective digest) (htext : ∀ e, digest e ≠ text) :
    Function.Injective (named evidence text digest) := by
  intro a b h
  unfold named at h
  split at h
  · split at h
    · rw [‹a = evidence›, ‹b = evidence›]
    · exact absurd h.symm (htext b)
  · split at h
    · exact absurd h (htext a)
    · exact hdigest h

theorem named_lower (htext : lower text = text) (hdigest : ∀ e, lower (digest e) = digest e)
    (e : Evidence) : lower (named evidence text digest e) = named evidence text digest e := by
  unfold named
  split
  · exact htext
  · exact hdigest e

end

/-- The same with short digests for the mint. -/
def mintDigest : Evidence → String :=
  named (.envelope (eventEnvelope mint.toEnvelope)) "envelope" <|
    named (.record (eventEnvelope mint.toEnvelope) mint.event decoderVersion) "record" <|
      named (.envelopes [eventEnvelope mint.toEnvelope]) "envelopes" encodedDigest

theorem encodedDigest_ne {s : String} (hs : ∃ c ∈ s.toList, c.isDigit = false) (e : Evidence) :
    encodedDigest e ≠ s := by
  rintro rfl
  obtain ⟨c, hc, hdigit⟩ := hs
  rw [encodedDigest] at hc
  rw [repr_isDigit _ c hc] at hdigit
  cases hdigit

theorem mintDigest_injective : Function.Injective mintDigest := by
  have henvelopes := encodedDigest_ne (s := "envelopes") ⟨'e', by decide, by decide⟩
  have hrecord := encodedDigest_ne (s := "record") ⟨'r', by decide, by decide⟩
  have henvelope := encodedDigest_ne (s := "envelope") ⟨'e', by decide, by decide⟩
  apply named_injective
  · apply named_injective
    · exact named_injective encodedDigest_injective henvelopes
    · exact named_ne (by decide) hrecord
  · exact named_ne (by decide) (named_ne (by decide) henvelope)

theorem encodedDigest_lower (e : Evidence) : lower (encodedDigest e) = encodedDigest e := by
  apply lower_of_forall
  intro c hc
  have hdigit := isDigit_bounds (repr_isDigit _ c hc)
  unfold Char.toLower
  rw [dif_neg]
  rintro ⟨h₁, _⟩
  change 65 ≤ c.toNat at h₁
  omega

theorem mintDigest_lower (e : Evidence) : lower (mintDigest e) = mintDigest e := by
  refine named_lower (by decide +kernel) (fun e => ?_) e
  refine named_lower (by decide +kernel) (fun e => ?_) e
  exact named_lower (by decide +kernel) encodedDigest_lower e

end MotorCove.Indexer
