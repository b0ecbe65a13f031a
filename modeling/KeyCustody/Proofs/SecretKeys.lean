import KeyCustody.Proofs.Signer
import KeyCustody.Signature.Bls
import Mathlib.Data.List.Induction
import Mathlib.Data.Nat.Digits.Defs

/-!
Secrets and their bytes. Thirty-two bytes stand for a secret exactly if the number that they spell
lies in range; the secret is that number, and written out again it gives the same bytes. A signer
exists for those bytes and no others, and all that it shows and signs comes from the number.
-/

set_option autoImplicit false

namespace KeyCustody

/-! ## Numbers in big-endian order -/

namespace Bytes

-- The digits of the number that a byte string spells, the least significant first.
def digits (bytes : Bytes) : List Nat := bytes.reverse.map UInt8.toNat

theorem to_nat_snoc (front : Bytes) (last : UInt8) :
    toNat (front ++ [last]) = toNat front * 256 + last.toNat := by
  rw [toNat, List.foldl_append]
  rfl

theorem digits_snoc (front : Bytes) (last : UInt8) :
    digits (front ++ [last]) = last.toNat :: digits front := by
  rw [digits, List.reverse_append]
  rfl

theorem to_nat_digits (bytes : Bytes) : toNat bytes = Nat.ofDigits 256 (digits bytes) := by
  induction bytes using List.reverseRecOn with
  | nil => rfl
  | append_singleton front last ih =>
      rw [to_nat_snoc, digits_snoc, Nat.ofDigits_cons, ih]
      omega

theorem big_endian_succ (width n : Nat) :
    bigEndian (width + 1) n = bigEndian width (n / 256) ++ [UInt8.ofNat n] :=
  List.reverse_cons

theorem big_endian_to_nat (bytes : Bytes) : bigEndian bytes.length (toNat bytes) = bytes := by
  induction bytes using List.reverseRecOn with
  | nil => rfl
  | append_singleton front last ih =>
      have small := last.toNat_lt
      have upper : (toNat front * 256 + last.toNat) / 256 = toNat front := by omega
      have lower : UInt8.ofNat (toNat front * 256 + last.toNat) = last := by
        apply UInt8.toNat_inj.mp
        rw [UInt8.toNat_ofNat']
        omega
      rw [List.length_append, List.length_singleton, big_endian_succ, to_nat_snoc, upper, lower, ih]

theorem to_nat_big_endian (width n : Nat) (fits : n < 256 ^ width) :
    toNat (bigEndian width n) = n := by
  induction width generalizing n with
  | zero =>
      rw [Nat.pow_zero] at fits
      exact (Nat.lt_one_iff.mp fits).symm
  | succ width ih =>
      rw [Nat.pow_succ] at fits
      rw [big_endian_succ, to_nat_snoc, ih (n / 256) (by omega), UInt8.toNat_ofNat']
      omega

end Bytes

/-! ## Secrets -/

variable (S : Scheme)

theorem secret_misshapen (data : Bytes) (size : data.length ≠ 32) :
    S.secretOfBytes data = .error (.secretLength data.length) :=
  if_pos size

theorem secret_shaped (data : Bytes) (size : data.length = 32) :
    S.secretOfBytes data =
      if 0 < data.toNat ∧ data.toNat < S.order then .ok data.toNat else .error .secretRange :=
  if_neg (not_not.mpr size)

theorem secret_outside (data : Bytes) (size : data.length = 32)
    (outside : data.toNat = 0 ∨ S.order ≤ data.toNat) :
    S.secretOfBytes data = .error .secretRange := by
  rw [secret_shaped S data size]
  exact if_neg (by omega)

theorem secret_of_bytes_ok_iff (data : Bytes) (secret : Nat) :
    S.secretOfBytes data = .ok secret ↔
      data.length = 32 ∧ data.toNat = secret ∧ 0 < secret ∧ secret < S.order := by
  constructor
  · intro read
    by_cases size : data.length = 32
    · rw [secret_shaped S data size] at read
      by_cases inside : 0 < data.toNat ∧ data.toNat < S.order
      · rw [if_pos inside] at read
        cases read
        exact ⟨size, rfl, inside⟩
      · rw [if_neg inside] at read
        cases read
    · rw [secret_misshapen S data size] at read
      cases read
  · rintro ⟨size, rfl, inside⟩
    rw [secret_shaped S data size, if_pos inside]

theorem secret_written (data : Bytes) (secret : Nat)
    (read : S.secretOfBytes data = .ok secret) : Bytes.bigEndian 32 secret = data := by
  obtain ⟨size, rfl, _⟩ := (secret_of_bytes_ok_iff S data secret).mp read
  rw [← size]
  exact data.big_endian_to_nat

theorem written_secret (secret : Nat) (positive : 0 < secret) (below : secret < S.order)
    (fits : S.order ≤ 256 ^ 32) : S.secretOfBytes (Bytes.bigEndian 32 secret) = .ok secret :=
  (secret_of_bytes_ok_iff S _ secret).mpr ⟨Bytes.length_big_endian 32 secret,
    Bytes.to_nat_big_endian 32 secret (Nat.lt_of_lt_of_le below fits), positive, below⟩

/-! ## Signers -/

theorem signer_of_secret (keyed : S.Keyed) (data : Bytes) (secret : Nat)
    (read : S.secretOfBytes data = .ok secret) :
    ∃ key, S.pubkeyOf secret = .ok key ∧ Signer.ofBytes S data = .ok ⟨.plain secret, key⟩ ∧
      Signer.make S (.plain secret) = .ok ⟨.plain secret, key⟩ := by
  obtain ⟨_, _, positive, below⟩ := (secret_of_bytes_ok_iff S data secret).mp read
  have answers := (keyed.derive_isSome secret).mpr
    ⟨Int.natCast_pos.mpr positive, Int.ofNat_lt.mpr below⟩
  obtain ⟨key, told⟩ := Option.isSome_iff_exists.mp answers
  have derived := (pubkey_of_iff (secret : Int) key).mpr told
  have made : Signer.make S (.plain secret) = .ok ⟨.plain secret, key⟩ := by
    rw [Signer.make, derived]
    rfl
  refine ⟨key, derived, ?_, made⟩
  rw [Signer.ofBytes, read]
  exact made

theorem no_signer_of_secret (data : Bytes) (fault : Fault)
    (failed : S.secretOfBytes data = .error fault) : Signer.ofBytes S data = .error fault := by
  rw [Signer.ofBytes, failed]
  rfl

-- What becomes of bytes that are given for a secret.
structure Decodes (data : Bytes) : Prop where
  reads : ∀ secret, S.secretOfBytes data = .ok secret ↔
    data.length = 32 ∧ Nat.ofDigits 256 data.digits = secret ∧ 1 ≤ secret ∧ secret < Curve.order
  written : ∀ secret, S.secretOfBytes data = .ok secret → Bytes.bigEndian 32 secret = data
  misshapen : data.length ≠ 32 → S.secretOfBytes data = .error (.secretLength data.length)
  outside : data.length = 32 → Nat.ofDigits 256 data.digits = 0 ∨
    Curve.order ≤ Nat.ofDigits 256 data.digits → S.secretOfBytes data = .error .secretRange
  signer : ∀ secret, S.secretOfBytes data = .ok secret → ∃ signer,
    Signer.ofBytes S data = .ok signer ∧ Signer.make S (.plain secret) = .ok signer ∧
      S.pubkeyOf secret = .ok signer.pubkey ∧
      ∀ chain message, signer.sign S chain message = S.signMessage chain secret message
  noSigner : ∀ fault, S.secretOfBytes data = .error fault → Signer.ofBytes S data = .error fault

theorem bytes_decode (keyed : S.Keyed) (sized : S.order = Curve.order) (data : Bytes) :
    Decodes S data where
  reads secret := by
    rw [secret_of_bytes_ok_iff, Bytes.to_nat_digits, sized]
    exact Iff.rfl
  written := secret_written S data
  misshapen := secret_misshapen S data
  outside size outside := by
    rw [← Bytes.to_nat_digits, ← sized] at outside
    exact secret_outside S data size outside
  signer secret read := by
    obtain ⟨key, derived, rebuilt, made⟩ := signer_of_secret S keyed data secret read
    exact ⟨_, rebuilt, made, derived, fun _ _ => rfl⟩
  noSigner := no_signer_of_secret S data

theorem secrets_decode_exactly (keyed : S.Keyed) (sized : S.order = Curve.order) :
    (∀ data, Decodes S data) ∧
      ∀ secret, 1 ≤ secret → secret < Curve.order →
        S.secretOfBytes (Bytes.bigEndian 32 secret) = .ok secret := by
  refine ⟨bytes_decode S keyed sized, fun secret positive below => ?_⟩
  have fits : S.order ≤ 256 ^ 32 := sized ▸ (by decide : Curve.order ≤ 256 ^ 32)
  exact written_secret S secret positive (sized ▸ below) fits

/-! ## Secrets of the curve -/

theorem point_encoding_length (point : Curve.G1) : (Curve.G1.encode point).length = 48 := by
  rw [Curve.G1.encode]
  split <;> exact Bytes.length_big_endian 48 _

theorem Bls.keyed : Bls.scheme.Keyed where
  derive_isSome secret := by
    change (Bls.derive secret).isSome = true ↔ 0 < secret ∧ secret < Curve.order
    have range : Bls.isSecret secret = true ↔ 0 < secret ∧ secret < Curve.order := by
      simp only [Bls.isSecret, Bool.and_eq_true, decide_eq_true_eq]
    rw [← range, Bls.derive]
    by_cases inside : Bls.isSecret secret = true <;> simp [inside]
  length_derive secret key derived := by
    obtain ⟨_, told⟩ := Option.ite_none_right_eq_some.mp derived
    cases told
    exact point_encoding_length _

-- The last secret in range, the first number behind it, and one byte too few.
theorem curve_secrets_decode :
    Bls.scheme.secretOfBytes (Bytes.bigEndian 32 (Curve.order - 1)) = .ok (Curve.order - 1) ∧
      Bls.scheme.secretOfBytes (Bytes.bigEndian 32 Curve.order) = .error .secretRange ∧
      Signer.ofBytes Bls.scheme (Bytes.zeros 31) = .error (.secretLength 31) := by
  obtain ⟨decodes, written⟩ := secrets_decode_exactly Bls.scheme Bls.keyed rfl
  refine ⟨written (Curve.order - 1) (by decide) (by decide), ?_, ?_⟩
  · exact (decodes _).outside rfl (Or.inr (by decide +kernel))
  · exact (decodes (Bytes.zeros 31)).noSigner _ ((decodes (Bytes.zeros 31)).misshapen (by decide))

end KeyCustody
