import Mathlib.Data.List.OfFn
import Mathlib.Tactic.NormNum
import OidcLogin.Base64
import OidcLogin.Output

/-! `CryptoString n`: the smallest number of random bytes whose unpadded base64
encoding is longer than `n`, read from `crypto/rand` and encoded.

The loop `for n >= EncodedLen(numBytes) { numBytes++ }` is `numBytesFrom`; it stops
at the least `k` with `EncodedLen k > n`. Go's `int` is 64 bits wide: for
`n ≤ 2 ^ 59` every `EncodedLen` the loop evaluates stays below `2 ^ 63`, so the
unbounded arithmetic here is the machine's.
-/

set_option autoImplicit false

namespace OidcLogin
open Base64

/-- What `rand.Read` does to a buffer of the given length: fill it, or fail. -/
abbrev Read := (length : Nat) → Option (Fin length → UInt8)

/-- The loop of `CryptoString`, from a given `numBytes` on. -/
def numBytesFrom (n : Int) (numBytes : Nat) : Nat :=
  if h : n ≥ encodedLen numBytes then numBytesFrom n (numBytes + 1) else numBytes
termination_by (n + 1 - numBytes).toNat
decreasing_by have := le_encodedLen numBytes; omega

def cryptoString (read : Read) (n : Int) : Go String :=
  match read (numBytesFrom n 0) with
  | none => .error "could not generate cryptographically secure random string!"
  | some b => .ok (encodeToString (List.ofFn b))

/-! ## The loop -/

theorem numBytesFrom_spec (n : Int) (start : Nat) :
    start ≤ numBytesFrom n start ∧ n < encodedLen (numBytesFrom n start) ∧
      ∀ k, start ≤ k → k < numBytesFrom n start → encodedLen k ≤ n := by
  induction start using numBytesFrom.induct n with
  | case1 numBytes within ih =>
    rw [numBytesFrom, dif_pos within]
    obtain ⟨above, exceeds, checked⟩ := ih
    refine ⟨by omega, exceeds, fun k low high => ?_⟩
    rcases Nat.eq_or_lt_of_le low with rfl | low
    · exact within
    · exact checked k low high
  | case2 numBytes beyond =>
    rw [numBytesFrom, dif_neg beyond]
    exact ⟨le_rfl, by omega, fun k low high => by omega⟩

theorem numBytesFrom_least (n : Int) :
    n < encodedLen (numBytesFrom n 0) ∧ ∀ k, n < encodedLen k → numBytesFrom n 0 ≤ k := by
  obtain ⟨-, exceeds, checked⟩ := numBytesFrom_spec n 0
  refine ⟨exceeds, fun k above => Nat.not_lt.mp fun below => ?_⟩
  have := checked k (Nat.zero_le k) below
  omega

theorem numBytesFrom_eq {n : Int} {k : Nat} (exceeds : n < encodedLen k)
    (checked : k = 0 ∨ encodedLen (k - 1) ≤ n) : numBytesFrom n 0 = k := by
  obtain ⟨above, least⟩ := numBytesFrom_least n
  have le := least k exceeds
  rcases checked with rfl | checked
  · omega
  · by_contra ne
    have := encodedLen_mono (show numBytesFrom n 0 ≤ k - 1 by omega)
    omega

theorem encodedLen_pred_numBytesFrom {n : Int} (nonneg : 0 ≤ n) :
    0 < numBytesFrom n 0 ∧ encodedLen (numBytesFrom n 0 - 1) ≤ n := by
  obtain ⟨-, exceeds, checked⟩ := numBytesFrom_spec n 0
  have positive : 0 < numBytesFrom n 0 := Nat.pos_of_ne_zero fun zero => by
    rw [zero] at exceeds; simp [encodedLen] at exceeds; omega
  exact ⟨positive, checked _ (Nat.zero_le _) (by omega)⟩

theorem encodedLen_numBytesFrom_le {n : Int} (nonneg : 0 ≤ n) :
    encodedLen (numBytesFrom n 0) ≤ n + 2 := by
  obtain ⟨positive, previous⟩ := encodedLen_pred_numBytesFrom nonneg
  have step := encodedLen_succ_le (numBytesFrom n 0 - 1)
  rw [Nat.sub_add_cancel positive] at step
  omega

theorem numBytesFrom_no_overflow {n : Int} (nonneg : 0 ≤ n) (bounded : n ≤ 2 ^ 59) :
    numBytesFrom n 0 * 8 + 5 < 2 ^ 63 := by
  obtain ⟨positive, previous⟩ := encodedLen_pred_numBytesFrom nonneg
  have : (2 : Int) ^ 59 = 576460752303423488 := by norm_num
  unfold encodedLen at previous
  norm_num
  omega

theorem numBytesFrom_thirty : numBytesFrom 30 0 = 23 :=
  numBytesFrom_eq (by decide) (.inr (by decide))

/-! ## The returned string -/

theorem cryptoString_of_read {read : Read} {n : Int} {b : Fin (numBytesFrom n 0) → UInt8}
    (filled : read (numBytesFrom n 0) = some b) :
    cryptoString read n = .ok (encodeToString (List.ofFn b)) := by
  simp [cryptoString, filled]

theorem cryptoString_ok {read : Read} {n : Int} {s : String} (returned : cryptoString read n = .ok s) :
    s.length = encodedLen (numBytesFrom n 0) ∧ ∀ c ∈ s.data, c ∈ encodeURL := by
  unfold cryptoString at returned
  split at returned
  · cases returned
  · cases returned
    exact ⟨by rw [length_encodeToString, List.length_ofFn], mem_encode _⟩

theorem length_cryptoString_thirty {read : Read} {s : String} (returned : cryptoString read 30 = .ok s) :
    s.length = 31 := by
  rw [(cryptoString_ok returned).1, numBytesFrom_thirty]
  rfl

/-- `CryptoString` stops at the least byte count whose encoding exceeds `n`, without
overflowing a 64-bit `int`, and returns that many base64 characters of the URL-safe
alphabet, between `n + 1` and `n + 2` of them; `CryptoString(30)` has 31. -/
theorem cryptoString_length (n : Int) (nonneg : 0 ≤ n) (bounded : n ≤ 2 ^ 59) :
    (n < encodedLen (numBytesFrom n 0) ∧ ∀ k, n < encodedLen k → numBytesFrom n 0 ≤ k) ∧
    numBytesFrom n 0 * 8 + 5 < 2 ^ 63 ∧
    (∀ (read : Read) b, read (numBytesFrom n 0) = some b →
      ∃ s, cryptoString read n = .ok s ∧ s.length = encodedLen (numBytesFrom n 0) ∧
        (∀ c ∈ s.data, c ∈ encodeURL) ∧ n + 1 ≤ s.length ∧ s.length ≤ n + 2) ∧
    ∀ (read : Read) s, cryptoString read 30 = .ok s → s.length = 31 := by
  refine ⟨numBytesFrom_least n, numBytesFrom_no_overflow nonneg bounded,
    fun read b filled => ?_, fun _ _ => length_cryptoString_thirty⟩
  have returned := cryptoString_of_read filled
  obtain ⟨length, alphabet⟩ := cryptoString_ok returned
  have := (numBytesFrom_least n).1
  have := encodedLen_numBytesFrom_le nonneg
  exact ⟨_, returned, length, alphabet, by omega, by omega⟩

theorem cryptoString_length_thirty :
    (0 : Int) ≤ 30 ∧ (30 : Int) ≤ 2 ^ 59 ∧
      numBytesFrom 30 0 * 8 + 5 < 2 ^ 63 :=
  ⟨by norm_num, by norm_num, (cryptoString_length 30 (by norm_num) (by norm_num)).2.1⟩

end OidcLogin
