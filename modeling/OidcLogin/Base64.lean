import Mathlib.Data.List.Basic

/-! The standard library's unpadded URL-safe base64 encoder, `base64.RawURLEncoding`,
as `CryptoString` uses it: `EncodedLen` and `EncodeToString`.

`encode` follows `Encoding.Encode`: whole 24-bit groups first, then the one or two
bytes left over, with no padding characters. `EncodeToString` allocates
`EncodedLen (len src)` bytes for it; `length_encode` shows that `encode` fills
exactly that many.
-/

set_option autoImplicit false

namespace OidcLogin.Base64

def encodeURL : List Char :=
  "ABCDEFGHIJKLMNOPQRSTUVWXYZabcdefghijklmnopqrstuvwxyz0123456789-_".toList

theorem encodeURL_length : encodeURL.length = 64 := rfl

def encodeChar (x : Nat) : Char :=
  encodeURL.get ⟨x &&& 0x3F, encodeURL_length ▸ Nat.and_lt_two_pow x (n := 6) (by decide)⟩

theorem encodeChar_mem (x : Nat) : encodeChar x ∈ encodeURL := List.get_mem _ _ _

/-- `EncodedLen` when there is no padding: six bits a character, rounded up. -/
def encodedLen (n : Nat) : Nat := (n * 8 + 5) / 6

def encode : List UInt8 → List Char
  | b₀ :: b₁ :: b₂ :: rest =>
    let val := b₀.toNat <<< 16 ||| b₁.toNat <<< 8 ||| b₂.toNat
    [encodeChar (val >>> 18), encodeChar (val >>> 12), encodeChar (val >>> 6), encodeChar val] ++
      encode rest
  | [b₀, b₁] =>
    let val := b₀.toNat <<< 16 ||| b₁.toNat <<< 8
    [encodeChar (val >>> 18), encodeChar (val >>> 12), encodeChar (val >>> 6)]
  | [b₀] =>
    let val := b₀.toNat <<< 16
    [encodeChar (val >>> 18), encodeChar (val >>> 12)]
  | [] => []

def encodeToString (src : List UInt8) : String := ⟨encode src⟩

theorem length_encode (src : List UInt8) : (encode src).length = encodedLen src.length := by
  induction src using encode.induct with
  | case1 _ _ _ rest ih => simp only [encode, List.length_append, ih, encodedLen]; simp; omega
  | _ => simp [encode, encodedLen]

theorem mem_encode (src : List UInt8) : ∀ c ∈ encode src, c ∈ encodeURL := by
  induction src using encode.induct with
  | case1 _ _ _ rest ih => simpa [encode, encodeChar_mem] using ih
  | _ => simp [encode, encodeChar_mem]

theorem length_encodeToString (src : List UInt8) :
    (encodeToString src).length = encodedLen src.length :=
  length_encode src

/-! ## Arithmetic of `EncodedLen` -/

theorem encodedLen_succ_le (k : Nat) : encodedLen (k + 1) ≤ encodedLen k + 2 := by
  unfold encodedLen; omega

theorem le_encodedLen (k : Nat) : k ≤ encodedLen k := by
  unfold encodedLen; omega

theorem encodedLen_mono {j k : Nat} (le : j ≤ k) : encodedLen j ≤ encodedLen k := by
  unfold encodedLen; omega

end OidcLogin.Base64
