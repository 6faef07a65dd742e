import Mathlib.Data.List.Basic

/-! The functions of Go's `unicode` and `strings` packages that the log writer and the
test utilities call, over texts as lists of characters: `unicode.IsSpace`, `len`
(`byteSize`, the size in UTF-8), `strings.IndexFunc` (`none` for -1), `strings.SplitN`
and `strings.TrimSpace`. Go slices strings at byte offsets; each offset these functions
compute falls between two characters, so counting characters cuts the same pieces.
-/

set_option autoImplicit false

namespace OidcLogin

/-- `unicode.IsSpace`: in Latin-1 tab, newline, vertical tab, form feed, carriage return,
space, U+0085 and U+00A0; above Latin-1 the characters of Unicode's White_Space property. -/
def isSpace (c : Char) : Bool :=
  if c.toNat ≤ 0xFF then [0x09, 0x0A, 0x0B, 0x0C, 0x0D, 0x20, 0x85, 0xA0].contains c.toNat
  else c.toNat == 0x1680 || (decide (0x2000 ≤ c.toNat) && decide (c.toNat ≤ 0x200A)) ||
    [0x2028, 0x2029, 0x202F, 0x205F, 0x3000].contains c.toNat

def byteSize : List Char → Nat
  | [] => 0
  | c :: text => c.utf8Size + byteSize text

@[simp] theorem byteSize_nil : byteSize [] = 0 := rfl

@[simp] theorem byteSize_cons (c : Char) (text : List Char) :
    byteSize (c :: text) = c.utf8Size + byteSize text := rfl

@[simp] theorem byteSize_append (front back : List Char) :
    byteSize (front ++ back) = byteSize front + byteSize back := by
  induction front with
  | nil => simp
  | cons c front ih => simp [ih, Nat.add_assoc]

theorem byteSize_drop_le (n : Nat) (text : List Char) : byteSize (text.drop n) ≤ byteSize text := by
  conv_rhs => rw [← List.take_append_drop n text, byteSize_append]
  exact Nat.le_add_left _ _

def indexFunc (f : Char → Bool) : List Char → Option Nat
  | [] => none
  | c :: text => if f c then some 0 else (indexFunc f text).map (· + 1)

theorem indexFunc_eq_none {f : Char → Bool} {text : List Char} :
    indexFunc f text = none ↔ ∀ c ∈ text, f c = false := by
  induction text with
  | nil => simp [indexFunc]
  | cons c text ih => by_cases found : f c <;> simp [indexFunc, found, ih]

theorem indexFunc_eq_some {f : Char → Bool} {text : List Char} {i : Nat} (found : indexFunc f text = some i) :
    text.take i = text.takeWhile (fun c => !f c) ∧ text.drop i = text.dropWhile (fun c => !f c) := by
  induction text generalizing i with
  | nil => simp [indexFunc] at found
  | cons c text ih =>
    by_cases here : f c
    · simp only [indexFunc, here, if_true, Option.some.injEq] at found
      subst found
      simp [here]
    · simp only [indexFunc, here, Option.map_eq_some', Bool.false_eq_true, if_false] at found
      obtain ⟨j, later, rfl⟩ := found
      simp [here, ih later]

/-- `strings.SplitN(text, string(sep), n)` for `n > 0`: the text cut at each of the first
`n - 1` separators, the last piece the unsplit rest. -/
def splitN (sep : Char) : Nat → List Char → List (List Char)
  | 0, _ => []
  | 1, text => [text]
  | n + 2, text =>
    match text.dropWhile (· != sep) with
    | [] => [text]
    | _ :: rest => text.takeWhile (· != sep) :: splitN sep (n + 1) rest

def trimSpace (text : List Char) : List Char :=
  ((text.dropWhile isSpace).reverse.dropWhile isSpace).reverse

end OidcLogin
