import Mathlib

/-!
# Go values

The fixed-size byte arrays of go-ethereum (`common.Hash`, `common.Address`) and of the
indexer's `uuid.UUID` are `FixedBytes n`, which cannot be built at the wrong length.
`*big.Int` values that the code only ever holds non-negative (block numbers, nonces,
uint256 contract results) are `Nat`; the conversions the code applies to them,
`Uint64()`, `Int64()` and `SetUint64`, keep the low 64 bits as the Go runtime does.
-/

namespace Blast

/-- A Go byte array `[n]byte`. -/
structure FixedBytes (n : Nat) where
  bytes : List UInt8
  length_bytes : bytes.length = n
  deriving DecidableEq, Repr

/-- `common.Hash`. -/
abbrev Hash := FixedBytes 32

/-- `common.Address`. -/
abbrev Address := FixedBytes 20

/-- `uuid.UUID`, the indexer's event GUIDs. -/
abbrev UUID := FixedBytes 16

namespace FixedBytes

/-- The value whose every byte is `b`. -/
def fill (n : Nat) (b : UInt8) : FixedBytes n := ⟨List.replicate n b, List.length_replicate n b⟩

theorem ext_bytes {n : Nat} {a b : FixedBytes n} (h : a.bytes = b.bytes) : a = b := by
  cases a; cases b; cases h; rfl

/-- A lower-case hexadecimal digit. -/
def hexDigit (d : Nat) : Char := if d < 10 then Char.ofNat (48 + d) else Char.ofNat (87 + d)

/-- `Hex()`: `0x` and two lower-case digits per byte. -/
def Hex {n : Nat} (a : FixedBytes n) : String :=
  "0x" ++ String.mk (a.bytes.flatMap fun b => [hexDigit (b.toNat / 16), hexDigit (b.toNat % 16)])

example : (fill 2 0xab).Hex = "0xabab" := by decide

end FixedBytes

/-- `bytes.Equal(a[:], b[:])` on two arrays of one size. -/
def bytesEqual {n : Nat} (a b : FixedBytes n) : Bool := a.bytes == b.bytes

theorem bytesEqual_iff {n : Nat} {a b : FixedBytes n} : bytesEqual a b = true ↔ a = b :=
  ⟨fun h => FixedBytes.ext_bytes (beq_iff_eq.1 h), fun h => h ▸ beq_self_eq_true _⟩

@[simp] theorem bytesEqual_eq {n : Nat} (a b : FixedBytes n) : bytesEqual a b = decide (a = b) :=
  Bool.eq_iff_iff.2 (by simp [bytesEqual_iff])

/-! ## `math/big` conversions -/

/-- `x.Uint64()` for `x ≥ 0`: the low 64 bits. -/
def bigUint64 (x : Nat) : UInt64 := UInt64.ofNat x

/-- `x.Int64()` for `x ≥ 0`: the low 64 bits read as a two's complement `int64`. -/
def bigInt64 (x : Nat) : Int := (BitVec.ofNat 64 x).toInt

theorem bigUint64_toNat_of_lt {x : Nat} (h : x < 2 ^ 64) : (bigUint64 x).toNat = x :=
  UInt64.toNat_ofNat_of_lt h

/-- `Int64()` is below `k ≤ 2^63` exactly when the low 64 bits are, or their top bit is set. -/
theorem bigInt64_lt_iff {n k : Nat} (hk : k ≤ 2 ^ 63) :
    bigInt64 n < k ↔ n % 2 ^ 64 < k ∨ 2 ^ 63 ≤ n % 2 ^ 64 := by
  simp only [bigInt64, BitVec.toInt_eq_toNat_cond, BitVec.toNat_ofNat]
  have := Nat.mod_lt n (show 0 < 2 ^ 64 by norm_num)
  split <;> omega

/-- `Int64()` wraps: `2^64` reads as `0`. -/
example : bigInt64 (2 ^ 64) = 0 := by decide

end Blast
