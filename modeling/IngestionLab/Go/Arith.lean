import Mathlib.Data.Int.Basic
import Mathlib.Tactic.Ring

/-!
# Machine integers and hashing of the Go runtime

The parts of the language and its standard library the timing code leans on:
64-bit signed arithmetic, which wraps, and the 64-bit FNV-1a hash. Values of
type `int` and `time.Duration` are integers kept in range by
`IngestionLab.Go.wrap64` wherever an operation can leave the range.
-/

namespace IngestionLab

namespace Go

/-- `math.MaxInt64`. -/
def maxInt64 : ℤ := 9223372036854775807

/-- The two's complement reading of an integer in 64 bits. -/
def wrap64 (x : ℤ) : ℤ := Int.bmod x 18446744073709551616

/-- Nothing wraps within the range. -/
theorem wrap64_of_range {x : ℤ} (h0 : -maxInt64 ≤ x) (h1 : x ≤ maxInt64) : wrap64 x = x := by
  unfold maxInt64 at h0 h1
  rw [wrap64, Int.bmod_def]
  omega

/-- `time.Millisecond`, in nanoseconds. -/
def millisecond : ℤ := 1000000

/-- `time.Second`, in nanoseconds. -/
def second : ℤ := 1000000000

/-- One byte of an FNV-1a hash. -/
def fnv1aStep (hash : UInt64) (byte : UInt8) : UInt64 :=
  (hash ^^^ byte.toUInt64) * 1099511628211

/-- The FNV-1a hash of a sequence of bytes (`fnv.New64a`, `Write`, `Sum64`). -/
def fnv1a (bytes : List UInt8) : UInt64 := bytes.foldl fnv1aStep 14695981039346656037

/-- `binary.LittleEndian.PutUint64`. -/
def littleEndian64 (value : ℕ) : List UInt8 :=
  (List.range 8).map fun i => UInt8.ofNat (value / 256 ^ i)

end Go

end IngestionLab
