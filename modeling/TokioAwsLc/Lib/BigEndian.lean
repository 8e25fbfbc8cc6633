import Mathlib

/-!
# Big-endian counters

Fixed-width big-endian numbers as byte lists, the byte-wise increment with carry that a C
implementation does in place, and the XOR of byte strings.

* `leBytes w n`, `beBytes w n`: the `w` bytes of `n` modulo `256 ^ w`, least or most significant
  first.
* `increment`: add one to a big-endian byte string, carrying from its end.
  `increment_beBytes`: the increment of the bytes of `n` is the bytes of `n + 1`.
* `beBytes_inj`: below `256 ^ w` the bytes determine the number.
* `xorBytes`: with a fixed left side it is injective on strings of its length.
-/

namespace TokioAwsLc.Lib

/-! ## Bytes of a number -/

/-- The `w` bytes of `n`, least significant first; what does not fit is dropped. -/
def leBytes : ℕ → ℕ → List UInt8
  | 0, _ => []
  | w + 1, n => UInt8.ofNat n :: leBytes w (n / 256)

/-- The `w` bytes of `n`, most significant first. -/
def beBytes (w n : ℕ) : List UInt8 :=
  (leBytes w n).reverse

/-- The number of digits is given. -/
@[simp] theorem length_leBytes (w n : ℕ) : (leBytes w n).length = w := by
  induction w generalizing n with
  | zero => rfl
  | succ w ih => rw [leBytes, List.length_cons, ih]

/-- It is the same in the other order. -/
@[simp] theorem length_beBytes (w n : ℕ) : (beBytes w n).length = w := by
  rw [beBytes, List.length_reverse, length_leBytes]

/-- The bytes determine the number, up to what does not fit. -/
theorem leBytes_inj {w m n : ℕ} : leBytes w m = leBytes w n ↔ m % 256 ^ w = n % 256 ^ w := by
  induction w generalizing m n with
  | zero => simp [leBytes, Nat.mod_one]
  | succ w ih =>
      have hhead : UInt8.ofNat m = UInt8.ofNat n ↔ m % 256 = n % 256 := by
        rw [← UInt8.toNat_inj, UInt8.toNat_ofNat', UInt8.toNat_ofNat']
      rw [leBytes, leBytes, List.cons.injEq, hhead, ih, pow_succ', Nat.mod_mul, Nat.mod_mul]
      have hm : m % 256 < 256 := Nat.mod_lt _ (by decide)
      have hn : n % 256 < 256 := Nat.mod_lt _ (by decide)
      omega

/-- Below `256 ^ w` the bytes determine the number. -/
theorem beBytes_inj {w m n : ℕ} (hm : m < 256 ^ w) (hn : n < 256 ^ w) :
    beBytes w m = beBytes w n ↔ m = n := by
  rw [beBytes, beBytes, List.reverse_inj, leBytes_inj, Nat.mod_eq_of_lt hm, Nat.mod_eq_of_lt hn]

/-! ## The increment -/

/-- Add one to a little-endian byte string: a byte that wraps carries into the next. -/
def carry : List UInt8 → List UInt8
  | [] => []
  | b :: bs => if b + 1 = 0 then 0 :: carry bs else (b + 1) :: bs

/-- Add one to a big-endian byte string, in place: the last byte that does not wrap ends the
carry. -/
def increment (bs : List UInt8) : List UInt8 :=
  (carry bs.reverse).reverse

/-- Incrementing the bytes of a number gives the bytes of the next. -/
theorem carry_leBytes (w n : ℕ) : carry (leBytes w n) = leBytes w (n + 1) := by
  induction w generalizing n with
  | zero => rfl
  | succ w ih =>
      have hbyte : UInt8.ofNat n + 1 = UInt8.ofNat (n + 1) := by
        rw [UInt8.ofNat_add]
        rfl
      have hzero : UInt8.ofNat (n + 1) = 0 ↔ (n + 1) % 256 = 0 := by
        rw [← UInt8.toNat_inj, UInt8.toNat_ofNat']
        rfl
      rw [leBytes, leBytes, carry, hbyte]
      by_cases hwrap : (n + 1) % 256 = 0
      · have hdiv : (n + 1) / 256 = n / 256 + 1 := by omega
        rw [if_pos (hzero.mpr hwrap), ih, hdiv, hzero.mpr hwrap]
      · have hdiv : (n + 1) / 256 = n / 256 := by omega
        rw [if_neg (mt hzero.mp hwrap), hdiv]

/-- **Incrementing the bytes increments the number**, modulo the number of digits. -/
theorem increment_beBytes (w n : ℕ) : increment (beBytes w n) = beBytes w (n + 1) := by
  rw [increment, beBytes, List.reverse_reverse, carry_leBytes, beBytes]

/-! ## XOR -/

/-- The byte-wise XOR. -/
def xorBytes (a b : List UInt8) : List UInt8 :=
  List.zipWith (· ^^^ ·) a b

/-- The shorter operand decides. -/
@[simp] theorem length_xorBytes (a b : List UInt8) :
    (xorBytes a b).length = min a.length b.length :=
  List.length_zipWith

/-- The right side can be read off the XOR, if the left side is as long. -/
theorem xorBytes_left_inj {a b c : List UInt8} (hb : b.length = a.length)
    (hc : c.length = a.length) : xorBytes a b = xorBytes a c ↔ b = c := by
  refine ⟨fun h => ?_, fun h => h ▸ rfl⟩
  induction a generalizing b c with
  | nil => rw [List.length_eq_zero_iff.mp hb, List.length_eq_zero_iff.mp hc]
  | cons x a ih =>
      obtain ⟨y, b, rfl⟩ := List.exists_cons_of_length_eq_add_one hb
      obtain ⟨z, c, rfl⟩ := List.exists_cons_of_length_eq_add_one hc
      simp only [xorBytes, List.zipWith_cons_cons, List.cons.injEq] at h
      have hhead : y = z := by
        have := congrArg (x ^^^ ·) h.1
        simpa [← UInt8.xor_assoc] using this
      rw [hhead, ih (by simpa using hb) (by simpa using hc) h.2]

end TokioAwsLc.Lib
