import Mathlib.Algebra.Order.Ring.Nat
import Mathlib.Data.List.Basic
import Mathlib.Data.List.Forall2

/-!
# Little-endian fields

Records of fixed-width unsigned fields, laid out one after the other without gaps and each with its
least significant byte first. `joinLE widths` writes a record, `splitLE widths` reads one; the two
are inverse to each other on values that fit their widths and on bytes of the right number
(`splitLE_joinLE`, `joinLE_splitLE`).
-/

/-- The `w` bytes of a number, least significant first. What does not fit is dropped. -/
def leBytes : ℕ → ℕ → List UInt8
  | 0, _ => []
  | w + 1, n => UInt8.ofNat n :: leBytes w (n / 256)

/-- The number with the given bytes. -/
def leNat : List UInt8 → ℕ
  | [] => 0
  | b :: bs => b.toNat + 256 * leNat bs

@[simp] theorem length_leBytes (w n : ℕ) : (leBytes w n).length = w := by
  induction w generalizing n with
  | zero => rfl
  | succ w ih => rw [leBytes, List.length_cons, ih]

theorem leNat_lt (bs : List UInt8) : leNat bs < 256 ^ bs.length := by
  induction bs with
  | nil => exact Nat.one_pos
  | cons b bs ih =>
    have hb : b.toNat < 256 := b.toNat_lt
    rw [leNat, List.length_cons, Nat.pow_succ]
    omega

/-- Reading back a number that fits. -/
theorem leNat_leBytes {w n : ℕ} (h : n < 256 ^ w) : leNat (leBytes w n) = n := by
  induction w generalizing n with
  | zero =>
    rw [Nat.pow_zero] at h
    show 0 = n
    omega
  | succ w ih =>
    rw [Nat.pow_succ] at h
    have hrest : n / 256 < 256 ^ w := Nat.div_lt_of_lt_mul (by omega)
    rw [leBytes, leNat, ih hrest, UInt8.toNat_ofNat']
    show n % 256 + _ = n
    omega

/-- Writing back what was read. -/
theorem leBytes_leNat (bs : List UInt8) : leBytes bs.length (leNat bs) = bs := by
  induction bs with
  | nil => rfl
  | cons b bs ih =>
    have hb : b.toNat < 256 := b.toNat_lt
    have hhead : UInt8.ofNat (b.toNat + 256 * leNat bs) = b := by
      apply UInt8.toNat_inj.1
      rw [UInt8.toNat_ofNat']
      show _ % 256 = _
      omega
    have htail : (b.toNat + 256 * leNat bs) / 256 = leNat bs := by omega
    rw [List.length_cons, leNat, leBytes, hhead, htail, ih]

/-- Write the fields of a record. -/
def joinLE : List ℕ → List ℕ → List UInt8
  | w :: ws, v :: vs => leBytes w v ++ joinLE ws vs
  | _, _ => []

/-- Read the fields of a record. -/
def splitLE : List ℕ → List UInt8 → List ℕ
  | [], _ => []
  | w :: ws, bs => leNat (bs.take w) :: splitLE ws (bs.drop w)

/-- The values fit their widths. -/
abbrev FitsLE (ws vs : List ℕ) : Prop := List.Forall₂ (fun w v ↦ v < 256 ^ w) ws vs

theorem length_joinLE {ws vs : List ℕ} (h : ws.length = vs.length) :
    (joinLE ws vs).length = ws.sum := by
  induction ws generalizing vs with
  | nil => rfl
  | cons w ws ih =>
    rcases vs with - | ⟨v, vs⟩
    · cases h
    · rw [joinLE, List.length_append, length_leBytes, ih (Nat.succ.inj h), List.sum_cons]

@[simp] theorem length_splitLE (ws : List ℕ) (bs : List UInt8) :
    (splitLE ws bs).length = ws.length := by
  induction ws generalizing bs with
  | nil => rfl
  | cons w ws ih => rw [splitLE, List.length_cons, ih, List.length_cons]

/-- **Reading what was written**, whatever comes behind it. -/
theorem splitLE_joinLE {ws vs : List ℕ} (h : FitsLE ws vs) (rest : List UInt8) :
    splitLE ws (joinLE ws vs ++ rest) = vs := by
  induction h with
  | nil => rfl
  | @cons w v ws vs hv _ ih =>
    have hlen : (leBytes w v).length = w := length_leBytes w v
    rw [joinLE, splitLE, List.append_assoc, List.take_left' hlen, List.drop_left' hlen,
      leNat_leBytes hv, ih]

/-- **Writing what was read.** -/
theorem joinLE_splitLE {ws : List ℕ} {bs : List UInt8} (h : bs.length = ws.sum) :
    joinLE ws (splitLE ws bs) = bs := by
  induction ws generalizing bs with
  | nil => exact (List.length_eq_zero_iff.1 h).symm
  | cons w ws ih =>
    rw [List.sum_cons] at h
    have htake : (bs.take w).length = w := by
      rw [List.length_take]
      omega
    have hdrop : (bs.drop w).length = ws.sum := by
      rw [List.length_drop]
      omega
    have hfirst : leBytes w (leNat (bs.take w)) = bs.take w := by
      have h := leBytes_leNat (bs.take w)
      rwa [htake] at h
    rw [splitLE, joinLE, hfirst, ih hdrop, List.take_append_drop]

/-- What is read fits. -/
theorem fitsLE_splitLE {ws : List ℕ} {bs : List UInt8} : FitsLE ws (splitLE ws bs) := by
  induction ws generalizing bs with
  | nil => exact .nil
  | cons w ws ih =>
    refine .cons ?_ ih
    have hle : (bs.take w).length ≤ w := List.length_take_le w bs
    exact Nat.lt_of_lt_of_le (leNat_lt _) (Nat.pow_le_pow_right (by decide) hle)

/-- Only the first bytes of a record are read. -/
theorem splitLE_take {ws : List ℕ} {bs : List UInt8} {n : ℕ} (h : ws.sum ≤ n) :
    splitLE ws (bs.take n) = splitLE ws bs := by
  induction ws generalizing bs n with
  | nil => rfl
  | cons w ws ih =>
    rw [List.sum_cons] at h
    have hmin : min w n = w := by omega
    rw [splitLE, splitLE, List.take_take, hmin, List.drop_take, ih (by omega)]
