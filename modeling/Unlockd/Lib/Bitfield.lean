/-
Fields of a word.

A word packs several numbers, each into bits of its own. A field is described by the position
of its lowest bit and a mask that has zeros just on its bits. Reading takes the bits under the
mask down to the lowest position; writing clears them and puts a number there.

A number that fits its field is read back as it was written, no bit outside the field changes, and
so no other field that lies apart reads differently. A `Layout` is a family of fields that lie
apart, a `Record` a layout with a getter and a setter for each field.
-/
import Mathlib.Algebra.Ring.Nat
import Mathlib.Data.Nat.Notation
import Mathlib.Tactic.Common

set_option autoImplicit false

namespace Bitfield

variable {w : ℕ}

/-- The mask has zeros on the `width` bits from `start` on, and ones elsewhere. -/
def Masks (mask : BitVec w) (start width : ℕ) : Prop :=
  ∀ i < w, mask.getLsbD i = !decide (start ≤ i ∧ i < start + width)

instance (mask : BitVec w) (start width : ℕ) : Decidable (Masks mask start width) :=
  inferInstanceAs (Decidable (∀ i < w, mask.getLsbD i = !decide (start ≤ i ∧ i < start + width)))

/-- The bits of the field under a mask. -/
def read (mask : BitVec w) (start : ℕ) (data : BitVec w) : BitVec w :=
  (data &&& ~~~mask) >>> start

/-- Put a number into the field under a mask. -/
def write (mask : BitVec w) (start value : ℕ) (data : BitVec w) : BitVec w :=
  (data &&& mask) ||| (BitVec.ofNat w value <<< start)

variable {mask mask' : BitVec w} {start start' width width' value : ℕ}

/-! ## Bits -/

theorem Masks.inside (h : Masks mask start width) {i : ℕ} (hi : i < w) (hle : start ≤ i)
    (hlt : i < start + width) : mask.getLsbD i = false := by
  rw [h i hi, decide_eq_true ⟨hle, hlt⟩]
  rfl

theorem Masks.outside (h : Masks mask start width) {i : ℕ} (hi : i < w)
    (hout : i < start ∨ start + width ≤ i) : mask.getLsbD i = true := by
  rw [h i hi, decide_eq_false (by omega)]
  rfl

/-- A number that fits has no bit beyond the width. -/
theorem testBit_of_fits (hv : value < 2 ^ width) {i : ℕ} (hi : width ≤ i) :
    value.testBit i = false :=
  Nat.testBit_lt_two_pow (Nat.lt_of_lt_of_le hv (Nat.pow_le_pow_right (by decide) hi))

/-- The bits of a word in which a field was written. -/
theorem getLsbD_write (data : BitVec w) {i : ℕ} (hi : i < w) :
    (write mask start value data).getLsbD i
      = (data.getLsbD i && mask.getLsbD i || (decide (start ≤ i) && value.testBit
        (i - start))) := by
  unfold write
  rw [BitVec.getLsbD_or, BitVec.getLsbD_and, BitVec.getLsbD_shiftLeft, BitVec.getLsbD_ofNat,
    decide_eq_true hi, Bool.true_and]
  by_cases hle : start ≤ i
  · rw [decide_eq_false (Nat.not_lt.mpr hle), decide_eq_true hle,
      decide_eq_true (show i - start < w by omega)]
    rfl
  · rw [decide_eq_true (Nat.lt_of_not_le hle), decide_eq_false hle]
    rfl

/-- The bits of a field. -/
theorem getLsbD_read (data : BitVec w) (i : ℕ) :
    (read mask start data).getLsbD i
      = (data.getLsbD (start + i) && (decide (start + i < w) && !mask.getLsbD (start + i))) := by
  unfold read
  rw [BitVec.getLsbD_ushiftRight, BitVec.getLsbD_and, BitVec.getLsbD_not]

/-! ## Reading what was written -/

/-- **A field is read as it was written.** -/
theorem read_write (h : Masks mask start width) (hfit : start + width ≤ w)
    (hv : value < 2 ^ width) (data : BitVec w) :
    (read mask start (write mask start value data)).toNat = value := by
  have hbits : read mask start (write mask start value data) = BitVec.ofNat w value := by
    refine BitVec.eq_of_getLsbD_eq fun i hi => ?_
    rw [getLsbD_read, BitVec.getLsbD_ofNat]
    by_cases hin : i < width
    · have hlt : start + i < w := by omega
      rw [getLsbD_write data hlt, h.inside hlt (by omega) (by omega)]
      simp [hlt, hi]
    · rw [testBit_of_fits hv (Nat.le_of_not_lt hin)]
      by_cases hlt : start + i < w
      · rw [h.outside hlt (by omega)]
        simp
      · simp [hlt]
  have hlt : value < 2 ^ w := Nat.lt_of_lt_of_le hv (Nat.pow_le_pow_right (by decide) (by omega))
  rw [hbits, BitVec.toNat_ofNat, Nat.mod_eq_of_lt hlt]

/-- **No bit outside the field changes.** -/
theorem getLsbD_write_outside (h : Masks mask start width) (hv : value < 2 ^ width)
    (data : BitVec w) {i : ℕ} (hi : i < w) (hout : i < start ∨ start + width ≤ i) :
    (write mask start value data).getLsbD i = data.getLsbD i := by
  -- nothing is put there, below the field or above the number
  have hput : (decide (start ≤ i) && value.testBit (i - start)) = false := by
    rcases hout with hbelow | habove
    · rw [decide_eq_false (by omega), Bool.false_and]
    · rw [testBit_of_fits hv (by omega), Bool.and_false]
  rw [getLsbD_write data hi, h.outside hi hout, hput, Bool.and_true, Bool.or_false]

/-- The bits of the field are those of the number. -/
theorem getLsbD_write_inside (h : Masks mask start width) (data : BitVec w) {i : ℕ} (hi : i < w)
    (hle : start ≤ i) (hlt : i < start + width) :
    (write mask start value data).getLsbD i = value.testBit (i - start) := by
  rw [getLsbD_write data hi, h.inside hi hle hlt, decide_eq_true hle, Bool.and_false,
    Bool.false_or, Bool.true_and]

/-- **No field apart reads differently.** -/
theorem read_write_apart (h : Masks mask start width) (h' : Masks mask' start' width')
    (hapart : start + width ≤ start' ∨ start' + width' ≤ start) (hv : value < 2 ^ width)
    (data : BitVec w) :
    read mask' start' (write mask start value data) = read mask' start' data := by
  apply BitVec.eq_of_getLsbD_eq
  intro i hi
  rw [getLsbD_read, getLsbD_read]
  by_cases hlt : start' + i < w
  · by_cases hin : i < width'
    · -- a bit of the other field
      rw [getLsbD_write_outside h hv data hlt (by omega)]
    · -- a bit that the mask of the other field clears
      rw [h'.outside hlt (by omega)]
      simp
  · simp [hlt]

/-- **Writes to fields that lie apart commute.** -/
theorem write_comm {value' : ℕ} (h : Masks mask start width) (h' : Masks mask' start' width')
    (hapart : start + width ≤ start' ∨ start' + width' ≤ start) (hv : value < 2 ^ width)
    (hv' : value' < 2 ^ width') (data : BitVec w) :
    write mask' start' value' (write mask start value data)
      = write mask start value (write mask' start' value' data) := by
  apply BitVec.eq_of_getLsbD_eq
  intro i hi
  by_cases hin : start ≤ i ∧ i < start + width
  · -- a bit of the first field lies outside the second
    rw [getLsbD_write_outside h' hv' _ hi (by omega), getLsbD_write_inside h _ hi hin.1 hin.2,
      getLsbD_write_inside h _ hi hin.1 hin.2]
  · rw [getLsbD_write_outside h hv _ hi (by omega)]
    by_cases hin' : start' ≤ i ∧ i < start' + width'
    · rw [getLsbD_write_inside h' _ hi hin'.1 hin'.2, getLsbD_write_inside h' _ hi hin'.1 hin'.2]
    · rw [getLsbD_write_outside h' hv' _ hi (by omega), getLsbD_write_outside h hv _ hi (by omega),
        getLsbD_write_outside h' hv' _ hi (by omega)]

/-! ## Flags -/

/-- A flag is the one bit of its field. -/
theorem Masks.flag (h : Masks mask start 1) (data : BitVec w) :
    (data &&& ~~~mask != 0) = data.getLsbD start := by
  have hbit : ∀ i, (data &&& ~~~mask).getLsbD i = (decide (i = start) && data.getLsbD i) := by
    intro i
    by_cases hi : i < w
    · rw [BitVec.getLsbD_and, BitVec.getLsbD_not, decide_eq_true hi, Bool.true_and]
      by_cases heq : i = start
      · rw [h.inside hi (by omega) (by omega), decide_eq_true heq, Bool.not_false, Bool.and_true,
          Bool.true_and]
      · rw [h.outside hi (by omega), decide_eq_false heq, Bool.not_true, Bool.and_false,
          Bool.false_and]
    · rw [BitVec.getLsbD_of_ge _ _ (Nat.le_of_not_lt hi),
        BitVec.getLsbD_of_ge data i (Nat.le_of_not_lt hi), Bool.and_false]
  -- the masked word has no other bit, so it is zero just when the flag is not set
  cases hset : data.getLsbD start with
  | false =>
    have hzero : data &&& ~~~mask = 0#w := by
      refine BitVec.eq_of_getLsbD_eq fun i _ => ?_
      rw [hbit, BitVec.getLsbD_zero]
      by_cases heq : i = start
      · rw [heq, hset, Bool.and_false]
      · rw [decide_eq_false heq, Bool.false_and]
    rw [hzero]
    exact bne_self_eq_false (0#w)
  | true =>
    refine bne_iff_ne.mpr fun hzero => ?_
    have hone := hbit start
    rw [show data &&& ~~~mask = 0#w from hzero, BitVec.getLsbD_zero, hset,
      decide_eq_true rfl] at hone
    cases hone

/-- No flag apart changes. -/
theorem flag_write_apart (h : Masks mask start width) (h' : Masks mask' start' 1)
    (hin : start' < w) (hapart : start + width ≤ start' ∨ start' + 1 ≤ start)
    (hv : value < 2 ^ width) (data : BitVec w) :
    (write mask start value data &&& ~~~mask' != 0) = (data &&& ~~~mask' != 0) := by
  rw [h'.flag, h'.flag]
  exact getLsbD_write_outside h hv data hin (by omega)

/-! ## Layouts -/

/-- Fields of a word that lie apart from one another. -/
structure Layout (ι : Type*) (w : ℕ) where
  mask : ι → BitVec w
  start : ι → ℕ
  width : ι → ℕ
  fits : ∀ p, start p + width p ≤ w
  masks : ∀ p, Masks (mask p) (start p) (width p)
  apart : ∀ p q, p ≠ q → start p + width p ≤ start q ∨ start q + width q ≤ start p

namespace Layout

variable {ι : Type*} (L : Layout ι w)

/-- The numbers a word packs. -/
def values (data : BitVec w) (p : ι) : ℕ := (read (L.mask p) (L.start p) data).toNat

/-- A number is no wider than its field. -/
theorem values_lt (data : BitVec w) (p : ι) : L.values data p < 2 ^ L.width p := by
  refine Nat.lt_pow_two_of_testBit _ fun i hi => ?_
  rw [values, BitVec.testBit_toNat, getLsbD_read]
  by_cases hlt : L.start p + i < w
  · rw [(L.masks p).outside hlt (by omega), Bool.not_true, Bool.and_false, Bool.and_false]
  · rw [decide_eq_false hlt, Bool.false_and, Bool.and_false]

/-- **Writing one field** rewrites one number. -/
theorem values_write [DecidableEq ι] {p : ι} (hv : value < 2 ^ L.width p) (data : BitVec w) :
    L.values (write (L.mask p) (L.start p) value data)
      = Function.update (L.values data) p value := by
  funext q
  by_cases heq : q = p
  · subst heq
    rw [Function.update_self]
    exact read_write (L.masks q) (L.fits q) hv data
  · rw [Function.update_of_ne heq]
    exact congrArg BitVec.toNat
      (read_write_apart (L.masks p) (L.masks q) (L.apart p q (Ne.symm heq)) hv data)

/-- A flag reads as its number. -/
theorem flag_eq {p : ι} (hwidth : L.width p = 1) (data : BitVec w) :
    (data &&& ~~~L.mask p != 0) = decide (L.values data p = 1) := by
  have hm := L.masks p
  have hfit := L.fits p
  rw [hwidth] at hm hfit
  rw [hm.flag]
  -- the field has one bit, and that is the flag
  have hread : read (L.mask p) (L.start p) data
      = BitVec.ofNat w (if data.getLsbD (L.start p) = true then 1 else 0) := by
    refine BitVec.eq_of_getLsbD_eq fun i hi => ?_
    rw [getLsbD_read, BitVec.getLsbD_ofNat]
    by_cases hzero : i = 0
    · subst hzero
      rw [Nat.add_zero, hm.inside (by omega) (by omega) (by omega)]
      cases data.getLsbD (L.start p) with
      | false => simp
      | true =>
        have hstart : L.start p < w := by omega
        simp [hstart, hi]
    · have hhigh : ∀ b : Bool, (if b = true then 1 else 0 : ℕ).testBit i = false := by
        intro b
        have hfits : (if b = true then 1 else 0 : ℕ) < 2 ^ 1 := by cases b <;> decide
        exact testBit_of_fits hfits (by omega)
      rw [hhigh, Bool.and_false]
      by_cases hlt : L.start p + i < w
      · rw [hm.outside hlt (by omega)]
        simp
      · simp [hlt]
  unfold values
  rw [hread, BitVec.toNat_ofNat]
  have hone : 1 < 2 ^ w := Nat.one_lt_two_pow (by omega)
  cases data.getLsbD (L.start p) with
  | false => simp
  | true => simp [Nat.mod_eq_of_lt hone]

end Layout

/-! ## Records

A word becomes a record once each of its fields has a getter and a setter. A field holds values of
a type of its own, each of which stands for a number; a setter takes the values that are in range
and refuses the others. -/

/-- A layout with a getter and a setter for each field. -/
structure Record (ι : Type*) (w : ℕ) (ε : Type*) extends Layout ι w where
  Value : ι → Type
  /-- The number that stands for a value. -/
  number : ∀ p, Value p → ℕ
  /-- The largest number that a setter takes. -/
  maxValid : ι → ℕ
  get : ∀ p, BitVec w → Value p
  set : ∀ p, Value p → BitVec w → Except ε (BitVec w)
  maxValid_lt : ∀ p, maxValid p < 2 ^ width p
  number_injective : ∀ p, Function.Injective (number p)
  number_get : ∀ p data, number p (get p data) = toLayout.values data p
  set_eq : ∀ p v data, number p v ≤ maxValid p →
    set p v data = .ok (write (mask p) (start p) (number p v) data)
  refuses : ∀ p v data, ¬ number p v ≤ maxValid p → ∃ e, set p v data = .error e

namespace Record

variable {ι ε : Type*} (R : Record ι w ε) {p q : ι} {v : R.Value p} {u : R.Value q}

/-- The values that the setter of a field takes. -/
def InRange (p : ι) (v : R.Value p) : Prop := R.number p v ≤ R.maxValid p

/-- They fit the field. -/
theorem InRange.number_lt (hv : R.InRange p v) : R.number p v < 2 ^ R.width p :=
  Nat.lt_of_le_of_lt hv (R.maxValid_lt p)

/-- **A field is read as it was set.** -/
theorem get_set [DecidableEq ι] (hv : R.InRange p v) {data data' : BitVec w}
    (h : R.set p v data = .ok data') : R.get p data' = v := by
  rw [R.set_eq p v data hv] at h
  obtain rfl := Except.ok.inj h
  apply R.number_injective p
  rw [R.number_get, R.toLayout.values_write hv.number_lt, Function.update_self]

/-- **No other field reads differently.** -/
theorem get_set_other [DecidableEq ι] (hne : q ≠ p) (hv : R.InRange p v) {data data' : BitVec w}
    (h : R.set p v data = .ok data') : R.get q data' = R.get q data := by
  rw [R.set_eq p v data hv] at h
  obtain rfl := Except.ok.inj h
  apply R.number_injective q
  rw [R.number_get, R.number_get, R.toLayout.values_write hv.number_lt,
    Function.update_of_ne hne]

/-- **No bit outside the field changes**, be it of another field or of none. -/
theorem set_outside (hv : R.InRange p v) {data data' : BitVec w} (h : R.set p v data = .ok data')
    {i : ℕ} (hi : i < w) (hout : i < R.start p ∨ R.start p + R.width p ≤ i) :
    data'.getLsbD i = data.getLsbD i := by
  rw [R.set_eq p v data hv] at h
  obtain rfl := Except.ok.inj h
  exact getLsbD_write_outside (R.masks p) hv.number_lt data hi hout

/-- **Setters of different fields commute.** -/
theorem set_comm (hne : p ≠ q) (hv : R.InRange p v) (hu : R.InRange q u) (data : BitVec w) :
    (R.set p v data >>= R.set q u) = (R.set q u data >>= R.set p v) := by
  rw [R.set_eq p v data hv, R.set_eq q u data hu]
  show R.set q u _ = R.set p v _
  rw [R.set_eq q u _ hu, R.set_eq p v _ hv]
  exact congrArg _
    (write_comm (R.masks p) (R.masks q) (R.apart p q hne) hv.number_lt hu.number_lt data)

/-- A word is as good as a record with one component for each field: a component that is set reads
as it was set, all the others and every bit outside stay, it does not matter in which order
components are set, and a value out of range is refused. -/
structure Faithful : Prop where
  sets : ∀ p v data, R.InRange p v → ∃ data', R.set p v data = .ok data' ∧ R.get p data' = v ∧
    (∀ q, q ≠ p → R.get q data' = R.get q data) ∧
    ∀ i < w, i < R.start p ∨ R.start p + R.width p ≤ i → data'.getLsbD i = data.getLsbD i
  commute : ∀ p q, p ≠ q → ∀ v u data, R.InRange p v → R.InRange q u →
    (R.set p v data >>= R.set q u) = (R.set q u data >>= R.set p v)
  outOfRange : ∀ p v data, ¬ R.InRange p v → ∃ e, R.set p v data = .error e

/-- **Every record is.** -/
theorem faithful [DecidableEq ι] : R.Faithful where
  sets := by
    intro p v data hv
    have hset := R.set_eq p v data hv
    exact ⟨_, hset, R.get_set hv hset, fun q hne => R.get_set_other hne hv hset,
      fun i hi hout => R.set_outside hv hset hi hout⟩
  commute := fun _ _ hne _ _ data hv hu => R.set_comm hne hv hu data
  outOfRange := R.refuses

end Record

end Bitfield
