/-
Decoding of ABI-encoded call data, the way a compiled contract does it.

A decoder reads at a position of a byte string. Values of a fixed size stand in a head; what has no
fixed size is found by following an offset word, and begins with its length. Every position that is
read is checked against the end of the byte string first, except in a head, whose size is checked as
a whole.

A decoder takes no notice of what comes after the bytes that it reads. It follows that what it
makes of the beginning of a byte string, if it makes anything of it, it makes of the whole as well;
this is proved for each way of building decoders, and holds for all that are built from them.
-/
import Mathlib.Data.List.Basic
import Mathlib.Tactic.Ring

set_option autoImplicit false

namespace Abi

/-- A byte string. -/
abbrev Bytes := List UInt8

variable {α : Type} {xs ys bs : Bytes} {i k m n : ℕ}

/-! ## Words -/

/-- The number that a byte string spells, the most significant byte first. -/
def natOf (bs : Bytes) : ℕ := bs.foldl (fun n b => n * 256 + b.toNat) 0

/-- The word of 32 bytes at a position. -/
def word (bs : Bytes) (i : ℕ) : ℕ := natOf ((bs.drop i).take 32)

/-- A number as so many bytes. -/
def toBytes : ℕ → ℕ → Bytes
  | 0, _ => []
  | k + 1, n => toBytes k (n / 256) ++ [UInt8.ofNat n]

@[simp] theorem length_toBytes : (toBytes k n).length = k := by
  induction k generalizing n with
  | zero => rfl
  | succ k ih => rw [toBytes, List.length_append, ih, List.length_singleton]

theorem natOf_concat (b : UInt8) : natOf (bs ++ [b]) = natOf bs * 256 + b.toNat := by
  rw [natOf, List.foldl_append]
  rfl

/-- Bytes spell the number that they are made from, if it is not too large. -/
theorem natOf_toBytes (h : n < 256 ^ k) : natOf (toBytes k n) = n := by
  induction k generalizing n with
  | zero => exact (Nat.lt_one_iff.mp h).symm
  | succ k ih =>
    have hdiv : n / 256 < 256 ^ k := by
      rw [Nat.div_lt_iff_lt_mul (by decide), ← Nat.pow_succ]
      exact h
    rw [toBytes, natOf_concat, ih hdiv, UInt8.toNat_ofNat']
    exact Nat.div_add_mod' n 256

/-- The word at the beginning of an encoded one. -/
theorem word_toBytes (h : n < 2 ^ 256) : word (toBytes 32 n ++ bs) 0 = n := by
  have hlength : (toBytes 32 n).length = 32 := length_toBytes
  rw [word, List.drop_zero, List.take_append_of_le_length hlength.ge,
    List.take_of_length_le hlength.le]
  exact natOf_toBytes h

/-- What comes after encoded bytes. -/
theorem drop_skip : (toBytes k n ++ bs).drop (k + i) = bs.drop i := by
  have hlength : k + i = (toBytes k n).length + i := by rw [length_toBytes]
  rw [hlength, List.drop_length_add_append]

/-- A word after encoded bytes. -/
theorem word_skip : word (toBytes k n ++ bs) (k + i) = word bs i := by
  rw [word, drop_skip, word]

/-- A word does not depend on what comes after it. -/
theorem word_append (h : i + 32 ≤ xs.length) : word (xs ++ ys) i = word xs i := by
  have hrest : 32 ≤ (xs.drop i).length := by
    rw [List.length_drop]
    omega
  rw [word, word, List.drop_append_of_le_length (by omega), List.take_append_of_le_length hrest]

/-! ## Decoders -/

/-- What is decoded at a position, if anything. -/
abbrev Decoder (α : Type) := Bytes → ℕ → Option α

/-- The largest offset and the largest length. -/
def maxOffset : ℕ := 2 ^ 64 - 1

/-- An address: a word of 160 bits. -/
def address : Decoder ℕ := fun bs i =>
  if word bs i < 2 ^ 160 then some (word bs i) else none

/-- An offset word. -/
def offset : Decoder ℕ := fun bs i =>
  if word bs i ≤ maxOffset then some (word bs i) else none

/-- A length word, which has to be there. -/
def length : Decoder ℕ := fun bs i =>
  if i + 0x1f < bs.length ∧ word bs i ≤ maxOffset then some (word bs i) else none

/-- `bytes`: a length and so many bytes. -/
def bytes : Decoder Bytes := fun bs i => do
  let n ← length bs i
  if i + 0x20 + n ≤ bs.length then some ((bs.drop (i + 0x20)).take n) else none

/-- What an offset word points at; it counts from `base`. -/
def dynamic (d : Decoder α) (base : ℕ) : Decoder α := fun bs i => do
  let o ← offset bs i
  d bs (base + o)

/-- `T[]` for elements of no fixed size: a length and so many offset words. -/
def array (element : Decoder α) : Decoder (List α) := fun bs i => do
  let n ← length bs i
  if i + 0x20 + n * 0x20 ≤ bs.length then
    (List.range n).mapM fun k => dynamic element (i + 0x20) bs (i + 0x20 + k * 0x20)
  else none

/-! ## What comes after -/

/-- What a decoder makes of the beginning of a byte string it makes of the whole. -/
def Stable (d : Decoder α) : Prop :=
  ∀ xs ys i v, d xs i = some v → d (xs ++ ys) i = some v

theorem address_append (h : i + 32 ≤ xs.length) : address (xs ++ ys) i = address xs i := by
  rw [address, address, word_append h]

theorem offset_append (h : i + 32 ≤ xs.length) : offset (xs ++ ys) i = offset xs i := by
  rw [offset, offset, word_append h]

theorem length_eq_some : length bs i = some n ↔
    i + 32 ≤ bs.length ∧ word bs i ≤ maxOffset ∧ n = word bs i := by
  rw [length, Option.ite_none_right_eq_some, and_assoc]
  exact and_congr (by omega) (and_congr_right fun _ => ⟨fun h => (Option.some.inj h).symm,
    fun h => congrArg _ h.symm⟩)

theorem length_stable : Stable length := by
  intro xs ys i v h
  obtain ⟨hbound, hmax, rfl⟩ := length_eq_some.mp h
  rw [length_eq_some, word_append hbound, List.length_append]
  exact ⟨by omega, hmax, rfl⟩

theorem bytes_eq_some {v : Bytes} : bytes bs i = some v ↔ ∃ n, length bs i = some n ∧
    i + 0x20 + n ≤ bs.length ∧ (bs.drop (i + 0x20)).take n = v := by
  simp only [bytes, Option.bind_eq_bind, Option.bind_eq_some_iff, Option.ite_none_right_eq_some,
    Option.some.injEq]

theorem bytes_stable : Stable bytes := by
  intro xs ys i v h
  obtain ⟨n, hlength, hbound, rfl⟩ := bytes_eq_some.mp h
  refine bytes_eq_some.mpr ⟨n, length_stable xs ys i n hlength, ?_, ?_⟩
  · rw [List.length_append]
    omega
  · have hrest : n ≤ (xs.drop (i + 0x20)).length := by
      rw [List.length_drop]
      omega
    rw [List.drop_append_of_le_length (by omega), List.take_append_of_le_length hrest]

theorem dynamic_eq_some {d : Decoder α} {base : ℕ} {v : α} : dynamic d base bs i = some v ↔
    ∃ o, offset bs i = some o ∧ d bs (base + o) = some v :=
  Option.bind_eq_some_iff

/-- What is found at an offset in a head that is there. -/
theorem dynamic_append {d : Decoder α} (hd : Stable d) {base : ℕ} (h : i + 32 ≤ xs.length) {v : α}
    (hv : dynamic d base xs i = some v) : dynamic d base (xs ++ ys) i = some v := by
  obtain ⟨o, ho, hv⟩ := dynamic_eq_some.mp hv
  refine dynamic_eq_some.mpr ⟨o, ?_, hd _ _ _ _ hv⟩
  rw [offset_append h, ho]

/-- Decoding one element after the other. -/
theorem mapM_imp {β : Type} {f g : β → Option α} {l : List β} {vs : List α}
    (h : ∀ b ∈ l, ∀ v, f b = some v → g b = some v) (hf : l.mapM f = some vs) :
    l.mapM g = some vs := by
  induction l generalizing vs with
  | nil => exact hf
  | cons b l ih =>
    rw [List.mapM_cons] at hf ⊢
    obtain ⟨v, hv, hf⟩ := Option.bind_eq_some_iff.mp hf
    obtain ⟨rest, hrest, hf⟩ := Option.bind_eq_some_iff.mp hf
    refine Option.bind_eq_some_iff.mpr ⟨v, h b List.mem_cons_self v hv, ?_⟩
    refine Option.bind_eq_some_iff.mpr ⟨rest, ?_, hf⟩
    exact ih (fun b' hb' => h b' (List.mem_cons_of_mem b hb')) hrest

theorem array_stable {element : Decoder α} (h : Stable element) : Stable (array element) := by
  intro xs ys i vs hvs
  obtain ⟨n, hlength, hvs⟩ := Option.bind_eq_some_iff.mp hvs
  obtain ⟨hbound, hvs⟩ := Option.ite_none_right_eq_some.mp hvs
  refine Option.bind_eq_some_iff.mpr ⟨n, length_stable xs ys i n hlength, ?_⟩
  refine Option.ite_none_right_eq_some.mpr ⟨?_, mapM_imp (fun k hk v hv => ?_) hvs⟩
  · rw [List.length_append]
    omega
  · -- the offset words are there, since the size of the array was checked
    have hlt := List.mem_range.mp hk
    exact dynamic_append h (by omega) hv

end Abi
