import Mathlib.Data.List.GetD
import Mathlib.Data.List.Range
import Mathlib.Data.Nat.Digits.Defs

/-!
# Reading from a byte buffer

A pointer to a buffer does not know where the buffer ends. So every offset can be read,
and a computation keeps the offsets that it read.

* `slice_of_le` — what is read inside the buffer is a part of it
* `slice_over` — a read over the end gives the rest of the buffer and what lies behind
* `inside_range'` — when a read stays inside
* `slice_overwrite` — what was written is read back
* `leValue_leBytes` — little-endian numbers are read back
-/

namespace Infra

/-- A result together with the offsets that were read for it. -/
@[ext] structure Traced (α : Type*) where
  value : α
  offsets : List Nat := []

namespace Traced

instance : Monad Traced where
  pure a := { value := a }
  bind x f := { value := (f x.value).value, offsets := x.offsets ++ (f x.value).offsets }

variable {α β : Type _}

@[simp] theorem value_pure (a : α) : (pure a : Traced α).value = a := rfl

@[simp] theorem offsets_pure (a : α) : (pure a : Traced α).offsets = [] := rfl

@[simp] theorem value_bind (x : Traced α) (f : α → Traced β) :
    (x >>= f).value = (f x.value).value := rfl

@[simp] theorem offsets_bind (x : Traced α) (f : α → Traced β) :
    (x >>= f).offsets = x.offsets ++ (f x.value).offsets := rfl

@[simp] theorem value_map (f : α → β) (x : Traced α) : (f <$> x).value = f x.value := rfl

@[simp] theorem offsets_map (f : α → β) (x : Traced α) : (f <$> x).offsets = x.offsets :=
  List.append_nil x.offsets

end Traced

/-- The bytes of a buffer, and what the memory holds behind them. -/
structure Buffer where
  bytes : List UInt8
  beyond : Nat → UInt8

namespace Buffer

variable (b : Buffer)

def size : Nat := b.bytes.length

def byteAt (i : Nat) : UInt8 := b.bytes.getD i (b.beyond (i - b.size))

/-- An array of `size` bytes in a memory that nobody has cleared. -/
def uninitialised (size : Nat) (memory : Nat → UInt8) : Buffer where
  bytes := (List.range size).map memory
  beyond i := memory (size + i)

/-- What is written from the start covers the old bytes as far as it reaches. -/
def overwrite (new : List UInt8) : Buffer where
  bytes := new ++ b.bytes.drop new.length
  beyond := b.beyond

def slice (offset count : Nat) : List UInt8 := (List.range count).map fun i => b.byteAt (offset + i)

def read (offset : Nat) : Traced UInt8 where
  value := b.byteAt offset
  offsets := [offset]

def readSlice (offset count : Nat) : Traced (List UInt8) where
  value := b.slice offset count
  offsets := List.range' offset count

/-- All offsets are inside the buffer. -/
def Inside (offsets : List Nat) : Prop := ∀ i ∈ offsets, i < b.size

@[simp] theorem read_value (i : Nat) : (b.read i).value = b.byteAt i := rfl

@[simp] theorem read_offsets (i : Nat) : (b.read i).offsets = [i] := rfl

@[simp] theorem readSlice_value (offset count : Nat) :
    (b.readSlice offset count).value = b.slice offset count := rfl

@[simp] theorem readSlice_offsets (offset count : Nat) :
    (b.readSlice offset count).offsets = List.range' offset count := rfl

@[simp] theorem length_slice (offset count : Nat) : (b.slice offset count).length = count := by
  rw [slice, List.length_map, List.length_range]

@[simp] theorem size_uninitialised (size : Nat) (memory : Nat → UInt8) :
    (uninitialised size memory).size = size := by
  rw [Buffer.size, uninitialised, List.length_map, List.length_range]

variable {b}

@[simp] theorem inside_nil : b.Inside [] := fun _ h => absurd h List.not_mem_nil

theorem inside_append {xs ys : List Nat} : b.Inside (xs ++ ys) ↔ b.Inside xs ∧ b.Inside ys :=
  List.forall_mem_append

/-- **A read stays inside when it is empty or ends before the end.** -/
theorem inside_range' {offset count : Nat} :
    b.Inside (List.range' offset count) ↔ count = 0 ∨ offset + count ≤ b.size := by
  simp only [Inside, List.mem_range'_1]
  constructor
  · intro h
    by_cases hc : count = 0
    · exact Or.inl hc
    · have hlast := h (offset + count - 1) (by omega)
      omega
  · rintro h i ⟨hl, hr⟩
    omega

theorem byteAt_of_lt {i : Nat} (h : i < b.bytes.length) : b.byteAt i = b.bytes[i] :=
  List.getD_eq_getElem _ _ h

theorem byteAt_of_le {i : Nat} (h : b.size ≤ i) : b.byteAt i = b.beyond (i - b.size) :=
  List.getD_eq_default _ _ h

/-- **What is read inside the buffer is a part of it.** -/
theorem slice_of_le {offset count : Nat} (h : offset + count ≤ b.size) :
    b.slice offset count = (b.bytes.drop offset).take count := by
  have hsize : b.bytes.length = b.size := rfl
  refine List.ext_getElem (by simp; omega) fun i hi _ => ?_
  rw [length_slice] at hi
  simp only [slice, List.getElem_map, List.getElem_range, List.getElem_take, List.getElem_drop]
  exact byteAt_of_lt (by omega)

theorem slice_add (offset n k : Nat) :
    b.slice offset (n + k) = b.slice offset n ++ b.slice (offset + n) k := by
  simp only [slice, List.range_add, List.map_append, List.map_map, Function.comp_def, Nat.add_assoc]

/-- **A read over the end gives the rest of the buffer and what lies behind.** -/
theorem slice_over {offset n k : Nat} (h : offset + n = b.size) :
    b.slice offset (n + k) = b.bytes.drop offset ++ (List.range k).map b.beyond := by
  have hsize : b.bytes.length = b.size := rfl
  rw [slice_add, slice_of_le (by omega), List.take_of_length_le (by simp; omega), h]
  refine congrArg _ (List.map_congr_left fun i _ => ?_)
  rw [byteAt_of_le (by omega), Nat.add_sub_cancel_left]

/-- **What was written is read back.** -/
theorem slice_overwrite (new : List UInt8) : (b.overwrite new).slice 0 new.length = new := by
  have hle : 0 + new.length ≤ (b.overwrite new).size := by
    rw [size, overwrite, List.length_append]
    omega
  rw [slice_of_le hle, List.drop_zero, overwrite, List.take_left]

end Buffer

/-! ## Little-endian numbers -/

def leBytes : Nat → Nat → List UInt8
  | 0, _ => []
  | count + 1, n => UInt8.ofNat n :: leBytes count (n / 256)

def leValue (bytes : List UInt8) : Nat := Nat.ofDigits 256 (bytes.map UInt8.toNat)

@[simp] theorem length_leBytes (count n : Nat) : (leBytes count n).length = count := by
  induction count generalizing n with
  | zero => rfl
  | succ count ih => rw [leBytes, List.length_cons, ih]

/-- **A number is read back from as many bytes as it needs.** -/
theorem leValue_leBytes {count n : Nat} (h : n < 256 ^ count) : leValue (leBytes count n) = n := by
  induction count generalizing n with
  | zero =>
    rw [Nat.pow_zero, Nat.lt_one_iff] at h
    rw [h]
    rfl
  | succ count ih =>
    have hdiv : n / 256 < 256 ^ count := Nat.div_lt_of_lt_mul (by rwa [Nat.pow_succ'] at h)
    have hrest := ih hdiv
    rw [leValue] at hrest ⊢
    rw [leBytes, List.map_cons, Nat.ofDigits_cons, hrest, UInt8.toNat_ofNat']
    exact Nat.mod_add_div n 256

end Infra
