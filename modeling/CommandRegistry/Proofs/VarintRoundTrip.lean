/-
Numbers read back.  A number in its shortest form is read back from the front of
whatever follows it, so nothing has to tell where it ends.
-/
import CommandRegistry.Bytes
import Mathlib.Algebra.Group.Nat.Defs
import Mathlib.Tactic.SplitIfs

namespace CommandRegistry

variable {word : UInt64}

theorem Varint.last_byte (hsmall : word < 128) :
    word.toUInt8 < 128 ∧ (word.toUInt8 % 128).toUInt64 = word := by
  have hword : word.toNat < 128 := UInt64.lt_iff_toNat_lt.1 hsmall
  have hbyte : word.toUInt8.toNat = word.toNat := by
    rw [UInt64.toNat_toUInt8]
    omega
  constructor
  · simp only [UInt8.lt_iff_toNat_lt, hbyte, UInt8.reduceToNat]
    exact hword
  · apply UInt64.toNat_inj.1
    simp only [UInt8.toNat_toUInt64, UInt8.toNat_mod, hbyte, UInt8.reduceToNat]
    exact Nat.mod_eq_of_lt hword

theorem Varint.first_byte (word : UInt64) :
    ¬ (word % 128 + 128).toUInt8 < 128 ∧
      ((word % 128 + 128).toUInt8 % 128).toUInt64 = word % 128 := by
  have hlow : (word % 128).toNat < 128 := by
    simp only [UInt64.toNat_mod, UInt64.reduceToNat]
    omega
  have hbyte : (word % 128 + 128).toUInt8.toNat = (word % 128).toNat + 128 := by
    simp only [UInt64.toNat_toUInt8, UInt64.toNat_add, UInt64.reduceToNat]
    omega
  constructor
  · simp only [UInt8.lt_iff_toNat_lt, hbyte, UInt8.reduceToNat]
    omega
  · apply UInt64.toNat_inj.1
    simp only [UInt8.toNat_toUInt64, UInt8.toNat_mod, hbyte, UInt8.reduceToNat]
    omega

theorem Varint.low_add_high (word : UInt64) : word % 128 + 128 * (word / 128) = word := by
  apply UInt64.toNat_inj.1
  have hbound := word.toNat_lt
  simp only [UInt64.toNat_add, UInt64.toNat_mul, UInt64.toNat_mod, UInt64.toNat_div,
    UInt64.reduceToNat]
  omega

theorem Varint.readGroups_cons (left : Nat) (byte : UInt8) (rest : Bytes) :
    Varint.readGroups (left + 1) (byte :: rest) =
      if left = 0 ∧ 1 < (byte % 128).toUInt64 then .error .overflow
      else if byte < 128 then .ok ((byte % 128).toUInt64, 1)
      else
        match Varint.readGroups left rest with
        | .ok (high, used) => .ok ((byte % 128).toUInt64 + 128 * high, used + 1)
        | .error fault => .error fault :=
  rfl

theorem Varint.appendGroups_eq (more : Nat) (word : UInt64) (buffer : Bytes) :
    Varint.appendGroups more word buffer =
      (buffer ++ Varint.groups more word, (Varint.groups more word).length) := by
  induction more generalizing word buffer with
  | zero => rfl
  | succ more ih =>
      rw [Varint.appendGroups, Varint.groups]
      split_ifs with hsmall
      · rfl
      · rw [ih, List.append_assoc]
        rfl

/-- A number is put behind what a buffer holds. -/
theorem Varint.fst_append (word : UInt64) (buffer : Bytes) :
    (Varint.append word buffer).1 = buffer ++ Varint.write word :=
  congrArg Prod.fst (Varint.appendGroups_eq _ word buffer)

/-- The last group of a full-length number has one bit, hence the factor two. -/
theorem Varint.readGroups_groups (more : Nat) (word : UInt64)
    (hword : word.toNat < 2 * 128 ^ more) (rest : Bytes) :
    Varint.readGroups (more + 1) (Varint.groups more word ++ rest) =
      .ok (word, (Varint.groups more word).length) := by
  induction more generalizing word with
  | zero =>
      have hsmall : word < 128 := by
        simp only [UInt64.lt_iff_toNat_lt, UInt64.reduceToNat]
        omega
      have hbit : ¬ 1 < word := by
        simp only [UInt64.lt_iff_toNat_lt, UInt64.reduceToNat]
        omega
      obtain ⟨hbyte, hlow⟩ := Varint.last_byte hsmall
      simp only [Varint.groups, List.cons_append, List.nil_append, Varint.readGroups, hlow,
        hbit, hbyte, and_false, if_false, if_true, List.length_singleton]
  | succ more ih =>
      by_cases hsmall : word < 128
      · obtain ⟨hbyte, hlow⟩ := Varint.last_byte hsmall
        simp only [Varint.groups, hsmall, List.cons_append, List.nil_append, Varint.readGroups,
          hlow, hbyte, Nat.add_one_ne_zero, false_and, if_false, if_true,
          List.length_singleton]
      · obtain ⟨hbyte, hlow⟩ := Varint.first_byte word
        have hhigh : (word / 128).toNat < 2 * 128 ^ more := by
          simp only [UInt64.toNat_div, UInt64.reduceToNat]
          rw [Nat.pow_succ] at hword
          omega
        have hrest := ih (word / 128) hhigh
        simp only [Varint.groups, hsmall, List.cons_append, Varint.readGroups, hlow, hbyte,
          Nat.add_one_ne_zero, false_and, if_false, hrest, Varint.low_add_high,
          List.length_cons]

theorem Varint.read_write (word : UInt64) (rest : Bytes) :
    Varint.read (Varint.write word ++ rest) = .ok (word, (Varint.write word).length) :=
  Varint.readGroups_groups 9 word word.toNat_lt rest

/-- A number is split off from the bytes that follow it. -/
theorem Varint.split_write (word : UInt64) (rest : Bytes) :
    Varint.split (Varint.write word ++ rest) = .ok (word, rest) := by
  simp only [Varint.split, Varint.read_write, List.drop_left]

end CommandRegistry
