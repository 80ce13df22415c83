/-
What is read of a number, byte by byte.  A number is accepted exactly if it ends within
ten bytes and fits into a word, and a reader that puts the groups together by shifts loses
none of their bits.  The end of the bytes is missed in what can still become a number, but
also behind ten bytes of which the last goes on, where nothing can come of it any more.
-/
import CommandRegistry.Proofs.VarintForms
import Mathlib.Algebra.BigOperators.Ring.Finset
import Mathlib.Data.Nat.Bitwise
import Mathlib.Tactic.Ring

namespace CommandRegistry

variable {word sum : UInt64} {byte last : UInt8} {bytes front rest : Bytes} {index used : Nat}

/-- A word can be shifted by fewer places than it has bits, and by no more. -/
def shiftLeft? (word : UInt64) (places : Nat) : Option UInt64 :=
  if places < 64 then some (word <<< places.toUInt64) else none

/-- Read a number byte by byte: the group of each byte is shifted to its place and joined
to the sum of those before.  There is no result if there is none of a shift. -/
def Varint.gather (index shift : Nat) (sum : UInt64) :
    Bytes → Option (Except VarintError (UInt64 × Nat))
  | [] => some (.error .unexpectedEnd)
  | byte :: rest =>
      if Varint.maxLength ≤ index then some (.error .overflow)
      else
        let low := (byte &&& 0x7F).toUInt64
        if shift = 63 ∧ 1 < low then some (.error .overflow)
        else
          (shiftLeft? low shift).bind fun part =>
            if byte &&& 0x80 = 0 then some (.ok (sum ||| part, index + 1))
            else Varint.gather (index + 1) (shift + 7) (sum ||| part) rest

theorem Varint.and_low (byte : UInt8) : byte &&& 0x7F = byte % 128 := by
  apply UInt8.toNat_inj.1
  rw [UInt8.toNat_and, UInt8.toNat_mod]
  exact Nat.and_two_pow_sub_one_eq_mod byte.toNat 7

theorem Varint.and_high_eq_zero_iff : byte &&& 0x80 = 0 ↔ byte < 128 := by
  have hbyte : byte.toNat < 256 := byte.toNat_lt
  rw [← UInt8.toNat_inj, UInt8.toNat_and, UInt8.lt_iff_toNat_lt]
  change byte.toNat &&& 2 ^ 7 = 0 ↔ byte.toNat < 128
  rw [Nat.and_two_pow, Nat.testBit_eq_decide_div_mod_eq]
  simp only [Nat.reducePow, mul_eq_zero, Bool.toNat_eq_zero, decide_eq_false_iff_not,
    OfNat.ofNat_ne_zero, or_false]
  omega

theorem Varint.gather_cons (index shift : Nat) (sum : UInt64) (byte : UInt8) (rest : Bytes) :
    Varint.gather index shift sum (byte :: rest) =
      if Varint.maxLength ≤ index then some (.error .overflow)
      else if shift = 63 ∧ 1 < (byte % 128).toUInt64 then some (.error .overflow)
      else
        (shiftLeft? (byte % 128).toUInt64 shift).bind fun part =>
          if byte < 128 then some (.ok (sum ||| part, index + 1))
          else Varint.gather (index + 1) (shift + 7) (sum ||| part) rest := by
  simp only [Varint.gather, Varint.and_low, Varint.and_high_eq_zero_iff]

/-- Bits that do not meet add up, if none of them is shifted out of the word. -/
theorem toNat_or_shiftLeft {low : UInt64} {places : Nat} (hplaces : places < 64)
    (hsum : sum.toNat < 2 ^ places) (hfits : 2 ^ places * low.toNat < UInt64.size) :
    (sum ||| low <<< places.toUInt64).toNat = sum.toNat + 2 ^ places * low.toNat := by
  have hmod : places.toUInt64.toNat % 64 = places := by
    rw [UInt64.toNat_ofNat']
    omega
  have hpart : (low <<< places.toUInt64).toNat = 2 ^ places * low.toNat := by
    rw [UInt64.toNat_shiftLeft, hmod, Nat.shiftLeft_eq, Nat.mul_comm]
    exact Nat.mod_eq_of_lt hfits
  rw [UInt64.toNat_or, hpart, Nat.lor_comm, ← Nat.two_pow_add_eq_or_of_lt hsum, Nat.add_comm]

/-- A group that finds room at its place is joined to the groups before it without loss. -/
theorem Varint.toNat_or_group (hindex : index < Varint.maxLength)
    (hsum : sum.toNat < 2 ^ (7 * index)) (byte : UInt8)
    (hroom : index = 9 → (byte % 128).toUInt64 ≤ 1) :
    (sum ||| (byte % 128).toUInt64 <<< (7 * index).toUInt64).toNat =
      sum.toNat + 2 ^ (7 * index) * (byte.toNat % 128) := by
  unfold Varint.maxLength at hindex
  have hlow := Varint.toNat_low byte
  have hfits : 2 ^ (7 * index) * (byte % 128).toUInt64.toNat < UInt64.size := by
    by_cases hlast : index = 9
    · have hbit : (byte % 128).toUInt64.toNat ≤ 1 := UInt64.le_iff_toNat_le.1 (hroom hlast)
      subst hlast
      exact lt_of_le_of_lt (Nat.mul_le_mul_left _ hbit) (by decide)
    · have hpow : 2 ^ (7 * index) ≤ 2 ^ (7 * 8) :=
        Nat.pow_le_pow_right (by decide) (by omega)
      have hgroup : (byte % 128).toUInt64.toNat ≤ 127 := by omega
      exact lt_of_le_of_lt (Nat.mul_le_mul hpow hgroup) (by decide)
  rw [toNat_or_shiftLeft (by omega) hsum hfits, hlow]

theorem Varint.or_group (hindex : index < Varint.maxLength)
    (hsum : sum.toNat < 2 ^ (7 * index)) (byte : UInt8)
    (hroom : index = 9 → (byte % 128).toUInt64 ≤ 1) :
    sum ||| (byte % 128).toUInt64 <<< (7 * index).toUInt64 =
      sum + UInt64.ofNat (2 ^ (7 * index)) * (byte % 128).toUInt64 := by
  have hjoined := Varint.toNat_or_group hindex hsum byte hroom
  rw [← Varint.toNat_low] at hjoined
  rw [← UInt64.ofNat_toNat (x := sum ||| _), hjoined, UInt64.ofNat_add, UInt64.ofNat_mul,
    UInt64.ofNat_toNat, UInt64.ofNat_toNat]

/-- From any byte on: the sum so far lies below the place of the next group. -/
theorem Varint.gather_eq (hindex : index ≤ Varint.maxLength)
    (hsum : sum.toNat < 2 ^ (7 * index)) (bytes : Bytes) :
    Varint.gather index (7 * index) sum bytes =
      some ((Varint.readGroups (Varint.maxLength - index) bytes).map fun tail =>
        (sum + UInt64.ofNat (2 ^ (7 * index)) * tail.1, index + tail.2)) := by
  induction bytes generalizing index sum with
  | nil => simp only [Varint.gather, Varint.readGroups, Except.map]
  | cons byte rest ih =>
      rw [Varint.gather_cons]
      by_cases hfull : Varint.maxLength ≤ index
      · have hnone : Varint.maxLength - index = 0 := by omega
        rw [if_pos hfull, hnone]
        rfl
      obtain ⟨left, hleft⟩ := Nat.exists_eq_add_of_lt (Nat.not_le.1 hfull)
      have hcount : Varint.maxLength - index = left + 1 := by omega
      have hplace : 7 * index = 63 ↔ left = 0 := by
        unfold Varint.maxLength at hleft
        omega
      rw [if_neg hfull, hcount, Varint.readGroups_cons]
      simp only [hplace]
      by_cases hbig : left = 0 ∧ 1 < (byte % 128).toUInt64
      · rw [if_pos hbig, if_pos hbig]
        rfl
      have hroom : index = 9 → (byte % 128).toUInt64 ≤ 1 := by
        intro hlast
        exact UInt64.not_lt.1 fun hlt => hbig ⟨by omega, hlt⟩
      have hjoined := Varint.or_group (Nat.not_le.1 hfull) hsum byte hroom
      have hplaces : 7 * index < 64 := by
        unfold Varint.maxLength at hleft
        omega
      rw [if_neg hbig, if_neg hbig, shiftLeft?, if_pos hplaces, Option.bind_some]
      by_cases hended : byte < 128
      · rw [if_pos hended, if_pos hended, hjoined]
        rfl
      · have hpow : 2 ^ (7 * (index + 1)) = 2 ^ (7 * index) * 128 := by
          rw [Nat.mul_succ, Nat.pow_add]
        have hnext : (sum ||| (byte % 128).toUInt64 <<< (7 * index).toUInt64).toNat <
            2 ^ (7 * (index + 1)) := by
          have hgroup : 2 ^ (7 * index) * (byte.toNat % 128) ≤ 2 ^ (7 * index) * 127 :=
            Nat.mul_le_mul_left _ (Nat.le_of_lt_succ (Nat.mod_lt _ (by decide)))
          rw [hpow, Varint.toNat_or_group (Nat.not_le.1 hfull) hsum byte hroom]
          omega
        have hrest : Varint.maxLength - (index + 1) = left := by omega
        have hword : UInt64.ofNat (2 ^ (7 * (index + 1))) =
            UInt64.ofNat (2 ^ (7 * index)) * 128 := by
          rw [hpow, UInt64.ofNat_mul]
          rfl
        rw [if_neg hended, if_neg hended, ← Nat.mul_succ, ih (by omega) hnext, hrest, hjoined]
        cases Varint.readGroups left rest with
        | error fault => rfl
        | ok tail =>
            simp only [Except.map, hword, UInt64.mul_add, UInt64.mul_assoc, UInt64.add_assoc,
              Nat.add_assoc, Nat.add_comm 1]

/-- No shift is out of range, and none loses a bit: what is joined is what is read. -/
theorem Varint.gather_eq_read (bytes : Bytes) :
    Varint.gather 0 0 0 bytes = some (Varint.read bytes) := by
  rw [← Nat.mul_zero 7, Varint.gather_eq (Nat.zero_le _) (by decide), Varint.read]
  cases Varint.readGroups Varint.maxLength bytes with
  | error fault => rfl
  | ok found => simp [Except.map]

/-- The number that the first bytes make up: each adds its low seven bits at its place. -/
def Varint.firstTotal (bytes : Bytes) (count : Nat) : Nat :=
  ∑ place ∈ Finset.range count, (bytes.getD place 0).toNat % 128 * 2 ^ (7 * place)

/-- The first byte without its high bit is the last of so many. -/
structure Varint.EndsAfter (bytes : Bytes) (count : Nat) : Prop where
  count_pos : 1 ≤ count
  count_le : count ≤ bytes.length
  continued : ∀ place, place + 1 < count → 128 ≤ bytes.getD place 0
  ended : bytes.getD (count - 1) 0 < 128

theorem Varint.firstTotal_append (front rest : Bytes) :
    Varint.firstTotal (front ++ rest) front.length = Varint.total front := by
  induction front with
  | nil => rfl
  | cons byte front ih =>
      rw [Varint.total_cons, ← ih, Varint.firstTotal, Varint.firstTotal, List.length_cons,
        Finset.sum_range_succ', Finset.mul_sum, Nat.add_comm, List.cons_append]
      congr 1
      · rw [List.getD_cons_zero, Nat.mul_zero, Nat.pow_zero, Nat.mul_one]
      · apply Finset.sum_congr rfl
        intro place _
        rw [List.getD_cons_succ, Nat.mul_succ, Nat.pow_add]
        ring

theorem Varint.endsAfter_append (hcontinued : ∀ byte ∈ front, 128 ≤ byte) (hended : last < 128)
    (rest : Bytes) : Varint.EndsAfter (front ++ last :: rest) (front.length + 1) := by
  refine ⟨Nat.le_add_left 1 _, by simp, ?_, ?_⟩
  · intro place hplace
    have hlt : place < front.length := Nat.lt_of_succ_lt_succ hplace
    rw [List.getD_append _ _ _ _ hlt, List.getD_eq_getElem _ _ hlt]
    exact hcontinued _ (List.getElem_mem hlt)
  · rw [Nat.add_sub_cancel, List.getD_append_right _ _ _ _ le_rfl, Nat.sub_self]
    exact hended

theorem Varint.EndsAfter.split {count : Nat} (hends : Varint.EndsAfter bytes count) :
    ∃ front last rest, bytes = front ++ last :: rest ∧ (∀ byte ∈ front, 128 ≤ byte) ∧
      last < 128 ∧ count = front.length + 1 := by
  obtain ⟨before, rfl⟩ := Nat.exists_eq_add_of_le' hends.count_pos
  have hlt : before < bytes.length := hends.count_le
  refine ⟨bytes.take before, bytes[before], bytes.drop (before + 1), ?_, ?_, ?_, ?_⟩
  · rw [← List.drop_eq_getElem_cons hlt, List.take_append_drop]
  · intro byte hmem
    obtain ⟨place, hplace, rfl⟩ := List.mem_take_iff_getElem.1 hmem
    have hbefore : place < before := lt_of_lt_of_le hplace (Nat.min_le_left _ _)
    rw [← List.getD_eq_getElem bytes 0]
    exact hends.continued place (Nat.succ_lt_succ hbefore)
  · rw [← List.getD_eq_getElem bytes 0]
    exact hends.ended
  · rw [List.length_take_of_le (Nat.le_of_lt hlt)]

theorem Varint.firstTotal_form (rest : Bytes) :
    Varint.firstTotal (front ++ last :: rest) (front.length + 1) =
      Varint.total (front ++ [last]) := by
  have hsplit := Varint.firstTotal_append (front ++ [last]) rest
  rwa [List.append_assoc, List.length_append] at hsplit

theorem Varint.read_eq_ok_iff_endsAfter :
    Varint.read bytes = .ok (word, used) ↔
      Varint.EndsAfter bytes used ∧ used ≤ Varint.maxLength ∧
        Varint.firstTotal bytes used = word.toNat := by
  rw [Varint.read_eq_ok_iff]
  constructor
  · rintro ⟨form, rest, rfl, rfl, rfl⟩
    rw [form.bytes_append, form.length_bytes, Varint.firstTotal_form]
    exact ⟨Varint.endsAfter_append form.continued form.ended rest, form.length_front_lt,
      form.total_eq⟩
  · rintro ⟨hends, hlength, htotal⟩
    obtain ⟨front, last, rest, rfl, hcontinued, hended, rfl⟩ := hends.split
    rw [Varint.firstTotal_form] at htotal
    let form : Varint.Form := ⟨front, last, word, hcontinued, hended, hlength, htotal⟩
    exact ⟨form, rest, (form.bytes_append rest).symm, rfl, form.length_bytes⟩

theorem Varint.EndsAfter.count_le_count {count other : Nat} (hends : Varint.EndsAfter bytes count)
    (hother : Varint.EndsAfter bytes other) : other ≤ count := by
  by_contra hlater
  have hpos := hends.count_pos
  have hgoes := hother.continued (count - 1) (by omega)
  exact UInt8.not_le.2 hends.ended hgoes

theorem Varint.EndsAfter.not_unfinished {count : Nat} (hends : Varint.EndsAfter bytes count) :
    ¬Varint.Unfinished bytes := by
  intro hunfinished
  obtain ⟨front, last, rest, rfl, -, hended, -⟩ := hends.split
  exact UInt8.not_le.2 hended (hunfinished.continued last (by simp))

/-- What is neither a number nor one that has begun is too much for a word. -/
theorem Varint.read_eq_overflow (hno : ∀ word used, Varint.read bytes ≠ .ok (word, used))
    (hover : ¬Varint.Unfinished bytes) : Varint.read bytes = .error .overflow := by
  cases hread : Varint.read bytes with
  | ok parts => exact absurd hread (hno parts.1 parts.2)
  | error fault =>
      cases fault with
      | unexpectedEnd => exact absurd (Varint.read_eq_unexpectedEnd_iff.1 hread) hover
      | overflow => rfl

/-- A number is read from a byte string exactly if the first byte without its high bit
ends it, within ten bytes, and its total fits into a word, which then is the total; what
follows it is never looked at.  A number that ends later or has a greater total is too
much.  A reader that puts the groups together by shifts comes to the same on all byte
strings, with every shift in range and no bit lost. -/
theorem Varint.accepted_numbers (bytes : Bytes) :
    (∀ word used, Varint.read bytes = .ok (word, used) ↔
      Varint.EndsAfter bytes used ∧ used ≤ 10 ∧ Varint.firstTotal bytes used < 2 ^ 64 ∧
        word.toNat = Varint.firstTotal bytes used) ∧
    Varint.gather 0 0 0 bytes = some (Varint.read bytes) ∧
    (∀ word used, Varint.read bytes = .ok (word, used) →
      ∀ rest, Varint.read (bytes.take used ++ rest) = .ok (word, used)) ∧
    (∀ count, Varint.EndsAfter bytes count →
      10 < count ∨ 2 ^ 64 ≤ Varint.firstTotal bytes count →
      Varint.read bytes = .error .overflow) := by
  refine ⟨?_, Varint.gather_eq_read bytes, ?_, ?_⟩
  · intro word used
    rw [Varint.read_eq_ok_iff_endsAfter]
    constructor
    · rintro ⟨hends, hlength, htotal⟩
      exact ⟨hends, hlength, htotal ▸ word.toNat_lt, htotal.symm⟩
    · rintro ⟨hends, hlength, -, htotal⟩
      exact ⟨hends, hlength, htotal.symm⟩
  · intro word used hread rest
    obtain ⟨form, behind, rfl, rfl, rfl⟩ := Varint.read_eq_ok_iff.1 hread
    rw [List.take_left]
    exact Varint.read_eq_ok_iff.2 ⟨form, rest, rfl, rfl, rfl⟩
  · intro count hends hmuch
    apply Varint.read_eq_overflow
    · intro word used hread
      obtain ⟨hfirst, hlength, htotal⟩ := Varint.read_eq_ok_iff_endsAfter.1 hread
      obtain rfl : used = count :=
        Nat.le_antisymm (hends.count_le_count hfirst) (hfirst.count_le_count hends)
      rcases hmuch with hlong | hbig
      · exact Nat.not_le.2 hlong hlength
      · exact Nat.not_le.2 word.toNat_lt (htotal ▸ hbig)
    · exact hends.not_unfinished

/-- Of the tenth byte one bit counts. -/
example : Varint.read (List.replicate 9 0xFF ++ [2]) = .error .overflow := rfl

/-- There are bytes that complete these to a number, which ends with them. -/
def Varint.Completable (bytes : Bytes) : Prop :=
  ∃ (rest : Bytes) (word : UInt64),
    rest ≠ [] ∧ Varint.read (bytes ++ rest) = .ok (word, (bytes ++ rest).length)

/-- All bytes that a number may have are there, and the last of them goes on. -/
structure Varint.Overrun (bytes : Bytes) : Prop where
  unfinished : Varint.Unfinished bytes
  length_eq : bytes.length = Varint.maxLength

theorem Varint.total_append (front rest : Bytes) :
    Varint.total (front ++ rest) =
      Varint.total front + 128 ^ front.length * Varint.total rest := by
  simp only [Varint.total, List.map_append, Nat.ofDigits_append, List.length_map]

theorem Varint.Unfinished.of_append (hunfinished : Varint.Unfinished (bytes ++ rest)) :
    Varint.Unfinished bytes := by
  obtain ⟨hcontinued, hlength, htotal⟩ := hunfinished
  rw [List.length_append] at hlength
  rw [Varint.total_append] at htotal
  exact ⟨fun byte hmem => hcontinued byte (List.mem_append_left rest hmem), by omega, by omega⟩

/-- A zero ends what has begun, if there is room for another byte. -/
theorem Varint.Unfinished.completable (hunfinished : Varint.Unfinished bytes)
    (hlength : bytes.length < Varint.maxLength) : Varint.Completable bytes := by
  have htotal : Varint.total (bytes ++ [0]) = (Varint.total bytes).toUInt64.toNat := by
    rw [Varint.total_append, Varint.total_singleton, UInt64.toNat_ofNat',
      Nat.mod_eq_of_lt hunfinished.total_lt]
    rfl
  let form : Varint.Form := ⟨bytes, 0, (Varint.total bytes).toUInt64, hunfinished.continued,
    by decide, hlength, htotal⟩
  exact ⟨[0], form.word, by simp,
    Varint.read_eq_ok_iff.2 ⟨form, [], (List.append_nil _).symm, rfl, rfl⟩⟩

theorem Varint.Form.unfinished_front (form : Varint.Form) : Varint.Unfinished form.front := by
  refine ⟨form.continued, Nat.le_of_lt form.length_front_lt, ?_⟩
  calc
    Varint.total form.front ≤ Varint.total (form.front ++ [form.last]) := by
      rw [Varint.total_append]
      exact Nat.le_add_right _ _
    _ = form.word.toNat := form.total_eq
    _ < UInt64.size := form.word.toNat_lt_size

/-- What can be completed is the beginning of a form and lacks at least its last byte. -/
theorem Varint.Completable.unfinished (hcompletable : Varint.Completable bytes) :
    Varint.Unfinished bytes ∧ bytes.length < Varint.maxLength := by
  obtain ⟨rest, word, hrest, hread⟩ := hcompletable
  obtain ⟨form, behind, hbytes, -, hlength⟩ := Varint.read_eq_ok_iff.1 hread
  have hnothing : behind = [] := by
    rw [hbytes, List.length_append, Nat.left_eq_add] at hlength
    exact List.eq_nil_of_length_eq_zero hlength
  obtain ⟨before, last, rfl⟩ := (List.eq_nil_or_concat' rest).resolve_left hrest
  rw [hnothing, List.append_nil, ← List.append_assoc] at hbytes
  obtain ⟨hfront, -⟩ := List.append_singleton_inj.1 hbytes
  have hunfinished := form.unfinished_front
  have hlt := form.length_front_lt
  rw [← hfront] at hunfinished hlt
  rw [List.length_append] at hlt
  exact ⟨hunfinished.of_append, by omega⟩

theorem Varint.completable_iff :
    Varint.Completable bytes ↔ Varint.Unfinished bytes ∧ bytes.length < Varint.maxLength :=
  ⟨fun hcompletable => hcompletable.unfinished,
    fun hbegun => hbegun.1.completable hbegun.2⟩

theorem Varint.Overrun.not_completable (hoverrun : Varint.Overrun bytes) :
    ¬Varint.Completable bytes :=
  fun hcompletable => Nat.ne_of_lt hcompletable.unfinished.2 hoverrun.length_eq

theorem Varint.unfinished_iff :
    Varint.Unfinished bytes ↔ Varint.Completable bytes ∨ Varint.Overrun bytes := by
  rw [Varint.completable_iff]
  constructor
  · intro hunfinished
    rcases Nat.lt_or_eq_of_le hunfinished.length_le with hlt | heq
    · exact .inl ⟨hunfinished, hlt⟩
    · exact .inr ⟨hunfinished, heq⟩
  · rintro (⟨hunfinished, -⟩ | ⟨hunfinished, -⟩)
    · exact hunfinished
    · exact hunfinished

/-- No number begins with all the bytes that it may have and goes on. -/
theorem Varint.Overrun.read_append (hoverrun : Varint.Overrun bytes) (rest : Bytes)
    (word : UInt64) (used : Nat) : Varint.read (bytes ++ rest) ≠ .ok (word, used) := by
  intro hread
  obtain ⟨hends, hlength, -⟩ := Varint.read_eq_ok_iff_endsAfter.1 hread
  have hlt : used - 1 < bytes.length := by
    have hpos := hends.count_pos
    rw [hoverrun.length_eq]
    omega
  have hended := hends.ended
  rw [List.getD_append _ _ _ _ hlt, List.getD_eq_getElem _ _ hlt] at hended
  exact UInt8.not_le.2 hended (hoverrun.unfinished.continued _ (List.getElem_mem hlt))

/-- The end is missed exactly in what can be completed and behind ten bytes of which the last
goes on.  There nothing can be completed any more, and with anything behind them they are
too much; all other bytes that are no number and become none are too much from the beginning
and stay so. -/
theorem Varint.missing_end (bytes : Bytes) :
    (Varint.read bytes = .error .unexpectedEnd ↔
      Varint.Completable bytes ∨ Varint.Overrun bytes) ∧
    (Varint.Overrun bytes → ¬Varint.Completable bytes ∧
      ∀ rest, rest ≠ [] → Varint.read (bytes ++ rest) = .error .overflow) ∧
    ((∀ rest word used, Varint.read (bytes ++ rest) ≠ .ok (word, used)) →
      ¬Varint.Overrun bytes →
      ∀ rest, Varint.read (bytes ++ rest) = .error .overflow) := by
  refine ⟨?_, ?_, ?_⟩
  · rw [Varint.read_eq_unexpectedEnd_iff, Varint.unfinished_iff]
  · intro hoverrun
    refine ⟨hoverrun.not_completable, ?_⟩
    intro rest hrest
    apply Varint.read_eq_overflow (hoverrun.read_append rest)
    intro hunfinished
    have hlength := hunfinished.length_le
    have hpos := List.length_pos_iff.2 hrest
    rw [List.length_append, hoverrun.length_eq] at hlength
    omega
  · intro hnever hroom rest
    apply Varint.read_eq_overflow (hnever rest)
    intro hunfinished
    rcases Varint.unfinished_iff.1 hunfinished.of_append with hcompletable | hoverrun
    · obtain ⟨behind, word, -, hread⟩ := hcompletable
      exact hnever behind word _ hread
    · exact hroom hoverrun

/-- Behind ten bytes that go on the end is missed, and nothing can complete them. -/
theorem Varint.waits_in_vain :
    Varint.read (List.replicate 10 0x80) = .error .unexpectedEnd ∧
      ¬Varint.Completable (List.replicate 10 0x80) := by
  have hread : Varint.read (List.replicate 10 0x80) = .error .unexpectedEnd := rfl
  have hoverrun : Varint.Overrun (List.replicate 10 0x80) :=
    ⟨Varint.read_eq_unexpectedEnd_iff.1 hread, rfl⟩
  exact ⟨hread, hoverrun.not_completable⟩

end CommandRegistry
