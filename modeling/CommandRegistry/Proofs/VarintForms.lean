/-
The forms of a number.  Groups of seven bits may be followed by groups of zeros, so a
word has many forms of at most ten bytes; the reader takes each of them and nothing
else, and the writer chooses the one form that is the shortest.
-/
import CommandRegistry.Proofs.VarintRoundTrip
import Mathlib.Data.Nat.Digits.Defs

namespace CommandRegistry

/-- The number that groups of seven bits make up, the least significant first. -/
def Varint.total (bytes : Bytes) : Nat :=
  Nat.ofDigits 128 (bytes.map fun byte => byte.toNat % 128)

/-- One way to write a word: all bytes but the last have their high bit set, and there
are at most ten. -/
structure Varint.Form where
  front : Bytes
  last : UInt8
  word : UInt64
  continued : ∀ byte ∈ front, 128 ≤ byte
  ended : last < 128
  length_front_lt : front.length < Varint.maxLength
  total_eq : Varint.total (front ++ [last]) = word.toNat

def Varint.Form.bytes (form : Varint.Form) : Bytes :=
  form.front ++ [form.last]

/-- No other form of the word has fewer bytes. -/
def Varint.Form.Shortest (form : Varint.Form) : Prop :=
  ∀ other : Varint.Form, other.word = form.word → form.bytes.length ≤ other.bytes.length

/-- A number that has begun and not ended: what is there of it still fits into a word. -/
structure Varint.Unfinished (bytes : Bytes) : Prop where
  continued : ∀ byte ∈ bytes, 128 ≤ byte
  length_le : bytes.length ≤ Varint.maxLength
  total_lt : Varint.total bytes < UInt64.size

/-- No form stands at the front of the bytes.  If they are over too early that is the
fault; otherwise the number does not fit into a word. -/
structure Varint.Refused (bytes : Bytes) (fault : VarintError) : Prop where
  no_form : ∀ (form : Varint.Form) (rest : Bytes), bytes ≠ form.bytes ++ rest
  cut_off : fault = .unexpectedEnd ↔ Varint.Unfinished bytes

variable {word : UInt64} {byte last : UInt8} {bytes front rest : Bytes} {more used : Nat}
  {fault : VarintError} {form : Varint.Form}

theorem Varint.total_cons (byte : UInt8) (rest : Bytes) :
    Varint.total (byte :: rest) = byte.toNat % 128 + 128 * Varint.total rest := by
  simp only [Varint.total, List.map_cons, Nat.ofDigits_cons]

theorem Varint.total_singleton (byte : UInt8) : Varint.total [byte] = byte.toNat % 128 := by
  rw [Varint.total_cons]
  rfl

theorem Varint.total_lt (bytes : Bytes) : Varint.total bytes < 128 ^ bytes.length := by
  rw [← List.length_map fun byte : UInt8 => byte.toNat % 128]
  apply Nat.ofDigits_lt_base_pow_length (by decide)
  intro digit hdigit
  obtain ⟨byte, -, rfl⟩ := List.mem_map.1 hdigit
  exact Nat.mod_lt _ (by decide)

theorem Varint.toNat_low (byte : UInt8) : (byte % 128).toUInt64.toNat = byte.toNat % 128 := by
  rw [UInt8.toNat_toUInt64, UInt8.toNat_mod]
  rfl

theorem Varint.low_of_lt (hbyte : byte < 128) : byte.toNat % 128 = byte.toNat :=
  Nat.mod_eq_of_lt (UInt8.lt_iff_toNat_lt.1 hbyte)

/-- Below a word that leaves room for a group there is nothing lost of one. -/
theorem Varint.toNat_low_add (hmore : more + 1 < Varint.maxLength) (byte : UInt8)
    {high : UInt64} (hhigh : high.toNat < 2 * 128 ^ more) :
    ((byte % 128).toUInt64 + 128 * high).toNat = byte.toNat % 128 + 128 * high.toNat := by
  have hpow : 128 ^ more ≤ 128 ^ 8 := by
    apply Nat.pow_le_pow_right (by decide)
    unfold Varint.maxLength at hmore
    omega
  rw [UInt64.toNat_add, UInt64.toNat_mul, Varint.toNat_low]
  simp only [UInt64.reduceToNat]
  omega

theorem Varint.readGroups_ended (hbyte : byte < 128)
    (hroom : more = 0 → (byte % 128).toUInt64 ≤ 1) :
    Varint.readGroups (more + 1) (byte :: rest) = .ok ((byte % 128).toUInt64, 1) := by
  have hfits : ¬(more = 0 ∧ 1 < (byte % 128).toUInt64) :=
    fun hfull => UInt64.not_lt.2 (hroom hfull.1) hfull.2
  rw [Varint.readGroups_cons, if_neg hfits, if_pos hbyte]

theorem Varint.readGroups_continued (hbyte : 128 ≤ byte) :
    Varint.readGroups (more + 2) (byte :: rest) =
      (Varint.readGroups (more + 1) rest).map fun tail =>
        ((byte % 128).toUInt64 + 128 * tail.1, tail.2 + 1) := by
  rw [Varint.readGroups_cons, if_neg fun hfull => Nat.succ_ne_zero more hfull.1,
    if_neg (UInt8.not_lt.2 hbyte)]
  cases Varint.readGroups (more + 1) rest <;> rfl

/-- Of the last group that may stand in a full-length number one bit is left. -/
theorem Varint.readGroups_one (byte : UInt8) (rest : Bytes) :
    Varint.readGroups 1 (byte :: rest) =
      if 1 < byte.toNat % 128 then .error .overflow
      else if byte < 128 then .ok ((byte % 128).toUInt64, 1)
      else if rest = [] then .error .unexpectedEnd else .error .overflow := by
  have hbig : 1 < (byte % 128).toUInt64 ↔ 1 < byte.toNat % 128 := by
    rw [UInt64.lt_iff_toNat_lt, Varint.toNat_low]
    rfl
  rw [Varint.readGroups_cons]
  simp only [true_and, hbig]
  rcases rest with - | ⟨next, rest⟩ <;> rfl

/-- Every form with this many groups is read, whatever follows it. -/
theorem Varint.readGroups_of_form (more : Nat) (hcontinued : ∀ byte ∈ front, 128 ≤ byte)
    (hended : last < 128) (hlength : front.length ≤ more)
    (htotal : Varint.total (front ++ [last]) = word.toNat)
    (hword : word.toNat < 2 * 128 ^ more) (rest : Bytes) :
    Varint.readGroups (more + 1) (front ++ last :: rest) = .ok (word, front.length + 1) := by
  induction front generalizing more word with
  | nil =>
      rw [List.nil_append, Varint.total_singleton] at htotal
      have hlow : (last % 128).toUInt64 = word :=
        UInt64.toNat_inj.1 ((Varint.toNat_low last).trans htotal)
      have hroom : more = 0 → (last % 128).toUInt64 ≤ 1 := by
        rintro rfl
        rw [hlow]
        exact UInt64.le_iff_toNat_le.2 (Nat.le_of_lt_succ hword)
      rw [List.nil_append, Varint.readGroups_ended hended hroom, hlow]
      rfl
  | cons byte front ih =>
      obtain ⟨more, rfl⟩ := Nat.exists_eq_add_of_le' (Nat.zero_lt_of_lt hlength)
      rw [List.cons_append, Varint.total_cons] at htotal
      have hquotient : (word / 128).toNat = word.toNat / 128 := UInt64.toNat_div _ _
      have hhigh : Varint.total (front ++ [last]) = (word / 128).toNat := by omega
      have hlow : (byte % 128).toUInt64 = word % 128 := by
        apply UInt64.toNat_inj.1
        rw [Varint.toNat_low]
        simp only [UInt64.toNat_mod, UInt64.reduceToNat]
        omega
      have hbound : (word / 128).toNat < 2 * 128 ^ more := by
        rw [Nat.pow_succ] at hword
        omega
      have hrest := ih more (fun other hmem => hcontinued other (List.mem_cons_of_mem byte hmem))
        (Nat.le_of_succ_le_succ hlength) hhigh hbound
      rw [List.cons_append, Varint.readGroups_continued (hcontinued byte List.mem_cons_self), hrest]
      simp only [Except.map, hlow, Varint.low_add_high, List.length_cons]

/-- What is read is a form, and the word fits into the groups that were left. -/
theorem Varint.form_of_readGroups (more : Nat) (hmore : more < Varint.maxLength)
    (hread : Varint.readGroups (more + 1) bytes = .ok (word, used)) :
    ∃ front last rest, bytes = front ++ last :: rest ∧ (∀ byte ∈ front, 128 ≤ byte) ∧
      last < 128 ∧ front.length ≤ more ∧ used = front.length + 1 ∧
      Varint.total (front ++ [last]) = word.toNat ∧ word.toNat < 2 * 128 ^ more := by
  induction more generalizing bytes word used with
  | zero =>
      rcases bytes with - | ⟨byte, rest⟩
      · simp [Varint.readGroups] at hread
      · rw [Varint.readGroups_one] at hread
        split_ifs at hread with hbig hlast
        simp only [Except.ok.injEq, Prod.mk.injEq] at hread
        obtain ⟨rfl, rfl⟩ := hread
        refine ⟨[], byte, rest, rfl, by simp, hlast, le_rfl, rfl, ?_, ?_⟩
        · rw [List.nil_append, Varint.total_singleton, Varint.toNat_low]
        · rw [Varint.toNat_low]
          omega
  | succ more ih =>
      rcases bytes with - | ⟨byte, rest⟩
      · simp [Varint.readGroups] at hread
      · by_cases hlast : byte < 128
        · have hroom : more + 1 = 0 → (byte % 128).toUInt64 ≤ 1 :=
            fun hzero => absurd hzero (Nat.succ_ne_zero more)
          rw [Varint.readGroups_ended hlast hroom] at hread
          simp only [Except.ok.injEq, Prod.mk.injEq] at hread
          obtain ⟨rfl, rfl⟩ := hread
          refine ⟨[], byte, rest, rfl, by simp, hlast, Nat.zero_le _, rfl, ?_, ?_⟩
          · rw [List.nil_append, Varint.total_singleton, Varint.toNat_low]
          · rw [Varint.toNat_low, Nat.pow_succ]
            have hpos : 0 < 128 ^ more := Nat.pow_pos (by decide)
            omega
        · rw [Varint.readGroups_continued (UInt8.not_lt.1 hlast)] at hread
          cases htail : Varint.readGroups (more + 1) rest with
          | error fault => simp [htail, Except.map] at hread
          | ok tail =>
              simp only [htail, Except.map, Except.ok.injEq, Prod.mk.injEq] at hread
              obtain ⟨rfl, rfl⟩ := hread
              obtain ⟨front, last, behind, rfl, hcontinued, hended, hlength, hused, htotal,
                hword⟩ := ih (Nat.lt_of_succ_lt hmore) htail
              have hsum := Varint.toNat_low_add hmore byte hword
              refine ⟨byte :: front, last, behind, rfl, ?_, hended, Nat.succ_le_succ hlength,
                by rw [hused, List.length_cons], ?_, ?_⟩
              · exact List.forall_mem_cons.2 ⟨UInt8.not_lt.1 hlast, hcontinued⟩
              · rw [List.cons_append, Varint.total_cons, htotal, hsum]
              · rw [hsum, Nat.pow_succ]
                omega

/-- The end is missed in what would be the beginning of a number with this many groups. -/
theorem Varint.readGroups_eq_unexpectedEnd_iff (more : Nat) :
    Varint.readGroups (more + 1) bytes = .error .unexpectedEnd ↔
      (∀ byte ∈ bytes, 128 ≤ byte) ∧ bytes.length ≤ more + 1 ∧
        Varint.total bytes < 2 * 128 ^ more := by
  induction more generalizing bytes with
  | zero =>
      rcases bytes with - | ⟨byte, rest⟩
      · simp [Varint.readGroups, Varint.total]
      · rw [Varint.readGroups_one, List.forall_mem_cons, Varint.total_cons, List.length_cons]
        split_ifs with hbig hlast hrest
        · exact iff_of_false (by simp) fun hall => by omega
        · exact iff_of_false (by simp) fun hall => UInt8.not_le.2 hlast hall.1.1
        · subst hrest
          refine iff_of_true rfl ⟨⟨UInt8.not_lt.1 hlast, by simp⟩, le_rfl, ?_⟩
          simp only [Varint.total, List.map_nil, Nat.ofDigits_nil]
          omega
        · refine iff_of_false (by simp) ?_
          rintro ⟨-, hlength, -⟩
          exact hrest (List.eq_nil_of_length_eq_zero (by omega))
  | succ more ih =>
      rcases bytes with - | ⟨byte, rest⟩
      · simp [Varint.readGroups, Varint.total]
      · rw [List.forall_mem_cons, Varint.total_cons, List.length_cons]
        by_cases hlast : byte < 128
        · rw [Varint.readGroups_ended hlast fun hzero => absurd hzero (Nat.succ_ne_zero more)]
          exact iff_of_false (by simp) fun hall => UInt8.not_le.2 hlast hall.1.1
        · have hbyte := UInt8.not_lt.1 hlast
          have hsame : Varint.readGroups (more + 2) (byte :: rest) = .error .unexpectedEnd ↔
              Varint.readGroups (more + 1) rest = .error .unexpectedEnd := by
            rw [Varint.readGroups_continued hbyte]
            cases Varint.readGroups (more + 1) rest <;> simp [Except.map]
          rw [hsame, ih, Nat.pow_succ]
          constructor
          · rintro ⟨hall, hlength, htotal⟩
            exact ⟨⟨hbyte, hall⟩, Nat.succ_le_succ hlength, by omega⟩
          · rintro ⟨⟨-, hall⟩, hlength, htotal⟩
            exact ⟨hall, Nat.le_of_succ_le_succ hlength, by omega⟩

theorem Varint.Form.length_bytes (form : Varint.Form) :
    form.bytes.length = form.front.length + 1 :=
  List.length_append

theorem Varint.Form.bytes_append (form : Varint.Form) (rest : Bytes) :
    form.bytes ++ rest = form.front ++ form.last :: rest :=
  List.append_assoc _ _ _

/-- Exactly the forms are read, and nothing behind them. -/
theorem Varint.read_eq_ok_iff :
    Varint.read bytes = .ok (word, used) ↔
      ∃ (form : Varint.Form) (rest : Bytes),
        bytes = form.bytes ++ rest ∧ form.word = word ∧ form.bytes.length = used := by
  constructor
  · intro hread
    obtain ⟨front, last, rest, rfl, hcontinued, hended, hlength, rfl, htotal, -⟩ :=
      Varint.form_of_readGroups 9 (by decide) hread
    let form : Varint.Form :=
      ⟨front, last, word, hcontinued, hended, Nat.lt_succ_of_le hlength, htotal⟩
    exact ⟨form, rest, (form.bytes_append rest).symm, rfl, form.length_bytes⟩
  · rintro ⟨form, rest, rfl, rfl, rfl⟩
    rw [form.bytes_append, form.length_bytes]
    exact Varint.readGroups_of_form 9 form.continued form.ended
      (Nat.le_of_lt_succ form.length_front_lt) form.total_eq form.word.toNat_lt rest

theorem Varint.split_eq_ok_iff :
    Varint.split bytes = .ok (word, rest) ↔
      ∃ form : Varint.Form, form.word = word ∧ bytes = form.bytes ++ rest := by
  constructor
  · intro hsplit
    cases hread : Varint.read bytes with
    | error fault => simp [Varint.split, hread] at hsplit
    | ok parts =>
        obtain ⟨found, used⟩ := parts
        simp only [Varint.split, hread, Except.ok.injEq, Prod.mk.injEq] at hsplit
        obtain ⟨rfl, rfl⟩ := hsplit
        obtain ⟨form, behind, rfl, hword, rfl⟩ := Varint.read_eq_ok_iff.1 hread
        exact ⟨form, hword, by rw [List.drop_left]⟩
  · rintro ⟨form, rfl, rfl⟩
    have hread : Varint.read (form.bytes ++ rest) = .ok (form.word, form.bytes.length) :=
      Varint.read_eq_ok_iff.2 ⟨form, rest, rfl, rfl, rfl⟩
    simp only [Varint.split, hread, List.drop_left]

theorem Varint.read_eq_unexpectedEnd_iff :
    Varint.read bytes = .error .unexpectedEnd ↔ Varint.Unfinished bytes := by
  have hsize : UInt64.size = 2 * 128 ^ 9 := by decide
  constructor
  · intro hread
    obtain ⟨hcontinued, hlength, htotal⟩ :=
      (Varint.readGroups_eq_unexpectedEnd_iff 9).1 hread
    exact ⟨hcontinued, hlength, hsize ▸ htotal⟩
  · rintro ⟨hcontinued, hlength, htotal⟩
    exact (Varint.readGroups_eq_unexpectedEnd_iff 9).2 ⟨hcontinued, hlength, hsize ▸ htotal⟩

theorem Varint.split_eq_error_iff :
    Varint.split bytes = .error fault ↔ Varint.Refused bytes fault := by
  have hsplit : Varint.split bytes = .error fault ↔ Varint.read bytes = .error fault := by
    unfold Varint.split
    cases Varint.read bytes <;> simp
  rw [hsplit]
  constructor
  · intro hread
    refine ⟨?_, ?_⟩
    · rintro form rest rfl
      have hform := Varint.read_eq_ok_iff.2 ⟨form, rest, rfl, rfl, rfl⟩
      rw [hread] at hform
      cases hform
    · rw [← Varint.read_eq_unexpectedEnd_iff, hread, Except.error.injEq]
  · rintro ⟨hno, hcut⟩
    cases hread : Varint.read bytes with
    | ok parts =>
        obtain ⟨form, rest, hbytes, -⟩ := Varint.read_eq_ok_iff.1 hread
        exact absurd hbytes (hno form rest)
    | error found =>
        have hfound : found = .unexpectedEnd ↔ fault = .unexpectedEnd := by
          rw [hcut, ← Varint.read_eq_unexpectedEnd_iff, hread, Except.error.injEq]
        cases found <;> cases fault <;> simp_all

theorem Varint.fronts_eq {left right : Bytes} {leftLast rightLast : UInt8}
    (hleft : ∀ byte ∈ left, 128 ≤ byte) (hright : ∀ byte ∈ right, 128 ≤ byte)
    (hleftLast : leftLast < 128) (hrightLast : rightLast < 128)
    (hlength : left.length = right.length)
    (htotal : Varint.total (left ++ [leftLast]) = Varint.total (right ++ [rightLast])) :
    left = right ∧ leftLast = rightLast := by
  induction left generalizing right with
  | nil =>
      obtain rfl := List.length_eq_zero_iff.1 hlength.symm
      simp only [List.nil_append, Varint.total_singleton, Varint.low_of_lt hleftLast,
        Varint.low_of_lt hrightLast] at htotal
      exact ⟨rfl, UInt8.toNat_inj.1 htotal⟩
  | cons byte left ih =>
      rcases right with - | ⟨other, right⟩
      · cases hlength
      · rw [List.forall_mem_cons] at hleft hright
        simp only [List.cons_append, Varint.total_cons] at htotal
        obtain ⟨rfl, rfl⟩ := ih hleft.2 hright.2 (Nat.succ.inj hlength) (by omega)
        have hbyte : 128 ≤ byte.toNat := UInt8.le_iff_toNat_le.1 hleft.1
        have hother : 128 ≤ other.toNat := UInt8.le_iff_toNat_le.1 hright.1
        have hsame : byte = other := UInt8.toNat_inj.1 (by
          have := byte.toNat_lt
          have := other.toNat_lt
          omega)
        exact ⟨by rw [hsame], rfl⟩

theorem Varint.Form.bytes_eq {left right : Varint.Form} (hword : left.word = right.word)
    (hlength : left.bytes.length = right.bytes.length) : left.bytes = right.bytes := by
  rw [left.length_bytes, right.length_bytes] at hlength
  obtain ⟨hfront, hlast⟩ := Varint.fronts_eq left.continued right.continued left.ended right.ended
    (Nat.succ.inj hlength) (by rw [left.total_eq, right.total_eq, hword])
  rw [Varint.Form.bytes, Varint.Form.bytes, hfront, hlast]

theorem Varint.Form.bytes_injective : Function.Injective Varint.Form.bytes := by
  rintro ⟨front, last, word, _, _, _, htotal⟩ ⟨otherFront, otherLast, other, _, _, _, hother⟩ hbytes
  obtain ⟨rfl, rfl⟩ := List.append_singleton_inj.1 hbytes
  obtain rfl : word = other := UInt64.toNat_inj.1 (htotal.symm.trans hother)
  rfl

/-- A form and what follows it are known from their bytes alone. -/
theorem Varint.Form.eq_of_append {left right : Varint.Form} {leftRest rightRest : Bytes}
    (hbytes : left.bytes ++ leftRest = right.bytes ++ rightRest) :
    left = right ∧ leftRest = rightRest := by
  have hleft : Varint.split (left.bytes ++ leftRest) = .ok (left.word, leftRest) :=
    Varint.split_eq_ok_iff.2 ⟨left, rfl, rfl⟩
  have hright : Varint.split (left.bytes ++ leftRest) = .ok (right.word, rightRest) :=
    Varint.split_eq_ok_iff.2 ⟨right, rfl, hbytes⟩
  rw [hleft, Except.ok.injEq, Prod.mk.injEq] at hright
  obtain ⟨-, rfl⟩ := hright
  exact ⟨Varint.Form.bytes_injective (List.append_cancel_right hbytes), rfl⟩

/-- So many groups are enough for a word that is less than their number of values. -/
theorem Varint.length_le_iff {count : Nat} (hcount : count ≠ 0) :
    Varint.length word ≤ count ↔ word.toNat < 128 ^ count := by
  have hpow : 128 ^ count = 2 ^ (7 * count) := by rw [Nat.pow_mul]
  unfold Varint.length
  split_ifs with hzero
  · subst hzero
    exact iff_of_true (Nat.one_le_iff_ne_zero.2 hcount) (Nat.pow_pos (by decide))
  · have hne : word.toNat ≠ 0 := fun heq => hzero (UInt64.toNat_inj.1 heq)
    rw [hpow, ← Nat.log2_lt hne]
    omega

theorem Varint.length_pos (word : UInt64) : 0 < Varint.length word := by
  unfold Varint.length
  split_ifs
  · exact Nat.one_pos
  · exact Nat.succ_pos _

theorem Varint.length_le_maxLength (word : UInt64) : Varint.length word ≤ Varint.maxLength := by
  rw [Varint.length_le_iff (by decide)]
  exact lt_trans word.toNat_lt (by decide)

theorem Varint.Form.length_le (form : Varint.Form) :
    Varint.length form.word ≤ form.bytes.length := by
  have hne : form.bytes.length ≠ 0 := by
    rw [form.length_bytes]
    exact Nat.succ_ne_zero _
  rw [Varint.length_le_iff hne, ← form.total_eq]
  exact Varint.total_lt form.bytes

theorem Varint.length_groups_le (more : Nat) {count : Nat}
    (hword : word.toNat < 128 ^ (count + 1)) : (Varint.groups more word).length ≤ count + 1 := by
  induction more generalizing word count with
  | zero => exact Nat.le_add_left 1 count
  | succ more ih =>
      rw [Varint.groups]
      split_ifs with hsmall
      · exact Nat.le_add_left 1 count
      · have hbig : 128 ≤ word.toNat := UInt64.le_iff_toNat_le.1 (UInt64.not_lt.1 hsmall)
        rcases count with - | count
        · omega
        · rw [List.length_cons]
          apply Nat.succ_le_succ
          apply ih
          rw [UInt64.toNat_div]
          simp only [UInt64.reduceToNat]
          rw [Nat.pow_succ] at hword
          omega

/-- What is written of a word is one of its forms. -/
theorem Varint.exists_form (word : UInt64) :
    ∃ form : Varint.Form, form.word = word ∧ form.bytes = Varint.write word := by
  obtain ⟨form, rest, hbytes, hword, hlength⟩ :=
    Varint.read_eq_ok_iff.1 (Varint.read_write word [])
  exact ⟨form, hword, (List.append_inj hbytes.symm hlength).1⟩

/-- The form that is written of a word. -/
def Varint.Form.ofWord (word : UInt64) : Varint.Form where
  front := (Varint.write word).dropLast
  last := (Varint.write word).getLastD 0
  word := word
  continued := by
    obtain ⟨form, -, hbytes⟩ := Varint.exists_form word
    rw [← hbytes, Varint.Form.bytes, List.dropLast_concat]
    exact form.continued
  ended := by
    obtain ⟨form, -, hbytes⟩ := Varint.exists_form word
    rw [← hbytes, Varint.Form.bytes, List.getLastD_concat]
    exact form.ended
  length_front_lt := by
    obtain ⟨form, -, hbytes⟩ := Varint.exists_form word
    rw [← hbytes, Varint.Form.bytes, List.dropLast_concat]
    exact form.length_front_lt
  total_eq := by
    obtain ⟨form, hword, hbytes⟩ := Varint.exists_form word
    rw [← hbytes, Varint.Form.bytes, List.dropLast_concat, List.getLastD_concat, ← hword]
    exact form.total_eq

theorem Varint.Form.bytes_ofWord (word : UInt64) :
    (Varint.Form.ofWord word).bytes = Varint.write word := by
  obtain ⟨form, -, hbytes⟩ := Varint.exists_form word
  change (Varint.write word).dropLast ++ [(Varint.write word).getLastD 0] = Varint.write word
  rw [← hbytes, Varint.Form.bytes, List.dropLast_concat, List.getLastD_concat]

theorem Varint.length_write (word : UInt64) : (Varint.write word).length = Varint.length word := by
  apply Nat.le_antisymm
  · obtain ⟨count, hcount⟩ := Nat.exists_eq_add_of_le' (Varint.length_pos word)
    rw [hcount]
    apply Varint.length_groups_le
    rw [← Varint.length_le_iff (Nat.succ_ne_zero count), hcount]
  · rw [← Varint.Form.bytes_ofWord]
    exact (Varint.Form.ofWord word).length_le

theorem Varint.Form.bytes_eq_write (hlength : form.bytes.length = Varint.length form.word) :
    form.bytes = Varint.write form.word := by
  have hword : form.word = (Varint.Form.ofWord form.word).word := rfl
  rw [← Varint.Form.bytes_ofWord]
  apply Varint.Form.bytes_eq hword
  rw [Varint.Form.bytes_ofWord, Varint.length_write, hlength]

/-- The writer chooses the shortest form, and there is no other one as short. -/
theorem Varint.Form.shortest_iff : form.Shortest ↔ form.bytes = Varint.write form.word := by
  constructor
  · intro hshortest
    have hle := hshortest (Varint.Form.ofWord form.word) rfl
    rw [Varint.Form.bytes_ofWord, Varint.length_write] at hle
    exact Varint.Form.bytes_eq_write (Nat.le_antisymm hle form.length_le)
  · intro hbytes other hword
    rw [hbytes, Varint.length_write, ← hword]
    exact other.length_le

theorem Varint.append_eq (word : UInt64) (buffer : Bytes) :
    Varint.append word buffer = (buffer ++ Varint.write word, Varint.length word) := by
  rw [← Varint.length_write]
  exact Varint.appendGroups_eq _ word buffer

/-- Appending a word adds the bytes of its length, which is their count, and they are read
back from the front of whatever follows.  No form of the word that is read is shorter, and
one that is as short has the same bytes. -/
theorem Varint.minimal_round_trip (word : UInt64) :
    ∃ added : Bytes,
      (∀ buffer, Varint.append word buffer = (buffer ++ added, added.length)) ∧
      added.length = Varint.length word ∧ 1 ≤ added.length ∧ added.length ≤ 10 ∧
      (∀ rest, Varint.read (added ++ rest) = .ok (word, added.length)) ∧
      ∀ bytes used, Varint.read bytes = .ok (word, used) →
        added.length ≤ used ∧ (used = added.length → bytes.take used = added) := by
  refine ⟨Varint.write word, ?_, Varint.length_write word, ?_, ?_, Varint.read_write word, ?_⟩
  · intro buffer
    rw [Varint.append_eq, Varint.length_write]
  · rw [Varint.length_write]
    exact Varint.length_pos word
  · rw [Varint.length_write]
    exact Varint.length_le_maxLength word
  · intro bytes used hread
    obtain ⟨form, behind, rfl, rfl, rfl⟩ := Varint.read_eq_ok_iff.1 hread
    rw [Varint.length_write, List.take_left]
    exact ⟨form.length_le, form.bytes_eq_write⟩

/-- The number two with a group of zeros behind it. -/
example : Varint.read [0x82, 0] = .ok (2, 2) := rfl

end CommandRegistry
