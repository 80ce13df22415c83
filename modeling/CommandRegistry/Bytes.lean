/-
Byte strings.  A word of 64 bits is cut into groups of seven bits, the least
significant first; each group fills one byte, and every byte but the last has
its high bit set.  A text is its bytes in UTF-8.
-/

namespace CommandRegistry

abbrev Bytes := List UInt8

/-- Why no number stands at the front of a byte string. -/
inductive VarintError where
  | unexpectedEnd
  | overflow
deriving Repr, DecidableEq

def VarintError.message : VarintError → String
  | .unexpectedEnd => "unexpected end of buffer while reading varint"
  | .overflow => "varint overflow (too many bytes for u64)"

/-- Ten groups of seven bits hold every word of 64 bits. -/
def Varint.maxLength : Nat := 10

/-- The bytes of a word, of which at most `more` follow the first. -/
def Varint.groups : Nat → UInt64 → Bytes
  | 0, word => [word.toUInt8]
  | more + 1, word =>
      if word < 128 then [word.toUInt8]
      else (word % 128 + 128).toUInt8 :: Varint.groups more (word / 128)

/-- The shortest form of a word. -/
def Varint.write (word : UInt64) : Bytes :=
  Varint.groups (Varint.maxLength - 1) word

/-- Put the groups of a word behind what a buffer holds, and count them. -/
def Varint.appendGroups : Nat → UInt64 → Bytes → Bytes × Nat
  | 0, word, buffer => (buffer ++ [word.toUInt8], 1)
  | more + 1, word, buffer =>
      if word < 128 then (buffer ++ [word.toUInt8], 1)
      else
        match Varint.appendGroups more (word / 128)
            (buffer ++ [(word % 128 + 128).toUInt8]) with
        | (grown, count) => (grown, count + 1)

/-- Append the shortest form of a word to a buffer: what the buffer holds then and the
number of bytes that have been added. -/
def Varint.append (word : UInt64) (buffer : Bytes) : Bytes × Nat :=
  Varint.appendGroups (Varint.maxLength - 1) word buffer

/-- The number of bytes in the shortest form: one for every seven bits begun. -/
def Varint.length (word : UInt64) : Nat :=
  if word = 0 then 1 else word.toNat.log2 / 7 + 1

/-- Read a number of at most `left` groups.  The last group that may stand in a
full-length number has room for one bit, so nothing is lost in the sum. -/
def Varint.readGroups : Nat → Bytes → Except VarintError (UInt64 × Nat)
  | _, [] => .error .unexpectedEnd
  | 0, _ :: _ => .error .overflow
  | left + 1, byte :: rest =>
      let low := (byte % 128).toUInt64
      if left = 0 ∧ 1 < low then .error .overflow
      else if byte < 128 then .ok (low, 1)
      else
        match Varint.readGroups left rest with
        | .ok (high, used) => .ok (low + 128 * high, used + 1)
        | .error fault => .error fault

/-- The number at the front of a byte string and how many bytes it fills. -/
def Varint.read (bytes : Bytes) : Except VarintError (UInt64 × Nat) :=
  Varint.readGroups Varint.maxLength bytes

/-- The number at the front of a byte string and the bytes after it. -/
def Varint.split (bytes : Bytes) : Except VarintError (UInt64 × Bytes) :=
  match Varint.read bytes with
  | .ok (word, used) => .ok (word, bytes.drop used)
  | .error fault => .error fault

/-- The UTF-8 bytes of a text. -/
def Utf8.encode (text : String) : Bytes :=
  text.toByteArray.data.toList

/-- The text whose UTF-8 bytes are given; there is none for other bytes. -/
def Utf8.decode? (bytes : Bytes) : Option String :=
  String.fromUTF8? bytes.toByteArray

theorem Utf8.toByteArray_encode (text : String) :
    (Utf8.encode text).toByteArray = text.toByteArray := by
  apply ByteArray.ext
  simp [Utf8.encode, List.data_toByteArray]

theorem Utf8.decode?_encode (text : String) :
    Utf8.decode? (Utf8.encode text) = some text := by
  simp [Utf8.decode?, String.fromUTF8?, String.fromUTF8, text.isValidUTF8,
    Utf8.toByteArray_encode]

end CommandRegistry
