/-
The single characters of a pattern, written as they are or behind a backslash,
under the modes that a pattern can switch.
-/
import CommandRegistry.Json.Token
import CommandRegistry.Text.Character

namespace CommandRegistry

/-- What a pattern can switch: letters match in either case, bytes are matched
in place of characters, or white space and comments count for nothing. -/
structure PatternMode where
  caseless : Bool
  bytes : Bool
  spaced : Bool
deriving Repr, DecidableEq

def PatternMode.initial : PatternMode :=
  ⟨false, false, false⟩

/-- Leave out white space and comments.  A comment goes from a number sign to the
end of its line. -/
def PatternMode.skipFrom : Bool → List Char → List Char
  | _, [] => []
  | true, char :: rest => PatternMode.skipFrom (char ≠ '\n') rest
  | false, char :: rest =>
      if isWhiteSpace char then PatternMode.skipFrom false rest
      else if char = '#' then PatternMode.skipFrom true rest
      else char :: rest

def PatternMode.skip (mode : PatternMode) (chars : List Char) : List Char :=
  if mode.spaced then PatternMode.skipFrom false chars else chars

theorem PatternMode.skipFrom_length (comment : Bool) (chars : List Char) :
    (PatternMode.skipFrom comment chars).length ≤ chars.length := by
  fun_induction PatternMode.skipFrom comment chars with
  | case1 => exact Nat.le_refl _
  | case2 _ _ ih => exact Nat.le_succ_of_le ih
  | case3 _ _ _ ih => exact Nat.le_succ_of_le ih
  | case4 _ _ ih => exact Nat.le_succ_of_le ih
  | case5 => exact Nat.le_refl _

theorem PatternMode.skip_length (mode : PatternMode) (chars : List Char) :
    (mode.skip chars).length ≤ chars.length := by
  unfold PatternMode.skip
  split
  · exact PatternMode.skipFrom_length false chars
  · exact Nat.le_refl _

/-- A character, a shorthand for a class of characters, an edge of a word, or an
edge of the text.  A character written by two hexadecimal digits can be a byte. -/
inductive PatternPiece where
  | literal (value : Char) (byte : Bool)
  | shorthand (negated : Bool)
  | wordEdge
  | textEdge
deriving Repr, DecidableEq

/-- The number that so many hexadecimal digits continue. -/
def PatternPiece.number (mode : PatternMode) :
    Nat → Nat → List Char → Option (Nat × List Char)
  | 0, value, chars => some (value, mode.skip chars)
  | count + 1, value, chars =>
      match mode.skip chars with
      | [] => none
      | char :: rest =>
          match hexDigit? char with
          | none => none
          | some digit => PatternPiece.number mode count (value * 16 + digit) rest

/-- A character by its number. -/
def PatternPiece.numbered (mode : PatternMode) (digits : Nat) (byte : Bool)
    (chars : List Char) : Option (PatternPiece × List Char) :=
  match PatternPiece.number mode digits 0 chars with
  | none => none
  | some (value, rest) =>
      if value.isValidChar then some (.literal (Char.ofNat value) byte, rest) else none

/-- What stands behind a backslash.  Neither a digit, which would point back to a
group, nor a property of characters can stand there. -/
def PatternPiece.escaped (mode : PatternMode) (char : Char) (rest : List Char) :
    Option (PatternPiece × List Char) :=
  match char with
  | 'x' => PatternPiece.numbered mode 2 true rest
  | 'u' => PatternPiece.numbered mode 4 false rest
  | 'U' => PatternPiece.numbered mode 8 false rest
  | 'd' | 's' | 'w' => some (.shorthand false, rest)
  | 'D' | 'S' | 'W' => some (.shorthand true, rest)
  | 'b' | 'B' | '<' | '>' => some (.wordEdge, rest)
  | 'A' | 'z' => some (.textEdge, rest)
  | 'a' => some (.literal '\x07' false, rest)
  | 'f' => some (.literal '\x0c' false, rest)
  | 't' => some (.literal '\t' false, rest)
  | 'n' => some (.literal '\n' false, rest)
  | 'r' => some (.literal '\r' false, rest)
  | 'v' => some (.literal '\x0b' false, rest)
  | _ =>
      if char.toNat < 0x80 && !char.isAlphanum then some (.literal char false, rest)
      else none

def PatternPiece.scan (mode : PatternMode) (char : Char) (rest : List Char) :
    Option (PatternPiece × List Char) :=
  match char, rest with
  | '\\', [] => none
  | '\\', next :: rest => PatternPiece.escaped mode next rest
  | _, rest => some (.literal char false, rest)

/-- Whether a piece can be matched.  No table of the characters tells which are
one letter in two cases and which make up a word, and no byte is matched that is
only part of a character. -/
def PatternPiece.allowed (mode : PatternMode) : PatternPiece → Bool
  | .literal value byte =>
      if mode.bytes then !(byte && 0x7F < value.toNat) else !mode.caseless
  | .shorthand negated => mode.bytes && !negated
  | .wordEdge => mode.bytes
  | .textEdge => true

/-- Whether a piece can be an item of a class. -/
def PatternPiece.allowedInClass (mode : PatternMode) : PatternPiece → Bool
  | .literal value _ => if mode.bytes then value.toNat ≤ 0x7F else !mode.caseless
  | .shorthand negated => mode.bytes && !negated
  | .wordEdge => false
  | .textEdge => false

/-- Whether two pieces are the ends of a range. -/
def PatternPiece.isRange : PatternPiece → PatternPiece → Bool
  | .literal first _, .literal last _ => first ≤ last
  | _, _ => false

theorem PatternPiece.number_length {mode : PatternMode} {count value : Nat}
    {chars left : List Char} {result : Nat}
    (h : PatternPiece.number mode count value chars = some (result, left)) :
    left.length ≤ chars.length := by
  fun_induction PatternPiece.number mode count value chars with
  | case1 value chars =>
      obtain ⟨-, rfl⟩ := Prod.mk.inj (Option.some.inj h)
      exact mode.skip_length chars
  | case2 => cases h
  | case3 => cases h
  | case4 count value chars char rest hskip digit _ ih =>
      have hskipped := mode.skip_length chars
      rw [hskip, List.length_cons] at hskipped
      exact Nat.le_trans (ih h) (Nat.le_of_succ_le hskipped)

theorem PatternPiece.numbered_length {mode : PatternMode} {digits : Nat} {byte : Bool}
    {chars left : List Char} {piece : PatternPiece}
    (h : PatternPiece.numbered mode digits byte chars = some (piece, left)) :
    left.length ≤ chars.length := by
  unfold PatternPiece.numbered at h
  split at h
  · cases h
  · rename_i value rest hnumber
    split at h
    · obtain ⟨-, rfl⟩ := Prod.mk.inj (Option.some.inj h)
      exact PatternPiece.number_length hnumber
    · cases h

theorem PatternPiece.escaped_length {mode : PatternMode} {char : Char}
    {rest left : List Char} {piece : PatternPiece}
    (h : PatternPiece.escaped mode char rest = some (piece, left)) :
    left.length ≤ rest.length := by
  unfold PatternPiece.escaped at h
  split at h
  case h_1 => exact PatternPiece.numbered_length h
  case h_2 => exact PatternPiece.numbered_length h
  case h_3 => exact PatternPiece.numbered_length h
  case h_22 =>
    split at h
    · obtain ⟨-, rfl⟩ := Prod.mk.inj (Option.some.inj h)
      exact Nat.le_refl _
    · cases h
  all_goals
    obtain ⟨-, rfl⟩ := Prod.mk.inj (Option.some.inj h)
    exact Nat.le_refl _

theorem PatternPiece.scan_length {mode : PatternMode} {char : Char}
    {rest left : List Char} {piece : PatternPiece}
    (h : PatternPiece.scan mode char rest = some (piece, left)) :
    left.length ≤ rest.length := by
  unfold PatternPiece.scan at h
  split at h
  · cases h
  · exact Nat.le_succ_of_le (PatternPiece.escaped_length h)
  · obtain ⟨-, rfl⟩ := Prod.mk.inj (Option.some.inj h)
    exact Nat.le_refl _

end CommandRegistry
