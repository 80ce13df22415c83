/-
The tokens of a JSON text.  Blanks separate tokens and are dropped.  A token
that is cut off or malformed is the last one of its text: nothing after it can
be read.
-/
import CommandRegistry.Json

namespace CommandRegistry

/-- Why a text is not JSON: a character stands where none of its kind may
stand, or the text is over before its value is. -/
inductive TextFault where
  | malformed
  | endOfText
deriving Repr, DecidableEq

/-- The fault of needing a character where `rest` is what is left. -/
def TextFault.at : List Char → TextFault
  | [] => .endOfText
  | _ :: _ => .malformed

/-- What stands between the quotes of a literal: a character, or one unit of
sixteen bits written in hexadecimal. -/
inductive Piece where
  | char (value : Char)
  | unit (value : Nat)
deriving Repr, DecidableEq

/-- A string literal as written, and why it is not complete if it is not. -/
structure StringToken where
  pieces : List Piece
  fault : Option TextFault
deriving Repr, DecidableEq

/-- The digits of a number as written; `fraction` is empty without a point. -/
structure NumberToken where
  negative : Bool
  whole : List Char
  fraction : List Char
  exponent : Option (Bool × List Char)
deriving Repr, DecidableEq

inductive Token where
  | beginArray
  | endArray
  | beginObject
  | endObject
  | comma
  | colon
  | null
  | bool (value : Bool)
  | number (written : Except TextFault NumberToken)
  | string (written : StringToken)
  | fault (cause : TextFault)
deriving Repr

def hexDigit? (char : Char) : Option Nat :=
  if char.isDigit then some (char.toNat - '0'.toNat)
  else if 'a' ≤ char ∧ char ≤ 'f' then some (char.toNat - 'a'.toNat + 10)
  else if 'A' ≤ char ∧ char ≤ 'F' then some (char.toNat - 'A'.toNat + 10)
  else none

/-- The unit that four hexadecimal digits stand for. -/
def hexUnit? (a b c d : Char) : Option Nat :=
  match hexDigit? a, hexDigit? b, hexDigit? c, hexDigit? d with
  | some a, some b, some c, some d => some (((a * 16 + b) * 16 + c) * 16 + d)
  | _, _, _, _ => none

/-- The character that a letter after a backslash stands for. -/
def escapedChar? (letter : Char) : Option Char :=
  if letter = '"' ∨ letter = '\\' ∨ letter = '/' then some letter
  else if letter = 'b' then some '\x08'
  else if letter = 'f' then some '\x0c'
  else if letter = 'n' then some '\n'
  else if letter = 'r' then some '\r'
  else if letter = 't' then some '\t'
  else none

/-- A unit is cut off if fewer than four bytes are left for its digits. -/
def unitFault (rest : List Char) : TextFault :=
  if (String.ofList rest).utf8ByteSize < 4 then .endOfText else .malformed

/-- The pieces up to the closing quote and what follows it; a fault leaves
nothing to follow. -/
def StringToken.scan : List Char → StringToken × List Char
  | [] => (⟨[], some .endOfText⟩, [])
  | char :: rest =>
      if char = '"' then (⟨[], none⟩, rest)
      else if char = '\\' then
        match rest with
        | [] => (⟨[], some .endOfText⟩, [])
        | letter :: rest =>
            if letter = 'u' then
              match rest with
              | a :: b :: c :: d :: rest =>
                  match hexUnit? a b c d with
                  | some unit =>
                      let tail := StringToken.scan rest
                      (⟨.unit unit :: tail.1.pieces, tail.1.fault⟩, tail.2)
                  | none => (⟨[], some .malformed⟩, [])
              | short => (⟨[], some (unitFault short)⟩, [])
            else
              match escapedChar? letter with
              | some char =>
                  let tail := StringToken.scan rest
                  (⟨.char char :: tail.1.pieces, tail.1.fault⟩, tail.2)
              | none => (⟨[], some .malformed⟩, [])
      else if char.toNat < 32 then (⟨[], some .malformed⟩, [])
      else
        let tail := StringToken.scan rest
        (⟨.char char :: tail.1.pieces, tail.1.fault⟩, tail.2)

def isHighSurrogate (unit : Nat) : Bool :=
  decide (0xD800 ≤ unit ∧ unit < 0xDC00)

def isLowSurrogate (unit : Nat) : Bool :=
  decide (0xDC00 ≤ unit ∧ unit < 0xE000)

/-- The text of a run of pieces.  A high surrogate must be followed by a low
one; `cut` tells whether it may also be the last piece. -/
def joinPieces (cut : Bool) : List Piece → Option (List Char)
  | [] => some []
  | .char char :: rest => (joinPieces cut rest).map (char :: ·)
  | [.unit unit] =>
      if isHighSurrogate unit then if cut then some [] else none
      else if isLowSurrogate unit then none
      else some [Char.ofNat unit]
  | .unit unit :: .unit second :: rest =>
      if isHighSurrogate unit then
        if isLowSurrogate second then
          (joinPieces cut rest).map
            (Char.ofNat ((unit - 0xD800) * 0x400 + (second - 0xDC00) + 0x10000) :: ·)
        else none
      else if isLowSurrogate unit then none
      else (joinPieces cut (.unit second :: rest)).map (Char.ofNat unit :: ·)
  | .unit unit :: .char char :: rest =>
      if isHighSurrogate unit ∨ isLowSurrogate unit then none
      else (joinPieces cut rest).map fun chars => Char.ofNat unit :: char :: chars

/-- The text of a literal: the first fault from left to right decides. -/
def StringToken.text (token : StringToken) : Except TextFault String :=
  match token.fault with
  | none =>
      match joinPieces false token.pieces with
      | some chars => .ok (String.ofList chars)
      | none => .error .malformed
  | some fault =>
      match joinPieces true token.pieces with
      | some _ => .error fault
      | none => .error .malformed

/-- The form alone, without a look at surrogates. -/
def StringToken.check (token : StringToken) : Except TextFault Unit :=
  match token.fault with
  | none => .ok ()
  | some fault => .error fault

/-- The digits at the front, which must not be empty, and what follows. -/
def takeDigits (chars : List Char) : Except TextFault (List Char × List Char) :=
  match chars.takeWhile Char.isDigit with
  | [] => .error (.at chars)
  | digits => .ok (digits, chars.dropWhile Char.isDigit)

/-- The digits before the point: a leading zero stands alone. -/
def takeWhole (chars : List Char) : Except TextFault (List Char × List Char) :=
  match takeDigits chars with
  | .ok ('0' :: _ :: _, _) => .error .malformed
  | other => other

def takeFraction : List Char → Except TextFault (List Char × List Char)
  | '.' :: rest => takeDigits rest
  | rest => .ok ([], rest)

/-- Whether a minus sign stands at the front, and what follows the sign. -/
def takeSign : List Char → Bool × List Char
  | '+' :: rest => (false, rest)
  | '-' :: rest => (true, rest)
  | rest => (false, rest)

/-- The sign and the digits of the exponent, if there is one. -/
def takeExponent : List Char →
    Except TextFault (Option (Bool × List Char) × List Char)
  | [] => .ok (none, [])
  | char :: rest =>
      if char = 'e' ∨ char = 'E' then
        match takeDigits (takeSign rest).2 with
        | .ok (digits, after) => .ok (some ((takeSign rest).1, digits), after)
        | .error fault => .error fault
      else .ok (none, char :: rest)

/-- A number after its sign, and what follows it. -/
def NumberToken.scan (negative : Bool) (chars : List Char) :
    Except TextFault (NumberToken × List Char) :=
  match takeWhole chars with
  | .error fault => .error fault
  | .ok (whole, rest) =>
      match takeFraction rest with
      | .error fault => .error fault
      | .ok (fraction, rest) =>
          match takeExponent rest with
          | .error fault => .error fault
          | .ok (exponent, rest) => .ok (⟨negative, whole, fraction, exponent⟩, rest)

/-- Take in digits as long as the sum fits a word of 64 bits; the number of
digits taken and those left out come with it. -/
def takeSignificand (sum : Nat) : List Char → Nat × Nat × List Char
  | [] => (sum, 0, [])
  | digit :: rest =>
      let next := sum * 10 + (digit.toNat - '0'.toNat)
      if next < UInt64.size then
        let (sum, taken, left) := takeSignificand next rest
        (sum, taken + 1, left)
      else (sum, 0, digit :: rest)

/-- The doubles `10 ^ n` go up to `n = 308`. -/
def greatestPowerOfTen : Nat := 308

def powerOfTen (exponent : Nat) : Float :=
  Float.ofScientific 1 false exponent

/-- Divide by a power of ten in steps that a double can hold. -/
def divideByPower (value : Float) (exponent : Nat) : Float :=
  if exponent ≤ greatestPowerOfTen then value / powerOfTen exponent
  else if value == 0.0 then value
  else divideByPower (value / powerOfTen greatestPowerOfTen)
    (exponent - greatestPowerOfTen)
termination_by exponent
decreasing_by
  have : greatestPowerOfTen = 308 := rfl
  omega

/-- The double near `significand * 10 ^ exponent`; there is none beyond the
greatest finite one. -/
def scaledDouble? (significand : Nat) (exponent : Int) : Option Float :=
  let value := significand.toUInt64.toFloat
  if exponent < 0 then some (divideByPower value exponent.natAbs)
  else if exponent.toNat ≤ greatestPowerOfTen then
    let scaled := value * powerOfTen exponent.toNat
    if scaled.isInf then none else some scaled
  else if significand = 0 then some value
  else none

/-- A written exponent beyond this bound is not computed with. -/
def greatestExponent : Nat := 2147483647

/-- The double that a number stands for.  Digits beyond a word of 64 bits count
only by their number. -/
def NumberToken.double? (token : NumberToken) : Option Float :=
  let (sum, _, left) := takeSignificand 0 token.whole
  let dropped : Nat := left.length
  let (sum, taken, _) := takeSignificand sum token.fraction
  let exponent : Int := (dropped : Int) - taken
  let magnitude :=
    match token.exponent with
    | none => scaledDouble? sum exponent
    | some (below, digits) =>
        let written := Nat.ofDigitChars 10 digits 0
        if greatestExponent < written then
          if sum ≠ 0 ∧ below = false then none else some 0.0
        else scaledDouble? sum (if below then exponent - written else exponent + written)
  magnitude.map fun value => if token.negative then -value else value

/-- The number that a token stands for.  Without a point and an exponent it is
whole if it fits 64 bits; minus zero is a double. -/
def NumberToken.value? (token : NumberToken) : Option JsonNumber :=
  let whole := Nat.ofDigitChars 10 token.whole 0
  if token.fraction.isEmpty ∧ token.exponent.isNone then
    if token.negative = false ∧ whole < UInt64.size then
      some (.natural whole.toUInt64)
    else if token.negative ∧ 0 < whole ∧ whole ≤ UInt64.size / 2 then
      some (.negative (-whole))
    else token.double?.map .float
  else token.double?.map .float

def isBlank (char : Char) : Bool :=
  char = ' ' ∨ char = '\n' ∨ char = '\r' ∨ char = '\t'

def punctuation? (char : Char) : Option Token :=
  if char = '[' then some .beginArray
  else if char = ']' then some .endArray
  else if char = '\x7b' then some .beginObject
  else if char = '\x7d' then some .endObject
  else if char = ',' then some .comma
  else if char = ':' then some .colon
  else none

/-- The rest after a word that must stand at the front. -/
def dropWord : List Char → List Char → Except TextFault (List Char)
  | [], rest => .ok rest
  | _ :: _, [] => .error .endOfText
  | letter :: word, char :: rest =>
      if letter = char then dropWord word rest else .error .malformed

/-- The word that starts with a letter: its other letters and its token. -/
def keyword? (char : Char) : Option (List Char × Token) :=
  if char = 'n' then some (['u', 'l', 'l'], .null)
  else if char = 't' then some (['r', 'u', 'e'], .bool true)
  else if char = 'f' then some (['a', 'l', 's', 'e'], .bool false)
  else none

def Token.scanString (rest : List Char) : Token × List Char :=
  (.string (StringToken.scan rest).1, (StringToken.scan rest).2)

def Token.scanNumber (negative : Bool) (chars : List Char) : Token × List Char :=
  match NumberToken.scan negative chars with
  | .ok (written, rest) => (.number (.ok written), rest)
  | .error cause => (.number (.error cause), [])

def Token.scanWord (letters : List Char) (token : Token) (chars : List Char) :
    Token × List Char :=
  match dropWord letters chars with
  | .ok rest => (token, rest)
  | .error cause => (.fault cause, [])

/-- The token that starts with `char`, and what follows it; after a fault
nothing does. -/
def Token.scan (char : Char) (rest : List Char) : Token × List Char :=
  match punctuation? char with
  | some token => (token, rest)
  | none =>
      if char = '"' then Token.scanString rest
      else if char = '-' then Token.scanNumber true rest
      else if char.isDigit then Token.scanNumber false (char :: rest)
      else
        match keyword? char with
        | some (letters, token) => Token.scanWord letters token rest
        | none => (.fault .malformed, [])

theorem StringToken.scan_length (chars : List Char) :
    (StringToken.scan chars).2.length ≤ chars.length := by
  fun_induction StringToken.scan chars <;> simp_all +zetaDelta <;> omega

theorem takeDigits_length {chars digits rest : List Char}
    (h : takeDigits chars = .ok (digits, rest)) :
    rest.length < chars.length := by
  cases chars with
  | nil => simp [takeDigits] at h
  | cons char tail =>
      by_cases hdigit : char.isDigit = true
      · simp only [takeDigits, List.takeWhile_cons, hdigit, List.dropWhile_cons,
          ↓reduceIte, Except.ok.injEq, Prod.mk.injEq] at h
        rw [← h.2, List.length_cons]
        exact Nat.lt_succ_of_le (List.dropWhile_suffix _).length_le
      · simp [takeDigits, hdigit] at h

theorem takeWhole_length {chars whole rest : List Char}
    (h : takeWhole chars = .ok (whole, rest)) : rest.length < chars.length := by
  unfold takeWhole at h
  split at h
  · simp at h
  · exact takeDigits_length h

theorem takeFraction_length {chars fraction rest : List Char}
    (h : takeFraction chars = .ok (fraction, rest)) :
    rest.length ≤ chars.length := by
  unfold takeFraction at h
  split at h
  · exact Nat.le_succ_of_le (Nat.le_of_lt (takeDigits_length h))
  · simp only [Except.ok.injEq, Prod.mk.injEq] at h
    exact Nat.le_of_eq (congrArg List.length h.2.symm)

theorem takeSign_length (chars : List Char) :
    (takeSign chars).2.length ≤ chars.length := by
  unfold takeSign
  split <;> simp

theorem takeExponent_length {chars rest : List Char}
    {exponent : Option (Bool × List Char)}
    (h : takeExponent chars = .ok (exponent, rest)) :
    rest.length ≤ chars.length := by
  unfold takeExponent at h
  split at h
  · simp_all
  · next char tail =>
      split at h
      · split at h
        · next digits after hdigits =>
            simp only [Except.ok.injEq, Prod.mk.injEq] at h
            have := takeDigits_length hdigits
            have := takeSign_length tail
            rw [← h.2, List.length_cons]
            omega
        · simp at h
      · simp only [Except.ok.injEq, Prod.mk.injEq] at h
        exact Nat.le_of_eq (congrArg List.length h.2.symm)

theorem NumberToken.scan_length {negative : Bool} {chars rest : List Char}
    {token : NumberToken}
    (h : NumberToken.scan negative chars = .ok (token, rest)) :
    rest.length < chars.length := by
  unfold NumberToken.scan at h
  split at h
  · simp at h
  · next hwhole =>
      split at h
      · simp at h
      · next hfraction =>
          split at h
          · simp at h
          · next hexponent =>
              simp only [Except.ok.injEq, Prod.mk.injEq] at h
              have := takeWhole_length hwhole
              have := takeFraction_length hfraction
              have := takeExponent_length hexponent
              rw [← h.2]
              omega

theorem dropWord_length {word chars rest : List Char}
    (h : dropWord word chars = .ok rest) : rest.length ≤ chars.length := by
  fun_induction dropWord word chars with
  | case1 => simp_all
  | case2 => simp at h
  | case3 _ _ _ ih => exact Nat.le_succ_of_le (ih h)
  | case4 => simp at h

theorem Token.scanNumber_length {negative : Bool} {chars : List Char} {bound : Nat}
    (hbound : chars.length ≤ bound + 1) :
    (Token.scanNumber negative chars).2.length ≤ bound := by
  unfold Token.scanNumber
  split
  · next hscan =>
      exact Nat.le_of_lt_succ
        (Nat.lt_of_lt_of_le (NumberToken.scan_length hscan) hbound)
  · exact Nat.zero_le _

theorem Token.scanWord_length (letters : List Char) (token : Token)
    (chars : List Char) :
    (Token.scanWord letters token chars).2.length ≤ chars.length := by
  unfold Token.scanWord
  split
  · next hword => exact dropWord_length hword
  · exact Nat.zero_le _

theorem Token.scan_length (char : Char) (rest : List Char) :
    (Token.scan char rest).2.length ≤ rest.length := by
  unfold Token.scan
  split
  · exact Nat.le_refl _
  · split
    · exact StringToken.scan_length rest
    · split
      · exact Token.scanNumber_length (Nat.le_succ _)
      · split
        · exact Token.scanNumber_length (Nat.le_refl _)
        · split
          · exact Token.scanWord_length _ _ _
          · exact Nat.zero_le _

/-- The tokens of a text. -/
def Token.ofChars : List Char → List Token
  | [] => []
  | char :: rest =>
      if isBlank char then Token.ofChars rest
      else (Token.scan char rest).1 :: Token.ofChars (Token.scan char rest).2
termination_by chars => chars.length
decreasing_by
  · exact Nat.lt_succ_self _
  · exact Nat.lt_succ_of_le (Token.scan_length char rest)

/-- What is left of a text after so many of its tokens. -/
def Token.dropChars : Nat → List Char → List Char
  | 0, chars => chars
  | _ + 1, [] => []
  | count + 1, char :: rest =>
      if isBlank char then Token.dropChars (count + 1) rest
      else Token.dropChars count (Token.scan char rest).2
termination_by _ chars => chars.length
decreasing_by
  · exact Nat.lt_succ_self _
  · exact Nat.lt_succ_of_le (Token.scan_length char rest)

end CommandRegistry
