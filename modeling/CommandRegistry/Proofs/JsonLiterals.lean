/-
How the scanner reads what the grammar of JSON texts allows: blanks, string literals and
numbers are read as one token each, or as none, and nothing that follows is touched.
-/
import CommandRegistry.Json.Token
import CommandRegistry.Proofs.JsonGrammar

namespace CommandRegistry

variable {char : Char} {chars part rest : List Char} {parts : List (List Char)} {unit : Nat}
  {text : String}

theorem Token.ofChars_blank (hblank : isBlank char = true) (rest : List Char) :
    Token.ofChars (char :: rest) = Token.ofChars rest := by
  rw [Token.ofChars, if_pos hblank]

/-- A text without a token is a text of blanks. -/
theorem Token.ofChars_eq_nil_iff {chars : List Char} :
    Token.ofChars chars = [] ↔ ∀ char ∈ chars, isBlank char = true := by
  induction chars with
  | nil => simp [Token.ofChars]
  | cons char rest ih =>
      rw [Token.ofChars, List.forall_mem_cons]
      cases hblank : isBlank char with
      | true => simpa using ih
      | false => simp

theorem Token.ofChars_scan {token : Token} (hblank : isBlank char = false)
    (hscan : Token.scan char chars = (token, rest)) :
    Token.ofChars (char :: chars) = token :: Token.ofChars rest := by
  rw [Token.ofChars, hscan]
  simp [hblank]

theorem Token.ofChars_punctuation {token : Token} (htoken : punctuation? char = some token)
    (hblank : isBlank char = false) (rest : List Char) :
    Token.ofChars (char :: rest) = token :: Token.ofChars rest :=
  Token.ofChars_scan hblank (by rw [Token.scan, htoken])

theorem isBlank_of_mem (hblank : char ∈ [' ', '\t', '\n', '\r']) : isBlank char = true := by
  simp only [List.mem_cons, List.not_mem_nil, or_false] at hblank
  rcases hblank with rfl | rfl | rfl | rfl <;> rfl

theorem Token.ofChars_blanks (hblanks : Json.Blanks chars) (rest : List Char) :
    Token.ofChars (chars ++ rest) = Token.ofChars rest := by
  induction chars with
  | nil => rfl
  | cons char chars ih =>
      obtain ⟨hchar, hchars⟩ := List.forall_mem_cons.1 hblanks
      rw [List.cons_append, Token.ofChars_blank (isBlank_of_mem hchar), ih hchars]

/-- The scanner makes these pieces of the characters, whatever follows. -/
def StringToken.Scans (chars : List Char) (pieces : List Piece) : Prop :=
  ∀ rest, StringToken.scan (chars ++ rest) =
    (⟨pieces ++ (StringToken.scan rest).1.pieces, (StringToken.scan rest).1.fault⟩,
      (StringToken.scan rest).2)

/-- The pieces say this character, whatever they are followed by. -/
def Piece.Say (pieces : List Piece) (char : Char) : Prop :=
  ∀ rest, joinPieces false (pieces ++ rest) = (joinPieces false rest).map (char :: ·)

theorem StringToken.Scans.append {first second : List Piece}
    (hfirst : StringToken.Scans chars first) (hsecond : StringToken.Scans part second) :
    StringToken.Scans (chars ++ part) (first ++ second) := by
  intro rest
  rw [List.append_assoc, hfirst, hsecond, List.append_assoc]

theorem StringToken.scans_flatten {pieces : List (List Piece)}
    (hparts : List.Forall₂ StringToken.Scans parts pieces) :
    StringToken.Scans parts.flatten pieces.flatten := by
  induction hparts with
  | nil => exact fun rest => rfl
  | cons hpart _ ih => exact hpart.append ih

theorem hexDigit?_eq_some {digit : Nat} (hdigit : Json.HexDigit digit char) :
    hexDigit? char = some digit := by
  have hall : ∀ digit < 16, hexDigit? (Nat.digitChar digit) = some digit ∧
      hexDigit? (Nat.digitChar digit).toUpper = some digit := by decide
  obtain ⟨hless, rfl | rfl⟩ := hdigit
  · exact (hall digit hless).1
  · exact (hall digit hless).2

theorem Json.UnitText.scans (hunit : Json.UnitText unit part) :
    StringToken.Scans part [.unit unit] := by
  cases hunit with
  | digits ha hb hc hd =>
      have hless := ha.1
      have hvalue : ((unit / 4096 * 16 + unit / 256 % 16) * 16 + unit / 16 % 16) * 16 +
          unit % 16 = unit := by omega
      intro rest
      rw [List.cons_append, StringToken.scan.eq_def]
      simp [hexUnit?, hexDigit?_eq_some ha, hexDigit?_eq_some hb, hexDigit?_eq_some hc,
        hexDigit?_eq_some hd, hvalue]

theorem Json.escapedChar?_of_mem {letter : Char} (hescape : (letter, char) ∈ Json.escapes) :
    letter ≠ 'u' ∧ escapedChar? letter = some char := by
  have hall : ∀ escape ∈ Json.escapes,
      escape.1 ≠ 'u' ∧ escapedChar? escape.1 = some escape.2 := by decide
  exact hall (letter, char) hescape

theorem Piece.say_char (char : Char) : Piece.Say [.char char] char :=
  fun _ => rfl

theorem Piece.say_unit (hsmall : char.toNat < 0x10000) :
    Piece.Say [.unit char.toNat] char := by
  have hvalid : char.toNat < 0xD800 ∨ 0xDFFF < char.toNat := char.valid.imp_right And.left
  have hhigh : isHighSurrogate char.toNat = false := decide_eq_false (by omega)
  have hlow : isLowSurrogate char.toNat = false := decide_eq_false (by omega)
  intro rest
  cases rest with
  | nil => simp [joinPieces, hhigh, hlow]
  | cons second rest =>
      cases second with
      | char second => simp [joinPieces, hhigh, hlow, Function.comp_def]
      | unit second => simp [joinPieces, hhigh, hlow]

theorem Piece.say_surrogates (hlarge : 0x10000 ≤ char.toNat) :
    Piece.Say [.unit (0xD800 + (char.toNat - 0x10000) / 0x400),
      .unit (0xDC00 + (char.toNat - 0x10000) % 0x400)] char := by
  have hbound : char.toNat < 0x110000 := by
    have hvalid := char.valid
    unfold UInt32.isValidChar Nat.isValidChar at hvalid
    have hnat : char.toNat = char.val.toNat := rfl
    omega
  have hhigh : isHighSurrogate (0xD800 + (char.toNat - 0x10000) / 0x400) = true :=
    decide_eq_true (by omega)
  have hlow : isLowSurrogate (0xDC00 + (char.toNat - 0x10000) % 0x400) = true :=
    decide_eq_true (by omega)
  have hvalue : (0xD800 + (char.toNat - 0x10000) / 0x400 - 0xD800) * 0x400 +
      (0xDC00 + (char.toNat - 0x10000) % 0x400 - 0xDC00) + 0x10000 = char.toNat := by omega
  intro rest
  rw [List.cons_append, List.cons_append, List.nil_append, joinPieces, if_pos hhigh,
    if_pos hlow, hvalue, Char.ofNat_toNat]

theorem Json.CharText.exists_pieces (hchar : Json.CharText char part) :
    ∃ pieces, StringToken.Scans part pieces ∧ Piece.Say pieces char := by
  cases hchar with
  | plain hquote hbackslash hcontrol =>
      refine ⟨[.char char], fun rest => ?_, Piece.say_char char⟩
      rw [List.cons_append, StringToken.scan.eq_def]
      simp [hquote, hbackslash, Nat.not_lt.2 hcontrol]
  | letter hescape =>
      obtain ⟨hletter, hchar⟩ := Json.escapedChar?_of_mem hescape
      refine ⟨[.char char], fun rest => ?_, Piece.say_char char⟩
      rw [List.cons_append, StringToken.scan.eq_def]
      simp [hletter, hchar]
  | units hparts =>
      refine ⟨(Json.units char).map .unit, ?_, ?_⟩
      · have hscans := StringToken.scans_flatten
          (List.forall₂_map_right_iff.2 (hparts.flip.imp fun _ _ hunit => hunit.scans))
        rwa [← List.flatMap_def, ← List.map_eq_flatMap] at hscans
      · unfold Json.units
        split_ifs with hsmall
        · exact Piece.say_unit hsmall
        · exact Piece.say_surrogates (Nat.le_of_not_lt hsmall)

/-- The token of a literal, whatever follows. -/
def StringToken.WrittenAs (token : StringToken) (chars : List Char) : Prop :=
  ∀ rest, Token.ofChars (chars ++ rest) = .string token :: Token.ofChars rest

theorem StringToken.Scans.writtenAs {pieces : List Piece}
    (hscans : StringToken.Scans chars pieces) :
    StringToken.WrittenAs ⟨pieces, none⟩ ('"' :: (chars ++ ['"'])) := by
  intro rest
  have hquote : StringToken.scan ('"' :: rest) = (⟨[], none⟩, rest) := by
    rw [StringToken.scan.eq_def]
    rfl
  have hbody : StringToken.scan (chars ++ '"' :: rest) = (⟨pieces, none⟩, rest) := by
    rw [hscans, hquote, List.append_nil]
  have hscan : Token.scan '"' (chars ++ '"' :: rest) = (.string ⟨pieces, none⟩, rest) := by
    simp [Token.scan, punctuation?, Token.scanString, hbody]
  rw [List.cons_append, List.append_assoc]
  exact Token.ofChars_scan rfl hscan

theorem Json.Literal.exists_token (hliteral : Json.Literal parts chars) :
    ∃ token : StringToken, token.WrittenAs chars ∧ token.check = .ok () := by
  obtain ⟨hparts, rfl⟩ := hliteral
  have hscans : ∀ part ∈ parts, ∃ pieces, StringToken.Scans part pieces := by
    intro part hpart
    obtain ⟨char, hchar⟩ | ⟨unit, hunit⟩ := hparts part hpart
    · obtain ⟨pieces, hpieces, -⟩ := hchar.exists_pieces
      exact ⟨pieces, hpieces⟩
    · exact ⟨_, hunit.scans⟩
  choose! pieces hpieces using hscans
  have hscanned := StringToken.scans_flatten
    (List.forall₂_map_right_iff.2 (List.forall₂_same.2 hpieces))
  exact ⟨_, hscanned.writtenAs, rfl⟩

theorem Json.exists_pieces {said : List Char}
    (hparts : List.Forall₂ Json.CharText said parts) :
    ∃ pieces, StringToken.Scans parts.flatten pieces ∧
      joinPieces false pieces = some said := by
  induction hparts with
  | nil => exact ⟨[], fun rest => rfl, rfl⟩
  | cons hchar _ ih =>
      obtain ⟨first, hfirst, hsay⟩ := hchar.exists_pieces
      obtain ⟨pieces, hscans, hjoin⟩ := ih
      exact ⟨first ++ pieces, hfirst.append hscans, by rw [hsay, hjoin, Option.map_some]⟩

theorem Json.StringText.exists_token (hstring : Json.StringText text chars) :
    ∃ token : StringToken, token.WrittenAs chars ∧ token.text = .ok text := by
  obtain ⟨parts, hparts, rfl⟩ := hstring
  obtain ⟨pieces, hscans, hjoin⟩ := Json.exists_pieces hparts
  exact ⟨_, hscans.writtenAs, by simp [StringToken.text, hjoin]⟩

/-- What ends a number. -/
def NumberToken.Ends (rest : List Char) : Prop :=
  ∀ char ∈ rest.head?, char.isDigit = false ∧ char ≠ '.' ∧ char ≠ 'e' ∧ char ≠ 'E'

theorem NumberToken.ends_cons
    (hchar : char.isDigit = false ∧ char ≠ '.' ∧ char ≠ 'e' ∧ char ≠ 'E') :
    NumberToken.Ends (char :: rest) := by
  rintro _ ⟨⟩
  exact hchar

theorem NumberToken.ends_blanks (hblanks : Json.Blanks chars) (hends : NumberToken.Ends rest) :
    NumberToken.Ends (chars ++ rest) := by
  cases chars with
  | nil => exact hends
  | cons char chars =>
      have hblank := hblanks char List.mem_cons_self
      simp only [List.mem_cons, List.not_mem_nil, or_false] at hblank
      apply NumberToken.ends_cons
      rcases hblank with rfl | rfl | rfl | rfl <;> decide

/-- A digit begins a number and nothing else. -/
theorem Token.scan_of_isDigit (hdigit : char.isDigit = true) (rest : List Char) :
    isBlank char = false ∧ Token.scan char rest = Token.scanNumber false (char :: rest) := by
  have hne : ∀ other : Char, other.isDigit = false → char ≠ other := by
    rintro other hother rfl
    rw [hdigit] at hother
    contradiction
  constructor
  · simp [isBlank, hne]
  · simp [Token.scan, punctuation?, hne, hdigit]

theorem takeDigits_append {digits : List Char} (hdigits : Json.Digits digits)
    (hrest : ∀ char ∈ rest.head?, char.isDigit = false) :
    takeDigits (digits ++ rest) = .ok (digits, rest) := by
  have hend : rest.takeWhile Char.isDigit = [] ∧ rest.dropWhile Char.isDigit = rest := by
    cases rest with
    | nil => exact ⟨rfl, rfl⟩
    | cons char rest => simp [hrest char rfl]
  unfold takeDigits
  rw [List.takeWhile_append_of_pos hdigits.2, List.dropWhile_append_of_pos hdigits.2, hend.1,
    hend.2, List.append_nil]
  cases digits with
  | nil => exact absurd rfl hdigits.1
  | cons => rfl

theorem takeWhole_append {whole : List Char} (hwhole : Json.Digits whole)
    (hzero : whole.head? = some '0' → whole = ['0'])
    (hrest : ∀ char ∈ rest.head?, char.isDigit = false) :
    takeWhole (whole ++ rest) = .ok (whole, rest) := by
  unfold takeWhole
  rw [takeDigits_append hwhole hrest]
  split
  · rename_i second more _ heq
    rw [Except.ok.injEq, Prod.mk.injEq] at heq
    obtain ⟨rfl, -⟩ := heq
    cases hzero rfl
  · rfl

theorem takeFraction_none (hrest : ∀ char ∈ rest.head?, char ≠ '.') :
    takeFraction rest = .ok ([], rest) := by
  unfold takeFraction
  split
  · exact absurd rfl (hrest '.' rfl)
  · rfl

theorem takeExponent_none (hends : NumberToken.Ends rest) :
    takeExponent rest = .ok (none, rest) := by
  cases rest with
  | nil => rfl
  | cons char rest =>
      obtain ⟨-, -, hsmall, hcapital⟩ := hends char rfl
      rw [takeExponent, if_neg (not_or.2 ⟨hsmall, hcapital⟩)]

theorem Json.FractionText.takeFraction {fraction : List Char}
    (hfraction : Json.FractionText fraction) :
    ∃ digits, ∀ rest : List Char, (∀ char ∈ rest.head?, char.isDigit = false ∧ char ≠ '.') →
      CommandRegistry.takeFraction (fraction ++ rest) = .ok (digits, rest) := by
  cases hfraction with
  | none => exact ⟨[], fun rest hrest => takeFraction_none fun char hchar => (hrest char hchar).2⟩
  | some hdigits =>
      exact ⟨_, fun rest hrest => takeDigits_append hdigits fun char hchar => (hrest char hchar).1⟩

theorem Json.FractionText.head_not_digit {fraction : List Char}
    (hfraction : Json.FractionText fraction)
    (hrest : ∀ char ∈ rest.head?, char.isDigit = false) :
    ∀ char ∈ (fraction ++ rest).head?, char.isDigit = false := by
  cases hfraction with
  | none => exact hrest
  | some =>
      rintro char ⟨⟩
      rfl

/-- A sign is told from the digits behind it. -/
theorem takeSign_append {sign digits : List Char} (hsign : sign ∈ [[], ['+'], ['-']])
    (hdigits : Json.Digits digits) :
    ∃ below, ∀ rest, takeSign (sign ++ digits ++ rest) = (below, digits ++ rest) := by
  obtain rfl | rfl | rfl : sign = [] ∨ sign = ['+'] ∨ sign = ['-'] := by simpa using hsign
  · refine ⟨false, fun rest => ?_⟩
    obtain ⟨char, digits, rfl⟩ := List.exists_cons_of_ne_nil hdigits.1
    have hdigit : char.isDigit = true := hdigits.2 char List.mem_cons_self
    rw [List.nil_append, List.cons_append, takeSign.eq_def]
    split
    · rename_i heq
      cases heq
      contradiction
    · rename_i heq
      cases heq
      contradiction
    · rfl
  · exact ⟨false, fun rest => rfl⟩
  · exact ⟨true, fun rest => rfl⟩

theorem Json.ExponentText.takeExponent {exponent : List Char}
    (hexponent : Json.ExponentText exponent) :
    ∃ written, ∀ rest, NumberToken.Ends rest →
      CommandRegistry.takeExponent (exponent ++ rest) = .ok (written, rest) := by
  cases hexponent with
  | none => exact ⟨Option.none, fun rest hends => takeExponent_none hends⟩
  | @some mark sign digits hmark hsign hdigits =>
      obtain ⟨below, hbelow⟩ := takeSign_append hsign hdigits
      refine ⟨Option.some (below, digits), fun rest hends => ?_⟩
      have htaken := takeDigits_append hdigits fun char hchar => (hends char hchar).1
      rw [List.cons_append, CommandRegistry.takeExponent, if_pos hmark, hbelow]
      simp only [htaken]

theorem Json.ExponentText.head_not_digit {exponent : List Char}
    (hexponent : Json.ExponentText exponent) (hends : NumberToken.Ends rest) :
    ∀ char ∈ (exponent ++ rest).head?, char.isDigit = false ∧ char ≠ '.' := by
  cases hexponent with
  | none =>
      intro char hchar
      obtain ⟨hdigit, hpoint, -⟩ := hends char hchar
      exact ⟨hdigit, hpoint⟩
  | some hmark =>
      rintro char ⟨⟩
      obtain rfl | rfl := hmark
      · decide
      · decide

/-- The parts of a number behind its sign are taken in one after another. -/
theorem NumberToken.scan_parts {whole fraction exponent : List Char}
    (hwhole : Json.Digits whole) (hzero : whole.head? = some '0' → whole = ['0'])
    (hfraction : Json.FractionText fraction) (hexponent : Json.ExponentText exponent)
    (negative : Bool) :
    ∃ token, ∀ rest, NumberToken.Ends rest →
      NumberToken.scan negative (whole ++ (fraction ++ exponent) ++ rest) =
        .ok (token, rest) := by
  obtain ⟨digits, hdigits⟩ := hfraction.takeFraction
  obtain ⟨written, hwritten⟩ := hexponent.takeExponent
  refine ⟨⟨negative, whole, digits, written⟩, fun rest hends => ?_⟩
  have hbehind := hexponent.head_not_digit hends
  have hnodigit := hfraction.head_not_digit fun char hchar => (hbehind char hchar).1
  rw [List.append_assoc, List.append_assoc, NumberToken.scan,
    takeWhole_append hwhole hzero hnodigit]
  simp only [hdigits _ hbehind, hwritten _ hends]

theorem Token.ofChars_number {whole behind : List Char} {token : NumberToken}
    (hwhole : Json.Digits whole)
    (hscan : NumberToken.scan false (whole ++ behind) = .ok (token, rest)) :
    Token.ofChars (whole ++ behind) = .number (.ok token) :: Token.ofChars rest := by
  obtain ⟨char, whole, rfl⟩ := List.exists_cons_of_ne_nil hwhole.1
  obtain ⟨hblank, hnumber⟩ := Token.scan_of_isDigit (hwhole.2 char List.mem_cons_self)
    (whole ++ behind)
  rw [Token.scanNumber, ← List.cons_append, hscan] at hnumber
  exact Token.ofChars_scan hblank hnumber

theorem Json.NumberText.exists_token (hnumber : Json.NumberText chars) :
    ∃ token, ∀ rest, NumberToken.Ends rest →
      Token.ofChars (chars ++ rest) = .number (.ok token) :: Token.ofChars rest := by
  cases hnumber with
  | @parts sign whole fraction exponent hsign hwhole hzero hfraction hexponent =>
      obtain rfl | rfl : sign = [] ∨ sign = ['-'] := by simpa using hsign
      · obtain ⟨token, htoken⟩ := NumberToken.scan_parts hwhole hzero hfraction hexponent false
        refine ⟨token, fun rest hends => ?_⟩
        have hscan := htoken rest hends
        rw [List.append_assoc] at hscan
        rw [List.nil_append, List.append_assoc]
        exact Token.ofChars_number hwhole hscan
      · obtain ⟨token, htoken⟩ := NumberToken.scan_parts hwhole hzero hfraction hexponent true
        refine ⟨token, fun rest hends => ?_⟩
        have hscan : Token.scan '-' (whole ++ (fraction ++ exponent) ++ rest) =
            (.number (.ok token), rest) := by
          simp only [Token.scan, punctuation?, Token.scanNumber, htoken rest hends]
          rfl
        exact Token.ofChars_scan rfl hscan

/-- The number that a word is written as. -/
def NumberToken.written (value : UInt64) : NumberToken :=
  ⟨false, naturalDigits value, [], none⟩

theorem NumberToken.scan_naturalDigits (value : UInt64) (hends : NumberToken.Ends rest) :
    NumberToken.scan false (naturalDigits value ++ rest) =
      .ok (NumberToken.written value, rest) := by
  have hwhole := takeWhole_append (Json.digits_naturalDigits value) naturalDigits_of_head?
    fun char hchar => (hends char hchar).1
  have hfraction : takeFraction rest = .ok ([], rest) :=
    takeFraction_none fun char hchar => (hends char hchar).2.1
  rw [NumberToken.scan, hwhole]
  simp only [hfraction, takeExponent_none hends]
  rfl

theorem NumberToken.value?_written (value : UInt64) :
    (NumberToken.written value).value? = some (.natural value) := by
  have hdigits : Nat.ofDigitChars 10 (naturalDigits value) 0 = value.toNat :=
    Nat.ofDigitChars_ten_toDigits
  simp [NumberToken.value?, NumberToken.written, hdigits, value.toNat_lt_size]

theorem Token.ofChars_naturalDigits (value : UInt64) (hends : NumberToken.Ends rest) :
    Token.ofChars (naturalDigits value ++ rest) =
      .number (.ok (NumberToken.written value)) :: Token.ofChars rest :=
  Token.ofChars_number (Json.digits_naturalDigits value)
    (NumberToken.scan_naturalDigits value hends)

end CommandRegistry
