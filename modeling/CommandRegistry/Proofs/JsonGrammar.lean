/-
The grammar of JSON texts.  A text may be written in many ways: with blanks between its
parts, with characters escaped or not, and with the members of an object in any order; the
writer keeps to one of them.
-/
import CommandRegistry.Snapshot
import Mathlib.Data.List.Forall2

namespace CommandRegistry

def Json.Blanks (chars : List Char) : Prop :=
  ∀ char ∈ chars, char ∈ [' ', '\t', '\n', '\r']

/-- The letters that may follow a backslash and the characters they stand for. -/
def Json.escapes : List (Char × Char) :=
  [('"', '"'), ('\\', '\\'), ('/', '/'), ('b', '\x08'), ('f', '\x0c'), ('n', '\n'),
    ('r', '\r'), ('t', '\t')]

/-- The units of sixteen bits of a character: one, or a pair of surrogates. -/
def Json.units (char : Char) : List Nat :=
  if char.toNat < 0x10000 then [char.toNat]
  else [0xD800 + (char.toNat - 0x10000) / 0x400, 0xDC00 + (char.toNat - 0x10000) % 0x400]

/-- A digit to the base sixteen, in small or in capital letters. -/
def Json.HexDigit (digit : Nat) (char : Char) : Prop :=
  digit < 16 ∧ (char = Nat.digitChar digit ∨ char = (Nat.digitChar digit).toUpper)

inductive Json.UnitText (unit : Nat) : List Char → Prop
  | digits {a b c d : Char} (ha : Json.HexDigit (unit / 4096) a)
      (hb : Json.HexDigit (unit / 256 % 16) b) (hc : Json.HexDigit (unit / 16 % 16) c)
      (hd : Json.HexDigit (unit % 16) d) : UnitText unit ['\\', 'u', a, b, c, d]

/-- The ways to write a character between quotes. -/
inductive Json.CharText (char : Char) : List Char → Prop
  | plain (hquote : char ≠ '"') (hbackslash : char ≠ '\\') (hcontrol : 32 ≤ char.toNat) :
      CharText char [char]
  | letter {letter : Char} (hescape : (letter, char) ∈ Json.escapes) :
      CharText char ['\\', letter]
  | units {parts : List (List Char)}
      (hparts : List.Forall₂ Json.UnitText (Json.units char) parts) :
      CharText char parts.flatten

/-- A literal made of these parts.  A unit in it need not belong to a character: a
surrogate may stand alone. -/
def Json.Literal (parts : List (List Char)) (chars : List Char) : Prop :=
  (∀ part ∈ parts, (∃ char, Json.CharText char part) ∨ ∃ unit, Json.UnitText unit part) ∧
    chars = '"' :: (parts.flatten ++ ['"'])

/-- A literal that says this text. -/
def Json.StringText (text : String) (chars : List Char) : Prop :=
  ∃ parts, List.Forall₂ Json.CharText text.toList parts ∧
    chars = '"' :: (parts.flatten ++ ['"'])

def Json.Digits (chars : List Char) : Prop :=
  chars ≠ [] ∧ ∀ char ∈ chars, char.isDigit = true

inductive Json.FractionText : List Char → Prop
  | none : FractionText []
  | some {digits : List Char} (hdigits : Json.Digits digits) : FractionText ('.' :: digits)

inductive Json.ExponentText : List Char → Prop
  | none : ExponentText []
  | some {mark : Char} {sign digits : List Char} (hmark : mark = 'e' ∨ mark = 'E')
      (hsign : sign ∈ [[], ['+'], ['-']]) (hdigits : Json.Digits digits) :
      ExponentText (mark :: (sign ++ digits))

/-- A number: before the point a zero stands alone. -/
inductive Json.NumberText : List Char → Prop
  | parts {sign whole fraction exponent : List Char} (hsign : sign ∈ [[], ['-']])
      (hwhole : Json.Digits whole) (hzero : whole.head? = some '0' → whole = ['0'])
      (hfraction : Json.FractionText fraction) (hexponent : Json.ExponentText exponent) :
      NumberText (sign ++ (whole ++ (fraction ++ exponent)))

/-- Parts with commas between them and blanks around each of them. -/
inductive Json.Separated : List (List Char) → List Char → Prop
  | last {before part after : List Char} (hbefore : Json.Blanks before)
      (hafter : Json.Blanks after) : Separated [part] (before ++ (part ++ after))
  | cons {before part after : List Char} {parts : List (List Char)} {rest : List Char}
      (hbefore : Json.Blanks before) (hafter : Json.Blanks after)
      (hrest : Separated parts rest) :
      Separated (part :: parts) (before ++ (part ++ (after ++ ',' :: rest)))

inductive Json.Enclosed (opening closing : Char) : List (List Char) → List Char → Prop
  | empty {blanks : List Char} (hblanks : Json.Blanks blanks) :
      Enclosed opening closing [] (opening :: (blanks ++ [closing]))
  | parts {parts : List (List Char)} {inside : List Char}
      (hinside : Json.Separated parts inside) :
      Enclosed opening closing parts (opening :: (inside ++ [closing]))

/-- A member with this key and with its value as it is written. -/
inductive Json.MemberText {κ : Type} (Key : κ → List Char → Prop) :
    κ × List Char → List Char → Prop
  | colon {name : κ} {key before after value : List Char} (hkey : Key name key)
      (hbefore : Json.Blanks before) (hafter : Json.Blanks after) :
      MemberText Key (name, value) (key ++ (before ++ ':' :: (after ++ value)))

def Json.ArrayText (items : List (List Char)) (chars : List Char) : Prop :=
  Json.Enclosed '[' ']' items chars

def Json.ObjectText {κ : Type} (Key : κ → List Char → Prop) (members : List (κ × List Char))
    (chars : List Char) : Prop :=
  ∃ parts, List.Forall₂ (Json.MemberText Key) members parts ∧
    Json.Enclosed '\x7b' '\x7d' parts chars

/-- The characters of a value. -/
inductive Json.ValueText : List Char → Prop
  | word {chars : List Char}
      (hword : chars ∈ [['n', 'u', 'l', 'l'], ['t', 'r', 'u', 'e'], ['f', 'a', 'l', 's', 'e']]) :
      ValueText chars
  | number {chars : List Char} (hnumber : Json.NumberText chars) : ValueText chars
  | string {parts : List (List Char)} {chars : List Char}
      (hliteral : Json.Literal parts chars) : ValueText chars
  | array {items : List (List Char)} {chars : List Char} (harray : Json.ArrayText items chars)
      (hitems : ∀ item ∈ items, ValueText item) : ValueText chars
  | object {members : List (List (List Char) × List Char)} {chars : List Char}
      (hobject : Json.ObjectText Json.Literal members chars)
      (hvalues : ∀ member ∈ members, ValueText member.2) : ValueText chars

/-- An array of these items, whatever they are. -/
structure Json.ArrayOf (items : List (List Char)) (chars : List Char) : Prop where
  written : Json.ArrayText items chars
  values : ∀ item ∈ items, Json.ValueText item

/-- An object of these members in their order, whatever their values are. -/
structure Json.ObjectOf (members : List (String × List Char)) (chars : List Char) : Prop where
  written : Json.ObjectText Json.StringText members chars
  values : ∀ member ∈ members, Json.ValueText member.2

/-- A whole text that is an object of these members, with blanks around it. -/
inductive Json.WholeObject (members : List (String × List Char)) (text : String) : Prop
  | surrounded {before chars after : List Char} (hbefore : Json.Blanks before)
      (hafter : Json.Blanks after) (hobject : Json.ObjectOf members chars)
      (htext : text.toList = before ++ (chars ++ after))

theorem exists_forall₂ {α β γ : Type} {R : α → β → Prop} {S : β → γ → Prop} {left : List α}
    {right : List γ}
    (hrelated : List.Forall₂ (fun first last => ∃ middle, R first middle ∧ S middle last)
      left right) :
    ∃ between, List.Forall₂ R left between ∧ List.Forall₂ S between right := by
  induction hrelated with
  | nil => exact ⟨[], .nil, .nil⟩
  | cons hhead _ ih =>
      obtain ⟨middle, hfirst, hlast⟩ := hhead
      obtain ⟨between, hleft, hright⟩ := ih
      exact ⟨middle :: between, .cons hfirst hleft, .cons hlast hright⟩

theorem Json.ArrayOf.valueText {items : List (List Char)} {chars : List Char}
    (harray : Json.ArrayOf items chars) : Json.ValueText chars :=
  .array harray.written harray.values

theorem Json.StringText.literal {text : String} {chars : List Char}
    (hstring : Json.StringText text chars) : ∃ parts, Json.Literal parts chars := by
  obtain ⟨parts, hparts, rfl⟩ := hstring
  have hchars : ∀ part ∈ parts, ∃ char, Json.CharText char part :=
    ((List.forall₂_and_left parts text.toList).1
      (hparts.flip.imp fun _ char hchar => ⟨⟨char, hchar⟩, trivial⟩)).1
  exact ⟨parts, fun part hpart => .inl (hchars part hpart), rfl⟩

theorem Json.ObjectOf.valueText {members : List (String × List Char)} {chars : List Char}
    (hobject : Json.ObjectOf members chars) : Json.ValueText chars := by
  obtain ⟨⟨parts, hparts, henclosed⟩, hvalues⟩ := hobject
  have hliterals : List.Forall₂ (fun member part => ∃ written : List (List Char) × List Char,
      Json.ValueText written.2 ∧ Json.MemberText Json.Literal written part) members parts := by
    refine ((List.forall₂_and_left members parts).2 ⟨hvalues, hparts⟩).imp ?_
    rintro _ _ ⟨hvalue, ⟨hkey, hbefore, hafter⟩⟩
    obtain ⟨key, hliteral⟩ := hkey.literal
    exact ⟨(key, _), hvalue, .colon hliteral hbefore hafter⟩
  obtain ⟨written, hwritten, hmembers⟩ := exists_forall₂ hliterals
  refine .object ⟨parts, hmembers, henclosed⟩ ?_
  exact ((List.forall₂_and_left written members).1
    (hwritten.flip.imp fun _ _ hvalue => ⟨hvalue, trivial⟩)).1

/-- The way a character is written is one of those in which it may be. -/
theorem Json.charText_escape (char : Char) : Json.CharText char (Json.escape char) := by
  unfold Json.escape
  split_ifs with hquote hbackslash hback hfeed hline hreturn htab hcontrol
  · exact .letter (by rw [hquote]; decide)
  · exact .letter (by rw [hbackslash]; decide)
  · exact .letter (by rw [hback]; decide)
  · exact .letter (by rw [hfeed]; decide)
  · exact .letter (by rw [hline]; decide)
  · exact .letter (by rw [hreturn]; decide)
  · exact .letter (by rw [htab]; decide)
  · have hunits : Json.units char = [char.toNat] := if_pos (by omega)
    have hunit : Json.UnitText char.toNat ['\\', 'u', '0', '0',
        Nat.digitChar (char.toNat / 16), Nat.digitChar (char.toNat % 16)] := by
      refine .digits ⟨by omega, .inl ?_⟩ ⟨by omega, .inl ?_⟩ ⟨by omega, .inl ?_⟩
        ⟨by omega, .inl rfl⟩
      · rw [show char.toNat / 4096 = 0 by omega]
        rfl
      · rw [show char.toNat / 256 % 16 = 0 by omega]
        rfl
      · rw [show char.toNat / 16 % 16 = char.toNat / 16 by omega]
    have hunits : List.Forall₂ Json.UnitText (Json.units char) [_] :=
      hunits ▸ List.Forall₂.cons hunit .nil
    exact .units hunits
  · exact .plain hquote hbackslash (Nat.le_of_not_lt hcontrol)

theorem Json.stringText_quote (text : String) : Json.StringText text (Json.quote text) := by
  refine ⟨text.toList.map Json.escape, ?_, ?_⟩
  · exact List.forall₂_map_right_iff.2
      (List.forall₂_same.2 fun char _ => Json.charText_escape char)
  · simp [Json.quote, List.flatMap_def]

theorem Json.valueText_quote (text : String) : Json.ValueText (Json.quote text) := by
  obtain ⟨parts, hliteral⟩ := (Json.stringText_quote text).literal
  exact .string hliteral

theorem isDigit_of_mem_naturalDigits {char : Char} (value : UInt64)
    (hmem : char ∈ naturalDigits value) : char.isDigit = true :=
  Nat.isDigit_of_mem_toDigits (by decide) (by decide) hmem

theorem eq_zero_of_toDigits : ∀ number < 10,
    (Nat.toDigits 10 number).head? = some '0' → number = 0 := by
  decide

/-- Only zero is written with a zero at the front. -/
theorem eq_zero_of_head?_toDigits {number : Nat}
    (hzero : (Nat.toDigits 10 number).head? = some '0') : number = 0 := by
  induction number using Nat.strongRecOn with
  | ind number ih =>
      by_cases hsmall : number < 10
      · exact eq_zero_of_toDigits number hsmall hzero
      · have hpositive : number / 10 ≠ 0 := by omega
        have hhead : (Nat.toDigits 10 (number / 10)).head? = some '0' := by
          rwa [Nat.toDigits_of_base_le (by decide) (by omega), List.head?_append,
            List.head?_eq_some_head Nat.toDigits_ne_nil, Option.some_or,
            ← List.head?_eq_some_head] at hzero
        exact absurd (ih (number / 10) (by omega) hhead) hpositive

theorem Json.digits_naturalDigits (value : UInt64) : Json.Digits (naturalDigits value) :=
  ⟨Nat.toDigits_ne_nil, fun _ => isDigit_of_mem_naturalDigits value⟩

theorem naturalDigits_of_head? {value : UInt64}
    (hzero : (naturalDigits value).head? = some '0') : naturalDigits value = ['0'] := by
  rw [naturalDigits, eq_zero_of_head?_toDigits hzero, Nat.toDigits_zero]

theorem Json.valueText_naturalDigits (value : UInt64) :
    Json.ValueText (naturalDigits value) := by
  have hnumber : Json.NumberText ([] ++ (naturalDigits value ++ ([] ++ []))) :=
    .parts (by simp) (Json.digits_naturalDigits value) naturalDigits_of_head? .none .none
  rw [List.nil_append, List.nil_append, List.append_nil] at hnumber
  exact .number hnumber

theorem Json.blanks_nil : Json.Blanks [] :=
  List.forall_mem_nil _

theorem Json.blanks_indent (indent : Nat) : Json.Blanks (List.replicate indent ' ') := by
  intro char hchar
  rw [List.eq_of_mem_replicate hchar]
  exact List.mem_cons_self

theorem Json.blanks_line (indent : Nat) :
    Json.Blanks ('\n' :: List.replicate indent ' ') :=
  List.forall_mem_cons.2 ⟨by simp, Json.blanks_indent indent⟩

theorem Json.separated_lines (indent inner : Nat) (part : List Char)
    (parts : List (List Char)) :
    Json.Separated (part :: parts)
      ('\n' :: ([',', '\n'].intercalate
        ((part :: parts).map fun part => List.replicate inner ' ' ++ part) ++
          '\n' :: List.replicate indent ' ')) := by
  induction parts generalizing part with
  | nil =>
      have hlast : Json.Separated [part] (_ ++ (part ++ _)) :=
        .last (Json.blanks_line inner) (Json.blanks_line indent)
      simpa using hlast
  | cons other parts ih =>
      have hcons : Json.Separated (part :: other :: parts) (_ ++ (part ++ ([] ++ ',' :: _))) :=
        .cons (Json.blanks_line inner) Json.blanks_nil (ih other)
      simpa using hcons

/-- Lines between brackets enclose what stands on them. -/
theorem Json.enclosed_bracketed (opening closing : Char) (indent inner : Nat)
    (parts : List (List Char)) :
    Json.Enclosed opening closing parts (bracketed opening closing indent
      (parts.map fun part => List.replicate inner ' ' ++ part)) := by
  cases parts with
  | nil => exact .empty Json.blanks_nil
  | cons part parts =>
      have hparts : Json.Enclosed opening closing (part :: parts) _ :=
        .parts (Json.separated_lines indent inner part parts)
      simpa [bracketed] using hparts

/-- Values on lines of their own. -/
theorem Json.arrayOf_lines (indent inner : Nat) {items : List (List Char)}
    (hvalues : ∀ item ∈ items, Json.ValueText item) :
    Json.ArrayOf items (bracketed '[' ']' indent
      (items.map fun item => List.replicate inner ' ' ++ item)) :=
  ⟨Json.enclosed_bracketed '[' ']' indent inner items, hvalues⟩

/-- Members on lines of their own. -/
theorem Json.objectOf_lines (indent inner : Nat) {members : List (String × List Char)}
    (hvalues : ∀ member ∈ members, Json.ValueText member.2) :
    Json.ObjectOf members (bracketed '\x7b' '\x7d' indent
      (members.map fun member => memberLine inner member.1 member.2)) := by
  refine ⟨⟨members.map fun member => Json.quote member.1 ++ ([] ++ ':' :: ([' '] ++ member.2)),
    ?_, ?_⟩, hvalues⟩
  · refine List.forall₂_map_right_iff.2 (List.forall₂_same.2 fun member _ => ?_)
    exact .colon (Json.stringText_quote member.1) Json.blanks_nil (Json.blanks_indent 1)
  · have hlines := Json.enclosed_bracketed '\x7b' '\x7d' indent inner
      (members.map fun member => Json.quote member.1 ++ ([] ++ ':' :: ([' '] ++ member.2)))
    rw [List.map_map] at hlines
    simpa [memberLine, Function.comp_def] using hlines

end CommandRegistry
