/-
Directives of a log filter.  A directive is a level for everything, or for a
source, a span of work or a field.  The value of a field may be a number, with a
sign, a point and an exponent, or one of the words for what is infinite or none.
-/
import CommandRegistry.Bytes
import CommandRegistry.Demo.Invocation
import CommandRegistry.Event
import CommandRegistry.Text.Pattern

namespace CommandRegistry

def Numeral.words : List String :=
  ["inf", "infinity", "nan"]

def Numeral.dropSign : List Char → List Char
  | '+' :: rest => rest
  | '-' :: rest => rest
  | rest => rest

/-- Whether an exponent or nothing is written. -/
def Numeral.isEnd : List Char → Bool
  | [] => true
  | mark :: rest =>
      let digits := Numeral.dropSign rest
      (mark = 'e' || mark = 'E') && !digits.isEmpty && digits.all Char.isDigit

/-- Digits may be missing on one side of the point. -/
def Numeral.isDecimal (chars : List Char) : Bool :=
  let whole := chars.takeWhile Char.isDigit
  match chars.drop whole.length with
  | '.' :: rest =>
      let fraction := rest.takeWhile Char.isDigit
      !(whole.isEmpty && fraction.isEmpty) && Numeral.isEnd (rest.drop fraction.length)
  | rest => !whole.isEmpty && Numeral.isEnd rest

/-- Whether a text is a number. -/
def isNumeral (text : String) : Bool :=
  let chars := Numeral.dropSign text.toList
  Numeral.words.contains (String.ofList chars).toLower || Numeral.isDecimal chars

def LogLevel.rank : LogLevel → Nat
  | .error => 1
  | .warn => 2
  | .info => 3
  | .debug => 4
  | .trace => 5

/-- A field by its name, and whether it has to have a value. -/
structure LogField where
  name : String
  valued : Bool
deriving Repr, DecidableEq

/-- What a directive narrows itself to in brackets: a span of work by its name, a
field, or a span with a field. -/
structure LogScope where
  span : Option String
  field : Option LogField
deriving Repr, DecidableEq

/-- A field, perhaps with a value behind an equals sign, and what stands behind a
second one is left out.  A value is a number or a pattern. -/
def LogField.ofText (text : String) : Option LogField :=
  match text.splitOn "=" with
  | name :: value :: _ =>
      if isNumeral value || isPattern value then some ⟨name, true⟩ else none
  | _ => some ⟨text, false⟩

/-- What a text has at the place of a part that stands behind another one. -/
def LogScope.cut (text : String) (before part : List Char) : Option String :=
  Utf8.decode? (((Utf8.encode text).drop (String.ofList before).utf8ByteSize).take
    (String.ofList part).utf8ByteSize)

/-- A scope behind its opening bracket, up to the closing one, and what is written
behind that.  The field is read at the place it would have if there were no white
space in front of the text. -/
def LogScope.ofChars (text : String) (before chars : List Char) :
    Option (LogScope × List Char) :=
  let span := chars.takeWhile fun char => char ≠ ']' && char ≠ '\x7b'
  match chars.drop span.length with
  | ']' :: rest => some (⟨some (String.ofList span), none⟩, rest)
  | '\x7b' :: inner =>
      let field := inner.takeWhile (· ≠ '\x7d')
      let written := LogScope.cut text (before ++ span ++ ['\x7b']) field
      match field, written.bind LogField.ofText, inner.drop field.length with
      | _ :: _, some field, '\x7d' :: ']' :: rest =>
          let span := if span = [] then none else some (String.ofList span)
          some (⟨span, some field⟩, rest)
      | _, _, _ => none
  | _ => none

/-- A directive shows what it is about up to a rank; rank zero shows nothing. -/
structure LogDirective where
  source : String
  scope : Option LogScope
  rank : Nat
deriving Repr, DecidableEq

/-- The rank that a word stands for, in letters of either case or as a number. -/
def LogDirective.rank? (word : String) : Option Nat :=
  match word64? word with
  | some number => if number.toNat ≤ LogLevel.trace.rank then some number.toNat else none
  | none =>
      let word := word.toLower
      if word = "off" then some 0
      else if word = "error" then some LogLevel.error.rank
      else if word = "warn" then some LogLevel.warn.rank
      else if word = "info" then some LogLevel.info.rank
      else if word = "debug" then some LogLevel.debug.rank
      else if word = "trace" then some LogLevel.trace.rank
      else none

/-- The rank behind an equals sign; where none is written all is shown. -/
def LogDirective.rankOrAll? : List Char → Option Nat
  | [] => some LogLevel.trace.rank
  | chars => LogDirective.rank? (String.ofList chars)

/-- The characters that a directive can begin with. -/
def LogDirective.canBegin (char : Char) : Bool :=
  char = '[' || char = '-' || char = ':' || char = '_' || isAlphanumeric char

/-- A directive is a level, or a source and a scope with a level behind them.
White space in front belongs to the source, and then no level can follow.  A
word that is no level is a source. -/
def LogDirective.ofText (text : String) : Option LogDirective :=
  let space := text.toList.takeWhile isWhiteSpace
  let chars := text.toList.drop space.length
  let level := fun level => if space = [] then LogDirective.rankOrAll? level else none
  let source := chars.takeWhile fun char => char ≠ '=' && char ≠ '['
  let name := String.ofList (space ++ source)
  if chars.head?.any LogDirective.canBegin then
    match chars.drop source.length with
    | '=' :: rest => (level rest).map fun rank => ⟨name, none, rank⟩
    | '[' :: rest =>
        match LogScope.ofChars text (source ++ ['[']) rest with
        | none => none
        | some (scope, '=' :: rest) => (level rest).map fun rank => ⟨name, some scope, rank⟩
        | some (scope, rest) =>
            if rest.all isWhiteSpace then some ⟨name, some scope, LogLevel.trace.rank⟩
            else none
    | _ =>
        match LogDirective.rank? text with
        | some rank => some ⟨"", none, rank⟩
        | none => some ⟨text, none, LogLevel.trace.rank⟩
  else none

end CommandRegistry
