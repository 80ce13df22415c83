/-
JSON text: string literals, numbers, and values without any blanks.
-/
import CommandRegistry.Decimal.Shortest
import CommandRegistry.Json

namespace CommandRegistry

/-- Where a decimal is written without an exponent: its leading digit stands
for a power of ten in this range. -/
def DecimalText.leastPositional : Int := -5

def DecimalText.greatestPositional : Int := 15

/-- A decimal with a point in every form but the one-digit exponential one. -/
def Decimal.text (decimal : Decimal) : String :=
  let digits := Nat.toDigits 10 decimal.digits
  let leading := decimal.exponent + digits.length - 1
  if leading < DecimalText.leastPositional ∨
      DecimalText.greatestPositional < leading then
    let fraction := if digits.length = 1 then [] else '.' :: digits.drop 1
    let sign := if leading < 0 then '-' else '+'
    String.ofList (digits.take 1 ++ fraction ++
      'e' :: sign :: Nat.toDigits 10 leading.natAbs)
  else if leading < 0 then
    String.ofList ('0' :: '.' :: List.replicate (-leading - 1).toNat '0' ++ digits)
  else if 0 ≤ decimal.exponent then
    String.ofList (digits ++ List.replicate decimal.exponent.toNat '0' ++ ['.', '0'])
  else
    let whole := (leading + 1).toNat
    String.ofList (digits.take whole ++ '.' :: digits.drop whole)

/-- The fewest digits that read back as the same double. -/
def doubleText (value : Float) : String :=
  let bits := value.toBits
  let magnitude := bits.toNat % (UInt64.size / 2)
  let sign := if bits.toNat < UInt64.size / 2 then "" else "-"
  if magnitude = 0 then sign ++ "0.0"
  else sign ++ (BinaryFraction.ofDouble magnitude.toUInt64).shortest.text

def JsonNumber.text : JsonNumber → String
  | .natural value => toString value.toNat
  | .negative value => toString value
  | .float value => doubleText value

/-- One character of a string literal.  Only quotes, backslashes and control
characters are escaped. -/
def Json.escape (char : Char) : List Char :=
  if char = '"' then ['\\', '"']
  else if char = '\\' then ['\\', '\\']
  else if char = '\x08' then ['\\', 'b']
  else if char = '\x0c' then ['\\', 'f']
  else if char = '\n' then ['\\', 'n']
  else if char = '\r' then ['\\', 'r']
  else if char = '\t' then ['\\', 't']
  else if char.toNat < 32 then
    ['\\', 'u', '0', '0', Nat.digitChar (char.toNat / 16),
      Nat.digitChar (char.toNat % 16)]
  else [char]

/-- A text as a string literal. -/
def Json.quote (text : String) : List Char :=
  '"' :: text.toList.flatMap Json.escape ++ ['"']

def Json.quoted (text : String) : String :=
  String.ofList (Json.quote text)

mutual
/-- A value with nothing between its tokens. -/
def Json.compact : Json → String
  | .null => "null"
  | .bool value => if value then "true" else "false"
  | .number value => value.text
  | .string value => Json.quoted value
  | .array items => "[" ++ ",".intercalate (Json.compactItems items) ++ "]"
  | .object members =>
      "\x7b" ++ ",".intercalate (Json.compactMembers members) ++ "\x7d"

def Json.compactItems : List Json → List String
  | [] => []
  | item :: rest => item.compact :: Json.compactItems rest

def Json.compactMembers : List (String × Json) → List String
  | [] => []
  | (key, value) :: rest =>
      (Json.quoted key ++ ":" ++ value.compact) :: Json.compactMembers rest
end

end CommandRegistry
