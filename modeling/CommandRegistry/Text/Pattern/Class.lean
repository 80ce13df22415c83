/-
Classes of characters between brackets.  A class is read item by item; what is
kept of it is how deep it is nested.
-/
import CommandRegistry.Text.Pattern.Piece

namespace CommandRegistry

/-- A class that is being read: how many items there are since the last
operator, how deep the deepest of them and what is left of the operator are
nested, and whether the class has only just begun. -/
structure PatternClass where
  items : Nat
  depth : Nat
  left : Option Nat
  fresh : Bool
deriving Repr, DecidableEq

def PatternClass.begun : PatternClass :=
  ⟨0, 0, none, true⟩

def PatternClass.add (level : PatternClass) (depth : Nat) : PatternClass :=
  { level with items := level.items + 1, depth := max level.depth depth }

/-- Several items make up a union, which is one level more. -/
def PatternClass.union (level : PatternClass) : Nat :=
  if level.items ≤ 1 then level.depth else level.depth + 1

/-- An operator with its two sides is one level more. -/
def PatternClass.total (level : PatternClass) : Nat :=
  match level.left with
  | none => level.union
  | some left => max left level.union + 1

def PatternClass.operate (level : PatternClass) : PatternClass :=
  ⟨0, 0, some level.total, false⟩

/-- The classes that go by a name. -/
def PatternClass.names : List String :=
  ["alnum", "alpha", "ascii", "blank", "cntrl", "digit", "graph", "lower", "print",
    "punct", "space", "upper", "word", "xdigit"]

/-- Read the name of a class up to its closing bracket. -/
def PatternClass.name (chars : List Char) : Option (List Char) :=
  let name := chars.takeWhile (· ≠ ':')
  match chars.drop name.length with
  | ':' :: ']' :: rest =>
      if PatternClass.names.contains (String.ofList name) then some rest else none
  | _ => none

/-- A class by its name behind an opening bracket, and whether it is negated. -/
def PatternClass.named : List Char → Option (Bool × List Char)
  | ':' :: '^' :: rest => (PatternClass.name rest).map fun rest => (true, rest)
  | ':' :: rest => (PatternClass.name rest).map fun rest => (false, rest)
  | _ => none

/-- Whether a class by its name can be an item. -/
def PatternClass.allowsNamed (mode : PatternMode) (negated : Bool) : Bool :=
  if mode.bytes then !negated else !mode.caseless

/-- What stands behind a dash as far as it decides on the dash.  Of a comment its
first character counts. -/
def PatternMode.peek (mode : PatternMode) (chars : List Char) : Option Char :=
  if mode.spaced then
    match chars.dropWhile isWhiteSpace with
    | '#' :: comment => (comment.dropWhile isWhiteSpace).head?
    | rest => rest.head?
  else chars.head?

/-- Read the second end of a range. -/
def PatternClass.range (mode : PatternMode) (first : PatternPiece) (chars : List Char) :
    Option (List Char) :=
  match mode.skip chars with
  | [] => none
  | char :: rest =>
      match PatternPiece.scan mode char rest with
      | none => none
      | some (last, rest) =>
          if last.allowedInClass mode && first.isRange last then some rest else none

/-- Read a character or a range of characters.  A dash before a dash or before
the closing bracket makes no range. -/
def PatternClass.item (mode : PatternMode) (char : Char) (rest : List Char) :
    Option (List Char) :=
  match PatternPiece.scan mode char rest with
  | none => none
  | some (piece, rest) =>
      if piece.allowedInClass mode then
        match mode.skip rest with
        | '-' :: after =>
            if mode.peek after = some ']' ∨ mode.peek after = some '-' then
              some ('-' :: after)
            else PatternClass.range mode piece after
        | rest => some rest
      else none

/-- The classes that are open, the innermost first, or the depth of the outermost
once it is closed. -/
inductive PatternBrackets where
  | reading (levels : List PatternClass)
  | closed (depth : Nat)
deriving Repr, DecidableEq

/-- Begin a class behind its opening bracket.  The bytes that are not in a class
could be parts of characters. -/
def PatternBrackets.enter (mode : PatternMode) (levels : List PatternClass)
    (chars : List Char) : Option (PatternBrackets × List Char) :=
  match mode.skip chars with
  | '^' :: rest =>
      if mode.bytes then none else some (.reading (.begun :: levels), rest)
  | rest => some (.reading (.begun :: levels), rest)

/-- Close the innermost class. -/
def PatternBrackets.leave (level : PatternClass) : List PatternClass → PatternBrackets
  | [] => .closed (level.total + 1)
  | outer :: levels => .reading (outer.add (level.total + 1) :: levels)

/-- Read on in the innermost class. -/
def PatternBrackets.readOn (mode : PatternMode) (level : PatternClass)
    (levels : List PatternClass) (char : Char) (rest : List Char) :
    Option (PatternBrackets × List Char) :=
  match char, rest with
  | ']', rest => some (PatternBrackets.leave level levels, rest)
  | '[', rest =>
      match PatternClass.named rest with
      | some (negated, rest) =>
          if PatternClass.allowsNamed mode negated then
            some (.reading (level.add 0 :: levels), rest)
          else none
      | none => PatternBrackets.enter mode (level :: levels) rest
  | '&', '&' :: rest => some (.reading (level.operate :: levels), rest)
  | '-', '-' :: rest => some (.reading (level.operate :: levels), rest)
  | '~', '~' :: rest => some (.reading (level.operate :: levels), rest)
  | _, rest =>
      match PatternClass.item mode char rest with
      | none => none
      | some rest => some (.reading (level.add 0 :: levels), rest)

/-- Read on in the innermost class.  Dashes at its beginning are items, and so is
a bracket that would close it while it is empty. -/
def PatternBrackets.step (mode : PatternMode) (level : PatternClass)
    (levels : List PatternClass) (char : Char) (rest : List Char) :
    Option (PatternBrackets × List Char) :=
  if level.fresh ∧ (char = '-' ∨ level.items = 0 ∧ char = ']') then
    if (PatternPiece.literal char false).allowedInClass mode then
      some (.reading (({ level with fresh := char = '-' } : PatternClass).add 0 :: levels),
        rest)
    else none
  else PatternBrackets.readOn mode { level with fresh := false } levels char rest

theorem PatternClass.name_length {chars left : List Char}
    (h : PatternClass.name chars = some left) : left.length ≤ chars.length := by
  have hdropped := chars.length_drop (i := (chars.takeWhile (· ≠ ':')).length)
  unfold PatternClass.name at h
  dsimp only at h
  split at h
  · rename_i rest hdrop
    rw [hdrop, List.length_cons, List.length_cons] at hdropped
    split at h
    · obtain rfl := Option.some.inj h
      omega
    · cases h
  · cases h

theorem PatternClass.named_length {chars left : List Char} {negated : Bool}
    (h : PatternClass.named chars = some (negated, left)) :
    left.length ≤ chars.length := by
  unfold PatternClass.named at h
  split at h
  · obtain ⟨rest, hname, hpair⟩ := Option.map_eq_some_iff.mp h
    obtain ⟨-, rfl⟩ := Prod.mk.inj hpair
    exact Nat.le_succ_of_le (Nat.le_succ_of_le (PatternClass.name_length hname))
  · obtain ⟨rest, hname, hpair⟩ := Option.map_eq_some_iff.mp h
    obtain ⟨-, rfl⟩ := Prod.mk.inj hpair
    exact Nat.le_succ_of_le (PatternClass.name_length hname)
  · cases h

theorem PatternClass.range_length {mode : PatternMode} {first : PatternPiece}
    {chars left : List Char} (h : PatternClass.range mode first chars = some left) :
    left.length ≤ chars.length := by
  have hskipped := mode.skip_length chars
  unfold PatternClass.range at h
  split at h
  · cases h
  · rename_i char rest hskip
    rw [hskip, List.length_cons] at hskipped
    split at h
    · cases h
    · rename_i last after hscan
      have hscanned := PatternPiece.scan_length hscan
      split at h
      · obtain rfl := Option.some.inj h
        omega
      · cases h

theorem PatternClass.item_length {mode : PatternMode} {char : Char}
    {rest left : List Char} (h : PatternClass.item mode char rest = some left) :
    left.length ≤ rest.length := by
  unfold PatternClass.item at h
  split at h
  · cases h
  · rename_i piece behind hscan
    have hscanned := PatternPiece.scan_length hscan
    have hskipped := mode.skip_length behind
    split at h
    · split at h
      · rename_i after hskip
        rw [hskip, List.length_cons] at hskipped
        split at h
        · obtain rfl := Option.some.inj h
          rw [List.length_cons]
          omega
        · have hrange := PatternClass.range_length h
          omega
      · obtain rfl := Option.some.inj h
        omega
    · cases h

theorem PatternBrackets.enter_length {mode : PatternMode} {levels : List PatternClass}
    {chars left : List Char} {brackets : PatternBrackets}
    (h : PatternBrackets.enter mode levels chars = some (brackets, left)) :
    left.length ≤ chars.length := by
  have hskipped := mode.skip_length chars
  unfold PatternBrackets.enter at h
  split at h
  · rename_i rest hskip
    rw [hskip, List.length_cons] at hskipped
    split at h
    · cases h
    · obtain ⟨-, rfl⟩ := Prod.mk.inj (Option.some.inj h)
      omega
  · obtain ⟨-, rfl⟩ := Prod.mk.inj (Option.some.inj h)
    exact hskipped

theorem PatternBrackets.readOn_length {mode : PatternMode} {level : PatternClass}
    {levels : List PatternClass} {char : Char} {rest left : List Char}
    {brackets : PatternBrackets}
    (h : PatternBrackets.readOn mode level levels char rest = some (brackets, left)) :
    left.length ≤ rest.length := by
  unfold PatternBrackets.readOn at h
  split at h
  case h_1 =>
    obtain ⟨-, rfl⟩ := Prod.mk.inj (Option.some.inj h)
    exact Nat.le_refl _
  case h_2 =>
    split at h
    · rename_i negated after hnamed
      split at h
      · obtain ⟨-, rfl⟩ := Prod.mk.inj (Option.some.inj h)
        exact PatternClass.named_length hnamed
      · cases h
    · exact PatternBrackets.enter_length h
  case h_6 =>
    split at h
    · cases h
    · rename_i after hitem
      obtain ⟨-, rfl⟩ := Prod.mk.inj (Option.some.inj h)
      exact PatternClass.item_length hitem
  all_goals
    obtain ⟨-, rfl⟩ := Prod.mk.inj (Option.some.inj h)
    exact Nat.le_succ _

theorem PatternBrackets.step_length {mode : PatternMode} {level : PatternClass}
    {levels : List PatternClass} {char : Char} {rest left : List Char}
    {brackets : PatternBrackets}
    (h : PatternBrackets.step mode level levels char rest = some (brackets, left)) :
    left.length ≤ rest.length := by
  unfold PatternBrackets.step at h
  split at h
  · split at h
    · obtain ⟨-, rfl⟩ := Prod.mk.inj (Option.some.inj h)
      exact Nat.le_refl _
    · cases h
  · exact PatternBrackets.readOn_length h

end CommandRegistry
