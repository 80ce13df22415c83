/-
Patterns: regular expressions over texts without a closing brace, so that no
repetition is counted.  A text is a pattern if it is well formed, asks only for
what can be matched and is not nested too deeply.
-/
import CommandRegistry.Text.Character
import CommandRegistry.Text.Pattern.Class

namespace CommandRegistry

/-- A branch that is being read: how many items it has, how deep the deepest of
them and the last one are nested, and how deep the branches before it are.
Nothing can repeat the last item if it is a switch of the mode. -/
structure PatternBranch where
  items : Nat
  depth : Nat
  last : Option Nat
  earlier : Option Nat
deriving Repr, DecidableEq

def PatternBranch.begun : PatternBranch :=
  ⟨0, 0, none, none⟩

def PatternBranch.add (branch : PatternBranch) (depth : Nat) : PatternBranch :=
  { branch with
    items := branch.items + 1, depth := max branch.depth depth, last := some depth }

def PatternBranch.addSwitch (branch : PatternBranch) : PatternBranch :=
  { branch with items := branch.items + 1, last := none }

/-- A repetition takes the place of the item it repeats. -/
def PatternBranch.repeat? (branch : PatternBranch) : Option PatternBranch :=
  branch.last.map fun last =>
    { branch with depth := max branch.depth (last + 1), last := some (last + 1) }

/-- Several items make up a sequence, which is one level more. -/
def PatternBranch.sequence (branch : PatternBranch) : Nat :=
  if branch.items ≤ 1 then branch.depth else branch.depth + 1

/-- The deepest of all branches so far. -/
def PatternBranch.deepest (branch : PatternBranch) : Nat :=
  max (branch.earlier.getD 0) branch.sequence

def PatternBranch.next (branch : PatternBranch) : PatternBranch :=
  { PatternBranch.begun with earlier := some branch.deepest }

/-- A choice between several branches is one level more. -/
def PatternBranch.total (branch : PatternBranch) : Nat :=
  if branch.earlier.isSome then branch.deepest + 1 else branch.deepest

/-- A pattern that is being read: its mode, the names of its groups, the branch
that is open, what is outside the groups that are open, and the classes. -/
structure Pattern where
  mode : PatternMode
  names : List (List Char)
  branch : PatternBranch
  outer : List (PatternBranch × PatternMode)
  classes : List PatternClass
deriving Repr, DecidableEq

def Pattern.begun : Pattern :=
  ⟨.initial, [], .begun, [], []⟩

def Pattern.add (pattern : Pattern) (depth : Nat) : Pattern :=
  { pattern with branch := pattern.branch.add depth }

/-- What a mode is after some letters have been switched on and others off. -/
def PatternMode.switch (mode : PatternMode) (switches : List Char) : PatternMode :=
  let on := switches.takeWhile (· ≠ '-')
  let set := fun letter old =>
    if on.contains letter then true else if switches.contains letter then false else old
  { caseless := set 'i' mode.caseless
    bytes := !set 'u' (!mode.bytes)
    spaced := set 'x' mode.spaced }

/-- Whether letters switch a mode: every letter is known and stands once, and a
dash, before those to switch off, is not the last. -/
def PatternMode.canSwitch (switches : List Char) : Bool :=
  switches.all ['-', 'i', 'm', 's', 'U', 'u', 'R', 'x'].contains &&
    decide switches.Nodup && switches.getLast? ≠ some '-'

/-- Whether characters make up the name of a group. -/
def Pattern.canName : List Char → Bool
  | [] => false
  | first :: rest =>
      (first = '_' || isAlphabetic first) &&
        rest.all fun char => ['_', '.', '[', ']'].contains char || isAlphanumeric char

/-- Open a group in a mode of its own. -/
def Pattern.enter (pattern : Pattern) (mode : PatternMode) : Pattern :=
  { pattern with
    mode
    branch := .begun
    outer := (pattern.branch, pattern.mode) :: pattern.outer }

/-- Open a group behind its name.  No two groups share a name. -/
def Pattern.enterNamed (pattern : Pattern) (chars : List Char) :
    Option (Pattern × List Char) :=
  let name := chars.takeWhile (· ≠ '>')
  match chars.drop name.length with
  | [] => none
  | _ :: rest =>
      if Pattern.canName name && !pattern.names.contains name then
        some (({ pattern with names := name :: pattern.names } : Pattern).enter pattern.mode,
          rest)
      else none

/-- Switch the mode up to the end of the group, or in a group of its own. -/
def Pattern.switch (pattern : Pattern) (chars : List Char) : Option (Pattern × List Char) :=
  let switches := chars.takeWhile fun char => char ≠ ':' && char ≠ ')'
  let mode := pattern.mode.switch switches
  if PatternMode.canSwitch switches then
    match chars.drop switches.length with
    | ':' :: rest => some (pattern.enter mode, rest)
    | ')' :: rest =>
        if switches = [] then none
        else some ({ pattern with mode, branch := pattern.branch.addSwitch }, rest)
    | _ => none
  else none

/-- Read what stands behind an opening parenthesis. -/
def Pattern.group (pattern : Pattern) (chars : List Char) : Option (Pattern × List Char) :=
  match pattern.mode.skip chars with
  | '?' :: 'P' :: '<' :: rest => pattern.enterNamed rest
  | '?' :: '<' :: rest => pattern.enterNamed rest
  | '?' :: rest => pattern.switch rest
  | rest => some (pattern.enter pattern.mode, rest)

/-- Close the innermost group. -/
def Pattern.leave? (pattern : Pattern) : Option Pattern :=
  match pattern.outer with
  | [] => none
  | (branch, mode) :: outer =>
      some { pattern with mode, branch := branch.add (pattern.branch.total + 1), outer }

/-- What comes of reading in a class. -/
def Pattern.ofBrackets (pattern : Pattern) : PatternBrackets → Pattern
  | .reading levels => { pattern with classes := levels }
  | .closed depth => ({ pattern with classes := [] } : Pattern).add depth

/-- Repeat the last item as often as one likes; a question mark behind the sign
belongs to it. -/
def Pattern.repeated (pattern : Pattern) (rest : List Char) :
    Option (Pattern × List Char) :=
  match pattern.branch.repeat? with
  | none => none
  | some branch =>
      match rest with
      | '?' :: rest => some ({ pattern with branch }, rest)
      | rest => some ({ pattern with branch }, rest)

/-- Read a single character. -/
def Pattern.piece (pattern : Pattern) (char : Char) (rest : List Char) :
    Option (Pattern × List Char) :=
  match PatternPiece.scan pattern.mode char rest with
  | none => none
  | some (piece, rest) =>
      if piece.allowed pattern.mode then some (pattern.add 0, rest) else none

/-- Read on outside of classes. -/
def Pattern.readOn (pattern : Pattern) (char : Char) (rest : List Char) :
    Option (Pattern × List Char) :=
  match char with
  | '(' => pattern.group rest
  | ')' => pattern.leave?.map fun pattern => (pattern, rest)
  | '|' => some ({ pattern with branch := pattern.branch.next }, rest)
  | '[' =>
      (PatternBrackets.enter pattern.mode [] rest).map fun (brackets, rest) =>
        (pattern.ofBrackets brackets, rest)
  | '?' | '*' | '+' => pattern.repeated rest
  | '\x7b' => none
  | '.' => if pattern.mode.bytes then none else some (pattern.add 0, rest)
  | '^' | '$' => some (pattern.add 0, rest)
  | _ => pattern.piece char rest

def Pattern.step (pattern : Pattern) (char : Char) (rest : List Char) :
    Option (Pattern × List Char) :=
  match pattern.classes with
  | [] => pattern.readOn char rest
  | level :: levels =>
      (PatternBrackets.step pattern.mode level levels char rest).map
        fun (brackets, rest) => (pattern.ofBrackets brackets, rest)

theorem Pattern.enterNamed_length {pattern result : Pattern} {chars left : List Char}
    (h : pattern.enterNamed chars = some (result, left)) :
    left.length ≤ chars.length := by
  have hdropped := chars.length_drop (i := (chars.takeWhile (· ≠ '>')).length)
  unfold Pattern.enterNamed at h
  dsimp only at h
  split at h
  · cases h
  · rename_i mark rest hdrop
    rw [hdrop, List.length_cons] at hdropped
    split at h
    · obtain ⟨-, rfl⟩ := Prod.mk.inj (Option.some.inj h)
      omega
    · cases h

theorem Pattern.switch_length {pattern result : Pattern} {chars left : List Char}
    (h : pattern.switch chars = some (result, left)) : left.length ≤ chars.length := by
  have hdropped := chars.length_drop
    (i := (chars.takeWhile fun char => char ≠ ':' && char ≠ ')').length)
  unfold Pattern.switch at h
  dsimp only at h
  split at h
  · split at h
    · rename_i rest hdrop
      rw [hdrop, List.length_cons] at hdropped
      obtain ⟨-, rfl⟩ := Prod.mk.inj (Option.some.inj h)
      omega
    · rename_i rest hdrop
      rw [hdrop, List.length_cons] at hdropped
      split at h
      · cases h
      · obtain ⟨-, rfl⟩ := Prod.mk.inj (Option.some.inj h)
        omega
    · cases h
  · cases h

theorem Pattern.group_length {pattern result : Pattern} {chars left : List Char}
    (h : pattern.group chars = some (result, left)) : left.length ≤ chars.length := by
  have hskipped := pattern.mode.skip_length chars
  unfold Pattern.group at h
  split at h
  · rename_i rest hskip
    have hentered := Pattern.enterNamed_length h
    simp only [hskip, List.length_cons] at hskipped
    omega
  · rename_i rest hskip
    have hentered := Pattern.enterNamed_length h
    simp only [hskip, List.length_cons] at hskipped
    omega
  · rename_i rest _ _ hskip
    have hswitched := Pattern.switch_length h
    simp only [hskip, List.length_cons] at hskipped
    omega
  · obtain ⟨-, rfl⟩ := Prod.mk.inj (Option.some.inj h)
    exact hskipped

theorem Pattern.repeated_length {pattern result : Pattern} {rest left : List Char}
    (h : pattern.repeated rest = some (result, left)) : left.length ≤ rest.length := by
  unfold Pattern.repeated at h
  split at h
  · cases h
  · split at h
    · obtain ⟨-, rfl⟩ := Prod.mk.inj (Option.some.inj h)
      exact Nat.le_succ _
    · obtain ⟨-, rfl⟩ := Prod.mk.inj (Option.some.inj h)
      exact Nat.le_refl _

theorem Pattern.piece_length {pattern result : Pattern} {char : Char}
    {rest left : List Char} (h : pattern.piece char rest = some (result, left)) :
    left.length ≤ rest.length := by
  unfold Pattern.piece at h
  split at h
  · cases h
  · rename_i piece after hscan
    split at h
    · obtain ⟨-, rfl⟩ := Prod.mk.inj (Option.some.inj h)
      exact PatternPiece.scan_length hscan
    · cases h

theorem Pattern.readOn_length {pattern result : Pattern} {char : Char}
    {rest left : List Char} (h : pattern.readOn char rest = some (result, left)) :
    left.length ≤ rest.length := by
  unfold Pattern.readOn at h
  split at h
  case h_1 => exact Pattern.group_length h
  case h_2 =>
    obtain ⟨pattern, -, hpair⟩ := Option.map_eq_some_iff.mp h
    obtain ⟨-, rfl⟩ := Prod.mk.inj hpair
    exact Nat.le_refl _
  case h_4 =>
    obtain ⟨brackets, henter, hpair⟩ := Option.map_eq_some_iff.mp h
    obtain ⟨-, rfl⟩ := Prod.mk.inj hpair
    exact PatternBrackets.enter_length henter
  case h_5 => exact Pattern.repeated_length h
  case h_6 => exact Pattern.repeated_length h
  case h_7 => exact Pattern.repeated_length h
  case h_8 => cases h
  case h_9 =>
    split at h
    · cases h
    · obtain ⟨-, rfl⟩ := Prod.mk.inj (Option.some.inj h)
      exact Nat.le_refl _
  case h_12 => exact Pattern.piece_length h
  all_goals
    obtain ⟨-, rfl⟩ := Prod.mk.inj (Option.some.inj h)
    exact Nat.le_refl _

theorem Pattern.step_length {pattern result : Pattern} {char : Char}
    {rest left : List Char} (h : pattern.step char rest = some (result, left)) :
    left.length ≤ rest.length := by
  unfold Pattern.step at h
  split at h
  · exact Pattern.readOn_length h
  · obtain ⟨brackets, hstep, hpair⟩ := Option.map_eq_some_iff.mp h
    obtain ⟨-, rfl⟩ := Prod.mk.inj hpair
    exact PatternBrackets.step_length hstep

def Pattern.read (pattern : Pattern) (chars : List Char) : Option Pattern :=
  match _hskip : pattern.mode.skip chars with
  | [] => some pattern
  | char :: rest =>
      match _hstep : pattern.step char rest with
      | none => none
      | some (further, left) => further.read left
termination_by chars.length
decreasing_by
  have hskipped := pattern.mode.skip_length chars
  have hleft := Pattern.step_length _hstep
  rw [_hskip, List.length_cons] at hskipped
  omega

/-- The greatest depth of a pattern. -/
def Pattern.maxDepth : Nat :=
  250

/-- Whether a pattern is over: every class and every group is closed. -/
def Pattern.isComplete (pattern : Pattern) : Bool :=
  pattern.classes.isEmpty && pattern.outer.isEmpty &&
    pattern.branch.total ≤ Pattern.maxDepth

/-- Whether a text is a pattern. -/
def isPattern (text : String) : Bool :=
  (Pattern.begun.read text.toList).any Pattern.isComplete

end CommandRegistry
