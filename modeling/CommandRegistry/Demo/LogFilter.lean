/-
Which log entries a program shows.  A filter is a list of rules, one for each
directive that is about entries.
-/
import CommandRegistry.Demo.LogDirective

namespace CommandRegistry

/-- A message of a program's log, the source it comes from, and its values. -/
structure LogEntry where
  source : String
  level : LogLevel
  message : String
  fields : List (String × String)
deriving Repr, DecidableEq

def LogEntry.line (entry : LogEntry) : String :=
  entry.level.word ++ " " ++ messageText entry.message entry.fields

/-- The message counts as a field of its own. -/
def LogEntry.hasField (entry : LogEntry) (name : String) : Bool :=
  name = "message" || entry.fields.any fun field => field.1 = name

/-- Show the entries of matching sources, or those of them with a field, up to a
rank. -/
structure LogRule where
  source : String
  field : Option String
  rank : Nat
deriving Repr, DecidableEq

abbrev LogFilter := List LogRule

/-- What a directive says about entries.  Entries belong to no span, and their
values are not looked at. -/
def LogDirective.rule? (directive : LogDirective) : Option LogRule :=
  match directive.scope with
  | none => some ⟨directive.source, none, directive.rank⟩
  | some scope =>
      match scope.span, scope.field with
      | none, some ⟨name, false⟩ => some ⟨directive.source, some name, directive.rank⟩
      | _, _ => none

/-- Without any directive only errors are shown. -/
def LogFilter.ofText (text : String) : Option LogFilter :=
  match (text.splitOn ",").filter (· ≠ "") with
  | [] => some [⟨"", none, LogLevel.error.rank⟩]
  | parts => (parts.mapM LogDirective.ofText).map (List.filterMap LogDirective.rule?)

/-- A filter that cannot be read counts as none, and without one the entries
from `info` on are shown. -/
def LogFilter.ofSetting (setting : Option String) : LogFilter :=
  (setting.bind LogFilter.ofText).getD [⟨"", none, LogLevel.info.rank⟩]

def LogRule.covers (rule : LogRule) (entry : LogEntry) : Bool :=
  entry.source.startsWith rule.source && rule.field.all entry.hasField

/-- Of two rules the one with the longer source is the closer one, then one with
a field, then the one whose field has the greater name. -/
def LogRule.asClose (rule other : LogRule) : Bool :=
  if rule.source.length ≠ other.source.length then
    decide (other.source.length < rule.source.length)
  else
    match other.field, rule.field with
    | none, _ => true
    | some _, none => false
    | some name, some own => !decide (own < name)

/-- The rule that decides on an entry: the closest one, and of equal ones the
last. -/
def LogFilter.ruleFor (filter : LogFilter) (entry : LogEntry) : Option LogRule :=
  (filter.filter fun rule => rule.covers entry).foldl
    (fun best rule =>
      match best with
      | none => some rule
      | some other => if rule.asClose other then some rule else some other) none

def LogFilter.shows (filter : LogFilter) (entry : LogEntry) : Bool :=
  match filter.ruleFor entry with
  | none => false
  | some rule => decide (entry.level.rank ≤ rule.rank)

end CommandRegistry
