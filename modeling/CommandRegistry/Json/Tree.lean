/-
The shape of a JSON text.  Every run of tokens has a tree: where the text stops
being JSON the tree holds the fault, so that a reader can walk it from left to
right and report whatever it meets first.
-/
import CommandRegistry.Json.Token

namespace CommandRegistry

/-- How an array or an object ends: by its bracket, or at a fault. -/
inductive Ending where
  | closed
  | broken (cause : TextFault)
deriving Repr, DecidableEq

inductive Tree where
  | null
  | bool (value : Bool)
  | number (written : Except TextFault NumberToken)
  | string (written : StringToken)
  | array (items : List Tree) (ending : Ending)
  | object (members : List (StringToken × Tree)) (ending : Ending)
  | fault (cause : TextFault)

/-- A container whose end has not been reached yet.  What is in it so far stands
in order from the last to the first. -/
inductive Frame where
  | items (done : List Tree)
  | members (done : List (StringToken × Tree))
  | member (done : List (StringToken × Tree)) (key : StringToken)

/-- What the next token has to be. -/
inductive Expected where
  | value
  | firstItem
  | firstKey
  | key
  | colon
  | after (value : Tree)

/-- Put a value where its container waits for it. -/
def Frame.add (value : Tree) : Frame → Frame
  | .items done => .items (value :: done)
  | .members done => .members done
  | .member done key => .members ((key, value) :: done)

def Frame.close (ending : Ending) : Frame → Tree
  | .items done => .array done.reverse ending
  | .members done => .object done.reverse ending
  | .member done _ => .object done.reverse ending

/-- The tree of a text that breaks off after `value`. -/
def Frame.breakOff (cause : TextFault) (value : Tree) (frames : List Frame) : Tree :=
  frames.foldl (fun inner frame => (frame.add inner).close (.broken cause)) value

/-- The tree of a text that breaks off where the innermost container has no
value begun. -/
def Frame.breakOffBetween (cause : TextFault) : List Frame → Tree
  | [] => .fault cause
  | frame :: outer => Frame.breakOff cause (frame.close (.broken cause)) outer

/-- What a text with this fault at this point has become. -/
def Expected.breakOff (frames : List Frame) (cause : TextFault) : Expected → Tree
  | .value | .colon => Frame.breakOff cause (.fault cause) frames
  | .firstItem | .firstKey | .key => Frame.breakOffBetween cause frames
  | .after done => Frame.breakOff cause done frames

/-- Either the text goes on or its tree is known. -/
inductive Growth where
  | next (frames : List Frame) (expected : Expected)
  | stop (tree : Tree)

def Growth.ofValue (frames : List Frame) : Token → Growth
  | .null => .next frames (.after .null)
  | .bool value => .next frames (.after (.bool value))
  | .number written => .next frames (.after (.number written))
  | .string written => .next frames (.after (.string written))
  | .beginArray => .next (.items [] :: frames) .firstItem
  | .beginObject => .next (.members [] :: frames) .firstKey
  | .fault cause => .stop (Expected.value.breakOff frames cause)
  | _ => .stop (Expected.value.breakOff frames .malformed)

def Growth.ofKey : List Frame → Token → Growth
  | .members done :: outer, .string key => .next (.member done key :: outer) .colon
  | frames, _ => .stop (Expected.key.breakOff frames .malformed)

/-- A comma or the bracket that closes the container. -/
def Growth.ofSeparator : List Frame → Token → Growth
  | .items done :: outer, .comma => .next (.items done :: outer) .value
  | .items done :: outer, .endArray => .next outer (.after (.array done.reverse .closed))
  | .members done :: outer, .comma => .next (.members done :: outer) .key
  | .members done :: outer, .endObject =>
      .next outer (.after (.object done.reverse .closed))
  | frames, _ => .stop (Frame.breakOffBetween .malformed frames)

def Growth.ofToken : List Frame → Expected → Token → Growth
  | .items [] :: outer, .firstItem, .endArray => .next outer (.after (.array [] .closed))
  | frames, .firstItem, token | frames, .value, token => Growth.ofValue frames token
  | .members [] :: outer, .firstKey, .endObject =>
      .next outer (.after (.object [] .closed))
  | frames, .firstKey, token | frames, .key, token => Growth.ofKey frames token
  | frames, .colon, .colon => .next frames .value
  | frames, .colon, _ => .stop (Expected.colon.breakOff frames .malformed)
  | frame :: outer, .after value, token =>
      Growth.ofSeparator (frame.add value :: outer) token
  | [], .after value, _ => .stop value

/-- Take in one token after another until the outermost value is complete.  The
tokens after it are left over. -/
def Tree.grow : List Frame → Expected → List Token → Tree × List Token
  | [], .after value, tokens => (value, tokens)
  | frames, expected, [] => (expected.breakOff frames .endOfText, [])
  | frames, expected, token :: rest =>
      match Growth.ofToken frames expected token with
      | .next frames expected => Tree.grow frames expected rest
      | .stop tree => (tree, [])

/-- The tree of a text and the tokens after it. -/
def Tree.ofTokens (tokens : List Token) : Tree × List Token :=
  Tree.grow [] .value tokens

mutual
/-- The number of tokens of a tree that is complete. -/
def Tree.size : Tree → Nat
  | .array [] _ | .object [] _ => 2
  | .array (item :: rest) _ => 1 + Tree.sizeItems (item :: rest)
  | .object (member :: rest) _ => 1 + Tree.sizeMembers (member :: rest)
  | _ => 1

def Tree.sizeItems : List Tree → Nat
  | [] => 0
  | item :: rest => item.size + 1 + Tree.sizeItems rest

def Tree.sizeMembers : List (StringToken × Tree) → Nat
  | [] => 0
  | (_, value) :: rest => value.size + 3 + Tree.sizeMembers rest
end

def Ending.check : Ending → Except TextFault Unit
  | .closed => .ok ()
  | .broken cause => .error cause

mutual
/-- Whether a tree is free of faults.  Neither the range of numbers nor the
pairing of surrogates is looked at, and a cut-off number is malformed. -/
def Tree.check : Tree → Except TextFault Unit
  | .null | .bool _ | .number (.ok _) => .ok ()
  | .number (.error _) => .error .malformed
  | .string written => written.check
  | .array items ending =>
      match Tree.checkItems items with
      | .ok () => ending.check
      | .error cause => .error cause
  | .object members ending =>
      match Tree.checkMembers members with
      | .ok () => ending.check
      | .error cause => .error cause
  | .fault cause => .error cause

def Tree.checkItems : List Tree → Except TextFault Unit
  | [] => .ok ()
  | item :: rest =>
      match item.check with
      | .ok () => Tree.checkItems rest
      | .error cause => .error cause

def Tree.checkMembers : List (StringToken × Tree) → Except TextFault Unit
  | [] => .ok ()
  | (key, value) :: rest =>
      match key.check with
      | .error cause => .error cause
      | .ok () =>
          match value.check with
          | .ok () => Tree.checkMembers rest
          | .error cause => .error cause
end

def Tree.numberValue (written : Except TextFault NumberToken) :
    Except TextFault JsonNumber :=
  match written with
  | .error cause => .error cause
  | .ok token =>
      match token.value? with
      | some value => .ok value
      | none => .error .malformed

mutual
/-- The value of a tree with containers nested below `depth`. -/
def Tree.value (depth : Nat) : Tree → Except TextFault Json
  | .null => .ok .null
  | .bool value => .ok (.bool value)
  | .number written => (Tree.numberValue written).map .number
  | .string written => written.text.map .string
  | .array items ending =>
      if depth ≤ 1 then .error .malformed
      else
        match Tree.itemValues (depth - 1) items with
        | .ok values => ending.check.map fun _ => .array values
        | .error cause => .error cause
  | .object members ending =>
      if depth ≤ 1 then .error .malformed
      else
        match Tree.memberValues (depth - 1) members with
        | .ok values => ending.check.map fun _ => .ofMembers values
        | .error cause => .error cause
  | .fault cause => .error cause

def Tree.itemValues (depth : Nat) : List Tree → Except TextFault (List Json)
  | [] => .ok []
  | item :: rest =>
      match item.value depth with
      | .ok value => (Tree.itemValues depth rest).map (value :: ·)
      | .error cause => .error cause

def Tree.memberValues (depth : Nat) :
    List (StringToken × Tree) → Except TextFault (List (String × Json))
  | [] => .ok []
  | (key, tree) :: rest =>
      match key.text with
      | .error cause => .error cause
      | .ok key =>
          match tree.value depth with
          | .ok value => (Tree.memberValues depth rest).map ((key, value) :: ·)
          | .error cause => .error cause
end

/-- A text may nest 127 arrays and objects. -/
def Json.depthLimit : Nat := 128

/-- The value that a whole text stands for. -/
def Json.ofText (text : String) : Except TextFault Json :=
  match Tree.ofTokens (Token.ofChars text.toList) with
  | (tree, rest) =>
      match tree.value Json.depthLimit with
      | .error cause => .error cause
      | .ok value => if rest.isEmpty then .ok value else .error .malformed

end CommandRegistry
