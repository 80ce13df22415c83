/-
The trees of JSON texts.  Wherever a value may stand, the characters of a value are read
as one tree without faults; of an array or an object the tree has the items or the members
in their order, whatever blanks stand between them.
-/
import CommandRegistry.Proofs.JsonLiterals
import CommandRegistry.Snapshot.Reader

namespace CommandRegistry

variable {α κ : Type} {char : Char} {chars rest : List Char} {parts : List (List Char)}
  {text : String} {frames outer : List Frame} {expected : Expected} {tree : Tree}

/-- The expectations that any value meets. -/
def Expected.Open (expected : Expected) : Prop :=
  expected = .value ∨ expected = .firstItem

/-- Where a value may stand the characters are read as this tree, and no more of the
text is. -/
def Tree.WrittenAs (tree : Tree) (chars : List Char) : Prop :=
  ∀ (frames : List Frame) (expected : Expected) (rest : List Char), expected.Open →
    NumberToken.Ends rest →
    Tree.grow frames expected (Token.ofChars (chars ++ rest)) =
      Tree.grow frames (.after tree) (Token.ofChars rest)

/-- A value that is over by itself, whatever follows. -/
def Tree.ClosedAs (tree : Tree) (chars : List Char) : Prop :=
  ∀ (frames : List Frame) (expected : Expected) (rest : List Char), expected.Open →
    Tree.grow frames expected (Token.ofChars (chars ++ rest)) =
      Tree.grow frames (.after tree) (Token.ofChars rest)

theorem Tree.ClosedAs.writtenAs (hclosed : tree.ClosedAs chars) : tree.WrittenAs chars :=
  fun frames expected rest hopen _ => hclosed frames expected rest hopen

theorem Tree.ClosedAs.ofTokens {before : List Char} (hclosed : tree.ClosedAs chars)
    (hbefore : Json.Blanks before) (rest : List Char) :
    Tree.ofTokens (Token.ofChars (before ++ (chars ++ rest))) = (tree, Token.ofChars rest) := by
  rw [Token.ofChars_blanks hbefore, Tree.ofTokens, hclosed [] .value rest (.inl rfl), Tree.grow]

theorem Tree.grow_next {token : Token} {after : List Frame} {next : Expected}
    (hnext : Growth.ofToken frames expected token = .next after next) (tokens : List Token) :
    Tree.grow frames expected (token :: tokens) = Tree.grow after next tokens := by
  conv_lhs => unfold Tree.grow
  split
  · simp [Growth.ofToken] at hnext
  · contradiction
  · rename_i heq
    obtain ⟨rfl, rfl⟩ := List.cons.inj heq
    rw [hnext]

theorem Growth.ofToken_of_open {token : Token} (hopen : expected.Open)
    (htoken : token ≠ .endArray) :
    Growth.ofToken frames expected token = Growth.ofValue frames token := by
  unfold Growth.ofToken
  rcases hopen with rfl | rfl <;> split <;> simp_all

theorem Tree.grow_mark {token : Token} (htoken : punctuation? char = some token)
    (hblank : isBlank char = false) {after : List Frame} {next : Expected}
    (hnext : Growth.ofToken frames expected token = .next after next) (rest : List Char) :
    Tree.grow frames expected (Token.ofChars (char :: rest)) =
      Tree.grow after next (Token.ofChars rest) := by
  rw [Token.ofChars_punctuation htoken hblank]
  exact Tree.grow_next hnext _

/-- A value of one token. -/
theorem Tree.writtenAs_of_token (token : Token) (htoken : token ≠ .endArray)
    (hvalue : ∀ frames, Growth.ofValue frames token = .next frames (.after tree))
    (hchars : ∀ rest, NumberToken.Ends rest →
      Token.ofChars (chars ++ rest) = token :: Token.ofChars rest) :
    tree.WrittenAs chars := by
  intro frames expected rest hopen hends
  rw [hchars rest hends]
  exact Tree.grow_next ((Growth.ofToken_of_open hopen htoken).trans (hvalue frames)) _

theorem StringToken.WrittenAs.string {token : StringToken} (htoken : token.WrittenAs chars) :
    (Tree.string token).WrittenAs chars :=
  Tree.writtenAs_of_token (.string token) (by simp) (fun _ => rfl)
    fun rest _ => htoken rest

/-- A container of a text: how it is begun, how it goes on after each of its parts, and
how it is ended. -/
structure Container (α : Type) where
  hold : List α → Frame
  first : Expected
  again : Expected
  close : List α → Tree
  opening : Char
  closing : Char
  begin : ∀ (frames : List Frame) (expected : Expected) (rest : List Char), expected.Open →
    Tree.grow frames expected (Token.ofChars (opening :: rest)) =
      Tree.grow (hold [] :: frames) first (Token.ofChars rest)
  none : ∀ (outer : List Frame) (rest : List Char),
    Tree.grow (hold [] :: outer) first (Token.ofChars (closing :: rest)) =
      Tree.grow outer (.after (close [])) (Token.ofChars rest)
  more : ∀ (outer : List Frame) (frame : Frame) (value : Tree) (done : List α)
    (rest : List Char), frame.add value = hold done →
    Tree.grow (frame :: outer) (.after value) (Token.ofChars (',' :: rest)) =
      Tree.grow (hold done :: outer) again (Token.ofChars rest)
  finish : ∀ (outer : List Frame) (frame : Frame) (value : Tree) (done : List α)
    (rest : List Char), frame.add value = hold done →
    Tree.grow (frame :: outer) (.after value) (Token.ofChars (closing :: rest)) =
      Tree.grow outer (.after (close done.reverse)) (Token.ofChars rest)
  ends : ∀ rest : List Char, NumberToken.Ends (closing :: rest)

def Container.array : Container Tree where
  hold := .items
  first := .firstItem
  again := .value
  close items := .array items .closed
  opening := '['
  closing := ']'
  begin _ _ _ hopen := Tree.grow_mark rfl rfl (Growth.ofToken_of_open hopen (by simp)) _
  none _ _ := Tree.grow_mark rfl rfl rfl _
  more _ _ _ _ _ hheld := Tree.grow_mark rfl rfl (by rw [Growth.ofToken, hheld]; rfl) _
  finish _ _ _ _ _ hheld := Tree.grow_mark rfl rfl (by rw [Growth.ofToken, hheld]; rfl) _
  ends _ := NumberToken.ends_cons (by decide)

def Container.object : Container (StringToken × Tree) where
  hold := .members
  first := .firstKey
  again := .key
  close members := .object members .closed
  opening := '\x7b'
  closing := '\x7d'
  begin _ _ _ hopen := Tree.grow_mark rfl rfl (Growth.ofToken_of_open hopen (by simp)) _
  none _ _ := Tree.grow_mark rfl rfl rfl _
  more _ _ _ _ _ hheld := Tree.grow_mark rfl rfl (by rw [Growth.ofToken, hheld]; rfl) _
  finish _ _ _ _ _ hheld := Tree.grow_mark rfl rfl (by rw [Growth.ofToken, hheld]; rfl) _
  ends _ := NumberToken.ends_cons (by decide)

/-- Characters that are read as one part of a container. -/
def Container.Part (container : Container α) (part : α) (chars : List Char) : Prop :=
  ∀ (done : List α) (outer : List Frame) (expected : Expected) (rest : List Char),
    expected = container.first ∨ expected = container.again → NumberToken.Ends rest →
    ∃ frame value, frame.add value = container.hold (part :: done) ∧
      Tree.grow (container.hold done :: outer) expected (Token.ofChars (chars ++ rest)) =
        Tree.grow (frame :: outer) (.after value) (Token.ofChars rest)

/-- The parts up to the closing bracket are held one after another, whatever is held
already. -/
theorem Container.grow_separated (container : Container α) {inside : List Char}
    (hinside : Json.Separated parts inside) {held : List α}
    (hparts : List.Forall₂ container.Part held parts) (done : List α)
    (hexpected : expected = container.first ∨ expected = container.again) :
    Tree.grow (container.hold done :: outer) expected
        (Token.ofChars (inside ++ container.closing :: rest)) =
      Tree.grow outer (.after (container.close (done.reverse ++ held)))
        (Token.ofChars rest) := by
  induction hinside generalizing held done expected with
  | @last before part after hbefore hafter =>
      obtain ⟨first, _, hpart, hnil, rfl⟩ := List.forall₂_cons_right_iff.1 hparts
      rw [List.forall₂_nil_right_iff] at hnil
      subst hnil
      have hends : NumberToken.Ends (after ++ container.closing :: rest) :=
        NumberToken.ends_blanks hafter (container.ends rest)
      obtain ⟨frame, value, hheld, hgrow⟩ := hpart done outer expected _ hexpected hends
      rw [List.append_assoc, List.append_assoc, Token.ofChars_blanks hbefore, hgrow,
        Token.ofChars_blanks hafter, container.finish outer frame value _ rest hheld,
        List.reverse_cons]
  | @cons before part after parts inside hbefore hafter _ ih =>
      obtain ⟨first, held, hpart, hheld, rfl⟩ := List.forall₂_cons_right_iff.1 hparts
      have hends : NumberToken.Ends (after ++ ',' :: (inside ++ container.closing :: rest)) :=
        NumberToken.ends_blanks hafter (NumberToken.ends_cons (by decide))
      obtain ⟨frame, value, hadd, hgrow⟩ := hpart done outer expected _ hexpected hends
      simp only [List.append_assoc, List.cons_append]
      rw [Token.ofChars_blanks hbefore, hgrow, Token.ofChars_blanks hafter,
        container.more outer frame value _ _ hadd, ih hheld _ (.inr rfl), List.reverse_cons,
        List.append_assoc, List.singleton_append]

/-- A container is over with its closing bracket. -/
theorem Container.closedAs (container : Container α) {held : List α}
    (hparts : List.Forall₂ container.Part held parts)
    (henclosed : Json.Enclosed container.opening container.closing parts chars) :
    (container.close held).ClosedAs chars := by
  intro frames expected rest hopen
  cases henclosed with
  | empty hblanks =>
      rw [List.forall₂_nil_right_iff] at hparts
      subst hparts
      rw [List.cons_append, List.append_assoc, container.begin frames expected _ hopen,
        Token.ofChars_blanks hblanks]
      exact container.none frames rest
  | parts hinside =>
      rw [List.cons_append, List.append_assoc, container.begin frames expected _ hopen]
      exact container.grow_separated hinside hparts [] (.inl rfl)

theorem Container.part_item (htree : tree.WrittenAs chars) :
    Container.array.Part tree chars := by
  intro done outer expected rest hexpected hends
  exact ⟨.items done, tree, rfl, htree _ expected rest hexpected.symm hends⟩

theorem Container.part_member {token : StringToken} {key before after value : List Char}
    (hkey : token.WrittenAs key) (htree : tree.WrittenAs value)
    (hbefore : Json.Blanks before) (hafter : Json.Blanks after) :
    Container.object.Part (token, tree) (key ++ (before ++ ':' :: (after ++ value))) := by
  intro done outer expected rest hexpected hends
  refine ⟨.member done token, tree, rfl, ?_⟩
  have htoken : Growth.ofToken (Container.object.hold done :: outer) expected
      (.string token) = .next (.member done token :: outer) .colon := by
    rcases hexpected with rfl | rfl
    · cases done <;> rfl
    · rfl
  simp only [List.append_assoc, List.cons_append]
  rw [hkey, Tree.grow_next htoken, Token.ofChars_blanks hbefore, Tree.grow_mark rfl rfl rfl,
    Token.ofChars_blanks hafter]
  exact htree _ .value rest (.inl rfl) hends

/-- An array is read as its items are, whatever is known of their trees. -/
theorem Json.ArrayText.exists_tree {P : α → Tree → Prop} {values : List α}
    {items : List (List Char)} (harray : Json.ArrayText items chars)
    (hitems : List.Forall₂ (fun value item => ∃ tree : Tree, P value tree ∧ tree.WrittenAs item)
      values items) :
    ∃ trees, List.Forall₂ P values trees ∧ (Tree.array trees .closed).ClosedAs chars := by
  obtain ⟨trees, hvalues, hwritten⟩ := exists_forall₂ hitems
  exact ⟨trees, hvalues,
    Container.array.closedAs (hwritten.imp fun _ _ => Container.part_item) harray⟩

/-- An object is read as its members are, whatever is known of their keys and values. -/
theorem Json.ObjectText.exists_tree {Key : κ → List Char → Prop}
    {P : κ × List Char → StringToken × Tree → Prop} {members : List (κ × List Char)}
    (hobject : Json.ObjectText Key members chars)
    (hmembers : ∀ member ∈ members, ∀ key, Key member.1 key →
      ∃ token tree, P member (token, tree) ∧ token.WrittenAs key ∧ tree.WrittenAs member.2) :
    ∃ held, List.Forall₂ P members held ∧ (Tree.object held .closed).ClosedAs chars := by
  obtain ⟨parts, hparts, henclosed⟩ := hobject
  have hheld : List.Forall₂ (fun member part => ∃ held, P member held ∧
      Container.object.Part held part) members parts := by
    refine ((List.forall₂_and_left members parts).2 ⟨hmembers, hparts⟩).imp ?_
    rintro _ _ ⟨hmember, ⟨hkey, hbefore, hafter⟩⟩
    obtain ⟨token, tree, hknown, htoken, htree⟩ := hmember _ hkey
    exact ⟨(token, tree), hknown, Container.part_member htoken htree hbefore hafter⟩
  obtain ⟨held, hmembers, hwritten⟩ := exists_forall₂ hheld
  exact ⟨held, hmembers, Container.object.closedAs hwritten henclosed⟩

theorem Json.word_exists_tree
    (hword : chars ∈ [['n', 'u', 'l', 'l'], ['t', 'r', 'u', 'e'], ['f', 'a', 'l', 's', 'e']]) :
    ∃ tree : Tree, tree.check = .ok () ∧ tree.WrittenAs chars := by
  obtain rfl | rfl | rfl : chars = ['n', 'u', 'l', 'l'] ∨ chars = ['t', 'r', 'u', 'e'] ∨
      chars = ['f', 'a', 'l', 's', 'e'] := by simpa using hword
  · exact ⟨.null, rfl, Tree.writtenAs_of_token .null (by simp) (fun _ => rfl)
      fun _ _ => Token.ofChars_scan rfl rfl⟩
  · exact ⟨.bool true, rfl, Tree.writtenAs_of_token (.bool true) (by simp)
      (fun _ => rfl) fun _ _ => Token.ofChars_scan rfl rfl⟩
  · exact ⟨.bool false, rfl, Tree.writtenAs_of_token (.bool false) (by simp)
      (fun _ => rfl) fun _ _ => Token.ofChars_scan rfl rfl⟩

theorem Tree.check_array {values : List α} {items : List Tree}
    (hitems : List.Forall₂ (fun _ item => item.check = .ok ()) values items) :
    (Tree.array items .closed).check = .ok () := by
  have hchecks : Tree.checkItems items = .ok () := by
    induction hitems with
    | nil => rfl
    | cons hitem _ ih =>
        rw [Tree.checkItems, hitem]
        exact ih
  rw [Tree.check, hchecks]
  rfl

theorem Tree.check_object {values : List α} {members : List (StringToken × Tree)}
    (hmembers : List.Forall₂ (fun _ member => member.1.check = .ok () ∧
      member.2.check = .ok ()) values members) :
    (Tree.object members .closed).check = .ok () := by
  have hchecks : Tree.checkMembers members = .ok () := by
    induction hmembers with
    | nil => rfl
    | cons hmember _ ih =>
        rw [Tree.checkMembers, hmember.1, hmember.2]
        exact ih
  rw [Tree.check, hchecks]
  rfl

/-- Every value is read to its end, and no fault is found in it: those inside an array or an
object are read by induction on how the value is built. -/
theorem Json.ValueText.exists_tree (hvalue : Json.ValueText chars) :
    ∃ tree : Tree, tree.check = .ok () ∧ tree.WrittenAs chars := by
  induction hvalue with
  | word hword => exact Json.word_exists_tree hword
  | number hnumber =>
      obtain ⟨token, htoken⟩ := hnumber.exists_token
      exact ⟨.number (.ok token), rfl, Tree.writtenAs_of_token _ (by simp) (fun _ => rfl) htoken⟩
  | string hliteral =>
      obtain ⟨token, htoken, hcheck⟩ := hliteral.exists_token
      exact ⟨.string token, hcheck, htoken.string⟩
  | array harray _ ih =>
      obtain ⟨trees, hchecks, hwritten⟩ := harray.exists_tree (List.forall₂_same.2 ih)
      exact ⟨_, Tree.check_array hchecks, hwritten.writtenAs⟩
  | object hobject _ ih =>
      obtain ⟨held, hchecks, hwritten⟩ := hobject.exists_tree
        (P := fun _ held => held.1.check = .ok () ∧ held.2.check = .ok ()) (by
          intro member hmember key hkey
          obtain ⟨token, htoken, hcheck⟩ := hkey.exists_token
          obtain ⟨tree, hchecked, htree⟩ := ih member hmember
          exact ⟨token, tree, ⟨hcheck, hchecked⟩, htoken, htree⟩)
      exact ⟨_, Tree.check_object hchecks, hwritten.writtenAs⟩

/-- The tree of a word of 64 bits. -/
def Tree.ofNatural (value : UInt64) : Tree :=
  .number (.ok (NumberToken.written value))

theorem Tree.natural_ofNatural (value : UInt64) : (Tree.ofNatural value).natural = .ok value := by
  simp [Tree.ofNatural, Tree.natural, Tree.numberValue, NumberToken.value?_written]

theorem Tree.writtenAs_naturalDigits (value : UInt64) :
    (Tree.ofNatural value).WrittenAs (naturalDigits value) :=
  Tree.writtenAs_of_token _ (by simp) (fun _ => rfl)
    fun _ hends => Token.ofChars_naturalDigits value hends

theorem Json.StringText.exists_tree (hstring : Json.StringText text chars) :
    ∃ tree : Tree, tree.text = .ok text ∧ tree.WrittenAs chars := by
  obtain ⟨token, htoken, htext⟩ := hstring.exists_token
  exact ⟨.string token, by simp [Tree.text, htext], htoken.string⟩

/-- A member that was read has this key, and this is known of its value. -/
def Json.MemberRead (P : String × List Char → Tree → Prop) (member : String × List Char)
    (held : StringToken × Tree) : Prop :=
  held.1.text = .ok member.1 ∧ P member held.2

variable {P : String × List Char → Tree → Prop} {members : List (String × List Char)}

theorem Json.ObjectOf.exists_tree (hobject : Json.ObjectOf members chars)
    (hmembers : ∀ member ∈ members, Json.ValueText member.2 →
      ∃ tree : Tree, P member tree ∧ tree.WrittenAs member.2) :
    ∃ held, List.Forall₂ (Json.MemberRead P) members held ∧
      (Tree.object held .closed).ClosedAs chars := by
  apply hobject.written.exists_tree
  intro member hmember key hkey
  obtain ⟨token, htoken, htext⟩ := hkey.exists_token
  obtain ⟨tree, hknown, htree⟩ := hmembers member hmember (hobject.values member hmember)
  exact ⟨token, tree, ⟨htext, hknown⟩, htoken, htree⟩

/-- A whole text is read as its object, and nothing is left of it. -/
theorem Json.WholeObject.exists_tree (hwhole : Json.WholeObject members text)
    (hmembers : ∀ member ∈ members, Json.ValueText member.2 →
      ∃ tree : Tree, P member tree ∧ tree.WrittenAs member.2) :
    ∃ held, List.Forall₂ (Json.MemberRead P) members held ∧
      Tree.ofTokens (Token.ofChars text.toList) = (.object held .closed, []) := by
  cases hwhole with
  | @surrounded before chars after hbefore hafter hobject htext =>
      obtain ⟨held, hheld, hclosed⟩ := hobject.exists_tree hmembers
      have hrest : Token.ofChars after = [] := by
        rw [← after.append_nil, Token.ofChars_blanks hafter, Token.ofChars]
      refine ⟨held, hheld, ?_⟩
      rw [htext, hclosed.ofTokens hbefore, hrest]

end CommandRegistry
