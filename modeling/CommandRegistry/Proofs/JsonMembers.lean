/-
The members of an object.  They are known by their look-ups alone: two lists with
increasing keys and equal look-ups are one list.
-/
import CommandRegistry.Index
import CommandRegistry.Json
import Mathlib.Data.List.Sort
import Mathlib.Data.String.Basic

namespace CommandRegistry

variable {members others : List (String × Json)} {key : String} {value : Json}

theorem Json.lookup_insertMember (key : String) (value : Json)
    (members : List (String × Json)) (asked : String) :
    (Json.insertMember key value members).lookup asked =
      if asked = key then some value else members.lookup asked := by
  induction members with
  | nil => exact lookup_cons (key, value) [] asked
  | cons member rest ih =>
      unfold Json.insertMember
      by_cases hless : key < member.1
      · rw [if_pos hless, lookup_cons]
      · rw [if_neg hless]
        by_cases hsame : key = member.1
        · rw [if_pos hsame, lookup_cons, lookup_cons, ← hsame]
          split_ifs <;> rfl
        · rw [if_neg hsame, lookup_cons, lookup_cons, ih]
          by_cases hasked : asked = member.1
          · have hne : asked ≠ key := by
              rintro rfl
              exact hsame hasked
            simp only [hasked, if_true, if_neg (hasked ▸ hne)]
          · simp only [if_neg hasked]

theorem Json.mem_insertMember {member : String × Json}
    (hmem : member ∈ Json.insertMember key value members) :
    member = (key, value) ∨ member ∈ members := by
  induction members with
  | nil => exact .inl (List.mem_singleton.1 hmem)
  | cons first rest ih =>
      unfold Json.insertMember at hmem
      split_ifs at hmem with hless hsame
      · exact List.mem_cons.1 hmem
      · rcases List.mem_cons.1 hmem with hmem | hmem
        · exact .inl hmem
        · exact .inr (List.mem_cons_of_mem first hmem)
      · rcases List.mem_cons.1 hmem with hmem | hmem
        · exact .inr (hmem ▸ List.mem_cons_self)
        · exact (ih hmem).imp_right (List.mem_cons_of_mem first)

theorem Json.keysIncrease_iff :
    Json.KeysIncrease members ↔ members.Pairwise fun left right => left.1 < right.1 :=
  List.pairwise_map

theorem Json.KeysIncrease.insertMember (hkeys : Json.KeysIncrease members) :
    Json.KeysIncrease (Json.insertMember key value members) := by
  rw [Json.keysIncrease_iff] at hkeys ⊢
  induction members with
  | nil => exact List.pairwise_singleton _ _
  | cons first rest ih =>
      obtain ⟨hfirst, hrest⟩ := List.pairwise_cons.1 hkeys
      unfold Json.insertMember
      split_ifs with hless hsame
      · refine List.pairwise_cons.2 ⟨?_, hkeys⟩
        intro member hmem
        rcases List.mem_cons.1 hmem with rfl | hmem
        · exact hless
        · exact hless.trans (hfirst member hmem)
      · refine List.pairwise_cons.2 ⟨?_, hrest⟩
        intro member hmem
        exact hsame ▸ hfirst member hmem
      · refine List.pairwise_cons.2 ⟨?_, ih hrest⟩
        intro member hmem
        rcases Json.mem_insertMember hmem with rfl | hmem
        · exact lt_of_le_of_ne (not_lt.1 hless) (Ne.symm hsame)
        · exact hfirst member hmem

theorem Json.lookup_foldl_insertMember (members sorted : List (String × Json))
    (asked : String) :
    (members.foldl (fun sorted member => Json.insertMember member.1 member.2 sorted)
        sorted).lookup asked =
      (members.reverse.lookup asked).or (sorted.lookup asked) := by
  induction members generalizing sorted with
  | nil => rfl
  | cons member rest ih =>
      rw [List.foldl_cons, ih, Json.lookup_insertMember, List.reverse_cons,
        List.lookup_append, lookup_cons, Option.or_assoc]
      split_ifs <;> rfl

/-- Of two members with one key the later one is found. -/
theorem Json.member?_ofMembers (members : List (String × Json)) (key : String) :
    (Json.ofMembers members).member? key = members.reverse.lookup key := by
  simp only [Json.ofMembers, Json.member?, Json.lookup_foldl_insertMember, List.lookup_nil,
    Option.or_none]

theorem Json.exists_ofMembers (members : List (String × Json)) :
    ∃ sorted, Json.ofMembers members = .object sorted ∧ Json.KeysIncrease sorted := by
  refine ⟨_, rfl, ?_⟩
  refine List.foldlRecOn members _ List.Pairwise.nil ?_
  intro sorted hsorted member _
  exact hsorted.insertMember

theorem Json.mem_of_lookup (hlookup : members.lookup key = some value) :
    (key, value) ∈ members := by
  obtain ⟨before, after, hsplit, _⟩ := List.lookup_eq_some_iff.1 hlookup
  rw [hsplit]
  exact List.mem_append_right before List.mem_cons_self

/-- Where no key stands twice, every member is found. -/
theorem Json.lookup_eq_some_iff (hkeys : (members.map Prod.fst).Nodup) :
    members.lookup key = some value ↔ (key, value) ∈ members := by
  refine ⟨Json.mem_of_lookup, fun hmem => ?_⟩
  induction members with
  | nil => cases hmem
  | cons first rest ih =>
      obtain ⟨hfirst, hrest⟩ := List.nodup_cons.1 hkeys
      rw [lookup_cons]
      rcases List.mem_cons.1 hmem with rfl | hmem
      · exact if_pos rfl
      · have hkey : key ∈ rest.map Prod.fst := List.mem_map.2 ⟨_, hmem, rfl⟩
        rw [if_neg (ne_of_mem_of_not_mem hkey hfirst)]
        exact ih hrest hmem

theorem Json.lookup_reverse_eq_some_iff (hkeys : (members.map Prod.fst).Nodup) :
    members.reverse.lookup key = some value ↔ (key, value) ∈ members := by
  have hreversed : (members.reverse.map Prod.fst).Nodup := by
    rw [List.map_reverse, List.nodup_reverse]
    exact hkeys
  rw [Json.lookup_eq_some_iff hreversed, List.mem_reverse]

theorem Json.KeysIncrease.lookup_eq_some_iff (hkeys : Json.KeysIncrease members) :
    members.lookup key = some value ↔ (key, value) ∈ members :=
  Json.lookup_eq_some_iff (hkeys.imp ne_of_lt)

/-- Members that were all taken from one source are found as the source has them. -/
theorem Json.lookup_of_source (source : String → Option Json)
    (hsource : ∀ member ∈ members, source member.1 = some member.2) (key : String) :
    members.lookup key = if key ∈ members.map Prod.fst then source key else none := by
  induction members with
  | nil => rfl
  | cons first rest ih =>
      have hfirst := hsource first List.mem_cons_self
      have hrest := ih fun member hmem => hsource member (List.mem_cons_of_mem first hmem)
      rw [lookup_cons, hrest, List.map_cons]
      by_cases hkey : key = first.1
      · simp only [hkey, if_true, List.mem_cons, true_or, hfirst]
      · simp only [hkey, if_false, List.mem_cons, false_or]

theorem Json.KeysIncrease.ext (hmembers : Json.KeysIncrease members)
    (hothers : Json.KeysIncrease others)
    (hlookup : ∀ key, members.lookup key = others.lookup key) : members = others := by
  have hirrefl : Std.Irrefl fun left right : String × Json => left.1 < right.1 :=
    ⟨fun member => lt_irrefl member.1⟩
  refine List.Pairwise.eq_of_mem_iff (Json.keysIncrease_iff.1 hmembers)
    (Json.keysIncrease_iff.1 hothers) ?_
  rintro ⟨key, value⟩
  rw [← hmembers.lookup_eq_some_iff, ← hothers.lookup_eq_some_iff, hlookup]

end CommandRegistry
