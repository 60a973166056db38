import WritePolicy.Yaml.Node
import Mathlib.Data.Option.Basic
import Mathlib.Tactic.SplitIfs

/-! # Four calls for each token are enough to read a node

    The readers of nodes call one another, and how deep the calls may go is fixed
    before. Here it is shown that this number never decides: with any greater one the
    node is the same.

    A node takes a token at least, and a part that may be left out takes none
    (`TakesTokens`). Readers that call others on the same tokens need one call more than
    these: the items in brackets one more than an item, and this one more than a node;
    only the sequence in the column of its keys is below the node that it belongs to
    (`Settled`). All other calls are made after a token was taken.
-/

namespace WritePolicy.Yaml

/-! ## Tokens that are taken -/

/-- Properties take a token, if there are any. -/
theorem length_properties? {handles : Handles} {p : Properties} {tokens rest : List Token}
    (h : properties? handles tokens = some (p, rest)) :
    rest.length ≤ tokens.length ∧ (p ≠ {} → rest.length < tokens.length) := by
  unfold properties? at h
  split at h
  · obtain ⟨tag, -, h⟩ := Option.bind_eq_some_iff.mp h
    cases h
    simp only [List.length_cons]
    omega
  · obtain ⟨tag, -, h⟩ := Option.bind_eq_some_iff.mp h
    cases h
    simp only [List.length_cons]
    omega
  · cases h
    simp only [List.length_cons]
    omega
  · obtain ⟨tag, -, h⟩ := Option.bind_eq_some_iff.mp h
    cases h
    simp only [List.length_cons]
    omega
  · cases h
    exact ⟨Nat.le_refl _, fun hne => absurd rfl hne⟩

/-- With some fuel, readers of nodes leave fewer tokens than they found, and readers of
    what may be left out not more. -/
structure TakesTokens (handles : Handles) (fuel : Nat) : Prop where
  node {context : Context} {tokens rest : List Token} {n : Node} :
    node? handles fuel context tokens = some (n, rest) → rest.length < tokens.length
  part {context : Context} {ends tokens rest : List Token} {n : Node} :
    part? handles fuel context ends tokens = some (n, rest) → rest.length ≤ tokens.length
  blockItems {tokens rest : List Token} {items : List Node} :
    blockItems? handles fuel tokens = some (items, rest) → rest.length < tokens.length
  outdentedItems {tokens rest : List Token} {items : List Node} :
    outdentedItems? handles fuel tokens = some (items, rest) →
      rest.length ≤ tokens.length ∧ (tokens.head? = some .dash → rest.length < tokens.length)
  blockFields {tokens rest : List Token} {fields : List (Node × Node)} :
    blockFields? handles fuel tokens = some (fields, rest) → rest.length < tokens.length
  blockValue {tokens rest : List Token} {n : Node} :
    blockValue? handles fuel tokens = some (n, rest) → rest.length ≤ tokens.length
  flowItems {tokens rest : List Token} {items : List Node} :
    flowItems? handles fuel tokens = some (items, rest) → rest.length < tokens.length
  flowItem {tokens rest : List Token} {n : Node} :
    flowItem? handles fuel tokens = some (n, rest) → rest.length < tokens.length
  flowItemKey {tokens rest : List Token} {n : Node} :
    flowItemKey? handles fuel tokens = some (n, rest) → rest.length ≤ tokens.length
  flowFields {tokens rest : List Token} {fields : List (Node × Node)} :
    flowFields? handles fuel tokens = some (fields, rest) → rest.length < tokens.length
  flowField {tokens rest : List Token} {field : Node × Node} :
    flowField? handles fuel tokens = some (field, rest) → rest.length < tokens.length
  flowValue {close : Token} {tokens rest : List Token} {n : Node} :
    flowValue? handles fuel close tokens = some (n, rest) → rest.length ≤ tokens.length

section

variable {handles : Handles} {fuel : Nat} {tokens rest : List Token} {n : Node}
  {items : List Node} {fields : List (Node × Node)}

theorem node?_takes (ih : TakesTokens handles fuel) {context : Context}
    (h : node? handles (fuel + 1) context tokens = some (n, rest)) :
    rest.length < tokens.length := by
  unfold node? at h
  split at h
  · next hzero => cases hzero
  · cases h
    exact Nat.lt_succ_self _
  · next hfuel _ =>
    cases hfuel
    obtain ⟨⟨p, left⟩, hp, h⟩ := Option.bind_eq_some_iff.mp h
    obtain ⟨hle, hlt⟩ := length_properties? hp
    dsimp only at h
    split at h
    · cases h
      exact hle
    · obtain ⟨_, hitems, h⟩ := Option.bind_eq_some_iff.mp h
      cases h
      exact Nat.lt_trans (ih.flowItems hitems) hle
    · obtain ⟨_, hfields, h⟩ := Option.bind_eq_some_iff.mp h
      cases h
      exact Nat.lt_trans (ih.flowFields hfields) hle
    · obtain ⟨_, hitems, h⟩ := Option.bind_eq_some_iff.mp h
      cases h
      exact Nat.lt_trans (ih.blockItems hitems) hle
    · obtain ⟨_, hitems, h⟩ := Option.bind_eq_some_iff.mp h
      cases h
      exact Nat.lt_trans (ih.blockItems hitems) hle
    · obtain ⟨_, hfields, h⟩ := Option.bind_eq_some_iff.mp h
      cases h
      exact Nat.lt_trans (ih.blockFields hfields) hle
    · obtain ⟨_, hfields, h⟩ := Option.bind_eq_some_iff.mp h
      cases h
      exact Nat.lt_trans (ih.blockFields hfields) hle
    · obtain ⟨_, hitems, h⟩ := Option.bind_eq_some_iff.mp h
      cases h
      exact Nat.lt_of_lt_of_le ((ih.outdentedItems hitems).2 rfl) hle
    · unfold Node.ofProperties? at h
      split_ifs at h with hproperties
      cases h
      exact hlt hproperties

theorem part?_takes (ih : TakesTokens handles fuel) {context : Context} {ends : List Token}
    (h : part? handles (fuel + 1) context ends tokens = some (n, rest)) :
    rest.length ≤ tokens.length := by
  unfold part? at h
  split_ifs at h
  · cases h
    exact Nat.le_refl _
  · exact Nat.le_of_lt (ih.node h)

theorem blockItems?_takes (ih : TakesTokens handles fuel)
    (h : blockItems? handles (fuel + 1) tokens = some (items, rest)) :
    rest.length < tokens.length := by
  unfold blockItems? at h
  split at h
  · next hzero => cases hzero
  · next hfuel =>
    cases hfuel
    obtain ⟨_, hitem, h⟩ := Option.bind_eq_some_iff.mp h
    obtain ⟨_, hitems, h⟩ := Option.bind_eq_some_iff.mp h
    cases h
    have := ih.part hitem
    have := ih.blockItems hitems
    simp only [List.length_cons]
    omega
  · cases h
    exact Nat.lt_succ_self _
  · cases h

theorem outdentedItems?_takes (ih : TakesTokens handles fuel)
    (h : outdentedItems? handles (fuel + 1) tokens = some (items, rest)) :
    rest.length ≤ tokens.length ∧ (tokens.head? = some .dash → rest.length < tokens.length) := by
  unfold outdentedItems? at h
  split at h
  · next hzero => cases hzero
  · next hfuel =>
    cases hfuel
    obtain ⟨_, hitem, h⟩ := Option.bind_eq_some_iff.mp h
    obtain ⟨_, hitems, h⟩ := Option.bind_eq_some_iff.mp h
    cases h
    have := ih.part hitem
    have := (ih.outdentedItems hitems).1
    simp only [List.length_cons]
    omega
  · next hdash =>
    cases h
    refine ⟨Nat.le_refl _, fun hhead => ?_⟩
    obtain ⟨more, hmore⟩ := List.head?_eq_some_iff.mp hhead
    exact absurd hmore (hdash more)

theorem blockFields?_takes (ih : TakesTokens handles fuel)
    (h : blockFields? handles (fuel + 1) tokens = some (fields, rest)) :
    rest.length < tokens.length := by
  unfold blockFields? at h
  split at h
  · next hzero => cases hzero
  · next hfuel =>
    cases hfuel
    obtain ⟨_, hkey, h⟩ := Option.bind_eq_some_iff.mp h
    obtain ⟨_, hvalue, h⟩ := Option.bind_eq_some_iff.mp h
    obtain ⟨_, hfields, h⟩ := Option.bind_eq_some_iff.mp h
    cases h
    have := ih.part hkey
    have := ih.blockValue hvalue
    have := ih.blockFields hfields
    simp only [List.length_cons]
    omega
  · cases h
    exact Nat.lt_succ_self _
  · cases h

theorem blockValue?_takes (ih : TakesTokens handles fuel)
    (h : blockValue? handles (fuel + 1) tokens = some (n, rest)) :
    rest.length ≤ tokens.length := by
  unfold blockValue? at h
  split at h
  · next hzero => cases hzero
  · next hfuel =>
    cases hfuel
    exact Nat.le_succ_of_le (ih.part h)
  · cases h
    exact Nat.le_refl _

theorem flowItems?_takes (ih : TakesTokens handles fuel)
    (h : flowItems? handles (fuel + 1) tokens = some (items, rest)) :
    rest.length < tokens.length := by
  unfold flowItems? at h
  split at h
  · next hzero => cases hzero
  · cases h
    exact Nat.lt_succ_self _
  · next hfuel _ =>
    cases hfuel
    obtain ⟨⟨item, left⟩, hitem, h⟩ := Option.bind_eq_some_iff.mp h
    have htaken := ih.flowItem hitem
    dsimp only at h
    split at h
    · obtain ⟨_, hitems, h⟩ := Option.bind_eq_some_iff.mp h
      cases h
      have := ih.flowItems hitems
      simp only [List.length_cons] at htaken
      omega
    · cases h
      exact Nat.lt_of_succ_lt htaken
    · cases h

theorem flowItem?_takes (ih : TakesTokens handles fuel)
    (h : flowItem? handles (fuel + 1) tokens = some (n, rest)) :
    rest.length < tokens.length := by
  unfold flowItem? at h
  split at h
  · next hzero => cases hzero
  · next hfuel =>
    cases hfuel
    obtain ⟨_, hkey, h⟩ := Option.bind_eq_some_iff.mp h
    obtain ⟨_, hvalue, h⟩ := Option.bind_eq_some_iff.mp h
    cases h
    have := ih.flowItemKey hkey
    have := ih.flowValue hvalue
    simp only [List.length_cons]
    omega
  · next hfuel _ =>
    cases hfuel
    exact ih.node h

theorem flowItemKey?_takes (ih : TakesTokens handles fuel)
    (h : flowItemKey? handles (fuel + 1) tokens = some (n, rest)) :
    rest.length ≤ tokens.length := by
  unfold flowItemKey? at h
  split_ifs at h
  · cases h
    exact (List.drop_suffix 1 tokens).length_le
  · exact Nat.le_of_lt (ih.node h)

theorem flowFields?_takes (ih : TakesTokens handles fuel)
    (h : flowFields? handles (fuel + 1) tokens = some (fields, rest)) :
    rest.length < tokens.length := by
  unfold flowFields? at h
  split at h
  · next hzero => cases hzero
  · cases h
    exact Nat.lt_succ_self _
  · next hfuel _ =>
    cases hfuel
    obtain ⟨⟨field, left⟩, hfield, h⟩ := Option.bind_eq_some_iff.mp h
    have htaken := ih.flowField hfield
    dsimp only at h
    split at h
    · obtain ⟨_, hfields, h⟩ := Option.bind_eq_some_iff.mp h
      cases h
      have := ih.flowFields hfields
      simp only [List.length_cons] at htaken
      omega
    · cases h
      exact Nat.lt_of_succ_lt htaken
    · cases h

theorem flowField?_takes (ih : TakesTokens handles fuel) {field : Node × Node}
    (h : flowField? handles (fuel + 1) tokens = some (field, rest)) :
    rest.length < tokens.length := by
  unfold flowField? at h
  split at h
  · next hzero => cases hzero
  · next hfuel =>
    cases hfuel
    obtain ⟨_, hkey, h⟩ := Option.bind_eq_some_iff.mp h
    obtain ⟨_, hvalue, h⟩ := Option.bind_eq_some_iff.mp h
    cases h
    have := ih.part hkey
    have := ih.flowValue hvalue
    simp only [List.length_cons]
    omega
  · next hfuel _ =>
    cases hfuel
    obtain ⟨_, hkey, h⟩ := Option.bind_eq_some_iff.mp h
    cases h
    exact ih.node hkey

theorem flowValue?_takes (ih : TakesTokens handles fuel) {close : Token}
    (h : flowValue? handles (fuel + 1) close tokens = some (n, rest)) :
    rest.length ≤ tokens.length := by
  unfold flowValue? at h
  split at h
  · next hzero => cases hzero
  · next hfuel =>
    cases hfuel
    exact Nat.le_succ_of_le (ih.part h)
  · cases h
    exact Nat.le_refl _

end

theorem takesTokens (handles : Handles) (fuel : Nat) : TakesTokens handles fuel := by
  induction fuel with
  | zero => constructor <;> exact nofun
  | succ fuel ih =>
    exact ⟨node?_takes ih, part?_takes ih, blockItems?_takes ih, outdentedItems?_takes ih,
      blockFields?_takes ih, blockValue?_takes ih, flowItems?_takes ih, flowItem?_takes ih,
      flowItemKey?_takes ih, flowFields?_takes ih, flowField?_takes ih, flowValue?_takes ih⟩

/-! ## Calls that are enough -/

/-- With some fuel, one call more makes no difference to the readers, if the fuel is
    enough for the tokens. -/
structure Settled (handles : Handles) (fuel : Nat) : Prop where
  node {context : Context} {tokens : List Token} : 4 * tokens.length + 1 ≤ fuel →
    node? handles fuel context tokens = node? handles (fuel + 1) context tokens
  part {context : Context} {ends tokens : List Token} : 4 * tokens.length + 2 ≤ fuel →
    part? handles fuel context ends tokens = part? handles (fuel + 1) context ends tokens
  blockItems {tokens : List Token} : 4 * tokens.length + 1 ≤ fuel →
    blockItems? handles fuel tokens = blockItems? handles (fuel + 1) tokens
  outdentedItems {tokens : List Token} : 4 * tokens.length ≤ fuel → 0 < fuel →
    outdentedItems? handles fuel tokens = outdentedItems? handles (fuel + 1) tokens
  blockFields {tokens : List Token} : 4 * tokens.length + 1 ≤ fuel →
    blockFields? handles fuel tokens = blockFields? handles (fuel + 1) tokens
  blockValue {tokens : List Token} : 4 * tokens.length + 1 ≤ fuel →
    blockValue? handles fuel tokens = blockValue? handles (fuel + 1) tokens
  flowItems {tokens : List Token} : 4 * tokens.length + 3 ≤ fuel →
    flowItems? handles fuel tokens = flowItems? handles (fuel + 1) tokens
  flowItem {tokens : List Token} : 4 * tokens.length + 2 ≤ fuel →
    flowItem? handles fuel tokens = flowItem? handles (fuel + 1) tokens
  flowItemKey {tokens : List Token} : 4 * tokens.length + 2 ≤ fuel →
    flowItemKey? handles fuel tokens = flowItemKey? handles (fuel + 1) tokens
  flowFields {tokens : List Token} : 4 * tokens.length + 3 ≤ fuel →
    flowFields? handles fuel tokens = flowFields? handles (fuel + 1) tokens
  flowField {tokens : List Token} : 4 * tokens.length + 2 ≤ fuel →
    flowField? handles fuel tokens = flowField? handles (fuel + 1) tokens
  flowValue {close : Token} {tokens : List Token} : 4 * tokens.length + 1 ≤ fuel →
    flowValue? handles fuel close tokens = flowValue? handles (fuel + 1) close tokens

section

variable {handles : Handles} {fuel : Nat} {tokens : List Token}

theorem node?_settled (ih : Settled handles fuel) {context : Context}
    (h : 4 * tokens.length + 1 ≤ fuel + 1) :
    node? handles (fuel + 1) context tokens = node? handles (fuel + 2) context tokens := by
  by_cases halias : ∃ name rest, tokens = .alias name :: rest
  · obtain ⟨name, rest, rfl⟩ := halias
    rfl
  · have hne (name : String) (rest : List Token) (hcons : tokens = .alias name :: rest) : False :=
      halias ⟨name, rest, hcons⟩
    rw [node?, node?]
    · refine Option.bind_congr fun ⟨p, left⟩ hp => ?_
      have hle := (length_properties? hp).1
      cases left with
      | nil => cases context <;> rfl
      | cons t rest =>
        simp only [List.length_cons] at hle
        cases t with
        | flowSequence => exact Option.bind_congr' (ih.flowItems (by omega)) fun _ _ => rfl
        | flowMapping => exact Option.bind_congr' (ih.flowFields (by omega)) fun _ _ => rfl
        | blockSequence =>
          cases context with
          | flow => rfl
          | block => exact Option.bind_congr' (ih.blockItems (by omega)) fun _ _ => rfl
          | field => exact Option.bind_congr' (ih.blockItems (by omega)) fun _ _ => rfl
        | blockMapping =>
          cases context with
          | flow => rfl
          | block => exact Option.bind_congr' (ih.blockFields (by omega)) fun _ _ => rfl
          | field => exact Option.bind_congr' (ih.blockFields (by omega)) fun _ _ => rfl
        | dash =>
          cases context with
          | flow => rfl
          | block => rfl
          | field =>
            have hdash : 4 * (Token.dash :: rest).length ≤ fuel := by
              simp only [List.length_cons]
              omega
            exact Option.bind_congr' (ih.outdentedItems hdash (by omega)) fun _ _ => rfl
        | _ => cases context <;> rfl
    · exact hne
    · exact hne

theorem part?_settled (ih : Settled handles fuel) {context : Context} {ends : List Token}
    (h : 4 * tokens.length + 2 ≤ fuel + 1) :
    part? handles (fuel + 1) context ends tokens =
      part? handles (fuel + 2) context ends tokens := by
  unfold part?
  rw [ih.node (by omega)]

theorem blockItems?_settled (ih : Settled handles fuel) (h : 4 * tokens.length + 1 ≤ fuel + 1) :
    blockItems? handles (fuel + 1) tokens = blockItems? handles (fuel + 2) tokens := by
  cases tokens with
  | nil => rfl
  | cons t left =>
    simp only [List.length_cons] at h
    cases t with
    | dash =>
      refine Option.bind_congr' (ih.part (by omega)) fun ⟨item, rest⟩ hitem => ?_
      have := (takesTokens handles (fuel + 1)).part hitem
      exact Option.bind_congr' (ih.blockItems (by omega)) fun _ _ => rfl
    | _ => rfl

theorem outdentedItems?_settled (ih : Settled handles fuel) (h : 4 * tokens.length ≤ fuel + 1) :
    outdentedItems? handles (fuel + 1) tokens = outdentedItems? handles (fuel + 2) tokens := by
  cases tokens with
  | nil => rfl
  | cons t left =>
    simp only [List.length_cons] at h
    cases t with
    | dash =>
      refine Option.bind_congr' (ih.part (by omega)) fun ⟨item, rest⟩ hitem => ?_
      have := (takesTokens handles (fuel + 1)).part hitem
      exact Option.bind_congr' (ih.outdentedItems (by omega) (by omega)) fun _ _ => rfl
    | _ => rfl

theorem blockFields?_settled (ih : Settled handles fuel)
    (h : 4 * tokens.length + 1 ≤ fuel + 1) :
    blockFields? handles (fuel + 1) tokens = blockFields? handles (fuel + 2) tokens := by
  cases tokens with
  | nil => rfl
  | cons t left =>
    simp only [List.length_cons] at h
    cases t with
    | key =>
      refine Option.bind_congr' (ih.part (by omega)) fun ⟨key, rest⟩ hkey => ?_
      have := (takesTokens handles (fuel + 1)).part hkey
      refine Option.bind_congr' (ih.blockValue (by omega)) fun ⟨value, rest'⟩ hvalue => ?_
      have := (takesTokens handles (fuel + 1)).blockValue hvalue
      exact Option.bind_congr' (ih.blockFields (by omega)) fun _ _ => rfl
    | _ => rfl

theorem blockValue?_settled (ih : Settled handles fuel)
    (h : 4 * tokens.length + 1 ≤ fuel + 1) :
    blockValue? handles (fuel + 1) tokens = blockValue? handles (fuel + 2) tokens := by
  cases tokens with
  | nil => rfl
  | cons t left =>
    simp only [List.length_cons] at h
    cases t with
    | value => exact ih.part (by omega)
    | _ => rfl

theorem flowItems?_settled (ih : Settled handles fuel) (h : 4 * tokens.length + 3 ≤ fuel + 1) :
    flowItems? handles (fuel + 1) tokens = flowItems? handles (fuel + 2) tokens := by
  by_cases hend : ∃ rest, tokens = .flowSequenceEnd :: rest
  · obtain ⟨rest, rfl⟩ := hend
    rfl
  · have hne (rest : List Token) (hcons : tokens = .flowSequenceEnd :: rest) : False :=
      hend ⟨rest, hcons⟩
    rw [flowItems?, flowItems?]
    · refine Option.bind_congr' (ih.flowItem (by omega)) fun ⟨item, left⟩ hitem => ?_
      have htaken := (takesTokens handles (fuel + 1)).flowItem hitem
      cases left with
      | nil => rfl
      | cons t rest =>
        simp only [List.length_cons] at htaken
        cases t with
        | comma => exact Option.bind_congr' (ih.flowItems (by omega)) fun _ _ => rfl
        | _ => rfl
    · exact hne
    · exact hne

theorem flowItem?_settled (ih : Settled handles fuel) (h : 4 * tokens.length + 2 ≤ fuel + 1) :
    flowItem? handles (fuel + 1) tokens = flowItem? handles (fuel + 2) tokens := by
  have hnode : node? handles fuel .flow tokens = node? handles (fuel + 1) .flow tokens :=
    ih.node (by omega)
  cases tokens with
  | nil => exact hnode
  | cons t left =>
    simp only [List.length_cons] at h
    cases t with
    | key =>
      refine Option.bind_congr' (ih.flowItemKey (by omega)) fun ⟨key, rest⟩ hkey => ?_
      have := (takesTokens handles (fuel + 1)).flowItemKey hkey
      exact Option.bind_congr' (ih.flowValue (by omega)) fun _ _ => rfl
    | _ => exact hnode

theorem flowItemKey?_settled (ih : Settled handles fuel)
    (h : 4 * tokens.length + 2 ≤ fuel + 1) :
    flowItemKey? handles (fuel + 1) tokens = flowItemKey? handles (fuel + 2) tokens := by
  unfold flowItemKey?
  rw [ih.node (by omega)]

theorem flowFields?_settled (ih : Settled handles fuel)
    (h : 4 * tokens.length + 3 ≤ fuel + 1) :
    flowFields? handles (fuel + 1) tokens = flowFields? handles (fuel + 2) tokens := by
  by_cases hend : ∃ rest, tokens = .flowMappingEnd :: rest
  · obtain ⟨rest, rfl⟩ := hend
    rfl
  · have hne (rest : List Token) (hcons : tokens = .flowMappingEnd :: rest) : False :=
      hend ⟨rest, hcons⟩
    rw [flowFields?, flowFields?]
    · refine Option.bind_congr' (ih.flowField (by omega)) fun ⟨field, left⟩ hfield => ?_
      have htaken := (takesTokens handles (fuel + 1)).flowField hfield
      cases left with
      | nil => rfl
      | cons t rest =>
        simp only [List.length_cons] at htaken
        cases t with
        | comma => exact Option.bind_congr' (ih.flowFields (by omega)) fun _ _ => rfl
        | _ => rfl
    · exact hne
    · exact hne

theorem flowField?_settled (ih : Settled handles fuel) (h : 4 * tokens.length + 2 ≤ fuel + 1) :
    flowField? handles (fuel + 1) tokens = flowField? handles (fuel + 2) tokens := by
  have hnode : node? handles fuel .flow tokens = node? handles (fuel + 1) .flow tokens :=
    ih.node (by omega)
  cases tokens with
  | nil => exact Option.bind_congr' hnode fun _ _ => rfl
  | cons t left =>
    simp only [List.length_cons] at h
    cases t with
    | key =>
      refine Option.bind_congr' (ih.part (by omega)) fun ⟨key, rest⟩ hkey => ?_
      have := (takesTokens handles (fuel + 1)).part hkey
      exact Option.bind_congr' (ih.flowValue (by omega)) fun _ _ => rfl
    | _ => exact Option.bind_congr' hnode fun _ _ => rfl

theorem flowValue?_settled (ih : Settled handles fuel) {close : Token}
    (h : 4 * tokens.length + 1 ≤ fuel + 1) :
    flowValue? handles (fuel + 1) close tokens = flowValue? handles (fuel + 2) close tokens := by
  cases tokens with
  | nil => rfl
  | cons t left =>
    simp only [List.length_cons] at h
    cases t with
    | value => exact ih.part (by omega)
    | _ => rfl

end

theorem settled (handles : Handles) (fuel : Nat) : Settled handles fuel := by
  induction fuel with
  | zero => constructor <;> omega
  | succ fuel ih =>
    exact ⟨node?_settled ih, part?_settled ih, blockItems?_settled ih,
      fun h _ => outdentedItems?_settled ih h, blockFields?_settled ih, blockValue?_settled ih,
      flowItems?_settled ih, flowItem?_settled ih, flowItemKey?_settled ih,
      flowFields?_settled ih, flowField?_settled ih, flowValue?_settled ih⟩

/-- How deep the calls may go does not matter, if it is more than four times the number of
    tokens. -/
theorem node?_eq_of_lt {handles : Handles} {context : Context} {tokens : List Token} {n m : Nat}
    (hn : 4 * tokens.length < n) (hnm : n ≤ m) :
    node? handles n context tokens = node? handles m context tokens := by
  induction hnm with
  | refl => rfl
  | step hnm ih => exact ih.trans ((settled handles _).node (Nat.lt_of_lt_of_le hn hnm))

end WritePolicy.Yaml
