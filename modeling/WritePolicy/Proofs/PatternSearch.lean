import WritePolicy.Pattern.Search
import Mathlib.Data.Nat.Bitwise

/-! # The search finds what an expression matches

    A step on sets of places follows a relation if the places that it gives are those
    that the relation leads to from the places that it is given (`Follows`). A
    prepared expression follows what the expression matches (`prepare_follows`), by
    induction on the expression.

    Two cases take an argument. Repetition up to a count stops as soon as a round adds
    no place: the set is then closed under the step, and further rounds lead nowhere.
    And unbounded repetition is one up to the number of places: a round that does not
    go forward can be left out, and what is left goes forward in every round.
-/

namespace WritePolicy

/-! ## Places of matches -/

namespace Matches

variable {text : Characters} {a : Regex} {i j k m n : Nat}

/-- What is matched goes forward and stays within the text. -/
theorem bounds {r : Regex} (h : Matches text r i j) : i ≤ j ∧ j ≤ text.size := by
  induction h with
  | empty hi => exact ⟨le_rfl, hi⟩
  | chars hi _ => exact ⟨Nat.le_succ _, hi⟩
  | assertion hi _ => exact ⟨le_rfl, hi⟩
  | concat _ _ iha ihb => exact ⟨iha.1.trans ihb.1, ihb.2⟩
  | altLeft _ ih => exact ih
  | altRight _ ih => exact ih
  | starNone hi => exact ⟨le_rfl, hi⟩
  | starMore _ _ iha ihb => exact ⟨iha.1.trans ihb.1, ihb.2⟩
  | timesZero hi => exact ⟨le_rfl, hi⟩
  | timesSucc _ _ iha ihb => exact ⟨iha.1.trans ihb.1, ihb.2⟩
  | upToNone hi => exact ⟨le_rfl, hi⟩
  | upToSucc _ _ iha ihb => exact ⟨iha.1.trans ihb.1, ihb.2⟩

/-- Fewer repetitions are allowed where more are. -/
theorem upTo_mono (h : Matches text (.upTo a m) i j) (hle : m ≤ n) :
    Matches text (.upTo a n) i j := by
  generalize hr : Regex.upTo a m = r at h
  induction h generalizing m n with
  | @upToNone b l i hi => exact .upToNone hi
  | @upToSucc b l i j k hfirst hrest _ ih =>
    cases hr
    obtain ⟨n', rfl⟩ : ∃ n', n = n' + 1 := ⟨n - 1, by omega⟩
    exact .upToSucc hfirst (ih (by omega) rfl)
  | _ => cases hr

/-- A bounded repetition is a repetition. -/
theorem star_of_upTo (h : Matches text (.upTo a n) i j) : Matches text (.star a) i j := by
  generalize hr : Regex.upTo a n = r at h
  induction h generalizing n with
  | upToNone hi => exact .starNone hi
  | upToSucc hfirst _ _ ih =>
    cases hr
    exact .starMore hfirst (ih rfl)
  | _ => cases hr

/-- A repetition needs no more rounds than it has places to go: a round that stays
    where it is can be left out. -/
theorem upTo_of_star (h : Matches text (.star a) i j) : Matches text (.upTo a (j - i)) i j := by
  generalize hr : Regex.star a = r at h
  induction h with
  | starNone hi => exact .upToNone hi
  | @starMore b i j k hfirst hrest _ ih =>
    cases hr
    have hforward := hfirst.bounds.1
    have hrounds := hrest.bounds.1
    by_cases hstay : i = j
    · -- the first round does not go forward
      rw [hstay]
      exact ih rfl
    · -- it does, and that is one round for at least one place
      have hmore : Matches text (.upTo a (k - j + 1)) i k := .upToSucc hfirst (ih rfl)
      exact hmore.upTo_mono (by omega)
  | _ => cases hr

/-- Repetition is repetition up to the number of places. -/
theorem star_iff : Matches text (.star a) i j ↔ Matches text (.upTo a (text.size + 1)) i j := by
  constructor
  · intro h
    have hend := h.bounds.2
    exact h.upTo_of_star.upTo_mono (by omega)
  · intro h
    exact h.star_of_upTo

end Matches

namespace Regex

/-! ## Sets of places -/

namespace Places

variable {text : Characters} {i : Nat}

theorem testBit_all : (all text).testBit i = true ↔ i ≤ text.size := by
  show (2 ^ (text.size + 1) - 1).testBit i = true ↔ _
  rw [Nat.testBit_two_pow_sub_one, decide_eq_true_eq, Nat.lt_succ_iff]

/-- The places of a text at which a condition holds are those places. -/
theorem testBit_ofText {holds : Nat → Bool} :
    (ofText text holds).testBit i = true ↔ i ≤ text.size ∧ holds i = true := by
  have hfold (members : List Nat) (acc : Places) :
      (members.foldl (fun acc i => if holds i then acc ||| (1 <<< i) else acc) acc).testBit i = true ↔
        acc.testBit i = true ∨ (i ∈ members ∧ holds i = true) := by
    induction members generalizing acc with
    | nil => simp
    | cons j rest ih =>
      have hstep : (if holds j then acc ||| (1 <<< j) else acc).testBit i = true ↔
          acc.testBit i = true ∨ (i = j ∧ holds i = true) := by
        by_cases hj : holds j = true
        · rw [if_pos hj, Nat.testBit_or, Bool.or_eq_true, Nat.one_shiftLeft, Nat.testBit_two_pow,
            decide_eq_true_eq, eq_comm (a := j)]
          exact or_congr_right ⟨fun h => ⟨h, h ▸ hj⟩, And.left⟩
        · rw [if_neg hj]
          exact (or_iff_left fun ⟨h, hi⟩ => hj (h ▸ hi)).symm
      rw [List.foldl_cons, ih, hstep, List.mem_cons, or_assoc, or_and_right]
  unfold ofText
  rw [hfold, List.mem_range, Nat.lt_succ_iff]
  simp

end Places

/-! ## Steps that follow a relation -/

/-- A step gives the places to which a relation leads from the places that it is
    given, as long as these are places of a text of this size. -/
def Follows (size : Nat) (step : Places → Places) (leads : Nat → Nat → Prop) : Prop :=
  ∀ s, (∀ i, s.testBit i = true → i ≤ size) →
    ∀ k, (step s).testBit k = true ↔ ∃ i, s.testBit i = true ∧ leads i k

variable {text : Characters} {a b : Regex} {step : Places → Places}

/-- Where an expression leads are places of the text. -/
theorem Follows.bounded {r : Regex} (h : Follows text.size step (Matches text r)) {s : Places}
    (hs : ∀ i, s.testBit i = true → i ≤ text.size) :
    ∀ k, (step s).testBit k = true → k ≤ text.size := by
  intro k hk
  obtain ⟨i, -, hmatch⟩ := (h s hs k).mp hk
  exact hmatch.bounds.2

theorem follows_iterate (h : Follows text.size step (Matches text a)) (n : Nat) :
    Follows text.size (iterate step n) (Matches text (.times a n)) := by
  induction n with
  | zero =>
    intro s hs k
    constructor
    · intro hk
      exact ⟨k, hk, .timesZero (hs k hk)⟩
    · rintro ⟨i, hi, hmatch⟩
      cases hmatch
      exact hi
  | succ n ih =>
    intro s hs k
    unfold iterate
    by_cases hempty : s = 0
    · -- the shortcut for the empty set loses nothing: there is no place to start from
      rw [if_pos hempty, hempty]
      simp
    · rw [if_neg hempty, ih (step s) (h.bounded hs)]
      constructor
      · rintro ⟨j, hj, hrest⟩
        obtain ⟨i, hi, hfirst⟩ := (h s hs j).mp hj
        exact ⟨i, hi, .timesSucc hfirst hrest⟩
      · rintro ⟨i, hi, hmatch⟩
        cases hmatch with
        | timesSucc hfirst hrest => exact ⟨_, (h s hs _).mpr ⟨i, hi, hfirst⟩, hrest⟩

/-- A set that is closed under a step has all places that further rounds lead to. -/
theorem mem_of_closed (h : Follows text.size step (Matches text a)) {s : Places}
    (hs : ∀ i, s.testBit i = true → i ≤ text.size) (hclosed : s ||| step s = s) {n i k : Nat}
    (hi : s.testBit i = true) (hmatch : Matches text (.upTo a n) i k) : s.testBit k = true := by
  -- the induction is on the rounds; each of them starts from a place of the set
  generalize hr : Regex.upTo a n = r at hmatch
  induction hmatch generalizing n with
  | upToNone _ => exact hi
  | @upToSucc _ _ i j k hfirst _ _ ih =>
    cases hr
    have hj : (step s).testBit j = true := (h s hs j).mpr ⟨i, hi, hfirst⟩
    have hmem : s.testBit j = true := by
      rw [← hclosed, Nat.testBit_or, hj, Bool.or_true]
    exact ih hmem rfl
  | _ => cases hr

theorem follows_saturate (h : Follows text.size step (Matches text a)) (n : Nat) :
    Follows text.size (saturate step n) (Matches text (.upTo a n)) := by
  induction n with
  | zero =>
    intro s hs k
    constructor
    · intro hk
      exact ⟨k, hk, .upToNone (hs k hk)⟩
    · rintro ⟨i, hi, hmatch⟩
      cases hmatch
      exact hi
  | succ n ih =>
    intro s hs k
    unfold saturate
    by_cases hclosed : s ||| step s = s
    · -- no round adds anything any more
      simp only [hclosed, if_true]
      constructor
      · intro hk
        exact ⟨k, hk, .upToNone (hs k hk)⟩
      · rintro ⟨i, hi, hmatch⟩
        exact mem_of_closed h hs hclosed hi hmatch
    · -- what the round adds leads on in one round less
      simp only [hclosed, if_false]
      have hnext (i : Nat) : (s ||| step s).testBit i = true ↔
          s.testBit i = true ∨ (step s).testBit i = true := by
        rw [Nat.testBit_or, Bool.or_eq_true]
      have hbounded : ∀ i, (s ||| step s).testBit i = true → i ≤ text.size := by
        intro i hi
        rcases (hnext i).mp hi with hi | hi
        · exact hs i hi
        · exact h.bounded hs i hi
      rw [ih _ hbounded]
      constructor
      · rintro ⟨j, hj, hrest⟩
        rcases (hnext j).mp hj with hj | hj
        · exact ⟨j, hj, hrest.upTo_mono (Nat.le_succ n)⟩
        · obtain ⟨i, hi, hfirst⟩ := (h s hs j).mp hj
          exact ⟨i, hi, .upToSucc hfirst hrest⟩
      · rintro ⟨i, hi, hmatch⟩
        cases hmatch with
        | upToNone hle => exact ⟨k, (hnext k).mpr (.inl hi), .upToNone hle⟩
        | @upToSucc _ _ i j _ hfirst hrest =>
          exact ⟨j, (hnext j).mpr (.inr ((h s hs j).mpr ⟨i, hi, hfirst⟩)), hrest⟩

/-! ## The search -/

/-- A character after a place is in a set if it is one of the text. -/
theorem Assertion.after_eq_true_iff {set : CharSet} {i : Nat} :
    Assertion.after text i set = true ↔ ∃ h : i < text.size, set.containsChar text[i] = true := by
  unfold Assertion.after
  by_cases h : i < text.size
  · rw [Array.getElem?_eq_getElem h]
    exact ⟨fun hset => ⟨h, hset⟩, fun hset => hset.2⟩
  · rw [Array.getElem?_eq_none (Nat.le_of_not_lt h)]
    exact iff_of_false nofun fun hset => h hset.1

/-- A prepared expression leads where the expression matches. -/
theorem prepare_follows (text : Characters) (r : Regex) :
    Follows text.size (r.prepare text).reach (Matches text r) := by
  induction r with
  | empty =>
    intro s hs k
    show (s &&& Places.all text).testBit k = true ↔ _
    rw [Nat.testBit_and, Bool.and_eq_true, Places.testBit_all]
    constructor
    · rintro ⟨hk, hle⟩
      exact ⟨k, hk, .empty hle⟩
    · rintro ⟨i, hi, hmatch⟩
      cases hmatch with
      | empty hle => exact ⟨hi, hle⟩
  | chars set =>
    intro s hs k
    show ((s &&& Places.ofText text (Assertion.after text · set)) <<< 1).testBit k = true ↔ _
    rw [Nat.testBit_shiftLeft, Bool.and_eq_true, decide_eq_true_eq, Nat.testBit_and,
      Bool.and_eq_true, Places.testBit_ofText, Assertion.after_eq_true_iff]
    constructor
    · -- a place that is shifted to is not the first
      rintro ⟨hk, hmem, -, hlt, hset⟩
      refine ⟨k - 1, hmem, ?_⟩
      have hmatch := Matches.chars hlt hset
      rw [Nat.sub_add_cancel hk] at hmatch
      exact hmatch
    · rintro ⟨i, hi, hmatch⟩
      cases hmatch with
      | chars hlt hset => exact ⟨Nat.le_add_left 1 i, hi, hlt.le, hlt, hset⟩
  | assertion a =>
    intro s hs k
    show (s &&& Places.ofText text (a.holds text ·)).testBit k = true ↔ _
    rw [Nat.testBit_and, Bool.and_eq_true, Places.testBit_ofText]
    constructor
    · rintro ⟨hk, hle, hholds⟩
      exact ⟨k, hk, .assertion hle hholds⟩
    · rintro ⟨i, hi, hmatch⟩
      cases hmatch with
      | assertion hle hholds => exact ⟨hi, hle, hholds⟩
  | concat a b iha ihb =>
    intro s hs k
    show ((b.prepare text).reach ((a.prepare text).reach s)).testBit k = true ↔ _
    rw [ihb _ (iha.bounded hs)]
    constructor
    · rintro ⟨j, hj, hb⟩
      obtain ⟨i, hi, ha⟩ := (iha s hs j).mp hj
      exact ⟨i, hi, .concat ha hb⟩
    · rintro ⟨i, hi, hmatch⟩
      cases hmatch with
      | concat ha hb => exact ⟨_, (iha s hs _).mpr ⟨i, hi, ha⟩, hb⟩
  | alt a b iha ihb =>
    intro s hs k
    show ((a.prepare text).reach s ||| (b.prepare text).reach s).testBit k = true ↔ _
    rw [Nat.testBit_or, Bool.or_eq_true, iha s hs, ihb s hs]
    constructor
    · rintro (⟨i, hi, ha⟩ | ⟨i, hi, hb⟩)
      · exact ⟨i, hi, .altLeft ha⟩
      · exact ⟨i, hi, .altRight hb⟩
    · rintro ⟨i, hi, hmatch⟩
      cases hmatch with
      | altLeft ha => exact .inl ⟨i, hi, ha⟩
      | altRight hb => exact .inr ⟨i, hi, hb⟩
  | star a ih =>
    intro s hs k
    show (saturate (a.prepare text).reach (text.size + 1) s).testBit k = true ↔ _
    -- there are no more rounds to take than there are places
    rw [follows_saturate ih _ s hs]
    simp only [Matches.star_iff]
  | times a n ih => exact follows_iterate ih n
  | upTo a n ih => exact follows_saturate ih n

/-- An expression is found in a text if it matches from some place to another. -/
theorem isMatch_iff (r : Regex) (text : String) :
    r.isMatch text = true ↔ ∃ i j, Matches text.toList.toArray r i j := by
  have hfollows := prepare_follows text.toList.toArray r (Places.all text.toList.toArray)
    fun i hi => Places.testBit_all.mp hi
  unfold isMatch
  simp only [bne_iff_ne]
  constructor
  · intro hfound
    obtain ⟨j, hj⟩ := Nat.exists_testBit_of_ne_zero hfound
    obtain ⟨i, -, hmatch⟩ := (hfollows j).mp hj
    exact ⟨i, j, hmatch⟩
  · rintro ⟨i, j, hmatch⟩ hzero
    have hi : i ≤ text.toList.toArray.size := hmatch.bounds.1.trans hmatch.bounds.2
    have hj := (hfollows j).mpr ⟨i, Places.testBit_all.mpr hi, hmatch⟩
    rw [hzero, Nat.zero_testBit] at hj
    cases hj

end Regex

end WritePolicy
