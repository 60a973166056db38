import WritePolicy.CommandLine
import WritePolicy.Proofs.OrderedEntries

/-! # Every check can be asked for

    An option can always be written as one argument, with its value attached. Only the
    name is looked at then: that a value starts with dashes or holds equals signs does not
    matter (`splitOption?_written`). Options that are written so are read back, if each has
    a value exactly if it needs one and is given again only if it allows that
    (`readOptions?_written`).

    A table of options says this of each name, so options are put together name by name
    (`spread`). Whatever a check can be about, there are arguments that ask for it
    (`parse?_toArgs`).
-/

namespace WritePolicy.CommandLine

section

variable {options : OptionTable} {given : Given} {g : String × Option String}

/-! ## One option -/

/-- An option as one argument, with its value attached. -/
def written (g : String × Option String) : String :=
  "--" ++ g.1 ++ g.2.elim "" ("=" ++ ·)

/-- The characters of an option after its dashes. -/
theorem toList_written (g : String × Option String) : (written g).toList =
    '-' :: '-' :: (g.1.toList ++ g.2.elim [] fun v => '=' :: v.toList) := by
  obtain ⟨name, value⟩ := g
  cases value <;> simp [written, String.toList_append]

/-- The first equals sign ends the name. -/
theorem splitOption?_written (h : '=' ∉ g.1.toList) : splitOption? (written g) = some g := by
  obtain ⟨name, value⟩ := g
  have hname : ∀ c ∈ name.toList, (c != '=') = true := by
    intro c hc
    exact bne_iff_ne.mpr fun heq => h (heq ▸ hc)
  simp only [splitOption?, toList_written, List.takeWhile_append_of_pos hname,
    List.dropWhile_append_of_pos hname]
  cases value <;> simp

/-- The names of the options are such that no option is taken for something else. -/
def Distinguished (options : OptionTable) : Prop :=
  ∀ name ∈ Entries.keys options, name ≠ "" ∧ name ≠ "verbose" ∧ '=' ∉ name.toList

/-- The option is one of the table, and it has a value exactly if it needs one. -/
def Fits (options : OptionTable) (g : String × Option String) : Prop :=
  ∃ arity, Entries.get? g.1 options = some arity ∧ (arity = .flag ↔ g.2 = none)

theorem Fits.mem_keys (h : Fits options g) : g.1 ∈ Entries.keys options := by
  obtain ⟨arity, hget, -⟩ := h
  by_contra hnot
  rw [Entries.get?_eq_none_iff.mpr hnot] at hget
  cases hget

theorem isVerbosity_written (hname : '=' ∉ g.1.toList) (hne : g.1 ≠ "verbose") :
    isVerbosity (written g) = false := by
  have hlong : written g ≠ "--verbose" := by
    intro heq
    have hsplit := splitOption?_written hname
    rw [heq, show splitOption? "--verbose" = some ("verbose", none) by decide] at hsplit
    cases hsplit
    exact hne rfl
  simp [isVerbosity, hlong, toList_written]

/-- An option that is new, or may be given again, is added. -/
theorem addOption?_eq (h : g.1 ∈ Entries.keys given → Entries.get? g.1 options = some .many) :
    addOption? options given g.1 g.2 = some (given ++ [g]) := by
  unfold addOption?
  by_cases hmem : g.1 ∈ Entries.keys given
  · rw [h hmem]
    simp
  · have hnone : Entries.contains g.1 given = false := by
      simp [Entries.contains, Entries.get?_eq_none_iff.mpr hmem]
    simp [hnone]

/-- An option with its value attached leaves the other arguments alone. -/
theorem takeOption?_eq (hfits : Fits options g)
    (h : g.1 ∈ Entries.keys given → Entries.get? g.1 options = some .many) (rest : List String) :
    takeOption? options given g.1 g.2 rest = some (given ++ [g], rest) := by
  obtain ⟨arity, hget, hvalue⟩ := hfits
  have hadd := addOption?_eq h
  obtain ⟨name, value⟩ := g
  unfold takeOption?
  rw [hget]
  cases value with
  | none =>
    obtain rfl := hvalue.mpr rfl
    simp [hadd]
  | some v =>
    have hneed : arity ≠ .flag := fun hflag => nomatch hvalue.mp hflag
    cases arity with
    | flag => exact absurd rfl hneed
    | once => simp [hadd]
    | many => simp [hadd]

/-! ## A list of options -/

/-- An option may stand after another: their names differ, or it may be given again. -/
def MayFollow (options : OptionTable) (g g' : String × Option String) : Prop :=
  g.1 = g'.1 → Entries.get? g'.1 options = some .many

theorem readWithin?_written (hnames : Distinguished options) {more : Given}
    (hfits : ∀ g ∈ more, Fits options g) (hfollow : (given ++ more).Pairwise (MayFollow options)) :
    readWithin? options more.length given (more.map written) = some (given ++ more) := by
  induction more generalizing given with
  | nil => simp [readWithin?]
  | cons g rest ih =>
    obtain ⟨hfirst, hrest⟩ := List.forall_mem_cons.mp hfits
    obtain ⟨hnonempty, hverbose, hname⟩ := hnames _ hfirst.mem_keys
    have hsplit := splitOption?_written hname
    -- two dashes alone would be an option without a name
    have hdashes : written g ≠ "--" := by
      intro heq
      rw [heq, show splitOption? "--" = some ("", none) by decide] at hsplit
      cases hsplit
      exact hnonempty rfl
    have hagain : g.1 ∈ Entries.keys given → Entries.get? g.1 options = some .many := by
      intro hmem
      obtain ⟨before, hbefore, heq⟩ := List.mem_map.mp hmem
      exact (List.pairwise_append.mp hfollow).2.2 before hbefore g List.mem_cons_self heq
    have hfollow : ((given ++ [g]) ++ rest).Pairwise (MayFollow options) := by
      rwa [List.append_assoc]
    have hstep : readWithin? options (rest.length + 1) given (written g :: rest.map written) =
        readWithin? options rest.length (given ++ [g]) (rest.map written) := by
      rw [readWithin?]
      · simp [isVerbosity_written hname hverbose, hsplit, takeOption?_eq hfirst hagain]
      · intro heq _
        exact hdashes heq
    rw [List.length_cons, List.map_cons, hstep, ih hrest hfollow, List.append_assoc]
    rfl

/-- Options that are written with their values attached are read back. -/
theorem readOptions?_written (hnames : Distinguished options) (hfits : ∀ g ∈ given, Fits options g)
    (hfollow : given.Pairwise (MayFollow options)) :
    readOptions? options (given.map written) = some given := by
  unfold readOptions?
  rw [List.length_map]
  exact readWithin?_written hnames hfits hfollow

/-! ## Options by name -/

/-- What is given for an option of a table: a value exactly if one is needed, and more than
    one only where that is allowed. -/
structure Suits (arity : Arity) (values : List (Option String)) : Prop where
  needed : ∀ v ∈ values, arity = .flag ↔ v = none
  often : arity = .many ∨ values.length ≤ 1

theorem suits_flag (given : Bool) : Suits .flag (if given then [none] else []) := by
  cases given with
  | true => exact ⟨by simp, .inr (Nat.le_refl 1)⟩
  | false => exact ⟨nofun, .inr (Nat.zero_le 1)⟩

theorem suits_once (value : Option String) : Suits .once (value.toList.map some) := by
  cases value with
  | none => exact ⟨nofun, .inr (Nat.zero_le 1)⟩
  | some v => exact ⟨by simp, .inr (Nat.le_refl 1)⟩

theorem suits_many (values : List String) : Suits .many (values.map some) :=
  ⟨by simp, .inl rfl⟩

/-- Options with all that is given for each, one after the other. -/
def spread (groups : Entries (List (Option String))) : Given :=
  groups.flatMap fun group => group.2.map (group.1, ·)

variable {groups : Entries (List (Option String))}

theorem mem_spread : g ∈ spread groups ↔ ∃ values, (g.1, values) ∈ groups ∧ g.2 ∈ values := by
  obtain ⟨name, value⟩ := g
  simp [spread]

/-- Suitable options are read back. -/
theorem readOptions?_spread (hnames : Distinguished options) (hnodup : (Entries.keys groups).Nodup)
    (h : ∀ group ∈ groups, ∃ arity,
      Entries.get? group.1 options = some arity ∧ Suits arity group.2) :
    readOptions? options ((spread groups).map written) = some (spread groups) := by
  apply readOptions?_written hnames
  · intro g hg
    obtain ⟨values, hmem, hvalue⟩ := mem_spread.mp hg
    obtain ⟨arity, hget, hsuits⟩ := h _ hmem
    exact ⟨arity, hget, hsuits.needed _ hvalue⟩
  · refine List.pairwise_flatMap.mpr ⟨fun group hmem => ?_, ?_⟩
    · -- within a group only what may be given again has a successor
      obtain ⟨arity, hget, hsuits⟩ := h _ hmem
      refine List.pairwise_map.mpr ?_
      rcases hsuits.often with rfl | hle
      · exact List.pairwise_of_forall fun _ _ _ => hget
      · match group.2, hle with
        | [], _ => exact .nil
        | [_], _ => exact List.pairwise_singleton _ _
    · have hdistinct : groups.Pairwise fun group group' => group.1 ≠ group'.1 :=
        List.pairwise_map.mp hnodup
      refine hdistinct.imp fun hne g hg g' hg' heq => absurd ?_ hne
      obtain ⟨_, -, rfl⟩ := List.mem_map.mp hg
      obtain ⟨_, -, rfl⟩ := List.mem_map.mp hg'
      exact heq

/-- The values of an option are those in its group. -/
theorem valuesOf_spread (hnodup : (Entries.keys groups).Nodup) {name : String}
    {values : List String} (h : (name, values.map some) ∈ groups) :
    valuesOf (spread groups) name = values := by
  have hother (rest : Entries (List (Option String))) (hnot : name ∉ Entries.keys rest) :
      valuesOf (spread rest) name = [] := by
    refine List.filterMap_eq_nil_iff.mpr fun g hg => if_neg fun heq => hnot ?_
    obtain ⟨values, hmem, -⟩ := mem_spread.mp hg
    exact List.mem_map.mpr ⟨_, hmem, heq⟩
  induction groups with
  | nil => cases h
  | cons group rest ih =>
    obtain ⟨hnot, hrest⟩ := List.nodup_cons.mp hnodup
    have hsplit : valuesOf (spread (group :: rest)) name =
        valuesOf (group.2.map (group.1, ·)) name ++ valuesOf (spread rest) name :=
      List.filterMap_append
    rw [hsplit]
    rcases List.mem_cons.mp h with rfl | h
    · rw [hother rest hnot, List.append_nil]
      simp [valuesOf, List.filterMap_map]
    · have hne : group.1 ≠ name := by
        rintro rfl
        exact hnot (List.mem_map.mpr ⟨_, h, rfl⟩)
      rw [ih hrest h]
      simp [valuesOf, List.filterMap_map, hne]

/-- An option was given if its group is not empty. -/
theorem contains_spread (hnodup : (Entries.keys groups).Nodup) {name : String}
    {values : List (Option String)} (h : (name, values) ∈ groups) :
    Entries.contains name (spread groups) = !values.isEmpty := by
  unfold Entries.contains
  cases values with
  | nil =>
    have hnone : name ∉ Entries.keys (spread groups) := by
      intro hmem
      obtain ⟨g, hg, rfl⟩ := List.mem_map.mp hmem
      obtain ⟨values, hgroup, hvalue⟩ := mem_spread.mp hg
      have hsame := (Entries.get?_of_mem hnodup hgroup).symm.trans (Entries.get?_of_mem hnodup h)
      cases hsame
      cases hvalue
    rw [Entries.get?_eq_none_iff.mpr hnone]
    rfl
  | cons v rest =>
    have hmem : name ∈ Entries.keys (spread groups) :=
      List.mem_map.mpr ⟨(name, v), mem_spread.mpr ⟨v :: rest, h, List.mem_cons_self⟩, rfl⟩
    have hsome := mt Entries.get?_eq_none_iff.mp (not_not_intro hmem)
    simpa [Option.isSome_iff_ne_none] using hsome

end

/-! ## All options of a check -/

/-- What a check is told by each of its options. -/
def CheckArguments.groups (a : CheckArguments) : Entries (List (Option String)) :=
  [("definitions", [a.definitions].map some), ("new", a.newDoc.toList.map some),
    ("old", a.oldDoc.toList.map some), ("user", a.user.toList.map some),
    ("role", a.roles.map some), ("channel", a.channels.map some),
    ("admin", if a.admin then [none] else []), ("database", a.database.toList.map some),
    ("host", [a.host.name].map some)]

/-- The arguments that ask for a check. -/
def CheckArguments.toArgs (a : CheckArguments) : List String :=
  "check" :: (spread a.groups).map written

theorem CheckArguments.groups_suit (a : CheckArguments) : ∀ group ∈ a.groups, ∃ arity,
    Entries.get? group.1 checkOptions = some arity ∧ Suits arity group.2 := by
  unfold groups
  simp only [List.forall_mem_cons]
  exact ⟨⟨_, rfl, suits_once (some a.definitions)⟩, ⟨_, rfl, suits_once a.newDoc⟩,
    ⟨_, rfl, suits_once a.oldDoc⟩, ⟨_, rfl, suits_once a.user⟩, ⟨_, rfl, suits_many a.roles⟩,
    ⟨_, rfl, suits_many a.channels⟩, ⟨_, rfl, suits_flag a.admin⟩,
    ⟨_, rfl, suits_once a.database⟩, ⟨_, rfl, suits_once (some a.host.name)⟩, nofun⟩

/-- Whatever a check is about, there are arguments that ask for it. -/
theorem parse?_toArgs (a : CheckArguments) : parse? a.toArgs = some (.check a) := by
  have hnames : Distinguished checkOptions := by
    unfold Distinguished
    decide
  have hnodup : (Entries.keys a.groups).Nodup := by
    show (Entries.keys checkOptions).Nodup
    decide
  have hread : readOptions? checkOptions ((spread a.groups).map written) = some (spread a.groups) :=
    readOptions?_spread hnames hnodup a.groups_suit
  have hvalues {name : String} {values : List String} (h : (name, values.map some) ∈ a.groups) :
      valuesOf (spread a.groups) name = values :=
    valuesOf_spread hnodup h
  have hvalue {name : String} {value : Option String}
      (h : (name, value.toList.map some) ∈ a.groups) : valueOf? (spread a.groups) name = value := by
    rw [valueOf?, hvalues h, Option.head?_toList]
  have hdefinitions : valueOf? (spread a.groups) "definitions" = some a.definitions :=
    hvalue (by simp [CheckArguments.groups])
  have hnew : valueOf? (spread a.groups) "new" = a.newDoc :=
    hvalue (by simp [CheckArguments.groups])
  have hold : valueOf? (spread a.groups) "old" = a.oldDoc :=
    hvalue (by simp [CheckArguments.groups])
  have huser : valueOf? (spread a.groups) "user" = a.user :=
    hvalue (by simp [CheckArguments.groups])
  have hroles : valuesOf (spread a.groups) "role" = a.roles :=
    hvalues (by simp [CheckArguments.groups])
  have hchannels : valuesOf (spread a.groups) "channel" = a.channels :=
    hvalues (by simp [CheckArguments.groups])
  have hadmin : Entries.contains "admin" (spread a.groups) = a.admin := by
    have hgroup : ("admin", if a.admin then [none] else []) ∈ a.groups := by
      simp [CheckArguments.groups]
    rw [contains_spread hnodup hgroup]
    cases a.admin <;> rfl
  have hdatabase : valueOf? (spread a.groups) "database" = a.database :=
    hvalue (by simp [CheckArguments.groups])
  have hhost : valueOf? (spread a.groups) "host" = some a.host.name :=
    hvalue (by simp [CheckArguments.groups])
  have hofName : Host.ofName? a.host.name = some a.host := by
    cases a.host <;> rfl
  have hargs : checkArguments? ((spread a.groups).map written) = some a := by
    simp [checkArguments?, hread, hdefinitions, hnew, hold, huser, hroles, hchannels, hadmin,
      hdatabase, hhost, hofName]
  show (checkArguments? ((spread a.groups).map written)).map Command.check = some (.check a)
  rw [hargs]
  rfl

end WritePolicy.CommandLine
