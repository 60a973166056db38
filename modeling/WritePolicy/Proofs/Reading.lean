import WritePolicy.Proofs.DocumentContent
import WritePolicy.Proofs.Loading

/-! # Values that are read carry each key once

    A reader is two machines, one after the other. The scanner only makes tokens
    that are scalars or punctuation. The builder keeps the containers that are open:
    a field goes into an open object by insertion, which replaces what stands under
    the same key, so the keys of every frame are distinct, and so are those of the
    value that is complete in the end.

    Each machine has an invariant that one step preserves; a reader folds its step
    over the input.

    In YAML a value is composed of nodes, which were read before. There the induction
    is on the nodes, and the invariant is about the nodes that have anchors: an alias
    stands for what was composed of one of them (`Composer.UniqueKeys`).
-/

namespace WritePolicy

/-- What every step preserves holds after all of them. -/
theorem foldlM_preserves {σ α : Type} {step : σ → α → Option σ} {I : σ → Prop} {P : α → Prop}
    (hstep : ∀ s a s', I s → P a → step s a = some s' → I s') {s s' : σ} {xs : List α}
    (hs : I s) (hxs : ∀ a ∈ xs, P a) (h : xs.foldlM step s = some s') : I s' := by
  induction xs generalizing s with
  | nil =>
    cases h
    exact hs
  | cons a rest ih =>
    rw [List.foldlM_cons] at h
    obtain ⟨next, hnext, h⟩ := Option.bind_eq_some_iff.mp h
    obtain ⟨ha, hrest⟩ := List.forall_mem_cons.mp hxs
    exact ih (hstep s a next hs ha hnext) hrest h

namespace Json

/-! ## Tokens -/

/-- The token is punctuation, or a scalar that is no container. -/
def Token.Plain (t : Token) : Prop :=
  ∀ v, t = .scalar v → v.UniqueKeys

theorem Token.plain_of_ne {t : Token} (h : ∀ v, t ≠ .scalar v) : t.Plain :=
  fun v hv => absurd hv (h v)

/-- The tokens that are completed are plain. -/
def Scanner.Plain (s : Scanner) : Prop :=
  ∀ t ∈ s.tokens, t.Plain

namespace Scanner

variable {s s' : Scanner} {c : Char}

theorem plain_empty : Scanner.Plain {} := by
  intro t ht
  cases ht

theorem plain_cons {t : Token} {tokens : List Token} (ht : t.Plain)
    (h : ∀ t ∈ tokens, t.Plain) (mode : Mode) : Scanner.Plain ⟨mode, t :: tokens⟩ :=
  List.forall_mem_cons.mpr ⟨ht, h⟩

/-- Between tokens, only punctuation is completed. -/
theorem begin_plain {tokens : List Token} (h : ∀ t ∈ tokens, t.Plain)
    (hbegin : begin tokens c = some s') : s'.Plain := by
  unfold begin at hbegin
  split at hbegin
  · cases hbegin
    exact h
  · split at hbegin
    -- a numeral, a word or a string is begun, but not completed
    case h_8 =>
      split_ifs at hbegin <;> cases hbegin <;> exact h
    case h_7 =>
      cases hbegin
      exact h
    all_goals
      cases hbegin
      exact plain_cons (Token.plain_of_ne (by nofun)) h _

theorem numeral_plain {n : Number} : (Token.scalar (.number n)).Plain := by
  intro v hv
  cases hv
  exact trivial

theorem word_plain {cs : List Char} {v : Json} (h : word? cs = some v) :
    (Token.scalar v).Plain := by
  intro w hw
  cases hw
  unfold word? at h
  split at h <;> cases h <;> exact trivial

/-- One character. -/
theorem step_plain (h : s.Plain) (hstep : step s c = some s') : s'.Plain := by
  unfold step at hstep
  split at hstep
  · exact begin_plain h hstep
  · split_ifs at hstep
    · cases hstep
      refine plain_cons ?_ h _
      intro v hv
      cases hv
      exact trivial
    · cases hstep
      exact h
    · cases hstep
      exact h
  · obtain ⟨mode, _, rfl⟩ := Option.map_eq_some_iff.mp hstep
    exact h
  · split_ifs at hstep
    · cases hstep
      exact h
    · obtain ⟨n, _, hstep⟩ := Option.bind_eq_some_iff.mp hstep
      exact begin_plain (List.forall_mem_cons.mpr ⟨numeral_plain, h⟩) hstep
  · split_ifs at hstep
    · cases hstep
      exact h
    · obtain ⟨v, hv, hstep⟩ := Option.bind_eq_some_iff.mp hstep
      exact begin_plain (List.forall_mem_cons.mpr ⟨word_plain hv, h⟩) hstep

theorem finish_plain {tokens : List Token} (h : s.Plain) (hfinish : s.finish = some tokens) :
    ∀ t ∈ tokens, t.Plain := by
  unfold finish at hfinish
  split at hfinish
  · cases hfinish
    exact h
  · cases hfinish
  · obtain ⟨n, _, hfinish⟩ := Option.bind_eq_some_iff.mp hfinish
    cases hfinish
    exact List.forall_mem_cons.mpr ⟨numeral_plain, h⟩
  · obtain ⟨v, hv, hfinish⟩ := Option.bind_eq_some_iff.mp hfinish
    cases hfinish
    exact List.forall_mem_cons.mpr ⟨word_plain hv, h⟩

end Scanner

/-- The tokens of a text are plain. -/
theorem plain_of_tokens? {cs : List Char} {tokens : List Token} (h : tokens? cs = some tokens) :
    ∀ t ∈ tokens, t.Plain := by
  obtain ⟨scanner, hscanner, h⟩ := Option.bind_eq_some_iff.mp h
  obtain ⟨reversed, hfinish, h⟩ := Option.bind_eq_some_iff.mp h
  cases h
  have hplain : scanner.Plain :=
    foldlM_preserves (P := fun _ => True) (fun _ _ _ hs _ => Scanner.step_plain hs)
      Scanner.plain_empty (fun _ _ => trivial) hscanner
  intro t ht
  exact Scanner.finish_plain hplain hfinish t (List.mem_reverse.mp ht)

/-! ## Values -/

/-- What an open container holds carries each key once, and so does the container. -/
def Frame.UniqueKeys : Frame → Prop
  | .array items => ∀ x ∈ items, x.UniqueKeys
  | .object fields _ => (Json.object fields).UniqueKeys

theorem Frame.uniqueKeys_array_nil : (Frame.array []).UniqueKeys := by
  intro x hx
  cases hx

theorem uniqueKeys_object_nil : (object []).UniqueKeys := by
  refine uniqueKeys_object_iff.mpr ⟨List.nodup_nil, fun e he => ?_⟩
  cases he

theorem Frame.uniqueKeys_object_nil {key : Option String} : (Frame.object [] key).UniqueKeys :=
  Json.uniqueKeys_object_nil

/-- Items that were read last first. -/
theorem uniqueKeys_reverse {items : List Json} (h : ∀ x ∈ items, x.UniqueKeys) :
    (array items.reverse).UniqueKeys :=
  uniqueKeys_array_iff.mpr fun x hx => h x (List.mem_reverse.mp hx)

/-- The open containers carry each key once, and so does a result. -/
structure Builder.UniqueKeys (b : Builder) : Prop where
  frames : ∀ f ∈ b.frames, f.UniqueKeys
  result : ∀ v, b.expected = .nothing v → v.UniqueKeys

/-- An insertion keeps the keys of an object distinct. -/
theorem uniqueKeys_insert {fields : Entries Json} {v : Json} (h : (object fields).UniqueKeys)
    (hv : v.UniqueKeys) (key : String) : (object (Entries.insert key v fields)).UniqueKeys := by
  obtain ⟨hnodup, hfields⟩ := uniqueKeys_object_iff.mp h
  refine uniqueKeys_object_iff.mpr ⟨Entries.nodup_keys_insert hnodup, fun e he => ?_⟩
  rcases Entries.mem_insert he with rfl | he
  · exact hv
  · exact hfields e he

namespace Builder

variable {frames : List Frame} {b b' : Builder} {t : Token}

theorem uniqueKeys_empty : Builder.UniqueKeys {} := by
  refine ⟨fun f hf => ?_, fun v hv => ?_⟩
  · cases hf
  · cases hv

/-- A complete value goes into the innermost container. -/
theorem complete_uniqueKeys (h : ∀ f ∈ frames, f.UniqueKeys) {v : Json} (hv : v.UniqueKeys)
    (hcomplete : complete frames v = some b') : b'.UniqueKeys := by
  unfold complete at hcomplete
  split at hcomplete
  · cases hcomplete
    refine ⟨nofun, fun w hw => ?_⟩
    cases hw
    exact hv
  · cases hcomplete
    obtain ⟨hitems, houter⟩ := List.forall_mem_cons.mp h
    exact ⟨List.forall_mem_cons.mpr ⟨List.forall_mem_cons.mpr ⟨hv, hitems⟩, houter⟩, nofun⟩
  · cases hcomplete
    obtain ⟨hfields, houter⟩ := List.forall_mem_cons.mp h
    exact ⟨List.forall_mem_cons.mpr ⟨uniqueKeys_insert hfields hv _, houter⟩, nofun⟩
  · cases hcomplete

theorem push_uniqueKeys (h : ∀ f ∈ frames, f.UniqueKeys) {frame : Frame}
    (hframe : frame.UniqueKeys) {expected : Expected} (hexpected : ∀ v, expected ≠ .nothing v)
    (hpush : push frames frame expected = some b') : b'.UniqueKeys := by
  unfold push at hpush
  split_ifs at hpush
  cases hpush
  exact ⟨List.forall_mem_cons.mpr ⟨hframe, h⟩, fun v hv => absurd hv (hexpected v)⟩

theorem value_uniqueKeys (h : ∀ f ∈ frames, f.UniqueKeys) (ht : t.Plain)
    (hvalue : value frames t = some b') : b'.UniqueKeys := by
  unfold value at hvalue
  split at hvalue
  · exact complete_uniqueKeys h (ht _ rfl) hvalue
  · exact push_uniqueKeys h Frame.uniqueKeys_array_nil (by nofun) hvalue
  · exact push_uniqueKeys h Frame.uniqueKeys_object_nil (by nofun) hvalue
  · cases hvalue

theorem close_uniqueKeys (h : ∀ f ∈ frames, f.UniqueKeys)
    (hclose : close frames t = some b') : b'.UniqueKeys := by
  unfold close at hclose
  split at hclose
  · split at hclose
    · obtain ⟨hitems, houter⟩ := List.forall_mem_cons.mp h
      exact complete_uniqueKeys houter (uniqueKeys_reverse hitems) hclose
    · cases hclose
  · split at hclose
    · obtain ⟨hfields, houter⟩ := List.forall_mem_cons.mp h
      exact complete_uniqueKeys houter hfields hclose
    · cases hclose
  · cases hclose

theorem key_uniqueKeys (h : ∀ f ∈ frames, f.UniqueKeys) (hkey : key frames t = some b') :
    b'.UniqueKeys := by
  unfold key at hkey
  split at hkey
  · split at hkey
    · cases hkey
      obtain ⟨hfields, houter⟩ := List.forall_mem_cons.mp h
      exact ⟨List.forall_mem_cons.mpr ⟨hfields, houter⟩, nofun⟩
    · cases hkey
  · cases hkey

/-- One token. -/
theorem step_uniqueKeys (h : b.UniqueKeys) (ht : t.Plain) (hstep : step b t = some b') :
    b'.UniqueKeys := by
  unfold step at hstep
  split at hstep
  · exact value_uniqueKeys h.frames ht hstep
  · exact close_uniqueKeys h.frames hstep
  · exact value_uniqueKeys h.frames ht hstep
  · exact key_uniqueKeys h.frames hstep
  · exact close_uniqueKeys h.frames hstep
  · exact key_uniqueKeys h.frames hstep
  · cases hstep
    exact ⟨h.frames, nofun⟩
  · split at hstep
    · cases hstep
      exact ⟨h.frames, nofun⟩
    · cases hstep
      exact ⟨h.frames, nofun⟩
    · cases hstep
  · exact close_uniqueKeys h.frames hstep
  · cases hstep

end Builder

/-- A value that is read from a text carries each key once, in every object. -/
theorem uniqueKeys_of_parse? {text : String} {v : Json} (h : parse? text = some v) :
    v.UniqueKeys := by
  obtain ⟨tokens, htokens, h⟩ := Option.bind_eq_some_iff.mp h
  obtain ⟨builder, hbuilder, h⟩ := Option.bind_eq_some_iff.mp h
  have hunique : builder.UniqueKeys :=
    foldlM_preserves (fun _ _ _ => Builder.step_uniqueKeys) Builder.uniqueKeys_empty
      (plain_of_tokens? htokens) hbuilder
  split at h
  · next hresult =>
    cases h
    exact hunique.result _ hresult
  · cases h

end Json

/-! ## Values of YAML -/

namespace Yaml

open Json (uniqueKeys_insert uniqueKeys_object_nil)

/-! ### Scalars -/

/-- A scalar is no container. -/
theorem numberOrText?_uniqueKeys {s : String} {v : Json} (h : numberOrText? s = some v) :
    v.UniqueKeys := by
  unfold numberOrText? at h
  -- whatever the digits denote, a number or a text comes of it
  repeat' split at h
  all_goals cases h
  all_goals exact trivial

theorem plainValue?_uniqueKeys {s : String} {v : Json} (h : plainValue? s = some v) :
    v.UniqueKeys := by
  unfold plainValue? at h
  split at h
  · cases h
    exact trivial
  · split at h
    · cases h
      exact trivial
    · exact numberOrText?_uniqueKeys h

theorem integer?_uniqueKeys {s : String} {v : Json} (h : integer? s = some v) :
    v.UniqueKeys := by
  unfold integer? at h
  obtain ⟨n, -, h⟩ := Option.bind_eq_some_iff.mp h
  split_ifs at h
  cases h
  exact trivial

theorem float?_uniqueKeys {s : String} {v : Json} (h : float? s = some v) : v.UniqueKeys := by
  unfold float? at h
  dsimp only at h
  split at h
  · cases h
    exact trivial
  · obtain ⟨x, -, rfl⟩ := Option.map_eq_some_iff.mp h
    exact trivial

theorem Scalar.value?_uniqueKeys {s : Scalar} {tag : Option String} {v : Json}
    (h : s.value? tag = some v) : v.UniqueKeys := by
  unfold Scalar.value? at h
  split at h
  · split at h
    · exact plainValue?_uniqueKeys h
    · cases h
      exact trivial
  · split at h
    · cases h
      exact trivial
    · cases h
  · obtain ⟨b, -, rfl⟩ := Option.map_eq_some_iff.mp h
    exact trivial
  · exact integer?_uniqueKeys h
  · exact float?_uniqueKeys h
  · split at h
    · cases h
    · cases h
      exact trivial

/-! ### Nodes -/

/-- What a node stands for carries each key once. -/
def Content.UniqueKeys (content : Content) : Prop :=
  ∀ v, content.value? = some v → v.UniqueKeys

theorem Content.uniqueKeys_scalar {s : Scalar} {tag : Option String} :
    (Content.scalar s tag).UniqueKeys :=
  fun _ hv => Scalar.value?_uniqueKeys hv

theorem Content.uniqueKeys_collection {v : Json} (h : v.UniqueKeys) :
    (Content.collection v).UniqueKeys := by
  intro w hw
  cases hw
  exact h

/-- What the nodes that have anchors stand for, as far as they are complete. -/
def Composer.UniqueKeys (c : Composer) : Prop :=
  ∀ name node, (name, some node) ∈ c.anchors → node.content.UniqueKeys

namespace Composer

variable {c : Composer} {anchor : Option String} {node : Composed}

theorem begin_uniqueKeys (h : c.UniqueKeys) : (c.begin anchor).UniqueKeys := by
  intro name node hmem
  cases anchor with
  | none => exact h name node hmem
  | some a =>
    cases hmem with
    | tail _ hmem => exact h name node hmem

/-- An entry after a completion was there before, or is of the completed node. -/
theorem mem_completed {a name : String} {other : Composed}
    {anchors : List (String × Option Composed)}
    (h : (name, some other) ∈ completed a node anchors) :
    (name, some other) ∈ anchors ∨ other = node := by
  induction anchors with
  | nil => cases h
  | cons e rest ih =>
    obtain ⟨key, found⟩ := e
    cases found with
    | none =>
      rw [completed] at h
      split_ifs at h
      · cases h with
        | head => exact .inr rfl
        | tail _ h => exact .inl (.tail _ h)
      · cases h with
        | tail _ h => exact (ih h).imp_left (List.mem_cons_of_mem _)
    | some _ =>
      rw [completed] at h
      · cases h with
        | head => exact .inl (.head _)
        | tail _ h => exact (ih h).imp_left (List.mem_cons_of_mem _)
      · nofun

theorem complete_uniqueKeys (h : c.UniqueKeys) (hnode : node.content.UniqueKeys) :
    (c.complete anchor node).UniqueKeys := by
  intro name other hmem
  cases anchor with
  | none => exact h name other hmem
  | some a =>
    rcases mem_completed hmem with hmem | rfl
    · exact h name other hmem
    · exact hnode

theorem target?_uniqueKeys {name : String} (h : c.UniqueKeys)
    (htarget : c.target? name = some node) : node.content.UniqueKeys := by
  obtain ⟨found, hfound, htarget⟩ := Option.bind_eq_some_iff.mp htarget
  cases htarget
  obtain ⟨before, after, hanchors, -⟩ := List.lookup_eq_some_iff.mp hfound
  exact h name node (hanchors ▸ List.mem_append_cons_self)

theorem collect?_uniqueKeys {c' before : Composer} {p : Properties} {v : Json} {depth : Nat}
    (h : c.UniqueKeys) (hv : v.UniqueKeys)
    (hcollect : c.collect? before p v depth = some (node, c')) :
    node.content.UniqueKeys ∧ c'.UniqueKeys := by
  unfold collect? at hcollect
  dsimp only at hcollect
  split at hcollect
  · cases hcollect
  · cases hcollect
    have hcontent := Content.uniqueKeys_collection hv
    exact ⟨hcontent, complete_uniqueKeys h hcontent⟩

end Composer

mutual

/-- A node. An alias stands for what was composed before. -/
theorem compose?_uniqueKeys {c c' : Composer} {node : Composed} (hc : c.UniqueKeys) :
    ∀ {n : Node}, n.compose? c = some (node, c') → node.content.UniqueKeys ∧ c'.UniqueKeys
  | .alias name, h => by
    obtain ⟨target, htarget, h⟩ := Option.bind_eq_some_iff.mp h
    cases h
    exact ⟨Composer.target?_uniqueKeys hc htarget, hc⟩
  | .scalar p s, h => by
    cases h
    exact ⟨Content.uniqueKeys_scalar,
      Composer.complete_uniqueKeys (Composer.begin_uniqueKeys hc) Content.uniqueKeys_scalar⟩
  | .sequence p items, h => by
    obtain ⟨⟨values, depth, after⟩, hitems, h⟩ := Option.bind_eq_some_iff.mp h
    obtain ⟨hvalues, hafter⟩ := composeItems?_uniqueKeys (Composer.begin_uniqueKeys hc) hitems
    exact Composer.collect?_uniqueKeys hafter (Json.uniqueKeys_array_iff.mpr hvalues) h
  | .mapping p fields, h => by
    obtain ⟨⟨entries, depth, after⟩, hfields, h⟩ := Option.bind_eq_some_iff.mp h
    obtain ⟨hentries, hafter⟩ := composeFields?_uniqueKeys uniqueKeys_object_nil
      (Composer.begin_uniqueKeys hc) hfields
    exact Composer.collect?_uniqueKeys hafter hentries h

theorem composeItems?_uniqueKeys {c c' : Composer} {values : List Json} {depth : Nat}
    (hc : c.UniqueKeys) : ∀ {items : List Node},
    composeItems? items c = some (values, depth, c') →
      (∀ v ∈ values, v.UniqueKeys) ∧ c'.UniqueKeys
  | [], h => by
    cases h
    exact ⟨List.forall_mem_nil _, hc⟩
  | item :: rest, h => by
    obtain ⟨⟨node, c₁⟩, hitem, h⟩ := Option.bind_eq_some_iff.mp h
    obtain ⟨v, hv, h⟩ := Option.bind_eq_some_iff.mp h
    obtain ⟨⟨values, depth, c₂⟩, hrest, h⟩ := Option.bind_eq_some_iff.mp h
    cases h
    obtain ⟨hnode, hc₁⟩ := compose?_uniqueKeys hc hitem
    obtain ⟨hvalues, hc₂⟩ := composeItems?_uniqueKeys hc₁ hrest
    exact ⟨List.forall_mem_cons.mpr ⟨hnode v hv, hvalues⟩, hc₂⟩

/-- The entries that were read before are kept or replaced. -/
theorem composeFields?_uniqueKeys {c c' : Composer} {entries entries' : Entries Json}
    {depth : Nat} (hentries : (Json.object entries).UniqueKeys) (hc : c.UniqueKeys) :
    ∀ {fields : List (Node × Node)},
    composeFields? fields entries c = some (entries', depth, c') →
      (Json.object entries').UniqueKeys ∧ c'.UniqueKeys
  | [], h => by
    cases h
    exact ⟨hentries, hc⟩
  | (key, value) :: rest, h => by
    obtain ⟨⟨keyNode, c₁⟩, hkey, h⟩ := Option.bind_eq_some_iff.mp h
    obtain ⟨name, -, h⟩ := Option.bind_eq_some_iff.mp h
    obtain ⟨⟨node, c₂⟩, hvalue, h⟩ := Option.bind_eq_some_iff.mp h
    obtain ⟨v, hv, h⟩ := Option.bind_eq_some_iff.mp h
    obtain ⟨⟨entries', depth, c₃⟩, hrest, h⟩ := Option.bind_eq_some_iff.mp h
    cases h
    obtain ⟨-, hc₁⟩ := compose?_uniqueKeys hc hkey
    obtain ⟨hnode, hc₂⟩ := compose?_uniqueKeys hc₁ hvalue
    exact composeFields?_uniqueKeys (uniqueKeys_insert hentries (hnode v hv) name) hc₂ hrest

end

/-- A value that is read from YAML carries each key once, in every object. -/
theorem uniqueKeys_of_parse? {text : String} {v : Json} (h : parse? text = some v) :
    v.UniqueKeys := by
  obtain ⟨tokens, -, h⟩ := Option.bind_eq_some_iff.mp h
  obtain ⟨n, -, h⟩ := Option.bind_eq_some_iff.mp h
  obtain ⟨⟨node, c⟩, hnode, h⟩ := Option.bind_eq_some_iff.mp h
  have hempty : Composer.UniqueKeys {} := by
    intro name node hmem
    cases hmem
  dsimp only at h
  split at h
  · exact (compose?_uniqueKeys hempty hnode).1 v h
  · cases h

end Yaml

/-! ## Documents -/

namespace Document

/-- A document from a value that carries each key once. -/
theorem isRead_of_ofJson {v : Json} {d : Document} (hkeys : v.UniqueKeys)
    (h : ofJson v = .ok d) : d.IsRead := by
  cases v with
  | object fields =>
    obtain ⟨attachments, hattachments, h⟩ := bind_eq_ok.mp h
    cases h
    exact ⟨hkeys, hattachments⟩
  | _ => cases h

/-- A document from a text is read. -/
theorem isRead_of_parse {text : String} {d : Document} (h : parse text = .ok d) : d.IsRead := by
  unfold parse at h
  split at h
  · next v hv => exact isRead_of_ofJson (Json.uniqueKeys_of_parse? hv) h
  · cases h

/-- The marker of a deletion is a document as it is read. -/
theorem isRead_deletionMarker : deletionMarker.IsRead :=
  isRead_of_ofJson (v := .object [("_deleted", .bool true)])
    (Json.uniqueKeys_object_iff.mpr ⟨List.nodup_singleton _, by
      intro e he
      cases List.mem_singleton.mp he
      exact trivial⟩) rfl

end Document

end WritePolicy
