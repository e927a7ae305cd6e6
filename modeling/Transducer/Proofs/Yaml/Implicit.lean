import Transducer.Proofs.Outcome
import Transducer.Yaml.Load

/-!
# Scalars whose tag comes from their text

A schema is asked about the scalars of a tree whose tag is implicit (`Tree.texts`). Such a scalar
was written plainly or with the tag `!` in front of it (`Token.Marked`), or it stands for a node
that is left out and has no text (`Tree.known_ofTokens`). So two schemas that agree on those texts
read the same data (`load_congr`).
-/

namespace Transducer.Yaml

open Outcome (bind_eq_ok_iff)

/-- A scalar among the tokens that has the tag `!` in front of it, maybe with an anchor between
them. -/
inductive Token.Marked (handles : Tree.Handles) (tokens : List Token) (text : Text) : Prop
  | direct {handle : Option String} {suffix : String} {isPlain : Bool}
      (htag : Tree.fullTag handles handle suffix = .ok "!")
      (h : [.tag handle suffix, .scalar text isPlain] <:+: tokens)
  | anchored {handle : Option String} {suffix name : String} {isPlain : Bool}
      (htag : Tree.fullTag handles handle suffix = .ok "!")
      (h : [.tag handle suffix, .anchor name, .scalar text isPlain] <:+: tokens)

namespace Tree

mutual

/-- The texts of the scalars of a tree whose tag comes from their text. -/
def texts : Tree → List Text
  | .alias _ => []
  | .scalar _ tag text => if tag = .implicit then [text] else []
  | .sequence _ _ items => itemTexts items
  | .mapping _ _ entries => entryTexts entries

/-- `texts` for the items of a sequence. -/
def itemTexts : List Tree → List Text
  | [] => []
  | item :: rest => texts item ++ itemTexts rest

/-- `texts` for the entries of a mapping. -/
def entryTexts : List (Tree × Tree) → List Text
  | [] => []
  | (key, value) :: rest => texts key ++ (texts value ++ entryTexts rest)

end

/-! ## Properties -/

/-- What stands in front of a node: its tokens are followed by the rest, and the tag `!` by at most
an anchor. -/
theorem properties_eq_ok {handles : Handles} {tokens rest : List Token}
    {anchor tag : Option String} (h : properties handles tokens = .ok (anchor, tag, rest)) :
    rest <:+ tokens ∧ (tag = some "!" → ∃ handle suffix,
      fullTag handles handle suffix = .ok "!" ∧ (.tag handle suffix :: rest <:+ tokens ∨
        ∃ name, .tag handle suffix :: .anchor name :: rest <:+ tokens)) := by
  unfold properties at h
  split at h
  next name handle suffix rest' =>
    obtain ⟨full, hfull, h⟩ := bind_eq_ok_iff.1 h
    obtain ⟨rfl, rfl, rfl⟩ : some name = anchor ∧ some full = tag ∧ rest' = rest := by
      simpa using Except.ok.inj h
    refine ⟨⟨[.anchor name, .tag handle suffix], rfl⟩, fun htag => ⟨handle, suffix, ?_, .inl ?_⟩⟩
    · rw [hfull, Option.some.inj htag]
    · exact ⟨[.anchor name], rfl⟩
  next name rest' _ =>
    obtain ⟨rfl, rfl, rfl⟩ : some name = anchor ∧ none = tag ∧ rest' = rest := by
      simpa using Except.ok.inj h
    exact ⟨⟨[.anchor name], rfl⟩, nofun⟩
  next handle suffix name rest' =>
    obtain ⟨full, hfull, h⟩ := bind_eq_ok_iff.1 h
    obtain ⟨rfl, rfl, rfl⟩ : some name = anchor ∧ some full = tag ∧ rest' = rest := by
      simpa using Except.ok.inj h
    refine ⟨⟨[.tag handle suffix, .anchor name], rfl⟩, fun htag =>
      ⟨handle, suffix, ?_, .inr ⟨name, List.suffix_rfl⟩⟩⟩
    rw [hfull, Option.some.inj htag]
  next => cases h
  next handle suffix rest' _ _ =>
    obtain ⟨full, hfull, h⟩ := bind_eq_ok_iff.1 h
    obtain ⟨rfl, rfl, rfl⟩ : none = anchor ∧ some full = tag ∧ rest' = rest := by
      simpa using Except.ok.inj h
    refine ⟨⟨[.tag handle suffix], rfl⟩, fun htag =>
      ⟨handle, suffix, ?_, .inl List.suffix_rfl⟩⟩
    rw [hfull, Option.some.inj htag]
  next =>
    obtain ⟨rfl, rfl, rfl⟩ : none = anchor ∧ none = tag ∧ tokens = rest := by
      simpa using Except.ok.inj h
    exact ⟨List.suffix_rfl, nofun⟩

/-! ## Reading a tree -/

section Reading

variable {α β : Type} (handles : Handles) (all : List Token)

/-- Texts that are empty or those of scalars among the tokens, plain or with the tag `!`. -/
def Known (texts : List Text) : Prop :=
  ∀ t ∈ texts, t = [] ∨ .scalar t true ∈ all ∨ Token.Marked handles all t

/-- What is read from a place in the tokens leads to a place further on, and its texts are known. -/
def Takes (texts : α → List Text) (x : Except Failure (α × List Token)) : Prop :=
  ∀ a rest, x = .ok (a, rest) → rest <:+ all ∧ Known handles all (texts a)

variable {handles all} {f : α → List Text} {g : β → List Text}

/-- Texts in two lists are known if those of both are. -/
theorem known_append {xs ys : List Text} (hx : Known handles all xs) (hy : Known handles all ys) :
    Known handles all (xs ++ ys) := List.forall_mem_append.2 ⟨hx, hy⟩

/-- The node that is left out has no text. -/
theorem known_empty : Known handles all empty.texts := by
  intro t ht
  rw [empty, texts, if_pos rfl] at ht
  exact .inl (List.mem_singleton.1 ht)

/-- A failure leads nowhere. -/
theorem takes_error (why : Failure) : Takes handles all f (.error why) := nofun

/-- A token that cannot stand somewhere is a failure. -/
theorem unexpected_ne_ok (expected : String) (tokens : List Token) (a : α) :
    unexpected expected tokens ≠ .ok a := by
  unfold unexpected
  split <;> nofun

/-- A token that cannot stand somewhere leads nowhere. -/
theorem takes_unexpected (expected : String) (tokens : List Token) :
    Takes handles all f (unexpected expected tokens) :=
  fun _ _ h => absurd h (unexpected_ne_ok _ _ _)

/-- What is there already leads on if its texts are known. -/
theorem takes_pure {a : α} {rest : List Token} (hrest : rest <:+ all)
    (ha : Known handles all (f a)) : Takes handles all f (pure (a, rest)) := by
  intro a' rest' h
  obtain ⟨rfl, rfl⟩ := Prod.mk.inj (Except.ok.inj h)
  exact ⟨hrest, ha⟩

/-- Reading two things in a row. -/
theorem Takes.bind {x : Except Failure (α × List Token)}
    {next : α × List Token → Except Failure (β × List Token)} (hx : Takes handles all f x)
    (hnext : ∀ a rest, rest <:+ all → Known handles all (f a) →
      Takes handles all g (next (a, rest))) : Takes handles all g (x >>= next) := by
  intro b rest h
  obtain ⟨⟨a, rest'⟩, ha, hb⟩ := bind_eq_ok_iff.1 h
  obtain ⟨hrest, hknown⟩ := hx a rest' ha
  exact hnext a rest' hrest hknown b rest hb

/-- Reading after a step that reads nothing. -/
theorem takes_of_bind {x : Except Failure α} {next : α → Except Failure (β × List Token)}
    (hnext : ∀ a, x = .ok a → Takes handles all g (next a)) : Takes handles all g (x >>= next) := by
  intro b rest h
  obtain ⟨a, ha, hb⟩ := bind_eq_ok_iff.1 h
  exact hnext a ha b rest hb

/-- What is read with the given number of steps left. -/
structure Reading (handles : Handles) (all : List Token) (fuel : Nat) : Prop where
  node : ∀ room block indentless tokens, tokens <:+ all →
    Takes handles all texts (node handles room block indentless fuel tokens)
  blockItems : ∀ room tokens, tokens <:+ all →
    Takes handles all itemTexts (blockItems handles room fuel tokens)
  indentlessItems : ∀ room tokens, tokens <:+ all →
    Takes handles all itemTexts (indentlessItems handles room fuel tokens)
  blockEntries : ∀ room tokens, tokens <:+ all →
    Takes handles all entryTexts (blockEntries handles room fuel tokens)
  blockPart : ∀ room tokens, tokens <:+ all →
    Takes handles all texts (blockPart handles room fuel tokens)
  flowItems : ∀ room first tokens, tokens <:+ all →
    Takes handles all itemTexts (flowItems handles room fuel first tokens)
  flowEntries : ∀ room first tokens, tokens <:+ all →
    Takes handles all entryTexts (flowEntries handles room fuel first tokens)

/-- With no step left nothing is read. -/
theorem reading_zero : Reading handles all 0 where
  node _ _ _ tokens _ := by unfold Tree.node; exact takes_unexpected _ tokens
  blockItems _ tokens _ := by unfold Tree.blockItems; exact takes_unexpected _ tokens
  indentlessItems _ tokens _ := by unfold Tree.indentlessItems; exact takes_unexpected _ tokens
  blockEntries _ tokens _ := by unfold Tree.blockEntries; exact takes_unexpected _ tokens
  blockPart _ tokens _ := by unfold Tree.blockPart; exact takes_unexpected _ tokens
  flowItems _ _ tokens _ := by unfold Tree.flowItems; exact takes_unexpected _ tokens
  flowEntries _ _ tokens _ := by unfold Tree.flowEntries; exact takes_unexpected _ tokens

variable {fuel : Nat}

/-- A scalar whose tag comes from its text is plain or has the tag `!`. -/
theorem scalarTag_eq_implicit {isPlain : Bool} {tag : Option String}
    (h : scalarTag isPlain tag = .implicit) : tag = some "!" ∨ isPlain = true := by
  unfold scalarTag at h
  split at h
  next => exact .inl rfl
  next => cases h
  next =>
    split at h
    next hplain => exact .inr hplain
    next => cases h

/-- A part of the tokens behind which all is read. -/
theorem suffix_of_cons {t : Token} {rest : List Token} (h : t :: rest <:+ all) : rest <:+ all :=
  (List.suffix_cons t rest).trans h

/-- A scalar after its properties. -/
theorem known_scalar {tokens rest : List Token} {anchor tag : Option String} {text : Text}
    {isPlain : Bool} (h : tokens <:+ all)
    (hprops : properties handles tokens = .ok (anchor, tag, .scalar text isPlain :: rest)) :
    Known handles all (Tree.scalar anchor (scalarTag isPlain tag) text).texts := by
  intro t ht
  rw [texts] at ht
  split at ht
  next himplicit =>
    obtain rfl := List.mem_singleton.1 ht
    obtain ⟨hrest, htag⟩ := properties_eq_ok hprops
    right
    obtain hmark | rfl := scalarTag_eq_implicit himplicit
    · -- The tag comes last of the properties, or an anchor does.
      right
      obtain ⟨handle, suffix, hfull, hdirect | ⟨name, hanchored⟩⟩ := htag hmark
      · obtain ⟨before, hbefore⟩ := hdirect.trans h
        exact .direct hfull ⟨before, rest, by simpa using hbefore⟩
      · obtain ⟨before, hbefore⟩ := hanchored.trans h
        exact .anchored hfull ⟨before, rest, by simpa using hbefore⟩
    · left
      exact (hrest.trans h).subset (List.mem_cons_self ..)
  next => cases ht

/-- A scalar without text. -/
theorem known_blank (anchor : Option String) (tag : ScalarTag) :
    Known handles all (Tree.scalar anchor tag "").texts := by
  intro t ht
  rw [texts] at ht
  split at ht
  next => exact .inl (List.mem_singleton.1 ht)
  next => cases ht

/-- Where a node cannot start, there is one without text if it has properties, else none. -/
theorem takes_blank {anchor tag : Option String} {tokens : List Token} (h : tokens <:+ all) :
    Takes handles all texts
      (if anchor.isSome || tag.isSome then pure (.scalar anchor (scalarTag true tag) "", tokens)
        else unexpected "a node" tokens) := by
  split
  · exact takes_pure h (known_blank _ _)
  · exact takes_unexpected _ _

/-- One step further into a node. -/
theorem reading_node (ih : Reading handles all fuel) (room : Nat) (block indentless : Bool)
    {tokens : List Token} (h : tokens <:+ all) :
    Takes handles all texts (node handles room block indentless (fuel + 1) tokens) := by
  unfold node
  split
  next => exact takes_unexpected _ _
  next name rest =>
    exact takes_pure (suffix_of_cons h) (by intro t ht; rw [texts] at ht; cases ht)
  next fuel' hfuel _ =>
    obtain rfl := Nat.succ.inj hfuel
    refine takes_of_bind fun props hprops => ?_
    obtain ⟨anchor, tag, rest⟩ := props
    have hrest := (properties_eq_ok hprops).1.trans h
    dsimp only
    split
    next => exact takes_error _
    next =>
      -- A dash starts a sequence only where one without indentation may stand.
      split
      · refine takes_of_bind fun room' _ => ?_
        refine (ih.indentlessItems room' _ hrest).bind fun items rest' hrest' hitems => ?_
        exact takes_pure hrest' hitems
      · exact takes_blank hrest
    next text isPlain rest' => exact takes_pure (suffix_of_cons hrest) (known_scalar h hprops)
    next rest' =>
      refine takes_of_bind fun room' _ => ?_
      refine (ih.flowItems room' true _ (suffix_of_cons hrest)).bind
        fun items rest' hrest' hitems => ?_
      exact takes_pure hrest' hitems
    next rest' =>
      refine takes_of_bind fun room' _ => ?_
      refine (ih.flowEntries room' true _ (suffix_of_cons hrest)).bind
        fun entries rest' hrest' hentries => ?_
      exact takes_pure hrest' hentries
    next after =>
      split
      · refine takes_of_bind fun room' _ => ?_
        refine (ih.blockItems room' _ (suffix_of_cons hrest)).bind
          fun items rest' hrest' hitems => ?_
        exact takes_pure hrest' hitems
      · exact takes_blank hrest
    next after =>
      split
      · refine takes_of_bind fun room' _ => ?_
        refine (ih.blockEntries room' _ (suffix_of_cons hrest)).bind
          fun entries rest' hrest' hentries => ?_
        exact takes_pure hrest' hentries
      · exact takes_blank hrest
    next => exact takes_blank hrest

/-- An item and the items after it. -/
theorem known_items {item : Tree} {items : List Tree} (hitem : Known handles all item.texts)
    (hitems : Known handles all (itemTexts items)) :
    Known handles all (itemTexts (item :: items)) := by
  rw [itemTexts]
  exact known_append hitem hitems

/-- An entry and the entries after it. -/
theorem known_entries {key value : Tree} {entries : List (Tree × Tree)}
    (hkey : Known handles all key.texts) (hvalue : Known handles all value.texts)
    (hentries : Known handles all (entryTexts entries)) :
    Known handles all (entryTexts ((key, value) :: entries)) := by
  rw [entryTexts]
  exact known_append hkey (known_append hvalue hentries)

/-- No items. -/
theorem known_items_nil : Known handles all (itemTexts []) := by
  intro t ht
  rw [itemTexts] at ht
  cases ht

/-- No entries. -/
theorem known_entries_nil : Known handles all (entryTexts []) := by
  intro t ht
  rw [entryTexts] at ht
  cases ht

/-- One step further into the items of a block sequence. -/
theorem reading_blockItems (ih : Reading handles all fuel) (room : Nat) {tokens : List Token}
    (h : tokens <:+ all) :
    Takes handles all itemTexts (blockItems handles room (fuel + 1) tokens) := by
  unfold blockItems
  split
  next => exact takes_unexpected _ _
  next rest => exact takes_pure (suffix_of_cons h) known_items_nil
  next fuel' rest hfuel =>
    obtain rfl := Nat.succ.inj hfuel
    have hrest := suffix_of_cons h
    extract_lets last
    -- With or without an item behind the dash, the others follow.
    have hlast (item : Tree) (rest : List Token) (hrest : rest <:+ all)
        (hitem : Known handles all item.texts) : Takes handles all itemTexts (last (item, rest)) :=
      (ih.blockItems room rest hrest).bind fun _ _ hrest' hitems =>
        takes_pure hrest' (known_items hitem hitems)
    split
    next => exact hlast empty _ hrest known_empty
    next => exact hlast empty _ hrest known_empty
    next => exact (ih.node room true false _ hrest).bind hlast
  next => exact takes_unexpected _ _

/-- One step further into the items of a sequence at the indentation of its parent mapping. -/
theorem reading_indentlessItems (ih : Reading handles all fuel) (room : Nat) {tokens : List Token}
    (h : tokens <:+ all) :
    Takes handles all itemTexts (indentlessItems handles room (fuel + 1) tokens) := by
  unfold indentlessItems
  split
  next => exact takes_unexpected _ _
  next fuel' rest hfuel =>
    obtain rfl := Nat.succ.inj hfuel
    have hrest := suffix_of_cons h
    extract_lets last
    have hlast (item : Tree) (rest : List Token) (hrest : rest <:+ all)
        (hitem : Known handles all item.texts) : Takes handles all itemTexts (last (item, rest)) :=
      (ih.indentlessItems room rest hrest).bind fun _ _ hrest' hitems =>
        takes_pure hrest' (known_items hitem hitems)
    split
    next => exact hlast empty _ hrest known_empty
    next => exact hlast empty _ hrest known_empty
    next => exact hlast empty _ hrest known_empty
    next => exact hlast empty _ hrest known_empty
    next => exact (ih.node room true false _ hrest).bind hlast
  next => exact takes_pure h known_items_nil

/-- One step further into a key or a value of a block mapping. -/
theorem reading_blockPart (ih : Reading handles all fuel) (room : Nat) {tokens : List Token}
    (h : tokens <:+ all) : Takes handles all texts (blockPart handles room (fuel + 1) tokens) := by
  unfold blockPart
  split
  next => exact takes_pure h known_empty
  next => exact takes_pure h known_empty
  next => exact takes_pure h known_empty
  next => exact ih.node room true true _ h

/-- One step further into the entries of a block mapping. -/
theorem reading_blockEntries (ih : Reading handles all fuel) (room : Nat) {tokens : List Token}
    (h : tokens <:+ all) :
    Takes handles all entryTexts (blockEntries handles room (fuel + 1) tokens) := by
  unfold blockEntries
  split
  next => exact takes_unexpected _ _
  next rest => exact takes_pure (suffix_of_cons h) known_entries_nil
  next fuel' rest hfuel =>
    obtain rfl := Nat.succ.inj hfuel
    refine (ih.blockPart room rest (suffix_of_cons h)).bind fun key rest hrest hkey => ?_
    have hlast (value : Tree) (rest : List Token) (hrest : rest <:+ all)
        (hvalue : Known handles all value.texts) : Takes handles all entryTexts (do
          let entries ← blockEntries handles room fuel rest
          pure ((key, value) :: entries.1, entries.2)) :=
      (ih.blockEntries room rest hrest).bind fun _ _ hrest' hentries =>
        takes_pure hrest' (known_entries hkey hvalue hentries)
    dsimp only
    split
    next rest' => exact (ih.blockPart room rest' (suffix_of_cons hrest)).bind hlast
    next => exact hlast empty _ hrest known_empty
  next => exact takes_unexpected _ _

/-- An item of one entry. -/
theorem known_single {key value : Tree} (hkey : Known handles all key.texts)
    (hvalue : Known handles all value.texts) :
    Known handles all (Tree.mapping none none [(key, value)]).texts := by
  rw [texts]
  exact known_entries hkey hvalue known_entries_nil

/-- What follows a comma, or the start of a collection. -/
theorem takes_afterComma {first : Bool} {tokens : List Token}
    {next : List Token → Except Failure (α × List Token)}
    (hnext : ∀ rest, rest <:+ all → Takes handles all f (next rest)) :
    tokens <:+ all → Takes handles all f (if first then next tokens else
      match tokens with
      | .flowEntry :: rest => next rest
      | tokens => unexpected "a comma" tokens >>= next) := by
  intro h
  split
  · exact hnext _ h
  · split
    next => exact hnext _ (suffix_of_cons h)
    next => exact takes_of_bind fun rest hrest => absurd hrest (unexpected_ne_ok _ _ _)

/-- One step further into the items of a flow sequence. -/
theorem reading_flowItems (ih : Reading handles all fuel) (room : Nat) (first : Bool)
    {tokens : List Token} (h : tokens <:+ all) :
    Takes handles all itemTexts (flowItems handles room (fuel + 1) first tokens) := by
  unfold flowItems
  split
  next => exact takes_unexpected _ _
  next => exact takes_pure (suffix_of_cons h) known_items_nil
  next hfuel _ =>
    obtain rfl := Nat.succ.inj hfuel
    extract_lets last
    have hlast (rest : List Token) (hrest : rest <:+ all) :
        Takes handles all itemTexts (last rest) := by
      dsimp -zeta only [last]
      split
      next => exact takes_pure (suffix_of_cons hrest) known_items_nil
      next =>
        -- The item is a key, maybe with a value.
        refine takes_of_bind fun within _ => ?_
        extract_lets keyed
        have hkeyed (key : Tree) (rest : List Token) (hrest : rest <:+ all)
            (hkey : Known handles all key.texts) :
            Takes handles all itemTexts (keyed (key, rest)) := by
          dsimp only [keyed]
          have hvalued (value : Tree) (rest : List Token) (hrest : rest <:+ all)
              (hvalue : Known handles all value.texts) : Takes handles all itemTexts (do
                let items ← flowItems handles room fuel false rest
                pure (.mapping none none [(key, value)] :: items.1, items.2)) :=
            (ih.flowItems room false rest hrest).bind fun _ _ hrest' hitems =>
              takes_pure hrest' (known_items (known_single hkey hvalue) hitems)
          split
          next =>
            have hrest' := suffix_of_cons hrest
            split
            next => exact hvalued empty _ hrest' known_empty
            next => exact hvalued empty _ hrest' known_empty
            next => exact (ih.node within false false _ hrest').bind hvalued
          next => exact hvalued empty _ hrest known_empty
        have hrest' := suffix_of_cons hrest
        split
        next => exact hkeyed empty _ hrest' known_empty
        next => exact hkeyed empty _ hrest' known_empty
        next => exact hkeyed empty _ hrest' known_empty
        next => exact (ih.node within false false _ hrest').bind hkeyed
      next =>
        refine (ih.node room false false _ hrest).bind fun item rest' hrest' hitem => ?_
        exact (ih.flowItems room false rest' hrest').bind fun _ _ hrest' hitems =>
          takes_pure hrest' (known_items hitem hitems)
    exact takes_afterComma hlast h

/-- One step further into the entries of a flow mapping. -/
theorem reading_flowEntries (ih : Reading handles all fuel) (room : Nat) (first : Bool)
    {tokens : List Token} (h : tokens <:+ all) :
    Takes handles all entryTexts (flowEntries handles room (fuel + 1) first tokens) := by
  unfold flowEntries
  split
  next => exact takes_unexpected _ _
  next => exact takes_pure (suffix_of_cons h) known_entries_nil
  next hfuel _ =>
    obtain rfl := Nat.succ.inj hfuel
    extract_lets keyed last
    have hkeyed (key : Tree) (rest : List Token) (hrest : rest <:+ all)
        (hkey : Known handles all key.texts) :
        Takes handles all entryTexts (keyed (key, rest)) := by
      dsimp only [keyed]
      -- Behind the key there is a value or none, and then the other entries.
      have hvalued (value : Tree) (rest : List Token) (hrest : rest <:+ all)
          (hvalue : Known handles all value.texts) : Takes handles all entryTexts (do
            let entries ← flowEntries handles room fuel false rest
            pure ((key, value) :: entries.1, entries.2)) :=
        (ih.flowEntries room false rest hrest).bind fun _ _ hrest' hentries =>
          takes_pure hrest' (known_entries hkey hvalue hentries)
      split
      next =>
        have hrest' := suffix_of_cons hrest
        split
        next => exact hvalued empty _ hrest' known_empty
        next => exact hvalued empty _ hrest' known_empty
        next => exact (ih.node room false false _ hrest').bind hvalued
      next => exact hvalued empty _ hrest known_empty
    have hlast (rest : List Token) (hrest : rest <:+ all) :
        Takes handles all entryTexts (last rest) := by
      dsimp -zeta only [last]
      split
      next => exact takes_pure (suffix_of_cons hrest) known_entries_nil
      next =>
        have hrest' := suffix_of_cons hrest
        split
        next => exact hkeyed empty _ hrest' known_empty
        next => exact hkeyed empty _ hrest' known_empty
        next => exact hkeyed empty _ hrest' known_empty
        next => exact (ih.node room false false _ hrest').bind hkeyed
      next =>
        refine (ih.node room false false _ hrest).bind fun key rest' hrest' hkey => ?_
        exact (ih.flowEntries room false rest' hrest').bind fun _ _ hrest' hentries =>
          takes_pure hrest' (known_entries hkey known_empty hentries)
    exact takes_afterComma hlast h

/-- Whatever is read, its texts are known. -/
theorem reading (handles : Handles) (all : List Token) (fuel : Nat) : Reading handles all fuel := by
  -- The functions call each other with one step less, so one induction serves all of them.
  induction fuel with
  | zero => exact reading_zero
  | succ fuel ih =>
    exact {
      node := fun room block indentless _ h => reading_node ih room block indentless h
      blockItems := fun room _ h => reading_blockItems ih room h
      indentlessItems := fun room _ h => reading_indentlessItems ih room h
      blockEntries := fun room _ h => reading_blockEntries ih room h
      blockPart := fun room _ h => reading_blockPart ih room h
      flowItems := fun room first _ h => reading_flowItems ih room first h
      flowEntries := fun room first _ h => reading_flowEntries ih room first h }

end Reading

/-! ## Documents -/

/-- The handles that hold in a document. -/
def documentHandles (tokens : List Token) : Handles :=
  match directives tokens false [] with
  | .ok (handles, _) => handles ++ defaultHandles
  | .error _ => defaultHandles

/-- The tokens after the directives. -/
theorem suffix_of_directives {tokens rest : List Token} {versioned : Bool} {handles known : Handles}
    (h : directives tokens versioned known = .ok (handles, rest)) : rest <:+ tokens := by
  fun_induction directives tokens versioned known with
  | case1 => cases h
  | case2 => cases h
  | case3 _ _ _ _ _ _ _ ih => exact (ih h).trans (List.suffix_cons _ _)
  | case4 => cases h
  | case5 _ _ _ _ _ _ ih => exact (ih h).trans (List.suffix_cons _ _)
  | case6 _ _ _ _ ih => exact (ih h).trans (List.suffix_cons _ _)
  | case7 =>
    obtain ⟨-, rfl⟩ := Prod.mk.inj (Except.ok.inj h)
    exact List.suffix_rfl

/-- The only document is the one that was read. -/
theorem eq_of_onlyDocument {tree tree' : Tree} {tokens : List Token}
    (h : onlyDocument tree tokens = .ok (some tree')) : tree' = tree := by
  unfold onlyDocument at h
  split at h
  next => exact (Option.some.inj (Except.ok.inj h)).symm
  next =>
    obtain ⟨_, -, h⟩ := bind_eq_ok_iff.1 h
    exact absurd h (unexpected_ne_ok _ _ _)

/-- The node of a document. -/
theorem takes_content {handles : Handles} {room : Nat} {all tokens : List Token}
    (h : tokens <:+ all) : Takes handles all texts (content handles room tokens) := by
  unfold content
  split
  next => exact takes_pure h known_empty
  next => exact takes_pure h known_empty
  next => exact takes_pure h known_empty
  next => exact takes_pure h known_empty
  next => exact (reading handles all _).node _ _ _ _ h

/-- The texts of a document are those of scalars among its tokens. -/
theorem known_explicitDocument {room : Nat} {tokens : List Token} {tree : Tree}
    (h : explicitDocument room tokens = .ok (some tree)) :
    Known (documentHandles tokens) tokens tree.texts := by
  obtain ⟨⟨handles, rest⟩, hdirectives, h⟩ := bind_eq_ok_iff.1 h
  have hhandles : documentHandles tokens = handles ++ defaultHandles := by
    rw [documentHandles, hdirectives]
  have hrest := suffix_of_directives hdirectives
  dsimp only at h
  split at h
  next =>
    obtain ⟨⟨tree', rest'⟩, hcontent, h⟩ := bind_eq_ok_iff.1 h
    rw [eq_of_onlyDocument h, hhandles]
    exact (takes_content (suffix_of_cons hrest) tree' rest' hcontent).2
  next => exact absurd h (unexpected_ne_ok _ _ _)

/-- The texts of a document are those of scalars among its tokens. -/
theorem known_ofTokens {room : Nat} {tokens : List Token} {tree : Tree}
    (h : ofTokens room tokens = .ok (some tree)) :
    Known (documentHandles tokens) tokens tree.texts := by
  unfold ofTokens at h
  split at h
  next => cases h
  next => exact known_explicitDocument h
  next => exact known_explicitDocument h
  next hnone hdirective hstart =>
    obtain ⟨⟨tree', rest'⟩, hnode, h⟩ := bind_eq_ok_iff.1 h
    -- There are no directives, and so no other handles.
    have hhandles : documentHandles tokens = defaultHandles := by
      have hdirectives : directives tokens false [] = .ok ([], tokens) := by
        unfold directives
        split
        next => exact absurd rfl (hdirective _ _)
        next => exact absurd rfl (hdirective _ _)
        next => exact absurd rfl (hdirective _ _)
        next => rfl
      rw [documentHandles, hdirectives]
      rfl
    rw [eq_of_onlyDocument h, hhandles]
    exact ((reading defaultHandles tokens _).node _ _ _ _ List.suffix_rfl tree' rest' hnode).2

end Tree

/-! ## Graphs -/

namespace Graph

variable {schema schema' : Schema}

/-- Two schemas agree on some texts. -/
def Agree (schema schema' : Schema) (texts : List Text) : Prop :=
  ∀ t ∈ texts, schema.resolve t.shown = schema'.resolve t.shown

mutual

/-- Schemas that agree on the texts of a tree give it the same nodes. -/
theorem addTree_congr : ∀ (tree : Tree) (g : Graph), Agree schema schema' tree.texts →
    addTree schema g tree = addTree schema' g tree
  | .alias name, g, _ => by
    unfold addTree
    rfl
  | .scalar anchor tag text, g, h => by
    have htag : scalarTag schema text tag = scalarTag schema' text tag := by
      cases tag with
      | implicit => exact h text (by simp [Tree.texts])
      | text => rfl
      | given uri => rfl
    unfold addTree
    rw [htag]
  | .sequence anchor tag items, g, h => by
    unfold addTree
    dsimp only
    rw [addItems_congr items _ (by rwa [Tree.texts] at h)]
  | .mapping anchor tag entries, g, h => by
    unfold addTree
    dsimp only
    rw [addEntries_congr entries _ (by rwa [Tree.texts] at h)]

/-- `addTree_congr` for the items of a sequence. -/
theorem addItems_congr : ∀ (items : List Tree) (g : Graph),
    Agree schema schema' (Tree.itemTexts items) →
    addItems schema g items = addItems schema' g items
  | [], g, _ => by
    unfold addItems
    rfl
  | item :: rest, g, h => by
    rw [Tree.itemTexts] at h
    obtain ⟨hitem, hrest⟩ := List.forall_mem_append.1 h
    have hitems (g : Graph) := addItems_congr rest g hrest
    unfold addItems
    simp only [addTree_congr item g hitem, hitems]

/-- `addTree_congr` for the entries of a mapping. -/
theorem addEntries_congr : ∀ (entries : List (Tree × Tree)) (g : Graph),
    Agree schema schema' (Tree.entryTexts entries) →
    addEntries schema g entries = addEntries schema' g entries
  | [], g, _ => by
    unfold addEntries
    rfl
  | (key, value) :: rest, g, h => by
    rw [Tree.entryTexts] at h
    obtain ⟨hkey, h⟩ := List.forall_mem_append.1 h
    obtain ⟨hvalue, hrest⟩ := List.forall_mem_append.1 h
    have hvalues (g : Graph) := addTree_congr value g hvalue
    have hentries (g : Graph) := addEntries_congr rest g hrest
    unfold addEntries
    simp only [addTree_congr key g hkey, hvalues, hentries]

end

end Graph

/-- The tokens that a text is read from: those up to the first name that breaks the rules. -/
def Token.checked (source : Source) : List Token := Token.checkNames [] (Token.ofSource source)

/-- Schemas that agree on the scalars of a text that are plain or have the tag `!` read the same
data. -/
theorem load_congr {room : Room} {schema schema' : Schema} {source : Source}
    (hempty : schema.resolve "" = schema'.resolve "")
    (hplain : ∀ text, .scalar text true ∈ Token.checked source →
      schema.resolve text.shown = schema'.resolve text.shown)
    (hmarked : ∀ text,
      Token.Marked (Tree.documentHandles (Token.checked source)) (Token.checked source) text →
      schema.resolve text.shown = schema'.resolve text.shown) :
    load room schema source = load room schema' source := by
  refine Outcome.bind_congr_ok fun tree? htree => ?_
  cases tree? with
  | none => rfl
  | some tree =>
    have hagree : Graph.Agree schema schema' tree.texts := by
      intro text htext
      obtain rfl | hscalar | hscalar := Tree.known_ofTokens htree text htext
      · exact hempty
      · exact hplain text hscalar
      · exact hmarked text hscalar
    dsimp only [Graph.ofTree]
    rw [Graph.addTree_congr tree {} hagree]

end Transducer.Yaml
