import Transducer.Proofs.C.Token

/-!
# The syntax of C

The part of the grammar of C that the generated code needs. A header declares an enumeration, two
structures of truth values, a constant and a function; a source defines the function, as assignments
before one `switch` statement. Every construct has its tokens and a reader that takes them off the
front of a list of tokens, and the reader undoes the tokens whatever follows them.
-/

namespace Transducer.C

/-! ## Reading tokens -/

/-- The tokens after a fixed row of tokens. -/
def strip : List Token → List Token → Option (List Token)
  | [], ts => some ts
  | t :: more, t' :: ts => if t = t' then strip more ts else none
  | _ :: _, [] => none

/-- Nothing is taken off for an empty row. -/
@[simp]
theorem strip_nil (ts : List Token) : strip [] ts = some ts := rfl

/-- The first token of the row is taken off. -/
@[simp]
theorem strip_cons (t : Token) (row ts : List Token) : strip (t :: row) (t :: ts) = strip row ts :=
  if_pos rfl

/-- What stands after the row is what is left. -/
@[simp]
theorem strip_append (row ts : List Token) : strip row (row ++ ts) = some ts := by
  induction row with
  | nil => rfl
  | cons t more ih => rw [List.cons_append, strip_cons, ih]

section Many

variable {α : Type}

/-- At most `bound` constructs in a row, as many as can be read. -/
def manyUpTo (read : List Token → Option (α × List Token)) :
    Nat → List Token → List α × List Token
  | 0, ts => ([], ts)
  | bound + 1, ts =>
    match read ts with
    | none => ([], ts)
    | some (x, rest) => (x :: (manyUpTo read bound rest).1, (manyUpTo read bound rest).2)

/-- Constructs in a row, as many as can be read. Each takes at least one token, so that there are no
more of them than tokens. -/
def many (read : List Token → Option (α × List Token)) (ts : List Token) : List α × List Token :=
  manyUpTo read ts.length ts

/-- Constructs in a row are read back if each of them is read back before what may follow it, and
none can be read after the last. -/
theorem manyUpTo_flatMap {read : List Token → Option (α × List Token)} {tokens : α → List Token}
    (Follows : List Token → Prop) (hfollows : ∀ x ts, Follows (tokens x ++ ts))
    (hread : ∀ x ts, Follows ts → read (tokens x ++ ts) = some (x, ts)) {rest : List Token}
    (hrest : Follows rest) (hstop : read rest = none) (xs : List α) (bound : Nat)
    (hbound : xs.length ≤ bound) :
    manyUpTo read bound (xs.flatMap tokens ++ rest) = (xs, rest) := by
  induction xs generalizing bound with
  | nil =>
    cases bound with
    | zero => rfl
    | succ bound => simp [manyUpTo, hstop]
  | cons x xs ih =>
    obtain ⟨bound, rfl⟩ : ∃ k, bound = k + 1 := ⟨bound - 1, by simp at hbound; omega⟩
    -- What follows `x` is the next construct, or else what follows them all.
    have hnext : Follows (xs.flatMap tokens ++ rest) := by
      cases xs with
      | nil => exact hrest
      | cons y ys =>
        rw [List.flatMap_cons, List.append_assoc]
        exact hfollows y _
    have hlength : xs.length ≤ bound := by simpa using hbound
    rw [List.flatMap_cons, List.append_assoc, manyUpTo, hread x _ hnext]
    dsimp only
    rw [ih bound hlength]

/-- The number of constructs is no more than that of their tokens. -/
theorem length_le_length_flatMap {tokens : α → List Token} (h : ∀ x, tokens x ≠ [])
    (xs : List α) : xs.length ≤ (xs.flatMap tokens).length := by
  induction xs with
  | nil => simp
  | cons x xs ih =>
    have hx := List.length_pos_iff.2 (h x)
    rw [List.flatMap_cons, List.length_append, List.length_cons]
    omega

/-- As `manyUpTo_flatMap`, with all the tokens there are as the bound. -/
theorem many_flatMap {read : List Token → Option (α × List Token)} {tokens : α → List Token}
    (Follows : List Token → Prop) (hfollows : ∀ x ts, Follows (tokens x ++ ts))
    (hread : ∀ x ts, Follows ts → read (tokens x ++ ts) = some (x, ts)) (hne : ∀ x, tokens x ≠ [])
    {rest : List Token} (hrest : Follows rest) (hstop : read rest = none) (xs : List α) :
    many read (xs.flatMap tokens ++ rest) = (xs, rest) := by
  refine manyUpTo_flatMap Follows hfollows hread hrest hstop xs _ ?_
  rw [List.length_append]
  exact Nat.le_add_right_of_le (length_le_length_flatMap hne xs)

/-- As `many_flatMap`, for constructs that are read back whatever follows. -/
theorem many_flatMap' {read : List Token → Option (α × List Token)} {tokens : α → List Token}
    (hread : ∀ x ts, read (tokens x ++ ts) = some (x, ts)) (hne : ∀ x, tokens x ≠ [])
    {rest : List Token} (hstop : read rest = none) (xs : List α) :
    many read (xs.flatMap tokens ++ rest) = (xs, rest) :=
  many_flatMap (fun _ => True) (fun _ _ => trivial) (fun x ts _ => hread x ts) hne trivial hstop xs

end Many

/-! ## Statements -/

/-- An assignment. -/
inductive Assignment where
  /-- `output->field = value;` -/
  | output (field : Text) (value : Bool)
  /-- `*state = target;` -/
  | state (target : Text)
  deriving DecidableEq, Repr

/-- A part of a condition. -/
inductive Atom where
  /-- `true` -/
  | always
  /-- `input.field` -/
  | input (field : Text)
  deriving DecidableEq, Repr

/-- A condition: atoms with `&&` between any two. -/
structure Condition where
  first : Atom
  rest : List Atom
  deriving DecidableEq, Repr

/-- `(condition) { body }`, after an `if`. -/
structure Branch where
  condition : Condition
  body : List Assignment
  deriving DecidableEq, Repr

/-- What stands in the body of a `switch` statement. -/
inductive Item where
  /-- `case label:` -/
  | label (name : Text)
  /-- `default:` -/
  | default
  | assign (a : Assignment)
  /-- An `if` with any number of `else if`. -/
  | choice (first : Branch) (rest : List Branch)
  /-- `break;` -/
  | exit
  deriving DecidableEq, Repr

/-- The tokens of an assignment. -/
def Assignment.tokens : Assignment → List Token
  | .output field value =>
    [.word "output", .mark .arrow, .word field, .mark .equals,
      .word (if value then "true" else "false"), .mark .semicolon]
  | .state target =>
    [.mark .star, .word "state", .mark .equals, .word target, .mark .semicolon]

/-- The tokens of an atom. -/
def Atom.tokens : Atom → List Token
  | .always => [.word "true"]
  | .input field => [.word "input", .mark .dot, .word field]

/-- The tokens of a condition. -/
def Condition.tokens (c : Condition) : List Token :=
  c.first.tokens ++ c.rest.flatMap fun a => .mark .and :: a.tokens

/-- The tokens of a branch. -/
def Branch.tokens (b : Branch) : List Token :=
  .mark .openParen :: (b.condition.tokens ++ .mark .closeParen :: .mark .openBrace ::
    (b.body.flatMap Assignment.tokens ++ [Token.mark .closeBrace]))

/-- The tokens of a branch that is an alternative to those before. -/
def Branch.elseTokens (b : Branch) : List Token := .word "else" :: .word "if" :: b.tokens

/-- The tokens of an item. -/
def Item.tokens : Item → List Token
  | .label name => [.word "case", .word name, .mark .colon]
  | .default => [.word "default", .mark .colon]
  | .assign a => a.tokens
  | .choice first rest => .word "if" :: (first.tokens ++ rest.flatMap Branch.elseTokens)
  | .exit => [.word "break", .mark .semicolon]

/-- Reads an assignment. -/
def Assignment.read : List Token → Option (Assignment × List Token)
  | .word base :: .mark .arrow :: .word field :: .mark .equals :: .word value ::
      .mark .semicolon :: ts =>
    if base = ("output" : Text) then
      if value = ("true" : Text) then some (.output field true, ts)
      else if value = ("false" : Text) then some (.output field false, ts)
      else none
    else none
  | .mark .star :: .word base :: .mark .equals :: .word target :: .mark .semicolon :: ts =>
    if base = ("state" : Text) then some (.state target, ts) else none
  | _ => none

/-- Reads an atom. -/
def Atom.read : List Token → Option (Atom × List Token)
  | .word w :: ts =>
    if w = ("true" : Text) then some (.always, ts)
    else if w = ("input" : Text) then
      match ts with
      | .mark .dot :: .word field :: ts => some (.input field, ts)
      | _ => none
    else none
  | _ => none

/-- Reads an atom that goes on with a condition. -/
def Atom.readNext : List Token → Option (Atom × List Token)
  | .mark .and :: ts => Atom.read ts
  | _ => none

/-- Reads a condition. -/
def Condition.read (ts : List Token) : Option (Condition × List Token) := do
  let (first, ts) ← Atom.read ts
  let (rest, ts) := many Atom.readNext ts
  return (⟨first, rest⟩, ts)

/-- Reads a branch. -/
def Branch.read (ts : List Token) : Option (Branch × List Token) := do
  let ts ← strip [.mark .openParen] ts
  let (condition, ts) ← Condition.read ts
  let ts ← strip [.mark .closeParen, .mark .openBrace] ts
  let (body, ts) := many Assignment.read ts
  let ts ← strip [.mark .closeBrace] ts
  return (⟨condition, body⟩, ts)

/-- Reads a branch that is an alternative to those before. -/
def Branch.readElse (ts : List Token) : Option (Branch × List Token) := do
  let ts ← strip [.word "else", .word "if"] ts
  Branch.read ts

/-- Reads an item. -/
def Item.read : List Token → Option (Item × List Token)
  | .word w :: ts =>
    if w = ("case" : Text) then
      match ts with
      | .word name :: .mark .colon :: ts => some (.label name, ts)
      | _ => none
    else if w = ("default" : Text) then do
      let ts ← strip [.mark .colon] ts
      return (.default, ts)
    else if w = ("break" : Text) then do
      let ts ← strip [.mark .semicolon] ts
      return (.exit, ts)
    else if w = ("if" : Text) then do
      let (first, ts) ← Branch.read ts
      let (rest, ts) := many Branch.readElse ts
      return (.choice first rest, ts)
    else do
      let (a, ts) ← Assignment.read (.word w :: ts)
      return (.assign a, ts)
  | ts => do
    let (a, ts) ← Assignment.read ts
    return (.assign a, ts)

/-- An assignment is read back. -/
@[simp]
theorem Assignment.read_tokens (a : Assignment) (ts : List Token) :
    Assignment.read (a.tokens ++ ts) = some (a, ts) := by
  cases a with
  | output field value => cases value <;> simp [tokens, Assignment.read]
  | state target => simp [tokens, Assignment.read]

/-- An atom is read back. -/
@[simp]
theorem Atom.read_tokens (a : Atom) (ts : List Token) :
    Atom.read (a.tokens ++ ts) = some (a, ts) := by
  cases a with
  | always => simp [tokens, Atom.read]
  | input field => simp [tokens, Atom.read]

/-- Assignments in a row are read back up to the token that ends their block. -/
theorem Assignment.many_tokens (body : List Assignment) (ts : List Token)
    (hstop : Assignment.read ts = none) :
    many Assignment.read (body.flatMap Assignment.tokens ++ ts) = (body, ts) := by
  refine many_flatMap' Assignment.read_tokens ?_ hstop body
  intro a
  cases a <;> simp [tokens]

/-- A condition is read back before a token that does not go on with it. -/
theorem Condition.read_tokens (c : Condition) (ts : List Token) (hstop : Atom.readNext ts = none) :
    Condition.read (c.tokens ++ ts) = some (c, ts) := by
  have hmany : many Atom.readNext (c.rest.flatMap (fun a => .mark .and :: a.tokens) ++ ts) =
      (c.rest, ts) :=
    many_flatMap' (fun a ts => a.read_tokens ts) (by simp) hstop c.rest
  unfold Condition.read Condition.tokens
  rw [List.append_assoc, Atom.read_tokens]
  simp [hmany]

/-- A branch is read back. -/
@[simp]
theorem Branch.read_tokens (b : Branch) (ts : List Token) :
    Branch.read (b.tokens ++ ts) = some (b, ts) := by
  have hcondition := b.condition.read_tokens
    (.mark .closeParen :: .mark .openBrace ::
      (b.body.flatMap Assignment.tokens ++ .mark .closeBrace :: ts)) rfl
  have hbody := Assignment.many_tokens b.body (.mark .closeBrace :: ts) rfl
  unfold Branch.read tokens
  simp [strip, hcondition, hbody]

/-- An alternative is read back. -/
@[simp]
theorem Branch.readElse_tokens (b : Branch) (ts : List Token) :
    Branch.readElse (b.elseTokens ++ ts) = some (b, ts) := by
  unfold Branch.readElse elseTokens
  simp [strip]

/-- No item starts like an alternative. -/
theorem Item.readElse_tokens (i : Item) (ts : List Token) :
    Branch.readElse (i.tokens ++ ts) = none := by
  unfold Branch.readElse
  cases i with
  | assign a => cases a <;> simp [tokens, Assignment.tokens, strip]
  | _ => simp [tokens, strip]

/-- An item is read back before tokens that do not go on with it. -/
theorem Item.read_tokens (i : Item) (ts : List Token) (hstop : Branch.readElse ts = none) :
    Item.read (i.tokens ++ ts) = some (i, ts) := by
  cases i with
  | label name => simp [tokens, Item.read]
  | default => simp [tokens, Item.read, strip]
  | assign a =>
    have hread := a.read_tokens ts
    cases a with
    | output field value => simp_all [tokens, Assignment.tokens, Item.read]
    | state target => simp_all [tokens, Assignment.tokens, Item.read]
  | choice first rest =>
    have hmany := many_flatMap' Branch.readElse_tokens (by simp [Branch.elseTokens]) hstop rest
    simp [tokens, Item.read, hmany]
  | exit => simp [tokens, Item.read, strip]

/-- Items in a row are read back up to the token that ends their block. -/
theorem Item.many_tokens (items : List Item) (ts : List Token) :
    many Item.read (items.flatMap Item.tokens ++ .mark .closeBrace :: ts) =
      (items, .mark .closeBrace :: ts) := by
  refine many_flatMap (fun ts => Branch.readElse ts = none) Item.readElse_tokens Item.read_tokens
    ?_ rfl rfl items
  intro i
  cases i with
  | assign a => cases a <;> simp [tokens, Assignment.tokens]
  | _ => simp [tokens]

end Transducer.C
