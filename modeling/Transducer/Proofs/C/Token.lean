import Transducer.Proofs.Text.Basic
import Transducer.Proofs.Text.Name

/-!
# The tokens of C

The part of the lexical grammar of C that the generated code needs: names, marks of punctuation and
directives, which take a whole line. The lexer is a transducer: it goes through the text one code
point at a time, remembers what it has read of a token, and gives a token when the token has ended.
So the tokens of a text are those of its parts (`Lexes.append`), and a text is lexed part by part.
-/

namespace Transducer.C

/-- A mark of punctuation. -/
inductive Mark where
  | openParen
  | closeParen
  | openBrace
  | closeBrace
  | semicolon
  | comma
  | colon
  | dot
  | star
  | equals
  /-- The two characters of a field behind a pointer. -/
  | arrow
  /-- The two characters of a conjunction. -/
  | and
  deriving DecidableEq, Repr

/-- A token. -/
inductive Token where
  /-- A name or a keyword. -/
  | word (w : Text)
  | mark (m : Mark)
  /-- A line for the preprocessor, without the sign in front. -/
  | directive (line : Text)
  deriving DecidableEq, Repr

/-- The mark that a character is on its own. -/
def Mark.ofChar? (c : Char) : Option Mark :=
  if c = '(' then some .openParen
  else if c = ')' then some .closeParen
  else if c = '\x7b' then some .openBrace
  else if c = '\x7d' then some .closeBrace
  else if c = ';' then some .semicolon
  else if c = ',' then some .comma
  else if c = ':' then some .colon
  else if c = '.' then some .dot
  else if c = '*' then some .star
  else if c = '=' then some .equals
  else none

/-- What the lexer has read of a token. -/
inductive Pending where
  /-- Nothing, and nothing of the line but blanks. -/
  | newLine
  /-- Nothing. -/
  | between
  | word (w : Text)
  /-- The first character of an arrow. -/
  | minus
  /-- The first character of a conjunction. -/
  | ampersand
  | directive (line : Text)
  /-- Something that is no token. -/
  | stuck
  deriving DecidableEq, Repr

/-- What a character is the start of, at the start of a line or not. -/
def begin (newLine : Bool) (c : Char) : List Token × Pending :=
  if c = '\n' then ([], .newLine)
  else if Text.isAsciiBlank c then ([], if newLine then .newLine else .between)
  else if Template.isNameStart c then ([], .word [c])
  else if c = '#' then ([], if newLine then .directive [] else .stuck)
  else if c = '-' then ([], .minus)
  else if c = '&' then ([], .ampersand)
  else
    match Mark.ofChar? c with
    | some m => ([.mark m], .between)
    | none => ([], .stuck)

/-- One step of the lexer: the tokens that have ended, and what has been read of the next one. -/
def step (s : Pending) (p : CodePoint) : List Token × Pending :=
  match s, p with
  | .directive line, p =>
    if p = .char '\n' then ([.directive line], .newLine) else ([], .directive (line ++ [p]))
  | .newLine, .char c => begin true c
  | .between, .char c => begin false c
  | .word w, .char c =>
    if Template.isNamePart c then ([], .word (w ++ [.char c]))
    else (.word w :: (begin false c).1, (begin false c).2)
  | .minus, .char c => if c = '>' then ([.mark .arrow], .between) else ([], .stuck)
  | .ampersand, .char c => if c = '&' then ([.mark .and], .between) else ([], .stuck)
  | .stuck, _ => ([], .stuck)
  | _, .half _ => ([], .stuck)

/-- The lexer on a text: the tokens, and what has been read of the next one at its end. -/
def run (s : Pending) : Text → List Token × Pending
  | [] => ([], s)
  | p :: rest => ((step s p).1 ++ (run (step s p).2 rest).1, (run (step s p).2 rest).2)

/-- The tokens of a text of whole lines. -/
def tokens? (text : Text) : Option (List Token) :=
  if (run .newLine text).2 = .newLine then some (run .newLine text).1 else none

/-- The lexer goes from `s` to `s'` on the text and gives the tokens `ts`. -/
def Lexes (s : Pending) (text : Text) (ts : List Token) (s' : Pending) : Prop :=
  run s text = (ts, s')

/-- A text of whole lines has the tokens that the lexer gives. -/
theorem tokens?_of_lexes {text : Text} {ts : List Token} (h : Lexes .newLine text ts .newLine) :
    tokens? text = some ts := by
  unfold Lexes at h
  unfold tokens?
  rw [h]
  rfl

/-- The lexer goes through a text part by part. -/
theorem Lexes.append {s s' s'' : Pending} {a b : Text} {ts us : List Token}
    (ha : Lexes s a ts s') (hb : Lexes s' b us s'') : Lexes s (a ++ b) (ts ++ us) s'' := by
  unfold Lexes at ha hb ⊢
  -- What the first code point makes of `s` is the state that the rest starts from.
  induction a generalizing s ts with
  | nil =>
    obtain ⟨rfl, rfl⟩ := Prod.mk.inj ha
    exact hb
  | cons p rest ih =>
    obtain ⟨rfl, hs⟩ := Prod.mk.inj ha
    have hrest := ih (Prod.ext rfl hs)
    rw [List.cons_append, run, hrest, List.append_assoc]

/-- A literal is lexed by its characters. -/
theorem Lexes.literal {s s' : Pending} {chars : List Char} {ts : List Token}
    (h : run s (chars.map .char) = (ts, s')) : Lexes s (String.ofList chars) ts s' := by
  unfold Lexes
  rw [Text.ofString_ofList, h]

/-- A name goes on with every part of a name. -/
theorem Lexes.extend (w v : Text) (h : v.all (·.isIn Template.isNamePart) = true) :
    Lexes (.word w) v [] (.word (w ++ v)) := by
  unfold Lexes
  induction v generalizing w with
  | nil => simp [run]
  | cons p rest ih =>
    rw [List.all_cons, Bool.and_eq_true] at h
    cases p with
    | half n => exact absurd h.1 (by simp [CodePoint.isIn])
    | char c =>
      have hc : Template.isNamePart c = true := h.1
      have hstep : step (.word w) (.char c) = ([], .word (w ++ [.char c])) := by
        simp [step, hc]
      rw [run, hstep, ih _ h.2]
      simp

/-- A character that starts a name is no blank. -/
theorem not_blank_of_isNameStart {c : Char} (h : Template.isNameStart c = true) :
    c ≠ '\n' ∧ Text.isAsciiBlank c = false := by
  have hcode := Text.code_of_isNameStart h
  constructor
  · rintro rfl
    exact absurd hcode (by decide)
  · rw [Bool.eq_false_iff]
    intro hblank
    simp only [Text.isAsciiBlank, Bool.or_eq_true, Bool.and_eq_true, beq_iff_eq,
      decide_eq_true_eq] at hblank
    omega

/-- A character that starts a name starts it at the start of a line and elsewhere. -/
theorem begin_of_isNameStart {c : Char} (h : Template.isNameStart c = true) (newLine : Bool) :
    begin newLine c = ([], .word [.char c]) := by
  obtain ⟨hline, hblank⟩ := not_blank_of_isNameStart h
  unfold begin
  rw [if_neg hline, hblank, if_neg (by decide), if_pos h]

/-- A name that starts here is read to its end. -/
theorem Lexes.name {s : Pending} (hs : s = .newLine ∨ s = .between) {w : Text}
    (h : Text.isName w = true) : Lexes s w [] (.word w) := by
  obtain ⟨c, rest, rfl, hc, hrest⟩ := Text.exists_of_isName h
  have hstart : Lexes s [.char c] [] (.word [.char c]) := by
    rcases hs with rfl | rfl
    · simp [Lexes, run, step, begin_of_isNameStart hc]
    · simp [Lexes, run, step, begin_of_isNameStart hc]
  exact hstart.append (.extend [.char c] rest hrest)

/-- A directive goes on to the end of its line. -/
theorem Lexes.directive (line text : Text) (h : .char '\n' ∉ text) :
    Lexes (.directive line) text [] (.directive (line ++ text)) := by
  unfold Lexes
  induction text generalizing line with
  | nil => simp [run]
  | cons p rest ih =>
    rw [List.mem_cons, not_or] at h
    have hstep : step (.directive line) p = ([], .directive (line ++ [p])) := by
      simp [step, Ne.symm h.1]
    rw [run, hstep, ih _ h.2]
    simp

end Transducer.C
