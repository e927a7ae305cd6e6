import Transducer.Text.Quoted

/-!
# Outcomes

Ways to look at an outcome that is a value or an error. These are the methods of `Ok` and `Err`.
-/

namespace Transducer.Outcome

/-- The value of an outcome, or a complaint that there is none. This is `unwrap`. -/
def value (outcome : Except Text Text) : Except Text Text :=
  match outcome with
  | .ok v => .ok v
  | .error e => .error ("Called unwrap on Err value: " ++ e)

/-- The error of an outcome, or a complaint that there is none. This is `unwrap_err`. -/
def error (outcome : Except Text Text) : Except Text Text :=
  match outcome with
  | .ok v => .error ("Called unwrap_err on Ok value: " ++ v)
  | .error e => .ok e

/-- The text that shows an outcome. -/
def text : Except Text Text → Text
  | .ok v => "Ok(" ++ Text.quote v ++ ")"
  | .error e => "Err(" ++ Text.quote e ++ ")"

/-- The values of outcomes, or the first error among them. This is `first_err`. -/
def collect : List (Except ε α) → Except ε (List α)
  | [] => .ok []
  | .error e :: _ => .error e
  | .ok a :: rest => (collect rest).map (a :: ·)

end Transducer.Outcome
