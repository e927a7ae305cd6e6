import Transducer.Log.Logged
import Transducer.Machine.Select

/-!
# Warnings about a machine

Some machines are accepted although part of them has no effect or will not compile. The log is told
about it.
-/

namespace Transducer.Code

open Document Log

/-- The logger of the generator. -/
def loggerName : String := "generator.c_generator"

/-- The output rules that have no effect, with the output that is in force instead: those with an
earlier rule for the same state. `kept` holds the rules in force. -/
def ignoredFrom (kept : List OutputRule) : List OutputRule → List (OutputRule × Text)
  | [] => []
  | rule :: rest =>
    match OutputRule.select? rule.state kept with
    | none => ignoredFrom (kept ++ [rule]) rest
    | some first => (rule, first.output) :: ignoredFrom kept rest

/-- The output rules of a machine that have no effect. `_warn_ignored_outputs` warns about them. -/
def ignoredOutputs (m : Moore) : List (OutputRule × Text) := ignoredFrom [] m.outputRules

/-- The guards on signals that are no inputs, as pairs of a state and a signal. `_warn_undeclared`
warns about them. -/
def undeclaredGuards (m : Moore) : List (Text × Text) :=
  m.transitions.flatMap fun t =>
    (t.guard.filter fun symbol => !m.inputs.contains symbol).map (t.source, ·)

/-- The warnings about a machine. -/
def warnings (m : Moore) : List Event :=
  let warning (name : Text) (fields : List (Text × Text)) : Event :=
    ⟨.warning, loggerName, name, fields.map fun field => (field.1, .text field.2)⟩
  (ignoredOutputs m).map (fun (rule, kept) =>
    warning "output_entry_ignored"
      [("state", rule.state), ("output_symbol", rule.output), ("kept", kept)]) ++
  (undeclaredGuards m).map (fun (state, symbol) =>
    warning "guard_symbol_undeclared" [("state", state), ("symbol", symbol)]) ++
  if m.states.contains m.start then []
  else [warning "start_state_undeclared" [("start_state", m.start)]]

end Transducer.Code
