import Transducer.Log.Entry

/-!
# Computations that tell the log

A logged computation gives a value and what it told the log, in order.
-/

namespace Transducer.Log

/-- A value with what was told to the log on the way to it. -/
structure Logged (α : Type) where
  entries : List Entry
  value : α

/-- Steps in a row tell the log one after the other. -/
instance : Monad Logged where
  pure a := ⟨[], a⟩
  bind x f := ⟨x.entries ++ (f x.value).entries, (f x.value).value⟩

/-- Tells the log one thing. -/
def tell (entry : Entry) : Logged Unit := ⟨[entry], ()⟩

/-- Tells the log an event. -/
def event (level : Level) (logger name : Text) (fields : List (Text × Document.Value) := []) :
    Logged Unit :=
  tell (.event ⟨level, logger, name, fields⟩)

/-- A logged computation that may end with an error. -/
abbrev Stage (ε α : Type) := ExceptT ε Logged α

end Transducer.Log
