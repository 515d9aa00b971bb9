import Reckon.Error
import Reckon.Text.Letter
import Reckon.Value
/-!
# Log — levels and events

A run reports what it has done as events of the lowest level in common use.
A level is a name or its rank; events below the level of the log are
dropped.
-/

namespace Reckon

/-- What a run reports. -/
inductive Event where
  | evaluated (expression : String) (result : Float)
  | rootFound (template : String) (x : Float) (iterations : Nat)
  | limitApproach (template : String) (x : Float) (left right : Option Float)

/-- An outcome with the events that led to it. -/
structure Reported (ε α : Type) where
  outcome : Except ε α
  events : List Event

namespace Log

/-- The ranks of the levels, by name. -/
def ranks : List (String × Nat) :=
  [("CRITICAL", 50), ("FATAL", 50), ("ERROR", 40), ("WARN", 30), ("WARNING", 30), ("INFO", 20),
    ("DEBUG", 10), ("NOTSET", 0)]

/-- The rank of a level, in any case. -/
def rank? (level : String) : Option Nat :=
  ranks.lookup (Text.upper level)

/-- The rank of every event. -/
def eventRank : Nat := 10

/-- Why a value is no level. -/
inductive NoLevel where
  /-- A name without a rank. -/
  | unranked (name : String)
  /-- A value that is no name. -/
  | noName (got : Kind)
deriving DecidableEq

/-- What is said of a value that is no level. -/
def NoLevel.message : NoLevel → String
  | unranked name => "Unknown log level: " ++ name
  | noName got => "'" ++ got.name ++ "' object has no attribute 'upper'"

/-- Whether events pass at this level. -/
def passes : (level : Value) → Except NoLevel Bool
  | .text name =>
    match rank? name with
    | some r => .ok (r ≤ eventRank)
    | none => .error (.unranked name)
  | value => .error (.noName value.kind)

end Log

end Reckon
