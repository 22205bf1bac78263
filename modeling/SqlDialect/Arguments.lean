import SqlDialect.Failure
import SqlDialect.Keyed

/-!
# Arguments of a call

An operation has parameters with names, some of which have a default and some of which can only be
given by name. A call gives values by position and values by name. `Arguments.bind` finds the value
of each parameter. A call that names something twice or something unknown, gives too much or leaves
a parameter without a value is refused, and the refusal says which parameter it is about.

What an operation belongs to is always given, so that a value under its name is given twice.
-/

namespace SqlDialect

/-- A parameter of an operation, with its default if it has one. -/
structure Parameter where
  name : String
  default : Option Value

/-- The values that a call gives. -/
structure Arguments where
  positional : List Value
  named : List (String × Value)

namespace Arguments

/-- The name of what an operation belongs to. -/
def receiver : String := "self"

/-- A parameter that has to be given. -/
def required (name : String) : Parameter := ⟨name, none⟩

/-- A parameter that may be left out. -/
def optional (name : String) (default : Value) : Parameter := ⟨name, some default⟩

/-- What is wrong with a value that is given under a name, if some parameters have been given by
position and others have not. -/
def faultOfName? (filled unfilled : List Parameter) (name : String) : Option ArgumentFault :=
  if unfilled.any fun p => p.name = name then none
  else if name = receiver || filled.any fun p => p.name = name then some (.repeated name)
  else some (.unexpected name)

/-- The values of the parameters that are not given by position, or else the names of those that
have none. -/
def bindNamed (named : List (String × Value)) : List Parameter → Except (List String) (List Value)
  | [] => .ok []
  | p :: rest =>
    match (Entries.get? p.name named).or p.default, bindNamed named rest with
    | some v, .ok values => .ok (v :: values)
    | some _, .error missing => .error missing
    | none, .ok _ => .error [p.name]
    | none, .error missing => .error (p.name :: missing)

/-- The value of each parameter: of those that may be given by position, and then of those that are
only given by name. What is given by name is looked at first. -/
def bind (parameters onlyNamed : List Parameter) (given : Arguments) :
    Except Failure (List Value) :=
  let filled := parameters.take given.positional.length
  let unfilled := parameters.drop given.positional.length ++ onlyNamed
  match given.named.findSome? fun entry => faultOfName? filled unfilled entry.1 with
  | some fault => .error (.arguments fault)
  | none =>
    if parameters.length < given.positional.length then .error (.arguments .tooMany)
    else
      match bindNamed given.named unfilled with
      | .ok values => .ok (given.positional ++ values)
      | .error missing => .error (.arguments (.missing missing))

end Arguments

end SqlDialect
