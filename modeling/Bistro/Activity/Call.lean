import Bistro.Json.Value

/-!
# Bistro — binding call arguments

A call passes positional arguments and named arguments to a signature of named parameters,
some of them with defaults, possibly followed by parameters that can only be named and by a
catch-all for other names. Binding checks the named arguments first (an unknown name, or a name
already bound by position), then the number of positional arguments, then that every required
parameter got a value; the first failure is reported in the standard wording.
-/

namespace Bistro

/-- The parameters of a callable. -/
structure Signature where
  /-- The qualified name used in messages. -/
  name : String
  /-- Parameters that take positional or named arguments, in order. -/
  positional : List String
  /-- How many leading positional parameters have no default. -/
  required : Nat
  /-- Parameters that can only be named. -/
  keywordOnly : List String
  /-- Whether unknown names are collected instead of refused. -/
  collectsNames : Bool
  /-- Whether the callable is a method, so a receiver counts as one positional argument. -/
  isMethod : Bool := true

/-- The arguments a call bound: named values, and the unknown names it collected. -/
structure Binding where
  values : List (String × Json)
  collected : List (String × Json)

/-- Names listed the way a message lists them: `'a'`, `'a' and 'b'`, `'a', 'b', and 'c'`. -/
def listNames (names : List String) : String :=
  let q := names.map fun n => "'" ++ n ++ "'"
  match q with
  | [] => ""
  | [a] => a
  | [a, b] => a ++ " and " ++ b
  | _ => ", ".intercalate q.dropLast ++ ", and " ++ q.getLast!

/-- `1 argument`, `2 arguments`. -/
def argumentCount (n : Nat) (kind : String) : String :=
  toString n ++ " " ++ kind ++ (if n = 1 then " argument" else " arguments")

/-- Bind the arguments of a call to a signature. -/
def Signature.bind (sig : Signature) (args : List Json) (kwargs : List (String × Json)) :
    Except String Binding :=
  let recv := if sig.isMethod then 1 else 0
  let byPosition := sig.positional.zip args
  let step (acc : Except String Binding) (kv : String × Json) : Except String Binding :=
    acc.bind fun b =>
      let (k, v) := kv
      if sig.positional.contains k || sig.keywordOnly.contains k then
        if b.values.any (·.1 == k) then
          .error (sig.name ++ "() got multiple values for argument '" ++ k ++ "'")
        else .ok { b with values := b.values ++ [(k, v)] }
      else if sig.collectsNames then .ok { b with collected := b.collected ++ [(k, v)] }
      else .error (sig.name ++ "() got an unexpected keyword argument '" ++ k ++ "'")
  (kwargs.foldl step (.ok ⟨byPosition, []⟩)).bind fun b =>
    if args.length > sig.positional.length then
      let total := sig.positional.length + recv
      let least := sig.required + recv
      let takes := if least = total then argumentCount total "positional"
        else "from " ++ toString least ++ " to " ++ toString total ++ " positional arguments"
      let kwOnlyGiven := (kwargs.filter fun kv => sig.keywordOnly.contains kv.1).length
      let given := args.length + recv
      let givenText :=
        if kwOnlyGiven = 0 then toString given ++ (if given = 1 then " was" else " were")
        else argumentCount given "positional" ++ " (and " ++ argumentCount kwOnlyGiven "keyword-only" ++
          ")" ++ (if given = 1 then " was" else " were")
      .error (sig.name ++ "() takes " ++ takes ++ " but " ++ givenText ++ " given")
    else
      let missing := (sig.positional.take sig.required).filter fun p => !b.values.any (·.1 == p)
      if missing.isEmpty then .ok b
      else
        .error (sig.name ++ "() missing " ++ toString missing.length ++ " required positional " ++
          (if missing.length = 1 then "argument" else "arguments") ++ ": " ++ listNames missing)

/-- The value bound to a parameter, or its default. -/
def Binding.get (b : Binding) (k : String) (default : Json) : Json :=
  (b.values.lookup k).getD default

end Bistro
