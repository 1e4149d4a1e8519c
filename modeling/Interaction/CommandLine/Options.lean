/-! # Arguments of the command line

`[FILE] [--layout FILE] [--save-layout FILE] [--pretty] [--check]`, in any order. A name may stand
behind its option or behind `=`. Nothing may be given twice, no name may be empty, and behind `--`
every argument is a name. -/

namespace Interaction.CommandLine

structure Options where
  file : Option String := none
  layout : Option String := none
  saveLayout : Option String := none
  pretty : Bool := false
  check : Bool := false
deriving DecidableEq, Repr

namespace Options

/-- Gives a name to a place that has none yet. -/
def name? (old : Option String) (new : String) : Option (Option String) :=
  if old.isNone && !new.isEmpty then some (some new) else none

def withFile? (o : Options) (name : String) : Option Options :=
  (name? o.file name).map fun file => { o with file }

/-- An option that takes a name. -/
def withName? (o : Options) (option name : String) : Option Options :=
  if option = "layout" then (name? o.layout name).map fun layout => { o with layout }
  else if option = "save-layout" then
    (name? o.saveLayout name).map fun saveLayout => { o with saveLayout }
  else none

/-- An option that stands alone. -/
def withFlag? (o : Options) (option : String) : Option Options :=
  if option = "pretty" then if o.pretty then none else some { o with pretty := true }
  else if option = "check" then if o.check then none else some { o with check := true }
  else none

/-- An argument that is an option, or several letters of one. A single hyphen is a name. -/
def looksLikeOption (arg : String) : Bool :=
  match arg.toList with
  | '-' :: _ :: _ => true
  | _ => false

/-- The option in an argument, and the name behind `=`. -/
def longOption? (arg : String) : Option (String × Option String) :=
  match arg.toList with
  | '-' :: '-' :: cs =>
    let option := String.ofList (cs.takeWhile (· != '='))
    match cs.dropWhile (· != '=') with
    | [] => some (option, none)
    | _ :: name => some (option, some (String.ofList name))
  | _ => none

/-- All arguments are names. -/
def names? (o : Options) : List String → Option Options
  | [] => some o
  | arg :: args => (o.withFile? arg).bind (names? · args)

/-- Adds the options and names of some arguments. -/
def add? (o : Options) : List String → Option Options
  | [] => some o
  | arg :: args =>
    if arg = "--" then o.names? args
    else match longOption? arg with
      | some (option, some name) => (o.withName? option name).bind (add? · args)
      | some (option, none) =>
        match o.withFlag? option with
        | some o => o.add? args
        | none =>
          match args with
          | [] => none
          | name :: args =>
            if looksLikeOption name then none
            else (o.withName? option name).bind (add? · args)
      | none =>
        if looksLikeOption arg then none else (o.withFile? arg).bind (add? · args)

/-- The options that the arguments give, unless they are misused. -/
def ofArgs? (args : List String) : Option Options := add? {} args

end Options
end Interaction.CommandLine
