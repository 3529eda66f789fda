import Horoscope.Text.Basic

set_option autoImplicit false

namespace Horoscope.CommandLine

inductive Arity
  | flag
  | single
  | list
deriving DecidableEq

structure OptionSpec where
  name : Text
  letter : Option Char
  arity : Arity
  shown : Text
  fallback : Option Text

structure Form where
  title : Text
  options : List OptionSpec
  operands : Bool
  commands : List Text

inductive Refusal
  | version (title : Text)
  | help
  | usage
  | badValue (argument reason : Text)
deriving DecidableEq

structure Sorted where
  uses : List Text
  values : List (Text × Text)
  operands : List Text
  waiting : Option OptionSpec
  command : Option (Text × List Text)

namespace Sorted

def ended (waiting : Option OptionSpec) : Sorted := ⟨[], [], [], waiting, none⟩

def withUse (name : Text) (s : Sorted) : Sorted := { s with uses := name :: s.uses }

def withValue (name value : Text) (s : Sorted) : Sorted :=
  { s with values := (name, value) :: s.values }

def withOperand (operand : Text) (s : Sorted) : Sorted :=
  { s with operands := operand :: s.operands }

def givenTo (s : Sorted) (option : OptionSpec) : List Text :=
  (s.values.filter fun value => value.1 == option.name).map Prod.snd

def valuesOf (s : Sorted) (option : OptionSpec) : List Text :=
  if (s.givenTo option).isEmpty then option.fallback.toList else s.givenTo option

def usesOf (s : Sorted) (option : OptionSpec) : Nat := s.uses.count option.name

def isBare (s : Sorted) (option : OptionSpec) : Bool :=
  0 < s.usesOf option && (s.valuesOf option).isEmpty

end Sorted

inductive Argument
  | separator
  | long (name : Text) (value : Option Text)
  | letters (letters : Text)
  | plain

def Argument.ofText : Text → Argument
  | ['-', '-'] => .separator
  | '-' :: '-' :: rest =>
    let body := rest.dropWhile (· == '-')
    let value := body.dropWhile (· != '=')
    .long (body.takeWhile (· != '='))
      (if value.isEmpty then none else some (value.dropWhile (· == '=')))
  | '-' :: c :: rest => .letters (c :: rest)
  | _ => .plain

namespace Form

def option? (form : Form) (name : Text) : Option OptionSpec :=
  form.options.find? fun option => option.name == name

def flag? (form : Form) (letter : Char) : Option OptionSpec :=
  form.options.find? fun option => option.letter == some letter && option.arity == .flag

def letterRefusal (form : Form) (letter : Char) : Refusal :=
  if letter = 'V' then .version form.title else if letter = 'h' then .help else .usage

def nameRefusal (form : Form) (name : Text) : Refusal :=
  if name = "version".toList then .version form.title
  else if name = "help".toList then .help else .usage

def flags (form : Form) : Text → Except Refusal (List Text)
  | [] => .ok []
  | letter :: rest =>
    match form.flag? letter with
    | some option => (form.flags rest).map (option.name :: ·)
    | none => .error (form.letterRefusal letter)

def helpRefusal (form : Form) (arguments : List Text) : Refusal :=
  match arguments with
  | [] => .help
  | [name] => if form.commands.contains name || name == "help".toList then .help else .usage
  | _ => .usage

def sort (form : Form) : Option OptionSpec → List Text → Except Refusal Sorted
  | waiting, [] => .ok (.ended waiting)
  | waiting, argument :: rest =>
    match Argument.ofText argument with
    | .separator =>
      if form.operands || rest.isEmpty then .ok { Sorted.ended waiting with operands := rest }
      else .error .usage
    | .long name value =>
      match form.option? name with
      | some option =>
        match option.arity, value with
        | .flag, _ => (form.sort none rest).map (.withUse option.name)
        | _, some value =>
          (form.sort none rest).map fun s => (s.withValue option.name value).withUse option.name
        | _, none => (form.sort (some option) rest).map (.withUse option.name)
      | none => .error (form.nameRefusal name)
    | .letters letters => do
      let names ← form.flags letters
      let s ← form.sort none rest
      return names.foldr .withUse s
    | .plain =>
      match waiting with
      | some option =>
        let waiting := if option.arity = .list then some option else none
        (form.sort waiting rest).map (.withValue option.name argument)
      | none =>
        if form.commands.contains argument then
          .ok { Sorted.ended none with command := some (argument, rest) }
        else if argument = "help".toList ∧ form.commands ≠ [] then .error (form.helpRefusal rest)
        else if form.operands then (form.sort none rest).map (.withOperand argument)
        else .error .usage

-- Sorts all arguments. An option that still waits is refused before any value is read.
def sortAll (form : Form) (arguments : List Text) : Except Refusal Sorted := do
  let s ← form.sort none arguments
  if s.waiting.any s.isBare then throw .usage
  return s

end Form

namespace Sorted

def readAll {α : Type} (shown : Text) (read : Text → Except Text α) (values : List Text) :
    Except Refusal (List α) :=
  values.mapM fun value => (read value).mapError (Refusal.badValue shown)

def list {α : Type} (s : Sorted) (option : OptionSpec) (read : Text → Except Text α) :
    Except Refusal (List α) :=
  if s.isBare option then .error .usage else readAll option.shown read (s.valuesOf option)

-- At most one use, though a value that makes no sense is named first.
def single? {α : Type} (s : Sorted) (option : OptionSpec) (read : Text → Except Text α) :
    Except Refusal (Option α) := do
  let values ← s.list option read
  if 1 < s.usesOf option then throw .usage
  return values.head?

def flag (s : Sorted) (option : OptionSpec) : Except Refusal Bool :=
  match s.usesOf option with
  | 0 => .ok false
  | 1 => .ok true
  | _ => .error .usage

end Sorted
end Horoscope.CommandLine
