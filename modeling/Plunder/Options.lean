import Plunder.Text.Digit

/-!
# Command-line options

Long options with or without a value, which may be given apart or after an equals sign and may be
cut to any unambiguous beginning; one operand or one command; `-h` and `--help`; and `--`, after
which everything is an operand.

* `Options.Grammar`: the options and operands that a program knows
* `Options.parse`: what a list of arguments says, or whether help is asked for or the use is wrong
-/

namespace Plunder.Options

/-- What an option does with its value. -/
inductive Arity where
  /-- The option asks for help. -/
  | help
  /-- The option takes no value. -/
  | flag
  /-- The option takes one value, which must be acceptable. -/
  | value (accepts : String → Bool)

/-- An option that a program knows. -/
structure Opt where
  name : String
  arity : Arity

/-- What a program expects besides options. -/
inductive Operand where
  | none
  | one
  /-- One of these commands, which gets all arguments after it. -/
  | command (names : List String)

/-- The options and operands that a program knows. -/
structure Grammar where
  options : List Opt
  operand : Operand

/-- The options that every program knows. -/
def helpOptions : List Opt := [⟨"-h", .help⟩, ⟨"--help", .help⟩]

def Grammar.all (g : Grammar) : List Opt := helpOptions ++ g.options

/-- A value joined to an option: whether an equals sign stands between, and the value. -/
abbrev Joined := Bool × List Char

/-- What an argument is. -/
inductive Token where
  /-- A known option, with a value joined to it. -/
  | known (o : Opt) (joined : Option Joined)
  /-- An option that the program does not know. -/
  | unknown
  /-- A value or operand. -/
  | operand
  /-- The mark after which everything is an operand. -/
  | mark

/-- Whether the argument is a negative number without an exponent. -/
def isNegative (cs : List Char) : Bool :=
  match cs with
  | '-' :: rest =>
    let whole := rest.takeWhile Text.isDecimalDigit
    match rest.dropWhile Text.isDecimalDigit with
    | [] => !whole.isEmpty
    | '.' :: fraction => !fraction.isEmpty && fraction.all Text.isDecimalDigit
    | _ => false
  | _ => false

/-- Splits at the first equals sign. -/
def splitJoined (cs : List Char) : List Char × Option Joined :=
  match cs.dropWhile (· ≠ '=') with
  | [] => (cs, none)
  | _ :: joined => (cs.takeWhile (· ≠ '='), some (true, joined))

/-- The options that an argument may be the beginning of, each with the value joined to it. -/
def Grammar.candidates (g : Grammar) (cs : List Char) : List (Opt × Option Joined) :=
  match cs with
  | '-' :: '-' :: _ =>
    let (name, joined) := splitJoined cs
    (g.all.filter fun o => name.isPrefixOf o.name.toList).map (·, joined)
  | _ =>
    g.all.filterMap fun o =>
      if o.name.toList = cs.take 2 then some (o, some (false, cs.drop 2))
      else if cs.isPrefixOf o.name.toList then some (o, none)
      else none

def Grammar.named? (g : Grammar) (cs : List Char) : Option Opt :=
  g.all.find? fun o => o.name.toList = cs

/-- What an argument is; `none` where it may be the beginning of several options. -/
def Grammar.classify (g : Grammar) (arg : String) : Option Token :=
  let cs := arg.toList
  match cs with
  | [] | ['-'] => some .operand
  | c :: _ =>
    if c ≠ '-' then some .operand
    else
      -- A whole name wins over the longer names that begin with it.
      match g.named? cs with
      | some o => some (.known o none)
      | none =>
        let (name, joined) := splitJoined cs
        match (if joined.isSome then g.named? name else none) with
        | some o => some (.known o joined)
        | none =>
          match g.candidates cs with
          | [(o, joined)] => some (.known o joined)
          | [] => some (if isNegative cs || cs.contains ' ' then .operand else .unknown)
          -- Several options are meant: the argument is ambiguous.
          | _ => none

/-- Every argument with what it is; after the mark everything is an operand. -/
def Grammar.tokens (g : Grammar) : List String → Option (List (String × Token))
  | [] => some []
  | arg :: rest =>
    if arg = "--" then some ((arg, .mark) :: rest.map (·, .operand))
    else do
      let t ← g.classify arg
      let ts ← g.tokens rest
      some ((arg, t) :: ts)

/-- What the arguments say. -/
structure Reading where
  /-- The options given, in order, each with its value. -/
  given : List (String × String)
  /-- The operand or the command. -/
  operand : Option String
  /-- The arguments after the command. -/
  rest : List String
  /-- Whether some argument found no use. -/
  surplus : Bool

/-- How reading the arguments ends without a reading. -/
inductive Refusal where
  /-- Help is asked for. -/
  | help
  /-- The use is wrong. -/
  | misuse
  deriving DecidableEq

def Refusal.code : Refusal → Nat
  | help => 0
  | misuse => 2

/-- How the letters joined to the letter of help end the reading. Letters may be written together;
the first that is no option ends them, and an equals sign or a dash among them is a mistake. -/
def Grammar.letters (g : Grammar) : Bool → List Char → Refusal
  | _, [] => .misuse
  | true, _ => .misuse
  | false, c :: rest =>
    if c = '-' then .misuse
    else if (g.named? ['-', c]).isNone then .help
    else
      match rest with
      | [] => .help
      | '=' :: _ => .misuse
      | rest => g.letters false rest

/-- Takes an option with a joined value. -/
def Grammar.takeJoined (g : Grammar) (o : Opt) (joined : Joined) :
    Except Refusal (List (String × String)) :=
  match o.arity with
  | .value accepts =>
    let v := String.ofList joined.2
    if accepts v then .ok [(o.name, v)] else .error .misuse
  | .flag => .error .misuse
  | .help => .error (if o.name.length = 2 then g.letters joined.1 joined.2 else .misuse)

/-- Takes the operand, if the grammar still expects one, and says what is left. -/
def Grammar.takeOperand (g : Grammar) (r : Reading) (ts : List (String × Token)) :
    Except Refusal (Reading × List (String × Token)) :=
  if r.operand.isSome then .ok (r, ts)
  else
    match g.operand, ts with
    | .one, (a, .operand) :: (_, .mark) :: rest => .ok ({ r with operand := some a }, rest)
    | .one, (a, .operand) :: rest => .ok ({ r with operand := some a }, rest)
    | .one, (_, .mark) :: (a, _) :: rest => .ok ({ r with operand := some a }, rest)
    | .command names, (a, .operand) :: rest =>
      if names.contains a then .ok ({ r with operand := some a, rest := rest.map (·.1) }, [])
      else .error .misuse
    | .command _, (_, .mark) :: _ :: _ => .error .misuse
    | _, _ => .ok (r, ts)

def Token.isOption : Token → Bool
  | known .. | unknown => true
  | _ => false

/-- Reads tokens one after the other; `fuel` bounds their number. -/
def Grammar.consume (g : Grammar) : Nat → Reading → List (String × Token) → Except Refusal Reading
  | 0, r, _ => .ok r
  | _, r, [] => .ok r
  | fuel + 1, r, (a, t) :: rest =>
    match t with
    | .known o (some joined) => do
      let given ← g.takeJoined o joined
      g.consume fuel { r with given := r.given ++ given } rest
    | .known o none =>
      match o.arity, rest with
      | .help, _ => .error .help
      | .flag, _ => g.consume fuel { r with given := r.given ++ [(o.name, "")] } rest
      -- What looks like an option is no value, except after an equals sign.
      | .value accepts, (v, .operand) :: rest =>
        if accepts v then g.consume fuel { r with given := r.given ++ [(o.name, v)] } rest
        else .error .misuse
      | .value _, _ => .error .misuse
    | .unknown => g.consume fuel { r with surplus := true } rest
    | _ => do
      let (r', left) ← g.takeOperand r ((a, t) :: rest)
      if left.length = rest.length + 1 then g.consume fuel { r' with surplus := true } rest
      else g.consume fuel r' left

/-- What the arguments say; the operand and the required options must be there. -/
def Grammar.read (g : Grammar) (required : List String) (args : List String) :
    Except Refusal Reading :=
  match g.tokens args with
  | none => .error .misuse
  | some ts => do
    let r ← g.consume (ts.length + 1) ⟨[], none, [], false⟩ ts
    let missing := match g.operand with
      | .none => false
      | _ => r.operand.isNone
    if missing || required.any fun name => !r.given.any (·.1 == name) then .error .misuse
    else .ok r

def Reading.value? (r : Reading) (name : String) : Option String :=
  (r.given.reverse.find? (·.1 == name)).map (·.2)

/-- Every value of an option, in order. -/
def Reading.values (r : Reading) (name : String) : List String :=
  (r.given.filter (·.1 == name)).map (·.2)

def Reading.has (r : Reading) (name : String) : Bool := r.given.any (·.1 == name)

end Plunder.Options
