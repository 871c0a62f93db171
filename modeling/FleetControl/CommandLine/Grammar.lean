import FleetControl.Number.Unsigned

/-!
# Grammars of command lines

A grammar says which options a program takes everywhere, and which commands it has with the options
and the words of each. `Grammar.parse` takes a command line word by word: it ends at the first word
that does not fit, and also at the first that asks for the version or for help.
-/

namespace FleetControl.CommandLine

/-- What an option takes. -/
inductive Kind where
  | flag
  | text
  /-- A whole number up to a greatest one. -/
  | number (top : Nat)
deriving Repr, DecidableEq, Inhabited

namespace Kind

/-- A 64-bit number. -/
def long : Kind := number (UInt64.size - 1)

/-- Whether a word is a value of the kind. -/
def takes : Kind → String → Bool
  | flag, _ => false
  | text, _ => true
  | number top, s => (Number.unsigned? top s.toList).isSome

end Kind

/-- **An option**, with two dashes and its name, or with one dash and a letter. -/
structure Opt where
  name : String
  letter : Option Char := none
  kind : Kind
deriving Repr, DecidableEq, Inhabited

/-- The words that a command takes beside its options. -/
inductive Words where
  | none
  | one (kind : Kind)
  /-- At least one. -/
  | some (kind : Kind)
deriving Repr, DecidableEq, Inhabited

/-- What a command takes. -/
structure Form where
  options : List Opt := []
  words : Words := .none
deriving Repr, DecidableEq, Inhabited

/-- **What a program takes.** A program without commands has a form of its own. -/
structure Grammar where
  /-- Options that may stand anywhere. -/
  options : List Opt
  commands : List (String × Form) := []
deriving Repr, DecidableEq, Inhabited

/-- **What a command line says.** -/
structure Given where
  command : Option String := none
  /-- Values of the options of the program that stand before the command. -/
  before : List (String × String) := []
  /-- Values of the options that stand after it. -/
  after : List (String × String) := []
  words : List String := []
deriving Repr, DecidableEq, Inhabited

namespace Given

/-- The value of an option; the later place counts. -/
def value? (g : Given) (name : String) : Option String :=
  (g.after.lookup name).or (g.before.lookup name)

/-- Whether a flag is given. -/
def has (g : Given) (name : String) : Bool := (g.value? name).isSome

/-- A number among the options. -/
def number? (g : Given) (name : String) : Option UInt64 := (g.value? name).bind Number.readU64?

/-- The words as numbers. -/
def numbers (g : Given) : List UInt64 := g.words.filterMap Number.readU64?

/-- Add the value of an option, which may stand once at each place. -/
def add (g : Given) (name value : String) : Option Given :=
  if g.command.isNone then
    if (g.before.lookup name).isSome then none
    else some { g with before := g.before ++ [(name, value)] }
  else if (g.after.lookup name).isSome then none
  else some { g with after := g.after ++ [(name, value)] }

end Given

/-- What reading a command line comes to. -/
inductive Parsed where
  | given (g : Given)
  | version
  | help
  /-- The command line does not fit. -/
  | misuse
deriving Repr, DecidableEq, Inhabited

namespace Grammar

/-- The form of the command that was given. -/
def formOf (g : Grammar) (s : Given) : Form :=
  (s.command.bind fun c => g.commands.lookup c).getD {}

/-- The options that may stand at a place. -/
def optionsAt (g : Grammar) (s : Given) : List Opt := g.options ++ (g.formOf s).options

/-- What is left after a word is taken: what is given so far, and the words that follow. Otherwise what
the command line comes to at that word. -/
abbrev Taken := Except Parsed (Given × List String)

/-- What is given after a word that has to fit. -/
def fitting (s : Option Given) (rest : List String) : Taken :=
  match s with
  | some s => .ok (s, rest)
  | none => .error .misuse

/-- What is asked for in place of a command. The version may be only where no command is named. -/
def asked? (s : Given) : String → Option Parsed
  | "help" => some .help
  | "version" => if (s.command.getD "").isEmpty then some .version else none
  | _ => none

/-- The letters for what is asked in place of a command. -/
def askingName : Char → String
  | 'h' => "help"
  | 'V' => "version"
  | _ => ""

/-- What a word without dashes may be at a place. In place of a command it may ask for help, also for
that on a command. -/
def takeWord (g : Grammar) (s : Given) (w : String) (rest : List String) : Taken :=
  if s.command.isNone then
    if (g.commands.lookup w).isSome then .ok ({ s with command := some w }, rest)
    else
      let isCommand (c : String) : Bool := c == "help" || (g.commands.lookup c).isSome
      .error (if w == "help" && rest.length ≤ 1 && rest.all isCommand then .help else .misuse)
  else
    let more := { s with words := s.words ++ [w] }
    fitting (match (g.formOf s).words with
      | .none => none
      | .one kind => if s.words.isEmpty && kind.takes w then some more else none
      | .some kind => if kind.takes w then some more else none) rest

/-- A word that looks like an option is no value. -/
def isValue (w : String) : Bool := w == "-" || w.toList.head? != some '-'

/-- Take an option with the value that is written to it, or with the next word. -/
def takeOption (o : Opt) (s : Given) (written : Option String) (rest : List String) : Taken :=
  match o.kind, written, rest with
  | .flag, none, _ => fitting (s.add o.name "") rest
  | .flag, some _, _ => .error .misuse
  | kind, some v, _ => fitting (if kind.takes v then s.add o.name v else none) rest
  | kind, none, v :: rest =>
    fitting (if isValue v && kind.takes v then s.add o.name v else none) rest
  | _, none, [] => .error .misuse

/-- A value written to an option after an equals sign. -/
def writtenValue (cs : List Char) : List Char × Option String :=
  let name := cs.takeWhile (· != '=')
  match cs.drop name.length with
  | _ :: v => (name, some (String.ofList v))
  | [] => (name, none)

/-- Take an option by its name. -/
def takeNamed (g : Grammar) (s : Given) (cs : List Char) (rest : List String) : Taken :=
  let (name, written) := writtenValue cs
  match asked? s (String.ofList cs), (g.optionsAt s).find? fun o => o.name.toList == name with
  | some p, _ => .error p
  | none, some o => takeOption o s written rest
  | none, none => .error .misuse

/-- Take the options of a word of letters. A letter whose option takes a value takes the rest of the
word for it, and nothing matters that stands after a letter that asks. -/
def takeLetters (g : Grammar) : Given → List Char → List String → Taken
  | s, [], rest => .ok (s, rest)
  | s, c :: cs, rest =>
    match asked? s (askingName c), (g.optionsAt s).find? fun o => o.letter == some c with
    | some p, _ => .error p
    | none, none => .error .misuse
    | none, some o =>
      if o.kind == .flag then
        (fitting (s.add o.name "") rest).bind fun (s, rest) => takeLetters g s cs rest
      else match cs with
        | [] => takeOption o s none rest
        | '=' :: v => takeOption o s (some (String.ofList v)) rest
        | v => takeOption o s (some (String.ofList v)) rest

/-- Whether everything is given that must be. -/
def isComplete (g : Grammar) (s : Given) : Bool :=
  match (g.formOf s).words with
  | .none => s.command.isSome
  | .one _ | .some _ => s.command.isSome && !s.words.isEmpty

/-- Take the words one after another; after two dashes alone none is an option, and none a command. -/
def scan (g : Grammar) : Nat → Bool → Given → List String → Parsed
  | 0, _, _, _ => .misuse
  | _ + 1, _, s, [] => if g.isComplete s then .given s else .misuse
  | fuel + 1, isPlain, s, w :: rest =>
    if w == "--" && !isPlain then scan g fuel true s rest
    else
      let taken : Taken :=
        if isPlain && s.command.isNone then .error .misuse
        else if isPlain || isValue w then g.takeWord s w rest
        else match w.toList with
          | '-' :: '-' :: cs => g.takeNamed s cs rest
          | _ :: cs => g.takeLetters s cs rest
          | [] => .error .misuse
      match taken with
      | .ok (s, rest) => scan g fuel isPlain s rest
      | .error p => p

/-- **Read a command line.** -/
def parse (g : Grammar) (words : List String) : Parsed :=
  if g.commands.isEmpty then
    scan { g with commands := [("", {})] } (words.length + 1) false { command := some "" } words
  else scan g (words.length + 1) false {} words

end Grammar

end FleetControl.CommandLine
