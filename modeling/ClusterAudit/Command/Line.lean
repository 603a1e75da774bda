import ClusterAudit.Text.Basic

/-!
# Command lines

A command line is a list of words. A command has options and commands below it; a word that names
a command below opens it, and from there on only its options count. An option is given by its name
behind two dashes or by its letter behind one, and its value stands in the same word or is the next
one, unless that looks like an option itself.

`Line.read` reads the words from the first to the last and keeps what is open as a stack. Values
that stand in a word of their own are only looked at when the next option comes or when all words
are read, the innermost command first, so of several faults the right one is found.
-/

namespace ClusterAudit

/-- What is wrong with a command line, or what it asks for instead of a command. -/
inductive UsageFault where
  /-- A word that means nothing here. -/
  | unknownArgument
  /-- A value is missing, or is none of those that can be chosen. -/
  | invalidValue
  /-- A value is no number, or one out of range. -/
  | valueValidation
  /-- A command that does not exist. -/
  | invalidSubcommand
  /-- No command where one has to be. -/
  | missingSubcommand
  /-- An option that stands there twice. -/
  | argumentConflict
  /-- A value for an option that has none. -/
  | tooManyValues
  /-- The help is asked for. -/
  | displayHelp
  /-- The version is asked for. -/
  | displayVersion
  /-- Nothing is asked for, which shows the help. -/
  | displayHelpOnNothing
deriving DecidableEq, Repr, Inhabited

namespace Line

/-! ### What there is -/

/-- What the value of an option has to be. -/
inductive ValueKind where
  /-- Any text. -/
  | text
  /-- A path, which is not empty. -/
  | path
  /-- One of some words. -/
  | choice (words : List String)
  /-- A number below a bound. -/
  | number (bound : Nat)
deriving DecidableEq, Inhabited

/-- What an option does. -/
inductive OptionKind where
  /-- It is there or not. -/
  | flag
  /-- It has one value. -/
  | single (value : ValueKind)
  /-- It has a value every time it is given. -/
  | repeated (value : ValueKind)
  /-- It asks for the help. -/
  | help
  /-- It asks for the version. -/
  | version
deriving DecidableEq, Inhabited

/-- An option. -/
structure OptionSpec where
  /-- Its name. -/
  name : String
  /-- Its letter. -/
  letter : Option Char := none
  /-- What it does. -/
  kind : OptionKind
deriving DecidableEq, Inhabited

/-- A command. -/
structure CommandSpec where
  /-- Its name. -/
  name : String
  /-- Its options. -/
  options : List OptionSpec
  /-- The commands below it. -/
  commands : List CommandSpec := []
deriving Inhabited

namespace CommandSpec

/-- The word that asks for the help of a command below. -/
def helpWord : String := "help"

/-- The command below that is called `name`. -/
def below? (c : CommandSpec) (name : String) : Option CommandSpec :=
  c.commands.find? fun d => d.name == name

/-- Whether a word names a command below, or asks for the help of one. -/
def opens (c : CommandSpec) (word : String) : Bool :=
  !c.commands.isEmpty && (word == helpWord || (c.below? word).isSome)

/-- What a word that is no option and names no command is. -/
def strayFault (c : CommandSpec) : UsageFault :=
  if c.commands.isEmpty then .unknownArgument else .invalidSubcommand

/-- What comes of asking for the help of a command by the names on the way to it. -/
def helpFault (c : CommandSpec) : List String → UsageFault
  | [] => .displayHelp
  | n :: ns =>
    match c.below? n with
    | some d => d.helpFault ns
    | none =>
      if !c.commands.isEmpty && n == helpWord && ns.isEmpty then .displayHelp
      else .invalidSubcommand

end CommandSpec

/-! ### Values -/

/-- The value of a digit in base 10. -/
def digit? (c : Char) : Option Nat :=
  if c.isDigit then some (c.toNat - '0'.toNat) else none

/-- The number that a run of digits stands for. -/
def digits? : List Char → Option Nat
  | [] => none
  | cs => cs.foldlM (fun n c => (digit? c).map (n * 10 + ·)) 0

/-- The number that a text stands for. A sign may stand in front, also of zero. -/
def number? (s : String) : Option Nat :=
  match s.toList with
  | '+' :: cs => digits? cs
  | '-' :: cs => (digits? cs).filter (· == 0)
  | cs => digits? cs

/-- What is wrong with a value. -/
def ValueKind.fault? (v : String) : ValueKind → Option UsageFault
  | .text => none
  | .path => if v.isEmpty then some .invalidValue else none
  | .choice words => if words.contains v then none else some .invalidValue
  | .number bound =>
    match number? v with
    | some n => if n < bound then none else some .valueValidation
    | none => some .valueValidation

/-! ### Reading words -/

/-- A command that is open. -/
structure Level where
  /-- The command. -/
  command : CommandSpec
  /-- The options given, with their values, in order. -/
  given : List (String × String) := []
  /-- The last option, if its value is not looked at yet, and its value, if it has come. -/
  pending : Option (OptionSpec × Option String) := none
  /-- Whether the mark that ends all options has come. -/
  ended : Bool := false
deriving Inhabited

namespace Level

/-- The value that an option without one is given. -/
def present : String := "true"

/-- The values given for an option. -/
def values (l : Level) (name : String) : List String :=
  (l.given.filter fun g => g.1 == name).map (·.2)

/-- Take an option with its value, or with none. -/
def take (l : Level) (o : OptionSpec) (v : Option String) : Except UsageFault Level :=
  let repeats := l.given.any fun g => g.1 == o.name
  let accept (kind : ValueKind) : Except UsageFault Level :=
    match v with
    | none => .error .invalidValue
    | some s =>
      match kind.fault? s with
      | some f => .error f
      | none => .ok { l with given := l.given ++ [(o.name, s)] }
  match o.kind with
  | .help => .error .displayHelp
  | .version => .error .displayVersion
  | .flag =>
    if repeats then .error .argumentConflict
    else .ok { l with given := l.given ++ [(o.name, present)] }
  | .single kind =>
    if v.isSome && repeats then .error .argumentConflict else accept kind
  | .repeated kind => accept kind

/-- Look at the value of the last option. -/
def settle (l : Level) : Except UsageFault Level :=
  match l.pending with
  | none => .ok l
  | some (o, v) => { l with pending := none }.take o v

/-- An option with what stands behind it in its word. -/
def option (l : Level) (o : OptionSpec) (attached : Option String) : Except UsageFault Level :=
  match o.kind, attached with
  | .single _, none | .repeated _, none =>
    l.settle.map fun m => { m with pending := some (o, none) }
  | .single _, some v | .repeated _, some v => l.settle.bind fun m => m.take o (some v)
  | _, some _ => .error .tooManyValues
  | _, none => l.settle.bind fun m => m.take o none

/-- A word behind two dashes. -/
def long (l : Level) (word : List Char) : Except UsageFault Level :=
  let (name, attached) := match Text.cut '=' word with
    | some (name, v) => (String.ofList name, some (String.ofList v))
    | none => (String.ofList word, none)
  match l.command.options.find? fun o => o.name == name with
  | some o => l.option o attached
  | none => .error .unknownArgument

/-- Letters behind one dash. The first one with a value takes the rest of the word for it. -/
def letters (l : Level) : List Char → Except UsageFault Level
  | [] => .ok l
  | c :: cs =>
    match l.command.options.find? fun o => o.letter == some c with
    | none => .error .unknownArgument
    | some o =>
      match o.kind with
      | .single _ | .repeated _ =>
        match cs with
        | [] => l.option o none
        | '=' :: v => l.option o (some (String.ofList v))
        | v => l.option o (some (String.ofList v))
      | _ =>
        match l.option o none with
        | .error f => .error f
        | .ok m => m.letters cs

/-- Whether the next word is the value of the last option unless it looks like an option. -/
def awaitsValue (l : Level) : Bool :=
  match l.pending with
  | some (_, none) => true
  | _ => false

/-- A word that is no option. -/
def plain (l : Level) (word : String) : Except UsageFault Level :=
  match l.pending with
  | some (o, none) => .ok { l with pending := some (o, some word) }
  | _ => .error l.command.strayFault

/-- A word that opens no command. -/
def word (l : Level) (w : String) : Except UsageFault Level :=
  match w.toList with
  | ['-', '-'] => .ok { l with ended := true }
  | '-' :: '-' :: cs => l.long cs
  | ['-'] => l.plain w
  | '-' :: cs => l.letters cs
  | _ => l.plain w

/-- What a word behind the mark that ends all options is. -/
def wordAfterEnd (l : Level) (w : String) : UsageFault :=
  if l.command.opens w then .unknownArgument else l.command.strayFault

/-- **Close a command** when all words are read. A command with others below it is nothing without
one of them. -/
def close (l : Level) (openedBelow : Bool) : Except UsageFault Level :=
  match l.settle with
  | .error f => .error f
  | .ok l =>
    if openedBelow || l.command.commands.isEmpty then .ok l
    else if l.given.isEmpty then .error .displayHelpOnNothing
    else .error .missingSubcommand

end Level

/-- Read words into the commands that are open, the innermost of which is apart. -/
def readWords : List String → Level → List Level → Except UsageFault (Level × List Level)
  | [], l, above => .ok (l, above)
  | w :: ws, l, above =>
    if l.ended then .error (l.wordAfterEnd w)
    else if !l.awaitsValue && l.command.opens w then
      match l.command.below? w with
      | some c => readWords ws { command := c } (l :: above)
      | none => .error (l.command.helpFault ws)
    else
      match l.word w with
      | .error f => .error f
      | .ok l => readWords ws l above

/-- Close the commands that are open, from the innermost outwards. -/
def closeAll : List Level → Except UsageFault (List Level)
  | [] => .ok []
  | l :: above =>
    match l.close true with
    | .error f => .error f
    | .ok l => (closeAll above).map (l :: ·)

/-- **Read a command line**: the commands that it opens with their options, innermost first. -/
def read (c : CommandSpec) (words : List String) : Except UsageFault (List Level) :=
  match readWords words { command := c } [] with
  | .error f => .error f
  | .ok (l, above) =>
    match l.close false with
    | .error f => .error f
    | .ok l => (closeAll above).map (l :: ·)

end Line

end ClusterAudit
