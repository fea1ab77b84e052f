import TwoParty.CommandLine.Grammar

/-!
# TwoParty.CommandLine.Scan

Reading the switches of one grammar off a command line, up to its end or to the
name of a command.

Words are taken from left to right.  A value may be attached to its switch
(`--name=value`, `-nvalue`, `-n=value`) or be the next word, unless that word
looks like a switch.  A value given as a word of its own is checked only when
the next switch of the same grammar, or the end, is reached: a request for help
with a command in between comes first.
-/

namespace TwoParty

namespace CommandLine

/-- The values given, by the long names of the switches. -/
abbrev Values := List (String × String)

/-- The value given for a switch. -/
def Values.value? (vs : Values) (long : String) : Option String := vs.lookup long

/-- Take a value for a switch, unless it has one or the value does not fit. -/
def Values.add (vs : Values) (s : Switch) (value : String) : Option Values :=
  if (vs.value? s.long).isSome then none
  else match s.argument with
    | some a => if a.form.accepts value then some ((s.long, value) :: vs) else none
    | none => some ((s.long, value) :: vs)

/-- What was read so far: the values that were checked, and the last switch if its value
was not checked or not even read yet. -/
structure Reading where
  values : Values
  pending : Option (Switch × Option String)

/-- Check the pending value. -/
def Reading.settle (r : Reading) : Option Values :=
  match r.pending with
  | none => some r.values
  | some (_, none) => none
  | some (s, some value) => r.values.add s value

/-- What a name stands for. -/
inductive Named where
  | help
  | version
  | switch (s : Switch)

/-- How a scan ends. -/
inductive Scanned where
  /-- At the end of the command line. -/
  | finished (r : Reading)
  /-- At the name of a command, with the words after it. -/
  | command (r : Reading) (name : String) (rest : List String)
  | help
  | version
  | refused

/-- The names of a grammar. -/
structure Names where
  long : String → Option Named
  short : Char → Option Named
  isCommand : String → Bool

/-- The effect of one word. -/
inductive Effect where
  | go (r : Reading)
  | help
  | version
  | refused

/-- Use a name, with the value attached to it. -/
def use (r : Reading) (named : Named) (attached : Option String) : Effect :=
  match r.settle with
  | none => .refused
  | some values =>
    match named, attached with
    | .help, none => .help
    | .version, none => .version
    | .switch s, attached =>
      match s.argument, attached with
      | some _, none => .go ⟨values, some (s, none)⟩
      | none, some _ => .refused
      | _, attached =>
        match values.add s (attached.getD "") with
        | some values => .go ⟨values, none⟩
        | none => .refused
    | _, some _ => .refused

/-- The value attached to a short name. -/
def attachedValue : List Char → Option String
  | [] => none
  | '=' :: cs => some (String.ofList cs)
  | cs => some (String.ofList cs)

/-- Use the short names of a word, of which the first that takes a value ends the
names. -/
def useShort (names : Names) (r : Reading) : List Char → Effect
  | [] => .go r
  | c :: cs =>
    match names.short c with
    | none => .refused
    | some (.switch s) =>
      if s.argument.isSome then use r (.switch s) (attachedValue cs)
      else match use r (.switch s) none with
        | .go r => useShort names r cs
        | effect => effect
    | some named => use r named none

/-- The forms of a word. -/
inductive Word where
  /-- Two dashes: no switch follows. -/
  | escape
  | long (name : String) (attached : Option String)
  | short (names : List Char)
  | plain

/-- The form of a word. -/
def Word.of (s : String) : Word :=
  match s.toList with
  | ['-', '-'] => .escape
  | '-' :: '-' :: cs =>
    let name := cs.takeWhile (· ≠ '=')
    .long (String.ofList name) (attachedValue (cs.drop name.length))
  | '-' :: c :: cs => .short (c :: cs)
  | _ => .plain

/-- Scan words up to the end or to the name of a command. -/
def scan (names : Names) (r : Reading) : List String → Scanned
  | [] => .finished r
  | w :: ws =>
    let proceed (e : Effect) : Scanned :=
      match e with
      | .go r => scan names r ws
      | .help => .help
      | .version => .version
      | .refused => .refused
    match r.pending, Word.of w with
    | some (s, none), .plain => scan names { r with pending := some (s, some w) } ws
    | some (_, none), _ => .refused
    | _, .escape => if ws.isEmpty then .finished r else .refused
    | _, .long name attached =>
      match names.long name with
      | some named => proceed (use r named attached)
      | none => .refused
    | _, .short letters => proceed (useShort names r letters)
    | _, .plain => if names.isCommand w then .command r w ws else .refused

/-! ## A whole grammar -/

/-- Take the values of environment variables for switches that were not given. -/
def addVariables (environment : String → Option String) :
    List Switch → Values → Option Values
  | [], vs => some vs
  | s :: ss, vs =>
    match (s.argument.bind (·.source)).bind environment with
    | some value =>
      if (vs.value? s.long).isSome then addVariables environment ss vs
      else (vs.add s value).bind (addVariables environment ss)
    | none => addVariables environment ss vs

/-- Take standard values for switches that were not given; one that is required must
have been given. -/
def addStandards : List Switch → Values → Option Values
  | [], vs => some vs
  | s :: ss, vs =>
    match vs.value? s.long, s.presence with
    | none, .required => none
    | none, .standard value => (vs.add s value).bind (addStandards ss)
    | _, _ => addStandards ss vs

/-- All values of a grammar, once its words were scanned. -/
def Reading.complete (environment : String → Option String) (g : Grammar) (r : Reading) :
    Option Values := do
  let vs ← r.settle
  let vs ← addVariables environment g.switches vs
  addStandards g.switches vs

/-- The names of a grammar; `commands` are the words that name commands. -/
def Grammar.names (g : Grammar) (versioned : Bool) (commands : List String) : Names where
  long name :=
    if name = "help" then some .help
    else if versioned && name = "version" then some .version
    else (g.switches.find? fun s => s.long = name).map .switch
  short c :=
    if c = 'h' then some .help
    else if versioned && c = 'V' then some .version
    else (g.switches.find? fun s => s.short = some c).map .switch
  isCommand w := commands.contains w

end CommandLine

end TwoParty
