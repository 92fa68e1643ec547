import LatticeLP.Console.Settings
import LatticeLP.Decimal.Numeral

/-!
# Reading the command line

Arguments are read from left to right, and the first thing that ends the reading
decides: a mistake, or the request for the version or the options. An option's value is
attached to its name by an equals sign or is the next argument, which must not look like
an option itself – a lone dash does not – unless the option takes anything. Single
letters may be run together behind one dash. Behind a lone double dash only positional
arguments could follow, and there are none.
-/

namespace LatticeLP

/-- A mistake on the command line. -/
inductive ArgumentError where
  /-- The argument means nothing here. -/
  | unknown (argument : String)
  /-- An option or switch that may be given once is given again. -/
  | repeated (name : String)
  /-- An option has no value. -/
  | missingValue (name : String)
  /-- A switch has a value. -/
  | unwantedValue (name : String)
  /-- The value of an option is not of the kind it needs. -/
  | badValue (name text : String)
  deriving Repr, DecidableEq

/-- The wording of an argument error. -/
def ArgumentError.message : ArgumentError → String
  | .unknown argument => "unexpected argument '" ++ argument ++ "'"
  | .repeated name => "the argument '--" ++ name ++ "' cannot be used multiple times"
  | .missingValue name => "a value is required for '--" ++ name ++ "'"
  | .unwantedValue name => "no value is expected for '--" ++ name ++ "'"
  | .badValue name text => "invalid value '" ++ text ++ "' for '--" ++ name ++ "'"

/-- Why reading the command line ends without settings. -/
inductive Ending where
  /-- There is a mistake. -/
  | mistake (cause : ArgumentError)
  /-- The version is wanted. -/
  | version
  /-- The list of options is wanted. -/
  | help
  deriving Repr, DecidableEq

/-- The settings read so far and the names that were given. -/
structure Reading where
  /-- The settings. -/
  settings : Settings
  /-- The names of options and switches that may not be given again. -/
  given : List String

namespace Arguments

/-! ## Values -/

/-- A natural number below a limit, with an optional plus sign. -/
def readNatural? (limit : Nat) (text : String) : Option Nat :=
  let digits := match text.toList with
    | '+' :: rest => rest
    | rest => rest
  if digits.isEmpty || !digits.all Char.isDigit then none
  else some (digitsValue 0 digits) |>.filter fun n => decide (n < limit)

/-- The number of values of a word of 64 bits. -/
def wordLimit : Nat := 0x10000000000000000

/-- The number of values of a word of 32 bits. -/
def shortLimit : Nat := 0x100000000

/-- A natural number of 32 bits, with an optional sign. Minus zero is zero. -/
def readPrecision? (text : String) : Option Nat :=
  match text.toList with
  | '-' :: rest =>
    if !rest.isEmpty && rest.all (· == '0') then some 0 else none
  | _ => readNatural? shortLimit text

/-- A number. -/
def readFloat? (text : String) : Option Float :=
  (readNumber? text.toList).toOption

/-- The settings with the value of an option, if the value is of the right kind. -/
def assign? (s : Settings) (o : ValueOption) (text : String) : Option Settings :=
  let withParams (f : Params Float) : Settings := { s with params := f }
  match o with
  | .epsilon => (readFloat? text).map fun epsilon => withParams { s.params with epsilon }
  | .alpha => (readFloat? text).map fun alpha => withParams { s.params with alpha }
  | .gamma => (readFloat? text).map fun gamma => withParams { s.params with gamma }
  | .step => (readFloat? text).map fun step => withParams { s.params with step }
  | .episodes => (readNatural? wordLimit text).map fun episodes =>
    withParams { s.params with episodes }
  | .steps => (readNatural? wordLimit text).map fun steps =>
    withParams { s.params with steps }
  | .precision => (readPrecision? text).map fun precision =>
    withParams { s.params with precision }
  | .seed => (readNatural? wordLimit text).map fun seed =>
    withParams { s.params with seed := seed.toUInt64 }
  | .seeds => (readNatural? wordLimit text).map fun seeds => { s with seeds }
  | .objective => some { s with objective := some text }
  | .constraint => some { s with constraints := s.constraints ++ [text] }

/-! ## Options and switches -/

/-- Give an option its value. -/
def setOption (r : Reading) (o : ValueOption) (text : String) : Except Ending Reading :=
  if r.given.contains o.name then .error (.mistake (.repeated o.name))
  else
    match assign? r.settings o text with
    | none => .error (.mistake (.badValue o.name text))
    | some settings => .ok ⟨settings, if o.repeats then r.given else o.name :: r.given⟩

/-- Turn a switch on. -/
def setSwitch (r : Reading) (s : Switch) : Except Ending Reading :=
  if r.given.contains s.name then .error (.mistake (.repeated s.name))
  else
    let given := s.name :: r.given
    match s with
    | .anneal => .ok ⟨{ r.settings with schedule := .decaying }, given⟩
    | .json => .ok ⟨{ r.settings with json := true }, given⟩
    | .noPlot => .ok ⟨{ r.settings with plot := false }, given⟩
    | .verbose => .ok ⟨{ r.settings with verbose := true }, given⟩
    | .version => .error .version
    | .help => .error .help

/-- Turn on the switches that letters stand for. -/
def setLetters (r : Reading) (argument : String) (letters : List Char) :
    Except Ending Reading :=
  letters.foldlM (fun r c =>
    match Switch.all.find? fun s => s.letter? == some c with
    | some s => setSwitch r s
    | none => .error (.mistake (.unknown argument))) r

/-- Whether an argument can stand alone as a value. -/
def isPlain (argument : String) : Bool :=
  match argument.toList with
  | '-' :: _ :: _ => false
  | _ => true

/-- The name of a long option and the value attached to it, if there is one. -/
def splitName (cs : List Char) : String × Option String :=
  let name := String.ofList (cs.takeWhile (· != '='))
  match cs.dropWhile (· != '=') with
  | _ :: value => (name, some (String.ofList value))
  | [] => (name, none)

/-- **Read the arguments from left to right.** -/
def scan (r : Reading) : List String → Except Ending Settings
  | [] => .ok r.settings
  | argument :: rest =>
    match argument.toList with
    | ['-', '-'] =>
      match rest with
      | [] => .ok r.settings
      | positional :: _ => .error (.mistake (.unknown positional))
    | '-' :: '-' :: cs =>
      let (name, attached) := splitName cs
      match Switch.all.find? (·.name == name), ValueOption.all.find? (·.name == name),
        attached with
      | some s, _, none => setSwitch r s >>= fun r => scan r rest
      | some s, _, some _ => .error (.mistake (.unwantedValue s.name))
      | none, some o, some text => setOption r o text >>= fun r => scan r rest
      | none, some o, none =>
        match rest with
        | text :: rest =>
          if o.takesAnything || isPlain text then setOption r o text >>= fun r =>
            scan r rest
          else .error (.mistake (.missingValue o.name))
        | [] => .error (.mistake (.missingValue o.name))
      | none, none, _ => .error (.mistake (.unknown argument))
    | '-' :: c :: cs => setLetters r argument (c :: cs) >>= fun r => scan r rest
    | _ => .error (.mistake (.unknown argument))

/-- **The settings that a command line asks for.** -/
def read (arguments : List String) : Except Ending Settings :=
  scan ⟨.standard, []⟩ arguments

end Arguments

end LatticeLP
