import OpenApiTypes.Path
import OpenApiTypes.Text.Digit
import OpenApiTypes.Text.Quoted

/-!
# Command-line arguments

The words of a command line are first told apart, each by itself: flags, words that look like flags
but are none, and values. A flag may be shortened as long as only one is meant, may have its value
attached, and flags of one letter may share a word. Then the flags are taken in order with their
values; what is left over is refused at the end. Asking for help ends the reading where it stands.

Readers of command lines have changed their minds about what is attached to a flag, so there are two
conventions. By the older one a flag to which only two dashes are attached is given without a value,
an equals sign among flags of one letter starts no value, and a letter that is no flag is held
against the flag before it. By the newer one two dashes are a value like any other, an equals sign
starts a value, which a flag without values refuses, and letters from the first that is no flag are
left over.
-/
namespace OpenApiTypes.CommandLine

/-- What a command line chooses. A version or a description without a value counts as not chosen. A
configuration is chosen if its flag is there, and may be chosen without a value; the same goes for
the output, which is always chosen. -/
structure Options where
  version : Option String
  description : Option Path
  configuration : Option (Option Path)
  output : Option Path
  isVerbose : Bool
  deriving DecidableEq, Repr

/-- The choices of an empty command line: the version of the program itself, no configuration, and a
directory with an agreed name. -/
def Options.default : Options := ⟨none, none, none, some (.ofText "dist"), false⟩

/-- The flags that there are. What each of them does is settled where it is followed, not here. -/
inductive Flag where
  | help
  | version
  | description
  | configuration
  | output
  | verbose
  deriving DecidableEq, Repr

/-- The spellings of flags, in the order in which messages list them. A flag may have several. -/
def spellings : List (String × Flag) :=
  [("-h", .help), ("--help", .help), ("--kube-version", .version), ("--spec", .description),
    ("--config", .configuration), ("--output", .output), ("-o", .output), ("--verbose", .verbose),
    ("-v", .verbose)]

namespace Flag

/-- Whether a flag has a value. Those that have none may be written together behind one dash. -/
def takesValue : Flag → Bool
  | help | verbose => false
  | _ => true

/-- A flag with all its spellings, as messages name it, whichever of them was used. -/
def title (flag : Flag) : String :=
  "/".intercalate ((spellings.filter (·.2 = flag)).map Prod.fst)

/-- The flag with exactly this spelling. Beginnings of spellings are looked at elsewhere, and only
behind two dashes. -/
def ofSpelling? (word : List Char) : Option Flag := spellings.lookup (String.ofList word)

end Flag

/-- Why a command line is refused. The first problem in the order of the words is the one that
counts, but words that belong to no flag are reported at the end and all together. -/
inductive UsageProblem where
  | ambiguous (word : String) (candidates : List String)
  | valueMissing (flag : Flag)
  | valueUnexpected (flag : Flag) (value : String)
  | unrecognized (words : List String)
  deriving DecidableEq, Repr

/-- The sentence about a refused command line. It goes behind a line that says how the program is
called. -/
def UsageProblem.message : UsageProblem → String
  | ambiguous word candidates =>
    "ambiguous option: " ++ word ++ " could match " ++ ", ".intercalate candidates
  | valueMissing flag => "argument " ++ flag.title ++ ": expected one argument"
  | valueUnexpected flag value =>
    "argument " ++ flag.title ++ ": ignored explicit argument " ++ Text.quoted value
  | unrecognized words => "unrecognized arguments: " ++ " ".intercalate words

/-- The two ways to read what is attached to a flag. -/
inductive Convention where
  | older
  | newer
  deriving DecidableEq, Repr

/-- What is attached to a flag, behind an equals sign or directly. The two are told apart because
the letters behind a sign may be read in another way. -/
structure Attachment where
  isAssigned : Bool
  text : List Char
  deriving DecidableEq, Repr

/-- A word of a command line. A flag is short when its spelling has one dash. What a word is depends
on the word alone, apart from the two dashes behind which no more flags are looked for. -/
inductive Word where
  | value (word : String)
  | separator
  | unknown (word : String)
  | flag (flag : Flag) (isShort : Bool) (attached : Option Attachment)
  deriving DecidableEq, Repr

/-- The part of a word before an equals sign, and what follows the sign, if there is one. Only the
first sign counts; the value may have more. -/
def splitAssignment (word : List Char) : List Char × Option (List Char) :=
  match word.dropWhile (· != '=') with
  | [] => (word, none)
  | _ :: value => (word.takeWhile (· != '='), some value)

/-- Whether digits stand in a text from its start to its end, or to a line feed at its end. -/
def isDigits (text : List Char) : Bool :=
  let rest := text.dropWhile Text.isDigit
  !(text.takeWhile Text.isDigit).isEmpty && (rest == [] || rest == ['\n'])

/-- Whether a word is a negative number, which is a value in spite of its dash. -/
def isNegativeNumber : List Char → Bool
  | '-' :: digits =>
    isDigits digits ||
      match digits.dropWhile Text.isDigit with
      | '.' :: fraction => isDigits fraction
      | _ => false
  | _ => false

/-- A word with a dash that is no spelling of a flag. A negative number, or a word with a blank in
it, is taken for a value nevertheless. -/
def strangeWord (word : List Char) : Word :=
  if isNegativeNumber word || word.contains ' ' then .value (String.ofList word)
  else .unknown (String.ofList word)

/-- A word that begins with two dashes and is no full spelling: the beginning of one flag's
spelling, or of several, which is refused. -/
def longWord (word : List Char) : Except UsageProblem Word :=
  let (start, value) := splitAssignment word
  match spellings.filter fun entry => start.isPrefixOf entry.1.toList with
  | [] => .ok (strangeWord word)
  | [(_, flag)] => .ok (.flag flag false (value.map (⟨true, ·⟩)))
  | several => .error (.ambiguous (String.ofList word) (several.map Prod.fst))

/-- A word that begins with one dash: a flag of one letter with something attached, or no flag.
Which letters are attached is looked at when the flag is followed. -/
def shortWord (word : List Char) : Word :=
  match Flag.ofSpelling? (word.take 2) with
  | some flag => .flag flag true (some ⟨false, word.drop 2⟩)
  | none => strangeWord word

/-- Tell what a word is. The full spelling of a flag comes first, then one with a value behind an
equals sign, and then beginnings of spellings or letters that are attached. -/
def readWord (word : List Char) : Except UsageProblem Word :=
  match word with
  | '-' :: second :: _ =>
    let isShort := second != '-'
    match Flag.ofSpelling? word with
    | some flag => .ok (.flag flag isShort none)
    | none =>
      match splitAssignment word with
      | (start, some value) =>
        match Flag.ofSpelling? start with
        | some flag => .ok (.flag flag isShort (some ⟨true, value⟩))
        | none => if isShort then .ok (shortWord word) else longWord word
      | (_, none) => if isShort then .ok (shortWord word) else longWord word
  | _ => .ok (.value (String.ofList word))

/-- Tell the words of a command line apart. Behind two dashes alone everything is a value. One word
that may be several flags is refused before any flag is followed. -/
def readWords : List String → Except UsageProblem (List Word)
  | [] => .ok []
  | word :: rest =>
    if word = "--" then .ok (.separator :: rest.map .value)
    else do return (← readWord word.toList) :: (← readWords rest)

/-- What one word says: flags without a value, then perhaps a flag with the value attached, or a
flag whose value is still to come, or letters that are no flags. -/
structure Reading where
  plain : List Flag
  valued : Option (Flag × List Char)
  awaiting : Option Flag
  left : Option String
  deriving DecidableEq, Repr

/-- The reading of a flag without anything attached: it stands for itself, or its value is still to
come. -/
def Reading.ofFlag (flag : Flag) : Reading :=
  if flag.takesValue then ⟨[], none, some flag, none⟩ else ⟨[flag], none, none, none⟩

/-- The reading of a flag of one letter to which letters are attached that are no flags. -/
def Convention.strangeLetters (convention : Convention) (flag : Flag) (letters : List Char) :
    Except UsageProblem Reading :=
  match convention with
  | older => .error (.valueUnexpected flag (String.ofList letters))
  | newer => .ok ⟨[flag], none, none, some (String.ofList ('-' :: letters))⟩

/-- Read what is attached to a flag. A flag of one letter that has no value may have more such flags
attached; everything else that has no value refuses what is attached. -/
def readAttached (convention : Convention) (flag : Flag) (isShort isAssigned : Bool) :
    List Char → Except UsageProblem Reading
  | [] =>
    if flag.takesValue then .ok ⟨[], some (flag, []), none, none⟩
    else .error (.valueUnexpected flag "")
  | letter :: rest =>
    if flag.takesValue then .ok ⟨[], some (flag, letter :: rest), none, none⟩
    else if !isShort || convention = .newer && (isAssigned || letter = '-') then
      .error (.valueUnexpected flag (String.ofList (letter :: rest)))
    else
      match Flag.ofSpelling? ['-', letter] with
      | none => convention.strangeLetters flag (letter :: rest)
      | some next => do
        let reading ←
          match rest with
          | [] => pure (Reading.ofFlag next)
          | sign :: value =>
            if convention = .newer && sign = '=' then readAttached convention next true true value
            else readAttached convention next true false (sign :: value)
        return { reading with plain := flag :: reading.plain }

/-- The value that an attached text gives a flag. By the older convention two dashes give none. -/
def Convention.attachedValue (convention : Convention) (text : List Char) : Option String :=
  if convention = older ∧ text = ['-', '-'] then none else some (String.ofList text)

/-- How the reading of a command line ends when it does not reach the end of it: help was asked for,
or the command line is refused. -/
inductive Stop where
  | help
  | refused (problem : UsageProblem)
  deriving DecidableEq, Repr

namespace Options

/-- Follow a flag that has no value. The wish for help ends the reading, so flags behind it are not
followed. -/
def follow (options : Options) : Flag → Except Stop Options
  | .help => .error .help
  | .verbose => .ok { options with isVerbose := true }
  | _ => .ok options

/-- Follow a flag that has a value, or should have one. A later value takes the place of an earlier
one. -/
def assign (options : Options) (flag : Flag) (value : Option String) : Options :=
  match flag with
  | .version => { options with version := value }
  | .description => { options with description := value.map fun word => .ofText word }
  | .configuration => { options with configuration := some (value.map fun word => .ofText word) }
  | .output => { options with output := value.map fun word => .ofText word }
  | _ => options

end Options

/-- Take words in order. The result also has the words that belong to no flag, in order; whether
there may be any is not asked here. -/
def takeWords (convention : Convention) (options : Options) :
    List Word → Except Stop (Options × List String)
  | [] => .ok (options, [])
  | .value word :: rest | .unknown word :: rest => do
    let (options, left) ← takeWords convention options rest
    return (options, word :: left)
  | .separator :: rest => do
    let (options, left) ← takeWords convention options rest
    return (options, "--" :: left)
  | .flag flag isShort attached :: rest => do
    let reading ←
      match attached with
      | none => pure (Reading.ofFlag flag)
      | some ⟨isAssigned, text⟩ =>
        (readAttached convention flag isShort isAssigned text).mapError Stop.refused
    match reading.awaiting with
    | some awaiting =>
      match rest with
      | .value value :: rest =>
        let options ← reading.plain.foldlM Options.follow options
        takeWords convention (options.assign awaiting (some value)) rest
      | _ => throw (.refused (.valueMissing awaiting))
    | none =>
      let options ← reading.plain.foldlM Options.follow options
      let options :=
        match reading.valued with
        | some (flag, text) => options.assign flag (convention.attachedValue text)
        | none => options
      let (options, left) ← takeWords convention options rest
      return (options, reading.left.toList ++ left)

/-- Read a command line. There are no words beside flags and their values, so one that is left over
is refused, though only after all the others are found to be in order. -/
def readArguments (convention : Convention) (arguments : List String) : Except Stop Options := do
  let words ← (readWords arguments).mapError Stop.refused
  let (options, left) ← takeWords convention .default words
  if left ≠ [] then throw (.refused (.unrecognized left))
  return options

/-- The line that says how the program is called. It comes first in the help and before every
refusal. -/
def usage : String :=
  "usage: k8s_typegen [-h] [--kube-version VERSION] [--spec FILE] [--config FILE]\n" ++
  "                   [--output DIR] [--verbose]\n"

/-- The answer to the wish for help. It goes to the output and the run ends well. -/
def helpText : String :=
  usage ++
  "\nGenerate TypeScript types from the Kubernetes OpenAPI spec.\n" ++
  "\noptions:\n" ++
  "  -h, --help            show this help message and exit\n" ++
  "  --kube-version VERSION\n" ++
  "                        Kubernetes version to fetch (default: this package's\n" ++
  "                        version)\n" ++
  "  --spec FILE           Read swagger.json from FILE instead of fetching it\n" ++
  "  --config FILE         JSON file overriding the prefix, elision and scalar\n" ++
  "                        tables\n" ++
  "  --output DIR, -o DIR  Destination directory (default: dist)\n" ++
  "  --verbose, -v         Enable debug logging\n"

/-- The answer to a command line that is refused. It goes to the errors, and nothing else is
done. -/
def refusal (problem : UsageProblem) : String :=
  usage ++ "k8s_typegen: error: " ++ problem.message ++ "\n"

end OpenApiTypes.CommandLine
