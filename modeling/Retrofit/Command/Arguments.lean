/-! The command line: which command is wanted, and with what options. A word that begins with a dash is an
option; two dashes alone end the options. An option with a value takes the rest of its word, behind an
equals sign if there is one, or else the next word unless that is an option too. -/
namespace Retrofit

structure RunOptions where
  files : List String
  language : String
  responses : Option String
  model : Option String
  out : String
  folder : Option String
  report : Option String
  compact : Bool
  deriving DecidableEq

inductive Command where
  | version
  | run (options : RunOptions)
  | validate (response : String) (json : Bool)
  | skeleton (response : String) (language : Option String)
  | inspect (response : String)
  deriving DecidableEq

namespace Arguments

structure Choice where
  long : String
  short : Option Char
  valued : Bool
  /-- Whether the value names a file, and so must not be empty. -/
  path : Bool

/-- What the words of a command say: its options with their values, and the words that are none. -/
structure Given where
  options : List (String × String)
  words : List String

def Given.value? (g : Given) (long : String) : Option String := g.options.lookup long

def Given.has (g : Given) (long : String) : Bool := (g.value? long).isSome

/-- No option may be given twice. -/
def Given.add (g : Given) (c : Choice) (value : String) : Option Given :=
  if g.has c.long || (c.path && value.isEmpty) then none
  else some { g with options := g.options ++ [(c.long, value)] }

inductive Word where
  | end
  | long (name : String) (value : Option String)
  | short (cluster : List Char)
  | plain

/-- The text before the first equals sign, and the text behind it. -/
def splitEquals : List Char → List Char × Option (List Char)
  | [] => ([], none)
  | c :: cs =>
    if c = '=' then ([], some cs)
    else
      let (before, after) := splitEquals cs
      (c :: before, after)

def Word.of (s : String) : Word :=
  match s.toList with
  | ['-', '-'] => .end
  | '-' :: '-' :: cs =>
    let (name, value) := splitEquals cs
    .long (String.ofList name) (value.map String.ofList)
  | ['-'] => .plain
  | '-' :: cs => .short cs
  | _ => .plain

/-- The value behind the letter of an option in the same word. -/
def attached : List Char → Option String
  | [] => none
  | '=' :: cs => some (String.ofList cs)
  | cs => some (String.ofList cs)

/-- The words of a command, in order. `pending` is an option that still wants its value, and `plain` says
that the options have ended. -/
def read (choices : List Choice) : Option Choice → Bool → Given → List String → Option Given
  | some _, _, _, [] => none
  | none, _, g, [] => some g
  | pending, true, g, s :: rest =>
    match pending with
    | some _ => none
    | none => read choices none true { g with words := g.words ++ [s] } rest
  | some c, false, g, s :: rest =>
    match Word.of s with
    | .plain => (g.add c s).bind fun g => read choices none false g rest
    | _ => none
  | none, false, g, s :: rest =>
    match Word.of s with
    | .plain => read choices none false { g with words := g.words ++ [s] } rest
    | .end => read choices none true g rest
    | .long name value =>
      match choices.find? (·.long == name), value with
      | none, _ => none
      | some c, none =>
        if c.valued then read choices (some c) false g rest
        else (g.add c "").bind fun g => read choices none false g rest
      | some c, some v =>
        if c.valued then (g.add c v).bind fun g => read choices none false g rest else none
    | .short [] => none
    | .short (letter :: cs) =>
      match choices.find? (·.short == some letter), attached cs with
      | none, _ => none
      | some c, none =>
        if c.valued then read choices (some c) false g rest else none
      | some c, some v =>
        if c.valued then (g.add c v).bind fun g => read choices none false g rest else none

def given (choices : List Choice) (args : List String) : Option Given :=
  read choices none false ⟨[], []⟩ args

def runChoices : List Choice :=
  [⟨"language", some 'l', true, false⟩,
    ⟨"responses", none, true, true⟩,
    ⟨"model", none, true, false⟩,
    ⟨"out", some 'o', true, true⟩,
    ⟨"folder", none, true, false⟩,
    ⟨"report", none, true, true⟩,
    ⟨"compact", none, false, false⟩]

/-- At least one file and the language are needed, and a report for it to be compact. -/
def run (g : Given) : Option Command := do
  let language ← g.value? "language"
  if g.words.isEmpty || g.words.any (·.isEmpty) then none
  else if g.has "compact" && !g.has "report" then none
  else
    return .run {
      files := g.words
      language
      responses := g.value? "responses"
      model := g.value? "model"
      out := (g.value? "out").getD "."
      folder := g.value? "folder"
      report := g.value? "report"
      compact := g.has "compact" }

def onlyWord (g : Given) : Option String :=
  match g.words with
  | [s] => if s.isEmpty then none else some s
  | _ => none

def validate (g : Given) : Option Command := do
  return .validate (← onlyWord g) (g.has "json")

def skeleton (g : Given) : Option Command := do
  return .skeleton (← onlyWord g) (g.value? "language")

def inspect (g : Given) : Option Command := do
  return .inspect (← onlyWord g)

def isVersion (s : String) : Bool :=
  s == "--version" || ['-', 'V'].isPrefixOf s.toList

end Arguments

/-- The command that the words ask for, if they are used as they should be. -/
def Command.ofArguments : List String → Option Command
  | [] => none
  | name :: args =>
    if Arguments.isVersion name then some .version
    else
      match name with
      | "run" => (Arguments.given Arguments.runChoices args).bind Arguments.run
      | "validate" => (Arguments.given [⟨"json", none, false, false⟩] args).bind Arguments.validate
      | "skeleton" =>
        (Arguments.given [⟨"language", some 'l', true, false⟩] args).bind Arguments.skeleton
      | "inspect" => (Arguments.given [] args).bind Arguments.inspect
      | _ => none

end Retrofit
