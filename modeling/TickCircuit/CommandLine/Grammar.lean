import TickCircuit.Text.DecimalDigit
import TickCircuit.Value.Rendering

/-!
# Grammars of Command Lines

A command line is a list of words. A grammar gives the switches that may stand among them, what each
one sets, and the operand that has to be there. Words in front of the operand, between switches and
behind it are all read in their order; words that have no place are left over.

A switch may be shortened as long as it remains clear which one is meant. A value stands behind its
switch as a word of its own, behind an equals sign, or right behind a single letter.
-/

namespace TickCircuit.CommandLine

/-- What a switch does. -/
inductive Effect (σ : Type) where
  | help
  | mark (set : σ → σ)
  /-- Takes a value, or says what is wrong with it. -/
  | value (set : String → Except String (σ → σ))

/-- A switch with all its names. -/
structure Switch (σ : Type) where
  names : List String
  effect : Effect σ

/-- The name under which a switch is reported. -/
def Switch.title {σ : Type} (s : Switch σ) : String := String.intercalate "/" s.names

/-- What a command line may hold. -/
structure Grammar (σ : Type) where
  /-- The name of the program, with its command. -/
  program : String
  usage : String
  /-- What is printed behind the usage when help is asked for. -/
  details : String
  switches : List (Switch σ)
  /-- The name of the operand. -/
  operand : String
  /-- All words behind the operand belong to it. -/
  takesRest : Bool

/-- Why nothing is carried out. -/
inductive Stop where
  | help (text : String)
  | misuse (program usage complaint : String)
  deriving Repr, DecidableEq

/-- What a command line says. -/
structure Parsed (σ : Type) where
  settings : σ
  /-- The operand, and the words behind it that belong to it. -/
  operand : List String
  /-- The words that have no place. -/
  extras : List String

namespace Grammar

variable {σ : Type}

def misuse {α : Type} (g : Grammar σ) (complaint : String) : Except Stop α :=
  .error (.misuse g.program g.usage complaint)

/-- A complaint about a switch. -/
def misuseOf {α : Type} (g : Grammar σ) (s : Switch σ) (complaint : String) : Except Stop α :=
  g.misuse ("argument " ++ s.title ++ ": " ++ complaint)

/-! ## §1 Words -/

/-- A value that stands in the same word as its switch. -/
structure Attached where
  text : List Char
  behindEquals : Bool

/-- What a word is. -/
inductive Word (σ : Type) where
  | plain
  | switch (s : Switch σ) (name : List Char) (attached : Option Attached)
  /-- A switch that the grammar does not have. -/
  | unknown

/-- All names of switches. -/
def names (g : Grammar σ) : List (List Char × Switch σ) :=
  g.switches.flatMap fun s => s.names.map fun name => (name.toList, s)

/-- The switch with a name. -/
def find? (g : Grammar σ) (name : List Char) : Option (Switch σ) :=
  (g.names.find? (·.1 == name)).map Prod.snd

/-- A word up to its first equals sign, and what stands behind that. -/
def atEquals (word : List Char) : List Char × Option Attached :=
  let name := word.takeWhile (· != '=')
  match word.drop name.length with
  | [] => (name, none)
  | _ :: text => (name, some ⟨text, true⟩)

/-- The switches that a word with two dashes may be short for. -/
def completions (g : Grammar σ) (word : List Char) :
    List (List Char × Switch σ × Option Attached) :=
  let (name, attached) := atEquals word
  (g.names.filter fun n => name.isPrefixOf n.1).map fun n => (n.1, n.2, attached)

/-- The switches that a word with one dash may stand for: the one of its letter, with the rest as a
value, and those it is short for. -/
def letters (g : Grammar σ) (word : List Char) : List (List Char × Switch σ × Option Attached) :=
  g.names.filterMap fun n =>
    if n.1 == word.take 2 then some (n.1, n.2, some ⟨word.drop 2, false⟩)
    else if word.isPrefixOf n.1 then some (n.1, n.2, none)
    else none

/-- A word spells a negative number; a line feed may follow. -/
def isNegativeNumber (word : List Char) : Bool :=
  match word with
  | '-' :: body =>
    let body := if body.getLast? == some '\n' then body.dropLast else body
    match body.dropWhile DecimalDigit.isDigit with
    | [] => !body.isEmpty
    | '.' :: rest => !rest.isEmpty && rest.all DecimalDigit.isDigit
    | _ => false
  | _ => false

/-- What a word is. A word with a dash in front is a switch, except for a single dash, a negative
number, and a text with blanks that begins like no switch. -/
def classify (g : Grammar σ) (word : String) : Except Stop (Word σ) :=
  let cs := word.toList
  if cs.head? != some '-' then .ok .plain
  else
    let (name, attached) := atEquals cs
    match g.find? cs, g.find? name, attached with
    | some s, _, _ => .ok (.switch s cs none)
    | none, some s, some a => .ok (.switch s name (some a))
    | none, _, _ =>
      if cs.length == 1 then .ok .plain
      else
        match if cs.take 2 == ['-', '-'] then g.completions cs else g.letters cs with
        | [(name, s, attached)] => .ok (.switch s name attached)
        | [] => .ok (if isNegativeNumber cs || cs.contains ' ' then .plain else .unknown)
        | several => g.misuse ("ambiguous option: " ++ word ++ " could match " ++
            String.intercalate ", " (several.map fun c => String.ofList c.1))

/-! ## §2 Switches -/

/-- A switch to be set, with its value if it takes one. -/
abbrev Act (σ : Type) := Switch σ × Option String

/-- How a word with switches ends. -/
inductive Ending (σ : Type) where
  | done
  /-- The last switch has no value in this word. -/
  | pending (s : Switch σ)
  /-- The rest of the word is no switch. -/
  | extra (word : String)

/-- A switch that takes no value has one. -/
def ignored {α : Type} (g : Grammar σ) (s : Switch σ) (text : List Char) : Except Stop α :=
  g.misuseOf s ("ignored explicit argument " ++ Quoted.quote (String.ofList text))

/-- The switches in a word whose first one has `text` attached. A switch of one letter that takes no
value may be followed by another one. -/
def spread (g : Grammar σ) : (text : List Char) → (behindEquals oneLetter : Bool) → Switch σ →
    Except Stop (List (Act σ) × Ending σ)
  | [], _, _, s =>
    match s.effect with
    | .value _ => .ok ([(s, some "")], .done)
    | _ => g.ignored s []
  | c :: rest, behindEquals, oneLetter, s =>
    match s.effect with
    | .value _ => .ok ([(s, some (String.ofList (c :: rest)))], .done)
    | _ =>
      if !oneLetter || behindEquals || c == '-' then g.ignored s (c :: rest)
      else
        match g.find? ['-', c], rest with
        | none, _ => .ok ([(s, none)], .extra (String.ofList ('-' :: c :: rest)))
        | some next, [] => .ok ([(s, none)], .pending next)
        | some next, '=' :: more =>
          (g.spread more true true next).map fun r => ((s, none) :: r.1, r.2)
        | some next, d :: more =>
          (g.spread (d :: more) false true next).map fun r => ((s, none) :: r.1, r.2)

/-- The switches in a word. -/
def acts (g : Grammar σ) (s : Switch σ) (name : List Char) (attached : Option Attached) :
    Except Stop (List (Act σ) × Ending σ) :=
  match attached with
  | none => .ok ([], .pending s)
  | some a => g.spread a.text a.behindEquals ((name.drop 1).head? != some '-') s

/-- Sets a switch. -/
def set (g : Grammar σ) (settings : σ) (act : Act σ) : Except Stop σ :=
  match act.1.effect with
  | .help => .error (.help (g.usage ++ g.details))
  | .mark f => .ok (f settings)
  | .value read =>
    match read (act.2.getD "") with
    | .ok f => .ok (f settings)
    | .error complaint => g.misuseOf act.1 complaint

/-! ## §3 Command Lines -/

/-- What has been read of a command line. -/
structure Progress (σ : Type) where
  settings : σ
  operand : List String := []
  extras : List String := []
  /-- Switches to be set once the last one has got its value. -/
  waiting : Option (List (Act σ) × Switch σ) := none
  /-- The last word was the operand. -/
  atOperand : Bool := false

/-- Sets switches. -/
def Progress.set (g : Grammar σ) (p : Progress σ) (acts : List (Act σ)) :
    Except Stop (Progress σ) := do
  let settings ← acts.foldlM g.set p.settings
  return { p with settings, waiting := none, atOperand := false }

def lacksValue {α : Type} (g : Grammar σ) (s : Switch σ) : Except Stop α :=
  g.misuseOf s "expected one argument"

/-- Reads the words of a command line. -/
def read (g : Grammar σ) : List (String × Word σ) → Progress σ → Except Stop (Progress σ)
  | [], p =>
    match p.waiting with
    | some (_, s) => g.lacksValue s
    | none => .ok p
  | (word, kind) :: rest, p =>
    match p.waiting, kind with
    | some (before, s), .plain => do g.read rest (← p.set g (before ++ [(s, some word)]))
    | some (_, s), _ => g.lacksValue s
    | none, .plain =>
      if !p.operand.isEmpty then
        g.read rest { p with extras := p.extras ++ [word], atOperand := false }
      else if g.takesRest then
        .ok { p with operand := word :: rest.map Prod.fst, atOperand := true }
      else g.read rest { p with operand := [word], atOperand := true }
    | none, .unknown => g.read rest { p with extras := p.extras ++ [word], atOperand := false }
    | none, .switch s name attached => do
      let (before, ending) ← g.acts s name attached
      match ending with
      | .done => g.read rest (← p.set g before)
      | .extra part =>
        let p ← p.set g before
        g.read rest { p with extras := p.extras ++ [part] }
      | .pending last =>
        match last.effect with
        | .value _ => g.read rest { p with waiting := some (before, last), atOperand := false }
        | _ => g.read rest (← p.set g (before ++ [(last, none)]))

/-- The words behind the mark `--`, which are no switches. The mark belongs to the operand next to
it, or else has no place. -/
def finish (g : Grammar σ) (p : Progress σ) (behind : List String) : Progress σ :=
  if g.takesRest then
    if p.operand.isEmpty && behind.isEmpty then { p with extras := p.extras ++ ["--"] }
    else { p with operand := p.operand ++ "--" :: behind }
  else
    match p.operand, behind with
    | [], word :: rest => { p with operand := [word], extras := p.extras ++ rest }
    | _, _ =>
      { p with extras := p.extras ++ (if p.atOperand then behind else "--" :: behind) }

/-- What a command line says, given the settings before it. -/
def parse (g : Grammar σ) (settings : σ) (words : List String) : Except Stop (Parsed σ) := do
  let front := words.takeWhile (· != "--")
  let kinds ← front.mapM g.classify
  let p ← g.read (front.zip kinds) { settings }
  let p := match words.drop front.length with
    | [] => p
    | _ :: behind => g.finish p behind
  if p.operand.isEmpty then g.misuse ("the following arguments are required: " ++ g.operand)
  else return ⟨p.settings, p.operand, p.extras⟩

end Grammar

end TickCircuit.CommandLine
