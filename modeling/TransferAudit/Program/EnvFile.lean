import TransferAudit.Text.Alphanumeric
import TransferAudit.Text.Blank

/-! Files of environment variables: lines `NAME=value` with quotes, escapes, comments and variables in
the values. What the environment sets already stays. -/

namespace TransferAudit.Program

abbrev Environment := List (List Char × List Char)

namespace EnvFile

inductive Ending
  | complete
  | blank
  | escape
  | strong
  | strongEscape
  | weak
  | weakEscape
  | comment (start : Nat)
  deriving DecidableEq

def Ending.next (i : Nat) (c : Char) : Ending → Ending
  | .blank =>
    if c = '#' then .comment i
    else if c = '\\' then .escape
    else if c = '"' then .weak
    else if c = '\'' then .strong
    else .complete
  | .escape => .complete
  | .complete =>
    if Text.isBlank c ∧ c ≠ '\n' ∧ c ≠ '\r' then .blank
    else if c = '\\' then .escape
    else if c = '"' then .weak
    else if c = '\'' then .strong
    else .complete
  | .weak => if c = '\\' then .weakEscape else if c = '"' then .complete else .weak
  | .weakEscape => .weak
  | .strong => if c = '\\' then .strongEscape else if c = '\'' then .complete else .strong
  | .strongEscape => .strong
  | .comment start => .comment start

def Ending.after (e : Ending) : Nat → List Char → Ending
  | _, [] => e
  | i, c :: cs => (e.next i c).after (i + 1) cs

def lines : List Char → List (List Char)
  | [] => []
  | c :: cs =>
    if c = '\n' then ['\n'] :: lines cs
    else match lines cs with
      | [] => [[c]]
      | l :: ls => (c :: l) :: ls

def dropLineEnd (cs : List Char) : List Char :=
  match cs.reverse with
  | '\n' :: '\r' :: cs => cs.reverse
  | '\n' :: cs => cs.reverse
  | _ => cs

def isComment (cs : List Char) : Bool := (Text.trimLeft cs).head? == some '#'

/-- Joins lines that a quote or an escape holds together. A text that ends inside one ends in none. -/
def join : List Char → Ending → List (List Char) → List (Option (List Char))
  | _, .complete, [] => []
  | _, _, [] => [none]
  | pending, e, l :: ls =>
    let text := pending ++ l
    if isComment text then some [] :: join [] .complete ls
    else match e.after 0 l with
      | .complete => some (dropLineEnd text) :: join [] .complete ls
      | .comment i => some (pending ++ l.take i) :: join [] .complete ls
      | e => join text e ls

inductive Mode
  | text
  | escaped
  | strong
  | variable
  | braced
  | ended
  deriving DecidableEq

structure State where
  mode : Mode
  weak : Bool
  name : List Char
  out : List Char

variable (get : List Char → List Char)

def State.substitute (s : State) : State :=
  { s with name := [], out := s.out ++ get s.name }

def State.push (s : State) (c : Char) : State := { s with mode := .text, out := s.out ++ [c] }

def State.next (s : State) (c : Char) : Option State :=
  match s.mode with
  | .ended => if c = ' ' ∨ c = '\t' then some s else none
  | .escaped =>
    if c = '\\' ∨ c = '\'' ∨ c = '"' ∨ c = '$' ∨ c = ' ' then some (s.push c)
    else if c = 'n' then some (s.push '\n')
    else none
  | .strong => if c = '\'' then some { s with mode := .text } else some { s with out := s.out ++ [c] }
  | .variable =>
    if Text.isAlphanumeric c then some { s with name := s.name ++ [c] }
    else if c = '\x7b' ∧ s.name = [] then some { s with mode := .braced }
    else if c = '$' then some (s.substitute get)
    else some ((s.substitute get).push c)
  | .braced =>
    if c = '\x7d' then some { s.substitute get with mode := .text }
    else some { s with name := s.name ++ [c] }
  | .text =>
    if c = '$' then some { s with mode := .variable }
    else if c = '\\' then some { s with mode := .escaped }
    else if s.weak then some (if c = '"' then { s with weak := false } else s.push c)
    else if c = '\'' then some { s with mode := .strong }
    else if c = '"' then some { s with weak := true }
    else if c = ' ' ∨ c = '\t' then some { s with mode := .ended }
    else some (s.push c)

def value? : State → List Char → Option (List Char)
  | s, [] =>
    if s.mode = .braced ∨ s.mode = .strong ∨ s.weak then none else some (s.substitute get).out
  | s, c :: cs =>
    if s.mode = .ended ∧ c = '#' then value? s []
    else (s.next get c).bind fun s => value? s cs

def key? (cs : List Char) : Option (List Char × List Char) :=
  let inKey (c : Char) : Bool := c.isAlphanum || c == '_' || c == '.'
  match cs with
  | c :: _ => if c.isAlpha || c == '_' then some (cs.takeWhile inKey, cs.dropWhile inKey) else none
  | [] => none

def assignment? (cs : List Char) : Option (List Char × List Char) := do
  let (key, rest) ← key? cs
  match Text.trimLeft rest with
  | '=' :: rest => some (key, rest)
  | rest =>
    if key = "export".toList then do
      let (key, rest) ← key? rest
      match Text.trimLeft rest with
      | '=' :: rest => some (key, rest)
      | _ => none
    else none

def readLine? (cs : List Char) : Option (Option (List Char × List Char)) :=
  match Text.trim cs with
  | [] => some none
  | '#' :: _ => some none
  | cs => do
    let (key, rest) ← assignment? cs
    match Text.trimLeft rest with
    | [] => some (some (key, []))
    | '#' :: _ => some (some (key, []))
    | rest => (value? get ⟨.text, false, [], []⟩ rest).map fun v => some (key, v)

def resolve (env seen : Environment) (name : List Char) : List Char :=
  ((env.lookup name).or (seen.lookup name)).getD []

def load (env : Environment) : Environment → List (Option (List Char)) → Environment
  | _, [] => env
  | _, none :: _ => env
  | seen, some l :: ls =>
    match readLine? (resolve env seen) l with
    | none => env
    | some none => load env seen ls
    | some (some (k, v)) =>
      load (if (env.lookup k).isSome then env else env ++ [(k, v)]) ((k, v) :: seen) ls

end EnvFile

def EnvFile.words : List Char → List (List Char)
  | [] => []
  | c :: cs =>
    if c.isAlphanum || c == '_' || c == '.' then
      match cs, words cs with
      | [], _ => [[c]]
      | d :: _, w :: ws => if d.isAlphanum || d == '_' || d == '.' then (c :: w) :: ws else [c] :: w :: ws
      | _ :: _, [] => [[c]]
    else words cs

def EnvFile.unmark : List Char → List Char
  | '\ufeff' :: cs => cs
  | cs => cs

def Environment.withFile (env : Environment) (file : String) : Environment :=
  EnvFile.load env [] (EnvFile.join [] .complete (EnvFile.lines (EnvFile.unmark file.toList)))

def Environment.ofStrings (vs : List (String × String)) : Environment :=
  vs.map fun v => (v.1.toList, v.2.toList)

def Environment.get? (env : Environment) (name : String) : Option String :=
  (env.lookup name.toList).map String.ofList

end TransferAudit.Program
