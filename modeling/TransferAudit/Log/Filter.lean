import TransferAudit.Log.Event
import TransferAudit.Log.Pattern
import TransferAudit.Text.Blank

/-! Filters: directives between commas, each a level, a target, or both with an equals sign between
them. The directive with the longest target that an event's target starts with decides. -/

namespace TransferAudit.Log

structure FieldPattern where
  name : List Char
  valued : Bool
  deriving DecidableEq

/-- Events up to a rank pass; rank zero passes none. -/
structure Directive where
  target : Option (List Char)
  span : Option (List Char)
  field : Option FieldPattern
  rank : Nat
  deriving DecidableEq

namespace Directive

def mentions (e : Event) (f : FieldPattern) : Bool :=
  !f.valued && (f.name == "message".toList || e.fields.any fun g => g.1.toList == f.name)

def concerns (d : Directive) (e : Event) : Bool :=
  d.span.isNone && (d.target.getD []).isPrefixOf e.target.toList && d.field.all (mentions e)

def reach (d : Directive) : Nat := (d.target.map (·.length + 1)).getD 0

def names (d : Directive) : List (List Char) := (d.field.map (·.name)).toList

/-- A longer target comes first, then a field, of two fields the one that is later in the alphabet. -/
def yields (d e : Directive) : Bool := d.reach < e.reach || (d.reach == e.reach && !(e.names < d.names))

end Directive

inductive Filter.Fault
  | directive
  | level
  | pattern (cause : Pattern.Fault)
  deriving DecidableEq

def Filter.Fault.message : Filter.Fault → String
  | .directive => "invalid filter directive"
  | .level =>
    "error parsing level filter: expected one of \"off\", \"error\", \"warn\", \"info\", \"debug\", \"trace\", or a number 0-5"
  | .pattern e => "invalid field filter: " ++ e.messages.headD ""

def Filter.Fault.causes : Filter.Fault → List String
  | .directive => []
  | .level => [Filter.Fault.level.message]
  | .pattern e => e.messages

abbrev Filter := List Directive

namespace Filter

def decimal? (cs : List Char) : Option Nat :=
  let ds := match cs with
    | '+' :: ds => ds
    | ds => ds
  if ds ≠ [] ∧ ds.all Char.isDigit then some (ds.foldl (fun n c => 10 * n + (c.toNat - 48)) 0) else none

def rank? (cs : List Char) : Option Nat :=
  match decimal? cs with
  | some n => if n ≤ 5 then some n else none
  | none =>
    match String.ofList (cs.map Char.toLower) with
    | "" => some 1
    | "error" => some 1
    | "warn" => some 2
    | "info" => some 3
    | "debug" => some 4
    | "trace" => some 5
    | "off" => some 0
    | _ => none

def isTargetStart (c : Char) : Bool :=
  c == '-' || c == ':' || c == '_' || Text.isAlphanumeric c

def fieldPattern (cs : List Char) : Except Fault FieldPattern :=
  match cs.splitOn '=' with
  | [] => .ok ⟨[], false⟩
  | [name] => .ok ⟨name, false⟩
  | name :: value :: _ =>
    match Pattern.fault? value with
    | none => .ok ⟨name, true⟩
    | some e => .error (.pattern e)

inductive Place
  | start
  | word (since : Nat)
  | span (target : Option (List Char)) (since : Nat)
  | field (target span : Option (List Char)) (since : Nat)
  | fieldEnd (d : Directive)
  | closed (d : Directive)
  | level (d : Directive) (since : Nat)

def part (text : List Char) (i j : Nat) : Except Fault (List Char) :=
  match String.fromUTF8? ⟨(((Text.utf8 text).take j).drop i).toArray⟩ with
  | some s => .ok s.toList
  | none => .error .directive

def whole (target span : Option (List Char)) (field : Option FieldPattern) : Directive :=
  ⟨target, span, field, 5⟩

def Place.next (text : List Char) (i : Nat) (c : Char) : Place → Except Fault Place
  | .start =>
    if c = '[' then .ok (.span none (i + 1))
    else if isTargetStart c then .ok (.word i)
    else .error .directive
  | .word since => do
    if c = '=' then return .level (whole (some (← part text since i)) none none) (i + 1)
    else if c = '[' then return .span (some (← part text since i)) (i + 1)
    else return .word since
  | .span target since => do
    if c = ']' then return .closed (whole target (some (← part text since i)) none)
    else if c = '\x7b' then
      let name ← part text since i
      return .field target (if name = [] then none else some name) (i + 1)
    else return .span target since
  | .field target scope since => do
    if c = '\x7d' then
      let name ← part text since i
      if name = [] then .error .directive
      else return .fieldEnd (whole target scope (some (← fieldPattern name)))
    else return .field target scope since
  | .fieldEnd d => if c = ']' then .ok (.closed d) else .error .directive
  | .closed d => if c = '=' then .ok (.level d (i + 1)) else .error .directive
  | .level d since => .ok (.level d since)

def Place.after (text : List Char) (p : Place) : Nat → List Char → Except Fault Place
  | _, [] => .ok p
  | i, c :: cs => (p.next text i c).bind fun p => p.after text (i + c.utf8Size) cs

def Place.finish (text : List Char) : Place → Except Fault Directive
  | .word since => do
    let name ← part text since (Text.utf8 text).length
    match rank? name with
    | some n => return ⟨none, none, none, n⟩
    | none => return whole (some name) none none
  | .closed d => .ok d
  | .level d since => do
    match ← part text since (Text.utf8 text).length with
    | [] => return d
    | name =>
      match rank? name with
      | some n => return { d with rank := n }
      | none => .error .level
  | _ => .error .directive

def readDirective (text : List Char) : Except Fault Directive := do
  let p ← Place.start.after text 0 (Text.trim text)
  p.finish text

def read (s : String) : Except Fault Filter :=
  ((s.toList.splitOn ',').filter (· ≠ [])).mapM readDirective

def deciding (f : Filter) (e : Event) : Option Directive :=
  (f.filter (Directive.concerns · e)).foldl (fun best d =>
    match best with
    | none => some d
    | some b => if b.yields d then some d else some b) none

def enables (f : Filter) (e : Event) : Bool :=
  match f.deciding e with
  | none => false
  | some d => e.level.rank ≤ d.rank

end Filter

end TransferAudit.Log
