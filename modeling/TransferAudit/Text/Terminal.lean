/-! Text for a terminal, as it reads without the control sequences in it. -/

namespace TransferAudit.Text.Terminal

/-- What a terminal is in the middle of: nothing, an escape with or without characters between it and
its last one, a control sequence, a string that only an escape ends, or one that a bell ends as well. -/
inductive Mode
  | plain
  | escape
  | intermediate
  | control
  | string
  | command
  deriving DecidableEq

def isLayout (c : Char) : Bool := c == '\t' || c == '\n' || c == '\x0c' || c == '\r'

def execute (m : Mode) (c : Char) : Mode × List Char :=
  if isLayout c then (.plain, [c]) else (m, [])

def afterEscape (c : Char) : Mode :=
  if c = '[' then .control
  else if c = ']' then .command
  else if c = 'P' ∨ c = 'X' ∨ c = '^' ∨ c = '_' then .string
  else if c.toNat < 0x30 then .intermediate
  else .plain

def stepAscii (m : Mode) (c : Char) : Mode × List Char :=
  if c = '\x1b' then (.escape, [])
  else if c = '\x18' ∨ c = '\x1a' then (.plain, [])
  else match m with
    | .string => (.string, [])
    | .command => (if c = '\x07' then .plain else .command, [])
    | m =>
      if c.toNat < 0x20 then execute m c
      else if c = '\x7f' then (m, [])
      else match m with
        | .escape => (afterEscape c, [])
        | .intermediate => (if c.toNat < 0x30 then .intermediate else .plain, [])
        | .control => (if c.toNat < 0x40 then .control else .plain, [])
        | _ => (.plain, [c])

/-- Inside a sequence the first byte of a longer character is lost; the bytes after it end the sequence
and stand for no character. -/
def step (m : Mode) (c : Char) : Mode × List Char :=
  if c.toNat < 0x80 then stepAscii m c
  else (.plain, if m = .plain then [c] else List.replicate (c.utf8Size - 1) '\ufffd')

def visibleFrom : Mode → List Char → List Char
  | _, [] => []
  | m, c :: cs => (step m c).2 ++ visibleFrom (step m c).1 cs

def visible (cs : List Char) : List Char := visibleFrom .plain cs

def styled (style text : String) : String := "\x1b[" ++ style ++ "m" ++ text ++ "\x1b[0m"

end TransferAudit.Text.Terminal
