namespace TransferAudit

structure Duration where
  nanos : Nat
  deriving DecidableEq

namespace Duration

def ofMillis (n : Nat) : Duration := ⟨1000000 * n⟩

def ofSeconds (secs nanos : Nat) : Duration := ⟨1000000000 * secs + nanos⟩

def isInRange (d : Duration) : Bool := d.nanos / 1000000000 < UInt64.size

def fraction (unit rest : Nat) : List Char :=
  if rest = 0 then []
  else
    let width := (Nat.toDigits 10 unit).length - 1
    let digits := Nat.toDigits 10 rest
    let padded := List.replicate (width - digits.length) '0' ++ digits
    '.' :: (padded.reverse.dropWhile (· == '0')).reverse

def inUnit (n unit : Nat) (name : String) : String :=
  (n / unit).repr ++ String.ofList (fraction unit (n % unit)) ++ name

def text (d : Duration) : String :=
  if 1000000000 ≤ d.nanos then inUnit d.nanos 1000000000 "s"
  else if 1000000 ≤ d.nanos then inUnit d.nanos 1000000 "ms"
  else if 1000 ≤ d.nanos then inUnit d.nanos 1000 "µs"
  else d.nanos.repr ++ "ns"

end Duration

end TransferAudit
