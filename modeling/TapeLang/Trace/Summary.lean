/-! Summaries of a tape: its nonzero cells, as many as a limit allows. -/

set_option autoImplicit false

namespace TapeLang.Trace

def nonzeroFrom (index : Nat) : List UInt8 → List (Nat × UInt8)
  | [] => []
  | cell :: rest =>
    if cell = 0 then nonzeroFrom (index + 1) rest
    else (index, cell) :: nonzeroFrom (index + 1) rest

def nonzero (cells : List UInt8) : List (Nat × UInt8) := nonzeroFrom 0 cells

def largest (cells : List UInt8) : UInt8 := cells.foldl max 0

def defaultLimit : Int := 32

/-- How many of `n` items a limit lets through; a negative one leaves out that many at the end. -/
def shownCount (n : Nat) (limit : Int) : Nat :=
  if 0 ≤ limit then limit.toNat else (n + limit).toNat

def pairText : Nat × UInt8 → String
  | (index, cell) => s!"{index}={cell.toNat}"

def summary (cells : List UInt8) (limit : Int := defaultLimit) : String :=
  let found := nonzero cells
  if found.isEmpty then "tape: all cells zero"
  else
    let size := found.length
    let shown := (found.take (shownCount size limit)).map pairText
    let more := if (size : Int) ≤ limit then "" else s!" ... (+{size - limit} more)"
    s!"tape: {size} nonzero cell(s), max={(largest cells).toNat}: " ++ " ".intercalate shown ++ more

end TapeLang.Trace
