/-! # Case mappings

A mapping moves runs of code points by a fixed amount and expands a few characters to several.
A run may take every code point or every second one, since capitals and small letters often alternate.
-/

namespace TableStore.Text

set_option autoImplicit false

structure CaseRun where
  first : Nat
  last : Nat
  step : Nat
  shift : Int

def CaseRun.has (run : CaseRun) (code : Nat) : Bool :=
  run.first ≤ code && code ≤ run.last && (code - run.first) % run.step == 0

structure CaseMapping where
  runs : List CaseRun
  expansions : List (Nat × List Nat)

/-- Characters of no run and no expansion stay as they are. -/
def CaseMapping.apply (mapping : CaseMapping) (c : Char) : List Char :=
  match mapping.expansions.lookup c.toNat with
  | some codes => codes.map Char.ofNat
  | none =>
    match mapping.runs.find? (·.has c.toNat) with
    | some run => [Char.ofNat (c.toNat + run.shift).toNat]
    | none => [c]

end TableStore.Text
