import TapeLang.Proofs.Source.Scanning

/-! Loading is a pass over the operations of a text.

Code, and the indices of the brackets that are open, are built up from the operations alone. What stands
between the commands, and the name of the text, only show in locations. -/

set_option autoImplicit false

namespace TapeLang

/-- Code that is being loaded, and the indices of its open brackets, the innermost first. -/
structure Linking where
  code : Array Instruction := #[]
  openings : List Nat := []

namespace Linking

/-- Adds an operation; a bracket that closes nothing is refused by its kind of error. -/
def push (linking : Linking) : Opcode → Except String Linking
  | .jumpIfZero =>
    .ok ⟨linking.code.push ⟨.jumpIfZero, some 0⟩, linking.code.size :: linking.openings⟩
  | .jumpIfNonZero =>
    match linking.openings with
    | [] => .error "UnmatchedClose"
    | opening :: openings => .ok
        ⟨(linking.code.setIfInBounds opening ⟨.jumpIfZero, some ↑linking.code.size⟩).push
          ⟨.jumpIfNonZero, some ↑opening⟩, openings⟩
  | op => .ok ⟨linking.code.push ⟨op, none⟩, linking.openings⟩

def finish (linking : Linking) : Except String (Array Instruction) :=
  match linking.openings with
  | [] => .ok linking.code
  | _ :: _ => .error "UnmatchedOpen"

end Linking

/-- The code of some operations, or the kind of the error that they are refused for. -/
def link (ops : List Opcode) : Except String (Array Instruction) := do
  let linking ← ops.foldlM Linking.push {}
  linking.finish

namespace Scan

/-- A scan without its place in a text. -/
def linking (scan : Scan) : Linking := ⟨scan.code, scan.openings.map (·.1)⟩

variable {filename : String} {scan : Scan}

/-- A character that means nothing is passed over, and any other is added by its operation. -/
theorem read_linking (c : Char) :
    ((scan.read filename c).mapError (·.error.kind)).map linking =
      match Opcode.ofSymbol? c with
      | none => .ok scan.linking
      | some op => scan.linking.push op := by
  unfold read
  cases Opcode.ofSymbol? c with
  | none => rfl
  | some op =>
    cases op with
    | jumpIfNonZero =>
      obtain ⟨cursor, code, locations, openings⟩ := scan
      cases openings <;> rfl
    | _ => rfl

theorem readAll_linking (text : List Char) (scan : Scan) :
    ((scan.readAll filename text).mapError (·.error.kind)).map linking =
      (text.filterMap Opcode.ofSymbol?).foldlM Linking.push scan.linking := by
  induction text generalizing scan with
  | nil => rfl
  | cons c text ih =>
    have first : ((scan.read filename c).mapError (·.error.kind)).map linking = _ := read_linking c
    rw [readAll, List.foldlM_cons, List.filterMap_cons]
    cases found : Opcode.ofSymbol? c with
    | none =>
      rw [read_comment found]
      exact ih (scan.skip c)
    | some op =>
      rw [found] at first
      dsimp only at first ⊢
      rw [List.foldlM_cons, ← first]
      cases scan.read filename c with
      | ok next => exact ih next
      | error stopped => rfl

theorem finish_linking (scan : Scan) :
    ((scan.finish filename).mapError (·.error.kind)).map Program.code = scan.linking.finish := by
  obtain ⟨cursor, code, locations, openings⟩ := scan
  cases openings <;> rfl

end Scan

/-- Loading gives the code of a text's operations, or fails as they do. -/
theorem load_eq_link (text filename : String) :
    ((load text filename).mapError ParseError.kind).map Program.code =
      link (text.toList.filterMap Opcode.ofSymbol?) := by
  have read : ((Scan.readAll filename {} text.toList).mapError (·.error.kind)).map Scan.linking =
      (text.toList.filterMap Opcode.ofSymbol?).foldlM Linking.push {} :=
    Scan.readAll_linking text.toList {}
  rw [link, ← read, load, scanText]
  cases Scan.readAll filename {} text.toList with
  | error stopped => rfl
  | ok scan =>
    refine Eq.trans ?_ (scan.finish_linking : ((scan.finish filename).mapError _).map _ = _)
    simp only [bind, Except.bind]
    cases scan.finish filename <;> rfl

end TapeLang
