import TapeLang.Proofs.Source.Diagnosis

/-! The jumps of a loaded program.

The brackets of a program are matched if each jump's target is the one bracket with which it
encloses balanced code. Loading matches all of them, keeps the operations of the text in order, and
says where each of them stands. -/

set_option autoImplicit false

namespace TapeLang

namespace Program

/-- Two brackets that are each other's target, with balanced code between them. -/
structure Matched (program : Program) (opening closing : Nat) : Prop where
  opens : program.code[opening]? = some ⟨.jumpIfZero, some ↑closing⟩
  closes : program.code[closing]? = some ⟨.jumpIfNonZero, some ↑opening⟩
  ordered : opening < closing
  between : Balanced Opcode.jumpIfZero .jumpIfNonZero
    ((program.code.extract (opening + 1) closing).toList.map (·.op))

/-- Every bracket is matched, and no other instruction has a target. -/
structure Linked (program : Program) : Prop where
  plain : ∀ (k : Nat) (inst : Instruction), program.code[k]? = some inst →
    inst.op ≠ .jumpIfZero → inst.op ≠ .jumpIfNonZero → inst.target = none
  opening : ∀ (k : Nat) (inst : Instruction), program.code[k]? = some inst →
    inst.op = .jumpIfZero → ∃ closing, program.Matched k closing
  closing : ∀ (k : Nat) (inst : Instruction), program.code[k]? = some inst →
    inst.op = .jumpIfNonZero → ∃ opening, program.Matched opening k

end Program

/-! ## Pieces of code -/

/-- The brackets with these indices are a pair in code of which the first instruction has the index
`start`. -/
def Paired (start : Nat) (code : List Instruction) (opening closing : Nat) : Prop :=
  ∃ before inner after,
    code = before ++ ⟨.jumpIfZero, some ↑closing⟩ :: inner ++
      ⟨.jumpIfNonZero, some ↑opening⟩ :: after ∧
    opening = start + before.length ∧ closing = opening + inner.length + 1 ∧
    Balanced Opcode.jumpIfZero .jumpIfNonZero (inner.map (·.op))

/-- What an instruction's target is in code of which the first instruction has the index `start`. -/
inductive Link (start : Nat) (code : List Instruction) (index : Nat) : Instruction → Prop where
  | plain {op : Opcode} : op ≠ .jumpIfZero → op ≠ .jumpIfNonZero → Link start code index ⟨op, none⟩
  | opening {closing : Nat} :
      Paired start code index closing → Link start code index ⟨.jumpIfZero, some ↑closing⟩
  | closing {opening : Nat} :
      Paired start code opening index → Link start code index ⟨.jumpIfNonZero, some ↑opening⟩

section
variable {start : Nat} {code more : List Instruction} {opening closing index : Nat}
  {inst : Instruction}

theorem Paired.append_left (paired : Paired start code opening closing) :
    Paired start (code ++ more) opening closing := by
  obtain ⟨before, inner, after, rfl, rest⟩ := paired
  exact ⟨before, inner, after ++ more, by simp, rest⟩

theorem Paired.append_right (paired : Paired (start + more.length) code opening closing) :
    Paired start (more ++ code) opening closing := by
  obtain ⟨before, inner, after, rfl, place, rest⟩ := paired
  refine ⟨more ++ before, inner, after, by simp, ?_, rest⟩
  rw [place, List.length_append, Nat.add_assoc]

theorem Link.append_left (link : Link start code index inst) :
    Link start (code ++ more) index inst := by
  cases link with
  | plain notOpening notClosing => exact .plain notOpening notClosing
  | opening paired => exact .opening paired.append_left
  | closing paired => exact .closing paired.append_left

theorem Link.append_right (link : Link (start + more.length) code index inst) :
    Link start (more ++ code) index inst := by
  cases link with
  | plain notOpening notClosing => exact .plain notOpening notClosing
  | opening paired => exact .opening paired.append_right
  | closing paired => exact .closing paired.append_right

def Links (start : Nat) (code : List Instruction) : Prop :=
  ∀ k inst, code[k]? = some inst → Link start code (start + k) inst

theorem Links.append (first : Links start code) (rest : Links (start + code.length) more) :
    Links start (code ++ more) := by
  intro k inst found
  by_cases inside : k < code.length
  · rw [List.getElem?_append_left inside] at found
    exact (first k inst found).append_left
  · rw [List.getElem?_append_right (by omega)] at found
    have link := rest (k - code.length) inst found
    rw [Nat.add_assoc, Nat.add_sub_cancel' (by omega)] at link
    exact link.append_right

-- Brackets around linked code are linked if they are a pair.
theorem Links.enclose (body : Links (start + 1) code)
    (balanced : Balanced Opcode.jumpIfZero .jumpIfNonZero (code.map (·.op))) :
    Links start (⟨.jumpIfZero, some ↑(start + code.length + 1)⟩ :: code ++
      [⟨.jumpIfNonZero, some ↑start⟩]) := by
  have paired : Paired start (⟨.jumpIfZero, some ↑(start + code.length + 1)⟩ :: code ++
      [⟨.jumpIfNonZero, some ↑start⟩]) start (start + code.length + 1) :=
    ⟨[], code, [], rfl, rfl, rfl, balanced⟩
  intro k inst found
  -- The opening bracket, the code between, or the closing bracket.
  by_cases head : k = 0
  · subst head
    simp only [List.cons_append, List.getElem?_cons_zero, Option.some.injEq] at found
    subst found
    exact .opening paired
  by_cases inside : k < code.length + 1
  · have within : code[k - 1]? = some inst := by
      rw [List.getElem?_append_left (by simpa using inside), List.getElem?_cons, if_neg head]
        at found
      exact found
    have link := body (k - 1) inst within
    rw [show start + 1 + (k - 1) = start + k by omega] at link
    exact (@Link.append_right start code [_] _ _ link).append_left
  · rw [List.getElem?_append_right (by simp; omega), List.getElem?_singleton] at found
    simp only [List.length_cons] at found
    have last : k = code.length + 1 := by
      by_contra other
      rw [if_neg (by omega)] at found
      cases found
    subst last
    simp only [Nat.sub_self, if_true, Option.some.injEq] at found
    subst found
    exact .closing paired

end

theorem Block.links_code (block : Block) (start : Nat) : Links start (block.code start) := by
  induction block generalizing start with
  | done => exact fun k inst found => by simp [code] at found
  | command c rest ih =>
    have head : Links start [⟨c.op, none⟩] := by
      intro k inst found
      rw [List.getElem?_singleton] at found
      split at found
      · cases found
        exact .plain c.op_ne_bracket.1 c.op_ne_bracket.2
      · cases found
    exact head.append (ih (start + 1))
  | loop body rest bodyIH restIH =>
    have balanced := balanced_ops body
    rw [← map_op_code body (start + 1)] at balanced
    have loop := (bodyIH (start + 1)).enclose balanced
    rw [length_code] at loop
    have whole := @Links.append start _ (rest.code (start + body.size + 2)) loop
      (by simpa [Nat.add_assoc] using restIH (start + body.size + 2))
    simpa [code] using whole

theorem Paired.matched {program : Program} {opening closing : Nat}
    (paired : Paired 0 program.code.toList opening closing) :
    program.Matched opening closing := by
  obtain ⟨before, inner, after, split, place, apart, balanced⟩ := paired
  rw [Nat.zero_add] at place
  refine ⟨?_, ?_, by omega, ?_⟩
  · rw [← Array.getElem?_toList, split, place]
    simp
  · rw [← Array.getElem?_toList, split, List.getElem?_append_right (by simp; omega)]
    simp [apart, place, Nat.add_assoc]
  · have cut : program.code.toList.extract (opening + 1) closing = inner := by
      rw [split, List.extract_eq_take_drop, place, apart, place]
      simp
    rw [Array.toList_extract, cut]
    exact balanced

theorem Program.linked_of_links {program : Program} (links : Links 0 program.code.toList) :
    program.Linked := by
  have found (k : Nat) (inst : Instruction) (here : program.code[k]? = some inst) :
      Link 0 program.code.toList k inst := by
    rw [← Array.getElem?_toList] at here
    simpa using links k inst here
  refine ⟨?_, ?_, ?_⟩ <;> intro k inst here
  · intro notOpening notClosing
    cases found k inst here with
    | plain _ _ => rfl
    | opening _ => exact absurd rfl notOpening
    | closing _ => exact absurd rfl notClosing
  · intro isOpening
    cases found k inst here with
    | plain notOpening _ => exact absurd isOpening notOpening
    | opening paired => exact ⟨_, paired.matched⟩
    | closing _ => cases isOpening
  · intro isClosing
    cases found k inst here with
    | plain _ notClosing => exact absurd isClosing notClosing
    | opening _ => cases isClosing
    | closing paired => exact ⟨_, paired.matched⟩

theorem linked_of_load {text filename : String} {program : Program}
    (loaded : load text filename = .ok program) : program.Linked := by
  obtain ⟨block, _, code, _, _⟩ := exists_reads_of_load loaded
  apply Program.linked_of_links
  rw [code]
  exact block.links_code 0

/-- What a loaded program is made of. -/
theorem load_structure {text filename : String} {program : Program}
    (loaded : load text filename = .ok program) :
    program.filename = filename ∧
    program.code.toList.map (·.op) = text.toList.filterMap Opcode.ofSymbol? ∧
    program.Linked ∧
    program.locations.size = program.code.size ∧
    ∀ before c after, text.toList = before ++ c :: after → (Opcode.ofSymbol? c).isSome →
      program.locations[(before.filterMap Opcode.ofSymbol?).length]? =
        some (locationAfter filename before c) := by
  obtain ⟨block, reads, code, locations, name⟩ := exists_reads_of_load loaded
  refine ⟨name, ?_, linked_of_load loaded, ?_, ?_⟩
  · rw [code, reads.ops_eq, ← block.map_op_code 0]
  · rw [code, locations, List.size_toArray, List.size_toArray, Cursor.length_commandLocations,
      reads.ops_eq, block.length_code, ← block.map_op_code 0, List.length_map, block.length_code]
  · intro before c after split command
    rw [locations, List.getElem?_toArray, split]
    exact Cursor.commandLocations_getElem? command

def echo : Program where
  code := #[⟨.input, none⟩, ⟨.jumpIfZero, some 4⟩, ⟨.output, none⟩, ⟨.input, none⟩,
    ⟨.jumpIfNonZero, some 1⟩]
  locations := #[⟨"echo", 1, 1, ","⟩, ⟨"echo", 1, 2, "["⟩, ⟨"echo", 1, 3, "."⟩,
    ⟨"echo", 2, 1, ","⟩, ⟨"echo", 2, 2, "]"⟩]
  filename := "echo"

theorem load_echo : load ",[.\n,]" "echo" = .ok echo := by rfl

theorem echo_structure :
    load ",[.\n,]" "echo" = .ok echo ∧ echo.Linked ∧
      echo.locations[3]? = some (locationAfter "echo" ",[.\n".toList ',') := by
  obtain ⟨_, _, linked, _, located⟩ := load_structure load_echo
  exact ⟨load_echo, linked, located ",[.\n".toList ',' [']'] rfl rfl⟩

end TapeLang
