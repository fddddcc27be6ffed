import TapeLang.Code.Program
import TapeLang.Proofs.Source.Balance

/-! Source texts as trees of commands and loops.

A text with balanced brackets can be read as a tree, and in one way only. A tree has flat code at
every position. -/

set_option autoImplicit false

namespace TapeLang

inductive Command where
  | moveRight
  | moveLeft
  | increment
  | decrement
  | output
  | input
  deriving DecidableEq, Repr

namespace Command

def op : Command → Opcode
  | moveRight => .moveRight
  | moveLeft => .moveLeft
  | increment => .increment
  | decrement => .decrement
  | output => .output
  | input => .input

def symbol : Command → Char
  | moveRight => '>'
  | moveLeft => '<'
  | increment => '+'
  | decrement => '-'
  | output => '.'
  | input => ','

@[simp] theorem ofSymbol?_symbol (command : Command) :
    Opcode.ofSymbol? command.symbol = some command.op := by
  cases command <;> rfl

theorem op_ne_bracket (command : Command) :
    command.op ≠ .jumpIfZero ∧ command.op ≠ .jumpIfNonZero := by
  cases command <;> exact ⟨nofun, nofun⟩

theorem symbol_ne_bracket (command : Command) :
    command.symbol ≠ '[' ∧ command.symbol ≠ ']' := by
  cases command <;> decide

end Command

inductive Block where
  | done
  | command (command : Command) (rest : Block)
  | loop (body rest : Block)
  deriving DecidableEq, Repr

namespace Block

/-- The number of commands, both brackets of a loop counted. -/
def size : Block → Nat
  | done => 0
  | command _ rest => rest.size + 1
  | loop body rest => body.size + rest.size + 2

def ops : Block → List Opcode
  | done => []
  | command c rest => c.op :: rest.ops
  | loop body rest => .jumpIfZero :: body.ops ++ .jumpIfNonZero :: rest.ops

/-- The instructions of a block of which the first has the index `start`. -/
def code (start : Nat) : Block → List Instruction
  | done => []
  | command c rest => ⟨c.op, none⟩ :: rest.code (start + 1)
  | loop body rest =>
    ⟨.jumpIfZero, some ↑(start + body.size + 1)⟩ :: body.code (start + 1) ++
      ⟨.jumpIfNonZero, some ↑start⟩ :: rest.code (start + body.size + 2)

@[simp] theorem length_code (block : Block) (start : Nat) :
    (block.code start).length = block.size := by
  induction block generalizing start with
  | done => rfl
  | command c rest ih => simp [code, size, ih]
  | loop body rest bodyIH restIH =>
    simp only [code, size, List.cons_append, List.length_cons, List.length_append, bodyIH, restIH]
    omega

theorem map_op_code (block : Block) (start : Nat) :
    (block.code start).map (·.op) = block.ops := by
  induction block generalizing start with
  | done => rfl
  | command c rest ih => simp [code, ops, ih]
  | loop body rest bodyIH restIH => simp [code, ops, bodyIH, restIH]

/-- How a text is read as a block. Commentary may stand anywhere. -/
inductive Reads : List Char → Block → Prop where
  | nil : Reads [] .done
  | comment {c : Char} {text : List Char} {block : Block} :
      Opcode.ofSymbol? c = none → Reads text block → Reads (c :: text) block
  | command {text : List Char} {block : Block} (c : Command) :
      Reads text block → Reads (c.symbol :: text) (.command c block)
  | loop {inner text : List Char} {body rest : Block} :
      Reads inner body → Reads text rest → Reads ('[' :: inner ++ ']' :: text) (.loop body rest)

theorem Reads.ops_eq {text : List Char} {block : Block} (reads : Reads text block) :
    text.filterMap Opcode.ofSymbol? = block.ops := by
  induction reads with
  | nil => rfl
  | comment silent _ ih => rw [List.filterMap_cons_none silent, ih]
  | command c _ ih => rw [List.filterMap_cons_some c.ofSymbol?_symbol, ih]; rfl
  | loop _ _ bodyIH restIH =>
    have opening : Opcode.ofSymbol? '[' = some .jumpIfZero := rfl
    have closing : Opcode.ofSymbol? ']' = some .jumpIfNonZero := rfl
    rw [List.cons_append, List.filterMap_cons_some opening, List.filterMap_append,
      List.filterMap_cons_some closing, bodyIH, restIH]
    rfl

/-! ## Balance -/

theorem comment_ne_bracket {c : Char} (silent : Opcode.ofSymbol? c = none) : c ≠ '[' ∧ c ≠ ']' := by
  constructor <;> rintro rfl <;> cases silent

-- A character is commentary, a command or a bracket.
theorem symbol_cases (c : Char) :
    Opcode.ofSymbol? c = none ∨ (∃ command : Command, c = command.symbol) ∨ c = '[' ∨ c = ']' := by
  unfold Opcode.ofSymbol?
  split
  · exact .inr (.inl ⟨.moveRight, rfl⟩)
  · exact .inr (.inl ⟨.moveLeft, rfl⟩)
  · exact .inr (.inl ⟨.increment, rfl⟩)
  · exact .inr (.inl ⟨.decrement, rfl⟩)
  · exact .inr (.inl ⟨.output, rfl⟩)
  · exact .inr (.inl ⟨.input, rfl⟩)
  · exact .inr (.inr (.inl rfl))
  · exact .inr (.inr (.inr rfl))
  · exact .inl rfl

theorem balanced_enclose_append {α : Type} [DecidableEq α] {opener closer : α} {l r : List α}
    (distinct : opener ≠ closer) (inner : Balanced opener closer l)
    (rest : Balanced opener closer r) :
    Balanced opener closer (opener :: l ++ closer :: r) := by
  have parts : opener :: l ++ closer :: r = (opener :: l ++ [closer]) ++ r := by simp
  rw [parts]
  exact (inner.enclose distinct).append_iff.mpr rest

theorem balanced_ops (block : Block) : Balanced Opcode.jumpIfZero .jumpIfNonZero block.ops := by
  induction block with
  | done => exact .nil
  | command c rest ih =>
    exact (Balanced.singleton c.op_ne_bracket.1 c.op_ne_bracket.2).append_iff.mpr ih
  | loop body rest bodyIH restIH => exact balanced_enclose_append (by decide) bodyIH restIH

theorem exists_reads {text : List Char} (balanced : Balanced '[' ']' text) :
    ∃ block, Reads text block := by
  -- On the length: a loop is split off at a bracket anywhere, so its parts are no tails of the text.
  induction bound : text.length using Nat.strongRecOn generalizing text with
  | ind n ih =>
    cases text with
    | nil => exact ⟨.done, .nil⟩
    | cons c text =>
      simp only [List.length_cons] at bound
      rcases symbol_cases c with silent | ⟨command, rfl⟩ | rfl | rfl
      · obtain ⟨notOpener, notCloser⟩ := comment_ne_bracket silent
        have after := (Balanced.singleton notOpener notCloser).append_iff.mp balanced
        obtain ⟨block, reads⟩ := ih text.length (by omega) after rfl
        exact ⟨block, .comment silent reads⟩
      · obtain ⟨notOpener, notCloser⟩ := command.symbol_ne_bracket
        have after := (Balanced.singleton notOpener notCloser).append_iff.mp balanced
        obtain ⟨block, reads⟩ := ih text.length (by omega) after rfl
        exact ⟨.command command block, .command command reads⟩
      · obtain ⟨inner, rest, rfl, within, after⟩ := balanced.of_opener_cons (by decide)
        simp only [List.length_append, List.length_cons] at bound
        obtain ⟨body, readsBody⟩ := ih inner.length (by omega) within rfl
        obtain ⟨block, readsRest⟩ := ih rest.length (by omega) after rfl
        exact ⟨.loop body block, .loop readsBody readsRest⟩
      · exact absurd balanced (Balanced.not_closer_cons (by decide))

/-! ## Uniqueness -/

-- Blocks are told apart by their operations, even before the rest of a text that goes on with a
-- closing bracket or not at all.
theorem ops_append_inj {first second : Block} {l r : List Opcode}
    (same : first.ops ++ l = second.ops ++ r)
    (left : ∀ op, l.head? = some op → op = .jumpIfNonZero)
    (right : ∀ op, r.head? = some op → op = .jumpIfNonZero) : first = second ∧ l = r := by
  induction first generalizing second l r with
  | done =>
    cases second with
    | done => exact ⟨rfl, same⟩
    | command c rest =>
      have := left c.op (by rw [show l = _ from same]; rfl)
      exact absurd this c.op_ne_bracket.2
    | loop body rest =>
      have := left .jumpIfZero (by rw [show l = _ from same]; rfl)
      exact absurd this (by decide)
  | command c rest ih =>
    cases second with
    | done =>
      have := right c.op (by rw [show r = _ from same.symm]; rfl)
      exact absurd this c.op_ne_bracket.2
    | command d other =>
      simp only [ops, List.cons_append, List.cons.injEq] at same
      obtain ⟨rfl, rfl⟩ := ih same.2 left right
      have commands : c = d := by
        have := same.1
        revert this
        cases c <;> cases d <;> simp [Command.op]
      exact ⟨by rw [commands], rfl⟩
    | loop body other =>
      simp only [ops, List.cons_append, List.cons.injEq] at same
      exact absurd same.1 c.op_ne_bracket.1
  | loop body rest bodyIH restIH =>
    cases second with
    | done =>
      have := right .jumpIfZero (by rw [show r = _ from same.symm]; rfl)
      exact absurd this (by decide)
    | command d other =>
      simp only [ops, List.cons_append, List.cons.injEq] at same
      exact absurd same.1.symm d.op_ne_bracket.1
    | loop otherBody other =>
      simp only [ops, List.cons_append, List.append_assoc, List.cons.injEq, true_and] at same
      -- Both bodies go on with their closing brackets.
      obtain ⟨rfl, tails⟩ := bodyIH same (by simp) (by simp)
      obtain ⟨rfl, rfl⟩ := restIH (List.cons.inj tails).2 left right
      exact ⟨rfl, rfl⟩

theorem Reads.unique {text : List Char} {first second : Block} (left : Reads text first)
    (right : Reads text second) : first = second := by
  have same : first.ops ++ [] = second.ops ++ [] := by
    rw [← left.ops_eq, ← right.ops_eq]
  exact (ops_append_inj same (by simp) (by simp)).1

end Block

end TapeLang
