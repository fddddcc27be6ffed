import TapeLang.Code.Listing
import TapeLang.Proofs.Source.Matching

/-! Programs and the texts of their symbols.

Linked programs are told apart by their operations, since brackets can be matched in one way only.
So loading forgets everything about a text but its commands, and what it makes are exactly the linked
programs: each of them is loaded back from its own symbols. -/

set_option autoImplicit false

namespace TapeLang

/-! ## The partner of a bracket -/

section
variable {α : Type} [DecidableEq α] {opener closer : α}

-- Two closers with balance before them cannot follow each other.
theorem Balanced.inner_unique (distinct : opener ≠ closer) {inner rest other more : List α}
    (first : Balanced opener closer inner) (second : Balanced opener closer other)
    (same : inner ++ closer :: rest = other ++ closer :: more) : inner = other := by
  rcases List.append_eq_append_iff.mp same with ⟨between, rfl, tails⟩ | ⟨between, rfl, tails⟩
  · cases between with
    | nil => exact (List.append_nil _).symm
    | cons c between =>
      cases (List.cons.inj tails).1
      exact absurd (first.append_iff.mp second) (Balanced.not_closer_cons distinct)
  · cases between with
    | nil => exact List.append_nil _
    | cons c between =>
      cases (List.cons.inj tails).1
      exact absurd (second.append_iff.mp first) (Balanced.not_closer_cons distinct)

theorem Balanced.inner_unique_left (distinct : opener ≠ closer) {before inner start other : List α}
    (first : Balanced opener closer inner) (second : Balanced opener closer other)
    (same : before ++ opener :: inner = start ++ opener :: other) : inner = other := by
  -- Read backwards, the opener is the closer.
  have backwards := congrArg List.reverse same
  simp only [List.reverse_append, List.reverse_cons, List.append_assoc, List.singleton_append]
    at backwards
  exact List.reverse_inj.mp
    (Balanced.inner_unique distinct.symm first.reverse second.reverse backwards)

end

namespace Program

def ops (program : Program) : List Opcode := program.code.toList.map (·.op)

/-- The symbols of a program's operations as a text. An operation without a symbol is left out. -/
def symbols (program : Program) : String := String.ofList (program.ops.filterMap Opcode.symbol?)

variable {p q : Program} {opening closing : Nat}

theorem ops_getElem? (p : Program) (k : Nat) : p.ops[k]? = p.code[k]?.map (·.op) := by
  rw [ops, List.getElem?_map, Array.getElem?_toList]

-- The operations around two brackets, and between them.
theorem Matched.ops_eq (matched : p.Matched opening closing) :
    ∃ before inner after,
      p.ops = before ++ .jumpIfZero :: inner ++ .jumpIfNonZero :: after ∧
        before.length = opening ∧ closing = opening + inner.length + 1 ∧
        Balanced Opcode.jumpIfZero .jumpIfNonZero inner := by
  have ordered := matched.ordered
  have opens : p.ops[opening]? = some .jumpIfZero := by rw [ops_getElem?, matched.opens]; rfl
  have closes : p.ops[closing]? = some .jumpIfNonZero := by rw [ops_getElem?, matched.closes]; rfl
  obtain ⟨within, last⟩ := List.getElem?_eq_some_iff.mp closes
  obtain ⟨_, first⟩ := List.getElem?_eq_some_iff.mp opens
  have between := matched.between
  rw [Array.toList_extract, List.extract_eq_take_drop, List.map_take, List.map_drop] at between
  refine ⟨p.ops.take opening, (p.ops.drop (opening + 1)).take (closing - (opening + 1)),
    p.ops.drop (closing + 1), ?_, List.length_take_of_le (by omega), ?_, between⟩
  · have after : (p.ops.drop (opening + 1)).drop (closing - (opening + 1)) =
        .jumpIfNonZero :: p.ops.drop (closing + 1) := by
      rw [List.drop_drop, Nat.add_sub_cancel' ordered, List.drop_eq_getElem_cons within, last]
    rw [List.append_assoc, List.cons_append, ← after, List.take_append_drop, ← first,
      ← List.drop_eq_getElem_cons, List.take_append_drop]
  · rw [List.length_take_of_le (by rw [List.length_drop]; omega)]
    omega

theorem Matched.congr (same : p.code = q.code) (matched : p.Matched opening closing) :
    q.Matched opening closing :=
  ⟨same ▸ matched.opens, same ▸ matched.closes, matched.ordered, same ▸ matched.between⟩

-- Locations and names do not matter.
theorem Linked.congr (same : p.code = q.code) (linked : p.Linked) : q.Linked where
  plain := same ▸ linked.plain
  opening k inst found isOpening :=
    (linked.opening k inst (same ▸ found) isOpening).imp fun _ => Matched.congr same
  closing k inst found isClosing :=
    (linked.closing k inst (same ▸ found) isClosing).imp fun _ => Matched.congr same

/-- Programs with the same operations match a bracket with the same one. -/
theorem Matched.closing_unique {other : Nat} (same : p.ops = q.ops)
    (first : p.Matched opening closing) (second : q.Matched opening other) : closing = other := by
  obtain ⟨before, inner, after, parts, length, rfl, balanced⟩ := first.ops_eq
  obtain ⟨start, within, rest, split, length', rfl, balanced'⟩ := second.ops_eq
  rw [same, split, List.append_assoc, List.append_assoc] at parts
  obtain ⟨-, tails⟩ := List.append_inj parts (length'.trans length.symm)
  rw [Balanced.inner_unique (by decide) balanced' balanced (List.cons.inj tails).2]

theorem Matched.opening_unique {other : Nat} (same : p.ops = q.ops)
    (first : p.Matched opening closing) (second : q.Matched other closing) : opening = other := by
  obtain ⟨before, inner, after, parts, length, place, balanced⟩ := first.ops_eq
  obtain ⟨start, within, rest, split, length', place', balanced'⟩ := second.ops_eq
  rw [same, split] at parts
  obtain ⟨heads, -⟩ := List.append_inj parts (by
    simp only [List.length_append, List.length_cons]
    omega)
  have lengths := congrArg List.length
    (Balanced.inner_unique_left (by decide) balanced' balanced heads)
  omega

/-- Linked programs are told apart by their operations. -/
theorem Linked.code_eq (first : p.Linked) (second : q.Linked) (same : p.ops = q.ops) :
    p.code = q.code := by
  refine Array.ext_getElem? fun k => ?_
  have operation : p.code[k]?.map (·.op) = q.code[k]?.map (·.op) := by
    rw [← ops_getElem?, ← ops_getElem?, same]
  cases left : p.code[k]? with
  | none =>
    rw [left] at operation
    exact (Option.map_eq_none_iff.mp operation.symm).symm
  | some inst =>
    rw [left] at operation
    obtain ⟨twin, right, alike⟩ := Option.map_eq_some_iff.mp operation.symm
    rw [right]
    by_cases isOpening : inst.op = .jumpIfZero
    · obtain ⟨closing, here⟩ := first.opening k inst left isOpening
      obtain ⟨other, there⟩ := second.opening k twin right (alike.trans isOpening)
      rw [← left, ← right, here.opens, there.opens, here.closing_unique same there]
    by_cases isClosing : inst.op = .jumpIfNonZero
    · obtain ⟨opening, here⟩ := first.closing k inst left isClosing
      obtain ⟨other, there⟩ := second.closing k twin right (alike.trans isClosing)
      rw [← left, ← right, here.closes, there.closes, here.opening_unique same there]
    · have plain := first.plain k inst left isOpening isClosing
      have plain' := second.plain k twin right (alike ▸ isOpening) (alike ▸ isClosing)
      obtain ⟨op, target⟩ := inst
      obtain ⟨op', target'⟩ := twin
      cases alike
      cases plain
      cases plain'
      rfl

/-- The brackets of a linked program are balanced. -/
theorem Linked.balanced (linked : p.Linked) :
    Balanced Opcode.jumpIfZero .jumpIfNonZero p.ops := by
  have instruction {before after : List Opcode} {op : Opcode}
      (split : p.ops = before ++ op :: after) :
      ∃ inst, p.code[before.length]? = some inst ∧ inst.op = op := by
    refine Option.map_eq_some_iff.mp ?_
    rw [← ops_getElem?, split]
    simp
  have noExcess : NoExcess Opcode.jumpIfZero .jumpIfNonZero p.ops := by
    by_contra excess
    -- The first closer that runs ahead has an opener that its balanced start would have to close.
    obtain ⟨start, rest, split, balanced⟩ := hasCloser_of_not_noExcess excess
    obtain ⟨inst, found, isClosing⟩ := instruction split
    obtain ⟨opening, matched⟩ := linked.closing _ inst found isClosing
    obtain ⟨before, inner, after, parts, _, place, within⟩ := matched.ops_eq
    rw [split] at parts
    obtain ⟨rfl, -⟩ := List.append_inj parts (by
      simp only [List.length_append, List.length_cons]
      omega)
    exact (hasCloser_iff (by decide)).mp (balanced.hasCloser_of_split (by decide)) within.noExcess
  refine ⟨noExcess, Nat.le_antisymm ?_ noExcess.count_le⟩
  by_contra more
  -- The last opener that stays open has a closer among what follows it, which is balanced.
  obtain ⟨start, rest, split, balanced⟩ := exists_last_open (Nat.lt_of_not_le more)
  obtain ⟨inst, found, isOpening⟩ := instruction split
  obtain ⟨closing, matched⟩ := linked.opening _ inst found isOpening
  obtain ⟨before, inner, after, parts, place, _, within⟩ := matched.ops_eq
  rw [split, List.append_assoc] at parts
  obtain ⟨-, tails⟩ := List.append_inj parts place.symm
  exact (hasCloser_iff (by decide)).mp ⟨inner, after, (List.cons.inj tails).2, within⟩
    balanced.noExcess

end Program

/-! ## Texts and their commands -/

theorem Opcode.symbol?_ofSymbol? {c : Char} {op : Opcode} (h : Opcode.ofSymbol? c = some op) :
    op.symbol? = some c := by
  unfold Opcode.ofSymbol? at h
  split at h <;> cases h <;> rfl

theorem Opcode.mem_known_of_symbol? {op : Opcode} {c : Char} (h : op.symbol? = some c) :
    op ∈ Opcode.known := by
  cases op with
  | other name => cases h
  | _ => decide

theorem Opcode.exists_symbol? {op : Opcode} (known : op ∈ Opcode.known) :
    ∃ c, op.symbol? = some c := by
  cases op with
  | other name => simp [Opcode.known] at known
  | _ => exact ⟨_, rfl⟩

def commands (text : List Char) : List Char := text.filter fun c => (Opcode.ofSymbol? c).isSome

-- A command is the symbol of its operation, so the commands can be had back from the operations.
theorem commands_eq (text : List Char) :
    commands text = (text.filterMap Opcode.ofSymbol?).filterMap Opcode.symbol? := by
  rw [commands, List.filterMap_filterMap, ← List.filterMap_eq_filter]
  refine List.filterMap_congr fun c _ => ?_
  cases found : Opcode.ofSymbol? c with
  | none => simp [found]
  | some op => simp [found, Opcode.symbol?_ofSymbol? found]

theorem commands_ops (text : List Char) :
    (commands text).filterMap Opcode.ofSymbol? = text.filterMap Opcode.ofSymbol? := by
  rw [commands, List.filterMap_filter]
  refine List.filterMap_congr fun c _ => ?_
  cases Opcode.ofSymbol? c <;> rfl

/-- Texts have the same commands if they stand for the same operations. -/
theorem commands_eq_iff {text other : List Char} : commands text = commands other ↔
    text.filterMap Opcode.ofSymbol? = other.filterMap Opcode.ofSymbol? := by
  constructor
  · intro same
    rw [← commands_ops, same, commands_ops]
  · intro same
    rw [commands_eq, same, ← commands_eq]

theorem count_ops {op : Opcode} {c : Char} (symbol : op.symbol? = some c) (text : List Char) :
    (text.filterMap Opcode.ofSymbol?).count op = text.count c := by
  rw [List.count_filterMap, List.count]
  congr 1
  funext d
  rw [Bool.eq_iff_iff, beq_iff_eq, beq_iff_eq]
  constructor
  · intro found
    exact Option.some.inj ((Opcode.symbol?_ofSymbol? found).symm.trans symbol)
  · rintro rfl
    exact Opcode.ofSymbol?_symbol? symbol

/-- A text is balanced if its operations are. -/
theorem balanced_of_ops {text : List Char}
    (balanced : Balanced Opcode.jumpIfZero .jumpIfNonZero (text.filterMap Opcode.ofSymbol?)) :
    Balanced '[' ']' text := by
  refine ⟨?_, ?_⟩
  · rintro start ⟨rest, rfl⟩
    rw [List.filterMap_append] at balanced
    have fits := balanced.noExcess.of_append.count_le
    rwa [count_ops rfl, count_ops rfl] at fits
  · rw [← count_ops (show Opcode.symbol? .jumpIfZero = some '[' from rfl), balanced.total, count_ops rfl]

namespace Program

variable {p q : Program} {text filename : String}

theorem ops_of_load (loaded : load text filename = .ok p) :
    p.ops = text.toList.filterMap Opcode.ofSymbol? := by
  obtain ⟨block, reads, code, _, _⟩ := exists_reads_of_load loaded
  rw [ops, code, reads.ops_eq, ← block.map_op_code 0]

theorem known_of_load (loaded : load text filename = .ok p) : ∀ op ∈ p.ops, op ∈ Opcode.known := by
  intro op there
  rw [ops_of_load loaded] at there
  obtain ⟨c, _, symbol⟩ := List.mem_filterMap.mp there
  exact Opcode.mem_known_of_symbol? (Opcode.symbol?_ofSymbol? symbol)

theorem symbols_ops (known : ∀ op ∈ p.ops, op ∈ Opcode.known) :
    p.symbols.toList.filterMap Opcode.ofSymbol? = p.ops := by
  rw [symbols, String.toList_ofList, List.filterMap_filterMap]
  refine (List.filterMap_congr fun op there => ?_).trans List.filterMap_some
  obtain ⟨c, symbol⟩ := Opcode.exists_symbol? (known op there)
  rw [symbol]
  exact Opcode.ofSymbol?_symbol? symbol

/-- A linked program is loaded back from its symbols. -/
theorem Linked.loads_back (linked : p.Linked) (known : ∀ op ∈ p.ops, op ∈ Opcode.known)
    (filename : String) : ∃ q, load p.symbols filename = .ok q ∧ (q == p) = true := by
  have balanced : Balanced '[' ']' p.symbols.toList :=
    balanced_of_ops ((symbols_ops known).symm ▸ linked.balanced)
  obtain ⟨q, loaded⟩ := load_ok_iff.mpr balanced
  have same : q.ops = p.ops := (ops_of_load loaded).trans (symbols_ops known)
  exact ⟨q, loaded, beq_iff.mpr ((linked_of_load loaded).code_eq linked same)⟩

end Program

/-- What loading forgets, and what it makes. Two texts have equal programs if and only if they have
the same commands, a loaded program is loaded back from its symbols, and of the programs without
unknown operations those that are loaded back are the linked ones. -/
theorem load_symbols :
    (∀ {text other filename otherName : String} {p q : Program},
      load text filename = .ok p → load other otherName = .ok q →
        ((p == q) = true ↔ commands text.toList = commands other.toList)) ∧
    (∀ {text filename : String} {p : Program}, load text filename = .ok p →
      ∀ otherName, ∃ q, load p.symbols otherName = .ok q ∧ (q == p) = true) ∧
    ∀ {p : Program}, (∀ op ∈ p.ops, op ∈ Opcode.known) → ∀ filename,
      ((∃ q, load p.symbols filename = .ok q ∧ (q == p) = true) ↔ p.Linked) := by
  refine ⟨?_, ?_, ?_⟩
  · intro text other filename otherName p q first second
    rw [Program.beq_iff, commands_eq_iff, ← Program.ops_of_load first, ← Program.ops_of_load second]
    constructor
    · intro same
      rw [Program.ops, Program.ops, same]
    · exact (linked_of_load first).code_eq (linked_of_load second)
  · intro text filename p loaded
    exact (linked_of_load loaded).loads_back (Program.known_of_load loaded)
  · intro p known filename
    constructor
    · rintro ⟨q, loaded, same⟩
      exact (linked_of_load loaded).congr (Program.beq_iff.mp same)
    · exact fun linked => linked.loads_back known filename

/-- Brackets whose targets are mutual, but cross. -/
def crossing : Program where
  code := #[⟨.jumpIfZero, some 2⟩, ⟨.jumpIfZero, some 3⟩, ⟨.jumpIfNonZero, some 0⟩,
    ⟨.jumpIfNonZero, some 1⟩]

theorem load_symbols_echo :
    (∃ p q, load ",[.\n,]" "echo" = .ok p ∧ load "read , while [ print . read , ]" "words" = .ok q ∧
      (p == q) = true) ∧
    (∃ q, load echo.symbols "again" = .ok q ∧ (q == echo) = true) ∧
    crossing.symbols = "[[]]" ∧
    ¬ crossing.Linked := by
  have words : ∃ q, load "read , while [ print . read , ]" "words" = .ok q := ⟨_, rfl⟩
  obtain ⟨q, spoken⟩ := words
  refine ⟨⟨echo, q, load_echo, spoken, ?_⟩, ?_, rfl, ?_⟩
  · exact (load_symbols.1 load_echo spoken).mpr rfl
  · exact load_symbols.2.1 load_echo "again"
  · rw [← load_symbols.2.2 (by decide) "nested"]
    rintro ⟨q, loaded, same⟩
    cases loaded
    exact absurd same (by decide)

end TapeLang
