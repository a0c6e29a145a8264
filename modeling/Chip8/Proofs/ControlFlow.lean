import Chip8.Display.Bitmap
import Chip8.Proofs.Execution

/-!
# Where a step goes on

`Machine.successor?` is the table of control flow. For each word it gives the address at which the
machine goes on, as a number and from the machine before the step: no row of it speaks of a program
counter that has already moved on, and no sum in it can wrap around. The machine itself decodes the
word, moves its sixteen-bit program counter on first, and then overwrites it, adds to it, or takes
it back. So the same table is written once more for instructions: decoding leads from the first to
the second (`destination?_decode`), and an instruction ends where the second says
(`destination?_of_execute`), with one lemma for the instructions that skip and one for those that go
on in place.
-/

namespace Chip8

/-! ## The table -/

/-- A number above fifteen names no key that could be held. -/
theorem Keypad.isHeld_of_le (k : Keypad) {key : UInt8} (h : 16 ≤ key.toNat) :
    k.isHeld key = false := by
  rw [Bool.eq_false_iff]
  intro hheld
  have := toNat_lt_of_isHeld hheld
  omega

namespace Machine

variable {D K : Type} [KeySource K]

/-- The address at which a machine goes on that executes a word at its program counter. A return
without an open call has none; every word of family `0` that ends in `EE` is a return. -/
def successor? (m : Machine D K) (w : Opcode) : Option Nat :=
  let vx := m.registers.get w.x
  let vy := m.registers.get w.y
  let held := KeySource.isHeld m.keypad vx
  let next := some (m.pc.toNat + 2)
  let afterNext := some (m.pc.toNat + 4)
  match w.family with
  | 0x0 => if w.kk == 0xEE then m.stack.addresses.getLast?.map UInt16.toNat else next
  | 0x1 | 0x2 => some w.nnn.val
  | 0x3 => if vx == w.kk then afterNext else next
  | 0x4 => if vx != w.kk then afterNext else next
  | 0x5 => if vx == vy then afterNext else next
  | 0x9 => if vx != vy then afterNext else next
  | 0xB => some (w.nnn.val + (m.registers.get 0).toNat)
  | 0xE =>
    if w.kk == 0x9E && held then afterNext
    else if w.kk == 0xA1 && !held then afterNext
    else next
  | 0xF =>
    if w.kk == 0x0A && (KeySource.lowestHeld? m.keypad).isNone then some m.pc.toNat else next
  | _ => next

/-! ## The table by instructions -/

/-- Whether an instruction leaves out the one after it. -/
def skips (m : Machine D K) : Instruction → Bool
  | .skipIfConstant x kk => m.registers.get x == kk
  | .skipUnlessConstant x kk => m.registers.get x != kk
  | .skipIfEqual x y => m.registers.get x == m.registers.get y
  | .skipUnlessEqual x y => m.registers.get x != m.registers.get y
  | .skipIfHeld x => KeySource.isHeld m.keypad (m.registers.get x)
  | .skipUnlessHeld x => !KeySource.isHeld m.keypad (m.registers.get x)
  | _ => false

/-- Whether an instruction waits for a key. -/
def waits (m : Machine D K) : Instruction → Bool
  | .awaitKey _ => (KeySource.lowestHeld? m.keypad).isNone
  | _ => false

/-- The address at which a machine goes on that executes an instruction at its program counter. -/
def destination? (m : Machine D K) (i : Instruction) : Option Nat :=
  match i with
  | .jump target | .call target => some target.val
  | .ret => m.stack.addresses.getLast?.map UInt16.toNat
  | .jumpOffset target => some (target.val + (m.registers.get 0).toNat)
  | i =>
    if m.skips i then some (m.pc.toNat + 4)
    else if m.waits i then some m.pc.toNat
    else some (m.pc.toNat + 2)

variable {m : Machine D K} {word : Opcode} {i : Instruction}

/-- The last rows of the table are those of the instructions that go on in place. -/
theorem destination?_of_isTransfer (hi : i.isTransfer = false) :
    m.destination? i =
      if m.skips i then some (m.pc.toNat + 4)
      else if m.waits i then some m.pc.toNat
      else some (m.pc.toNat + 2) := by
  cases i
  case jump | call | ret | jumpOffset => cases hi
  all_goals rfl

/-- In family `0` the words that end in `EE` return. -/
theorem destination?_decodeControl (m : Machine D K) (w : Opcode) :
    m.destination? (.decodeControl w) =
      if w.kk == 0xEE then m.stack.addresses.getLast?.map UInt16.toNat
      else some (m.pc.toNat + 2) := by
  unfold Instruction.decodeControl
  split
  case h_1 hkk | h_2 hkk => rw [hkk]; rfl
  case h_3 hret => rw [beq_false_of_ne hret]; rfl

/-- In family `8` all words go on in place. -/
theorem destination?_decodeArithmetic (m : Machine D K) (w : Opcode) :
    m.destination? (.decodeArithmetic w) = some (m.pc.toNat + 2) := by
  unfold Instruction.decodeArithmetic
  split <;> rfl

/-- In family `E` the words that end in `9E` and `A1` skip. -/
theorem destination?_decodeKeypad (m : Machine D K) (w : Opcode) :
    m.destination? (.decodeKeypad w) =
      if w.kk == 0x9E && KeySource.isHeld m.keypad (m.registers.get w.x) then
        some (m.pc.toNat + 4)
      else if w.kk == 0xA1 && !KeySource.isHeld m.keypad (m.registers.get w.x) then
        some (m.pc.toNat + 4)
      else some (m.pc.toNat + 2) := by
  unfold Instruction.decodeKeypad
  split
  case h_1 hkk | h_2 hkk => rw [hkk]; rfl
  case h_3 hheld hunheld => rw [beq_false_of_ne hheld, beq_false_of_ne hunheld]; rfl

/-- In family `F` the words that end in `0A` wait. -/
theorem destination?_decodeTransfer (m : Machine D K) (w : Opcode) :
    m.destination? (.decodeTransfer w) =
      if w.kk == 0x0A && (KeySource.lowestHeld? m.keypad).isNone then some m.pc.toNat
      else some (m.pc.toNat + 2) := by
  unfold Instruction.decodeTransfer
  split
  case h_10 hwait _ _ _ _ _ _ _ => rw [beq_false_of_ne hwait]; rfl
  all_goals
    rename_i hkk
    rw [hkk]
    rfl

/-- The two tables agree: the digits of a word select the row of its instruction. -/
theorem destination?_decode (m : Machine D K) (w : Opcode) :
    m.destination? (.decode w) = m.successor? w := by
  unfold Instruction.decode successor?
  generalize w.family = family
  split
  -- four families look at further digits
  case h_1 => exact m.destination?_decodeControl w
  case h_9 => exact m.destination?_decodeArithmetic w
  case h_15 => exact m.destination?_decodeKeypad w
  case h_16 =>
    have hlast : family = 0xF := by grind
    rw [hlast]
    exact m.destination?_decodeTransfer w
  all_goals rfl

/-! ## Families of instructions -/

/-- An instruction that leaves the program counter after it goes on there, if it is none of those
that do something else. -/
theorem destination?_eq_next (hfetch : m.memory.fetch? m.pc = some word) (hi : i.isTransfer = false)
    (hskips : m.skips i = false) (hwaits : m.waits i = false) :
    m.destination? i = some m.pc.next.toNat := by
  rw [destination?_of_isTransfer hi, hskips, hwaits, toNat_next_of_fetch hfetch]
  rfl

/-- An instruction that skips under a condition goes on after the next instruction if the condition
holds, and else after its own. Even at the end of memory the sum does not wrap around. -/
theorem destination?_of_skipIf (hfetch : m.memory.fetch? m.pc = some word)
    (hi : i.isTransfer = false) (hwaits : m.waits i = false) {condition : Bool}
    (hskips : m.skips i = condition) :
    m.destination? i = some ((m.afterFetch word).skipIf condition).pc.toNat := by
  have hlt := Memory.lt_of_fetch? hfetch
  have hnext : m.pc.next.toNat = m.pc.toNat + 2 := toNat_next_of_fetch hfetch
  have hskip : m.pc.next.next.toNat = m.pc.next.toNat + 2 := Address.toNat_next (by omega)
  rw [destination?_of_isTransfer hi, hwaits, hskips, skipIf_eq]
  cases condition with
  | true => simp [afterFetch, hskip, hnext]
  | false => simp [afterFetch, hnext]

/-! ## Every instruction -/

variable [Display D] {effect : Effect D K}

/-- An instruction that succeeds goes on where the table says. -/
theorem destination?_of_execute (hfetch : m.memory.fetch? m.pc = some word)
    (h : (m.afterFetch word).execute i = .ok effect) :
    m.destination? i = some effect.machine.pc.toNat := by
  cases i
  -- first the instructions that can fail or wait
  case ret =>
    obtain ⟨pc, stack, hpop, rfl⟩ := execute_ret_eq_ok h
    have htop : m.stack.addresses = stack.addresses ++ [pc] := CallStack.addresses_of_pop? hpop
    show m.stack.addresses.getLast?.map UInt16.toNat = some pc.toNat
    rw [htop, List.getLast?_concat, Option.map_some]
  case call target =>
    obtain ⟨stack, -, rfl⟩ := execute_call_eq_ok h
    exact congrArg some target.toNat_toAddress.symm
  case draw =>
    obtain ⟨sprite, -, rfl⟩ := execute_draw_eq_ok h
    exact destination?_eq_next hfetch rfl rfl rfl
  case awaitKey x =>
    obtain ⟨key, hkey, rfl⟩ | ⟨hnone, rfl⟩ := execute_awaitKey_eq_ok h
    · have hwaits : m.waits (.awaitKey x) = false := congrArg Option.isNone hkey
      exact destination?_eq_next hfetch rfl rfl hwaits
    · -- the rewind cancels the increment of the fetch
      have hwaits : m.waits (.awaitKey x) = true := congrArg Option.isNone hnone
      have hpc : (m.afterFetch word).pc.previous = m.pc := Address.previous_next m.pc
      rw [destination?_of_isTransfer rfl, hwaits, hpc]
      rfl
  case storeDecimal | storeRegisters =>
    obtain ⟨memory, -, rfl⟩ := store_eq_ok h
    exact destination?_eq_next hfetch rfl rfl rfl
  case loadRegisters =>
    obtain ⟨bytes, -, rfl⟩ := execute_loadRegisters_eq_ok h
    exact destination?_eq_next hfetch rfl rfl rfl
  -- all others always succeed, so that `h` is their effect
  all_goals cases h
  case jump target => exact congrArg some target.toNat_toAddress.symm
  case jumpOffset target => exact congrArg some (target.toNat_toAddress_add _).symm
  case skipIfConstant | skipUnlessConstant | skipIfEqual | skipUnlessEqual | skipIfHeld |
      skipUnlessHeld => exact destination?_of_skipIf hfetch rfl rfl rfl
  all_goals exact destination?_eq_next hfetch rfl rfl rfl

/-! ## Steps -/

/-- A machine that runs and stands past the last address that can be fetched halts. -/
theorem step_of_pc_gt (hruns : m.halted = false) (hpc : 0xFFE < m.pc.toNat) :
    m.step = ⟨{ m with halted := true }, .ok .halted, [.ranPastEnd m.pc]⟩ :=
  step_of_fetch_eq_none hruns ((m.memory.fetch?_eq_none_iff m.pc).2 hpc)

/-- **Where a step goes on.** A step that executes a word and does not fail goes on where the table
says, and no sum in the table wraps around. A call also puts the address after it on the call stack,
and a return takes off the address at which it goes on. If the machine goes on past the last address
that can be fetched, the next step halts it. On the keypad with sixteen keys a number above fifteen
is not held, and an instruction waits if and only if no key is. -/
theorem step_goes_to_successor {outcome : Outcome} (hruns : m.halted = false)
    (hfetch : m.memory.fetch? m.pc = some word) (hok : m.step.result = .ok outcome) :
    let m' := m.step.machine
    m.successor? word = some m'.pc.toNat ∧
    (word.family = 0x2 →
      m'.stack.addresses = m.stack.addresses ++ [m.pc + 2] ∧
        (m.pc + 2).toNat = m.pc.toNat + 2) ∧
    (word.family = 0x0 → word.kk = 0xEE →
      m.stack.addresses = m'.stack.addresses ++ [m'.pc]) ∧
    (0xFFE < m'.pc.toNat →
      m'.step = ⟨{ m' with halted := true }, .ok .halted, [.ranPastEnd m'.pc]⟩) ∧
    ∀ keypad : Keypad,
      (∀ key : UInt8, 16 ≤ key.toNat → KeySource.isHeld keypad key = false) ∧
      (KeySource.lowestHeld? keypad = none ↔ ∀ key, KeySource.isHeld keypad key = false) := by
  intro m'
  cases hexecute : (m.afterFetch word).execute (.decode word) with
  | error fault =>
    rw [step_of_execute_eq_error hruns hfetch hexecute] at hok
    cases hok
  | ok effect =>
    have hm' : m' = effect.machine :=
      congrArg Reply.machine (step_of_execute_eq_ok hruns hfetch hexecute)
    have hchange := execute_change hexecute
    have hstill : effect.machine.halted = false := hchange.halted.trans hruns
    rw [hm']
    refine ⟨?_, ?_, ?_, step_of_pc_gt hstill, fun keypad =>
      ⟨fun key hkey => keypad.isHeld_of_le hkey, keypad.lowestHeld?_eq_none_iff⟩⟩
    · rw [← destination?_decode]
      exact destination?_of_execute hfetch hexecute
    · intro hfamily
      have hcall : Instruction.decode word = .call word.nnn := by
        unfold Instruction.decode
        rw [hfamily]
        rfl
      rw [hcall] at hexecute
      obtain ⟨stack, hpush, rfl⟩ := execute_call_eq_ok hexecute
      exact ⟨(CallStack.addresses_of_push? hpush).2, toNat_next_of_fetch hfetch⟩
    · intro hfamily hkk
      have hret : Instruction.decode word = .ret := by
        unfold Instruction.decode Instruction.decodeControl
        rw [hfamily, hkk]
        rfl
      rw [hret] at hexecute
      obtain ⟨pc, stack, hpop, rfl⟩ := execute_ret_eq_ok hexecute
      exact CallStack.addresses_of_pop? hpop

/-- A skip at the last address that can be fetched, over the end of memory. -/
theorem step_goes_to_successor_past_end :
    ∃ m : Machine FrameBuffer Keypad, m.Reachable ∧ m.pc = 0xFFE ∧
      m.nextInstruction? = some (.skipIfConstant 0 0x30) ∧
      m.step.machine.pc.toNat = 0x1002 ∧ m.step.machine.step.result = .ok .halted := by
  -- the program writes the instruction to the last two bytes and jumps there
  let program : List UInt8 := [0x60, 0x30, 0x61, 0x30, 0xAF, 0xFE, 0xF1, 0x55, 0x1F, 0xFE]
  let m : Machine FrameBuffer Keypad :=
    (create ⟨.vy, 0, some 8⟩ (Bitmap.blank 64 32) .released (Vector.replicate 8 0)).after
      [.load program, .step, .step, .step, .step, .step]
  have hrun : m.halted = false ∧ m.pc = 0xFFE ∧ m.memory.fetch? m.pc = some 0x3030 ∧
      m.successor? 0x3030 = some 0x1002 := by decide +kernel
  obtain ⟨hruns, hpc, hfetch, htable⟩ := hrun
  have hreachable : m.Reachable := ⟨_, _, _, _, _, rfl⟩
  have hdecode : Instruction.decode 0x3030 = .skipIfConstant 0 0x30 := by decide
  have hnext : m.nextInstruction? = some (.skipIfConstant 0 0x30) := by
    rw [nextInstruction?_of_fetch hruns hfetch, hdecode]
  -- from here on only the facts about the machine count, not how it came about
  clear_value m
  have hok : m.step.result = .ok .executed := by
    have hexecute := congrArg (m.afterFetch 0x3030).execute hdecode
    rw [step_of_execute_eq_ok hruns hfetch hexecute]
  obtain ⟨hsuccessor, -, -, hhalts, -⟩ := step_goes_to_successor hruns hfetch hok
  rw [htable] at hsuccessor
  have hend : m.step.machine.pc.toNat = 0x1002 := (Option.some.inj hsuccessor).symm
  refine ⟨m, hreachable, hpc, hnext, hend, ?_⟩
  rw [hhalts (by omega)]

end Machine

end Chip8
