import Chip8.Display.Bitmap
import Chip8.Proofs.Frame
import Chip8.Proofs.Runs

/-!
# Random bytes in the order of the stream

A generator hands out the bytes of a block and computes the next block when it has run out of them.
`KeyStream.Generator.At` says at which place of its stream a generator stands: between two blocks or
inside one. Taking a byte gives the byte of that place and moves on to the next place, so after `n`
bytes comes the byte that `KeyStream.byteAt` computes from the key and `n` alone (`fst_take_drop`).

A machine takes one byte for each random instruction that it executes, and none at any other event,
a load included (`generator_after`). So the random instructions of a history read the stream from
its start on, and leave out nothing.
-/

namespace Chip8

namespace KeyStream

/-- The byte at a place, by the number of its block and its place in the block. -/
theorem byteAt_mul_add (key : Key) (number : Nat) {used : Nat} (h : used < 16) :
    byteAt key (16 * number + used) = (block key (UInt64.ofNat number))[used].toUInt8 := by
  have hnumber : (16 * number + used) / 16 = number := by omega
  have hused : (16 * number + used) % 16 = used := by omega
  simp only [byteAt, hnumber, hused]

namespace Generator

/-- The generator after some bytes were taken. -/
def drop (g : Generator) : Nat → Generator
  | 0 => g
  | n + 1 => (g.drop n).take.2

/-- The generator for a key that stands at a place of its stream. Between two blocks it keeps a
block that has been used up, or none yet; inside a block it keeps that block. -/
inductive At (key : Key) : Generator → Nat → Prop
  | between (number : Nat) (current : Block) :
    At key ⟨key, UInt64.ofNat number, current, 16⟩ (16 * number)
  | inside (number : Nat) {used : Nat} (h : used < 16) :
    At key ⟨key, UInt64.ofNat (number + 1), block key (UInt64.ofNat number), used⟩
      (16 * number + used)

variable {key : Key} {g : Generator} {place : Nat}

/-- The byte that is taken is the one at the place of the generator. -/
theorem At.fst_take (h : At key g place) : g.take.1 = byteAt key place := by
  cases h with
  | between number current => exact (byteAt_mul_add key number (by decide : 0 < 16)).symm
  | inside number hused =>
    rw [byteAt_mul_add key number hused, take, dif_pos hused]

/-- Taking a byte moves the generator on by one place. -/
theorem At.snd_take (h : At key g place) : At key g.take.2 (place + 1) := by
  cases h with
  | between number current =>
    have hnext : UInt64.ofNat number + 1 = UInt64.ofNat (number + 1) :=
      (UInt64.ofNat_add number 1).symm
    have htake : (Generator.mk key (UInt64.ofNat number) current 16).take.2 =
        ⟨key, UInt64.ofNat number + 1, block key (UInt64.ofNat number), 1⟩ := rfl
    rw [htake, hnext]
    exact .inside number (by decide)
  | @inside number used hused =>
    rw [take, dif_pos hused]
    -- the last byte of a block leaves the generator between this block and the next
    rcases Nat.lt_or_eq_of_le (Nat.succ_le_of_lt hused) with hlt | heq
    · exact .inside number hlt
    · obtain rfl : used = 15 := by omega
      exact .between (number + 1) _

/-- After so many bytes a generator stands at that place. -/
theorem at_drop (key : Key) (n : Nat) : At key ((ofKey key).drop n) n := by
  induction n with
  | zero => exact .between 0 _
  | succ n ih => exact ih.snd_take

/-- The byte taken after `n` others is the one at the place `n` of the stream. -/
theorem fst_take_drop (key : Key) (n : Nat) : ((ofKey key).drop n).take.1 = byteAt key n :=
  (at_drop key n).fst_take

theorem drop_add (g : Generator) (a b : Nat) : g.drop (a + b) = (g.drop a).drop b := by
  induction b with
  | zero => rfl
  | succ b ih => exact congrArg (fun g' => g'.take.2) ih

end Generator

end KeyStream

namespace Machine

variable {D K : Type} [Display D] [KeySource K] {m : Machine D K} {e : Event K}

/-! ## What an event takes from the stream -/

/-- An event takes a byte if it executes a random instruction, and otherwise none. -/
theorem generator_perform (m : Machine D K) (e : Event K) :
    (m.perform e).machine.generator =
      m.generator.drop ((m.executed? e).toList.countP Instruction.isRandom) := by
  cases hprogram : e.program? with
  | some program =>
    obtain ⟨memory, -, hmachine⟩ := perform_of_program? hprogram m
    rw [hmachine, executed?_of_program? (by rw [hprogram]; rfl)]
    rfl
  | none =>
    rcases executed?_cases hprogram m with ⟨word, effect, rfl, hexecuted, hexecute, hmachine⟩ |
      ⟨hexecuted, keypad, timers, pc, opcode, halted, hmachine⟩
    · rw [hmachine, (framed_execute hexecute).generator_eq, hexecuted, Option.toList_some,
        List.countP_singleton]
      cases (Instruction.decode word).isRandom <;> rfl
    · rw [hmachine, hexecuted]
      rfl

/-- A history takes as many bytes as it executes random instructions. -/
theorem generator_after (events : List (Event K)) (m : Machine D K) :
    (m.after events).generator =
      m.generator.drop ((m.executed events).countP Instruction.isRandom) := by
  induction events generalizing m with
  | nil => rfl
  | cons e events ih =>
    rw [after_cons, ih, generator_perform, executed, List.countP_append,
      KeyStream.Generator.drop_add]

/-! ## What a random instruction reads -/

/-- A random instruction succeeds on every machine, and puts the next byte of the stream, masked,
into its register. -/
theorem step_of_random {x : Nibble} {mask : UInt8}
    (hnext : m.nextInstruction? = some (.random x mask)) :
    m.step.result = .ok .executed ∧ m.executed? .step = some (.random x mask) ∧
      m.step.machine.registers.get x = m.generator.take.1 &&& mask := by
  obtain ⟨word, hruns, hfetch, hdecode⟩ := fetch_of_nextInstruction? hnext
  have hexecute : (m.afterFetch word).execute (.decode word) =
      done { m.afterFetch word with
        registers := m.registers.set x (m.generator.take.1 &&& mask)
        generator := m.generator.take.2 } := by
    rw [hdecode]
    rfl
  have hstep := step_of_execute_eq_ok hruns hfetch hexecute
  refine ⟨by rw [hstep], ?_, ?_⟩
  · rw [executed?_step hruns hfetch hstep, hdecode]
  · rw [hstep]
    show (m.registers.set x (m.generator.take.1 &&& mask)).get x = _
    rw [Registers.get_set, if_pos rfl]

/-- **Random bytes come in the order of the stream.** Take a new machine with a seed, and any
events. A random instruction that comes next succeeds, and puts into its register, masked, the byte
of the seed's stream whose place is the number of random instructions executed before it, whatever
their masks were and whatever else happened. An event that does not execute a random instruction
leaves the generator as it was. (A block number has 64 bits: behind its last block the stream starts
over, for the generator and for `byteAt`.) -/
theorem random_bytes_in_order {config : Config} {seed : UInt64} (hseed : config.seed = some seed)
    (display : D) (keypad : K) (entropy : KeyStream.Key) (events : List (Event K)) :
    let new := create config display keypad entropy
    let m := new.after events
    let n := (new.executed events).countP Instruction.isRandom
    (∀ x mask, m.nextInstruction? = some (.random x mask) →
      m.step.result = .ok .executed ∧ m.executed? .step = some (.random x mask) ∧
        m.step.machine.registers.get x = KeyStream.byteAt (.ofSeed seed) n &&& mask) ∧
    ∀ e, (∀ x mask, m.executed? e ≠ some (.random x mask)) →
      (m.perform e).machine.generator = m.generator := by
  intro new m n
  have hgenerator : m.generator = (KeyStream.Generator.ofSeed seed).drop n := by
    have hnew : new.generator = .ofSeed seed := by simp only [new, create, hseed]
    rw [← hnew]
    exact new.generator_after events
  constructor
  · intro x mask hnext
    obtain ⟨hresult, hexecuted, hregister⟩ := step_of_random hnext
    refine ⟨hresult, hexecuted, ?_⟩
    rw [hregister, hgenerator]
    exact congrArg (· &&& mask) (KeyStream.Generator.fst_take_drop _ n)
  · intro e hother
    have hcount : (m.executed? e).toList.countP Instruction.isRandom = 0 := by
      cases hexecuted : m.executed? e with
      | none => rfl
      | some i =>
        cases i
        case random x mask => exact absurd hexecuted (hother x mask)
        all_goals rfl
    rw [generator_perform, hcount]
    rfl

/-- Two random instructions, the first with the mask zero, and a second load between them. -/
theorem random_bytes_in_order_after_reload :
    ∃ m : Machine FrameBuffer Keypad, m.Reachable ∧ m.config.seed = some 8 ∧
      m.nextInstruction? = some (.random 1 0x7F) ∧
      m.step.machine.registers.get 1 = KeyStream.byteAt (.ofSeed 8) 1 &&& 0x7F ∧
      (m.perform .tick).machine.generator = m.generator := by
  let config : Config := ⟨.vy, 0, some 8⟩
  let display : FrameBuffer := Bitmap.blank 64 32
  let key : KeyStream.Key := Vector.replicate 8 0
  let events : List (Event Keypad) :=
    [.load [0xC0, 0x00], .step, .step, .load [0xC1, 0x7F], .changeKeys (·.press 3)]
  let new : Machine FrameBuffer Keypad := create config display .released key
  have hbefore : (new.after events).config.seed = some 8 ∧
      (new.after events).nextInstruction? = some (.random 1 0x7F) ∧
      (new.executed events).countP Instruction.isRandom = 1 := by decide +kernel
  obtain ⟨hseed, hnext, hcount⟩ := hbefore
  have hconfig : config.seed = some 8 := rfl
  obtain ⟨hrandom, hother⟩ := random_bytes_in_order hconfig display Keypad.released key events
  obtain ⟨-, -, hregister⟩ := hrandom 1 0x7F hnext
  rw [hcount] at hregister
  exact ⟨new.after events, ⟨_, _, _, _, _, rfl⟩, hseed, hnext, hregister, hother .tick nofun⟩

end Machine

end Chip8
