import Chip8.Display.Bitmap
import Chip8.Proofs.Frame

/-!
# Saving registers and getting them back

One instruction writes the registers up to some number to memory, from the index register on, and
another reads them back. Both use one order, register `z` at the address `z` behind the index
register (`byte_write_upTo`, `get_loaded`). So what is stored is loaded again, by a machine that may
differ in everything but the index register and these bytes, and also if fewer registers are loaded
than were stored. The other way round, storing what has just been loaded changes nothing in memory.
-/

namespace Chip8.Machine

variable {D K : Type}

/-- The machine with the registers up to `VX` filled from memory. -/
def loaded (m : Machine D K) (x : Nibble) : Machine D K :=
  { m with
    registers := m.registers.fill
      ((List.range (x.val + 1)).map fun i => m.memory.byte (m.index.toNat + i)) }

/-- Loading gives each register up to `VX` the byte at its place, and leaves the others. -/
theorem get_loaded (m : Machine D K) (x z : Nibble) :
    (m.loaded x).registers.get z =
      if z ≤ x then m.memory.byte (m.index.toNat + z.val) else m.registers.get z := by
  simp only [loaded, Registers.get_fill, List.length_map, List.length_range, List.getElem_map,
    List.getElem_range, dite_eq_ite, Nat.lt_add_one_iff, Fin.le_def]

/-- The bytes that a store has written are loaded into the registers that they come from. -/
theorem get_loaded_of_write {m later : Machine D K} {x x' z : Nibble} {memory : Memory}
    (hwrite : m.memory.write m.index.toNat (m.registers.upTo x) = .ok memory)
    (hindex : later.index = m.index)
    (hbytes : ∀ a, m.index.toNat ≤ a → a ≤ m.index.toNat + x.val →
      later.memory.byte a = memory.byte a)
    (hx : x' ≤ x) (hz : z ≤ x') :
    (later.loaded x').registers.get z = m.registers.get z := by
  have hzx : z ≤ x := Fin.le_trans hz hx
  have hplace : m.index.toNat + z.val ≤ m.index.toNat + x.val :=
    Nat.add_le_add_left hzx _
  calc (later.loaded x').registers.get z
      = later.memory.byte (later.index.toNat + z.val) := by rw [get_loaded, if_pos hz]
    _ = memory.byte (m.index.toNat + z.val) := by
      rw [hindex, hbytes _ (Nat.le_add_right _ _) hplace]
    _ = m.registers.get z := byte_write_upTo hwrite hzx

variable [Display D] [KeySource K] {m : Machine D K} {x : Nibble}

/-- Registers whose places end inside memory are stored. -/
theorem exists_executes_storeRegisters (hrange : m.index.toNat + x.val + 1 ≤ 4096) :
    ∃ memory, m.memory.write m.index.toNat (m.registers.upTo x) = .ok memory ∧
      m.Executes (.storeRegisters x) { m with memory } := by
  have hend : m.index.toNat + (m.registers.upTo x).length ≤ 4096 := by
    rw [Registers.length_upTo]
    omega
  have hwrite := m.memory.write_of_le hend
  exact ⟨_, hwrite, .of_afterFetch (store_of_write hwrite) fun _ => store_of_write hwrite⟩

/-- Registers whose places end inside memory are loaded. -/
theorem executes_loadRegisters (hrange : m.index.toNat + x.val + 1 ≤ 4096) :
    m.Executes (.loadRegisters x) (m.loaded x) := by
  have hread (m' : Machine D K) (hindex : m'.index = m.index) (hmemory : m'.memory = m.memory) :
      m'.execute (.loadRegisters x) = done (m'.loaded x) := by
    have hend : m'.index.toNat + (x.val + 1) ≤ 4096 := by
      rw [hindex]
      omega
    rw [execute, m'.memory.read_of_le hend]
    rfl
  exact .of_afterFetch (hread m rfl rfl) fun word => hread (m.afterFetch word) rfl rfl

/-! ## There and back -/

/-- A store of registers that hold what has been loaded changes nothing. -/
theorem executes_storeRegisters_of_loaded {m later : Machine D K} {x x' : Nibble}
    (hrange : m.index.toNat + x.val + 1 ≤ 4096) (hx : x' ≤ x)
    (hindex : later.index = m.index) (hmemory : later.memory = m.memory)
    (hregisters : ∀ z ≤ x', later.registers.get z = (m.loaded x).registers.get z) :
    later.Executes (.storeRegisters x') later := by
  have hend : later.index.toNat + x'.val + 1 ≤ 4096 := by
    rw [hindex]
    have : x'.val ≤ x.val := hx
    omega
  obtain ⟨memory, hwrite, hexecutes⟩ := exists_executes_storeRegisters hend
  have hsame : memory = later.memory := by
    refine Memory.eq_of_write hwrite fun i hi => ?_
    have hlength := later.registers.length_upTo x'
    have hlt : i < x'.val + 1 := by omega
    let z : Nibble := ⟨i, by omega⟩
    have hz : z ≤ x' := Nat.le_of_lt_succ hlt
    calc (later.registers.upTo x')[i]
        = later.registers.get z := later.registers.getElem_upTo x' z hi
      _ = (m.loaded x).registers.get z := hregisters z hz
      _ = m.memory.byte (m.index.toNat + i) := by rw [get_loaded, if_pos (Fin.le_trans hz hx)]
      _ = later.memory.byte (later.index.toNat + i) := by rw [hindex, hmemory]
  rwa [hsame] at hexecutes

/-- **Saved registers come back.** Let the places of the registers up to `VX` end inside memory.
Storing them changes these places and nothing else. A machine with the same index register and the
same bytes at these places, whatever else has happened to it, loads the registers up to some
`VX'` not beyond `VX` as they were stored, and keeps all else. Loading changes registers alone. A
machine that has the same index register and memory as one that has just loaded, and what was loaded
in the registers up to `VX'`, is not changed by storing these. -/
theorem saved_registers_return (m : Machine D K) {x x' : Nibble} (hx : x' ≤ x)
    (hrange : m.index.toNat + x.val + 1 ≤ 4096) :
    (∃ stored : Machine D K,
      m.Executes (.storeRegisters x) stored ∧
      stored = { m with memory := stored.memory } ∧
      (∀ a, ¬ (m.index.toNat ≤ a ∧ a ≤ m.index.toNat + x.val) →
        stored.memory.byte a = m.memory.byte a) ∧
      ∀ later : Machine D K, later.index = m.index →
        (∀ a, m.index.toNat ≤ a → a ≤ m.index.toNat + x.val →
          later.memory.byte a = stored.memory.byte a) →
        ∃ restored : Machine D K,
          later.Executes (.loadRegisters x') restored ∧
          restored = { later with registers := restored.registers } ∧
          ∀ z, restored.registers.get z =
            if z ≤ x' then m.registers.get z else later.registers.get z) ∧
    ∃ loaded : Machine D K,
      m.Executes (.loadRegisters x) loaded ∧
      loaded = { m with registers := loaded.registers } ∧
      ∀ later : Machine D K, later.index = m.index → later.memory = m.memory →
        (∀ z ≤ x', later.registers.get z = loaded.registers.get z) →
        later.Executes (.storeRegisters x') later := by
  have hx' : x'.val ≤ x.val := hx
  constructor
  · obtain ⟨memory, hwrite, hexecutes⟩ := exists_executes_storeRegisters hrange
    refine ⟨_, hexecutes, rfl, fun a ha => ?_, fun later hindex hbytes => ?_⟩
    · refine (framed_execute hexecutes.execute_eq).byte_eq a fun hcovered => ha ?_
      exact ⟨hcovered.1, Nat.lt_add_one_iff.1 hcovered.2⟩
    · have hend : later.index.toNat + x'.val + 1 ≤ 4096 := by
        rw [hindex]
        omega
      refine ⟨_, executes_loadRegisters hend, rfl, fun z => ?_⟩
      split
      · rename_i hz
        exact get_loaded_of_write hwrite hindex hbytes hx hz
      · rename_i hz
        rw [get_loaded, if_neg hz]
  · exact ⟨_, executes_loadRegisters hrange, rfl, fun later hindex hmemory hregisters =>
      executes_storeRegisters_of_loaded hrange hx hindex hmemory hregisters⟩

/-- Four registers are stored in the last bytes of memory; two of them are overwritten, and come
back. -/
theorem saved_registers_return_at_end :
    ∃ m later : Machine FrameBuffer Keypad, m.Reachable ∧
      m.nextInstruction? = some (.storeRegisters 3) ∧ m.index = 0xFFC ∧
      later.nextInstruction? = some (.loadRegisters 1) ∧ later.registers.get 0 = 9 ∧
      m.step.machine.memory.byte 0x200 = m.memory.byte 0x200 ∧
      later.step.machine.registers.get 0 = m.registers.get 0 ∧
      later.step.machine.registers.get 2 = later.registers.get 2 := by
  let m : Machine FrameBuffer Keypad :=
    (create ⟨.vy, 0, some 8⟩ (Bitmap.blank 64 32) .released (Vector.replicate 8 0)).after
      [.load [0x60, 0x11, 0x61, 0x22, 0xAF, 0xFC, 0xF3, 0x55, 0x60, 0x09, 0x62, 0x08, 0xF1, 0x65],
        .step, .step, .step]
  let later : Machine FrameBuffer Keypad := m.after [.step, .step, .step]
  have hrun : m.nextInstruction? = some (.storeRegisters 3) ∧ m.index = 0xFFC ∧
      later.nextInstruction? = some (.loadRegisters 1) ∧ later.registers.get 0 = 9 ∧
      later.index = m.index ∧
      ∀ i < 4, later.memory.byte (0xFFC + i) = m.step.machine.memory.byte (0xFFC + i) := by
    decide +kernel
  obtain ⟨hstore, hindex, hload, hchanged, hkept, hbytes⟩ := hrun
  have hreachable : m.Reachable := ⟨_, _, _, _, _, rfl⟩
  -- from here on only the facts about the machines count, not how they came about
  clear_value later m
  have hplace : m.index.toNat = 0xFFC := by rw [hindex]; rfl
  have hrange : m.index.toNat + (3 : Nibble).val + 1 ≤ 4096 := by
    rw [hplace]
    decide
  obtain ⟨⟨stored, hexecutes, -, houtside, hreturn⟩, -⟩ :=
    m.saved_registers_return (by decide : (1 : Nibble) ≤ 3) hrange
  obtain ⟨word, hstep⟩ := hexecutes.step_eq hstore
  have hstored : m.step.machine.memory = stored.memory := by rw [hstep]; rfl
  obtain ⟨restored, hexecutes', -, hget⟩ := hreturn later hkept fun a hle hge => by
    have hthree : (3 : Nibble).val = 3 := rfl
    have hbyte := hbytes (a - 0xFFC) (by omega)
    rwa [Nat.add_sub_cancel' (by omega), hstored] at hbyte
  obtain ⟨word', hstep'⟩ := hexecutes'.step_eq hload
  have hrestored : later.step.machine.registers = restored.registers := by rw [hstep']; rfl
  refine ⟨m, later, hreachable, hstore, hindex, hload, hchanged, ?_, ?_, ?_⟩
  · rw [hstored]
    exact houtside _ fun hcovered => by omega
  · rw [hrestored]
    exact hget 0
  · rw [hrestored]
    exact hget 2

end Chip8.Machine
