import Chip8.Instruction.Encode
import Chip8.Machine.History
import Chip8.Main
import Chip8.Proofs.InPlace
import Chip8.Proofs.Execution
import Chip8.Proofs.Runs
import Chip8.Proofs.Bounds
import Chip8.Proofs.Guarded
import Chip8.Proofs.Failure
import Chip8.Proofs.Drawing
import Chip8.Proofs.Calls
import Chip8.Proofs.Frame
import Chip8.Proofs.Halting
import Chip8.Proofs.DisplayIndependence
import Chip8.Proofs.Loading
import Chip8.Proofs.Ticks
import Chip8.Proofs.RandomBytes
import Chip8.Proofs.MemoryHistory
import Chip8.Proofs.Environment
import Chip8.Proofs.Interleaving
import Chip8.Proofs.Waiting
import Chip8.Proofs.DrawOrder
import Chip8.Proofs.DrawInstruction
import Chip8.Proofs.ControlFlow
import Chip8.Proofs.Arithmetic
import Chip8.Proofs.SavedRegisters
import Chip8.Proofs.MemoryCells
import Chip8.Proofs.BoundedStack
import Chip8.Proofs.KeySet
import Chip8.Proofs.BitmapViews
import Chip8.Proofs.Log
import Chip8.Proofs.Decoding
import Chip8.Proofs.StraightLine
import Chip8.Proofs.FontGlyphs
import Chip8.Proofs.RangeCheck
