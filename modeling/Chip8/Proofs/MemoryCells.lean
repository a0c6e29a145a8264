import Chip8.Proofs.Frame
import Chip8.Proofs.Runs

/-!
# Memory as cells

Memory is changed by requests, to load a program or to write bytes; a request whose bytes do not end
inside memory is refused before a byte has changed (`Memory.Request.atomic_inPlace`). What the cell
at an address holds depends on the last request alone that fits and covers it (`Memory.byte_after`).
Reading a range gives its cells, and fetching an instruction, which checks the address in another
way, gives the two cells that reading them gives (`Memory.read_after`). A machine knows no other way
to change its memory (`Machine.Reachable.exists_requests`).
-/

namespace Chip8

namespace Memory

/-! ## Requests -/

/-- A request to change memory. -/
inductive Request where
  /-- Put a program at the start of programs. -/
  | load (program : List UInt8)
  /-- Put bytes at an address and at those behind it. -/
  | write (address : Nat) (data : List UInt8)

namespace Request

/-- The first address that a request covers. -/
def start : Request → Nat
  | load _ => programStart.toNat
  | write address _ => address

/-- The bytes of a request. -/
def data : Request → List UInt8
  | load program => program
  | write _ data => data

/-- What a request does to memory in place. -/
def inPlace : Request → EStateM Fault Memory Unit
  | load program => loadInPlace program
  | write address data => writeInPlace address data

/-- What a request makes of a memory, if it is not refused. -/
def grant (m : Memory) : Request → Except Fault Memory
  | load program => m.load program
  | write address data => m.write address data

/-- A request that is refused changes nothing. -/
theorem atomic_inPlace (r : Request) : InPlace.Atomic r.inPlace := by
  cases r with
  | load program => exact atomic_loadInPlace program
  | write address data => exact atomic_writeInPlace address data

/-- A request in place is what it makes of a memory, or its fault and nothing done. -/
theorem run_inPlace (r : Request) (m : Memory) :
    r.inPlace.run m =
      match r.grant m with
      | .ok m' => .ok () m'
      | .error fault => .error fault m := by
  have hgrant : r.grant m = (InPlace.attempt r.inPlace m).map Prod.snd := by cases r <;> rfl
  rw [r.atomic_inPlace.run_eq, hgrant]
  cases InPlace.attempt r.inPlace m <;> rfl

/-- The bytes of a request end inside memory. -/
def Fits (r : Request) : Prop := r.start + r.data.length ≤ 4096

instance (r : Request) : Decidable r.Fits := inferInstanceAs (Decidable (_ ≤ _))

/-- The byte that a request has for an address, if it fits and covers it. -/
def byteAt? (r : Request) (a : Nat) : Option UInt8 :=
  if r.Fits ∧ r.start ≤ a then r.data[a - r.start]? else none

/-- A program fits if it is not too large. -/
theorem fits_load {program : List UInt8} :
    (load program).Fits ↔ program.length ≤ maxProgramSize := by
  show programStart.toNat + program.length ≤ 4096 ↔ _
  have hmax := maxProgramSize_add
  have hsize : size = 4096 := rfl
  omega

/-- A request that fits is granted, and gives each address that it covers its byte. -/
theorem exists_grant {r : Request} (hfits : r.Fits) (m : Memory) :
    ∃ m', r.grant m = .ok m' ∧ ∀ a, m'.byte a = (r.byteAt? a).getD (m.byte a) := by
  -- both kinds of request overlay the bytes of memory
  have hoverlay (a : Nat) :
      ({ m with bytes := overlay m.bytes r.start r.data } : Memory).byte a =
        (r.byteAt? a).getD (m.byte a) := by
    rw [byte_overlay m hfits, byteAt?]
    by_cases hle : r.start ≤ a
    · rw [if_pos ⟨hfits, hle⟩]
      by_cases hlt : a < r.start + r.data.length
      · rw [dif_pos ⟨hle, hlt⟩, List.getElem?_eq_getElem (by omega), Option.getD_some]
      · rw [dif_neg fun h => hlt h.2, List.getElem?_eq_none (by omega), Option.getD_none]
    · rw [dif_neg fun h => hle h.1, if_neg fun h => hle h.2, Option.getD_none]
  cases r with
  | load program => exact ⟨_, m.load_of_le (fits_load.1 hfits), hoverlay⟩
  | write address data => exact ⟨_, m.write_of_le hfits, hoverlay⟩

/-- A request that does not fit is refused. -/
theorem exists_refusal {r : Request} (hfits : ¬ r.Fits) (m : Memory) :
    ∃ fault, r.grant m = .error fault := by
  cases r with
  | load program => exact ⟨_, m.load_of_lt (Nat.not_le.1 fun hsize => hfits (fits_load.2 hsize))⟩
  | write address data =>
    exact ⟨_, (m.write_eq_error_iff address data _).2 ⟨Nat.not_le.1 hfits, rfl⟩⟩

/-- A request is granted if and only if it fits, whatever memory holds. -/
theorem exists_grant_iff (r : Request) (m : Memory) : (∃ m', r.grant m = .ok m') ↔ r.Fits := by
  constructor
  · rintro ⟨m', hgrant⟩
    by_cases hfits : r.Fits
    · exact hfits
    · obtain ⟨fault, hrefusal⟩ := r.exists_refusal hfits m
      rw [hrefusal] at hgrant
      cases hgrant
  · intro hfits
    obtain ⟨m', hgrant, -⟩ := r.exists_grant hfits m
    exact ⟨m', hgrant⟩

end Request

/-! ## Sequences of requests -/

/-- What a request leaves, granted or refused. -/
def perform (m : Memory) (r : Request) : Memory :=
  match r.inPlace.run m with
  | .ok _ m' => m'
  | .error _ m' => m'

/-- What is there after some requests. -/
def after (m : Memory) (requests : List Request) : Memory := requests.foldl perform m

@[simp] theorem after_nil (m : Memory) : m.after [] = m := rfl

@[simp] theorem after_cons (m : Memory) (r : Request) (rs : List Request) :
    m.after (r :: rs) = (m.perform r).after rs := rfl

theorem after_append (m : Memory) (rs rs' : List Request) :
    m.after (rs ++ rs') = (m.after rs).after rs' :=
  List.foldl_append

theorem perform_of_ok {m m' : Memory} {r : Request} (h : r.grant m = .ok m') :
    m.perform r = m' := by
  rw [perform, r.run_inPlace, h]

/-- A request that is refused leaves memory as it was. -/
theorem perform_of_error {m : Memory} {r : Request} {fault : Fault}
    (h : r.grant m = .error fault) : m.perform r = m := by
  rw [perform, r.run_inPlace, h]

/-- A request puts its bytes where it covers memory, if it fits, and leaves the rest. -/
theorem byte_perform (m : Memory) (r : Request) (a : Nat) :
    (m.perform r).byte a = (r.byteAt? a).getD (m.byte a) := by
  by_cases hfits : r.Fits
  · obtain ⟨m', hgrant, hbyte⟩ := r.exists_grant hfits m
    rw [perform_of_ok hgrant, hbyte]
  · obtain ⟨fault, hrefusal⟩ := r.exists_refusal hfits m
    rw [perform_of_error hrefusal, Request.byteAt?, if_neg fun h => hfits h.1, Option.getD_none]

/-- After some requests an address holds the byte of the last of them that fits and covers it. -/
theorem byte_after (requests : List Request) (m : Memory) (a : Nat) :
    (m.after requests).byte a =
      (requests.reverse.findSome? (·.byteAt? a)).getD (m.byte a) := by
  induction requests generalizing m with
  | nil => rfl
  | cons r rs ih =>
    rw [after_cons, ih, byte_perform, List.reverse_cons, List.findSome?_append, Option.getD_or,
      List.findSome?_singleton]

/-! ## Cells -/

/-- The byte of the font at an address, for the place that is requested for it: the font is put
there, or as high as it can be. -/
def fontByteAt? (requested : Address) (a : Nat) : Option UInt8 :=
  let base := min requested.toNat 0x1B0
  if base ≤ a then Font.bytes[a - base]? else none

/-- The cell at an address after some requests to a new memory. It holds the byte of the last
request that fits and covers the address, else that of the font, else zero. -/
def cell (requested : Address) (requests : List Request) (a : Nat) : UInt8 :=
  (requests.reverse.findSome? (·.byteAt? a)).getD ((fontByteAt? requested a).getD 0)

/-- A new memory holds the font, and zeros. -/
theorem byte_create_eq (requested : Address) (a : Nat) :
    (create requested).byte a = (fontByteAt? requested a).getD 0 := by
  rw [byte_create, fontByteAt?, ← toNat_fontBaseFor]
  split
  · rename_i hcovered
    rw [if_pos hcovered.1, List.getElem?_eq_getElem (by omega), Option.getD_some]
  · rename_i hcovered
    split
    · rename_i hle
      rw [List.getElem?_eq_none (by omega), Option.getD_none]
    · rfl

/-- The bytes of a memory are its cells. -/
theorem byte_after_create (requested : Address) (requests : List Request) (a : Nat) :
    ((create requested).after requests).byte a = cell requested requests a := by
  rw [byte_after, byte_create_eq, cell]

/-- Two bytes can be read where an instruction can be fetched, and they make up the instruction. -/
theorem fetch?_eq_some_iff_read (m : Memory) (a : Address) (word : Opcode) :
    m.fetch? a = some word ↔
      ∃ high low, m.read a.toNat 2 = .ok [high, low] ∧
        word.toNat = 256 * high.toNat + low.toNat := by
  rcases Nat.lt_or_ge (a.toNat + 1) 4096 with hlt | hge
  · have hread : m.read a.toNat 2 = .ok [m.byte a.toNat, m.byte (a.toNat + 1)] :=
      m.read_of_le hlt
    rw [fetch?_of_lt m hlt, hread]
    constructor
    · rintro ⟨⟩
      exact ⟨_, _, rfl, Opcode.toNat_ofBytes _ _⟩
    · rintro ⟨high, low, hbytes, hword⟩
      cases hbytes
      rw [Option.some.injEq, ← UInt16.toNat_inj, hword, Opcode.toNat_ofBytes]
  · rw [fetch?_of_le m hge, m.read_of_lt (by omega)]
    constructor
    · exact nofun
    · rintro ⟨high, low, hbytes, -⟩
      cases hbytes

/-- No instruction can be fetched where two bytes cannot be read. -/
theorem fetch?_eq_none_iff_read (m : Memory) (a : Address) :
    m.fetch? a = none ↔ ∃ fault, m.read a.toNat 2 = .error fault := by
  rw [fetch?_eq_none_iff]
  constructor
  · intro hlt
    exact ⟨_, m.read_of_lt (by omega)⟩
  · rintro ⟨fault, hread⟩
    have := ((m.read_eq_error_iff _ _ _).1 hread).1
    omega

/-- **Memory is an array of cells.** Take a new memory, with the font wherever it is requested,
after any requests, granted or refused. A range of addresses is read if and only if it ends inside
memory, and then it gives its cells. The next request is granted if and only if it fits, and a
refused one leaves memory as it is. At every address an instruction is fetched if and only if two
bytes are read there, the more significant first, and none is fetched if and only if reading them
fails. -/
theorem read_after (requested : Address) (requests : List Request) :
    let m := (create requested).after requests
    (∀ address length bytes, m.read address length = .ok bytes ↔
      address + length ≤ 4096 ∧
        bytes = (List.range length).map fun i => cell requested requests (address + i)) ∧
    (∀ r : Request, ((∃ m', r.grant m = .ok m') ↔ r.start + r.data.length ≤ 4096) ∧
      ∀ fault, r.grant m = .error fault → (create requested).after (requests ++ [r]) = m) ∧
    (∀ a word, m.fetch? a = some word ↔
      ∃ high low, m.read a.toNat 2 = .ok [high, low] ∧
        word.toNat = 256 * high.toNat + low.toNat) ∧
    ∀ a, m.fetch? a = none ↔ ∃ fault, m.read a.toNat 2 = .error fault := by
  intro m
  refine ⟨fun address length bytes => ?_, fun r => ⟨r.exists_grant_iff m, fun fault hrefusal => ?_⟩,
    m.fetch?_eq_some_iff_read, m.fetch?_eq_none_iff_read⟩
  · rcases Nat.lt_or_ge 4096 (address + length) with hlt | hle
    · rw [m.read_of_lt hlt]
      constructor
      · exact nofun
      · intro h
        omega
    · have hcells : ∀ a, m.byte a = cell requested requests a :=
        byte_after_create requested requests
      rw [m.read_of_le hle, Except.ok.injEq]
      simp only [hcells]
      exact ⟨fun h => ⟨hle, h.symm⟩, fun h => h.2.symm⟩
  · rw [after_append, after_cons, after_nil]
    exact perform_of_error hrefusal

/-- A write over the end of the font and the start of a program, and one past the end of memory. -/
theorem read_after_overlapping_writes :
    ∃ m : Memory,
      m = (create 0xFFFF).after [.load [1, 2, 3], .write 0x1FE [7, 8, 9, 10]] ∧
      m.read 0x1FD 6 = .ok [0xF0, 7, 8, 9, 10, 3] ∧
      m.fetch? 0x1FF = some 0x0809 ∧
      m.fetch? 0xFFF = none ∧
      (create 0xFFFF).after
        [.load [1, 2, 3], .write 0x1FE [7, 8, 9, 10], .write 0xFFF [11, 12]] = m := by
  obtain ⟨hread, hrequest, hfetch, hnone⟩ :=
    read_after 0xFFFF [.load [1, 2, 3], .write 0x1FE [7, 8, 9, 10]]
  refine ⟨_, rfl, (hread _ _ _).2 (by decide +kernel), (hfetch _ _).2 ⟨8, 9, ?_, rfl⟩,
    (hnone _).2 ⟨_, read_of_lt _ (by decide)⟩, ?_⟩
  · exact (hread _ _ _).2 (by decide +kernel)
  · obtain ⟨fault, hrefusal⟩ := Request.exists_refusal (r := .write 0xFFF [11, 12]) (by decide) _
    exact (hrequest _).2 fault hrefusal

end Memory

/-! ## The memory of a machine -/

namespace Machine

variable {D K : Type} [Display D] [KeySource K] {m : Machine D K}

omit [KeySource K] in
/-- An instruction writes to memory at the index register, or not at all. -/
theorem Change.memory {i : Instruction} {effect : Effect D K} (h : Change m i effect) :
    effect.machine.memory = m.memory ∨
      ∃ bytes, m.memory.write m.index.toNat bytes = .ok effect.machine.memory := by
  cases h with
  | skipped hi condition =>
    rw [skipIf_eq]
    exact .inl rfl
  | stored hi hwrite => exact .inr ⟨_, hwrite⟩
  | returned | called | jumped | jumpedOffset | waited | computed => exact .inl rfl

/-- The memory of a machine, whatever the host does, has come about by requests to a new memory. -/
theorem Reachable.exists_requests (h : m.Reachable) :
    ∃ requests, m.memory = (Memory.create m.config.fontBase).after requests := by
  refine h.induction (P := fun m => ∃ requests,
    m.memory = (Memory.create m.config.fontBase).after requests) ?_ ?_
  · intro config display keypad entropy
    exact ⟨[], rfl⟩
  · rintro m e ⟨requests, hmemory⟩
    cases hprogram : e.program? with
    | some program =>
      obtain ⟨memory, hload, hmachine⟩ := perform_of_program? hprogram m
      rw [hmachine]
      exact ⟨[.load program], (Memory.perform_of_ok (r := .load program) hload).symm⟩
    | none =>
      rcases executed?_cases hprogram m with ⟨word, effect, -, -, hexecute, hmachine⟩ |
        ⟨-, keypad, timers, pc, opcode, halted, hmachine⟩
      · rw [hmachine, (framed_execute hexecute).config_eq]
        rcases (execute_change hexecute).memory with hsame | ⟨bytes, hwrite⟩
        · exact ⟨requests, hsame.trans hmemory⟩
        · refine ⟨requests ++ [.write m.index.toNat bytes], ?_⟩
          rw [Memory.after_append, Memory.after_cons, Memory.after_nil]
          show _ = ((Memory.create m.config.fontBase).after requests).perform _
          rw [← hmemory]
          exact (Memory.perform_of_ok (r := .write m.index.toNat bytes) hwrite).symm
      · rw [hmachine]
        exact ⟨requests, hmemory⟩

end Machine

end Chip8
