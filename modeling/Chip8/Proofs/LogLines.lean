import Chip8.Message

/-!
# What a line of a log tells

A log shows messages as lines of text. This module says how much of a message can be told from its
line: the level, the wording, and as much of the content as matters for the step that the message
belongs to (`Message.Sign`). Hexadecimal numbers can be read back (`Text.readHex_hex`), so the line
of a fault tells the fault of an instruction in full (`Fault.text_inj`).
-/

namespace Chip8

/-! ## Hexadecimal numbers -/

namespace Text

/-- The value of a capital hexadecimal digit. -/
def digitValue (c : Char) : Nat := if c.isDigit then c.toNat - 48 else c.toNat - 55

/-- The number that capital hexadecimal digits stand for. -/
def readHex (digits : List Char) : Nat := digits.foldl (fun n c => 16 * n + digitValue c) 0

theorem digitValue_digitChar {d : Nat} (hd : d < 16) : digitValue d.digitChar.toUpper = d := by
  revert d
  decide

theorem readHex_concat (digits : List Char) (c : Char) :
    readHex (digits ++ [c]) = 16 * readHex digits + digitValue c := by
  rw [readHex, List.foldl_append]
  rfl

/-- Zeros on the left do not change a number. -/
theorem readHex_zeros_append (k : Nat) (digits : List Char) :
    readHex (List.replicate k '0' ++ digits) = readHex digits := by
  induction k with
  | zero => rfl
  | succ k ih => exact ih

/-- The digits of a number stand for it. -/
theorem readHex_toDigits (n : Nat) : readHex ((Nat.toDigits 16 n).map Char.toUpper) = n := by
  induction n using Nat.strongRecOn with
  | ind n ih =>
    by_cases hlt : n < 16
    · rw [Nat.toDigits_of_lt_base hlt]
      exact (readHex_concat [] _).trans (by rw [digitValue_digitChar hlt]; exact Nat.zero_add n)
    · have hlast : n % 16 < 16 := Nat.mod_lt n (by decide)
      rw [Nat.toDigits_of_base_le (by decide) (Nat.not_lt.1 hlt), List.map_append,
        List.map_singleton, readHex_concat, ih (n / 16) (by omega), digitValue_digitChar hlast]
      omega

/-- A number can be read back. -/
theorem readHex_hex (width n : Nat) : readHex (hex width n).toList = n := by
  rw [hex, String.toList_ofList, List.leftpad, readHex_zeros_append, readHex_toDigits]

/-- Numbers with the same digits are the same. -/
theorem hex_inj {width n n' : Nat} (heq : hex width n = hex width n') : n = n' := by
  rw [← readHex_hex width n, heq, readHex_hex]

/-- Addresses that texts show in the same way are the same. -/
theorem hexAddress_inj {a a' : Nat} (heq : hexAddress a = hexAddress a') : a = a' :=
  hex_inj ((String.append_right_inj "0x").1 heq)

/-- A text that starts with a character still does so when another is put behind it. -/
theorem head?_append {s : String} {c : Char} (hs : s.toList.head? = some c) (t : String) :
    (s ++ t).toList.head? = some c := by
  rw [String.toList_append, List.head?_append, hs, Option.some_or]

end Text

/-! ## Faults of instructions -/

namespace Fault

/-- Whether a fault is one that an instruction may meet. -/
def isOfInstruction : Fault → Bool
  | addressOutOfRange _ | stackOverflow _ | stackUnderflow _ => true
  | unreadableProgram _ | programTooLarge .. => false

/-- The character that the wording of a fault starts with. -/
def initial : Fault → Char
  | unreadableProgram _ => 'u'
  | programTooLarge .. => 'p'
  | addressOutOfRange _ => 'm'
  | stackOverflow _ => 'c'
  | stackUnderflow _ => 'r'

theorem head?_text (f : Fault) : f.text.toList.head? = some f.initial := by
  cases f with
  | unreadableProgram | addressOutOfRange | stackOverflow | stackUnderflow =>
    exact Text.head?_append rfl _
  | programTooLarge =>
    exact Text.head?_append (Text.head?_append (Text.head?_append (Text.head?_append rfl _) _) _) _

/-- The fault of an instruction can be told from its wording. -/
theorem text_inj {f g : Fault} (hf : f.isOfInstruction = true) (hg : g.isOfInstruction = true)
    (heq : f.text = g.text) : f = g := by
  have hinitial : f.initial = g.initial := by
    rw [← Option.some_inj, ← head?_text, ← head?_text, heq]
  cases f <;> cases g
  case addressOutOfRange.addressOutOfRange =>
    exact congrArg addressOutOfRange (Text.hexAddress_inj ((String.append_right_inj _).1 heq))
  case stackOverflow.stackOverflow =>
    have hpc := Text.hexAddress_inj ((String.append_right_inj _).1 heq)
    exact congrArg stackOverflow (UInt16.toNat_inj.1 hpc)
  case stackUnderflow.stackUnderflow =>
    have hpc := Text.hexAddress_inj ((String.append_right_inj _).1 heq)
    exact congrArg stackUnderflow (UInt16.toNat_inj.1 hpc)
  -- all others are no faults of instructions, or start with different characters
  all_goals simp [isOfInstruction, initial] at hf hg hinitial

end Fault

/-! ## Lines -/

/-- The character that the name of a level starts with. -/
def Level.initial : Level → Char
  | error => 'E'
  | warn => 'W'
  | info => 'I'
  | debug => 'D'
  | trace => 'T'

theorem Level.head?_name (level : Level) : level.name.toList.head? = some level.initial := by
  cases level <;> rfl

theorem Level.initial_inj {a b : Level} (heq : a.initial = b.initial) : a = b := by
  cases a <;> cases b <;> first | rfl | simp [initial] at heq

namespace Message

/-- What a message tells of how a step ends. -/
inductive Sign where
  /-- The step fetched an instruction. -/
  | fetched
  /-- The step waits for a key. -/
  | waits
  /-- The instruction of the step failed. -/
  | failed (fault : Fault)
  /-- The step found no instruction. -/
  | ranOut

/-- What a message tells of how a step ends, if it tells something. -/
def sign? : Message → Option Sign
  | fetched .. => some .fetched
  | awaitingKey _ => some .waits
  | faulted fault => some (.failed fault)
  | ranPastEnd _ => some .ranOut
  | fontMoved .. | loaded _ | ignored _ => none

/-- A message that reports a fault reports that of an instruction. -/
def IsOfMachine (message : Message) : Prop :=
  ∀ fault, message = .faulted fault → fault.isOfInstruction = true

/-- The character that the wording of a message starts with. -/
def initial : Message → Char
  | fontMoved .. => 'f'
  | loaded _ => 'l'
  | fetched .. => '0'
  | ignored _ => 'i'
  | awaitingKey _ => 'w'
  | ranPastEnd _ => 'p'
  | faulted fault => fault.initial

theorem head?_text (message : Message) : message.text.toList.head? = some message.initial := by
  cases message with
  | ignored | awaitingKey => exact Text.head?_append rfl _
  | loaded | ranPastEnd => exact Text.head?_append (Text.head?_append rfl _) _
  | fontMoved | fetched =>
    exact Text.head?_append (Text.head?_append (Text.head?_append rfl _) _) _
  | faulted fault => exact Text.head?_append fault.head?_text _

theorem head?_render (message : Message) :
    message.render.toList.head? = some message.level.initial :=
  Text.head?_append (Text.head?_append message.level.head?_name _) _

/-- The level and the wording of a message can be told from its line. -/
theorem level_text_eq_of_render_eq {a b : Message} (heq : a.render = b.render) :
    a.level = b.level ∧ a.text = b.text := by
  have hlevel : a.level = b.level := by
    apply Level.initial_inj
    rw [← Option.some_inj, ← head?_render, ← head?_render, heq]
  rw [render, render, hlevel] at heq
  exact ⟨hlevel, (String.append_right_inj _).1 heq⟩

/-- What a message tells can be told from its line. -/
theorem sign?_eq_of_render_eq {a b : Message} (ha : a.IsOfMachine) (hb : b.IsOfMachine)
    (heq : a.render = b.render) : a.sign? = b.sign? := by
  obtain ⟨hlevel, htext⟩ := level_text_eq_of_render_eq heq
  have hinitial : a.initial = b.initial := by
    rw [← Option.some_inj, ← head?_text, ← head?_text, htext]
  cases a <;> cases b
  case faulted.faulted f g =>
    have hfault : f.text = g.text := (String.append_left_inj _).1 htext
    rw [Fault.text_inj (ha f rfl) (hb g rfl) hfault]
  -- two messages of one level that tell different things start with different characters
  case fontMoved.ranPastEnd | ranPastEnd.fontMoved | ignored.awaitingKey | awaitingKey.ignored =>
    simp [initial] at hinitial
  all_goals first | rfl | cases hlevel

/-- What messages tell can be told from their lines. -/
theorem filterMap_sign?_eq_of_map_render_eq {messages messages' : List Message}
    (h : ∀ message ∈ messages, message.IsOfMachine)
    (h' : ∀ message ∈ messages', message.IsOfMachine)
    (heq : messages.map render = messages'.map render) :
    messages.filterMap sign? = messages'.filterMap sign? := by
  induction messages generalizing messages' with
  | nil => rw [List.map_eq_nil_iff.1 heq.symm]
  | cons a messages ih =>
    cases messages' with
    | nil => cases heq
    | cons b messages' =>
      rw [List.forall_mem_cons] at h h'
      rw [List.map_cons, List.map_cons, List.cons.injEq] at heq
      rw [List.filterMap_cons, List.filterMap_cons, sign?_eq_of_render_eq h.1 h'.1 heq.1,
        ih h.2 h'.2 heq.2]

end Message

end Chip8
