import Chip8.Keypad.Basic
import Mathlib.Data.Finset.Basic
import Mathlib.Data.Finset.Dedup

/-!
# The keypad as a set of keys

Seen from outside, a keypad is the set of the numbers of the keys that are held. `Keypad.Shows` ties
the sixteen flags to such a set; each operation keeps the tie (`Keypad.Shows.perform`), and so do
all sequences of operations (`Keypad.Shows.after`). The lowest key is the least number of the set
(`Keypad.Shows.lowestHeld?_eq_some_iff`). Taking over the keys of the host is a loop that presses
one key after the other; what it holds at the end is the set of their numbers
(`Keypad.isHeld_ofHostKeys`), so neither their order nor the time before counts.
-/

namespace Chip8

/-! ## Host keys -/

namespace HostKey

/-- The host key that stands for a key of the machine. -/
def ofNumber : Nibble → HostKey
  | 0x0 => x
  | 0x1 => key1
  | 0x2 => key2
  | 0x3 => key3
  | 0x4 => q
  | 0x5 => w
  | 0x6 => e
  | 0x7 => a
  | 0x8 => s
  | 0x9 => d
  | 0xA => z
  | 0xB => c
  | 0xC => key4
  | 0xD => r
  | 0xE => f
  -- the digit left is `F`
  | _ => v

/-- Each key of the machine has one host key that stands for it. -/
theorem number?_eq_some_iff (key : HostKey) (n : Nibble) :
    key.number? = some n ↔ key = ofNumber n := by
  constructor
  · intro h
    cases key <;> cases h <;> rfl
  · rintro rfl
    revert n
    decide

/-- Host keys that stand for the same key of the machine are the same. -/
theorem number?_inj {key key' : HostKey} {n : Nibble} (h : key.number? = some n)
    (h' : key'.number? = some n) : key = key' :=
  ((number?_eq_some_iff key n).1 h).trans ((number?_eq_some_iff key' n).1 h').symm

end HostKey

namespace Keypad

/-! ## Operations -/

/-- Something to do with a keypad. -/
inductive Operation where
  /-- Hold a key. -/
  | press (key : UInt8)
  /-- Let go of a key. -/
  | release (key : UInt8)
  /-- Let go of all keys. -/
  | reset
  /-- Hold what the host's keys stand for, and nothing else. -/
  | takeOver (keys : List HostKey)

/-- The keypad after an operation. -/
def perform (k : Keypad) : Operation → Keypad
  | .press key => k.press key
  | .release key => k.release key
  | .reset => released
  | .takeOver keys => ofHostKeys keys

/-- The keypad after some operations. -/
def after (k : Keypad) (operations : List Operation) : Keypad := operations.foldl perform k

/-- The numbers of the machine's keys that host keys stand for. -/
def numbers (keys : List HostKey) : Finset UInt8 :=
  (keys.filterMap fun key => key.number?.map Nibble.toByte).toFinset

/-- The numbers that are held after an operation, for those held before it. -/
def performSet (held : Finset UInt8) : Operation → Finset UInt8
  | .press key => if key.toNat < 16 then insert key held else held
  | .release key => held.erase key
  | .reset => ∅
  | .takeOver keys => numbers keys

/-- The numbers that are held after some operations. -/
def setAfter (held : Finset UInt8) (operations : List Operation) : Finset UInt8 :=
  operations.foldl performSet held

/-! ## Keys of the host -/

theorem mem_numbers_iff {keys : List HostKey} {n : UInt8} :
    n ∈ numbers keys ↔ ∃ key ∈ keys, ∃ d, key.number? = some d ∧ d.toByte = n := by
  simp only [numbers, List.mem_toFinset, List.mem_filterMap, Option.map_eq_some_iff]

/-- Pressing a host key holds the key that it stands for and changes no other. -/
theorem isHeld_pressHostKey (k : Keypad) (key : HostKey) (n : UInt8) :
    (k.pressHostKey key).isHeld n = true ↔
      (∃ d, key.number? = some d ∧ d.toByte = n) ∨ k.isHeld n = true := by
  rw [pressHostKey]
  cases hnumber : key.number? with
  | none => simp
  | some d =>
    have hlt : d.toByte.toNat < 16 := by
      rw [Nibble.toNat_toByte]
      exact d.isLt
    rw [isHeld_press, Bool.or_eq_true, decide_eq_true_eq]
    simp [hlt]

/-- Pressing host keys one after the other holds what they stand for, beside what was held. -/
theorem isHeld_foldl_pressHostKey (keys : List HostKey) (k : Keypad) (n : UInt8) :
    (keys.foldl pressHostKey k).isHeld n = true ↔ n ∈ numbers keys ∨ k.isHeld n = true := by
  induction keys generalizing k with
  | nil => simp [mem_numbers_iff]
  | cons key keys ih =>
    rw [List.foldl_cons, ih, isHeld_pressHostKey, mem_numbers_iff, mem_numbers_iff,
      List.exists_mem_cons_iff, or_assoc, or_left_comm]

/-- What the host's keys stand for is held, and nothing else. -/
theorem isHeld_ofHostKeys (keys : List HostKey) (n : UInt8) :
    (ofHostKeys keys).isHeld n = true ↔ n ∈ numbers keys := by
  rw [ofHostKeys, isHeld_foldl_pressHostKey, isHeld_released]
  simp

/-- Keypads that hold the same keys are the same. -/
theorem ext_isHeld {k k' : Keypad} (h : ∀ n, k.isHeld n = k'.isHeld n) : k = k' := by
  obtain ⟨held⟩ := k
  obtain ⟨held'⟩ := k'
  rw [mk.injEq]
  refine Vector.ext fun i hi => ?_
  have hsame := h (UInt8.ofNat i)
  rwa [isHeld_ofNat _ hi, isHeld_ofNat _ hi] at hsame

/-- Host keys that stand for the same keys of the machine make the same keypad. -/
theorem ofHostKeys_congr {keys keys' : List HostKey} (h : numbers keys = numbers keys') :
    ofHostKeys keys = ofHostKeys keys' := by
  apply ext_isHeld
  intro n
  rw [Bool.eq_iff_iff, isHeld_ofHostKeys, isHeld_ofHostKeys, h]

/-! ## The set that a keypad shows -/

/-- The keys that are held are those of a set of numbers. -/
def Shows (k : Keypad) (held : Finset UInt8) : Prop := ∀ n, k.isHeld n = true ↔ n ∈ held

namespace Shows

variable {k : Keypad} {held : Finset UInt8}

/-- At first no key is held. -/
theorem released : Keypad.released.Shows ∅ := by
  intro n
  simp

/-- An operation does to the keypad what it does to the set. -/
theorem perform (h : k.Shows held) (o : Operation) : (k.perform o).Shows (performSet held o) := by
  intro n
  cases o with
  | press key =>
    rw [Keypad.perform, performSet, isHeld_press, Bool.or_eq_true, decide_eq_true_eq, h n]
    by_cases hlt : key.toNat < 16
    · rw [if_pos hlt, Finset.mem_insert]
      simp [hlt, eq_comm]
    · rw [if_neg hlt]
      simp [hlt]
  | release key =>
    rw [Keypad.perform, performSet, isHeld_release, Bool.and_eq_true, decide_eq_true_eq, h n,
      Finset.mem_erase, ne_comm]
  | reset => exact released n
  | takeOver keys => exact isHeld_ofHostKeys keys n

/-- Operations do to the keypad what they do to the set. -/
theorem after (operations : List Operation) (h : k.Shows held) :
    (k.after operations).Shows (setAfter held operations) := by
  induction operations generalizing k held with
  | nil => exact h
  | cons o operations ih => exact ih (h.perform o)

/-- The numbers of the set are below sixteen. -/
theorem toNat_lt (h : k.Shows held) {n : UInt8} (hn : n ∈ held) : n.toNat < 16 :=
  toNat_lt_of_isHeld ((h n).2 hn)

/-- The lowest key that is held is the least number of the set. -/
theorem lowestHeld?_eq_some_iff (h : k.Shows held) (n : UInt8) :
    k.lowestHeld? = some n ↔ n ∈ held ∧ ∀ other ∈ held, n ≤ other := by
  rw [Keypad.lowestHeld?_eq_some_iff, h n]
  refine and_congr_right fun _ => forall_congr' fun other => ?_
  rw [← h other, ← UInt8.not_lt, Bool.eq_false_iff]
  tauto

/-- There is no lowest key if and only if the set is empty. -/
theorem lowestHeld?_eq_none_iff (h : k.Shows held) : k.lowestHeld? = none ↔ held = ∅ := by
  rw [Keypad.lowestHeld?_eq_none_iff, Finset.eq_empty_iff_forall_notMem]
  refine forall_congr' fun n => ?_
  rw [← h n, Bool.eq_false_iff]

end Shows

/-- **A keypad is a set of keys.** Whatever is done to a keypad on which no key is held, the numbers
of the keys that are held are those of a set: a press inserts a number below sixteen, a release
removes one, a reset empties the set, and taking over the keys of the host replaces it by their
numbers. The lowest key is the least number of the set, if it has one. What the host's keys make of
a keypad depends neither on the keypad nor on the order of the keys or on how often one comes, and
two of them that stand for a key of the machine never stand for the same one. -/
theorem refines_key_set (operations : List Operation) :
    (∀ n, (released.after operations).isHeld n = true ↔ n ∈ setAfter ∅ operations) ∧
    (∀ n ∈ setAfter ∅ operations, n.toNat < 16) ∧
    (∀ n, (released.after operations).lowestHeld? = some n ↔
      n ∈ setAfter ∅ operations ∧ ∀ other ∈ setAfter ∅ operations, n ≤ other) ∧
    ((released.after operations).lowestHeld? = none ↔ setAfter ∅ operations = ∅) ∧
    (∀ (k k' : Keypad) (keys keys' : List HostKey), (∀ key, key ∈ keys ↔ key ∈ keys') →
      k.perform (.takeOver keys) = k'.perform (.takeOver keys')) ∧
    ∀ (key key' : HostKey) (n : Nibble), key.number? = some n → key'.number? = some n →
      key = key' := by
  have hshows : (released.after operations).Shows (setAfter ∅ operations) :=
    Shows.released.after operations
  refine ⟨hshows, fun n hn => hshows.toNat_lt hn, hshows.lowestHeld?_eq_some_iff,
    hshows.lowestHeld?_eq_none_iff, fun k k' keys keys' hsame => ?_, fun key key' n => ?_⟩
  · apply ofHostKeys_congr
    ext n
    simp only [mem_numbers_iff, hsame]
  · exact HostKey.number?_inj

/-- Keys of the host, some of them twice and one that stands for nothing, after a key that they let
go of. -/
theorem refines_key_set_host_keys :
    ∃ operations : List Operation,
      operations = [.press 0x1, .takeOver [.v, .x, .space, .v, .q], .release 0x0, .press 0x10] ∧
      (released.after operations).isHeld 0x1 = false ∧
      (released.after operations).isHeld 0x10 = false ∧
      (released.after operations).lowestHeld? = some 0x4 ∧
      released.perform (.takeOver [.v, .x, .space, .v, .q]) =
        (released.after operations).perform (.takeOver [.space, .q, .x, .v]) ∧
      HostKey.ofNumber 0x4 = .q := by
  let operations : List Operation :=
    [.press 0x1, .takeOver [.v, .x, .space, .v, .q], .release 0x0, .press 0x10]
  obtain ⟨hheld, -, hlowest, -, horder, hnumber⟩ := refines_key_set operations
  have hset : setAfter ∅ operations = {0xF, 0x4} := by decide
  rw [hset] at hheld hlowest
  refine ⟨operations, rfl, ?_, ?_, (hlowest 0x4).2 (by simp),
    horder _ _ _ _ fun key => ?_, hnumber _ _ 0x4 rfl rfl⟩
  · rw [Bool.eq_false_iff, ne_eq, hheld]
    decide
  · rw [Bool.eq_false_iff, ne_eq, hheld]
    decide
  · simp only [List.mem_cons, List.not_mem_nil]
    tauto

end Keypad

end Chip8
