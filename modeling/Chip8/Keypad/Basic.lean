import Chip8.Keypad.HostKey

/-!
# The keypad

Sixteen keys, each held or not. Programs look at the keypad when they execute an instruction that
asks for it; nothing is queued. Numbers above fifteen name no key: pressing one does nothing and it
is never held.
-/

namespace Chip8

/-- What the machine needs of a keypad. -/
class KeySource (K : Type) where
  /-- Whether the key with a number is held. -/
  isHeld : K → UInt8 → Bool
  /-- The number of the held key, the lowest if there are several. -/
  lowestHeld? : K → Option UInt8

/-- The sixteen keys of the machine. -/
structure Keypad where
  /-- Whether each key is held. -/
  held : Vector Bool 16
deriving DecidableEq, Repr

namespace Keypad

/-- No key is held. -/
def released : Keypad := ⟨Vector.replicate 16 false⟩

/-- Whether the key with a number is held. -/
def isHeld (k : Keypad) (key : UInt8) : Bool := k.held[key.toNat]?.getD false

/-- The lowest number of a held key. -/
def lowestHeld? (k : Keypad) : Option UInt8 :=
  (k.held.toList.findIdx? id).map UInt8.ofNat

instance : KeySource Keypad where
  isHeld := isHeld
  lowestHeld? := lowestHeld?

/-- Hold a key. -/
def press (k : Keypad) (key : UInt8) : Keypad := ⟨k.held.setIfInBounds key.toNat true⟩

/-- Let go of a key. -/
def release (k : Keypad) (key : UInt8) : Keypad := ⟨k.held.setIfInBounds key.toNat false⟩

/-- Hold the key that a host key stands for, if it stands for one. -/
def pressHostKey (k : Keypad) (key : HostKey) : Keypad :=
  match key.number? with
  | some n => k.press n.toByte
  | none => k

/-- Hold what the host's keys stand for, and nothing else. -/
def ofHostKeys (keys : List HostKey) : Keypad := keys.foldl pressHostKey released

@[simp] theorem isHeld_released (key : UInt8) : released.isHeld key = false := by
  simp only [isHeld, released, Vector.getElem?_replicate]
  split <;> rfl

/-- Pressing a key holds it and changes no other. -/
theorem isHeld_press (k : Keypad) (key other : UInt8) :
    (k.press key).isHeld other = (decide (key = other ∧ key.toNat < 16) || k.isHeld other) := by
  simp only [isHeld, press, Vector.getElem?_setIfInBounds, ← UInt8.toNat_inj]
  by_cases h : key.toNat = other.toNat
  · rw [h]
    by_cases hlt : other.toNat < 16 <;> simp [hlt]
  · simp [h]

/-- Letting go of a key releases it and changes no other. -/
theorem isHeld_release (k : Keypad) (key other : UInt8) :
    (k.release key).isHeld other = (decide (key ≠ other) && k.isHeld other) := by
  simp only [isHeld, release, Vector.getElem?_setIfInBounds, ne_eq, ← UInt8.toNat_inj]
  by_cases h : key.toNat = other.toNat
  · rw [h]
    by_cases hlt : other.toNat < 16 <;> simp [hlt]
  · simp [h]

theorem isHeld_of_lt (k : Keypad) {key : UInt8} (h : key.toNat < 16) :
    k.isHeld key = k.held[key.toNat] := by
  simp [isHeld, h]

theorem isHeld_ofNat (k : Keypad) {i : Nat} (h : i < 16) :
    k.isHeld (UInt8.ofNat i) = k.held[i] := by
  have htoNat : (UInt8.ofNat i).toNat = i := by
    rw [UInt8.toNat_ofNat']
    omega
  simp [isHeld, htoNat, h]

/-- The keys that can be held are the sixteen. -/
theorem toNat_lt_of_isHeld {k : Keypad} {key : UInt8} (h : k.isHeld key = true) :
    key.toNat < 16 := by
  rcases Nat.lt_or_ge key.toNat 16 with hlt | hge
  · exact hlt
  · simp [isHeld, Nat.not_lt.2 hge] at h

/-- There is no lowest key if and only if no key is held. -/
theorem lowestHeld?_eq_none_iff (k : Keypad) :
    k.lowestHeld? = none ↔ ∀ key, k.isHeld key = false := by
  rw [lowestHeld?, Option.map_eq_none_iff, List.findIdx?_eq_none_iff]
  constructor
  · intro h key
    rw [Bool.eq_false_iff]
    intro hheld
    have hlt := toNat_lt_of_isHeld hheld
    rw [isHeld_of_lt k hlt] at hheld
    have hnot : k.held[key.toNat] = false := h _ (by simp)
    rw [hnot] at hheld
    cases hheld
  · intro h held hmem
    obtain ⟨i, hi, rfl⟩ := List.getElem_of_mem hmem
    rw [Vector.length_toList] at hi
    exact (isHeld_ofNat k hi).symm.trans (h _)

/-- The lowest key is held, and no key below it is. -/
theorem lowestHeld?_eq_some_iff (k : Keypad) (key : UInt8) :
    k.lowestHeld? = some key ↔
      k.isHeld key = true ∧ ∀ other, other < key → k.isHeld other = false := by
  rw [lowestHeld?, Option.map_eq_some_iff]
  constructor
  · rintro ⟨i, hfind, rfl⟩
    obtain ⟨hi, hheld, hbelow⟩ := List.findIdx?_eq_some_iff_getElem.1 hfind
    rw [Vector.length_toList] at hi
    refine ⟨(isHeld_ofNat k hi).trans hheld, fun other hlt => ?_⟩
    rw [UInt8.lt_iff_toNat_lt, UInt8.toNat_ofNat'] at hlt
    have hother := hbelow other.toNat (by omega)
    rw [isHeld_of_lt k (by omega)]
    simpa using hother
  · rintro ⟨hheld, hbelow⟩
    have hlt := toNat_lt_of_isHeld hheld
    refine ⟨key.toNat, List.findIdx?_eq_some_iff_getElem.2 ⟨by simpa using hlt, ?_, ?_⟩,
      UInt8.ofNat_toNat⟩
    · rw [isHeld_of_lt k hlt] at hheld
      exact hheld
    · intro i hi
      have hother := hbelow (UInt8.ofNat i) (by
        rw [UInt8.lt_iff_toNat_lt, UInt8.toNat_ofNat']
        omega)
      rw [isHeld_ofNat k (by omega)] at hother
      simpa using hother

end Keypad

end Chip8
