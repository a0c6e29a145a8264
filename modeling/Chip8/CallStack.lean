import Chip8.InPlace
import Chip8.Opcode

/-!
# The call stack

Sixteen slots for return addresses and the number of slots in use. A push and a pop work in place;
both look for their slot first, and if there is none they have changed nothing (`atomic_push`,
`atomic_pop`). `push?` and `pop?` are the same operations as functions. A pop leaves the address in
its slot; `addresses` shows the slots in use only, and `addresses_push?` and `addresses_pop?` say
what the operations do to that view, so what an unused slot holds never shows.
-/

namespace Chip8

/-- Return addresses of the calls that have not come back yet. -/
structure CallStack where
  /-- The slots; those from `depth` on are not in use. -/
  slots : Vector Address 16
  /-- The number of slots in use. -/
  depth : Nat
  depth_le : depth ≤ 16
deriving DecidableEq, Repr

namespace CallStack

/-- The number of calls that can be open at once. -/
def capacity : Nat := 16

/-- No call is open. -/
def empty : CallStack := ⟨Vector.replicate 16 0, 0, by decide⟩

/-- The addresses in use, oldest first. -/
def addresses (s : CallStack) : List Address := s.slots.toList.take s.depth

/-- The slot for the next address, if there is one. -/
def freeSlot? (s : CallStack) : Option (Fin 16) :=
  if h : s.depth < 16 then some ⟨s.depth, h⟩ else none

/-- The slot of the top address, if there is one. -/
def topSlot? (s : CallStack) : Option (Fin 16) :=
  if h : 0 < s.depth then
    have := s.depth_le
    some ⟨s.depth - 1, by omega⟩
  else none

/-- Put an address on top: find the slot, write to it, and count it. -/
def push (a : Address) : EStateM Unit CallStack Unit := do
  let ⟨slot, hslot⟩ ← (← get).freeSlot?.getDM (throw ())
  modify fun s => { s with slots := s.slots.set slot a }
  modify fun s => { s with depth := slot + 1, depth_le := hslot }

/-- Take the top address off: find the slot, count it no longer, and read it. -/
def pop : EStateM Unit CallStack Address := do
  let ⟨slot, hslot⟩ ← (← get).topSlot?.getDM (throw ())
  modify fun s => { s with depth := slot, depth_le := Nat.le_of_lt hslot }
  return (← get).slots[slot]

/-- Put an address on top, if a slot is free. -/
def push? (s : CallStack) (a : Address) : Option CallStack :=
  (InPlace.attempt (push a) s).toOption.map Prod.snd

/-- Take the top address off, if there is one. -/
def pop? (s : CallStack) : Option (Address × CallStack) := (InPlace.attempt pop s).toOption

/-! ## The operations in place -/

/-- A push finds a free slot, writes to it and counts it, or finds none and has changed nothing. -/
theorem run_push (s : CallStack) (a : Address) :
    (push a).run s =
      if h : s.depth < 16 then .ok () ⟨s.slots.set s.depth a, s.depth + 1, h⟩ else .error () s := by
  rw [push, InPlace.run_lookup_bind]
  by_cases h : s.depth < 16
  · rw [freeSlot?, dif_pos h, dif_pos h]
    rfl
  · rw [freeSlot?, dif_neg h, dif_neg h]

/-- A pop finds the slot of the top address, counts it no longer and reads it, or finds none and has
changed nothing. -/
theorem run_pop (s : CallStack) :
    pop.run s =
      if h : 0 < s.depth then
        have := s.depth_le
        .ok s.slots[s.depth - 1] ⟨s.slots, s.depth - 1, by omega⟩
      else .error () s := by
  rw [pop, InPlace.run_lookup_bind]
  by_cases h : 0 < s.depth
  · rw [topSlot?, dif_pos h, dif_pos h]
    rfl
  · rw [topSlot?, dif_neg h, dif_neg h]

/-- A push that is refused changes nothing. -/
theorem atomic_push (a : Address) : InPlace.Atomic (push a) := .lookup_bind fun _ => nofun

/-- A pop that is refused changes nothing. -/
theorem atomic_pop : InPlace.Atomic pop := .lookup_bind fun _ => nofun

/-- A push in place is a push as a function. -/
theorem run_push_eq (s : CallStack) (a : Address) :
    (push a).run s =
      match s.push? a with
      | some s' => .ok () s'
      | none => .error () s := by
  rw [(atomic_push a).run_eq, push?]
  cases InPlace.attempt (push a) s <;> rfl

/-- A pop in place is a pop as a function. -/
theorem run_pop_eq (s : CallStack) :
    pop.run s =
      match s.pop? with
      | some (a, s') => .ok a s'
      | none => .error () s := by
  rw [atomic_pop.run_eq, pop?]
  cases InPlace.attempt pop s <;> rfl

theorem push?_eq (s : CallStack) (a : Address) :
    s.push? a =
      if h : s.depth < 16 then some ⟨s.slots.set s.depth a, s.depth + 1, h⟩ else none := by
  rw [push?, InPlace.attempt, run_push]
  by_cases h : s.depth < 16
  · rw [dif_pos h, dif_pos h]
    rfl
  · rw [dif_neg h, dif_neg h]
    rfl

theorem pop?_eq (s : CallStack) :
    s.pop? =
      if h : 0 < s.depth then
        have := s.depth_le
        some (s.slots[s.depth - 1], ⟨s.slots, s.depth - 1, by omega⟩)
      else none := by
  rw [pop?, InPlace.attempt, run_pop]
  by_cases h : 0 < s.depth
  · rw [dif_pos h, dif_pos h]
    rfl
  · rw [dif_neg h, dif_neg h]
    rfl

/-! ## The addresses in use -/

@[simp] theorem addresses_empty : empty.addresses = [] := rfl

@[simp] theorem length_addresses (s : CallStack) : s.addresses.length = s.depth := by
  have := s.depth_le
  rw [addresses, List.length_take, Vector.length_toList]
  omega

/-- A push succeeds if fewer than sixteen addresses are in use, and appends its address. -/
theorem addresses_push? (s : CallStack) (a : Address) :
    (s.push? a).map addresses =
      if s.addresses.length < 16 then some (s.addresses ++ [a]) else none := by
  rw [length_addresses, push?_eq]
  split
  · rename_i h
    simp only [Option.map_some, addresses, Option.some.injEq, Vector.toList_set]
    rw [List.take_succ_eq_append_getElem (by simpa using h), List.take_set_of_le (Nat.le_refl _)]
    simp
  · rfl

/-- A pop succeeds if an address is in use; it gives the last one and takes it off. -/
theorem addresses_pop? (s : CallStack) :
    s.pop?.map (fun p => (p.1, p.2.addresses)) =
      s.addresses.getLast?.map (fun a => (a, s.addresses.dropLast)) := by
  have hle := s.depth_le
  rw [pop?_eq]
  split
  · rename_i h
    have hlen : s.depth - 1 < s.addresses.length := by
      rw [length_addresses]
      omega
    rw [List.getLast?_eq_getElem?, length_addresses, List.getElem?_eq_getElem hlen]
    have hd : s.addresses.dropLast = s.slots.toList.take (s.depth - 1) := by
      rw [List.dropLast_eq_take, length_addresses, addresses, List.take_take]
      congr 1
      omega
    simp only [Option.map_some, hd]
    simp [addresses]
  · rename_i h
    have : s.addresses = [] := List.length_eq_zero_iff.1 (by rw [length_addresses]; omega)
    simp [this]

/-- A push that succeeds found a free slot and appended its address. -/
theorem addresses_of_push? {s s' : CallStack} {a : Address} (h : s.push? a = some s') :
    s.addresses.length < 16 ∧ s'.addresses = s.addresses ++ [a] := by
  have hpush := addresses_push? s a
  rw [h, Option.map_some] at hpush
  split at hpush
  · exact ⟨‹_›, Option.some.inj hpush⟩
  · cases hpush

/-- A pop that succeeds takes the last address off. -/
theorem addresses_of_pop? {s s' : CallStack} {a : Address} (h : s.pop? = some (a, s')) :
    s.addresses = s'.addresses ++ [a] := by
  have hpop := addresses_pop? s
  rw [h, Option.map_some] at hpop
  obtain ⟨b, hlast, hb⟩ := Option.map_eq_some_iff.1 hpop.symm
  obtain ⟨rfl, hdrop⟩ := Prod.mk.inj hb
  obtain ⟨older, holder⟩ := List.getLast?_eq_some_iff.1 hlast
  rw [← hdrop, holder, List.dropLast_concat]

/-- A push fails if all sixteen slots are in use. -/
theorem push?_eq_none_iff (s : CallStack) (a : Address) :
    s.push? a = none ↔ s.addresses.length = 16 := by
  have hle := s.depth_le
  rw [length_addresses, push?_eq]
  split <;> simp <;> omega

/-- A pop fails if no slot is in use. -/
theorem pop?_eq_none_iff (s : CallStack) : s.pop? = none ↔ s.addresses = [] := by
  rw [← List.length_eq_zero_iff, length_addresses, pop?_eq]
  split <;> simp <;> omega

/-- Whether a push succeeds, and what it makes of the addresses in use, does not depend on what the
other slots hold. -/
theorem push?_congr {s t : CallStack} (h : s.addresses = t.addresses) (a : Address) :
    (s.push? a = none ∧ t.push? a = none) ∨
      ∃ s' t', s.push? a = some s' ∧ t.push? a = some t' ∧ s'.addresses = t'.addresses := by
  have hpush : (s.push? a).map addresses = (t.push? a).map addresses := by
    rw [addresses_push?, addresses_push?, h]
  cases hs : s.push? a with
  | none =>
    rw [hs, Option.map_none] at hpush
    exact .inl ⟨rfl, Option.map_eq_none_iff.1 hpush.symm⟩
  | some s' =>
    rw [hs, Option.map_some] at hpush
    obtain ⟨t', ht, haddresses⟩ := Option.map_eq_some_iff.1 hpush.symm
    exact .inr ⟨s', t', rfl, ht, haddresses.symm⟩

/-- What a pop gives, and what it makes of the addresses in use, does not depend on what the other
slots hold. -/
theorem pop?_congr {s t : CallStack} (h : s.addresses = t.addresses) :
    (s.pop? = none ∧ t.pop? = none) ∨
      ∃ a s' t', s.pop? = some (a, s') ∧ t.pop? = some (a, t') ∧ s'.addresses = t'.addresses := by
  have hpop : s.pop?.map (fun p => (p.1, p.2.addresses)) =
      t.pop?.map fun p => (p.1, p.2.addresses) := by
    rw [addresses_pop?, addresses_pop?, h]
  rcases hs : s.pop? with _ | ⟨a, s'⟩
  · rw [hs, Option.map_none] at hpop
    exact .inl ⟨rfl, Option.map_eq_none_iff.1 hpop.symm⟩
  · rw [hs, Option.map_some] at hpop
    obtain ⟨⟨b, t'⟩, ht, hboth⟩ := Option.map_eq_some_iff.1 hpop.symm
    obtain ⟨rfl, haddresses⟩ := Prod.mk.inj hboth
    exact .inr ⟨b, s', t', rfl, ht, haddresses.symm⟩

end CallStack

end Chip8
