import Chip8.Machine.Step

/-!
# Histories

Everything a host can do to a machine, as data. A host loads programs, lets the machine take steps,
lets the timers tick, and changes the keypad; `Machine.perform` does one of these, and
`Machine.after` a list of them. A machine that came about in this way is `Reachable`: statements
about all programs, in all orders of events, are statements about reachable machines.
-/

namespace Chip8

/-- Something a host does to a machine. -/
inductive Event (K : Type) where
  /-- Load a program. -/
  | load (program : List UInt8)
  /-- Load the program of a file, of which the host could read some contents or none. -/
  | loadFile (path : String) (contents : Option (List UInt8))
  /-- Take a step. -/
  | step
  /-- Let the timers count down once. -/
  | tick
  /-- Change what the keypad holds. -/
  | changeKeys (change : K → K)

/-- What a host gets back. -/
inductive Answer where
  /-- The event has no result. -/
  | none
  /-- How loading went. -/
  | loaded (result : Except Fault Unit)
  /-- How a step ended. -/
  | stepped (result : Except Fault Outcome)

/-- The same reply with another result. -/
def Reply.map {D K α β : Type} (f : α → β) (r : Reply D K α) : Reply D K β :=
  ⟨r.machine, f r.result, r.messages⟩

namespace Machine

variable {D K : Type} [Display D] [KeySource K]

/-- What comes of one event. -/
def perform (m : Machine D K) : Event K → Reply D K Answer
  | .load program => (m.load program).map .loaded
  | .loadFile path contents => (m.loadFile path contents).map .loaded
  | .step => m.step.map .stepped
  | .tick => ⟨m.tick, .none, []⟩
  | .changeKeys change => ⟨m.changeKeys change, .none, []⟩

/-- The machine after some events. -/
def after (m : Machine D K) (events : List (Event K)) : Machine D K :=
  events.foldl (fun m e => (m.perform e).machine) m

/-- What comes of each of some events, one after the other. -/
def replies (m : Machine D K) : List (Event K) → List (Reply D K Answer)
  | [] => []
  | e :: es => m.perform e :: (m.perform e).machine.replies es

/-- A machine that a host can bring about, starting from a new one. -/
def Reachable (m : Machine D K) : Prop :=
  ∃ (config : Config) (display : D) (keypad : K) (entropy : KeyStream.Key)
    (events : List (Event K)),
    m = (create config display keypad entropy).after events

@[simp] theorem after_nil (m : Machine D K) : m.after [] = m := rfl

@[simp] theorem after_cons (m : Machine D K) (e : Event K) (es : List (Event K)) :
    m.after (e :: es) = (m.perform e).machine.after es := rfl

theorem after_append (m : Machine D K) (es fs : List (Event K)) :
    m.after (es ++ fs) = (m.after es).after fs :=
  List.foldl_append

/-- A new machine is reachable. -/
theorem reachable_create (config : Config) (display : D) (keypad : K) (entropy : KeyStream.Key) :
    Reachable (create config display keypad entropy) :=
  ⟨config, display, keypad, entropy, [], rfl⟩

/-- What an event makes of a reachable machine is reachable. -/
theorem Reachable.perform {m : Machine D K} (h : Reachable m) (e : Event K) :
    Reachable (m.perform e).machine := by
  obtain ⟨config, display, keypad, entropy, events, rfl⟩ := h
  exact ⟨config, display, keypad, entropy, events ++ [e],
    by rw [after_append, after_cons, after_nil]⟩

end Machine

end Chip8
