import SlopOS.Base.Trace

/-!
# Keyboard input, from scancodes to the client

`consumeKeyboard` turns scancode bytes into input events and keeps one flag for each modifier.
The flags are compared with the keys that are physically down, which `Held` reads off the
same bytes.  The desktop passes each event on to the client with the keyboard focus, and the
service marks the keys it has delivered as pressed.
-/

namespace SlopOS.Input

inductive Key
  | character (value : Char)
  | left | right | up | down | pageUp | pageDown | home | «end» | enter | backspace | tab | escape
  deriving DecidableEq

inductive ModifierKey
  | shift | control | alt | logo
  deriving DecidableEq

structure KeyModifiers where
  shift : Bool
  control : Bool
  alt : Bool
  logo : Bool
  deriving DecidableEq

/-- The events of the keyboard; those of the mouse are not modelled. -/
inductive InputEvent
  | modifier (key : ModifierKey) (evdevCode : Nat) (pressed : Bool) (modifiers : KeyModifiers)
  | key (key : Key) (evdevCode : Nat) (pressed : Bool) (modifiers : KeyModifiers)
  deriving DecidableEq

def InputEvent.modifiers : InputEvent → KeyModifiers
  | modifier _ _ _ modifiers | key _ _ _ modifiers => modifiers

/-- The part of the controller that keyboard bytes read and write. -/
structure Ps2 extends KeyModifiers where
  extended : Bool
  deriving DecidableEq

def Ps2.new : Ps2 := ⟨⟨false, false, false, false⟩, false⟩

/-- The rows of the layout: the scancode a row starts at, its characters, and those under shift. -/
def layout : List (Nat × String × String) :=
  [(0x02, "1234567890-=", "!@#$%^&*()_+"), (0x10, "qwertyuiop[]", "QWERTYUIOP\x7b\x7d"),
    (0x1e, "asdfghjkl;'", "ASDFGHJKL:\""), (0x2b, "\\zxcvbnm,./", "|ZXCVBNM<>?"), (0x39, " ", " ")]

def scancodeCharacter (code : Nat) (shift : Bool) : Option Char :=
  layout.findSome? fun (first, plain, shifted) =>
    if first ≤ code then (if shift then shifted else plain).toList[code - first]? else none

/-- The key of a code that is no modifier's, with its evdev code. -/
def decodeKey (extended : Bool) (code : Nat) (shift : Bool) : Option (Key × Nat) :=
  match extended, code with
  | true, 0x48 => some (.up, 103)
  | true, 0x50 => some (.down, 108)
  | true, 0x4b => some (.left, 105)
  | true, 0x4d => some (.right, 106)
  | true, 0x49 => some (.pageUp, 104)
  | true, 0x51 => some (.pageDown, 109)
  | true, 0x47 => some (.home, 102)
  | true, 0x4f => some (.end, 107)
  | true, 0x1c => some (.enter, 96)
  | true, _ => none
  | false, 0x01 => some (.escape, 1)
  | false, 0x0e => some (.backspace, 14)
  | false, 0x0f => some (.tab, 15)
  | false, 0x1c => some (.enter, 28)
  | false, code => (scancodeCharacter code shift).map fun value => (.character value, code)

def consumeKeyboard (ps2 : Ps2) (byte : BitVec 8) : Option InputEvent × Ps2 :=
  if byte = 0xe0 then (none, { ps2 with extended := true })
  else
    let extended := ps2.extended
    let pressed := !byte.msb
    let code := byte.toNat % 0x80
    let report (key : ModifierKey) (evdevCode : Nat) (flags : KeyModifiers) :=
      (some (.modifier key evdevCode pressed flags), ⟨flags, false⟩)
    if extended = false ∧ (code = 0x2a ∨ code = 0x36) then
      report .shift code { ps2.toKeyModifiers with shift := pressed }
    else if code = 0x1d then
      report .control (if extended then 97 else 29) { ps2.toKeyModifiers with control := pressed }
    else if code = 0x38 then
      report .alt (if extended then 100 else 56) { ps2.toKeyModifiers with alt := pressed }
    else if extended = true ∧ (code = 0x5b ∨ code = 0x5c) then
      report .logo (if code = 0x5b then 125 else 126) { ps2.toKeyModifiers with logo := pressed }
    else
      ((decodeKey extended code ps2.shift).map fun (key, evdevCode) =>
        .key key evdevCode pressed ps2.toKeyModifiers, { ps2 with extended := false })

/-! ## The keys that are down -/

/-- A key of the keyboard: whether its codes carry the extension byte, and its make code. -/
abbrev Physical := Bool × Nat

structure Held where
  extended : Bool
  down : Physical → Bool

/-- The two keys that share a modifier. -/
def ModifierKey.keys : ModifierKey → List Physical
  | shift => [(false, 0x2a), (false, 0x36)]
  | control => [(false, 0x1d), (true, 0x1d)]
  | alt => [(false, 0x38), (true, 0x38)]
  | logo => [(true, 0x5b), (true, 0x5c)]

section

variable (held : Held) (byte : BitVec 8)

/-- The key whose make or break code ends with a byte. -/
def Held.keyOf : Physical :=
  (held.extended, byte.toNat % 0x80)

def Held.next : Held :=
  if byte = 0xe0 then { held with extended := true }
  else ⟨false, Function.update held.down (held.keyOf byte) (!byte.msb)⟩

/-- A byte releases no key of a modifier while another key of that modifier is down. -/
def Held.ReleasesLast : Prop :=
  byte ≠ 0xe0 → byte.msb = true → ∀ modifier : ModifierKey, held.keyOf byte ∈ modifier.keys →
    ∀ other ∈ modifier.keys, other ≠ held.keyOf byte → held.down other = false

end

def KeyModifiers.flag (modifiers : KeyModifiers) : ModifierKey → Bool
  | .shift => modifiers.shift
  | .control => modifiers.control
  | .alt => modifiers.alt
  | .logo => modifiers.logo

/-- A modifier's flag follows the last code of one of its keys. -/
theorem flag_consumeKeyboard {ps2 : Ps2} {byte : BitVec 8} (code : byte ≠ 0xe0)
    (modifier : ModifierKey) : (consumeKeyboard ps2 byte).2.flag modifier =
      if (ps2.extended, byte.toNat % 0x80) ∈ modifier.keys then !byte.msb
      else ps2.flag modifier := by
  obtain ⟨flags, extended⟩ := ps2
  unfold consumeKeyboard
  cases modifier <;> cases extended <;> dsimp only <;> grind [ModifierKey.keys, KeyModifiers.flag]

theorem extended_consumeKeyboard (ps2 : Ps2) (byte : BitVec 8) :
    (consumeKeyboard ps2 byte).2.extended = decide (byte = 0xe0) := by
  unfold consumeKeyboard
  dsimp only
  split_ifs <;> simp_all

theorem modifiers_consumeKeyboard {ps2 : Ps2} {byte : BitVec 8} {event : InputEvent}
    (decoded : (consumeKeyboard ps2 byte).1 = some event) :
    event.modifiers = (consumeKeyboard ps2 byte).2.toKeyModifiers := by
  unfold consumeKeyboard at decoded ⊢
  dsimp only at decoded ⊢
  split_ifs at decoded ⊢ <;> simp only [Option.map_eq_some_iff, Option.some.injEq] at decoded
  all_goals first | cases decoded; rfl | obtain ⟨_, -, rfl⟩ := decoded; rfl

/-- The decoder, and the keys that are down. -/
structure Keyboard where
  ps2 : Ps2
  held : Held

namespace Keyboard

def start : Keyboard := ⟨.new, false, fun _ => false⟩

def step (k : Keyboard) (byte : BitVec 8) : Keyboard × Option InputEvent :=
  (⟨(consumeKeyboard k.ps2 byte).2, k.held.next byte⟩, (consumeKeyboard k.ps2 byte).1)

/-- The flags stand for the keys that are down. -/
structure Tracks (k : Keyboard) : Prop where
  extended : k.ps2.extended = k.held.extended
  flags : ∀ modifier, k.ps2.flag modifier = modifier.keys.any k.held.down

theorem Tracks.step {k : Keyboard} (tracks : k.Tracks) {byte : BitVec 8}
    (last : k.held.ReleasesLast byte) : (k.step byte).1.Tracks := by
  constructor
  · show (consumeKeyboard k.ps2 byte).2.extended = (k.held.next byte).extended
    rw [extended_consumeKeyboard]
    unfold Held.next
    split_ifs with escape
    · exact decide_eq_true escape
    · exact decide_eq_false escape
  · intro modifier
    show (consumeKeyboard k.ps2 byte).2.flag modifier = modifier.keys.any (k.held.next byte).down
    by_cases escape : byte = 0xe0
    · simpa [consumeKeyboard, Held.next, escape] using tracks.flags modifier
    rw [flag_consumeKeyboard escape, tracks.extended, tracks.flags]
    have released := fun broken => last escape broken modifier
    unfold Held.next
    rw [if_neg escape, show (k.held.extended, byte.toNat % 0x80) = k.held.keyOf byte from rfl]
    generalize k.held.keyOf byte = key at released
    cases modifier <;> cases broken : byte.msb <;>
      grind [ModifierKey.keys, Function.update_apply]

/-- As long as no key of a modifier is released while the other is down, after each byte a
modifier is set exactly while one of its keys is down, in the decoder and in its event. -/
theorem modifiers_track_keys (bytes : List (BitVec 8))
    (last : Trace.Admits step (fun k byte => k.held.ReleasesLast byte) start bytes) :
    ∀ e ∈ Trace.events step start bytes, ∀ modifier : ModifierKey,
      e.after.ps2.flag modifier = modifier.keys.any e.after.held.down ∧
        ∀ event, e.reply = some event →
          event.modifiers.flag modifier = modifier.keys.any e.after.held.down := by
  have along := Trace.holds_along
    (fun k record => k.Tracks ∧ ∀ e ∈ record, e.after.Tracks ∧ ∀ event, e.reply = some event →
      event.modifiers = e.after.ps2.toKeyModifiers)
    (fun _ holds last => by
      have tracks := holds.1.step last
      exact ⟨tracks, Trace.forall_mem_snoc holds.2 ⟨tracks, fun _ => modifiers_consumeKeyboard⟩⟩)
    ⟨⟨rfl, fun modifier => by cases modifier <;> rfl⟩, List.forall_mem_nil _⟩ last
  intro e member modifier
  obtain ⟨tracks, reported⟩ := along.2 e member
  refine ⟨tracks.flags modifier, fun event replied => ?_⟩
  rw [reported event replied]
  exact tracks.flags modifier

/-- Left shift is pressed and released, then the right control key is pressed. -/
theorem modifiers_track_keys_tapped :
    Trace.Admits step (fun k byte => k.held.ReleasesLast byte) start [0x2a, 0xaa, 0xe0, 0x1d] ∧
      ∀ e ∈ Trace.events step start [0x2a, 0xaa, 0xe0, 0x1d], ∀ modifier : ModifierKey,
        e.after.ps2.flag modifier = modifier.keys.any e.after.held.down ∧
          ∀ event, e.reply = some event →
            event.modifiers.flag modifier = modifier.keys.any e.after.held.down := by
  refine and_iff_left_of_imp (modifiers_track_keys _) |>.mpr ?_
  simp only [Trace.Admits, Trace.events, List.forall_mem_cons, Trace.event]
  refine ⟨?_, ?_, ?_, ?_, List.forall_mem_nil _⟩ <;> intro escape broken modifier <;>
    cases modifier <;> decide +revert

/-- With both shift keys pressed, releasing the left one clears the flag. -/
theorem shift_lost_while_held :
    ∃ e ∈ Trace.events step start [0x2a, 0x36, 0xaa], e.after.ps2.shift = false ∧
      e.after.held.down (false, 0x36) = true := by
  refine ⟨_, List.mem_cons_of_mem _ (List.mem_cons_of_mem _ List.mem_cons_self), ?_⟩
  decide

end Keyboard

/-! ## Delivery to the client -/

def KeyModifiers.waylandModifierMask (modifiers : KeyModifiers) : Nat :=
  modifiers.shift.toNat ||| modifiers.control.toNat <<< 2 ||| modifiers.alt.toNat <<< 3 |||
    modifiers.logo.toNat <<< 6

/-- The keyboard events a client receives, without object ids and time. -/
inductive KeyboardEvent
  | enter (serial : Nat)
  | leave (serial : Nat)
  | modifiers (serial mask : Nat)
  | key (serial code : Nat) (pressed : Bool)
  deriving DecidableEq

/-- The keyboard part of the service's input state. -/
structure InputState where
  serial : Nat
  keyboardFocused : Bool
  modifiers : Nat
  pressedKeys : Nat → Bool

/-- What the rest of the kernel decides at one input: whether a surface is presented, whether
its window has the focus, whether the socket takes the two batches, and whether the desktop
consumes the key. -/
structure Surroundings where
  presented : Bool
  focused : Bool
  focusSent : Bool
  keySent : Bool
  consumed : Bool

namespace InputState

def new : InputState := ⟨1, false, 0, fun _ => false⟩

variable (s : InputState) (around : Surroundings)

def nextSerial : InputState :=
  { s with serial := if (s.serial + 1) % 2 ^ 32 = 0 then 1 else (s.serial + 1) % 2 ^ 32 }

def setKeyboardFocus (mask : Nat) : InputState × List KeyboardEvent :=
  if around.presented = false ∨ s.keyboardFocused = around.focused then (s, [])
  else
    let s := s.nextSerial
    if around.focusSent = false then (s, [])
    else if around.focused then
      ({ s with keyboardFocused := true, modifiers := mask },
        [.enter s.serial, .modifiers s.serial mask])
    else
      ({ s with keyboardFocused := false, modifiers := 0, pressedKeys := fun _ => false },
        [.leave s.serial])

def publishKeyboardKey (key : Nat) (pressed : Bool) (mask : Nat) :
    InputState × List KeyboardEvent :=
  if around.presented = false ∨ s.keyboardFocused = false ∨ key ≥ 128 ∨
      (pressed = false ∧ s.pressedKeys key = false) then (s, [])
  else
    let s := s.nextSerial
    if around.keySent = false then (s, [])
    else
      ({ s with pressedKeys := Function.update s.pressedKeys key pressed, modifiers := mask },
        .key s.serial key pressed ::
          if mask = s.modifiers then [] else [.modifiers s.serial mask])

end InputState

def InputEvent.evdevCode : InputEvent → Nat
  | modifier _ code _ _ | key _ code _ _ => code

def InputEvent.pressed : InputEvent → Bool
  | modifier _ _ pressed _ | key _ _ pressed _ => pressed

/-- Only keys are consumed; modifiers always go on to the client. -/
def InputEvent.consumed (around : Surroundings) : InputEvent → Bool
  | modifier .. => false
  | key .. => around.consumed

/-- The desktop task as far as the keyboard concerns it, with the keys that are down. -/
structure Desk where
  ps2 : Ps2
  inputModifiers : KeyModifiers
  input : InputState
  down : Nat → Bool

/-- A byte of the keyboard, or another input after which the desktop looks at the focus. -/
inductive DeskMove
  | scancode (byte : BitVec 8) (around : Surroundings)
  | focus (around : Surroundings)

namespace Desk

def boot : Desk := ⟨.new, Ps2.new.toKeyModifiers, .new, fun _ => false⟩

/-- The desktop passes on one decoded event. -/
def dispatch (s : Desk) (event : InputEvent) (around : Surroundings) : Desk × List KeyboardEvent :=
  let mask := event.modifiers.waylandModifierMask
  let focus := s.input.setKeyboardFocus around mask
  let key := if event.consumed around then (focus.1, [])
    else focus.1.publishKeyboardKey around event.evdevCode event.pressed mask
  ({ s with
      inputModifiers := event.modifiers, input := key.1
      down := Function.update s.down event.evdevCode event.pressed },
    focus.2 ++ key.2)

def step (s : Desk) : DeskMove → Desk × List KeyboardEvent
  | .scancode byte around =>
    let decoded := consumeKeyboard s.ps2 byte
    let s := { s with ps2 := decoded.2 }
    match decoded.1 with
    | none => (s, [])
    | some event => s.dispatch event around
  | .focus around =>
    let focus := s.input.setKeyboardFocus around s.inputModifiers.waylandModifierMask
    ({ s with input := focus.1 }, focus.2)

/-- A make code is for a key that is up, and the break code of a key whose press was
delivered is neither consumed nor dropped. -/
def Single (s : Desk) : DeskMove → Prop
  | .scancode byte around => ∀ event, (consumeKeyboard s.ps2 byte).1 = some event →
      if event.pressed then s.down event.evdevCode = false
      else s.input.pressedKeys event.evdevCode = true →
        around.presented = true ∧ around.keySent = true ∧ event.consumed around = false
  | .focus _ => True

end Desk

/-- A key as the client sees it: up at the start of a focus period, and `none` once a press
follows a press or a release a release. -/
def follow (code : Nat) : Option Bool → KeyboardEvent → Option Bool
  | some down, .key _ other pressed =>
      if other = code then (if pressed = down then none else some pressed) else some down
  | some _, .enter _ | some _, .leave _ => some false
  | seen, _ => seen

/-- Within each focus period the events of every key alternate, starting with a press. -/
def Alternates (events : List KeyboardEvent) : Prop :=
  ∀ code, events.foldl (follow code) (some false) ≠ none

namespace InputState

variable {s next : InputState} {around : Surroundings} {mask : Nat} {events : List KeyboardEvent}

/-- Keys are marked as pressed during a focus period only. -/
def Marked (s : InputState) : Prop :=
  ∀ code, s.pressedKeys code = true → s.keyboardFocused = true ∧ code < 128

theorem Marked.setKeyboardFocus (marked : s.Marked)
    (done : s.setKeyboardFocus around mask = (next, events)) : next.Marked ∧ ∀ code,
      events.foldl (follow code) (some (s.pressedKeys code)) = some (next.pressedKeys code) ∧
      (next.pressedKeys code = true → s.pressedKeys code = true) := by
  unfold Marked at marked ⊢
  unfold InputState.setKeyboardFocus nextSerial at done
  split_ifs at done <;> cases done <;> simp [follow] <;> grind

theorem Marked.publishKeyboardKey (marked : s.Marked) {key : Nat} {pressed : Bool}
    (done : s.publishKeyboardKey around key pressed mask = (next, events))
    (single : if pressed then s.pressedKeys key = false
      else s.pressedKeys key = true → around.presented = true ∧ around.keySent = true) :
    next.Marked ∧ ∀ code,
      events.foldl (follow code) (some (s.pressedKeys code)) = some (next.pressedKeys code) ∧
      (next.pressedKeys code = true →
        if code = key then pressed = true else s.pressedKeys code = true) := by
  unfold Marked at marked ⊢
  unfold InputState.publishKeyboardKey nextSerial at done
  dsimp only at done
  split_ifs at done <;> cases done <;> simp [follow] <;> grind [Function.update_apply]

end InputState

namespace Desk

/-- What was delivered agrees with the marked keys, and these are down. -/
structure Follows (s : Desk) (delivered : List KeyboardEvent) : Prop where
  marked : s.input.Marked
  seen : ∀ code, delivered.foldl (follow code) (some false) = some (s.input.pressedKeys code)
  down : ∀ code, s.input.pressedKeys code = true → s.down code = true

variable {s : Desk} {delivered : List KeyboardEvent}

theorem Follows.dispatch (follows : s.Follows delivered) {event : InputEvent}
    {around : Surroundings} (single : if event.pressed then s.down event.evdevCode = false
      else s.input.pressedKeys event.evdevCode = true →
        around.presented = true ∧ around.keySent = true ∧ event.consumed around = false) :
    (s.dispatch event around).1.Follows (delivered ++ (s.dispatch event around).2) := by
  obtain ⟨marked, seen, down⟩ := follows
  unfold Desk.dispatch
  dsimp only
  cases focused : s.input.setKeyboardFocus around event.modifiers.waylandModifierMask with
  | mk input sent =>
    obtain ⟨marked', focus⟩ := marked.setKeyboardFocus focused
    split_ifs with consumed
    · refine ⟨marked', fun code => ?_, fun code => ?_⟩
      · rw [List.append_nil, List.foldl_append, seen, (focus code).1]
      · grind [Function.update_apply]
    cases published : input.publishKeyboardKey around event.evdevCode event.pressed
        event.modifiers.waylandModifierMask with
    | mk last sent' =>
      obtain ⟨marked'', key⟩ := marked'.publishKeyboardKey published (by grind)
      refine ⟨marked'', fun code => ?_, fun code => ?_⟩
      · rw [List.foldl_append, List.foldl_append, seen, (focus code).1, (key code).1]
      · grind [Function.update_apply]

theorem Follows.step (follows : s.Follows delivered) {move : DeskMove} (single : s.Single move) :
    (s.step move).1.Follows (delivered ++ (s.step move).2) := by
  cases move with
  | scancode byte around =>
    unfold Desk.step
    dsimp only
    cases decoded : (consumeKeyboard s.ps2 byte).1 with
    | none =>
      rw [List.append_nil]
      exact ⟨follows.marked, follows.seen, follows.down⟩
    | some event =>
      have kept : { s with ps2 := (consumeKeyboard s.ps2 byte).2 }.Follows delivered :=
        ⟨follows.marked, follows.seen, follows.down⟩
      exact kept.dispatch (single event decoded)
  | focus around =>
    obtain ⟨marked, focus⟩ := follows.marked.setKeyboardFocus (rfl :
      s.input.setKeyboardFocus around s.inputModifiers.waylandModifierMask = _)
    refine ⟨marked, fun code => ?_, fun code now => follows.down code ((focus code).2 now)⟩
    rw [List.foldl_append, follows.seen]
    exact (focus code).1

/-- The key events delivered to the client alternate, for every stream without repeated make
codes and every history of the focus, as long as no release of a delivered press is consumed
or dropped. -/
theorem key_events_alternate (moves : List DeskMove)
    (single : Trace.Admits step Single boot moves) :
    Alternates ((Trace.events step boot moves).flatMap (·.reply)) := by
  have follows := Trace.holds_along (fun s record => s.Follows (record.flatMap (·.reply)))
    (fun _ follows single => by
      simpa [Trace.event] using follows.step single)
    (show boot.Follows ([].flatMap _) from ⟨nofun, fun _ => rfl, nofun⟩) single
  intro code
  rw [List.nil_append] at follows
  rw [follows.seen code]
  exact Option.some_ne_none _

/-- A surface with the focus and a socket with room. -/
def attentive : Surroundings := ⟨true, true, true, true, false⟩

theorem key_events_alternate_tapped : Alternates ((Trace.events step boot
      [.scancode 0x1e attentive, .scancode 0x9e attentive]).flatMap (·.reply)) := by
  apply key_events_alternate
  simp only [Trace.Admits, Trace.events, List.forall_mem_cons]
  refine ⟨?_, ?_, List.forall_mem_nil _⟩ <;> intro event decoded <;> cases decoded
  · rfl
  · exact fun _ => ⟨rfl, rfl, rfl⟩

/-- A key that is held long enough to repeat: the client sees it pressed twice. -/
theorem repeated_press_delivered : ¬ Alternates ((Trace.events step boot
      [.scancode 0x1e attentive, .scancode 0x1e attentive]).flatMap (·.reply)) := by
  intro alternates
  exact alternates 0x1e (by decide)

end Desk

end SlopOS.Input
