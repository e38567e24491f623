import K4W.Library.Messages
import K4W.Motor.Usb

/-!
# Orders to the motor

What the device is told, apart from how it is told: an angle in its range, a
state of the LED, or the request for a reading.  An order goes out as the bytes
of a packet with the number of the packets before it, and the device finds the
number and the order in these bytes again.
-/

namespace K4W.Motor

open K4W.Library

/-- A whole number of degrees that the motor can reach. -/
structure Angle where
  degrees : Int
  low : -31 ≤ degrees
  high : degrees ≤ 31
deriving DecidableEq

/-- The states of the LED, with one colour less than the protocol of the clients. -/
inductive Light where
  | off
  | blink
  | green
  | red
deriving DecidableEq

def Light.code : Light → UInt32
  | .off => 1
  | .blink => 2
  | .green => 3
  | .red => 4

def Light.ofCode? (code : UInt32) : Option Light :=
  if code = 1 then some .off
  else if code = 2 then some .blink
  else if code = 3 then some .green
  else if code = 4 then some .red
  else none

theorem Light.ofCode?_code (light : Light) : Light.ofCode? light.code = some light := by
  cases light <;> rfl

inductive Order where
  | turn (angle : Angle)
  | shine (light : Light)
  | measure
deriving DecidableEq

/-! ## Packets -/

/-- The word of an angle: twice its degrees, in two's complement. -/
def Angle.word (angle : Angle) : UInt32 :=
  (Int32.ofInt (2 * angle.degrees)).toUInt32

def Order.packet (tag : UInt32) : Order → MotorCmd
  | .turn angle => ⟨motorMagicCmd, tag, 0, cmdSetTilt, angle.word⟩
  | .shine light => ⟨motorMagicCmd, tag, 0, cmdSetLed, light.code⟩
  | .measure => ⟨motorMagicCmd, tag, 0x68, cmdGetAccel, 0⟩

/-- The request for a reading goes out without its last word. -/
def Order.length : Order → Nat
  | .turn _ | .shine _ => 20
  | .measure => 16

/-- `motor_cmd_t` in memory. -/
def MotorCmd.bytes (packet : MotorCmd) : List UInt8 :=
  ByteField.word.encode packet.magic ++ (ByteField.word.encode packet.tag ++
    (ByteField.word.encode packet.arg1 ++ (ByteField.word.encode packet.cmd ++
      ByteField.word.encode packet.arg2)))

/-- What the transfer of an order puts on the bus. -/
def Order.wire (tag : UInt32) (order : Order) : List UInt8 :=
  (order.packet tag).bytes.take order.length

theorem bytes_length (packet : MotorCmd) : packet.bytes.length = 20 := by
  have hword : ∀ word : UInt32, (ByteField.word.encode word).length = 4 := fun _ => rfl
  simp only [MotorCmd.bytes, List.length_append, hword]

theorem wire_length (tag : UInt32) (order : Order) :
    (order.wire tag).length = order.length := by
  rw [Order.wire, List.length_take, bytes_length]
  cases order <;> rfl

/-! ## Reading an order -/

/-- An angle of the word that was sent for it. -/
def Angle.ofWord? (word : UInt32) : Option Angle :=
  let half := word.toInt32.toInt
  if h : -62 ≤ half ∧ half ≤ 62 ∧ half % 2 = 0 then
    some ⟨half / 2, by omega, by omega⟩
  else none

theorem Angle.ofWord?_word (angle : Angle) : Angle.ofWord? angle.word = some angle := by
  obtain ⟨degrees, hlow, hhigh⟩ := angle
  have hhalf : (Angle.word ⟨degrees, hlow, hhigh⟩).toInt32.toInt = 2 * degrees := by
    change (Int32.ofInt (2 * degrees)).toInt = 2 * degrees
    exact Int32.toInt_ofInt_of_le (by omega) (by omega)
  have hrange : -62 ≤ 2 * degrees ∧ 2 * degrees ≤ 62 ∧ 2 * degrees % 2 = 0 := by omega
  simp only [Angle.ofWord?, hhalf, hrange, and_self, dite_true, Option.some.injEq,
    Angle.mk.injEq]
  omega

/-- The order of a transfer, by its command and its length. -/
def orderOf? (cmd arg1 : UInt32) (bytes : List UInt8) : Option Order :=
  if cmd = cmdSetTilt ∧ arg1 = 0 ∧ bytes.length = 20 then
    (Angle.ofWord? (ByteField.word.read bytes 16)).map .turn
  else if cmd = cmdSetLed ∧ arg1 = 0 ∧ bytes.length = 20 then
    (Light.ofCode? (ByteField.word.read bytes 16)).map .shine
  else if cmd = cmdGetAccel ∧ arg1 = 0x68 ∧ bytes.length = 16 then
    some .measure
  else none

/-- What the device takes from a transfer: the number and the order. -/
def readOrder (bytes : List UInt8) : Option (UInt32 × Order) :=
  if ByteField.word.read bytes 0 = motorMagicCmd then
    (orderOf? (ByteField.word.read bytes 12) (ByteField.word.read bytes 8) bytes).map
      fun order => (ByteField.word.read bytes 4, order)
  else none

/-- The words of a packet are found at their offsets, also when the last one is cut off. -/
theorem read_packet (packet : MotorCmd) {length : Nat} (hlength : length = 16 ∨ length = 20) :
    let bytes := packet.bytes.take length
    ByteField.word.read bytes 0 = packet.magic ∧ ByteField.word.read bytes 4 = packet.tag ∧
      ByteField.word.read bytes 8 = packet.arg1 ∧ ByteField.word.read bytes 12 = packet.cmd ∧
      (length = 20 → ByteField.word.read bytes 16 = packet.arg2) := by
  have hword : ∀ word : UInt32, ByteField.word.Valid word := fun _ => trivial
  have hsize : ByteField.word.size = 4 := rfl
  obtain ⟨last, htake⟩ : ∃ last, packet.bytes.take length =
      ByteField.word.encode packet.magic ++ (ByteField.word.encode packet.tag ++
        (ByteField.word.encode packet.arg1 ++ (ByteField.word.encode packet.cmd ++ last))) ∧
      (length = 20 → last = ByteField.word.encode packet.arg2) := by
    rcases hlength with rfl | rfl
    · exact ⟨[], rfl, fun hwhole => absurd hwhole (by decide)⟩
    · exact ⟨ByteField.word.encode packet.arg2, rfl, fun _ => rfl⟩
  intro bytes
  obtain ⟨hbytes, hlast⟩ := htake
  simp only [bytes, hbytes]
  refine ⟨ByteField.read_here (hword _) _, ?_, ?_, ?_, fun hwhole => ?_⟩
  · rw [ByteField.read_skip _ (by decide)]
    exact ByteField.read_here (hword _) _
  · rw [ByteField.read_skip _ (by decide), ByteField.read_skip _ (by decide)]
    exact ByteField.read_here (hword _) _
  · rw [ByteField.read_skip _ (by decide), ByteField.read_skip _ (by decide),
      ByteField.read_skip _ (by decide)]
    exact ByteField.read_here (hword _) _
  · rw [ByteField.read_skip _ (by decide), ByteField.read_skip _ (by decide),
      ByteField.read_skip _ (by decide), ByteField.read_skip _ (by decide), hlast hwhole]
    exact ByteField.read_last (hword _)

/-- The device finds the number and the order in the bytes of the order. -/
theorem readOrder_wire (tag : UInt32) (order : Order) :
    readOrder (order.wire tag) = some (tag, order) := by
  have hlength : order.length = 16 ∨ order.length = 20 := by cases order <;> simp [Order.length]
  obtain ⟨hmagic, htag, harg1, hcmd, harg2⟩ := read_packet (order.packet tag) hlength
  have hsize := wire_length tag order
  rw [← Order.wire] at hmagic htag harg1 hcmd harg2
  cases order with
  | turn angle =>
      simp only [readOrder, hmagic, htag, harg1, hcmd, Order.packet, if_true, orderOf?, hsize,
        Order.length, and_self, harg2 rfl, Angle.ofWord?_word, Option.map_some]
  | shine light =>
      have hother : cmdSetLed ≠ cmdSetTilt := by decide
      simp only [readOrder, hmagic, htag, harg1, hcmd, Order.packet, if_true, orderOf?, hsize,
        Order.length, and_self, hother, false_and, if_false, harg2 rfl, Light.ofCode?_code,
        Option.map_some]
  | measure =>
      have htilt : cmdGetAccel ≠ cmdSetTilt := by decide
      have hled : cmdGetAccel ≠ cmdSetLed := by decide
      simp only [readOrder, hmagic, htag, harg1, hcmd, Order.packet, if_true, orderOf?, hsize,
        Order.length, and_self, htilt, hled, false_and, if_false, Option.map_some]

/-! ## Numbered orders -/

/-- The transfers of orders one after the other, with numbers from a first one on. -/
def numbered (first : UInt32) : List Order → List (List UInt8)
  | [] => []
  | order :: rest => order.wire first :: numbered (first + 1) rest

theorem numbered_append (first : UInt32) (front back : List Order) :
    numbered first (front ++ back) =
      numbered first front ++ numbered (first + UInt32.ofNat front.length) back := by
  induction front generalizing first with
  | nil => simp [numbered]
  | cons order rest ih =>
      have hcount : first + UInt32.ofNat (rest.length + 1) =
          first + 1 + UInt32.ofNat rest.length := by
        rw [UInt32.ofNat_add, UInt32.add_assoc, UInt32.add_comm 1]
        rfl
      rw [List.cons_append, numbered, ih, numbered, List.length_cons, hcount, List.cons_append]

/-- The device reads numbered orders, each with the number of the orders before it. -/
theorem readOrder_numbered (first : UInt32) (orders : List Order) :
    (numbered first orders).map readOrder =
      orders.mapIdx fun index order => some (first + UInt32.ofNat index, order) := by
  induction orders using List.reverseRecOn with
  | nil => rfl
  | append_singleton orders last ih =>
      rw [numbered_append, List.map_append, ih, List.mapIdx_append]
      simp [numbered, readOrder_wire]

end K4W.Motor
