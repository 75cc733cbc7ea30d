import AsmListing.Machine.Operation

/-!
# Decoding one instruction

An instruction is read from at most fifteen bytes: leading bytes, the
operation, and its operands.  What cannot be read behind a leading byte comes
out as that bare leading byte.
-/

namespace AsmListing

namespace Machine

/-- The operands read so far, with the bits of the extension byte that they
needed and the bytes that are left. -/
structure Reading where
  operands : List MachineOperand
  extensionUsed : UInt8
  leading : Leading
  rest : List UInt8
deriving DecidableEq, Repr

/-- The byte register with the given encoding.  With an extension byte the
encodings from four on have no high bytes. -/
def byteRegister (extension : UInt8) (encoding : Nat) : MachineRegister × UInt8 :=
  if extension != 0 && 4 ≤ encoding then (⟨MachineRegister.spb.number + encoding - 4⟩, 0x40)
  else (.general 8 encoding, 0)

def widthRegister (extension : UInt8) (bits encoding : Nat) : MachineRegister × UInt8 :=
  if bits == 8 then byteRegister extension encoding else (.general bits encoding, 0)

/-- The width of stack operands. -/
def stackSize (leading : Leading) : Nat :=
  if leading.mode == 64 then if leading.operandSize == 16 then 16 else 64
  else leading.operandSize

def targetSize (leading : Leading) : Nat :=
  if leading.mode == 64 then 64 else leading.operandSize

def nearBytes (leading : Leading) : Nat :=
  if leading.mode != 64 && leading.operandSize == 16 then 2 else 4

namespace Reading

def push (reading : Reading) (operand : MachineOperand) (used : UInt8) : Reading :=
  { reading with
    operands := reading.operands ++ [operand]
    extensionUsed := reading.extensionUsed ||| used }

def pushRegister (reading : Reading) (bits encoding : Nat) (used : UInt8) : Reading :=
  let (register, needed) := widthRegister reading.leading.extension bits encoding
  reading.push (.register register) (used ||| needed)

/-- Adds a constant of the given count of bytes. -/
def pushSigned (reading : Reading) (count : Nat) (make : Int → MachineOperand) :
    Except Stop Reading :=
  (readSigned count reading.rest).map fun (value, rest) =>
    { reading.push (make value) 0 with rest }

/-- Adds an unsigned constant of the given count of bytes. -/
def pushUnsigned (reading : Reading) (count : Nat) : Except Stop Reading :=
  (readUnsigned count reading.rest).map fun (value, rest) =>
    { reading.push (.immediate value) 0 with rest }

/-- Adds the memory reference or the register of the addressing byte. -/
def pushAddressed (reading : Reading) (addressing : Addressing) (bits : Nat) : Reading :=
  match addressing.memory? with
  | some memory => reading.push (.memory memory) 0
  | none => reading.pushRegister bits addressing.other 0

/-- Adds the memory reference of the addressing byte, or a vector
register. -/
def pushVector (reading : Reading) (addressing : Addressing) (register : MachineRegister) :
    Reading :=
  match addressing.memory? with
  | some memory => reading.push (.memory memory) 0
  | none => reading.push (.register register) 0

def fillSlot (reading : Reading) (operation : Nat) (addressing : Addressing) :
    Slot → Except Stop Reading
  | .addressed bits => .ok (reading.pushAddressed addressing bits)
  | .addressedSized => .ok (reading.pushAddressed addressing reading.leading.operandSize)
  | .addressedStack => .ok (reading.pushAddressed addressing (stackSize reading.leading))
  | .addressedTarget => .ok (reading.pushAddressed addressing (targetSize reading.leading))
  | .memory =>
      match addressing.memory? with
      | some memory => .ok (reading.push (.memory memory) 0)
      | none => .error .unknown
  | .register bits => .ok (reading.pushRegister bits addressing.register 0)
  | .registerSized =>
      .ok (reading.pushRegister reading.leading.operandSize addressing.register 0)
  | .coded8 =>
      let (high, used) := extensionBit reading.leading.extension 1
      .ok (reading.pushRegister 8 (operation % 8 + high) used)
  | .codedSized =>
      let (high, used) := extensionBit reading.leading.extension 1
      .ok (reading.pushRegister reading.leading.operandSize (operation % 8 + high) used)
  | .codedStack =>
      let (high, used) := extensionBit reading.leading.extension 1
      .ok (reading.pushRegister (stackSize reading.leading) (operation % 8 + high) used)
  | .fixed register => .ok (reading.push (.register register) 0)
  | .accumulator =>
      .ok (reading.push (.register (.general reading.leading.operandSize 0)) 0)
  | .constant value => .ok (reading.push (.immediate value) 0)
  | .unsigned8 => reading.pushUnsigned 1
  | .signed8 => reading.pushSigned 1 .immediate
  | .unsigned16 => reading.pushUnsigned 2
  | .immediate =>
      reading.pushSigned (if reading.leading.operandSize == 16 then 2 else 4) .immediate
  | .immediateFull => reading.pushSigned (reading.leading.operandSize / 8) .immediate
  | .near8 => reading.pushSigned 1 .relative
  | .near => reading.pushSigned (nearBytes reading.leading) .relative
  | .segment =>
      let encoding := addressing.register % 8
      if encoding < 6 then .ok (reading.push (.register (.segment encoding)) 0)
      else .error .unknown
  | .control =>
      let locked := reading.leading.has .lock
      let encoding := addressing.register + if locked then 8 else 0
      let reading := { reading with leading := reading.leading.hide .lock }
      .ok (reading.push (.register (.control encoding)) 0)
  | .debug => .ok (reading.push (.register (.debug addressing.register)) 0)
  | .wholeGeneral =>
      let (high, used) := extensionBit reading.leading.extension 1
      .ok (reading.pushRegister (if reading.leading.mode == 64 then 64 else 32)
        (addressing.low + high) used)
  | .mmx => .ok (reading.push (.register (.mmx (addressing.register % 8))) 0)
  | .mmxAddressed => .ok (reading.pushVector addressing (.mmx (addressing.other % 8)))
  | .xmm => .ok (reading.push (.register (.xmm addressing.register)) 0)
  | .xmmAddressed => .ok (reading.pushVector addressing (.xmm addressing.other))
  | .direct =>
      (readUnsigned (reading.leading.addressSize / 8) reading.rest).map fun (address, rest) =>
        let memory : MemoryReference :=
          ⟨reading.leading.segmentRegister, .absent, 0, .absent, address⟩
        { reading.push (.memory memory) 0 with
          rest, leading := reading.leading.hide .segment }
  | .stackRegister =>
      match addressing.memory? with
      | some _ => .error .unknown
      | none => .ok (reading.push (.register (.stack addressing.low)) 0)

def fillSlots (reading : Reading) (operation : Nat) (addressing : Addressing) :
    List Slot → Except Stop Reading
  | [] => .ok reading
  | slot :: rest =>
      match reading.fillSlot operation addressing slot with
      | .error stop => .error stop
      | .ok reading => reading.fillSlots operation addressing rest

end Reading

/-- An instruction as it was read, before its text is settled. -/
structure Draft where
  name : String
  operation : Nat
  hasMemory : Bool
  reading : Reading
deriving DecidableEq, Repr

/-- The addressing of an instruction that has no addressing byte. -/
def noAddressing : Addressing := ⟨0, 0, 0, none, 0⟩

def readForm (leading : Leading) (operation : Nat) (addressing : Addressing) (form : Form)
    (bytes : List UInt8) : Except Stop Draft := do
  let leading := if form.sized then leading.hide .operandSize else leading
  let widthUsed : UInt8 := if form.sized && leading.operandSize == 64 then 8 else 0
  let start : Reading := ⟨[], addressing.extensionUsed ||| widthUsed, leading, bytes⟩
  let reading ← start.fillSlots operation addressing form.slots
  .ok ⟨form.name leading.operandSize, operation, addressing.memory?.isSome, reading⟩

/-- The form that leading bytes select, with those bytes hidden.  A
repetition byte that selects nothing keeps `66` from selecting. -/
def selectForm (leading : Leading) (bare size repeatNot repeatWhile : Option Form) :
    Except Stop (Leading × Form) :=
  let fallback : Except Stop (Leading × Form) :=
    match bare with
    | some form => .ok (leading, form)
    | none => .error .unknown
  let bySize : Except Stop (Leading × Form) :=
    match size with
    | none => fallback
    | some form =>
        if (leading.repetition?).isSome then .error .unknown
        else if leading.has .operandSize then .ok (leading.hide .operandSize, form)
        else fallback
  match leading.repetition?, repeatNot, repeatWhile with
  | some 0xf3, _, some form => .ok (leading.hide .repetition, form)
  | some 0xf2, some form, _ => .ok (leading.hide .repetition, form)
  | _, _, _ => bySize

def readRow (leading : Leading) (operation : Nat) (row : Row) (bytes : List UInt8) :
    Except Stop Draft :=
  match row with
  | .absent => .error .unknown
  | .plain form => readForm leading operation noAddressing form bytes
  | .addressed form => do
      let (addressing, rest) ← readAddressing leading bytes
      readForm leading operation addressing form rest
  | .grouped forms => do
      let (addressing, rest) ← readAddressing leading bytes
      match forms[addressing.register % 8]? with
      | some (some form) => readForm leading operation addressing form rest
      | _ => .error .unknown
  | .selected bare size repeatNot repeatWhile => do
      let (leading, form) ← selectForm leading bare size repeatNot repeatWhile
      let (addressing, rest) ← readAddressing leading bytes
      readForm leading operation addressing form rest

/-- Reads an instruction behind its leading bytes. -/
def readOperation (leading : Leading) (bytes : List UInt8) : Except Stop Draft :=
  match bytes with
  | [] => .error .short
  | first :: rest =>
      if first == 0x0f then
        match rest with
        | [] => .error .short
        | second :: rest => readRow leading second.toNat (rowTwo leading.mode second.toNat) rest
      else readRow leading first.toNat (rowOne leading first.toNat) rest

def stringNames : List String :=
  ["INSB", "INSW", "INSD", "OUTSB", "OUTSW", "OUTSD",
   "MOVSB", "MOVSW", "MOVSD", "MOVSQ", "CMPSB", "CMPSW", "CMPSD", "CMPSQ",
   "LODSB", "LODSW", "LODSD", "LODSQ", "STOSB", "STOSW", "STOSD", "STOSQ",
   "SCASB", "SCASW", "SCASD", "SCASQ"]

/-- The accumulator that a string instruction uses, by the last letter of its
name. -/
def stringAccumulator (name : String) : MachineOperand :=
  match name.toList.getLast? with
  | some 'B' => .register (.general 8 0)
  | some 'W' => .register (.general 16 0)
  | some 'D' => .register (.general 32 0)
  | _ => .register (.general 64 0)

/-- The memory operands that a string instruction implies.  The flag says
that the overridable segment is used. -/
def impliedOperands? (leading : Leading) (name : String) :
    Option (List MachineOperand × Bool) :=
  let overridable :=
    if leading.has .segment then leading.segmentRegister else .segment 3
  let target : MachineOperand :=
    .memory ⟨.segment 0, .general leading.addressSize 7, 0, .absent, 0⟩
  let source : MachineOperand :=
    .memory ⟨overridable, .general leading.addressSize 6, 0, .absent, 0⟩
  let stem := String.ofList (name.toList.dropLast)
  if name == "XLATB" then
    some ([.memory ⟨overridable, .general leading.addressSize 3, 0, .absent, 0⟩], true)
  else if !stringNames.contains name then none
  else if stem == "INS" then some ([target, .register .dx], false)
  else if stem == "OUTS" then some ([.register .dx, source], true)
  else if stem == "MOVS" then some ([target, source], true)
  else if stem == "CMPS" then some ([source, target], true)
  else if stem == "LODS" then some ([stringAccumulator name, source], true)
  else if stem == "STOS" then some ([target, stringAccumulator name], false)
  else some ([stringAccumulator name, target], false)

def lockableNames : List String :=
  ["ADD", "ADC", "AND", "BTC", "BTR", "BTS", "CMPXCHG", "CMPXCHG8B", "CMPXCHG16B", "DEC",
   "INC", "NEG", "NOT", "OR", "SBB", "SUB", "XOR", "XADD", "XCHG"]

def conditionalJumps : List String :=
  conditionNames.map fun condition => "J" ++ condition

/-- The names of the jumps on an empty counter, by address size. -/
def emptyCounterJumps : List String :=
  ["JCXZ", "JECXZ", "JRCXZ"]

/-- The names of the loops and of the jumps on an empty counter. -/
def counterJumps : List String :=
  ["LOOP", "LOOPE", "LOOPNE"] ++ emptyCounterJumps

/-- Gives segment bytes of conditional jumps their meaning as hints. -/
def markHints (leading : Leading) (name : String) : Leading :=
  if conditionalJumps.contains name || counterJumps.contains name then
    leading.relabelLast (fun entry => entry.byte == 0x2e || entry.byte == 0x3e)
      fun entry => if entry.byte == 0x2e then "PN" else "PT"
  else leading

/-- Gives repetition bytes of jumps their meaning as bounds. -/
def markBounds (leading : Leading) (name : String) : Leading :=
  if conditionalJumps.contains name || ["JMP", "CALL", "RET"].contains name then
    leading.relabelLast (fun entry => entry.byte == 0xf2 && !entry.hidden) fun _ => "BND"
  else leading

/-- Gives repetition bytes of locked instructions their meaning. -/
def markElision (leading : Leading) (draft : Draft) : Leading :=
  match draft.reading.operands with
  | .memory _ :: _ =>
      let name := draft.name
      let locked :=
        (leading.bytes.any fun entry => entry.role = .lock && entry.inForce && !entry.hidden) &&
          lockableNames.contains name
      let locked := locked || name == "XCHG"
      let release := locked || (name == "MOV" &&
        (draft.operation / 2 == 0x44 || draft.operation / 2 == 0x63))
      { leading with bytes := leading.bytes.map fun entry =>
          if entry.byte == 0xf2 && locked && !entry.hidden then { entry with label := "XACQUIRE" }
          else if entry.byte == 0xf3 && release && !entry.hidden then
            { entry with label := "XRELEASE" }
          else entry }
  | _ => leading

/-- Hides the extension byte if all its bits were needed. -/
def settleExtension (leading : Leading) (used : UInt8) : Leading :=
  let used := if used != 0 then used ||| 0x40 else used
  if leading.extension &&& (0xff ^^^ used) == 0 then leading.hide .extension else leading

/-- Turns an exchange of the accumulator with itself into a pause or into no
operation at all. -/
def settleExchange (draft : Draft) : Draft :=
  let leading := draft.reading.leading
  if draft.name == "XCHG" && draft.operation / 8 == 0x12 then
    let idle :=
      match draft.reading.operands with
      | [left, right] => left == right
      | _ => false
    if leading.repetition? == some 0xf3 && draft.operation == 0x90 then
      let leading := if idle then leading.reveal .operandSize else leading
      { draft with
        name := "PAUSE"
        reading := { draft.reading with operands := [], leading := leading.hide .repetition } }
    else if idle then
      { draft with
        name := "NOP"
        reading := { draft.reading with operands := [], leading := leading.reveal .operandSize } }
    else draft
  else draft

/-- Settles the operands and the shown leading bytes of an instruction of the
given length. -/
def settle (draft : Draft) (length : Nat) : MachineInstruction :=
  let draft := settleExchange draft
  let leading := draft.reading.leading
  let implied := impliedOperands? leading draft.name
  let operands :=
    match implied with
    | some (operands, _) => operands
    | none => draft.reading.operands
  let leading :=
    match implied with
    | some (_, true) => leading.hide .segment
    | _ => leading
  let usesAddress :=
    draft.hasMemory || implied.isSome || emptyCounterJumps.contains draft.name
  let leading := if usesAddress then leading.hide .addressSize else leading
  let leading := if draft.hasMemory then leading.hide .segment else leading
  let leading := markHints leading draft.name
  let leading := markBounds leading draft.name
  let leading := markElision leading draft
  let leading := settleExtension leading draft.reading.extensionUsed
  ⟨draft.name, operands.map some, length, leading.marks⟩

def instructionLimit : Nat := 15

/-- Decodes the instruction at the front of a text of bytes.  The result is
empty if only a leading byte or a part of an instruction can be made out. -/
def decode (mode : Mode) (bytes : List UInt8) :
    Except DecodeError (Option MachineInstruction) :=
  if mode.supported then
    let window := bytes.take instructionLimit
    match (Leading.start mode.number.toNat).read window with
    | none => .ok none
    | some (leading, rest) =>
        let leadingBytes := leading.bytes.length
        match leading.readExtension rest with
        | none => .ok none
        | some (leading, rest) =>
            match readOperation leading rest with
            | .error .short => .ok none
            | .error .unknown =>
                if leadingBytes = 0 then .error .unrecognized else .ok none
            | .ok draft =>
                .ok (some (settle draft (window.length - draft.reading.rest.length)))
  else .error .invalidMode

end Machine

end AsmListing
