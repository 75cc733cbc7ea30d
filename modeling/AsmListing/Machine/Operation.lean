import AsmListing.Machine.Addressing

/-!
# Operations

The operation byte of an instruction selects a row: a name, and slots that
say where its operands are found.  Rows may depend on the mode and on the
leading bytes.
-/

namespace AsmListing

namespace Machine

/-- Where an operand of an instruction is found. -/
inductive Slot where
  /-- The register or memory of the addressing byte, of a fixed width. -/
  | addressed (bits : Nat)
  /-- The register or memory of the addressing byte, of the operand size. -/
  | addressedSized
  /-- The register or memory of the addressing byte, as wide as the stack. -/
  | addressedStack
  /-- The register or memory of the addressing byte, as wide as a jump
  target. -/
  | addressedTarget
  /-- The memory of the addressing byte. -/
  | memory
  /-- The register field, of a fixed width. -/
  | register (bits : Nat)
  /-- The register field, of the operand size. -/
  | registerSized
  /-- The register in the low bits of the operation, a byte wide. -/
  | coded8
  /-- The register in the low bits of the operation, of the operand size. -/
  | codedSized
  /-- The register in the low bits of the operation, as wide as the stack. -/
  | codedStack
  /-- A register that the operation implies. -/
  | fixed (register : MachineRegister)
  /-- The accumulator, of the operand size. -/
  | accumulator
  /-- A constant that the operation implies. -/
  | constant (value : Int)
  /-- One unsigned byte. -/
  | unsigned8
  /-- One signed byte. -/
  | signed8
  /-- Two unsigned bytes. -/
  | unsigned16
  /-- A signed constant of the operand size, four bytes at most. -/
  | immediate
  /-- A signed constant of the full operand size. -/
  | immediateFull
  /-- A jump distance of one byte. -/
  | near8
  /-- A jump distance of two or four bytes. -/
  | near
  /-- The segment register of the register field. -/
  | segment
  /-- The control register of the register field. -/
  | control
  /-- The debug register of the register field. -/
  | debug
  /-- The general register beside a control or debug register. -/
  | wholeGeneral
  /-- The 64-bit vector register of the register field. -/
  | mmx
  /-- The 64-bit vector register or memory of the addressing byte. -/
  | mmxAddressed
  /-- The 128-bit vector register of the register field. -/
  | xmm
  /-- The 128-bit vector register or memory of the addressing byte. -/
  | xmmAddressed
  /-- Memory at an address that stands in the instruction. -/
  | direct
  /-- The floating-point register in the low bits of the addressing byte. -/
  | stackRegister
deriving DecidableEq, Repr

/-- A name and its operand slots.  The name may depend on the operand size,
and the flag says whether the operand size matters at all. -/
structure Form where
  name16 : String
  name32 : String
  name64 : String
  sized : Bool
  slots : List Slot
deriving DecidableEq, Repr

inductive Row where
  /-- No instruction. -/
  | absent
  /-- An instruction without an addressing byte. -/
  | plain (form : Form)
  /-- An instruction with an addressing byte. -/
  | addressed (form : Form)
  /-- Instructions told apart by the register field. -/
  | grouped (forms : List (Option Form))
  /-- Instructions told apart by leading bytes: none, `66`, `F2`, `F3`. -/
  | selected (bare size repeatNot repeatWhile : Option Form)
deriving DecidableEq, Repr

/-- A form for which the operand size does not matter. -/
def unsized (name : String) (slots : List Slot) : Form :=
  ⟨name, name, name, false, slots⟩

/-- A form for which the operand size matters but not to the name. -/
def sized (name : String) (slots : List Slot) : Form :=
  ⟨name, name, name, true, slots⟩

/-- A form with a name for each operand size. -/
def sizedNames (name16 name32 name64 : String) (slots : List Slot) : Form :=
  ⟨name16, name32, name64, true, slots⟩

def Form.name (form : Form) (operandSize : Nat) : String :=
  match operandSize with
  | 16 => form.name16
  | 32 => form.name32
  | _ => form.name64

def arithmeticNames : List String :=
  ["ADD", "OR", "ADC", "SBB", "AND", "SUB", "XOR", "CMP"]

def conditionNames : List String :=
  ["O", "NO", "B", "AE", "E", "NE", "BE", "A", "S", "NS", "P", "NP", "L", "GE", "LE", "G"]

/-- The names of the shifts, by register field. -/
def shiftNames : List (Option String) :=
  [some "ROL", some "ROR", some "RCL", some "RCR", some "SHL", some "SHR", none, some "SAR"]

/-- The name of a condition with a stem before it. -/
def conditional (stem : String) (operation : Nat) : String :=
  stem ++ (conditionNames[operation % 16]?.getD "")

def arithmeticGroup (form : String → Form) : Row :=
  .grouped (arithmeticNames.map fun name => some (form name))

def shiftGroup (form : String → Form) : Row :=
  .grouped (shiftNames.map fun name? => name?.map form)

def notIn64 (mode : Nat) (form : Form) : Row :=
  if mode == 64 then .absent else .plain form

/-- The rows of the arithmetic operations below `40`. -/
def arithmeticRow (operation : Nat) : Row :=
  let name := arithmeticNames[operation / 8]?.getD ""
  match operation % 8 with
  | 0 => .addressed (unsized name [.addressed 8, .register 8])
  | 1 => .addressed (sized name [.addressedSized, .registerSized])
  | 2 => .addressed (unsized name [.register 8, .addressed 8])
  | 3 => .addressed (sized name [.registerSized, .addressedSized])
  | 4 => .plain (unsized name [.fixed .al, .unsigned8])
  | _ => .plain (sized name [.accumulator, .immediate])

/-- The rows between the arithmetic operations below `40`. -/
def pushSegmentRow (mode operation : Nat) : Row :=
  let push (encoding : Nat) : Row := notIn64 mode (unsized "PUSH" [.fixed (.segment encoding)])
  let pop (encoding : Nat) : Row := notIn64 mode (unsized "POP" [.fixed (.segment encoding)])
  match operation with
  | 0x06 => push 0
  | 0x07 => pop 0
  | 0x0e => push 1
  | 0x16 => push 2
  | 0x17 => pop 2
  | 0x1e => push 3
  | 0x1f => pop 3
  | 0x27 => notIn64 mode (unsized "DAA" [])
  | 0x2f => notIn64 mode (unsized "DAS" [])
  | 0x37 => notIn64 mode (unsized "AAA" [])
  | 0x3f => notIn64 mode (unsized "AAS" [])
  | _ => .absent

def row60 (mode operation : Nat) : Row :=
  match operation with
  | 0x60 => notIn64 mode (sizedNames "PUSHA" "PUSHAD" "" [])
  | 0x61 => notIn64 mode (sizedNames "POPA" "POPAD" "" [])
  | 0x62 =>
      if mode == 64 then .absent
      else .addressed (sized "BOUND" [.registerSized, .memory])
  | 0x63 =>
      if mode == 64 then .addressed (sized "MOVSXD" [.registerSized, .addressed 32])
      else .addressed (unsized "ARPL" [.addressed 16, .register 16])
  | 0x68 => .plain (sized "PUSH" [.immediate])
  | 0x69 => .addressed (sized "IMUL" [.registerSized, .addressedSized, .immediate])
  | 0x6a => .plain (unsized "PUSH" [.signed8])
  | 0x6b => .addressed (sized "IMUL" [.registerSized, .addressedSized, .signed8])
  | 0x6c => .plain (unsized "INSB" [])
  | 0x6d => .plain (sizedNames "INSW" "INSD" "INSD" [])
  | 0x6e => .plain (unsized "OUTSB" [])
  | 0x6f => .plain (sizedNames "OUTSW" "OUTSD" "OUTSD" [])
  | _ => .absent

def row80 (operation : Nat) : Row :=
  match operation with
  | 0x80 => arithmeticGroup fun name => unsized name [.addressed 8, .unsigned8]
  | 0x81 => arithmeticGroup fun name => sized name [.addressedSized, .immediate]
  | 0x83 => arithmeticGroup fun name => sized name [.addressedSized, .signed8]
  | 0x84 => .addressed (unsized "TEST" [.addressed 8, .register 8])
  | 0x85 => .addressed (sized "TEST" [.addressedSized, .registerSized])
  | 0x86 => .addressed (unsized "XCHG" [.addressed 8, .register 8])
  | 0x87 => .addressed (sized "XCHG" [.addressedSized, .registerSized])
  | 0x88 => .addressed (unsized "MOV" [.addressed 8, .register 8])
  | 0x89 => .addressed (sized "MOV" [.addressedSized, .registerSized])
  | 0x8a => .addressed (unsized "MOV" [.register 8, .addressed 8])
  | 0x8b => .addressed (sized "MOV" [.registerSized, .addressedSized])
  | 0x8c => .addressed (sized "MOV" [.addressedSized, .segment])
  | 0x8d => .addressed (sized "LEA" [.registerSized, .memory])
  | 0x8e => .addressed (sized "MOV" [.segment, .addressedSized])
  | 0x8f => .grouped [some (sized "POP" [.addressedStack])]
  | _ => .absent

def row90 (operation : Nat) : Row :=
  if operation < 0x98 then .plain (sized "XCHG" [.codedSized, .accumulator])
  else
    match operation with
    | 0x98 => .plain (sizedNames "CBW" "CWDE" "CDQE" [])
    | 0x99 => .plain (sizedNames "CWD" "CDQ" "CQO" [])
    | 0x9b => .plain (unsized "FWAIT" [])
    | 0x9c => .plain (sizedNames "PUSHF" "PUSHFD" "PUSHFQ" [])
    | 0x9d => .plain (sizedNames "POPF" "POPFD" "POPFQ" [])
    | 0x9e => .plain (unsized "SAHF" [])
    | 0x9f => .plain (unsized "LAHF" [])
    | _ => .absent

def rowA0 (operation : Nat) : Row :=
  match operation with
  | 0xa0 => .plain (unsized "MOV" [.fixed .al, .direct])
  | 0xa1 => .plain (sized "MOV" [.accumulator, .direct])
  | 0xa2 => .plain (unsized "MOV" [.direct, .fixed .al])
  | 0xa3 => .plain (sized "MOV" [.direct, .accumulator])
  | 0xa4 => .plain (unsized "MOVSB" [])
  | 0xa5 => .plain (sizedNames "MOVSW" "MOVSD" "MOVSQ" [])
  | 0xa6 => .plain (unsized "CMPSB" [])
  | 0xa7 => .plain (sizedNames "CMPSW" "CMPSD" "CMPSQ" [])
  | 0xa8 => .plain (unsized "TEST" [.fixed .al, .unsigned8])
  | 0xa9 => .plain (sized "TEST" [.accumulator, .immediate])
  | 0xaa => .plain (unsized "STOSB" [])
  | 0xab => .plain (sizedNames "STOSW" "STOSD" "STOSQ" [])
  | 0xac => .plain (unsized "LODSB" [])
  | 0xad => .plain (sizedNames "LODSW" "LODSD" "LODSQ" [])
  | 0xae => .plain (unsized "SCASB" [])
  | 0xaf => .plain (sizedNames "SCASW" "SCASD" "SCASQ" [])
  | _ => .absent

def rowC0 (mode operation : Nat) : Row :=
  match operation with
  | 0xc0 => shiftGroup fun name => unsized name [.addressed 8, .unsigned8]
  | 0xc1 => shiftGroup fun name => sized name [.addressedSized, .unsigned8]
  | 0xc2 => .plain (unsized "RET" [.unsigned16])
  | 0xc3 => .plain (unsized "RET" [])
  | 0xc4 =>
      if mode == 64 then .absent else .addressed (sized "LES" [.registerSized, .memory])
  | 0xc5 =>
      if mode == 64 then .absent else .addressed (sized "LDS" [.registerSized, .memory])
  | 0xc6 => .grouped [some (unsized "MOV" [.addressed 8, .unsigned8])]
  | 0xc7 => .grouped [some (sized "MOV" [.addressedSized, .immediate])]
  | 0xc8 => .plain (unsized "ENTER" [.unsigned16, .unsigned8])
  | 0xc9 => .plain (sized "LEAVE" [])
  | 0xca => .plain (unsized "LRET" [.unsigned16])
  | 0xcb => .plain (unsized "LRET" [])
  | 0xcc => .plain (unsized "INT" [.constant 3])
  | 0xcd => .plain (unsized "INT" [.unsigned8])
  | 0xce => notIn64 mode (unsized "INTO" [])
  | 0xcf => .plain (sizedNames "IRET" "IRETD" "IRETQ" [])
  | _ => .absent

/-- The rows from `D0` to `DF`.  Of the floating-point operations only the
load of a stack register is known. -/
def rowD0 (mode operation : Nat) : Row :=
  match operation with
  | 0xd0 => shiftGroup fun name => unsized name [.addressed 8, .constant 1]
  | 0xd1 => shiftGroup fun name => sized name [.addressedSized, .constant 1]
  | 0xd2 => shiftGroup fun name => unsized name [.addressed 8, .fixed .cl]
  | 0xd3 => shiftGroup fun name => sized name [.addressedSized, .fixed .cl]
  | 0xd4 => notIn64 mode (unsized "AAM" [.unsigned8])
  | 0xd5 => notIn64 mode (unsized "AAD" [.unsigned8])
  | 0xd7 => .plain (unsized "XLATB" [])
  | 0xd9 => .grouped [some (unsized "FLD" [.stackRegister])]
  | _ => .absent

def rowE0 (addressSize operation : Nat) : Row :=
  match operation with
  | 0xe0 => .plain (unsized "LOOPNE" [.near8])
  | 0xe1 => .plain (unsized "LOOPE" [.near8])
  | 0xe2 => .plain (unsized "LOOP" [.near8])
  | 0xe3 =>
      let name := if addressSize == 16 then "JCXZ" else if addressSize == 32 then "JECXZ"
        else "JRCXZ"
      .plain (unsized name [.near8])
  | 0xe4 => .plain (unsized "IN" [.fixed .al, .unsigned8])
  | 0xe5 => .plain (sized "IN" [.accumulator, .unsigned8])
  | 0xe6 => .plain (unsized "OUT" [.unsigned8, .fixed .al])
  | 0xe7 => .plain (sized "OUT" [.unsigned8, .accumulator])
  | 0xe8 => .plain (sized "CALL" [.near])
  | 0xe9 => .plain (sized "JMP" [.near])
  | 0xeb => .plain (unsized "JMP" [.near8])
  | 0xec => .plain (unsized "IN" [.fixed .al, .fixed .dx])
  | 0xed => .plain (sized "IN" [.accumulator, .fixed .dx])
  | 0xee => .plain (unsized "OUT" [.fixed .dx, .fixed .al])
  | 0xef => .plain (sized "OUT" [.fixed .dx, .accumulator])
  | _ => .absent

def rowF0 (operation : Nat) : Row :=
  let unary (test : List Slot) (slot : Slot) (form : String → List Slot → Form) : Row :=
    .grouped [some (form "TEST" test), none, some (form "NOT" [slot]), some (form "NEG" [slot]),
      some (form "MUL" [slot]), some (form "IMUL" [slot]), some (form "DIV" [slot]),
      some (form "IDIV" [slot])]
  match operation with
  | 0xf1 => .plain (unsized "ICEBP" [])
  | 0xf4 => .plain (unsized "HLT" [])
  | 0xf5 => .plain (unsized "CMC" [])
  | 0xf6 => unary [.addressed 8, .unsigned8] (.addressed 8) unsized
  | 0xf7 => unary [.addressedSized, .immediate] .addressedSized sized
  | 0xf8 => .plain (unsized "CLC" [])
  | 0xf9 => .plain (unsized "STC" [])
  | 0xfa => .plain (unsized "CLI" [])
  | 0xfb => .plain (unsized "STI" [])
  | 0xfc => .plain (unsized "CLD" [])
  | 0xfd => .plain (unsized "STD" [])
  | 0xfe =>
      .grouped [some (unsized "INC" [.addressed 8]), some (unsized "DEC" [.addressed 8])]
  | 0xff =>
      .grouped [some (sized "INC" [.addressedSized]), some (sized "DEC" [.addressedSized]),
        some (sized "CALL" [.addressedTarget]), some (sized "LCALL" [.memory]),
        some (sized "JMP" [.addressedTarget]), some (sized "LJMP" [.memory]),
        some (sized "PUSH" [.addressedStack])]
  | _ => .absent

def rowOne (leading : Leading) (operation : Nat) : Row :=
  let mode := leading.mode
  if operation < 0x40 then
    if operation % 8 < 6 then arithmeticRow operation else pushSegmentRow mode operation
  else if operation < 0x48 then notIn64 mode (sized "INC" [.codedSized])
  else if operation < 0x50 then notIn64 mode (sized "DEC" [.codedSized])
  else if operation < 0x58 then .plain (sized "PUSH" [.codedStack])
  else if operation < 0x60 then .plain (sized "POP" [.codedStack])
  else if operation < 0x70 then row60 mode operation
  else if operation < 0x80 then .plain (unsized (conditional "J" operation) [.near8])
  else if operation < 0x90 then row80 operation
  else if operation < 0xa0 then row90 operation
  else if operation < 0xb0 then rowA0 operation
  else if operation < 0xb8 then .plain (unsized "MOV" [.coded8, .unsigned8])
  else if operation < 0xc0 then .plain (sized "MOV" [.codedSized, .immediateFull])
  else if operation < 0xd0 then rowC0 mode operation
  else if operation < 0xe0 then rowD0 mode operation
  else if operation < 0xf0 then rowE0 leading.addressSize operation
  else rowF0 operation

/-- A row of vector operations on whole registers of 128 bits, with the name
of each leading byte. -/
def vectorRow (bare size repeatNot repeatWhile : String) (slots : List Slot) : Row :=
  let form (name : String) : Option Form :=
    if name.isEmpty then none else some (unsized name slots)
  .selected (form bare) (form size) (form repeatNot) (form repeatWhile)

/-- The rows of operations of two bytes that stand alone. -/
def rowTwoSingle (mode operation : Nat) : Row :=
  match operation with
  | 0x05 => if mode == 64 then .plain (unsized "SYSCALL" []) else .absent
  | 0x06 => .plain (unsized "CLTS" [])
  | 0x07 => if mode == 64 then .plain (unsized "SYSRET" []) else .absent
  | 0x08 => .plain (unsized "INVD" [])
  | 0x09 => .plain (unsized "WBINVD" [])
  | 0x0b => .plain (unsized "UD2" [])
  | 0x10 => vectorRow "MOVUPS" "MOVUPD" "MOVSD_XMM" "MOVSS" [.xmm, .xmmAddressed]
  | 0x11 => vectorRow "MOVUPS" "MOVUPD" "MOVSD_XMM" "MOVSS" [.xmmAddressed, .xmm]
  | 0x1f => .grouped [some (sized "NOP" [.addressedSized])]
  | 0x20 => .addressed (unsized "MOV" [.wholeGeneral, .control])
  | 0x21 => .addressed (unsized "MOV" [.wholeGeneral, .debug])
  | 0x22 => .addressed (unsized "MOV" [.control, .wholeGeneral])
  | 0x23 => .addressed (unsized "MOV" [.debug, .wholeGeneral])
  | 0x28 => vectorRow "MOVAPS" "MOVAPD" "" "" [.xmm, .xmmAddressed]
  | 0x29 => vectorRow "MOVAPS" "MOVAPD" "" "" [.xmmAddressed, .xmm]
  | 0x30 => .plain (unsized "WRMSR" [])
  | 0x31 => .plain (unsized "RDTSC" [])
  | 0x32 => .plain (unsized "RDMSR" [])
  | 0x33 => .plain (unsized "RDPMC" [])
  | 0x34 => .plain (unsized "SYSENTER" [])
  | 0x35 => .plain (unsized "SYSEXIT" [])
  | 0x51 => vectorRow "SQRTPS" "SQRTPD" "SQRTSD" "SQRTSS" [.xmm, .xmmAddressed]
  | 0x54 => vectorRow "ANDPS" "ANDPD" "" "" [.xmm, .xmmAddressed]
  | 0x55 => vectorRow "ANDNPS" "ANDNPD" "" "" [.xmm, .xmmAddressed]
  | 0x56 => vectorRow "ORPS" "ORPD" "" "" [.xmm, .xmmAddressed]
  | 0x57 => vectorRow "XORPS" "XORPD" "" "" [.xmm, .xmmAddressed]
  | 0x58 => vectorRow "ADDPS" "ADDPD" "ADDSD" "ADDSS" [.xmm, .xmmAddressed]
  | 0x59 => vectorRow "MULPS" "MULPD" "MULSD" "MULSS" [.xmm, .xmmAddressed]
  | 0x5c => vectorRow "SUBPS" "SUBPD" "SUBSD" "SUBSS" [.xmm, .xmmAddressed]
  | 0x5d => vectorRow "MINPS" "MINPD" "MINSD" "MINSS" [.xmm, .xmmAddressed]
  | 0x5e => vectorRow "DIVPS" "DIVPD" "DIVSD" "DIVSS" [.xmm, .xmmAddressed]
  | 0x5f => vectorRow "MAXPS" "MAXPD" "MAXSD" "MAXSS" [.xmm, .xmmAddressed]
  | 0xa0 => .plain (unsized "PUSH" [.fixed (.segment 4)])
  | 0xa1 => .plain (unsized "POP" [.fixed (.segment 4)])
  | 0xa2 => .plain (unsized "CPUID" [])
  | 0xa3 => .addressed (sized "BT" [.addressedSized, .registerSized])
  | 0xa4 => .addressed (sized "SHLD" [.addressedSized, .registerSized, .unsigned8])
  | 0xa5 => .addressed (sized "SHLD" [.addressedSized, .registerSized, .fixed .cl])
  | 0xa8 => .plain (unsized "PUSH" [.fixed (.segment 5)])
  | 0xa9 => .plain (unsized "POP" [.fixed (.segment 5)])
  | 0xaa => .plain (unsized "RSM" [])
  | 0xab => .addressed (sized "BTS" [.addressedSized, .registerSized])
  | 0xac => .addressed (sized "SHRD" [.addressedSized, .registerSized, .unsigned8])
  | 0xad => .addressed (sized "SHRD" [.addressedSized, .registerSized, .fixed .cl])
  | 0xaf => .addressed (sized "IMUL" [.registerSized, .addressedSized])
  | 0xb0 => .addressed (unsized "CMPXCHG" [.addressed 8, .register 8])
  | 0xb1 => .addressed (sized "CMPXCHG" [.addressedSized, .registerSized])
  | 0xb2 => .addressed (sized "LSS" [.registerSized, .memory])
  | 0xb3 => .addressed (sized "BTR" [.addressedSized, .registerSized])
  | 0xb4 => .addressed (sized "LFS" [.registerSized, .memory])
  | 0xb5 => .addressed (sized "LGS" [.registerSized, .memory])
  | 0xb6 => .addressed (sized "MOVZX" [.registerSized, .addressed 8])
  | 0xb7 => .addressed (sized "MOVZX" [.registerSized, .addressed 16])
  | 0xb8 =>
      .selected none none none (some (sized "POPCNT" [.registerSized, .addressedSized]))
  | 0xba =>
      let bit (name : String) : Option Form := some (sized name [.addressedSized, .unsigned8])
      .grouped [none, none, none, none, bit "BT", bit "BTS", bit "BTR", bit "BTC"]
  | 0xbb => .addressed (sized "BTC" [.addressedSized, .registerSized])
  | 0xbc =>
      let form (name : String) : Option Form :=
        some (sized name [.registerSized, .addressedSized])
      .selected (form "BSF") (form "BSF") (form "BSF") (form "TZCNT")
  | 0xbd =>
      let form (name : String) : Option Form :=
        some (sized name [.registerSized, .addressedSized])
      .selected (form "BSR") (form "BSR") (form "BSR") (form "LZCNT")
  | 0xbe => .addressed (sized "MOVSX" [.registerSized, .addressed 8])
  | 0xbf => .addressed (sized "MOVSX" [.registerSized, .addressed 16])
  | 0xc0 => .addressed (unsized "XADD" [.addressed 8, .register 8])
  | 0xc1 => .addressed (sized "XADD" [.addressedSized, .registerSized])
  | 0xc7 =>
      .grouped [none, some (sizedNames "CMPXCHG8B" "CMPXCHG8B" "CMPXCHG16B" [.memory])]
  | 0xef =>
      .selected (some (unsized "PXOR" [.mmx, .mmxAddressed]))
        (some (unsized "PXOR" [.xmm, .xmmAddressed])) none none
  | _ => .absent

/-- The row of an operation of two bytes, the first of which is `0F`. -/
def rowTwo (mode operation : Nat) : Row :=
  if 0x40 ≤ operation && operation < 0x50 then
    .addressed (sized (conditional "CMOV" operation) [.registerSized, .addressedSized])
  else if 0x80 ≤ operation && operation < 0x90 then
    .plain (sized (conditional "J" operation) [.near])
  else if 0x90 ≤ operation && operation < 0xa0 then
    .addressed (unsized (conditional "SET" operation) [.addressed 8])
  else if 0xc8 ≤ operation && operation < 0xd0 then .plain (sized "BSWAP" [.codedSized])
  else rowTwoSingle mode operation

end Machine

end AsmListing
