import Mathlib.Algebra.Group.Int.Defs
import Mathlib.Algebra.Group.Nat.Defs
import ValRpi.Lib.Blocks

/-!
# EDID blobs

`Edid` of `src/val/edid.h`: an object that owns a copy of the bytes of an EDID blob; and
`DrmConnector::getEdid` of `src/val/connector.cpp`, which returns one by value.

A block of bytes is alive from `new` to `delete`. What uses another one is a fault, and
so is what reads beyond the end of a block.
-/

namespace ValRpi

/-- The memory of `new unsigned char[]`. -/
abbrev Memory := Blocks (List UInt8)

/-- Why a program that uses `Edid` ends without a result. A use of an object that is not
    there, which no program of the language has, is one more such fault. -/
inductive EdidFault
  | nullDeref
  | outOfBounds
  | deadBlock
  | badArrayNewLength
  | lifetime
  | fatalException (message : String)
  deriving DecidableEq, Repr

/-- `drmModePropertyBlobRes`, whose length is an `uint32_t`. -/
structure PropertyBlob where
  data : List UInt8
  length_lt : data.length < 2 ^ 32

/-- The length of a blob, passed as an `int`. -/
def PropertyBlob.size (blob : PropertyBlob) : ℤ := (Int32.ofNat blob.data.length).toInt

/-- `delete[]`, unless the pointer is null. -/
def Memory.delete (m : Memory) : Option ℕ → Except EdidFault Memory
  | none => .ok m
  | some p => match m.free p with
    | none => .error .deadBlock
    | some m => .ok m

/-- `new unsigned char[size]()`, filled by `memcpy`. -/
def Memory.newBytes (m : Memory) (edid : Option (List UInt8)) (size : ℤ) :
    Except EdidFault (ℕ × Memory) :=
  if size < 0 then .error .badArrayNewLength
  else if size = 0 then .ok (m.alloc [])
  else match edid with
    | none => .error .nullDeref
    | some bytes =>
      if bytes.length < size then .error .outOfBounds
      else .ok (m.alloc (bytes.take size.toNat))

/-- `Edid`; the fields that nothing reads are left out. -/
structure Edid where
  mBlob : Option ℕ := none
  mEdidLen : ℤ := 0
  deriving DecidableEq, Repr

namespace Edid

/-- What `mBlob` points to. -/
def blob (e : Edid) (m : Memory) : Except EdidFault (Option (List UInt8)) :=
  match e.mBlob with
  | none => .ok none
  | some p => match m.read p with
    | none => .error .deadBlock
    | some bytes => .ok (some bytes)

/-- `Edid(unsigned char *edid, int size)`. -/
def new (edid : Option (List UInt8)) (size : ℤ) (m : Memory) :
    Except EdidFault (Edid × Memory) := do
  let (mBlob, m) ← m.newBytes edid size
  pure (⟨some mBlob, size⟩, m)

/-- `~Edid`. -/
def destroy (e : Edid) (m : Memory) : Except EdidFault Memory := m.delete e.mBlob

/-- `Edid(const Edid &other)`. -/
def copy (other : Edid) (m : Memory) : Except EdidFault (Edid × Memory) := do
  let edid ← other.blob m
  -- this is another object, which ends with the statement
  let (temporary, m) ← new edid other.mEdidLen m
  let m ← temporary.destroy m
  pure ({}, m)

/-- `operator=`, of another object. -/
def assign (e other : Edid) (m : Memory) : Except EdidFault (Edid × Memory) := do
  let m ← m.delete e.mBlob
  let edid ← other.blob m
  let (mBlob, m) ← m.newBytes edid other.mEdidLen
  pure (⟨some mBlob, other.mEdidLen⟩, m)

/-- `*(edid.mBlob + j)`. -/
def byteAt (e : Edid) (m : Memory) (j : ℕ) : Except EdidFault UInt8 := do
  match ← e.blob m with
  | none => .error .nullDeref
  | some bytes => match bytes[j]? with
    | none => .error .outOfBounds
    | some b => .ok b

/-- What follows the byte at `j`: every eighth byte ends a line. -/
def lineEnd (j : ℕ) : List UInt8 := if (j + 1) % 8 = 0 then [10] else []

/-- The loop of `operator<<` from `j` on, with so many bytes to go. -/
def printFrom (e : Edid) (m : Memory) (j : ℕ) : ℕ → Except EdidFault (List UInt8)
  | 0 => .ok []
  | n + 1 => do
    let b ← e.byteAt m j
    let rest ← e.printFrom m (j + 1) n
    pure (b :: (lineEnd j ++ rest))

/-- `operator<<`. -/
def print (e : Edid) (m : Memory) : Except EdidFault (List UInt8) :=
  e.printFrom m 0 e.mEdidLen.toNat

/-! ## Programs -/

/-- What a program does with `Edid`s, each of which has a name. -/
inductive Operation (V : Type)
  | blob (x : V) (blob : PropertyBlob)
  | default (x : V)
  | copy (x y : V)
  | assign (x y : V)
  | destroy (x : V)

/-- The objects that are there, and the memory. -/
structure State (V : Type) where
  objects : V → Option Edid
  memory : Memory

variable {V : Type}

namespace State

/-- An object that is there. -/
def object (s : State V) (x : V) : Except EdidFault Edid :=
  match s.objects x with
  | none => .error .lifetime
  | some e => .ok e

/-- No object is there. -/
def start : State V := ⟨fun _ => none, .empty⟩

variable [DecidableEq V]

/-- The state with a new object. -/
def construct (s : State V) (x : V) (made : Memory → Except EdidFault (Edid × Memory)) :
    Except EdidFault (State V) :=
  match s.objects x with
  | none => do
    let (e, m) ← made s.memory
    pure ⟨Function.update s.objects x (some e), m⟩
  | some _ => .error .lifetime

/-- An operation on the objects. -/
def exec (s : State V) : Operation V → Except EdidFault (State V)
  | .blob x blob => s.construct x (Edid.new (some blob.data) blob.size)
  | .default x => s.construct x fun m => pure ({}, m)
  | .copy x y => do
    let other ← s.object y
    s.construct x other.copy
  | .assign x y => do
    let e ← s.object x
    let other ← s.object y
    if x = y then pure s
    else
      let (e, m) ← e.assign other s.memory
      pure ⟨Function.update s.objects x (some e), m⟩
  | .destroy x => do
    let e ← s.object x
    let m ← e.destroy s.memory
    pure ⟨Function.update s.objects x none, m⟩

/-- A step of a program. -/
def Step (s : State V) (op : Operation V) (s' : State V) : Prop := s.exec op = .ok s'

end State

/-! ## Objects passed by value -/

/-- An object is passed on by value: it is copied and destroyed, unless the compiler leaves
    this out and makes the object in its new place. -/
def passOn (elided : Bool) (e : Edid) (m : Memory) : Except EdidFault (Edid × Memory) :=
  if elided then pure (e, m)
  else do
    let (passed, m) ← e.copy m
    let m ← e.destroy m
    pure (passed, m)

end Edid

/-- `drmModePropertyRes`, of which `getEdid` reads the name and the flags. -/
structure PropertyRes where
  name : String
  flags : ℕ
  deriving DecidableEq, Repr

/-- `DRM_MODE_PROP_BLOB` -/
def drmModePropBlob : ℕ := 1 <<< 4

/-- A property of a connector: what `drmModeGetProperty` answers, its value, and what
    `drmModeGetPropertyBlob` answers for the value. -/
structure ConnectorProperty where
  property : Option PropertyRes
  value : ℕ
  blob : Option PropertyBlob

/-- The property that `getEdid` looks for. -/
def ConnectorProperty.isEdid (prop : ConnectorProperty) : Bool :=
  match prop.property with
  | none => false
  | some props => props.name = "EDID" ∧ props.flags &&& drmModePropBlob ≠ 0

namespace DrmConnector

/-- `getEdid`, of a connector with some properties. The compiler may leave out the copy
    that initializes `edid`, and that of the result. -/
def getEdid (elidedEdid elidedResult : Bool) (m : Memory) :
    List ConnectorProperty → Except EdidFault (Edid × Memory)
  | [] => Edid.passOn elidedResult {} m
  | prop :: rest =>
    if prop.isEdid then
      match prop.blob with
      | some blob => do
        let (temporary, m) ← Edid.new (some blob.data) blob.size m
        let (edid, m) ← temporary.passOn elidedEdid m
        edid.passOn elidedResult m
      | none => .error (.fatalException s!"error getting edid blob {prop.value}")
    else getEdid elidedEdid elidedResult m rest

end DrmConnector

end ValRpi
