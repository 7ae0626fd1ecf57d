import Mathlib.Algebra.Group.Int.Defs
import Mathlib.Algebra.Group.Nat.Defs
import ValRpi.Formats
import ValRpi.Lib.Leases
import ValRpi.Lib.Stores

/-!
# Mapped buffers

`bo_map` and `bo_unmap` of `src/val/buffer.cpp`: a buffer object in the memory of the
program, which may then store to it. The kernel is a parameter again (`Mapper`), of
which only the calls for mappings matter here. The bytes of the memory are those that
the log tells (`storedByte`).

All pointers are addresses, the null pointer being 0.
-/

namespace ValRpi

/-- A result of a call that failed. -/
abbrev Failure := {ret : ℤ // ret ≠ 0}

/-- What is logged: the calls, with their outcome, and the stores. -/
inductive MemEvent
  | mapDumb (fd : ℤ) (handle : ℕ) (offset : Option ℕ)
  | mmap (fd : ℤ) (size offset : ℕ) (ptr : Option ℕ)
  | munmap (ptr size : ℕ)
  | destroyDumb (fd : ℤ) (handle : ℕ)
  | store (addr : ℕ) (byte : UInt8)
  deriving DecidableEq, Repr

/-- The kernel, as far as mappings go: `DRM_IOCTL_MODE_MAP_DUMB` returns an offset, and
    `mmap` an address. -/
structure Mapper where
  mapDumb : List MemEvent → ℤ → ℕ → Except Failure ℕ
  mmap : List MemEvent → ℤ → ℕ → ℕ → Option ℕ

/-- What the program does with mapped buffers. -/
abbrev Paint := Prog Mapper MemEvent PaintFault

def drmIoctlMapDumb (fd : ℤ) (handle : ℕ) : Paint (Except Failure ℕ) :=
  .call (fun m l => m.mapDumb l fd handle) fun r => .mapDumb fd handle r.toOption

def drmMmap (fd : ℤ) (size offset : ℕ) : Paint (Option ℕ) :=
  .call (fun m l => m.mmap l fd size offset) fun ptr => .mmap fd size offset ptr

def drmMunmap (ptr size : ℕ) : Paint Unit := .call (fun _ _ => ()) fun _ => .munmap ptr size

/-- `struct bo` with its field `ptr`. -/
structure MappedBo where
  bo : Bo
  ptr : ℕ := 0
  deriving DecidableEq, Repr

/-- `bo_map`: the result where it is not 0, or else the address of the mapping, which
    is in `ptr` as well. -/
def boMap (bo : MappedBo) : Paint (Except Failure ℕ × MappedBo) := do
  match ← drmIoctlMapDumb bo.bo.fd bo.bo.handle with
  | .error ret => pure (.error ret, bo)
  | .ok offset =>
    match ← drmMmap bo.bo.fd bo.bo.size offset with
    -- `-EINVAL`
    | none => pure (.error ⟨-22, by decide⟩, bo)
    | some map => pure (.ok map, { bo with ptr := map })

/-- `bo_unmap`. -/
def boUnmap (bo : MappedBo) : Paint MappedBo :=
  if bo.ptr = 0 then
    pure bo
  else do
    drmMunmap bo.ptr bo.bo.size
    pure { bo with ptr := 0 }

/-- What `boMap` can do: the offset is refused, the mapping is, or the buffer is mapped. -/
inductive Mapped (m : Mapper) (l : List MemEvent) (bo : MappedBo) :
    Except Failure ℕ × MappedBo → List MemEvent → Prop
  | refused {ret : Failure} : m.mapDumb l bo.bo.fd bo.bo.handle = .error ret →
      Mapped m l bo (.error ret, bo) (.mapDumb bo.bo.fd bo.bo.handle none :: l)
  | failed {offset : ℕ} : m.mapDumb l bo.bo.fd bo.bo.handle = .ok offset →
      m.mmap (.mapDumb bo.bo.fd bo.bo.handle (some offset) :: l) bo.bo.fd bo.bo.size offset = none →
      Mapped m l bo (.error ⟨-22, by decide⟩, bo) (.mmap bo.bo.fd bo.bo.size offset none ::
        .mapDumb bo.bo.fd bo.bo.handle (some offset) :: l)
  | mapped {offset map : ℕ} : m.mapDumb l bo.bo.fd bo.bo.handle = .ok offset →
      m.mmap (.mapDumb bo.bo.fd bo.bo.handle (some offset) :: l) bo.bo.fd bo.bo.size offset =
        some map →
      Mapped m l bo (.ok map, { bo with ptr := map })
        (.mmap bo.bo.fd bo.bo.size offset (some map) ::
          .mapDumb bo.bo.fd bo.bo.handle (some offset) :: l)

theorem exists_boMap (m : Mapper) (l : List MemEvent) (bo : MappedBo) :
    ∃ r l', boMap bo m l = .ok (r, l') ∧ Mapped m l bo r l' := by
  cases hoffset : m.mapDumb l bo.bo.fd bo.bo.handle with
  | error ret =>
    refine ⟨_, _, ?_, .refused hoffset⟩
    simp only [boMap, drmIoctlMapDumb, bind, Prog.call, hoffset]
    rfl
  | ok offset =>
    cases hmap : m.mmap (.mapDumb bo.bo.fd bo.bo.handle (some offset) :: l) bo.bo.fd bo.bo.size
        offset with
    | none =>
      refine ⟨_, _, ?_, .failed hoffset hmap⟩
      simp only [boMap, drmIoctlMapDumb, drmMmap, bind, Prog.call, hoffset, Except.toOption, hmap]
      rfl
    | some map =>
      refine ⟨_, _, ?_, .mapped hoffset hmap⟩
      simp only [boMap, drmIoctlMapDumb, drmMmap, bind, Prog.call, hoffset, Except.toOption, hmap]
      rfl

theorem mapped_of_boMap {m : Mapper} {l l' : List MemEvent} {bo : MappedBo}
    {r : Except Failure ℕ × MappedBo} (h : boMap bo m l = .ok (r, l')) : Mapped m l bo r l' := by
  obtain ⟨r', l'', heq, hmapped⟩ := exists_boMap m l bo
  rw [h, Except.ok.injEq, Prod.mk.injEq] at heq
  obtain ⟨rfl, rfl⟩ := heq
  exact hmapped

/-- A buffer that was mapped has the address in `ptr`. -/
theorem eq_of_boMap {m : Mapper} {l l' : List MemEvent} {bo bo' : MappedBo} {map : ℕ}
    (h : boMap bo m l = .ok ((.ok map, bo'), l')) : bo' = { bo with ptr := map } := by
  cases mapped_of_boMap h
  rfl

/-! ## Regions -/

/-- A part of the memory. -/
@[ext]
structure Region where
  addr : ℕ
  size : ℕ
  deriving DecidableEq, Repr

namespace Region

def Has (r : Region) (a : ℕ) : Prop := r.addr ≤ a ∧ a < r.addr + r.size

def Apart (r r' : Region) : Prop := ∀ a, r.Has a → ¬ r'.Has a

end Region

/-- The region that a call maps. -/
def mapsRegion : MemEvent → Option Region
  | .mmap _ size _ (some ptr) => some ⟨ptr, size⟩
  | _ => none

/-- The region that a call unmaps. -/
def unmapsRegion : MemEvent → Option Region
  | .munmap ptr size => some ⟨ptr, size⟩
  | _ => none

/-- What is mapped. -/
abbrev mapped (l : List MemEvent) : List Region := Leases.held mapsRegion unmapsRegion l

/-- `mmap` chooses memory that is not mapped, and not at the null pointer. -/
structure Mapper.Fresh (m : Mapper) : Prop where
  ne_zero : ∀ l fd size offset ptr, m.mmap l fd size offset = some ptr → ptr ≠ 0
  apart : ∀ l fd size offset ptr, m.mmap l fd size offset = some ptr →
    ∀ r ∈ mapped l, Region.Apart ⟨ptr, size⟩ r

/-- A kernel that maps all buffers, behind what is mapped. -/
def Mapper.willing : Mapper where
  mapDumb _ _ _ := .ok 0
  mmap l _ _ _ := some ((mapped l).foldr (fun r n => max (r.addr + r.size) n) 4096)

theorem Mapper.willing_fresh : willing.Fresh := by
  have hle : ∀ rs : List Region, 4096 ≤ rs.foldr (fun r n => max (r.addr + r.size) n) 4096 ∧
      ∀ r ∈ rs, r.addr + r.size ≤ rs.foldr (fun r n => max (r.addr + r.size) n) 4096 := by
    intro rs
    induction rs with
    | nil => simp
    | cons r rs ih =>
      rw [List.foldr_cons, List.forall_mem_cons]
      exact ⟨ih.1.trans (le_max_right _ _), le_max_left _ _,
        fun r' hr' => (ih.2 r' hr').trans (le_max_right _ _)⟩
  refine ⟨fun l fd size offset ptr h => ?_, fun l fd size offset ptr h r hr a ha ha' => ?_⟩
  · cases h
    have h4096 := (hle (mapped l)).1
    omega
  · cases h
    have htop := (hle (mapped l)).2 r hr
    obtain ⟨hlo, _⟩ := ha
    obtain ⟨_, hhi⟩ := ha'
    dsimp only at hlo
    omega

/-! ## Stores -/

/-- What an event stores. -/
def storedByte : MemEvent → Option (ℕ × UInt8)
  | .store addr byte => some (addr, byte)
  | _ => none

def MemEvent.IsStore (e : MemEvent) : Prop := ∃ addr byte, e = .store addr byte

/-- The byte that was stored last at an address. -/
abbrev byteAt (log : List MemEvent) (addr : ℕ) : Option UInt8 := Stores.last storedByte log addr

/-- All stores go to addresses from `lo` on, below `hi`. -/
abbrev StoresIn (lo hi : ℕ) (log : List MemEvent) : Prop := Stores.Within storedByte lo hi log

def store (addr : ℕ) (byte : UInt8) : Paint Unit := .call (fun _ _ => ()) fun _ => .store addr byte

/-- A value of `n` bytes is stored, the lowest byte first. -/
def storeLE : ℕ → ℕ → ℕ → Paint Unit
  | 0, _, _ => pure ()
  | n + 1, addr, value => do
    store addr value.toUInt8
    storeLE n (addr + 1) (value / 2 ^ 8)

/-- The log of `storeLE`. -/
def bytesOf (n addr value : ℕ) : List MemEvent :=
  Stores.rounds (fun i => [.store (addr + i) (value / 2 ^ (8 * i)).toUInt8]) n

theorem does_store (addr : ℕ) (byte : UInt8) :
    Prog.Does (store addr byte) () [.store addr byte] := fun _ _ => rfl

/-- A byte is stored before the rest. -/
theorem does_store_bind {rest : Paint Unit} {new : List MemEvent} (h : Prog.Does rest () new)
    (addr : ℕ) (byte : UInt8) :
    Prog.Does (do store addr byte; rest) () (new ++ [.store addr byte]) :=
  (does_store addr byte).bind h

theorem does_storeLE (n addr value : ℕ) :
    Prog.Does (storeLE n addr value) () (bytesOf n addr value) := by
  induction n generalizing addr value with
  | zero => exact .pure _
  | succ n ih =>
    have hlog : bytesOf (n + 1) addr value =
        bytesOf n (addr + 1) (value / 2 ^ 8) ++ [.store addr value.toUInt8] := by
      rw [bytesOf, Nat.add_comm n 1, Stores.rounds_add, bytesOf]
      refine congrArg₂ (· ++ ·) (Stores.rounds_congr fun j _ => ?_) ?_
      · rw [Nat.div_div_eq_div_mul, ← Nat.pow_add, Nat.mul_add, Nat.mul_one, Nat.add_assoc]
      · simp [Stores.rounds]
    rw [hlog]
    exact (does_store addr _).bind (ih _ _)

theorem byteAt_cons (addr a : ℕ) (byte : UInt8) (log : List MemEvent) :
    byteAt (.store addr byte :: log) a = if addr = a then some byte else byteAt log a := by
  rw [byteAt, Stores.last, List.findSome?_cons, Stores.storedAt, storedByte, Option.bind_some]
  by_cases h : addr = a
  · rw [if_pos h, if_pos h]
  · rw [if_neg h, if_neg h]
    rfl

theorem byteAt_store (addr a : ℕ) (byte : UInt8) :
    byteAt [.store addr byte] a = if addr = a then some byte else none := byteAt_cons _ _ _ []

theorem storesIn_store (addr : ℕ) (byte : UInt8) :
    StoresIn addr (addr + 1) [.store addr byte] := by
  intro e he a v hev
  obtain rfl := List.mem_singleton.1 he
  cases hev
  omega

theorem storesIn_bytesOf (n addr value : ℕ) :
    StoresIn addr (addr + n) (bytesOf n addr value) := by
  have hcells : StoresIn addr (addr + n * 1) (bytesOf n addr value) := by
    refine Stores.Within.rounds_cells fun i _ => ?_
    rw [Nat.mul_one, Nat.mul_one]
    exact storesIn_store _ _
  rwa [Nat.mul_one] at hcells

/-- A value that was stored, byte by byte. -/
theorem byteAt_bytesOf {n addr value i : ℕ} (hi : i < n) :
    byteAt (bytesOf n addr value) (addr + i) = some (value / 2 ^ (8 * i)).toUInt8 := by
  rw [bytesOf, byteAt, Stores.last_rounds_of_unique hi fun j hj hne => ?_]
  · rw [← byteAt, byteAt_store, if_pos rfl]
  · rw [← byteAt, byteAt_store, if_neg (by omega)]

end ValRpi
