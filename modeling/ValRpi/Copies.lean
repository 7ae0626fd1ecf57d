import ValRpi.Lib.Prog
import ValRpi.Lib.Run
import ValRpi.Edid

/-!
# Copies of EDID blobs

An `Edid` is meant to be a value: objects can be copied, assigned and destroyed, without
one changing another. But the copy constructor makes a second object with the bytes,
which ends at once, and leaves its own without any. So a program that uses `Edid` is

* *safe*, whatever it does: no block is used after it is deleted, none is deleted twice
  and none is lost, and the objects hold what they would as values of which every
  copy construction is empty (`Edid.refines_of_run`,
  `Edid.exists_refines_of_run`);
* *faithful* to what it would do with values, if and only if it copies only empty
  objects (`Edid.faithful_iff`).

The result of `getEdid` arrives only if the compiler leaves out both copies that it may
leave out (`DrmConnector.getEdid_shows_iff`).
-/

namespace ValRpi

namespace Edid

variable {V : Type}

/-! ## Values -/

/-- The bytes that the objects are to hold. -/
abbrev Values (V : Type) := V → Option (List UInt8)

namespace Values

/-- No object is there. -/
def start : Values V := fun _ => none

/-- What an operation does with values, where a copy construction takes from bytes those
    given by `copied`. A blob of 2^31 bytes or more has a negative size: there is no
    `Edid` of it (`new_long`). -/
inductive Step [DecidableEq V] (copied : List UInt8 → List UInt8) (v : Values V) :
    Operation V → Values V → Prop
  | blob {x : V} {blob : PropertyBlob} : v x = none → blob.data.length < 2 ^ 31 →
      Step copied v (.blob x blob) (Function.update v x (some blob.data))
  | default {x : V} : v x = none → Step copied v (.default x) (Function.update v x (some []))
  | copy {x y : V} {bytes : List UInt8} : v x = none → v y = some bytes →
      Step copied v (.copy x y) (Function.update v x (some (copied bytes)))
  | assign {x y : V} {old bytes : List UInt8} : v x = some old → v y = some bytes →
      Step copied v (.assign x y) (Function.update v x (some bytes))
  | destroy {x : V} {old : List UInt8} : v x = some old →
      Step copied v (.destroy x) (Function.update v x none)

end Values

/-- What is printed for bytes, from the one at `j` on. -/
def printed (j : ℕ) : List UInt8 → List UInt8
  | [] => []
  | b :: bytes => b :: (lineEnd j ++ printed (j + 1) bytes)

/-- What can be seen of an object is what is to be seen of some bytes. -/
structure Shows (m : Memory) (e : Edid) (bytes : List UInt8) : Prop where
  length : e.mEdidLen = bytes.length
  byteAt : ∀ j b, bytes[j]? = some b → e.byteAt m j = .ok b
  print : e.print m = .ok (printed 0 bytes)

/-- At every time of a program, the objects show what they are to hold as values. -/
def Faithful [DecidableEq V] (ops : List (Operation V)) : Prop :=
  ∀ ops' v, ops' <:+ ops → Run (Values.Step id) Values.start ops' v →
    ∃ s, Run State.Step State.start ops' s ∧ ∀ x, (s.objects x).Rel (Shows s.memory) (v x)

/-- Only empty objects are copied. The newest operation comes first. -/
def CopiesEmpty [DecidableEq V] (ops : List (Operation V)) : Prop :=
  ∀ later x y earlier v, ops = later ++ .copy x y :: earlier →
    Run (Values.Step id) Values.start (.copy x y :: earlier) v → v y = some []

/-! ## One object -/

section Object

variable {m m' : Memory} {e : Edid} {bytes bytes' : List UInt8} {blob : PropertyBlob}

theorem size_eq (hlen : blob.data.length < 2 ^ 31) : blob.size = blob.data.length :=
  Int32.toInt_ofNat_of_lt hlen

/-- There is no `Edid` of a blob whose length is no `int`. -/
theorem new_long (hlen : 2 ^ 31 ≤ blob.data.length) (m : Memory) :
    new (some blob.data) blob.size m = .error .badArrayNewLength := by
  have hsize : blob.size < 0 := by
    have hlt := blob.length_lt
    rw [PropertyBlob.size, Int32.toInt_ofNat', Int.bmod_def]
    simp only [Int32.size]
    omega
  rw [new, Memory.newBytes, if_pos hsize]
  rfl

/-- A block with all the bytes of another. -/
theorem newBytes_all (m : Memory) (bytes : List UInt8) :
    m.newBytes (some bytes) bytes.length = .ok (m.alloc bytes) := by
  rw [Memory.newBytes, if_neg (by omega)]
  split
  · next hzero =>
    have hnil : bytes = [] := List.eq_nil_of_length_eq_zero (by omega)
    rw [hnil]
  · rw [if_neg (by omega), Int.toNat_natCast, List.take_length]

/-- The `Edid` of a blob has a new block with its bytes. -/
theorem new_blob (hlen : blob.data.length < 2 ^ 31) (m : Memory) :
    new (some blob.data) blob.size m =
      .ok (⟨some (m.alloc blob.data).1, blob.data.length⟩, (m.alloc blob.data).2) := by
  rw [new, size_eq hlen, newBytes_all]
  rfl

/-- The object has the length of some bytes, and has a block unless there are none. -/
structure Sized (e : Edid) (bytes : List UInt8) : Prop where
  length : e.mEdidLen = bytes.length
  null : e.mBlob = none → bytes = []

/-- The object is alive and holds some bytes. -/
structure Holds (m : Memory) (e : Edid) (bytes : List UInt8) : Prop extends e.Sized bytes where
  block : ∀ p, e.mBlob = some p → m.block p = some bytes

theorem holds_default (m : Memory) : Holds m {} [] where
  length := rfl
  null _ := rfl
  block _ hp := by cases hp

theorem holds_alloc (m : Memory) (bytes : List UInt8) :
    Holds (m.alloc bytes).2 ⟨some (m.alloc bytes).1, bytes.length⟩ bytes where
  length := rfl
  null hp := by cases hp
  block p hp := by
    cases hp
    rw [Blocks.block_alloc, Function.update_self]

/-- What is held can be read, and put into another block. -/
theorem Holds.blob_eq (h : Holds m e bytes) : ∃ edid, e.blob m = .ok edid ∧
    (∀ m' : Memory, m'.newBytes edid e.mEdidLen = .ok (m'.alloc bytes)) ∧
      (bytes ≠ [] → edid = some bytes) := by
  cases hp : e.mBlob with
  | none =>
    have hnil := h.null hp
    refine ⟨none, by rw [blob, hp], fun m' => ?_, fun hne => absurd hnil hne⟩
    rw [h.length, hnil]
    rfl
  | some p =>
    refine ⟨some bytes, ?_, fun m' => ?_, fun _ => rfl⟩
    · rw [blob, hp]
      dsimp only
      rw [Blocks.read, h.block p hp]
    · rw [h.length]
      exact newBytes_all m' bytes

theorem Holds.byteAt (h : Holds m e bytes) {j : ℕ} {b : UInt8} (hj : bytes[j]? = some b) :
    e.byteAt m j = .ok b := by
  obtain ⟨edid, hblob, _, hsome⟩ := h.blob_eq
  have hne : bytes ≠ [] := by
    rintro rfl
    cases hj
  rw [Edid.byteAt, hblob, hsome hne]
  simp only [bind, Except.bind, hj]

theorem Holds.printFrom (h : Holds m e bytes) {j : ℕ} {rest : List UInt8}
    (hrest : bytes.drop j = rest) : e.printFrom m j rest.length = .ok (printed j rest) := by
  induction rest generalizing j with
  | nil => rfl
  | cons b rest ih =>
    have hj : bytes[j]? = some b := by rw [← List.head?_drop, hrest]; rfl
    have hnext : bytes.drop (j + 1) = rest := by
      rw [← List.drop_drop, hrest]
      rfl
    rw [List.length_cons, Edid.printFrom, h.byteAt hj, ih hnext]
    rfl

theorem Holds.of_block_eq (h : Holds m e bytes) (hblock : m'.block = m.block) :
    Holds m' e bytes where
  toSized := h.toSized
  block p hp := by rw [hblock, h.block p hp]

/-- What is held can be given back. -/
theorem Holds.destroy_eq_ok (h : Holds m e bytes) : ∃ m', e.destroy m = .ok m' := by
  rw [destroy]
  cases hp : e.mBlob with
  | none => exact ⟨m, rfl⟩
  | some p =>
    obtain ⟨m', hfree⟩ := Blocks.free_eq_some (h.block p hp)
    exact ⟨m', by rw [Memory.delete, hfree]⟩

/-- What is held is seen. -/
theorem Holds.shows (h : Holds m e bytes) : Shows m e bytes where
  length := h.length
  byteAt _ _ := h.byteAt
  print := by
    rw [Edid.print, h.length, Int.toNat_natCast]
    exact h.printFrom rfl

/-- Only one list of bytes is seen. -/
theorem Shows.unique (h : Shows m e bytes) (h' : Shows m e bytes') : bytes = bytes' := by
  have hlen : bytes.length = bytes'.length := by
    have := h.length.symm.trans h'.length
    omega
  refine List.ext_getElem hlen fun j hj hj' => ?_
  have hb := h.byteAt j _ (List.getElem?_eq_getElem hj)
  rw [h'.byteAt j _ (List.getElem?_eq_getElem hj')] at hb
  exact (Except.ok.inj hb).symm

/-- A copy is empty, and leaves the memory as it was. -/
theorem Holds.copy_eq (h : Holds m e bytes) : ∃ m',
    e.copy m = .ok ({}, m') ∧ m'.block = m.block := by
  obtain ⟨edid, hblob, hnew, _⟩ := h.blob_eq
  obtain ⟨m', hfree, hm'⟩ := m.free_alloc bytes
  refine ⟨m', ?_, hm'⟩
  rw [copy, hblob]
  simp only [bind, Except.bind, new, hnew, pure, Except.pure, destroy, Memory.delete, hfree]

end Object

/-! ## Safety -/

/-- The block of an object. -/
def State.ptr (s : State V) (x : V) : Option ℕ := (s.objects x).bind Edid.mBlob

/-- The memory stores the values for the objects, each of which has its block for itself,
    and the objects have the lengths of the values. -/
structure Refines (s : State V) (v : Values V) : Prop where
  stores : s.memory.Stores s.ptr v
  sized : ∀ x, (s.objects x).Rel Sized (v x)

section Refinement

variable {s s' : State V} {v v' : Values V} {x : V} {e : Edid} {m : Memory} {bytes : List UInt8}
  {op : Operation V} {ops : List (Operation V)}

theorem refines_start : Refines (State.start : State V) Values.start where
  stores := Blocks.stores_empty
  sized _ := .none

theorem ptr_of_some (hx : s.objects x = some e) : s.ptr x = e.mBlob := by
  rw [State.ptr, hx]
  rfl

theorem Refines.objects_eq_none (hr : Refines s v) (hx : v x = none) : s.objects x = none := by
  have hrel := hr.sized x
  rw [hx] at hrel
  cases hobj : s.objects x with
  | none => rfl
  | some e => rw [hobj] at hrel; cases hrel

theorem Refines.ptr_eq_none (hr : Refines s v) (hx : v x = none) : s.ptr x = none := by
  rw [State.ptr, hr.objects_eq_none hx]
  rfl

theorem Refines.objects_eq_some (hr : Refines s v) (hx : v x = some bytes) :
    ∃ e, s.objects x = some e ∧ e.Sized bytes := by
  have hrel := hr.sized x
  rw [hx] at hrel
  cases hobj : s.objects x with
  | none => rw [hobj] at hrel; cases hrel
  | some e =>
    rw [hobj] at hrel
    cases hrel with
    | some hsized => exact ⟨e, rfl, hsized⟩

theorem Refines.of_object (hr : Refines s v) (hx : s.object x = .ok e) :
    ∃ bytes, v x = some bytes := by
  rw [State.object] at hx
  cases hv : v x with
  | none => rw [hr.objects_eq_none hv] at hx; cases hx
  | some bytes => exact ⟨bytes, rfl⟩

/-- Where the memory stores the value for an object, the object holds it. -/
theorem holds_of_stores {ptr : V → Option ℕ} (hs : m.Stores ptr v) (hx : ptr x = e.mBlob)
    (hv : v x = some bytes) (hsized : e.Sized bytes) : Holds m e bytes where
  toSized := hsized
  block p hp := by
    obtain ⟨bytes', hblock, hval⟩ := hs.reads x p (hx.trans hp)
    cases hv.symm.trans hval
    exact hblock

theorem Refines.holds (hr : Refines s v) (hx : s.objects x = some e) (hv : v x = some bytes) :
    Holds s.memory e bytes := by
  obtain ⟨e', he', hsized⟩ := hr.objects_eq_some hv
  cases hx.symm.trans he'
  exact holds_of_stores hr.stores (ptr_of_some hx) hv hsized

theorem Refines.shows (hr : Refines s v) (x : V) : (s.objects x).Rel (Shows s.memory) (v x) := by
  cases hx : v x with
  | none =>
    rw [hr.objects_eq_none hx]
    exact .none
  | some bytes =>
    obtain ⟨e, he, _⟩ := hr.objects_eq_some hx
    rw [he]
    exact .some (hr.holds he hx).shows

variable [DecidableEq V]

/-- An object changes, with the memory. -/
theorem Refines.update {obj : Option Edid} {val : Option (List UInt8)} (hr : Refines s v)
    (hs : m.Stores (Function.update s.ptr x (obj.bind mBlob)) (Function.update v x val))
    (hrel : obj.Rel Sized val) :
    Refines ⟨Function.update s.objects x obj, m⟩ (Function.update v x val) where
  stores := by
    have hptr : State.ptr ⟨Function.update s.objects x obj, m⟩ =
        Function.update s.ptr x (obj.bind mBlob) :=
      (Function.comp_update (fun o : Option Edid => o.bind mBlob) s.objects x obj)
    rw [hptr]
    exact hs
  sized y := by
    dsimp only
    by_cases hy : y = x
    · subst hy
      rwa [Function.update_self, Function.update_self]
    · rw [Function.update_of_ne hy, Function.update_of_ne hy]
      exact hr.sized y

/-- The new object of an object that was not there has no block. -/
theorem Refines.update_empty (hr : Refines s v) (hx : v x = none) (hm : m.block = s.memory.block) :
    Refines ⟨Function.update s.objects x (some {}), m⟩ (Function.update v x (some [])) := by
  have hptr := hr.ptr_eq_none hx
  have hsame : Function.update s.ptr x none = s.ptr := by
    rw [← hptr, Function.update_eq_self]
  refine hr.update ?_ (.some (holds_default m).toSized)
  rw [Option.bind_some, hsame]
  refine (hr.stores.of_block_eq hm).congr fun y p hy => Function.update_of_ne ?_ _ _
  rintro rfl
  rw [hptr] at hy
  cases hy

/-- The block of an object, if it has one, is given back. -/
theorem delete_eq_ok {ptr : V → Option ℕ} (hs : m.Stores ptr v) (x : V) : ∃ m',
    m.delete (ptr x) = .ok m' ∧ m'.Stores (Function.update ptr x none) v := by
  cases hx : ptr x with
  | none =>
    refine ⟨m, rfl, ?_⟩
    rw [← hx, Function.update_eq_self]
    exact hs
  | some p =>
    obtain ⟨m', hfree, hs'⟩ := hs.free hx
    refine ⟨m', ?_, hs'⟩
    rw [Memory.delete, hfree]

/-- An object gets a block of its own. -/
theorem Refines.update_alloc (hr : Refines s v)
    (hs : m.Stores (Function.update s.ptr x none) v) (bytes : List UInt8) :
    Refines ⟨Function.update s.objects x (some ⟨some (m.alloc bytes).1, bytes.length⟩),
      (m.alloc bytes).2⟩ (Function.update v x (some bytes)) := by
  refine hr.update ?_ (.some (holds_alloc m bytes).toSized)
  have halloc := hs.alloc (Function.update_self x none s.ptr) bytes
  rwa [Function.update_idem] at halloc

/-- An operation on values whose copies are empty is one on the objects. -/
theorem exec_refines (hr : Refines s v) (hstep : Values.Step (fun _ => []) v op v') :
    ∃ s', s.exec op = .ok s' ∧ Refines s' v' := by
  cases hstep with
  | @blob x blob hx hlen =>
    have hs : s.memory.Stores (Function.update s.ptr x none) v := by
      rw [← hr.ptr_eq_none hx, Function.update_eq_self]
      exact hr.stores
    refine ⟨_, ?_, hr.update_alloc hs blob.data⟩
    rw [State.exec, State.construct, hr.objects_eq_none hx]
    simp only [new_blob hlen, bind, Except.bind, pure, Except.pure]
  | @default x hx =>
    refine ⟨_, ?_, hr.update_empty hx rfl⟩
    rw [State.exec, State.construct, hr.objects_eq_none hx]
    rfl
  | @copy x y bytes hx hy =>
    obtain ⟨other, hother, _⟩ := hr.objects_eq_some hy
    obtain ⟨m', hcopy, hm'⟩ := (hr.holds hother hy).copy_eq
    refine ⟨_, ?_, hr.update_empty hx hm'⟩
    rw [State.exec, State.object, hother]
    simp only [bind, Except.bind, State.construct, hr.objects_eq_none hx, hcopy, pure, Except.pure]
  | @assign x y old bytes hx hy =>
    obtain ⟨e, he, _⟩ := hr.objects_eq_some hx
    obtain ⟨other, hother, hsized⟩ := hr.objects_eq_some hy
    by_cases hxy : x = y
    · subst hxy
      refine ⟨s, ?_, ?_⟩
      · rw [State.exec, State.object, he]
        simp only [bind, Except.bind, if_pos, pure, Except.pure]
      · rw [← hy, Function.update_eq_self]
        exact hr
    · -- the block of the other object survives the deletion
      obtain ⟨m, hdelete, hs⟩ := delete_eq_ok hr.stores x
      have hptr : Function.update s.ptr x none y = other.mBlob := by
        rw [Function.update_of_ne (Ne.symm hxy), ptr_of_some hother]
      obtain ⟨edid, hblob, hnew, _⟩ := (holds_of_stores hs hptr hy hsized).blob_eq
      refine ⟨_, ?_, hr.update_alloc hs bytes⟩
      rw [ptr_of_some he] at hdelete
      rw [State.exec, State.object, State.object, he, hother]
      simp only [bind, Except.bind, if_neg hxy, assign, hdelete, hblob, hnew, pure, Except.pure]
      rw [hsized.length]
  | @destroy x old hx =>
    obtain ⟨e, he, _⟩ := hr.objects_eq_some hx
    obtain ⟨m, hdelete, hs⟩ := delete_eq_ok hr.stores x
    rw [ptr_of_some he] at hdelete
    refine ⟨⟨Function.update s.objects x none, m⟩, ?_, hr.update ?_ .none⟩
    · rw [State.exec, State.object, he]
      simp only [bind, Except.bind, destroy, hdelete, pure, Except.pure]
    · refine hs.congr fun y p hy => Function.update_of_ne ?_ _ _
      rintro rfl
      rw [Function.update_self] at hy
      cases hy

/-- An object is made where there is none. -/
theorem Refines.of_construct {made : Memory → Except EdidFault (Edid × Memory)}
    (hr : Refines s v) (hs : s.construct x made = .ok s') :
    v x = none ∧ ∃ r, made s.memory = .ok r := by
  rw [State.construct] at hs
  cases hv : v x with
  | none =>
    rw [hr.objects_eq_none hv] at hs
    obtain ⟨r, hmade, _⟩ := Except.bind_eq_ok.1 hs
    exact ⟨rfl, r, hmade⟩
  | some bytes =>
    obtain ⟨e, he, _⟩ := hr.objects_eq_some hv
    rw [he] at hs
    cases hs

/-- There is no operation on the objects but those on values. -/
theorem step_of_exec (copied : List UInt8 → List UInt8) (hr : Refines s v)
    (hs : State.Step s op s') : ∃ v', Values.Step copied v op v' := by
  rw [State.Step] at hs
  cases op with
  | blob x blob =>
    obtain ⟨hx, r, hnew⟩ := hr.of_construct hs
    refine ⟨_, .blob hx (Nat.lt_of_not_ge fun hlong => ?_)⟩
    rw [new_long hlong] at hnew
    cases hnew
  | default x =>
    rw [State.exec] at hs
    exact ⟨_, .default (hr.of_construct hs).1⟩
  | copy x y =>
    obtain ⟨other, hother, hs⟩ := Except.bind_eq_ok.1 hs
    obtain ⟨bytes, hy⟩ := hr.of_object hother
    exact ⟨_, .copy (hr.of_construct hs).1 hy⟩
  | assign x y =>
    obtain ⟨e, he, hs⟩ := Except.bind_eq_ok.1 hs
    obtain ⟨other, hother, _⟩ := Except.bind_eq_ok.1 hs
    obtain ⟨old, hx⟩ := hr.of_object he
    obtain ⟨bytes, hy⟩ := hr.of_object hother
    exact ⟨_, .assign hx hy⟩
  | destroy x =>
    obtain ⟨e, he, _⟩ := Except.bind_eq_ok.1 hs
    obtain ⟨old, hx⟩ := hr.of_object he
    exact ⟨_, .destroy hx⟩

/-- A program runs as it would with values whose copies are empty, and uses the memory
    as it should. -/
theorem refines_of_run (hr : Run (Values.Step fun _ => []) Values.start ops v) :
    ∃ s, Run State.Step State.start ops s ∧ Refines s v := by
  induction hr with
  | nil => exact ⟨State.start, .nil, refines_start⟩
  | step _ hstep ih =>
    obtain ⟨s, hs, href⟩ := ih
    obtain ⟨s', hexec, href'⟩ := exec_refines href hstep
    exact ⟨s', hs.step hexec, href'⟩

/-- So does every program that runs. -/
theorem exists_refines_of_run (hr : Run State.Step State.start ops s) :
    ∃ v, Run (Values.Step fun _ => []) Values.start ops v ∧ Refines s v := by
  induction hr with
  | nil => exact ⟨Values.start, .nil, refines_start⟩
  | step _ hexec ih =>
    obtain ⟨v, hv, href⟩ := ih
    obtain ⟨v', hstep⟩ := step_of_exec (fun _ => []) href hexec
    obtain ⟨s', hexec', href'⟩ := exec_refines href hstep
    cases Except.ok.inj (hexec.symm.trans hexec')
    exact ⟨v', hv.step hstep, href'⟩

end Refinement

/-! ## Faithfulness -/

section Faithfulness

variable [DecidableEq V] {s s' : State V} {v : Values V} {x y : V} {ops : List (Operation V)}

/-- What a copy construction makes is empty. -/
theorem eq_default_of_copy {other e : Edid} {m m' : Memory} (h : other.copy m = .ok (e, m')) :
    e = {} := by
  simp only [copy, Except.bind_eq_ok] at h
  obtain ⟨_, _, _, _, _, _, h⟩ := h
  cases h
  rfl

theorem objects_of_copy (hs : State.Step s (.copy x y) s') : s'.objects x = some {} := by
  rw [State.Step, State.exec, Except.bind_eq_ok] at hs
  obtain ⟨other, _, hs⟩ := hs
  rw [State.construct] at hs
  split at hs
  · obtain ⟨⟨e, m⟩, hcopy, hs⟩ := Except.bind_eq_ok.1 hs
    cases hs
    rw [eq_default_of_copy hcopy]
    exact Function.update_self _ _ _
  · cases hs

theorem CopiesEmpty.of_suffix {ops' : List (Operation V)} (hc : CopiesEmpty ops)
    (hs : ops' <:+ ops) : CopiesEmpty ops' := by
  rintro later x y earlier v rfl hr
  obtain ⟨later', rfl⟩ := hs
  exact hc (later' ++ later) x y earlier v (List.append_assoc _ _ _).symm hr

/-- A copy does not change what it is made from. -/
theorem copied_eq {bytes : List UInt8} (val : Option (List UInt8)) (hx : v x = none)
    (hy : v y = some bytes) : Function.update v x val y = some bytes := by
  have hyx : y ≠ x := by
    rintro rfl
    rw [hx] at hy
    cases hy
  rw [Function.update_of_ne hyx, hy]

/-- With empty copies only, values whose copies are empty are those whose copies are not. -/
theorem run_of_copiesEmpty (hc : CopiesEmpty ops)
    (hr : Run (Values.Step id) Values.start ops v) :
    Run (Values.Step fun _ => []) Values.start ops v := by
  induction hr with
  | nil => exact .nil
  | @step ops op v v' hr hstep ih =>
    refine (ih (hc.of_suffix (List.suffix_cons _ _))).step ?_
    cases hstep with
    | blob hx hlen => exact .blob hx hlen
    | default hx => exact .default hx
    | @copy x y bytes hx hy =>
      have hempty := hc [] x y ops _ rfl (hr.step (.copy hx hy))
      rw [copied_eq _ hx hy] at hempty
      cases hempty
      exact .copy hx hy
    | assign hx hy => exact .assign hx hy
    | destroy hx => exact .destroy hx

/-- The objects of a program hold what they would as values, at every time, if and only
    if it copies only empty objects. -/
theorem faithful_iff (ops : List (Operation V)) : Faithful ops ↔ CopiesEmpty ops := by
  constructor
  · rintro hf later x y earlier v rfl hr
    obtain ⟨s, hs, hshows⟩ := hf _ v (List.suffix_append later _) hr
    cases hs with | step _ hs => ?_
    cases hr with | step _ hv => ?_
    cases hv with | @copy _ _ bytes hx hy => ?_
    have hshow := hshows x
    rw [objects_of_copy hs, Function.update_self] at hshow
    cases hshow with | some hshow => ?_
    have hnil : bytes = [] := hshow.unique (holds_default _).shows
    rw [copied_eq _ hx hy, hnil]
  · intro hc ops' v hsuffix hr
    obtain ⟨s, hs, href⟩ := refines_of_run (run_of_copiesEmpty (hc.of_suffix hsuffix) hr)
    exact ⟨s, hs, href.shows⟩

end Faithfulness

/-- A blob of 128 zeros. -/
def zeros : PropertyBlob := ⟨List.replicate 128 0, by rw [List.length_replicate]; omega⟩

/-- An object of a blob, and a copy of it, which has none of its bytes. -/
theorem copy_loses_blob : ∃ (v : Values ℕ) (s : State ℕ),
    Run (Values.Step id) Values.start [.copy 1 0, .blob 0 zeros] v ∧
      Run State.Step State.start [.copy 1 0, .blob 0 zeros] s ∧
        v 1 = some zeros.data ∧ s.objects 1 = some ⟨none, 0⟩ ∧
          ¬ Faithful ([.copy 1 0, .blob 0 zeros] : List (Operation ℕ)) := by
  have hlen : zeros.data.length = 128 := List.length_replicate
  let v : Values ℕ := Function.update Values.start 0 (some zeros.data)
  have hv : v 0 = some zeros.data := rfl
  have hblob (copied : List UInt8 → List UInt8) :
      Run (Values.Step copied) Values.start [.blob 0 zeros] v :=
    Run.nil.step (.blob rfl (by omega))
  have hr : Run (Values.Step id) Values.start [.copy 1 0, .blob 0 zeros]
      (Function.update v 1 (some zeros.data)) :=
    (hblob id).step (.copy rfl hv)
  have hempty : Run (Values.Step fun _ => []) Values.start [.copy 1 0, .blob 0 zeros]
      (Function.update v 1 (some [])) :=
    (hblob fun _ => []).step (.copy rfl hv)
  obtain ⟨s, hs, _⟩ := refines_of_run hempty
  have hobj (s : State ℕ) (hs : Run State.Step State.start [.copy 1 0, .blob 0 zeros] s) :
      s.objects 1 = some {} := by
    cases hs with | step _ h => exact objects_of_copy h
  refine ⟨_, s, hr, hs, rfl, hobj s hs, fun hf => ?_⟩
  obtain ⟨s', hs', hshows⟩ := hf _ _ List.suffix_rfl hr
  have hshow := hshows 1
  rw [hobj s' hs'] at hshow
  cases hshow with | some hshow => ?_
  have heq := hshow.length
  rw [hlen] at heq
  cases heq

/-! ## Objects passed by value -/

/-- What is passed on by a copy arrives empty. -/
theorem passOn_eq_ok {e : Edid} {m : Memory} {bytes : List UInt8} (elided : Bool)
    (h : Holds m e bytes) : ∃ e' m', e.passOn elided m = .ok (e', m') ∧
      Holds m' e' (if elided then bytes else []) := by
  cases elided with
  | true => exact ⟨e, m, rfl, h⟩
  | false =>
    obtain ⟨m₁, hcopy, hblock⟩ := h.copy_eq
    obtain ⟨m₂, hdestroy⟩ := (h.of_block_eq hblock).destroy_eq_ok
    refine ⟨{}, m₂, ?_, holds_default m₂⟩
    simp only [passOn, Bool.false_eq_true, if_false, hcopy, hdestroy, bind, Except.bind, pure,
      Except.pure]

end Edid

namespace DrmConnector

variable {elidedEdid elidedResult : Bool} {props : List ConnectorProperty}

/-- The loop stops at the first property that is looked for. -/
theorem getEdid_eq (elidedEdid elidedResult : Bool) (m : Memory)
    (props : List ConnectorProperty) :
    getEdid elidedEdid elidedResult m props =
      getEdid elidedEdid elidedResult m (props.find? ConnectorProperty.isEdid).toList := by
  induction props with
  | nil => rfl
  | cons prop rest ih =>
    cases hprop : prop.isEdid with
    | true =>
      rw [List.find?_cons_of_pos hprop, Option.toList_some, getEdid, getEdid, if_pos hprop,
        if_pos hprop]
    | false =>
      have hnot : ¬ prop.isEdid = true := Bool.not_eq_true _ ▸ hprop
      rw [List.find?_cons_of_neg hnot, getEdid, if_neg hnot]
      exact ih

/-- A connector without an EDID has an empty one. -/
theorem getEdid_of_none (m : Memory) (hprops : ∀ prop ∈ props, ¬ prop.isEdid) : ∃ e m',
    getEdid elidedEdid elidedResult m props = .ok (e, m') ∧ Edid.Holds m' e [] := by
  obtain ⟨e, m', he, hholds⟩ := Edid.passOn_eq_ok elidedResult (Edid.holds_default m)
  refine ⟨e, m', ?_, ?_⟩
  · rw [getEdid_eq, List.find?_eq_none.2 hprops]
    exact he
  · rwa [ite_self] at hholds

/-- The bytes of the EDID arrive, if and only if there are none or no copy is made. -/
theorem getEdid_shows_iff {prop : ConnectorProperty} {blob : PropertyBlob} (m : Memory)
    (hprop : props.find? ConnectorProperty.isEdid = some prop) (hblob : prop.blob = some blob)
    (hlen : blob.data.length < 2 ^ 31) : ∃ e m',
    getEdid elidedEdid elidedResult m props = .ok (e, m') ∧
      (Edid.Shows m' e blob.data ↔ elidedEdid ∧ elidedResult ∨ blob.data = []) := by
  obtain ⟨e₁, m₁, hfirst, hholds₁⟩ :=
    Edid.passOn_eq_ok elidedEdid (Edid.holds_alloc m blob.data)
  obtain ⟨e₂, m₂, hsecond, hholds₂⟩ := Edid.passOn_eq_ok elidedResult hholds₁
  refine ⟨e₂, m₂, ?_, fun hshows => ?_, fun hsame => ?_⟩
  · rw [getEdid_eq, hprop, Option.toList_some, getEdid, if_pos (List.find?_some hprop), hblob]
    simp only [Edid.new_blob hlen, hfirst, hsecond, bind, Except.bind]
  · have heq := hshows.unique hholds₂.shows
    split at heq
    · next hresult =>
      split at heq
      · next hedid => exact .inl ⟨hedid, hresult⟩
      · exact .inr heq
    · exact .inr heq
  · have hbytes : (if elidedResult then if elidedEdid then blob.data else [] else []) =
        blob.data := by
      rcases hsame with ⟨hedid, hresult⟩ | hnil
      · rw [if_pos hresult, if_pos hedid]
      · rw [hnil, ite_self, ite_self]
    rw [hbytes] at hholds₂
    exact hholds₂.shows

end DrmConnector

end ValRpi
