import ValRpi.Capability

/-!
# The instance

`val_impl` of `src/val/val_impl.cpp`, of which there is one: it makes the object for
the video output and the one for the controls, and deletes them.

`initialize` does not look at what its pointers hold, and `deinitialize` does not
reset them. So every object is deleted at most once, and none is lost, if and only if
the calls are paired: they alternate, from the first `initialize` on
(`ValImpl.sound_of_run_iff`).

Objects are numbered in the order of their creation, so that an object that is gone
is told apart from one that got its place.
-/

namespace ValRpi

/-- What happens on the heap. -/
inductive HeapEvent
  | create (id : ℕ)
  | delete (id : ℕ)
  deriving DecidableEq, Repr

namespace HeapEvent

/-- The object an event creates. -/
def creates : HeapEvent → Option ℕ
  | create id => some id
  | delete _ => none

/-- The object an event deletes. -/
def deletes : HeapEvent → Option ℕ
  | create _ => none
  | delete id => some id

end HeapEvent

/-- What happened on the heap so far, the newest event first. -/
abbrev Heap := List HeapEvent

namespace Heap

/-- The objects created so far. -/
abbrev created (heap : Heap) : List ℕ := Ledger.acquired HeapEvent.creates heap

/-- The objects deleted so far. -/
abbrev deleted (heap : Heap) : List ℕ := Ledger.released HeapEvent.deletes heap

/-- The number of the next object. -/
def next (heap : Heap) : ℕ := heap.created.length

@[simp]
theorem created_create (heap : Heap) (id : ℕ) : created (.create id :: heap) = id :: heap.created :=
  rfl

/-- The heap after some objects are deleted, in turn. -/
def deleteAll (heap : Heap) (ids : List ℕ) : Heap := (ids.map HeapEvent.delete).reverse ++ heap

theorem created_deleteAll (heap : Heap) (ids : List ℕ) :
    (heap.deleteAll ids).created = heap.created := by
  induction ids generalizing heap with
  | nil => rfl
  | cons id ids ih =>
    rw [deleteAll, List.map_cons, List.reverse_cons, List.append_assoc]
    exact ih (.delete id :: heap)

theorem deleted_deleteAll (heap : Heap) (ids : List ℕ) :
    (heap.deleteAll ids).deleted = ids.reverse ++ heap.deleted := by
  induction ids generalizing heap with
  | nil => rfl
  | cons id ids ih =>
    rw [deleteAll, List.map_cons, List.reverse_cons, List.reverse_cons, List.append_assoc,
      List.append_assoc]
    exact ih (.delete id :: heap)

end Heap

/-- An object on the heap. -/
structure Object (α : Type) where
  id : ℕ
  value : α

/-- `delete`, unless the pointer is null. -/
def Heap.deleteObject {α : Type} (heap : Heap) : Option (Object α) → Heap
  | some object => .delete object.id :: heap
  | none => heap

/-- `VAL_ControlSettings_Impl`, which has no data. -/
structure ValControlSettingsImpl
  deriving DecidableEq, Repr

/-- `val_impl`, with the pointers of `VAL`. -/
structure ValImpl where
  mDevCap : DeviceCapability
  video : Option (Object ValVideoImpl) := none
  controls : Option (Object ValControlSettingsImpl) := none

namespace ValImpl

/-- `VAL::getInstance`: the instance is made by the first call. The constructor of
    `val_impl` reads the configuration. -/
def getInstance (json : Pbnjson) (config : Option JValue) : Option ValImpl → ValImpl
  | some inst => inst
  | none => { mDevCap := .new json config }

/-- `initialize`, whose result is always true. -/
def initializeVal (v : ValImpl) (heap : Heap) : Act (ValImpl × Heap) := do
  let video ← ValVideoImpl.new v.mDevCap
  let heap' : Heap := .create heap.next :: heap
  let heap'' : Heap := .create heap'.next :: heap'
  -- what the pointers held is not deleted
  pure ({ v with video := some ⟨heap.next, video⟩, controls := some ⟨heap'.next, ⟨⟩⟩ }, heap'')

/-- `deinitialize`, whose result is always true: the pointers stay. -/
def deinitializeVal (v : ValImpl) (heap : Heap) : ValImpl × Heap :=
  (v, (heap.deleteObject v.video).deleteObject v.controls)

/-! ## Runs -/

/-- The calls that bring the instance up and down. -/
inductive Call
  | initializeVal
  | deinitializeVal
  deriving DecidableEq, Repr

def run (v : ValImpl) (heap : Heap) : Call → Act (ValImpl × Heap)
  | .initializeVal => v.initializeVal heap
  | .deinitializeVal => pure (v.deinitializeVal heap)

/-- A call takes the instance and the heap, with what happened so far, to the next ones. -/
def Step (k : Kernel) (s : (ValImpl × Heap) × History) (call : Call)
    (s' : (ValImpl × Heap) × History) : Prop :=
  s.1.1.run s.1.2 call k s.2 = .ok s'

/-- The objects that the instance holds. -/
def held (v : ValImpl) : List ℕ :=
  (v.video.map Object.id).toList ++ (v.controls.map Object.id).toList

/-- Every object was deleted at most once, and those that were not are held. -/
structure Sound (v : ValImpl) (heap : Heap) : Prop where
  once : heap.deleted.Nodup
  held : ∀ id ∈ heap.created, id ∉ heap.deleted → id ∈ v.held

/-- Of two calls in turn that are the same, there are only those of `deinitialize`
    before the first `initialize`. The newest call comes first. -/
def Paired (calls : List Call) : Prop :=
  ∀ later call earlier, calls = later ++ call :: call :: earlier →
    call = .deinitializeVal ∧ .initializeVal ∉ earlier

variable {k : Kernel} {h h' : History} {v v' : ValImpl} {heap heap' : Heap}

/-- What `initialize` does: two objects are created, and held. -/
theorem initializeVal_eq_ok (hr : v.initializeVal heap k h = .ok ((v', heap'), h')) :
    v'.held = [heap.next, heap.next + 1] ∧
      heap' = .create (heap.next + 1) :: .create heap.next :: heap := by
  rw [initializeVal, Prog.bind_eq_ok] at hr
  obtain ⟨video, h₁, _, hr⟩ := hr
  cases hr
  exact ⟨rfl, rfl⟩

/-- What `deinitialize` does: what is held is deleted, and held on. -/
theorem deinitializeVal_eq (v : ValImpl) (heap : Heap) :
    v.deinitializeVal heap = (v, heap.deleteAll v.held) := by
  rw [deinitializeVal, held]
  cases v.video <;> cases v.controls <;> rfl

variable {call : Call} {s s' s₁ s₂ : (ValImpl × Heap) × History}

theorem step_initializeVal (hs : Step k s .initializeVal s') :
    s'.1.1.held = [s.1.2.next, s.1.2.next + 1] ∧
      s'.1.2 = .create (s.1.2.next + 1) :: .create s.1.2.next :: s.1.2 :=
  initializeVal_eq_ok hs

theorem step_deinitializeVal (hs : Step k s .deinitializeVal s') :
    s'.1 = (s.1.1, s.1.2.deleteAll s.1.1.held) := by
  obtain ⟨hs, _⟩ := Prod.mk.inj (Prog.pure_eq_ok.1 hs)
  exact hs.trans (deinitializeVal_eq _ _)

theorem step_cases (hs : Step k s call s') :
    (call = .initializeVal ∧ s'.1.1.held = [s.1.2.next, s.1.2.next + 1] ∧
      s'.1.2 = .create (s.1.2.next + 1) :: .create s.1.2.next :: s.1.2) ∨
    (call = .deinitializeVal ∧ s'.1 = (s.1.1, s.1.2.deleteAll s.1.1.held)) := by
  cases call with
  | initializeVal => exact .inl ⟨rfl, step_initializeVal hs⟩
  | deinitializeVal => exact .inr ⟨rfl, step_deinitializeVal hs⟩

/-! ## All runs -/

/-- The objects are numbered, and only those that were created are deleted and held. -/
structure Numbered (v : ValImpl) (heap : Heap) : Prop where
  created : ∀ id ∈ heap.created, id < heap.next
  deleted : ∀ id ∈ heap.deleted, id ∈ heap.created
  held : ∀ id ∈ v.held, id ∈ heap.created

variable {json : Pbnjson} {config : Option JValue} {h₀ : History} {calls : List Call}

/-- The next two objects are created, and held. -/
theorem Numbered.create (hn : Numbered v heap) (hheld : v'.held = [heap.next, heap.next + 1]) :
    Numbered v' (.create (heap.next + 1) :: .create heap.next :: heap) where
  created id hid := by
    have hnext : Heap.next (.create (heap.next + 1) :: .create heap.next :: heap) =
        heap.next + 2 := rfl
    rw [hnext]
    simp only [Heap.created_create, List.mem_cons] at hid
    rcases hid with rfl | rfl | hid
    · omega
    · omega
    · exact Nat.lt_add_right 2 (hn.created id hid)
  deleted id hid := List.mem_cons_of_mem _ (List.mem_cons_of_mem _ (hn.deleted id hid))
  held id hid := by
    rw [hheld] at hid
    simp only [Heap.created_create, List.mem_cons, List.not_mem_nil, or_false] at hid ⊢
    exact hid.elim (fun h => .inr (.inl h)) .inl

/-- What is held is deleted. -/
theorem Numbered.deleteAll (hn : Numbered v heap) : Numbered v (heap.deleteAll v.held) where
  created := by
    rw [Heap.next, Heap.created_deleteAll]
    exact hn.created
  deleted id hid := by
    rw [Heap.created_deleteAll]
    rw [Heap.deleted_deleteAll] at hid
    rcases List.mem_append.1 hid with hid | hid
    · exact hn.held id (List.mem_reverse.1 hid)
    · exact hn.deleted id hid
  held := by
    rw [Heap.created_deleteAll]
    exact hn.held

theorem numbered_of_run (hr : Run (Step k) ((getInstance json config none, []), h₀) calls s) :
    Numbered s.1.1 s.1.2 := by
  refine hr.invariant (fun s => Numbered s.1.1 s.1.2)
    ⟨List.forall_mem_nil _, List.forall_mem_nil _, List.forall_mem_nil _⟩ fun s call s' hn hs => ?_
  rcases step_cases hs with ⟨_, hheld, hheap⟩ | ⟨_, heq⟩
  · rw [hheap]
    exact hn.create hheld
  · rw [heq]
    exact hn.deleteAll

/-- After the first `initialize` there is always something held. -/
theorem held_of_run (hr : Run (Step k) ((getInstance json config none, []), h₀) calls s) :
    .initializeVal ∈ calls ↔ s.1.1.held ≠ [] := by
  refine hr.ghost (fun calls s => .initializeVal ∈ calls ↔ s.1.1.held ≠ [])
    (by simp [held, getInstance]) fun calls s call s' hi hs => ?_
  rcases step_cases hs with ⟨rfl, hheld, _⟩ | ⟨rfl, heq⟩
  · simp [hheld]
  · rw [heq, List.mem_cons, ← hi]
    simp

/-! ## Paired calls -/

theorem Paired.of_suffix {calls' : List Call} (hp : Paired calls) (hs : calls' <:+ calls) :
    Paired calls' := by
  rintro later call earlier rfl
  obtain ⟨later', rfl⟩ := hs
  exact hp (later' ++ later) call earlier (List.append_assoc _ _ _).symm

/-- Calls that alternate are paired. -/
theorem paired_of_isChain (hc : calls.IsChain (· ≠ ·)) : Paired calls := by
  rintro later call earlier rfl
  exact absurd rfl (List.isChain_append_cons_cons.1 hc).2.1

/-- Two objects are created, and held. -/
theorem proper_initializeVal {heap : Heap} (hn : ∀ id ∈ heap.created, id < heap.next)
    (hp : Ledger.Proper HeapEvent.creates HeapEvent.deletes heap 0) :
    Ledger.Proper HeapEvent.creates HeapEvent.deletes
      (.create (heap.next + 1) :: .create heap.next :: heap)
        ([heap.next, heap.next + 1] : Multiset ℕ) := by
  have hfirst := hp.acquire (e := .create heap.next) rfl rfl fun hmem => (hn _ hmem).false
  have hsecond := hfirst.acquire (e := .create (heap.next + 1)) rfl rfl fun hmem => by
    rcases List.mem_cons.1 hmem with heq | hmem
    · omega
    · have := hn _ hmem
      omega
  rw [Multiset.cons_swap] at hsecond
  exact hsecond

/-- Before a call of `deinitialize` that does not follow one of `initialize`, nothing is
    held. -/
theorem held_eq_nil (hr : Run (Step k) ((getInstance json config none, []), h₀) calls s)
    (hp : Paired (.deinitializeVal :: calls)) (hhead : calls.head? ≠ some .initializeVal) :
    s.1.1.held = [] := by
  by_contra hheld
  have hmem := (held_of_run hr).2 hheld
  cases calls with
  | nil => cases hmem
  | cons call earlier =>
    cases call with
    | initializeVal => exact hhead rfl
    | deinitializeVal =>
      exact (hp [] _ earlier rfl).2 ((List.mem_cons.1 hmem).resolve_left (by simp))

/-- In a run of paired calls, what is alive is what the last `initialize` made,
    unless it was deleted. -/
theorem proper_of_run (hr : Run (Step k) ((getInstance json config none, []), h₀) calls s)
    (hp : Paired calls) : Ledger.Proper HeapEvent.creates HeapEvent.deletes s.1.2
      (if calls.head? = some .initializeVal then (s.1.1.held : Multiset ℕ) else 0) := by
  induction hr with
  | nil => exact .nil
  | @step calls call s s' hr hs ih =>
    have hproper := ih (hp.of_suffix (List.suffix_cons _ _))
    rcases step_cases hs with ⟨rfl, hheld, hheap⟩ | ⟨rfl, heq⟩
    · -- the call before was none of `initialize`
      have hhead : calls.head? ≠ some .initializeVal := by
        intro hhead
        obtain ⟨earlier, rfl⟩ := List.head?_eq_some_iff.1 hhead
        cases (hp [] _ earlier rfl).1
      rw [if_neg hhead] at hproper
      rw [List.head?_cons, if_pos rfl, hheld, hheap]
      exact proper_initializeVal (numbered_of_run hr).created hproper
    · rw [List.head?_cons, if_neg (by simp), heq]
      refine .release_all ?_ (fun _ => rfl) fun _ => rfl
      -- what is held is alive, or nothing is held
      by_cases hhead : calls.head? = some .initializeVal
      · rwa [if_pos hhead] at hproper
      · rw [if_neg hhead] at hproper
        rw [held_eq_nil hr hp hhead]
        exact hproper

/-- What is alive at the end of a proper heap is held. -/
theorem sound_of_proper {v : ValImpl} {heap : Heap} {alive : Multiset ℕ}
    (hp : Ledger.Proper HeapEvent.creates HeapEvent.deletes heap alive)
    (hheld : ∀ id ∈ alive, id ∈ v.held) : v.Sound heap where
  once := hp.nodup_released
  held id hid hnot := by
    have hmem : id ∈ (heap.created : Multiset ℕ) := hid
    rw [Heap.created, hp.balance, Multiset.mem_add] at hmem
    exact hheld id (hmem.resolve_right hnot)

/-! ## Calls that are not paired -/

/-- The objects that the first of two calls in turn made are lost. -/
theorem not_sound_of_initializeVal_twice (hn : Numbered s.1.1 s.1.2)
    (h₁ : Step k s .initializeVal s₁) (h₂ : Step k s₁ .initializeVal s₂) :
    ¬ Sound s₂.1.1 s₂.1.2 := by
  obtain ⟨_, hheap₁⟩ := step_initializeVal h₁
  obtain ⟨hheld₂, hheap₂⟩ := step_initializeVal h₂
  have hnext : s₁.1.2.next = s.1.2.next + 2 := by rw [hheap₁]; rfl
  intro hsound
  have hcreated : s.1.2.next ∈ s₂.1.2.created := by
    rw [hheap₂, hheap₁]
    simp
  have hdeleted : s.1.2.next ∉ s₂.1.2.deleted := by
    rw [hheap₂, hheap₁]
    exact fun hmem => (hn.created _ (hn.deleted _ hmem)).false
  have hheld := hsound.held _ hcreated hdeleted
  rw [hheld₂, hnext] at hheld
  simp only [List.mem_cons, List.not_mem_nil, or_false] at hheld
  omega

/-- What is held is deleted by each of two calls in turn. -/
theorem not_sound_of_deinitializeVal_twice (hheld : s.1.1.held ≠ [])
    (h₁ : Step k s .deinitializeVal s₁) (h₂ : Step k s₁ .deinitializeVal s₂) :
    ¬ Sound s₂.1.1 s₂.1.2 := by
  have heq₁ := step_deinitializeVal h₁
  have heq₂ := step_deinitializeVal h₂
  intro hsound
  obtain ⟨id, hid⟩ := List.exists_mem_of_ne_nil _ hheld
  have hnodup := hsound.once
  rw [heq₂, heq₁, Heap.deleted_deleteAll, Heap.deleted_deleteAll] at hnodup
  exact (List.nodup_append.1 hnodup).2.2 id (List.mem_reverse.2 hid) id
    (List.mem_append_left _ (List.mem_reverse.2 hid)) rfl

/-- Every object is deleted at most once, and none is lost, at every time of a run,
    if and only if the calls are paired. -/
theorem sound_of_run_iff (hr : Run (Step k) ((getInstance json config none, []), h₀) calls s) :
    (∀ calls' s', calls' <:+ calls →
      Run (Step k) ((getInstance json config none, []), h₀) calls' s' → Sound s'.1.1 s'.1.2) ↔
    Paired calls := by
  constructor
  · rintro hsound later call earlier rfl
    obtain ⟨s₂, hr₂⟩ := hr.exists_of_append
    have hs₂ := hsound _ s₂ (List.suffix_append later _) hr₂
    cases hr₂ with | step hr₁ h₂ => ?_
    cases hr₁ with | step hr₀ h₁ => ?_
    cases call with
    | initializeVal => exact (not_sound_of_initializeVal_twice (numbered_of_run hr₀) h₁ h₂ hs₂).elim
    | deinitializeVal =>
      refine ⟨rfl, fun hmem => ?_⟩
      exact not_sound_of_deinitializeVal_twice ((held_of_run hr₀).1 hmem) h₁ h₂ hs₂
  · intro hp calls' s' hsuffix hr'
    refine sound_of_proper (proper_of_run hr' (hp.of_suffix hsuffix)) fun id hid => ?_
    split at hid
    · exact hid
    · exact absurd hid (Multiset.notMem_zero id)

/-- Up, down and up again: the objects made last are held. -/
theorem sound_up_and_down : ∃ s,
    Run (Step (.willing fun _ => .oneDisplay)) ((getInstance .plain none none, []), [])
      [.initializeVal, .deinitializeVal, .initializeVal] s ∧
    ∀ calls' s', calls' <:+ [.initializeVal, .deinitializeVal, .initializeVal] →
      Run (Step (.willing fun _ => .oneDisplay)) ((getInstance .plain none none, []), [])
        calls' s' → Sound s'.1.1 s'.1.2 := by
  let k : Kernel := .willing fun _ => .oneDisplay
  let v₀ : ValImpl := getInstance .plain none none
  have hrun : (v₀.initializeVal [] k []).map (fun s =>
      let (v, heap) := s.1.1.deinitializeVal s.1.2
      (v.initializeVal heap k s.2).map fun _ => ()) = .ok (.ok ()) := by
    decide +kernel
  obtain ⟨s₁, hfirst, hobs⟩ := Prog.exists_of_map_eq_ok hrun
  obtain ⟨s₃, hthird, _⟩ := Prog.exists_of_map_eq_ok hobs
  have h₁ : Step k ((v₀, []), []) .initializeVal s₁ := hfirst
  have h₂ : Step k s₁ .deinitializeVal (s₁.1.1.deinitializeVal s₁.1.2, s₁.2) := rfl
  have h₃ : Step k (s₁.1.1.deinitializeVal s₁.1.2, s₁.2) .initializeVal s₃ := hthird
  have hr := ((Run.nil.step h₁).step h₂).step h₃
  exact ⟨s₃, hr, (sound_of_run_iff hr).2 (paired_of_isChain (by decide))⟩

/-- Up and down twice: both objects are deleted by each of the two. -/
theorem deinitializeVal_deletes_twice : ∃ s,
    Run (Step (.willing fun _ => .oneDisplay)) ((getInstance .plain none none, []), [])
      [.deinitializeVal, .deinitializeVal, .initializeVal] s ∧
    s.1.2.deleted = [1, 0, 1, 0] ∧ ¬ Sound s.1.1 s.1.2 := by
  let k : Kernel := .willing fun _ => .oneDisplay
  let v₀ : ValImpl := getInstance .plain none none
  let down (s : (ValImpl × Heap) × History) : (ValImpl × Heap) × History :=
    (s.1.1.deinitializeVal s.1.2, s.2)
  have hrun : (v₀.initializeVal [] k []).map (fun s => (down (down s)).1.2.deleted) =
      .ok [1, 0, 1, 0] := by
    decide +kernel
  obtain ⟨s₁, hup, hdeleted⟩ := Prog.exists_of_map_eq_ok hrun
  have h₁ : Step k ((v₀, []), []) .initializeVal s₁ := hup
  have h₂ : Step k s₁ .deinitializeVal (down s₁) := rfl
  have h₃ : Step k (down s₁) .deinitializeVal (down (down s₁)) := rfl
  refine ⟨down (down s₁), ((Run.nil.step h₁).step h₂).step h₃, hdeleted, fun hsound => ?_⟩
  have hnodup := hsound.once
  rw [hdeleted] at hnodup
  exact absurd hnodup (by decide)

end ValImpl

end ValRpi
