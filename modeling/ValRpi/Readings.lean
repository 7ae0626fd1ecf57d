import ValRpi.Reach

/-!
# What a setup reads

The setup of a device reads what the kernel answers about each connector and
writes to the CRTC that the connector is given. What it reads does not depend on
what it writes. So it is a function of its readings (`DriDevice.Reading`), and
these are the kernel's answers, which may change from one query to the next
(`setupDevice_reads`).

Of several readings for a CRTC the last one counts (`lastFor`).
-/

namespace ValRpi

variable {k : Kernel} {h h' : History} {fd : ℤ}

/-- What the setup reads about a plugged connector that it gives a CRTC: the ids
    of both, and the answer to the second query, whether it is still plugged
    and its modes. -/
structure Reading where
  connId : ℕ
  crtcId : ℕ
  plugged : Bool
  modes : List ModeInfo
  deriving DecidableEq, Repr

namespace Reading

/-- The modes that `getModeRange` points to, if any. -/
def range (r : Reading) : Option (ModeInfo × ModeInfo) :=
  if r.plugged then DrmConnector.modeRange r.modes else none

def min (r : Reading) : ModeInfo := (r.range.getD default).1

def max (r : Reading) : ModeInfo := (r.range.getD default).2

/-- The write to a CRTC that the reading is for. -/
def write (confMode : Size) (r : Reading) (c : DrmCrtc) : DrmCrtc :=
  c.assign r.connId confMode r.min r.max

end Reading

/-- The part of the body of the loop of `setupDevice` that asks. -/
def readConnector (fd : ℤ) (conn : DrmConnector) : Act (DrmConnector × Option Reading) := do
  let connId := conn.connectorId
  let (plugged, conn) ← conn.isPlugged
  if !plugged then
    pure (conn, none)
  else
    let crtcId ← findCrtc fd conn
    if crtcId = 0 then
      pure (conn, none)
    else
      let (plugged, conn) ← (conn.setCrtcId crtcId).isPlugged
      pure (conn, some ⟨connId, crtcId, plugged, conn.mConnectorPtr.modes⟩)

/-- What is read is what the connector then holds. -/
structure Reading.Of (conn : DrmConnector) (r : Reading) : Prop where
  connId : r.connId = conn.connectorId
  plugged : r.plugged = conn.mConnectorPtr.plugged
  modes : r.modes = conn.mConnectorPtr.modes

theorem readConnector_of {conn conn' : DrmConnector} {r : Reading}
    (hr : readConnector fd conn k h = .ok ((conn', some r), h')) : r.Of conn' := by
  rw [readConnector, Prog.bind_eq_ok] at hr
  obtain ⟨⟨plugged, conn₁⟩, h₁, hp, hr⟩ := hr
  cases plugged with
  | false =>
    simp only [Bool.not_false, if_true, Prog.pure_eq_ok] at hr
    cases hr
  | true =>
    simp only [Bool.not_true, Bool.false_eq_true, if_false, Prog.bind_eq_ok] at hr
    obtain ⟨id, h₂, _, hr⟩ := hr
    split at hr
    · rw [Prog.pure_eq_ok] at hr
      cases hr
    · simp only [Prog.bind_eq_ok, Prog.pure_eq_ok] at hr
      obtain ⟨⟨plugged, conn₂⟩, h₃, hp', hr⟩ := hr
      cases hr
      obtain ⟨p, _, rfl, rfl, _⟩ := DrmConnector.isPlugged_eq_ok.1 hp'
      exact ⟨(DrmConnector.refreshed_of_isPlugged hp).connectorId.symm, rfl, rfl⟩

/-- The part of it that writes. -/
def writeReading (confMode : Size) (conn : DrmConnector) (crtcs : List DrmCrtc) :
    Option Reading → Act (DrmConnector × List DrmCrtc)
  | none => pure (conn, crtcs)
  | some r => do
    let (_, crtcs) ← .visitFirst (DrmCrtc.hasId r.crtcId)
      (DrmCrtc.assignRange r.connId confMode r.range) crtcs
    pure (conn, crtcs)

/-- The setup of a connector reads and then writes. -/
theorem setupConnector_eq_read (fd : ℤ) (confMode : Size) (conn : DrmConnector)
    (crtcs : List DrmCrtc) : setupConnector fd confMode conn crtcs =
      readConnector fd conn >>= fun p => writeReading confMode p.1 crtcs p.2 := by
  rw [setupConnector, readConnector]
  simp only [DrmConnector.getModeRange, bind_assoc]
  refine bind_congr fun r => ?_
  obtain ⟨plugged, conn₁⟩ := r
  cases plugged with
  | false => rfl
  | true =>
    simp only [Bool.not_true, Bool.false_eq_true, if_false, bind_assoc]
    refine bind_congr fun crtcId => ?_
    split
    · rfl
    · simp only [bind_assoc, pure_bind]
      rfl

namespace DriDevice

variable {d d' : DriDevice} {confMode : Size}

/-- The part of `setupDevice` that asks. -/
def read (d : DriDevice) : Act (List DrmConnector × List Reading) := do
  d.checkDumbBuff
  .gather (readConnector d.drmModuleFd) d.connectorList

/-- The last reading for a CRTC. -/
def lastFor (rs : List Reading) (crtcId : ℕ) : Option Reading :=
  (rs.filter (·.crtcId == crtcId)).getLast?

/-- A CRTC after the writes of some readings. -/
def written (confMode : Size) (rs : List Reading) (c : DrmCrtc) : DrmCrtc :=
  ((lastFor rs c.id).map (·.write confMode c)).getD c

/-- A device after the writes of some readings. -/
def afterReads (d : DriDevice) (confMode : Size) (conns : List DrmConnector) (rs : List Reading) :
    DriDevice :=
  { d with
    hasDumbBuffChecked := true
    connectorList := conns
    crtcList := d.crtcList.map (written confMode rs) }

/-- The setup of a device is a function of its readings. -/
theorem setupDevice_reads (hd : ReadCrtcs d.crtcList)
    (hs : d.setupDevice confMode k h = .ok (d', h')) :
    ∃ conns rs, d.read k h = .ok ((conns, rs), h') ∧ d' = d.afterReads confMode conns rs := by
  rw [setupDevice, Prog.bind_eq_ok] at hs
  obtain ⟨_, h₁, hcheck, hs⟩ := hs
  simp only [Prog.bind_eq_ok, Prog.pure_eq_ok, Prod.exists, Prod.mk.injEq] at hs
  obtain ⟨conns, crtcs, h₂, hloop, rfl, rfl⟩ := hs
  have hreads : ∃ rs, Prog.gather (readConnector d.drmModuleFd) d.connectorList k h₁ =
      .ok ((conns, rs), h') ∧ crtcs = rs.foldl (fun crtcs r => crtcs.map fun c =>
        if r.crtcId == c.id then r.write confMode c else c) d.crtcList := by
    refine Prog.forEach_eq_gather ReadCrtcs (fun conn _ crtcs conn' crtcs' l l' hinv hf => ?_) hd
      hloop
    rw [setupConnector_eq_read, Prog.bind_eq_ok] at hf
    obtain ⟨⟨conn₁, r⟩, l₁, hread, hf⟩ := hf
    cases r with
    | none =>
      rw [writeReading, Prog.pure_eq_ok] at hf
      cases hf
      exact ⟨none, hread, rfl, hinv⟩
    | some r =>
      simp only [writeReading, Prog.bind_eq_ok, Prog.pure_eq_ok, Prod.exists, Prod.mk.injEq] at hf
      obtain ⟨_, crtcs₁, _, hv, ⟨rfl, rfl⟩, rfl⟩ := hf
      obtain ⟨rfl, hmap⟩ :=
        And.intro (visitFirst_assignRange_log hv) (visitFirst_assignRange hinv hv)
      refine ⟨some r, hread, hmap, ?_⟩
      rw [hmap]
      exact hinv.map fun c => by split <;> rfl
  obtain ⟨rs, hgather, rfl⟩ := hreads
  refine ⟨conns, rs, ?_, ?_⟩
  · rw [read, Prog.bind_of_ok hcheck]
    exact hgather
  · rw [afterReads, Lists.foldl_map_eq (fun r c => r.crtcId == DrmCrtc.id c)
      (Reading.write confMode)]
    refine congrArg (DriDevice.mk _ _ _ _ _ · _) (List.map_congr_left fun c _ => ?_)
    refine Lists.settle_eq (fun r c => r.crtcId == DrmCrtc.id c) (Reading.write confMode)
      (fun r r' c => ?_) (fun _ _ _ => rfl) rs c
    simp only [Reading.write, DrmCrtc.assign_eq]

theorem mem_of_lastFor {rs : List Reading} {crtcId : ℕ} {r : Reading}
    (hr : r ∈ lastFor rs crtcId) : r ∈ rs ∧ r.crtcId = crtcId := by
  have hmem := List.mem_of_getLast? hr
  rwa [List.mem_filter, beq_iff_eq] at hmem

@[simp]
theorem id_written (rs : List Reading) (c : DrmCrtc) : (written confMode rs c).id = c.id := by
  rw [written]
  cases lastFor rs c.id <;> rfl

theorem mCrtc_written (rs : List Reading) (c : DrmCrtc) :
    (written confMode rs c).mCrtc = c.mCrtc := by
  rw [written]
  cases lastFor rs c.id <;> rfl

theorem crtcId_written (rs : List Reading) (c : DrmCrtc) :
    (written confMode rs c).crtcId = c.crtcId := by
  rw [DrmCrtc.crtcId, mCrtc_written, DrmCrtc.crtcId]

/-- A write leaves the framebuffer and the buffer alone, and so does no write. -/
theorem boHandle_written (rs : List Reading) (c : DrmCrtc) :
    (written confMode rs c).boHandle = c.boHandle := by
  rw [written]
  cases lastFor rs c.id <;> rfl

/-- A CRTC that is written to has the connector of the reading only. -/
theorem connectors_written (rs : List Reading) (c : DrmCrtc) :
    (written confMode rs c).connectors =
      ((lastFor rs c.id).map fun r => [r.connId]).getD c.connectors := by
  rw [written]
  cases lastFor rs c.id with
  | none => rfl
  | some r => exact congrArg DrmCrtc.connectors (DrmCrtc.assign_eq _ _ _ _ _)

theorem max_written (rs : List Reading) (c : DrmCrtc) :
    (written confMode rs c).max =
      ((lastFor rs c.id).map (clampMode ·.max confMode)).getD c.max := by
  rw [written]
  cases lastFor rs c.id <;> rfl

end DriDevice

/-- An update reads about the device of the name, if there is one, and writes. -/
theorem DRIElements.updateDevice_reads {e e' : DRIElements}
    (he : e.AllRead) {name : String} {called : Bool}
    (hu : e.updateDevice name k h = .ok ((called, e'), h')) :
    (e.mDeviceList.lookup name = none ∧ e' = e ∧ h' = h) ∨
      ∃ d conns rs, e.mDeviceList.lookup name = some d ∧ d.read k h = .ok ((conns, rs), h') ∧
        e' = { e with
          mDeviceList := mapSet name (d.afterReads e.mInitialMode conns rs) e.mDeviceList } := by
  rcases updateDevice_eq_ok hu with hnone | ⟨d, d', hd, hsetup, rfl⟩
  · exact .inl hnone
  · rw [confMode_eq] at hsetup
    obtain ⟨conns, rs, hread, rfl⟩ :=
      DriDevice.setupDevice_reads (he _ (Lists.mem_of_lookup hd)) hsetup
    exact .inr ⟨d, conns, rs, hd, hread, rfl⟩

end ValRpi
