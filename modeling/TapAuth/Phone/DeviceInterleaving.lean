import TapAuth.Lib.Serial
import TapAuth.Phone.PairingClient

/-!
# Operations on the paired desktops that overlap

Every operation of `DeviceRepository` reads the whole list and writes a whole list back, and
nothing keeps two of them apart.  The end of a pairing reads the list twice: `completePairing`
looks for an entry of the desktop and makes the entry to be saved from it, and
`savePairedDevice` reads the list again before it writes.

If every access of an operation finds the list as the operation has read it before, the list
is as some order of the operations leaves it; and if no other `savePairedDevice` brings a key
that another entry holds, no two entries ever hold one key (`devices_serializable`).
Otherwise one desktop can be paired twice (`desktop_paired_twice`).
-/

namespace TapAuth.Phone

open Shared

/-! ## The operations -/

/-- What `completePairing` holds when it reads the list. -/
structure Completion where
  clientEd25519Key : Bytes
  csk : Bytes
  clientDeviceName : String
  username : String
  io : ClientIo

/-- The entry it makes of the list. -/
def Completion.device (completion : Completion) (list : DeviceList) : PairedDevice :=
  pairedDevice list completion.clientEd25519Key completion.csk completion.clientDeviceName
    completion.username completion.io

/-- The entry of every completed pairing is made so. -/
theorem exists_completion {P : Primitives} {frame : Frame} {awaiting : AwaitingSasVerification}
    {list : DeviceList} {io : ClientIo} {complete : Bytes} {device : PairedDevice}
    (h : completePairing P awaiting true frame list io = .ok (complete, device)) :
    ∃ completion : Completion, completion.clientEd25519Key = awaiting.clientEd25519Key ∧
      completion.device list = device := by
  obtain ⟨bytes, message, csk, -, -, -, hdevice⟩ := completePairing_eq_ok h
  exact ⟨⟨_, csk, awaiting.clientDeviceName, message.username, io⟩, rfl, hdevice.symm⟩

inductive DeviceOperation where
  | savePairedDevice (device : PairedDevice)
  | removePairedDevice (deviceId : String)
  | removeUserFromDevice (deviceId username : String)
  /-- `completePairing` from its read on, and the save of its entry. -/
  | pairing (completion : Completion)

/-- What an operation returns: for the removal of a user, whether the entry is gone. -/
inductive DeviceAnswer where
  | unit
  | removed (entirely : Bool)
  deriving DecidableEq

/-- The operation, alone. -/
def DeviceOperation.run (list : DeviceList) : DeviceOperation → DeviceList × DeviceAnswer
  | .savePairedDevice device => (list.savePairedDevice device, .unit)
  | .removePairedDevice deviceId => (list.removePairedDevice deviceId, .unit)
  | .removeUserFromDevice deviceId username =>
    match list.removeUserFromDevice deviceId username with
    | none => (list, .removed true)
    | some (left, removed) => (left, .removed removed)
  | .pairing completion => (list.savePairedDevice (completion.device list), .unit)

/-! ## Their accesses -/

/-- An operation between its accesses. -/
inductive DevicePhase where
  | idle (op : DeviceOperation)
  /-- `completePairing` has made its entry of the list it read. -/
  | decided (completion : Completion) (device : PairedDevice) (read : DeviceList)
  /-- The list that `op` is about to write, and the one it read. -/
  | writing (op : DeviceOperation) (list : DeviceList) (answer : DeviceAnswer) (read : DeviceList)
  | done (answer : DeviceAnswer)

def DevicePhase.IsDone : DevicePhase → Prop
  | .done _ => True
  | _ => False

def deviceStep (s : DeviceList) : DevicePhase → Option (DeviceList × DevicePhase)
  | .idle (.savePairedDevice device) =>
    some (s, .writing (.savePairedDevice device) (s.savePairedDevice device) .unit s)
  | .idle (.removePairedDevice deviceId) =>
    some (s, .writing (.removePairedDevice deviceId) (s.removePairedDevice deviceId) .unit s)
  | .idle (.removeUserFromDevice deviceId username) =>
    match s.removeUserFromDevice deviceId username with
    | none => some (s, .done (.removed true))
    | some (left, removed) =>
      some (s, .writing (.removeUserFromDevice deviceId username) left (.removed removed) s)
  | .idle (.pairing completion) => some (s, .decided completion (completion.device s) s)
  | .decided completion device _ =>
    some (s, .writing (.pairing completion) (s.savePairedDevice device) .unit s)
  | .writing _ list answer _ => some (list, .done answer)
  | .done _ => none

/-- Operations whose accesses interleave. -/
def deviceThreads : Threads DeviceList DevicePhase Unit := ⟨fun s phase _ ↦ deviceStep s phase⟩

/-- The stored list and the operations that are to run on it. -/
def devicePool {ι : Type} (list : DeviceList) (ops : ι → DeviceOperation) :
    Pool ι DeviceList DevicePhase :=
  ⟨list, fun i ↦ .idle (ops i)⟩

/-- Operations one after the other. -/
def runInTurn {ι : Type} (ops : ι → DeviceOperation) (order : List ι) (list : DeviceList) :
    DeviceList :=
  order.foldl (fun list i ↦ ((ops i).run list).1) list

/-- The list is as the operation has read it. -/
def DevicePhase.finds (s : DeviceList) : DevicePhase → Bool
  | .decided _ _ read | .writing _ _ _ read => s = read
  | _ => true

/-- What is saved outside a pairing brings no key that an entry of another identifier holds. -/
def DevicePhase.keepsKeys (s : DeviceList) : DevicePhase → Bool
  | .writing (.savePairedDevice device) _ _ _ =>
    s.devices.all fun d ↦ d.publicKey ≠ device.publicKey || d.deviceId = device.deviceId
  | _ => true

/-- No other operation has written between two accesses of one. -/
def UnracedAccess {ι : Type} (p : Pool ι DeviceList DevicePhase) (label : ι × Unit) : Prop :=
  (p.locals label.1).finds p.shared = true

def KeyedSave {ι : Type} (p : Pool ι DeviceList DevicePhase) (label : ι × Unit) : Prop :=
  (p.locals label.1).keepsKeys p.shared = true

instance {ι : Type} (p : Pool ι DeviceList DevicePhase) (label : ι × Unit) :
    Decidable (UnracedAccess p label) :=
  inferInstanceAs (Decidable (_ = true))

instance {ι : Type} (p : Pool ι DeviceList DevicePhase) (label : ι × Unit) :
    Decidable (KeyedSave p label) :=
  inferInstanceAs (Decidable (_ = true))

/-- No two entries hold one public key. -/
def DeviceList.KeysUnique (list : DeviceList) : Prop :=
  (list.devices.map PairedDevice.publicKey).Nodup

instance (list : DeviceList) : Decidable list.KeysUnique :=
  inferInstanceAs (Decidable (List.Nodup _))

/-! ## What an access does -/

/-- Where an operation can be. -/
inductive PhaseOf : DeviceOperation → DevicePhase → Prop where
  | idle (op : DeviceOperation) : PhaseOf op (.idle op)
  | decided (completion : Completion) (read : DeviceList) :
      PhaseOf (.pairing completion) (.decided completion (completion.device read) read)
  | writing (op : DeviceOperation) (read : DeviceList) :
      PhaseOf op (.writing op (op.run read).1 (op.run read).2 read)
  | done (op : DeviceOperation) (answer : DeviceAnswer) : PhaseOf op (.done answer)

/-- An unraced access reads, answers without a write because there is nothing to change, or
writes what the operation makes of the list. -/
inductive DeviceMove (op : DeviceOperation) (s : DeviceList) (before : DevicePhase) :
    DeviceList → DevicePhase → Prop where
  | reads (after : DevicePhase) (hafter : ¬ after.IsDone) : DeviceMove op s before s after
  | answers (answer : DeviceAnswer) (hrun : (op.run s).1 = s) :
      DeviceMove op s before s (.done answer)
  | writes (hbefore : before = .writing op (op.run s).1 (op.run s).2 s) :
      DeviceMove op s before (op.run s).1 (.done (op.run s).2)

section

variable {op : DeviceOperation} {s t : DeviceList} {before after : DevicePhase}

theorem DeviceMove.of_step (hphase : PhaseOf op before) (hfinds : before.finds s = true)
    (hstep : deviceStep s before = some (t, after)) :
    ¬ before.IsDone ∧ PhaseOf op after ∧ DeviceMove op s before t after := by
  cases hphase with
  | idle =>
    refine ⟨id, ?_⟩
    cases op with
    | savePairedDevice device | removePairedDevice deviceId =>
      cases hstep
      exact ⟨.writing _ s, .reads _ id⟩
    | removeUserFromDevice deviceId username =>
      cases hremove : s.removeUserFromDevice deviceId username with
      | none =>
        simp only [deviceStep, hremove] at hstep
        cases hstep
        refine ⟨.done _ _, .answers _ ?_⟩
        simp only [DeviceOperation.run, hremove]
      | some result =>
        simp only [deviceStep, hremove] at hstep
        cases hstep
        have hwriting := PhaseOf.writing (.removeUserFromDevice deviceId username) s
        simp only [DeviceOperation.run, hremove] at hwriting
        exact ⟨hwriting, .reads _ id⟩
    | pairing completion =>
      cases hstep
      exact ⟨.decided completion s, .reads _ id⟩
  | decided completion read =>
    obtain rfl : s = read := of_decide_eq_true hfinds
    cases hstep
    exact ⟨id, .writing (.pairing completion) s, .reads _ id⟩
  | writing _ read =>
    obtain rfl : s = read := of_decide_eq_true hfinds
    cases hstep
    exact ⟨id, .done op _, .writes rfl⟩
  | done answer => cases hstep

/-! ## Unique keys -/

theorem KeysUnique.savePairedDevice {device : PairedDevice} (h : s.KeysUnique)
    (hdevice : ∀ d ∈ s, d.publicKey = device.publicKey → d.deviceId = device.deviceId) :
    (s.savePairedDevice device).KeysUnique := by
  have hold : ((s.devices.filter fun d ↦ d.deviceId ≠ device.deviceId).map
      PairedDevice.publicKey).Nodup := h.sublist (List.filter_sublist.map _)
  change ((s.devices.filter _ ++ [device]).map _).Nodup
  rw [List.map_append, List.map_singleton, ← List.concat_eq_append]
  refine hold.concat fun hmem ↦ ?_
  obtain ⟨d, hd, hkey⟩ := List.mem_map.mp hmem
  obtain ⟨hd, hne⟩ := List.mem_filter.mp hd
  exact of_decide_eq_true hne (hdevice d hd hkey)

/-- A pairing replaces the entry of the desktop or adds the only one. -/
theorem KeysUnique.pairing (h : s.KeysUnique) (completion : Completion) :
    (s.savePairedDevice (completion.device s)).KeysUnique := by
  refine KeysUnique.savePairedDevice h fun d hd hkey ↦ ?_
  rw [Completion.device, publicKey_pairedDevice] at hkey
  rw [Completion.device, pairedDevice]
  cases hfind : s.findByPublicKey completion.clientEd25519Key with
  | none => exact absurd hkey (DeviceList.findByPublicKey_eq_none.mp hfind d hd)
  | some existing =>
    obtain ⟨hmem, hexisting⟩ := DeviceList.findByPublicKey_eq_some hfind
    have heq : d = existing := List.inj_on_of_nodup_map h hd hmem (hkey.trans hexisting.symm)
    rw [heq]
    rfl

theorem KeysUnique.removeUserFromDevice {deviceId username : String} {left : DeviceList}
    {removed : Bool} (h : s.KeysUnique)
    (hremove : s.removeUserFromDevice deviceId username = some (left, removed)) :
    left.KeysUnique := by
  unfold DeviceList.removeUserFromDevice at hremove
  split at hremove
  · cases hremove
  next hwithout =>
    cases hremove
    exact h.sublist (DeviceList.sublist_of_withoutUser (fun _ _ ↦ rfl) hwithout)

/-- An unraced access keeps the keys unique. -/
theorem KeysUnique.move (h : s.KeysUnique) (hkeeps : before.keepsKeys s = true)
    (hmove : DeviceMove op s before t after) : t.KeysUnique := by
  cases hmove with
  | reads | answers => exact h
  | writes hbefore =>
    cases op with
    | savePairedDevice device =>
      rw [hbefore, DevicePhase.keepsKeys, List.all_eq_true] at hkeeps
      refine KeysUnique.savePairedDevice h fun d hd hkey ↦ ?_
      simpa [hkey] using hkeeps d hd
    | removePairedDevice deviceId => exact h.sublist (List.filter_sublist.map _)
    | removeUserFromDevice deviceId username =>
      cases hremove : s.removeUserFromDevice deviceId username with
      | none =>
        simp only [DeviceOperation.run, hremove]
        exact h
      | some result =>
        simp only [DeviceOperation.run, hremove]
        exact KeysUnique.removeUserFromDevice h hremove
    | pairing completion => exact KeysUnique.pairing h completion

end

/-! ## Every interleaving -/

section

variable {ι : Type} [DecidableEq ι] {ops : ι → DeviceOperation} {list : DeviceList}
  {p q : Pool ι DeviceList DevicePhase}

/-- The list is what the operations that have finished make of it, in some order. -/
structure Overlap (ops : ι → DeviceOperation) (list : DeviceList)
    (p : Pool ι DeviceList DevicePhase) : Prop where
  order : Threads.Accounted (fun order ↦ runInTurn ops order list) DevicePhase.IsDone p
  phase : ∀ i, PhaseOf (ops i) (p.locals i)

theorem Overlap.move (h : Overlap ops list p) {i : ι} {u : Unit} (hunraced : UnracedAccess p (i, u))
    (hnext : deviceThreads.pool.next p (i, u) = some q) :
    ¬ (p.locals i).IsDone ∧ PhaseOf (ops i) (q.locals i) ∧
      DeviceMove (ops i) p.shared (p.locals i) q.shared (q.locals i) :=
  DeviceMove.of_step (h.phase i) hunraced (deviceThreads.step_of_pool_next hnext).1

theorem Overlap.next (h : Overlap ops list p) {label : ι × Unit} (hunraced : UnracedAccess p label)
    (hnext : deviceThreads.pool.next p label = some q) : Overlap ops list q := by
  obtain ⟨i, u⟩ := label
  obtain ⟨hbefore, hphase, hmove⟩ := h.move hunraced hnext
  refine ⟨h.order.next hnext (fun list ↦ ((ops i).run list).1) (fun order ↦ ?_) hbefore ?_,
    fun j ↦ ?_⟩
  · rw [runInTurn, runInTurn, List.foldl_append]
    rfl
  · generalize q.shared = t, q.locals i = after at hmove
    cases hmove with
    | reads _ hafter => exact .inl ⟨rfl, hafter⟩
    | answers _ hrun => exact .inr ⟨hrun.symm, trivial⟩
    | writes => exact .inr ⟨rfl, trivial⟩
  · by_cases hj : j = i
    · subst hj
      exact hphase
    · rw [(deviceThreads.step_of_pool_next hnext).2 j hj]
      exact h.phase j

omit [DecidableEq ι] in
theorem overlap_devicePool (list : DeviceList) (ops : ι → DeviceOperation) :
    Overlap ops list (devicePool list ops) where
  order := ⟨[], List.nodup_nil, fun _ ↦ iff_of_false List.not_mem_nil id, rfl⟩
  phase i := .idle (ops i)

/-- If no operation writes between two accesses of another, the list is at the end as some order
of the operations leaves it; and as long as what is saved outside a pairing brings no key of
another entry, no two entries ever hold one key. -/
theorem devices_serializable {labels : List (ι × Unit)}
    (hrun : deviceThreads.pool.exec (devicePool list ops) labels = some q)
    (hunraced : deviceThreads.pool.Along UnracedAccess (devicePool list ops) labels) :
    ((∀ i, (q.locals i).IsDone) →
      ∃ order : List ι, order.Nodup ∧ (∀ i, i ∈ order) ∧ q.shared = runInTurn ops order list) ∧
    (list.KeysUnique → deviceThreads.pool.Along KeyedSave (devicePool list ops) labels →
      q.shared.KeysUnique) := by
  refine ⟨fun hdone ↦ ?_, fun hkeys hkeyed ↦ ?_⟩
  · obtain ⟨order, hnodup, hmem, hshared⟩ :=
      (deviceThreads.pool.invariant_along (fun _ _ _ h hunraced hnext ↦ h.next hunraced hnext)
        (overlap_devicePool list ops) hrun hunraced).order
    exact ⟨order, hnodup, fun i ↦ (hmem i).mpr (hdone i), hshared⟩
  · refine (deviceThreads.pool.invariant_along
      (I := fun p ↦ Overlap ops list p ∧ p.shared.KeysUnique) ?_
      ⟨overlap_devicePool list ops, hkeys⟩ hrun (hunraced.and hkeyed)).2
    rintro p ⟨i, u⟩ q ⟨hoverlap, hkeys⟩ ⟨hunraced, hkeyed⟩ hnext
    obtain ⟨-, -, hmove⟩ := hoverlap.move hunraced hnext
    exact ⟨hoverlap.next hunraced hnext, KeysUnique.move hkeys hkeyed hmove⟩

end

namespace DevicesSample

/-- A pairing with one desktop, which knows two users. -/
def completion (username : String) (id : UInt8) : Completion where
  clientEd25519Key := [1]
  csk := [id]
  clientDeviceName := "desktop"
  username := username
  io := ⟨none, FixedBytes.fill 16 id, 0⟩

def ops : Bool → DeviceOperation
  | false => .pairing (completion "alice" 1)
  | true => .pairing (completion "bob" 2)

/-- Both look for the desktop before either has saved it. -/
def raced : List (Bool × Unit) :=
  [(false, ()), (true, ()), (false, ()), (false, ()), (true, ()), (true, ())]

def inTurn : List (Bool × Unit) :=
  [(false, ()), (false, ()), (false, ()), (true, ()), (true, ()), (true, ())]

/-- The pool at the end of a run. -/
def after (labels : List (Bool × Unit)) : Option (Pool Bool DeviceList DevicePhase) :=
  deviceThreads.pool.exec (devicePool .empty ops) labels

def twice : Pool Bool DeviceList DevicePhase := (after raced).get (by decide +kernel)

def once : Pool Bool DeviceList DevicePhase := (after inTurn).get (by decide +kernel)

end DevicesSample

open DevicesSample

/-- Two pairings with one desktop that overlap leave two entries with its key, which no order of
them does. -/
theorem desktop_paired_twice :
    deviceThreads.pool.exec (devicePool .empty ops) raced =
        some twice ∧
      (∀ i, (twice.locals i).IsDone) ∧ DeviceList.empty.KeysUnique ∧
      deviceThreads.pool.Along KeyedSave (devicePool .empty ops)
        raced ∧
      ¬ twice.shared.KeysUnique ∧
      ¬ ∃ order : List Bool, order.Nodup ∧ (∀ i, i ∈ order) ∧
        twice.shared = runInTurn ops order .empty := by
  refine ⟨(Option.some_get _).symm, fun i ↦ ?_, by decide, by decide +kernel, by decide +kernel, ?_⟩
  · cases i <;> trivial
  · rintro ⟨order, hnodup, hall, hshared⟩
    rcases Threads.order_of_two hnodup hall with rfl | rfl
    · exact absurd hshared (by decide +kernel)
    · exact absurd hshared (by decide +kernel)

/-- One pairing after the other, and the second adds its user to the entry of the first. -/
theorem devices_serializable_inTurn :
    (∃ order : List Bool, order.Nodup ∧ (∀ i, i ∈ order) ∧
        once.shared = runInTurn ops order .empty) ∧
      once.shared.KeysUnique := by
  have hrun : deviceThreads.pool.exec (devicePool .empty ops) inTurn =
      some once := (Option.some_get _).symm
  have h := devices_serializable hrun (by decide +kernel)
  refine ⟨h.1 fun i ↦ ?_, h.2 (by decide) (by decide +kernel)⟩
  cases i <;> trivial

end TapAuth.Phone
