import Mathlib.Algebra.BigOperators.Group.Finset.Basic
import Mathlib.Data.Fintype.Basic
import TapAuth.Shared.FirewallLocks

/-!
# Rules of the firewall guards

A port is open as long as a guard of it is referenced, or a call is on its way to close it
(`Ported`).  If each port is used with one protocol and the commands succeed, then a rule is
open exactly while a guard from a call with its port and protocol is alive, whenever no call
runs (`isOpen_iff_exists_handle`).

Since the guards are found by the port alone, a second protocol gets the guard of the first
and no rule (`isOpen_other_protocol`).
-/

namespace TapAuth.Shared.Firewall

/-! ## Operations on the state -/

namespace State

variable (s : State) (port other : UInt16) (id : Nat)

@[simp] theorem control_setControl (control : PortControl) :
    (s.setControl port control).control other =
      if other = port then control else s.control other := by
  by_cases h : other = port
  · subst h
    simp [State.control, setControl]
  · simp [State.control, setControl, h]

@[simp] theorem control_setLocked (lock : Lock) (locked : Bool) :
    (s.setLocked lock locked).control port = s.control port := rfl

/-- An entry that was missing is read as before. -/
theorem control_insert :
    ((s.setControl port (s.control port)).setLocked .map false).control other =
      s.control other := by
  rw [control_setLocked, control_setControl]
  split_ifs with h
  · rw [h]
  · rfl

@[simp] theorem control_store (protocol : Protocol) :
    (s.store port protocol).control other =
      if other = port then { s.control port with weak := some s.arcs.length }
      else s.control other := by
  by_cases h : other = port
  · subst h
    simp [State.control, store]
  · simp [State.control, store, h]

variable {s port id}

theorem upgrade_eq_some_iff :
    s.upgrade port = some id ↔ (s.control port).weak = some id ∧ 0 < s.strong id := by
  simp [upgrade, Option.filter_eq_some_iff]

theorem upgrade_eq_none_iff :
    s.upgrade port = none ↔ ∀ id, (s.control port).weak = some id → s.strong id = 0 := by
  simp [upgrade, Option.filter_eq_none_iff]

/-- The upgrade reads the weak reference and whether its guard is alive. -/
theorem upgrade_congr {s' : State} (hweak : (s'.control port).weak = (s.control port).weak)
    (hstrong : ∀ id, 0 < s'.strong id ↔ 0 < s.strong id) : s'.upgrade port = s.upgrade port := by
  simp only [upgrade, hweak, hstrong]

theorem upgrade_retain (h : 0 < s.strong id) : (s.retain id).upgrade port = s.upgrade port := by
  refine upgrade_congr rfl fun other ↦ ?_
  by_cases hother : other = id
  · simp [retain, hother, h]
  · simp [retain, hother]

theorem strong_release_le (other : Nat) : (s.release id).1.strong other ≤ s.strong other := by
  by_cases hother : other = id
  · simp [release, hother]
  · simp [release, hother]

theorem upgrade_release_eq_none (h : s.upgrade port = none) :
    (s.release id).1.upgrade port = none := by
  rw [upgrade_eq_none_iff] at h ⊢
  intro other hweak
  exact Nat.le_zero.mp ((strong_release_le other).trans (h other hweak).le)

end State

/-! ## Guards and entries -/

/-- The weak reference of a port is to a guard of it, a guard that is alive is the one of its
port, and the port of a guard that is alive is open. -/
structure State.Ok (s : State) : Prop where
  weak : ∀ port id, (s.control port).weak = some id →
    ∃ guard, s.arcs[id]? = some guard ∧ guard.port = port
  current : ∀ id, 0 < s.strong id →
    ∃ guard, s.arcs[id]? = some guard ∧ (s.control guard.port).weak = some id
  handle : ∀ handle ∈ s.handles,
    ∃ guard, s.arcs[handle.id]? = some guard ∧ guard.port = handle.port
  live : ∀ port id, s.upgrade port = some id → (s.control port).isOpen = true

/-- What a call relies on where it stands. -/
def Frame.Asserts (s : State) : Frame → Prop
  | .newOpen port _ | .closeClose port _ => s.upgrade port = none
  | .newStore port _ => s.upgrade port = none ∧ (s.control port).isOpen = true
  | .newReturn port _ (.ok id) => ∃ guard, s.arcs[id]? = some guard ∧ guard.port = port
  | _ => True

namespace State

variable {s s' : State} {port : UInt16} {id : Nat}

theorem Ok.congr (h : s.Ok) (harcs : s'.arcs = s.arcs) (hstrong : s'.strong = s.strong)
    (hhandles : s'.handles = s.handles) (hcontrol : ∀ port, s'.control port = s.control port) :
    s'.Ok := by
  have hupgrade (port : UInt16) : s'.upgrade port = s.upgrade port :=
    upgrade_congr (by rw [hcontrol]) fun id ↦ by rw [hstrong]
  constructor
  · simpa only [hcontrol, harcs] using h.weak
  · simpa only [hcontrol, harcs, hstrong] using h.current
  · simpa only [hhandles, harcs] using h.handle
  · simpa only [hcontrol, hupgrade] using h.live

theorem Ok.retain (h : s.Ok) (hid : 0 < s.strong id) : (s.retain id).Ok := by
  refine ⟨h.weak, fun other hother ↦ h.current other ?_, h.handle, fun port other hother ↦ ?_⟩
  · by_cases heq : other = id
    · exact heq ▸ hid
    · simpa [State.retain, heq] using hother
  · rw [upgrade_retain hid] at hother
    exact h.live port other hother

theorem Ok.release (h : s.Ok) (id : Nat) : (s.release id).1.Ok := by
  refine ⟨h.weak, fun other hother ↦ ?_, h.handle, fun port other hother ↦ ?_⟩
  · exact h.current other (hother.trans_le (strong_release_le other))
  · obtain ⟨hweak, hstrong⟩ := upgrade_eq_some_iff.mp hother
    exact h.live port other
      (upgrade_eq_some_iff.mpr ⟨hweak, hstrong.trans_le (strong_release_le other)⟩)

theorem upgrade_setOpen {rules : Rules} {isOpen : Bool} {other : UInt16} :
    ({ s with rules }.setControl port { s.control port with isOpen }).upgrade other =
      s.upgrade other := by
  refine upgrade_congr ?_ fun _ ↦ Iff.rfl
  rw [control_setControl]
  split_ifs with hother
  · rw [hother]
  · rfl

/-- The flag of a port changes; it is taken back only if no guard of the port is alive. -/
theorem Ok.setOpen (h : s.Ok) {rules : Rules} {isOpen : Bool}
    (hopen : isOpen = true ∨ s.upgrade port = none) :
    ({ s with rules }.setControl port { s.control port with isOpen }).Ok := by
  have hweak (other : UInt16) :
      (({ s with rules }.setControl port { s.control port with isOpen }).control other).weak =
        (s.control other).weak := by
    rw [control_setControl]
    split_ifs with hother
    · rw [hother]
    · rfl
  refine ⟨fun other id hother ↦ ?_, fun id hid ↦ ?_, h.handle, fun other id hother ↦ ?_⟩
  · rw [hweak] at hother
    exact h.weak other id hother
  · obtain ⟨guard, hguard, hcurrent⟩ := h.current id hid
    exact ⟨guard, hguard, (hweak guard.port).trans hcurrent⟩
  · rw [upgrade_setOpen] at hother
    rw [control_setControl]
    split_ifs with heq
    · subst heq
      exact hopen.resolve_right (by rw [hother]; nofun)
    · exact h.live other id hother

variable {protocol : Protocol}

theorem getElem?_store {guard : FirewallGuard} (h : s.arcs[id]? = some guard) :
    (s.store port protocol).arcs[id]? = some guard := by
  obtain ⟨hlt, -⟩ := List.getElem?_eq_some_iff.mp h
  simp only [State.store]
  rw [List.getElem?_append_left hlt]
  exact h

theorem Ok.lt_of_weak (h : s.Ok) (hweak : (s.control port).weak = some id) :
    id < s.arcs.length := by
  obtain ⟨guard, hguard, -⟩ := h.weak port id hweak
  exact (List.getElem?_eq_some_iff.mp hguard).1

theorem Ok.strong_eq_zero (h : s.Ok) (hid : s.arcs.length ≤ id) : s.strong id = 0 := by
  by_contra hne
  obtain ⟨guard, hguard, -⟩ := h.current id (Nat.pos_of_ne_zero hne)
  rw [List.getElem?_eq_none hid] at hguard
  cases hguard

theorem strong_store (hid : id < s.arcs.length) :
    (s.store port protocol).strong id = s.strong id := Function.update_of_ne hid.ne ..

theorem Ok.strong_store_add (h : s.Ok) :
    (s.store port protocol).strong id = s.strong id + if id = s.arcs.length then 1 else 0 := by
  by_cases hid : id = s.arcs.length
  · simp [State.store, hid, h.strong_eq_zero le_rfl]
  · simp [State.store, hid]

theorem Ok.upgrade_store (h : s.Ok) {other : UInt16} (hother : other ≠ port) :
    (s.store port protocol).upgrade other = s.upgrade other := by
  unfold upgrade
  rw [control_store, if_neg hother]
  cases hweak : (s.control other).weak with
  | none => rfl
  | some id => rw [Option.filter_some, Option.filter_some, strong_store (h.lt_of_weak hweak)]

/-- A new guard of an open port that has none. -/
theorem Ok.store (h : s.Ok) (hnone : s.upgrade port = none)
    (hopen : (s.control port).isOpen = true) : (s.store port protocol).Ok := by
  have hnew : (s.store port protocol).arcs[s.arcs.length]? = some ⟨port, protocol⟩ := by
    simp [State.store]
  constructor
  · intro other id hweak
    rw [control_store] at hweak
    split_ifs at hweak with hother
    · cases hweak
      exact ⟨_, hnew, hother.symm⟩
    · obtain ⟨guard, hguard, hport⟩ := h.weak other id hweak
      exact ⟨guard, getElem?_store hguard, hport⟩
  · intro id hid
    by_cases hlt : id = s.arcs.length
    · subst hlt
      exact ⟨_, hnew, by rw [control_store, if_pos rfl]⟩
    · have hstrong : 0 < s.strong id := by simpa [State.store, hlt] using hid
      obtain ⟨guard, hguard, hweak⟩ := h.current id hstrong
      -- an older guard of the port would be alive
      have hport : guard.port ≠ port := by
        rintro rfl
        exact hstrong.ne' (upgrade_eq_none_iff.mp hnone id hweak)
      exact ⟨guard, getElem?_store hguard, by rw [control_store, if_neg hport, hweak]⟩
  · intro handle hhandle
    obtain ⟨guard, hguard, hport⟩ := h.handle handle hhandle
    exact ⟨guard, getElem?_store hguard, hport⟩
  · intro other id hupgrade
    rw [control_store]
    split_ifs with hother
    · exact hopen
    · rw [h.upgrade_store hother] at hupgrade
      exact h.live other id hupgrade

theorem Ok.erase (h : s.Ok) (handle : Handle) :
    State.Ok { s with handles := s.handles.erase handle } :=
  ⟨h.weak, h.current, fun other hother ↦ h.handle other (List.mem_of_mem_erase hother), h.live⟩

theorem Ok.handOut (h : s.Ok) {result : Except FirewallError Nat}
    (hresult : Frame.Asserts s (.newReturn port protocol result)) :
    (s.handOut port protocol result).Ok := by
  refine ⟨h.weak, h.current, fun handle hhandle ↦ ?_, h.live⟩
  cases result with
  | error e => exact h.handle handle hhandle
  | ok id =>
    obtain rfl | hold := List.mem_cons.mp hhandle
    · exact hresult
    · exact h.handle handle hold

end State

section

variable {s s' : State} {command : Command} {frame : Frame} {frames : List Frame}

theorem Frame.asserts_of_acquires {frame next : Frame} {lock : Lock}
    (h : frame.acquires = some (lock, next)) (s : State) : next.Asserts s := by
  cases frame <;> cases h <;> trivial

theorem State.asserts_release (s t : State) (id : Nat) :
    ∀ frame ∈ (s.release id).2, frame.Asserts t := by
  intro frame hframe
  unfold State.release at hframe
  split at hframe
  · obtain ⟨guard, -, rfl⟩ := List.mem_map.mp hframe
    trivial
  · cases hframe

theorem Frame.Ran.ok (h : frame.Ran s command s' frames) (hok : s.Ok) (hframe : frame.Asserts s) :
    s'.Ok ∧ ∀ next ∈ frames, next.Asserts s' := by
  cases h with
  | acquired h =>
    exact ⟨hok.congr rfl rfl rfl fun _ ↦ rfl,
      List.forall_mem_singleton.mpr (Frame.asserts_of_acquires h _)⟩
  | inserted port =>
    exact ⟨hok.congr rfl rfl rfl fun other ↦ s.control_insert port other,
      List.forall_mem_singleton.mpr trivial⟩
  | shared protocol h =>
    obtain ⟨hweak, hstrong⟩ := State.upgrade_eq_some_iff.mp h
    exact ⟨hok.retain hstrong, List.forall_mem_singleton.mpr (hok.weak _ _ hweak)⟩
  | unshared protocol h | expired protocol h => exact ⟨hok, List.forall_mem_singleton.mpr h⟩
  | wasOpen protocol h => exact ⟨hok, List.forall_mem_singleton.mpr ⟨hframe, h⟩⟩
  | notOpened | wasClosed => exact ⟨hok, List.forall_mem_singleton.mpr trivial⟩
  | @opened port =>
    refine ⟨hok.setOpen (.inl rfl), List.forall_mem_singleton.mpr ⟨?_, ?_⟩⟩
    · rw [State.upgrade_setOpen]
      exact hframe
    · rw [State.control_setControl, if_pos rfl]
  | stored port protocol =>
    refine ⟨hok.store hframe.1 hframe.2,
      List.forall_mem_singleton.mpr ⟨⟨port, protocol⟩, ?_, rfl⟩⟩
    simp [State.store]
  | returned =>
    exact ⟨(hok.handOut hframe).congr rfl rfl rfl fun _ ↦ rfl,
      fun _ hmem ↦ absurd hmem List.not_mem_nil⟩
  | missing | unlocked =>
    exact ⟨hok.congr rfl rfl rfl fun _ ↦ rfl, fun _ hmem ↦ absurd hmem List.not_mem_nil⟩
  | found => exact ⟨hok.congr rfl rfl rfl fun _ ↦ rfl, List.forall_mem_singleton.mpr trivial⟩
  | upgraded protocol h =>
    exact ⟨hok.retain (State.upgrade_eq_some_iff.mp h).2, List.forall_mem_singleton.mpr trivial⟩
  | released port temporary =>
    refine ⟨hok.release temporary, fun next hnext ↦ ?_⟩
    obtain hmem | hmem := List.mem_append.mp hnext
    · exact s.asserts_release _ temporary next hmem
    · rw [List.mem_singleton.mp hmem]
      trivial
  | closed =>
    exact ⟨hok.setOpen (.inr hframe), List.forall_mem_singleton.mpr trivial⟩

/-- A step leaves the ports alone of which the call does not hold the lock, except that the last
reference to a guard may go. -/
theorem Frame.Ran.unlocked_port (h : frame.Ran s command s' frames) (hok : s.Ok) {port : UInt16}
    (hport : frame.holds ≠ some (.port port)) :
    (s.upgrade port = none → s'.upgrade port = none) ∧
      (s'.control port).isOpen = (s.control port).isOpen := by
  cases h with
  | acquired | missing | found | unlocked | returned => exact ⟨id, rfl⟩
  | unshared | wasOpen | notOpened | expired | wasClosed => exact ⟨id, rfl⟩
  | inserted other =>
    have hcontrol := s.control_insert other port
    rw [State.upgrade_congr (congrArg PortControl.weak hcontrol) fun _ ↦ Iff.rfl, hcontrol]
    exact ⟨id, rfl⟩
  | shared protocol h | upgraded protocol h =>
    rw [State.upgrade_retain (State.upgrade_eq_some_iff.mp h).2]
    exact ⟨id, rfl⟩
  | @opened other | @closed other =>
    have hne : port ≠ other := fun heq ↦ hport (by rw [heq]; rfl)
    rw [State.upgrade_setOpen, State.control_setControl, if_neg hne]
    exact ⟨id, rfl⟩
  | stored other =>
    have hne : port ≠ other := fun heq ↦ hport (by rw [heq]; rfl)
    rw [hok.upgrade_store hne, State.control_store, if_neg hne]
    exact ⟨id, rfl⟩
  | released => exact ⟨State.upgrade_release_eq_none, rfl⟩

theorem Frame.Ran.arcs (h : frame.Ran s command s' frames) {id : Nat} {guard : FirewallGuard}
    (hguard : s.arcs[id]? = some guard) : s'.arcs[id]? = some guard := by
  cases h with
  | stored => exact State.getElem?_store hguard
  | _ => exact hguard

/-- What a call relies on stays if the port whose lock it holds is left alone. -/
theorem Frame.Asserts.mono (h : frame.Asserts s)
    (harcs : ∀ (id : Nat) guard, s.arcs[id]? = some guard → s'.arcs[id]? = some guard)
    (hport : ∀ port, frame.holds = some (.port port) →
      (s.upgrade port = none → s'.upgrade port = none) ∧
        (s'.control port).isOpen = (s.control port).isOpen) :
    frame.Asserts s' := by
  cases frame with
  | newOpen port | closeClose port => exact (hport port rfl).1 h
  | newStore port => exact ⟨(hport port rfl).1 h.1, (hport port rfl).2.trans h.2⟩
  | newReturn port protocol result =>
    cases result with
    | error e => trivial
    | ok id =>
      obtain ⟨guard, hguard, heq⟩ := h
      exact ⟨guard, harcs id guard hguard, heq⟩
  | _ => trivial

end

/-! ## References -/

/-- The call has a strong reference to a guard. -/
def Frame.refers (id : Nat) : Frame → Bool
  | .newReturn _ _ (.ok existing) => existing = id
  | .closeRelease _ temporary => temporary = id
  | _ => false

/-- The strong references of a thread. -/
def temporaries (id : Nat) (frames : List Frame) : Nat := frames.countP (Frame.refers id)

def State.handled (s : State) (id : Nat) : Nat := s.handles.countP (·.id = id)

section

variable {s s' : State} {frames frames' : List Frame}

theorem temporaries_append (id : Nat) (frames rest : List Frame) :
    temporaries id (frames ++ rest) = temporaries id frames + temporaries id rest :=
  List.countP_append

theorem temporaries_cons (id : Nat) (frame : Frame) (rest : List Frame) :
    temporaries id (frame :: rest) = temporaries id [frame] + temporaries id rest :=
  temporaries_append id [frame] rest

theorem Frame.temporaries_of_acquires {frame next : Frame} {lock : Lock}
    (h : frame.acquires = some (lock, next)) (id : Nat) :
    temporaries id [next] = temporaries id [frame] := by
  cases frame <;> cases h <;> rfl

theorem State.temporaries_release (s : State) (id other : Nat) :
    temporaries other (s.release id).2 = 0 := by
  unfold State.release
  split
  · cases s.arcs[id]? <;> rfl
  · rfl

theorem State.strong_retain (s : State) (id other : Nat) :
    (s.retain id).strong other = s.strong other + if other = id then 1 else 0 := by
  by_cases h : other = id
  · simp [State.retain, h]
  · simp [State.retain, h]

theorem State.strong_release {s : State} {id : Nat} (hid : 0 < s.strong id) (other : Nat) :
    (s.release id).1.strong other + (if other = id then 1 else 0) = s.strong other := by
  by_cases h : other = id
  · subst h
    simp only [State.release, Function.update_self, if_true]
    omega
  · simp [State.release, h]

theorem State.handled_erase {handle : Handle} (hmem : handle ∈ s.handles) (id : Nat) :
    (s.handles.erase handle).countP (·.id = id) + (if id = handle.id then 1 else 0) =
      s.handled id := by
  have hperm := (List.perm_cons_erase hmem).countP_eq (fun handle ↦ handle.id = id)
  rw [State.handled, hperm, List.countP_cons]
  simp only [decide_eq_true_eq, eq_comm (a := id)]

theorem temporaries_newReturn (id existing : Nat) (port : UInt16) (protocol : Protocol) :
    temporaries id [.newReturn port protocol (.ok existing)] = if id = existing then 1 else 0 := by
  simp [temporaries, Frame.refers, List.countP_singleton, eq_comm]

theorem temporaries_closeRelease (id temporary : Nat) (port : UInt16) :
    temporaries id [.closeRelease port temporary] = if id = temporary then 1 else 0 := by
  simp [temporaries, Frame.refers, List.countP_singleton, eq_comm]

/-- The count of a guard changes with the references of the thread and of the callers. -/
theorem Frame.Ran.balanced {frame : Frame} {command : Command}
    (h : frame.Ran s command s' frames) (hok : s.Ok)
    (hcounted : ∀ id, temporaries id [frame] ≤ s.strong id) (id : Nat) :
    s'.strong id + (s.handled id + temporaries id [frame]) =
      s.strong id + (s'.handled id + temporaries id frames) := by
  cases h with
  | acquired h => rw [Frame.temporaries_of_acquires h]; rfl
  | inserted | unshared | wasOpen | notOpened | opened | missing | found | expired | closed
  | wasClosed | unlocked => rfl
  | shared protocol h =>
    rw [State.strong_retain, temporaries_newReturn]
    change _ + (s.handled id + 0) = _ + (s.handled id + _)
    omega
  | upgraded protocol h =>
    rw [State.strong_retain, temporaries_closeRelease]
    change _ + (s.handled id + 0) = _ + (s.handled id + _)
    omega
  | stored port protocol =>
    rw [hok.strong_store_add, temporaries_newReturn]
    change _ + (s.handled id + 0) = _ + (s.handled id + _)
    omega
  | returned port protocol result =>
    cases result with
    | error e => rfl
    | ok existing =>
      rw [temporaries_newReturn]
      change _ + _ = _ + ((⟨existing, port, protocol⟩ :: s.handles).countP (·.id = id) + 0)
      rw [List.countP_cons, State.handled]
      simp only [decide_eq_true_eq, eq_comm (a := existing)]
      rfl
  | released port temporary =>
    have hpos : 0 < s.strong temporary := by
      have hle := hcounted temporary
      rwa [temporaries_closeRelease, if_pos rfl] at hle
    have hstrong := State.strong_release hpos id
    rw [temporaries_closeRelease, temporaries_append, State.temporaries_release]
    change _ + _ = _ + (s.handled id + 0)
    omega

theorem Stepped.balanced {action : Action} (h : Stepped s frames action s' frames') (hok : s.Ok)
    (hcounted : ∀ id, s.handled id + temporaries id frames ≤ s.strong id) (id : Nat) :
    s'.strong id + (s.handled id + temporaries id frames) =
      s.strong id + (s'.handled id + temporaries id frames') := by
  cases h with
  | called => rfl
  | @cloned handle hmem =>
    change (s.retain handle.id).strong id + _ = _ + ((handle :: s.handles).countP _ + _)
    rw [State.strong_retain, List.countP_cons, State.handled]
    simp only [decide_eq_true_eq, eq_comm (a := handle.id)]
    omega
  | @dropped handle hmem =>
    have hone : 0 < s.handled handle.id := List.countP_pos_iff.mpr ⟨handle, hmem, by simp⟩
    have hpos : 0 < s.strong handle.id := by
      have hle := hcounted handle.id
      omega
    have hstrong :=
      State.strong_release (s := { s with handles := s.handles.erase handle }) hpos id
    have hhandled := State.handled_erase hmem id
    rw [State.temporaries_release]
    change _ + (s.handled id + 0) = _ + ((s.handles.erase handle).countP (·.id = id) + 0)
    change _ + _ = s.strong id at hstrong
    omega
  | ran rest h =>
    rename_i frame command next
    have hframe : ∀ id, temporaries id [frame] ≤ s.strong id := fun id ↦ by
      have hle := hcounted id
      rw [temporaries_cons] at hle
      omega
    have hbalanced := h.balanced hok hframe id
    rw [temporaries_cons, temporaries_append]
    omega

end

/-! ## Calls that will close a port -/

/-- The call closes the port if no guard of it is alive when it comes to that, or makes a guard
of it. -/
def Frame.Closes (port : UInt16) : Frame → Prop
  | .newStore other _ | .closeMap other _ | .closeEntry other _ | .closeLock other _
  | .closeUpgrade other _ | .closeClose other _ => other = port
  | _ => False

section

variable {s s' : State} {frame : Frame} {frames frames' : List Frame} {port : UInt16}

theorem Frame.closes_of_acquires {next : Frame} {lock : Lock}
    (h : frame.acquires = some (lock, next)) : next.Closes port ↔ frame.Closes port := by
  cases frame <;> cases h <;> rfl

/-- The last reference to a guard leaves its destructor behind. -/
theorem State.Ok.closes_release (hok : s.Ok) {id : Nat}
    (hnone : (s.release id).1.upgrade port = none) :
    s.upgrade port = none ∨ ∃ next ∈ (s.release id).2, next.Closes port := by
  cases hupgrade : s.upgrade port with
  | none => exact .inl rfl
  | some alive =>
    obtain ⟨hweak, hpos⟩ := State.upgrade_eq_some_iff.mp hupgrade
    have hzero := State.upgrade_eq_none_iff.mp hnone alive hweak
    by_cases halive : alive = id
    · subst halive
      have hone : s.strong alive = 1 := by
        have hsub : s.strong alive - 1 = 0 := by simpa [State.release] using hzero
        omega
      obtain ⟨guard, hguard, hport⟩ := hok.weak port alive hweak
      refine .inr ⟨.closeMap guard.port guard.protocol, ?_, hport⟩
      simp [State.release, hone, hguard]
    · have hsame : s.strong alive = 0 := by simpa [State.release, halive] using hzero
      omega

/-- A port that stays open without a guard is one that the call has left for another to close. -/
theorem Frame.Ran.closes {command : Command} (h : frame.Ran s command s' frames) (hok : s.Ok)
    (hopen : (s'.control port).isOpen = true) (hnone : s'.upgrade port = none) :
    (∃ next ∈ frames, next.Closes port) ∨
      ((s.control port).isOpen = true ∧ s.upgrade port = none ∧ ¬frame.Closes port) := by
  cases h with
  | acquired h =>
    by_cases hcloses : frame.Closes port
    · exact .inl ⟨_, List.mem_singleton_self _, (Frame.closes_of_acquires h).mpr hcloses⟩
    · exact .inr ⟨hopen, hnone, hcloses⟩
  | inserted other =>
    have hcontrol := s.control_insert other port
    rw [hcontrol] at hopen
    rw [State.upgrade_congr (congrArg PortControl.weak hcontrol) fun _ ↦ Iff.rfl] at hnone
    exact .inr ⟨hopen, hnone, id⟩
  | shared protocol h =>
    rw [State.upgrade_retain (State.upgrade_eq_some_iff.mp h).2] at hnone
    exact .inr ⟨hopen, hnone, id⟩
  | unshared | wasOpen | notOpened | returned | unlocked => exact .inr ⟨hopen, hnone, id⟩
  | @opened other =>
    by_cases hport : other = port
    · exact .inl ⟨_, List.mem_singleton_self _, hport⟩
    · rw [State.control_setControl, if_neg (Ne.symm hport)] at hopen
      rw [State.upgrade_setOpen] at hnone
      exact .inr ⟨hopen, hnone, id⟩
  | stored other =>
    by_cases hport : other = port
    · subst hport
      have hnew := State.upgrade_eq_none_iff.mp hnone s.arcs.length
        (by rw [State.control_store, if_pos rfl])
      simp [State.store] at hnew
    · rw [State.control_store, if_neg (Ne.symm hport)] at hopen
      rw [hok.upgrade_store (Ne.symm hport)] at hnone
      exact .inr ⟨hopen, hnone, hport⟩
  | @missing other _ h =>
    refine .inr ⟨hopen, hnone, ?_⟩
    rintro rfl
    simp [State.control, State.setLocked, h] at hopen
  | @found other | @expired other =>
    by_cases hport : other = port
    · exact .inl ⟨_, List.mem_singleton_self _, hport⟩
    · exact .inr ⟨hopen, hnone, hport⟩
  | @upgraded other _ _ h =>
    rw [State.upgrade_retain (State.upgrade_eq_some_iff.mp h).2] at hnone
    refine .inr ⟨hopen, hnone, ?_⟩
    rintro rfl
    rw [h] at hnone
    cases hnone
  | released other temporary =>
    obtain hold | ⟨next, hnext, hcloses⟩ := hok.closes_release hnone
    · exact .inr ⟨hopen, hold, id⟩
    · exact .inl ⟨next, List.mem_append_left _ hnext, hcloses⟩
  | @closed other =>
    rw [State.control_setControl] at hopen
    split_ifs at hopen with hport
    rw [State.upgrade_setOpen] at hnone
    exact .inr ⟨hopen, hnone, Ne.symm hport⟩
  | @wasClosed other _ h =>
    refine .inr ⟨hopen, hnone, ?_⟩
    rintro rfl
    rw [h] at hopen
    cases hopen

end

/-! ## Whole runs -/

section

variable {s s' : State} {frames frames' : List Frame} {action : Action} {port : UInt16}

theorem Stepped.unlocked_port (h : Stepped s frames action s' frames') (hok : s.Ok)
    (halive : ∀ handle ∈ s.handles, 0 < s.strong handle.id)
    (hport : frames.head?.bind Frame.holds ≠ some (.port port)) :
    (s.upgrade port = none → s'.upgrade port = none) ∧
      (s'.control port).isOpen = (s.control port).isOpen := by
  cases h with
  | called => exact ⟨id, rfl⟩
  | cloned hmem => exact ⟨fun hnone ↦ (State.upgrade_retain (halive _ hmem)).trans hnone, rfl⟩
  | dropped => exact ⟨fun hnone ↦ State.upgrade_release_eq_none hnone, rfl⟩
  | ran rest h => exact h.unlocked_port hok hport

theorem Stepped.arcs (h : Stepped s frames action s' frames') {id : Nat} {guard : FirewallGuard}
    (hguard : s.arcs[id]? = some guard) : s'.arcs[id]? = some guard := by
  cases h with
  | ran rest h => exact h.arcs hguard
  | _ => exact hguard

/-- What a call relies on that does not move. -/
theorem Stepped.asserts (h : Stepped s frames action s' frames') (hok : s.Ok)
    (halive : ∀ handle ∈ s.handles, 0 < s.strong handle.id) {frame : Frame}
    (hframe : frame.Asserts s)
    (hlocks : ∀ lock, frame.holds = some lock → frames.head?.bind Frame.holds ≠ some lock) :
    frame.Asserts s' :=
  hframe.mono (fun _ _ hguard ↦ h.arcs hguard) fun _ hport ↦
    h.unlocked_port hok halive (hlocks _ hport)

theorem Stepped.ok (h : Stepped s frames action s' frames') (hok : s.Ok)
    (halive : ∀ handle ∈ s.handles, 0 < s.strong handle.id)
    (hframes : ∀ frame ∈ frames, frame.Asserts s)
    (hnodup : (frames.filterMap Frame.holds).Nodup) :
    s'.Ok ∧ ∀ frame ∈ frames', frame.Asserts s' := by
  have hstepped := h
  cases h with
  | called => exact ⟨hok, List.forall_mem_singleton.mpr trivial⟩
  | @cloned handle hmem =>
    have hretain := hok.retain (halive handle hmem)
    refine ⟨⟨hretain.weak, hretain.current, ?_, hretain.live⟩,
      fun _ hmem ↦ absurd hmem List.not_mem_nil⟩
    exact List.forall_mem_cons.mpr ⟨hok.handle handle hmem, hok.handle⟩
  | @dropped handle hmem =>
    exact ⟨(hok.erase handle).release handle.id, State.asserts_release _ _ _⟩
  | ran rest h =>
    rename_i frame command next
    obtain ⟨hframe, hrest⟩ := List.forall_mem_cons.mp hframes
    obtain ⟨hok', hnext⟩ := h.ok hok hframe
    refine ⟨hok', fun other hother ↦ ?_⟩
    obtain hmem | hmem := List.mem_append.mp hother
    · exact hnext other hmem
    · -- the calls below hold other locks
      refine hstepped.asserts hok halive (hrest other hmem) fun lock hlock hsame ↦ ?_
      have hhead : frame.holds = some lock := hsame
      rw [List.filterMap_cons_some hhead, List.nodup_cons] at hnodup
      exact hnodup.1 (List.mem_filterMap.mpr ⟨other, hmem, hlock⟩)

theorem Stepped.closes (h : Stepped s frames action s' frames') (hok : s.Ok)
    (halive : ∀ handle ∈ s.handles, 0 < s.strong handle.id)
    (hopen : (s'.control port).isOpen = true) (hnone : s'.upgrade port = none) :
    (∃ frame ∈ frames', frame.Closes port) ∨
      ((s.control port).isOpen = true ∧ s.upgrade port = none ∧
        ∀ frame ∈ frames, frame.Closes port → ∃ frame ∈ frames', frame.Closes port) := by
  cases h with
  | called => exact .inr ⟨hopen, hnone, nofun⟩
  | cloned hmem =>
    have hsame : s.upgrade port = none := (State.upgrade_retain (halive _ hmem)).symm.trans hnone
    exact .inr ⟨hopen, hsame, nofun⟩
  | @dropped handle hmem =>
    obtain hold | hnew := (hok.erase handle).closes_release hnone
    · exact .inr ⟨hopen, hold, nofun⟩
    · exact .inl hnew
  | ran rest h =>
    obtain ⟨next, hnext, hcloses⟩ | ⟨hopen, hnone, hframe⟩ := h.closes hok hopen hnone
    · exact .inl ⟨next, List.mem_append_left _ hnext, hcloses⟩
    · refine .inr ⟨hopen, hnone, fun other hother hcloses ↦ ?_⟩
      obtain rfl | hmem := List.mem_cons.mp hother
      · exact absurd hcloses hframe
      · exact ⟨other, List.mem_append_right _ hmem, hcloses⟩

end

section

variable {ι : Type} [Fintype ι] {p q : Pool ι State (List Frame)}

/-- What holds between the steps of any run, whatever the commands do. -/
structure Ported (p : Pool ι State (List Frame)) : Prop where
  locks : locking.Ok p
  state : p.shared.Ok
  asserts : ∀ i, ∀ frame ∈ p.locals i, frame.Asserts p.shared
  counted : ∀ id, p.shared.strong id = p.shared.handled id + ∑ i, temporaries id (p.locals i)
  closing : ∀ port, (p.shared.control port).isOpen = true → p.shared.upgrade port = none →
    ∃ i, ∃ frame ∈ p.locals i, frame.Closes port

theorem ported_initial : Ported (initial ι) where
  locks := ok_initial ι
  state := ⟨nofun, nofun, nofun, nofun⟩
  asserts := nofun
  counted := fun id ↦ by simp [initial, State.empty, State.handled, temporaries]
  closing := nofun

theorem Ported.alive (h : Ported p) (handle : Handle) (hmem : handle ∈ p.shared.handles) :
    0 < p.shared.strong handle.id := by
  have hone : 0 < p.shared.handled handle.id := List.countP_pos_iff.mpr ⟨handle, hmem, by simp⟩
  rw [h.counted]
  omega

variable [DecidableEq ι]

/-- The sum over the threads after one has moved. -/
theorem sum_locals_add (weight : List Frame → Nat) {i : ι}
    (hother : ∀ j, j ≠ i → q.locals j = p.locals j) :
    ∑ j, weight (q.locals j) + weight (p.locals i) =
      ∑ j, weight (p.locals j) + weight (q.locals i) := by
  have hq := Finset.add_sum_erase Finset.univ (fun j ↦ weight (q.locals j)) (Finset.mem_univ i)
  have hp := Finset.add_sum_erase Finset.univ (fun j ↦ weight (p.locals j)) (Finset.mem_univ i)
  have hrest : ∑ j ∈ Finset.univ.erase i, weight (q.locals j) =
      ∑ j ∈ Finset.univ.erase i, weight (p.locals j) :=
    Finset.sum_congr rfl fun j hj ↦ by rw [hother j (Finset.ne_of_mem_erase hj)]
  omega

theorem Ported.le_strong (h : Ported p) (i : ι) (id : Nat) :
    p.shared.handled id + temporaries id (p.locals i) ≤ p.shared.strong id := by
  rw [h.counted id, ← Finset.add_sum_erase Finset.univ _ (Finset.mem_univ i)]
  omega

theorem Ported.next {i : ι} {action : Action} (h : Ported p)
    (hnext : threads.pool.next p (i, action) = some q) : Ported q := by
  obtain ⟨hstep, hother⟩ := threads.step_of_pool_next hnext
  have hstepped := stepped hstep
  obtain ⟨hok, hframes⟩ := hstepped.ok h.state h.alive (h.asserts i) (h.locks.nodup i)
  refine ⟨h.locks.next hnext (disciplined _ _ _ _ _ hstep), hok, fun j frame hframe ↦ ?_,
    fun id ↦ ?_, fun port hopen hnone ↦ ?_⟩
  · by_cases hj : j = i
    · subst hj
      exact hframes frame hframe
    · rw [hother j hj] at hframe
      refine hstepped.asserts h.state h.alive (h.asserts j frame hframe) fun lock hlock hsame ↦ ?_
      obtain ⟨head, hhead, hheld⟩ := Option.bind_eq_some_iff.mp hsame
      refine hj (h.locks.exclusive j i lock (List.mem_filterMap.mpr ⟨frame, hframe, hlock⟩) ?_)
      exact List.mem_filterMap.mpr ⟨head, List.mem_of_mem_head? hhead, hheld⟩
  · have hbalanced := hstepped.balanced h.state (h.le_strong i) id
    have hsum := sum_locals_add (temporaries id) hother
    have hcounted := h.counted id
    omega
  · obtain ⟨frame, hframe, hcloses⟩ | ⟨hopen, hnone, hkept⟩ :=
      hstepped.closes h.state h.alive hopen hnone
    · exact ⟨i, frame, hframe, hcloses⟩
    · obtain ⟨j, frame, hframe, hcloses⟩ := h.closing port hopen hnone
      by_cases hj : j = i
      · subst hj
        exact ⟨j, hkept frame hframe hcloses⟩
      · exact ⟨j, frame, by rwa [hother j hj], hcloses⟩

theorem ported_of_exec {labels : List (ι × Action)}
    (hrun : threads.pool.exec (initial ι) labels = some p) : Ported p := by
  refine threads.pool.invariant (I := fun p ↦ Ported p) ?_ ported_initial hrun
  rintro p ⟨i, action⟩ q h hnext
  exact h.next hnext

end

/-! ## Rules -/

/-- How many rules there are for a port and protocol. -/
def Rules.count (rules : Rules) (key : UInt16 × Protocol) : Nat :=
  (if rules.firewalld key then 1 else 0) + rules.iptables key

section

variable {rules rules' : Rules} {port : UInt16} {protocol : Protocol} {command : Command}

theorem Rules.isOpen_iff :
    rules.isOpen port protocol = true ↔ 0 < rules.count (port, protocol) := by
  cases h : rules.firewalld (port, protocol) with
  | false => simp [Rules.isOpen, Rules.count, h]
  | true => simp [Rules.isOpen, Rules.count, h, Nat.add_comm 1]

theorem Rules.count_openPort (hok : rules.openPort port protocol command = .ok rules')
    (hsuccess : command.result = .success) (hnone : rules.count (port, protocol) = 0)
    (key : UInt16 × Protocol) :
    rules'.count key = if key = (port, protocol) then 1 else rules.count key := by
  obtain ⟨running, result⟩ := command
  cases hsuccess
  obtain ⟨hfirewalld, hiptables⟩ := Nat.add_eq_zero_iff.mp hnone
  cases running with
  | true =>
    cases hok
    by_cases hkey : key = (port, protocol)
    · simp [Rules.count, hkey, hiptables]
    · simp [Rules.count, hkey]
  | false =>
    cases hok
    by_cases hkey : key = (port, protocol)
    · simp only [Rules.count, hkey, hfirewalld, hiptables, Function.update_self, if_true]
    · simp [Rules.count, hkey]

theorem Rules.count_closePort (hsuccess : command.result = .success)
    (hone : rules.count (port, protocol) = 1)
    (hbackend : (if command.isFirewalldRunning then rules.firewalld (port, protocol)
      else decide (0 < rules.iptables (port, protocol))) = true) (key : UInt16 × Protocol) :
    ((rules.closePort port protocol command).toOption.getD rules).count key =
      if key = (port, protocol) then 0 else rules.count key := by
  obtain ⟨running, result⟩ := command
  cases hsuccess
  unfold Rules.count at hone
  cases running with
  | true =>
    have hfirewalld : rules.firewalld (port, protocol) = true := hbackend
    rw [hfirewalld, if_pos rfl] at hone
    have hiptables : rules.iptables (port, protocol) = 0 := by omega
    change Rules.count { rules with firewalld := Function.update _ _ false } key = _
    by_cases hkey : key = (port, protocol)
    · simp [Rules.count, hkey, hiptables]
    · simp [Rules.count, hkey]
  | false =>
    have hiptables : 0 < rules.iptables (port, protocol) := of_decide_eq_true hbackend
    change Rules.count { rules with iptables := Function.update _ _ (_ - 1) } key = _
    by_cases hkey : key = (port, protocol)
    · simp only [Rules.count, hkey, Function.update_self, if_true]
      omega
    · simp [Rules.count, hkey]

end

/-- A call of `new` is for the protocol with which the port is used. -/
def usesOne (use : UInt16 → Protocol) : Action → Bool
  | .callNew port protocol => protocol = use port
  | _ => true

/-- The command, if one is run, succeeds. -/
def succeeds : Action → Bool
  | .run command => command.result = .success
  | _ => true

/-- A port is closed where its rule is. -/
def sameBackend {ι : Type} (p : Pool ι State (List Frame)) (label : ι × Action) : Bool :=
  match (p.locals label.1).head?, label.2 with
  | some (.closeClose port protocol), .run command =>
    !(p.shared.control port).isOpen ||
      if command.isFirewalldRunning then p.shared.rules.firewalld (port, protocol)
      else 0 < p.shared.rules.iptables (port, protocol)
  | _, _ => true

/-- A call for the protocol with which its port is used. -/
def Frame.Uses (use : UInt16 → Protocol) : Frame → Prop
  | .newMap port protocol | .newEntry port protocol | .newLock port protocol
  | .newUpgrade port protocol | .newOpen port protocol | .newStore port protocol
  | .newReturn port protocol _ | .closeMap port protocol | .closeEntry port protocol
  | .closeLock port protocol | .closeUpgrade port protocol | .closeClose port protocol =>
    protocol = use port
  | .closeRelease .. | .closeUnlock _ => True

/-- A port that is open has one rule, for its protocol, and there are no other rules. -/
structure State.Ruled (use : UInt16 → Protocol) (s : State) : Prop where
  arcs : ∀ guard ∈ s.arcs, guard.protocol = use guard.port
  handles : ∀ handle ∈ s.handles, handle.protocol = use handle.port
  count : ∀ port protocol, s.rules.count (port, protocol) =
    if protocol = use port ∧ (s.control port).isOpen = true then 1 else 0

section

variable {use : UInt16 → Protocol} {s s' : State} {frame : Frame} {frames frames' : List Frame}
  {command : Command}

theorem Frame.uses_of_acquires {next : Frame} {lock : Lock}
    (h : frame.acquires = some (lock, next)) : next.Uses use ↔ frame.Uses use := by
  cases frame <;> cases h <;> rfl

theorem State.Ruled.uses_release (h : s.Ruled use) (id : Nat) :
    ∀ next ∈ (s.release id).2, next.Uses use := by
  intro next hnext
  unfold State.release at hnext
  split at hnext
  · obtain ⟨guard, hguard, rfl⟩ := List.mem_map.mp hnext
    exact h.arcs guard (List.mem_of_getElem? (Option.mem_toList.mp hguard))
  · cases hnext

theorem Frame.Ran.uses (h : frame.Ran s command s' frames) (hruled : s.Ruled use)
    (hframe : frame.Uses use) : ∀ next ∈ frames, next.Uses use := by
  cases h with
  | acquired h => exact List.forall_mem_singleton.mpr ((Frame.uses_of_acquires h).mpr hframe)
  | returned | missing | unlocked => exact fun _ hmem ↦ absurd hmem List.not_mem_nil
  | released port temporary =>
    exact List.forall_mem_append.mpr
      ⟨hruled.uses_release temporary, List.forall_mem_singleton.mpr trivial⟩
  | upgraded | closed | wasClosed => exact List.forall_mem_singleton.mpr trivial
  | inserted | shared | unshared | wasOpen | notOpened | opened | stored | found | expired =>
    exact List.forall_mem_singleton.mpr hframe

/-- The rules and the flags of the ports are as before. -/
theorem State.Ruled.congr (h : s.Ruled use) (harcs : s'.arcs = s.arcs)
    (hhandles : s'.handles = s.handles) (hrules : s'.rules = s.rules)
    (hcontrol : ∀ port, (s'.control port).isOpen = (s.control port).isOpen) : s'.Ruled use := by
  constructor
  · simpa only [harcs] using h.arcs
  · simpa only [hhandles] using h.handles
  · simpa only [hrules, hcontrol] using h.count

/-- The flag of a port and its rule change together. -/
theorem State.Ruled.setOpen (h : s.Ruled use) {port : UInt16} {rules : Rules} {isOpen : Bool}
    (hcount : ∀ key, rules.count key =
      if key = (port, use port) then (if isOpen then 1 else 0) else s.rules.count key) :
    State.Ruled use ({ s with rules }.setControl port { s.control port with isOpen }) := by
  refine ⟨h.arcs, h.handles, fun other protocol ↦ ?_⟩
  change rules.count (other, protocol) = _
  rw [hcount, State.control_setControl, h.count]
  by_cases hother : other = port
  · subst hother
    by_cases hprotocol : protocol = use other
    · simp [hprotocol]
    · simp [hprotocol]
  · have hkey : (other, protocol) ≠ (port, use port) := fun heq ↦ hother (Prod.mk.inj heq).1
    rw [if_neg hkey, if_neg hother]
    rfl

theorem Frame.Ran.ruled (h : frame.Ran s command s' frames) (hruled : s.Ruled use)
    (hframe : frame.Uses use) (hsuccess : command.result = .success)
    (hbackend : ∀ port protocol, frame = .closeClose port protocol →
      (s.control port).isOpen = true →
      (if command.isFirewalldRunning then s.rules.firewalld (port, protocol)
        else decide (0 < s.rules.iptables (port, protocol))) = true) : s'.Ruled use := by
  cases h with
  | acquired | missing | found | unlocked | released | shared | upgraded =>
    exact hruled.congr rfl rfl rfl fun _ ↦ rfl
  | unshared | wasOpen | notOpened | expired | wasClosed => exact hruled
  | inserted port =>
    exact hruled.congr rfl rfl rfl fun other ↦ by rw [s.control_insert port other]
  | stored port protocol =>
    refine ⟨List.forall_mem_append.mpr ⟨hruled.arcs, List.forall_mem_singleton.mpr hframe⟩,
      hruled.handles, fun other protocol' ↦ ?_⟩
    have hopen : ((s.store port protocol).control other).isOpen = (s.control other).isOpen := by
      rw [State.control_store]
      split_ifs with hother
      · rw [hother]
      · rfl
    rw [hopen]
    exact hruled.count other protocol'
  | returned port protocol result =>
    refine ⟨hruled.arcs, ?_, hruled.count⟩
    cases result with
    | error e => exact hruled.handles
    | ok id => exact List.forall_mem_cons.mpr ⟨hframe, hruled.handles⟩
  | @opened port protocol rules h hok =>
    obtain rfl : protocol = use port := hframe
    have hnone : s.rules.count (port, use port) = 0 := by
      rw [hruled.count, h]
      simp
    exact hruled.setOpen fun key ↦ Rules.count_openPort hok hsuccess hnone key
  | @closed port protocol h =>
    obtain rfl : protocol = use port := hframe
    have hone : s.rules.count (port, use port) = 1 := by
      rw [hruled.count, h]
      simp
    exact hruled.setOpen fun key ↦
      Rules.count_closePort hsuccess hone (hbackend port (use port) rfl h) key

theorem Stepped.ruled {action : Action} (h : Stepped s frames action s' frames')
    (hruled : s.Ruled use) (hframes : ∀ frame ∈ frames, frame.Uses use)
    (huse : usesOne use action = true) (hsuccess : succeeds action = true)
    (hbackend : ∀ port protocol command, frames.head? = some (.closeClose port protocol) →
      action = .run command → (s.control port).isOpen = true →
      (if command.isFirewalldRunning then s.rules.firewalld (port, protocol)
        else decide (0 < s.rules.iptables (port, protocol))) = true) :
    s'.Ruled use ∧ ∀ frame ∈ frames', frame.Uses use := by
  cases h with
  | called port protocol =>
    have hprotocol : protocol = use port := of_decide_eq_true huse
    exact ⟨hruled, List.forall_mem_singleton.mpr hprotocol⟩
  | @cloned handle hmem =>
    refine ⟨⟨hruled.arcs, ?_, hruled.count⟩, fun _ hmem ↦ absurd hmem List.not_mem_nil⟩
    exact List.forall_mem_cons.mpr ⟨hruled.handles handle hmem, hruled.handles⟩
  | @dropped handle hmem =>
    refine ⟨⟨hruled.arcs, fun other hother ↦ ?_, hruled.count⟩, hruled.uses_release handle.id⟩
    exact hruled.handles other (List.mem_of_mem_erase hother)
  | ran rest h =>
    obtain ⟨hframe, hrest⟩ := List.forall_mem_cons.mp hframes
    refine ⟨h.ruled hruled hframe (of_decide_eq_true hsuccess) fun port protocol heq hopen ↦ ?_,
      List.forall_mem_append.mpr ⟨h.uses hruled hframe, hrest⟩⟩
    exact hbackend port protocol _ (congrArg some heq) rfl hopen

end

/-! ## Runs in which the commands succeed -/

section

variable {ι : Type} {use : UInt16 → Protocol} {p : Pool ι State (List Frame)}
  {labels : List (ι × Action)}

theorem sameBackend_closeClose {i : ι} {port : UInt16} {protocol : Protocol} {command : Command}
    (h : sameBackend p (i, .run command) = true)
    (hhead : (p.locals i).head? = some (.closeClose port protocol))
    (hopen : (p.shared.control port).isOpen = true) :
    (if command.isFirewalldRunning then p.shared.rules.firewalld (port, protocol)
      else decide (0 < p.shared.rules.iptables (port, protocol))) = true := by
  unfold sameBackend at h
  simp only [hhead, hopen, Bool.not_true, Bool.false_or] at h
  exact h

/-- If no call runs, an open port has a guard that a caller holds. -/
theorem Ported.isOpen_iff_of_idle [Fintype ι] (h : Ported p) (hidle : ∀ i, p.locals i = [])
    (port : UInt16) :
    (p.shared.control port).isOpen = true ↔
      ∃ handle ∈ p.shared.handles, handle.port = port := by
  constructor
  · intro hopen
    cases hupgrade : p.shared.upgrade port with
    | none =>
      obtain ⟨i, frame, hframe, -⟩ := h.closing port hopen hupgrade
      rw [hidle i] at hframe
      cases hframe
    | some id =>
      obtain ⟨hweak, hstrong⟩ := State.upgrade_eq_some_iff.mp hupgrade
      have hhandled : 0 < p.shared.handled id := by
        rw [h.counted] at hstrong
        simpa [hidle, temporaries] using hstrong
      obtain ⟨handle, hmem, hid⟩ := List.countP_pos_iff.mp hhandled
      have hid : handle.id = id := of_decide_eq_true hid
      obtain ⟨guard, hguard, hport⟩ := h.state.weak port id hweak
      obtain ⟨guard', hguard', hport'⟩ := h.state.handle handle hmem
      rw [hid, hguard] at hguard'
      cases hguard'
      exact ⟨handle, hmem, hport'.symm.trans hport⟩
  · rintro ⟨handle, hmem, rfl⟩
    obtain ⟨guard, hguard, hcurrent⟩ := h.state.current handle.id (h.alive handle hmem)
    obtain ⟨guard', hguard', hport'⟩ := h.state.handle handle hmem
    rw [hguard] at hguard'
    cases hguard'
    rw [hport'] at hcurrent
    exact h.state.live handle.port handle.id
      (State.upgrade_eq_some_iff.mpr ⟨hcurrent, h.alive handle hmem⟩)

variable [DecidableEq ι]

theorem ruled_along (hrun : threads.pool.exec (initial ι) labels = some p)
    (huse : ∀ label ∈ labels, usesOne use label.2 = true)
    (hsucceeds : ∀ label ∈ labels, succeeds label.2 = true)
    (hbackend : threads.pool.Along (fun p label ↦ sameBackend p label = true) (initial ι) labels) :
    p.shared.Ruled use := by
  have horderly : threads.pool.Along (fun p label ↦ sameBackend p label = true ∧
      usesOne use label.2 = true ∧ succeeds label.2 = true) (initial ι) labels :=
    hbackend.and (threads.pool.along_of_mem
      (fun label hlabel _ ↦ ⟨huse label hlabel, hsucceeds label hlabel⟩) _)
  have hinvariant : p.shared.Ruled use ∧ ∀ i, ∀ frame ∈ p.locals i, frame.Uses use := by
    refine threads.pool.invariant_along
      (I := fun p ↦ p.shared.Ruled use ∧ ∀ i, ∀ frame ∈ p.locals i, frame.Uses use) ?_ ?_ hrun
      horderly
    · rintro p ⟨i, action⟩ q ⟨hruled, hframes⟩ ⟨hbackend, huse, hsucceeds⟩ hnext
      obtain ⟨hstep, hother⟩ := threads.step_of_pool_next hnext
      obtain ⟨hruled', hframes'⟩ := (stepped hstep).ruled hruled (hframes i) huse hsucceeds
        fun port protocol command hhead haction hopen ↦
          sameBackend_closeClose (haction ▸ hbackend) hhead hopen
      refine ⟨hruled', fun j ↦ ?_⟩
      by_cases hj : j = i
      · subst hj
        exact hframes'
      · rw [hother j hj]
        exact hframes j
    · refine ⟨⟨nofun, nofun, fun port protocol ↦ ?_⟩, nofun⟩
      simp [initial, State.empty, Rules.count, State.control]
  exact hinvariant.1

/-- Each port is used with one protocol, the commands succeed and a port is closed where its rule
is: if no call runs, a rule is open iff a guard from a call for it is alive. -/
theorem isOpen_iff_exists_handle [Fintype ι] (use : UInt16 → Protocol)
    (hrun : threads.pool.exec (initial ι) labels = some p)
    (huse : ∀ label ∈ labels, usesOne use label.2 = true)
    (hsucceeds : ∀ label ∈ labels, succeeds label.2 = true)
    (hbackend : threads.pool.Along (fun p label ↦ sameBackend p label = true) (initial ι) labels)
    (hidle : ∀ i, p.locals i = []) (port : UInt16) (protocol : Protocol) :
    p.shared.rules.isOpen port protocol = true ↔
      ∃ handle ∈ p.shared.handles, handle.port = port ∧ handle.protocol = protocol := by
  have hruled : p.shared.Ruled use := ruled_along hrun huse hsucceeds hbackend
  have hport := (ported_of_exec hrun).isOpen_iff_of_idle hidle port
  have hcount : 0 < p.shared.rules.count (port, protocol) ↔
      protocol = use port ∧ (p.shared.control port).isOpen = true := by
    rw [hruled.count]
    split_ifs with h
    · exact iff_of_true Nat.one_pos h
    · exact iff_of_false (Nat.lt_irrefl 0) h
  rw [Rules.isOpen_iff, hcount, hport]
  constructor
  · rintro ⟨rfl, handle, hmem, rfl⟩
    exact ⟨handle, hmem, rfl, hruled.handles handle hmem⟩
  · rintro ⟨handle, hmem, rfl, rfl⟩
    exact ⟨hruled.handles handle hmem, handle, hmem, rfl⟩

end

/-- One thread opens a port for TCP, another one opens a port for UDP and closes it. -/
def Sample.opening : List (Bool × Action) :=
  (false, .callNew 4000 .tcp) :: (true, .callNew 5000 .udp) :: steps false 7 ++ steps true 7 ++
    (true, .drop ⟨1, 5000, .udp⟩) :: steps true 6

def Sample.opened : Pool Bool State (List Frame) :=
  (threads.pool.exec (initial Bool) opening).get rfl

theorem isOpen_iff_exists_handle_sample :
    (Sample.opened.shared.rules.isOpen 4000 .tcp = true ↔
        ∃ handle ∈ Sample.opened.shared.handles, handle.port = 4000 ∧ handle.protocol = .tcp) ∧
      (Sample.opened.shared.rules.isOpen 5000 .udp = true ↔
        ∃ handle ∈ Sample.opened.shared.handles, handle.port = 5000 ∧ handle.protocol = .udp) ∧
      Sample.opened.shared.handles = [⟨0, 4000, .tcp⟩] := by
  have hrun : threads.pool.exec (initial Bool) Sample.opening = some Sample.opened := rfl
  have hiff := isOpen_iff_exists_handle (fun port ↦ if port = 4000 then .tcp else .udp) hrun
    (by decide) (by decide) (by decide) (by decide)
  exact ⟨hiff 4000 .tcp, hiff 5000 .udp, rfl⟩

/-- A second call for a port, with the other protocol. -/
def Sample.shared : List (Bool × Action) :=
  (false, .callNew 4000 .tcp) :: steps false 7 ++ (false, .callNew 4000 .udp) :: steps false 5

/-- The second call gets the guard of the first, and there is no rule for its protocol. -/
theorem isOpen_other_protocol :
    ∃ p, threads.pool.exec (initial Bool) Sample.shared = some p ∧
      (∀ label ∈ Sample.shared, succeeds label.2 = true) ∧ (∀ i, p.locals i = []) ∧
      ⟨0, 4000, .udp⟩ ∈ p.shared.handles ∧ p.shared.rules.isOpen 4000 .udp = false := by
  refine ⟨_, rfl, by decide, by decide, by decide, by decide⟩

end TapAuth.Shared.Firewall
