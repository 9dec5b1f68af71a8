import TapAuth.Phone.RequestGate

/-!
# Answers over BLE when the connection comes and goes

The BLE service of the phone over many connections.  A desktop is known by its address, and
every `connectGatt` gives a handle of its own; `connectingOrConnectedDevices` keeps a second
attempt away while one is under way.  A request that is read from a connection and passes the
gate becomes a prompt, and the callback of the prompt keeps the handle it was read over.  When
a connection goes down the prompts stay for a grace period.

`answer_written_iff` says where an answer goes: to the handle of the callback, so that the
connection that is up gets it iff the one the request came over has never gone down.

What is left out: the retransmissions, which go over the same handle, and the calls of
`disconnect`, since a connection can go down at any time here.
-/

namespace TapAuth.Phone

open Shared Function

/-- A `BluetoothGatt` as the stack sees it. -/
inductive LinkState where
  | unused
  | connecting
  | connected
  | closed
  deriving DecidableEq

/-- A request that waits for the user, with the connection its callback has captured. -/
structure Prompt where
  job : Job
  gatt : Nat

/-- An answer that has gone out. -/
structure WrittenAnswer where
  key : String
  approved : Bool
  gatt : Nat
  deriving DecidableEq

/-- How the calls made for an answer end. -/
structure AnswerCalls where
  /-- The private key is at hand and the packet can be made. -/
  created : Bool
  permission : Bool
  /-- The service has the response characteristic. -/
  found : Bool
  writeSuccess : Bool

def AnswerCalls.succeeding : AnswerCalls := ⟨true, true, true, true⟩

structure BleService where
  gate : RequestGate
  connectingOrConnectedDevices : String → Bool
  links : Nat → LinkState
  pending : List Prompt
  /-- The coroutines that wait for the end of a grace period, and when it is. -/
  graces : List (String × Int64)
  written : List WrittenAnswer
  /-- Since when there is no connection where there was one.  Nobody reads it. -/
  downSince : String → Option Int64

/-- Before any connection. -/
def BleService.start (gate : RequestGate) : BleService where
  gate
  connectingOrConnectedDevices _ := false
  links _ := .unused
  pending := []
  graces := []
  written := []
  downSince _ := none

/-- `BLE_DISCONNECT_CANCEL_GRACE_MS` -/
def graceMs : Int64 := 5000

def RequestGate.releaseLock (s : RequestGate) (key : String) : RequestGate :=
  { s with memory := s.memory.setLock key none }

def BleService.sendResponseToClient (s : BleService) (prompt : Prompt) (approved : Bool)
    (calls : AnswerCalls) : BleService :=
  let connections := update s.gate.connections prompt.job.key none
  let s := { s with gate := { s.gate with connections } }
  -- a write to a handle that is not connected fails
  if calls.permission && calls.found && calls.writeSuccess && s.links prompt.gatt = .connected then
    { s with written := ⟨prompt.job.key, approved, prompt.gatt⟩ :: s.written }
  else s

/-- The callback, once the user has answered. -/
def BleService.answered (s : BleService) (prompt : Prompt) (approved : Bool)
    (calls : AnswerCalls) : BleService :=
  if calls.created then
    let s := s.sendResponseToClient prompt approved calls
    { s with gate := s.gate.releaseLock prompt.job.key }
  else s

/-! ## Runs -/

inductive BleEvent where
  /-- A scan result, with the handle `connectGatt` would give, and whether it gives one. -/
  | connectToClient (gatt : Nat) (opened : Bool)
  | connected (gatt : Nat)
  | disconnected (gatt : Nat)
  /-- What was read from the command characteristic has been decrypted. -/
  | message (incoming : Incoming) (gatt : Nat) (serialized : Bool)
  | graceOver (index : Nat)
  | answer (index : Nat) (approved : Bool) (calls : AnswerCalls)
  /-- The callback without an answer, for a timeout or an error. -/
  | unanswered (index : Nat)
  /-- The UDP service, the clocks and the limiter. -/
  | gate (event : GateEvent)

/-- Those that are not the BLE service's own. -/
def GateEvent.elsewhere : GateEvent → Bool
  | .receive incoming _ _ => incoming.transport = .udp
  | .disconnected _ => false
  | _ => true

section

variable (P : Primitives) (addressOf : Nat → String)

/-- `handleAuthRequest` with a request that was read over `gatt`. -/
def BleService.message (s : BleService) (incoming : Incoming) (gatt : Nat) (serialized : Bool) :
    BleService :=
  let received := s.gate.receive P incoming gatt serialized
  let s := { s with gate := received.1 }
  match received.2, incoming.job? P with
  | .ended .submitted, some job => { s with pending := ⟨job, gatt⟩ :: s.pending }
  | _, _ => s

/-- `cancelRequestsByBleDisconnection`: the callbacks are told that there is no answer. -/
def BleService.cancelRequests (s : BleService) (address : String) : BleService :=
  let cancelled := s.pending.filter fun prompt ↦ addressOf prompt.gatt = address
  { s with
    gate := cancelled.foldl (fun gate prompt ↦ gate.releaseLock prompt.job.key) s.gate
    pending := s.pending.filter fun prompt ↦ addressOf prompt.gatt ≠ address }

/-- `STATE_DISCONNECTED` -/
def BleService.disconnected (s : BleService) (gatt : Nat) : BleService :=
  let address := addressOf gatt
  { s with
    gate := { s.gate with
      connections := fun key ↦ (s.gate.connections key).filter fun g ↦ g ≠ gatt }
    connectingOrConnectedDevices := update s.connectingOrConnectedDevices address false
    links := update s.links gatt .closed
    graces := (address, s.gate.now + graceMs) :: s.graces
    downSince :=
      if s.links gatt = .connected then update s.downSince address (some s.gate.now)
      else s.downSince }

def bleNext (s : BleService) : BleEvent → Option BleService
  | .connectToClient gatt opened =>
    -- every handle is a new object
    if s.links gatt = .unused then
      if s.connectingOrConnectedDevices (addressOf gatt) then some s
      else if opened then
        some { s with
          connectingOrConnectedDevices :=
            update s.connectingOrConnectedDevices (addressOf gatt) true
          links := update s.links gatt .connecting }
      else some s
    else none
  | .connected gatt =>
    if s.links gatt = .connecting then
      some { s with
        links := update s.links gatt .connected
        downSince := update s.downSince (addressOf gatt) none }
    else none
  | .disconnected gatt =>
    -- a handle that is closed has no more callbacks
    if s.links gatt = .connecting ∨ s.links gatt = .connected then
      some (s.disconnected addressOf gatt)
    else none
  | .message incoming gatt serialized =>
    -- the coroutine may run when the connection is down again
    if incoming.transport = .ble ∧ (s.links gatt = .connected ∨ s.links gatt = .closed) then
      some (s.message P incoming gatt serialized)
    else none
  | .graceOver index =>
    match s.graces[index]? with
    | some (address, due) =>
      if due ≤ s.gate.now then
        let s := { s with graces := s.graces.eraseIdx index }
        if s.connectingOrConnectedDevices address then some s
        else some (s.cancelRequests addressOf address)
      else none
    | none => none
  | .answer index approved calls =>
    s.pending[index]?.map fun prompt ↦
      { s with pending := s.pending.eraseIdx index }.answered prompt approved calls
  | .unanswered index =>
    s.pending[index]?.map fun prompt ↦
      { s with
        gate := s.gate.releaseLock prompt.job.key
        pending := s.pending.eraseIdx index }
  | .gate event =>
    if event.elsewhere then (gateNext P s.gate event).map fun gate ↦ { s with gate } else none

def bleService : Machine BleService BleEvent := ⟨bleNext P addressOf⟩

end

/-! ## What a step does to the connections -/

section

variable {P : Primitives} {addressOf : Nat → String} {s t : BleService}

/-- The handle is being connected or is connected. -/
def BleService.Live (s : BleService) (gatt : Nat) : Prop :=
  s.links gatt = .connecting ∨ s.links gatt = .connected

/-- The handle has been connected. -/
def BleService.Opened (s : BleService) (gatt : Nat) : Prop :=
  s.links gatt = .connected ∨ s.links gatt = .closed

inductive LinkStep (addressOf : Nat → String) (s : BleService) (event : BleEvent)
    (t : BleService) : Prop
  | quiet (hevent : ∀ gatt, event ≠ .disconnected gatt) (hlinks : t.links = s.links)
      (hdevices : t.connectingOrConnectedDevices = s.connectingOrConnectedDevices)
      (hpending : ∀ prompt ∈ t.pending, prompt ∈ s.pending ∨ s.Opened prompt.gatt)
  | opening (gatt : Nat) (opened : Bool) (hevent : event = .connectToClient gatt opened)
      (hunused : s.links gatt = .unused)
      (hfree : s.connectingOrConnectedDevices (addressOf gatt) = false)
      (hlinks : t.links = update s.links gatt .connecting)
      (hdevices : t.connectingOrConnectedDevices =
        update s.connectingOrConnectedDevices (addressOf gatt) true)
      (hpending : t.pending = s.pending)
  | up (gatt : Nat) (hevent : event = .connected gatt) (hconnecting : s.links gatt = .connecting)
      (hlinks : t.links = update s.links gatt .connected)
      (hdevices : t.connectingOrConnectedDevices = s.connectingOrConnectedDevices)
      (hpending : t.pending = s.pending)
  | down (gatt : Nat) (hevent : event = .disconnected gatt) (hlive : s.Live gatt)
      (hlinks : t.links = update s.links gatt .closed)
      (hdevices : t.connectingOrConnectedDevices =
        update s.connectingOrConnectedDevices (addressOf gatt) false)
      (hpending : t.pending = s.pending)

variable {gatt : Nat} {events : List BleEvent}

theorem LinkStep.of_message (incoming : Incoming) (serialized : Bool) (h : s.Opened gatt) :
    LinkStep addressOf s (.message incoming gatt serialized)
      (s.message P incoming gatt serialized) := by
  simp only [BleService.message]
  split
  · refine .quiet (fun _ h ↦ nomatch h) rfl rfl fun prompt hprompt ↦ ?_
    rcases List.mem_cons.mp hprompt with rfl | hold
    · exact .inr h
    · exact .inl hold
  · exact .quiet (fun _ h ↦ nomatch h) rfl rfl fun _ ↦ .inl

/-- An answer leaves the connections and the other prompts alone. -/
theorem answered_frame (s : BleService) (prompt : Prompt) (approved : Bool) (calls : AnswerCalls) :
    (s.answered prompt approved calls).links = s.links ∧
      (s.answered prompt approved calls).connectingOrConnectedDevices =
        s.connectingOrConnectedDevices ∧
      (s.answered prompt approved calls).pending = s.pending := by
  simp only [BleService.answered, BleService.sendResponseToClient]
  split
  · split <;> exact ⟨rfl, rfl, rfl⟩
  · exact ⟨rfl, rfl, rfl⟩

theorem LinkStep.of_next {event : BleEvent} (h : (bleService P addressOf).next s event = some t) :
    LinkStep addressOf s event t := by
  cases event with
  | connectToClient gatt opened =>
    obtain ⟨hunused, h⟩ := Option.ite_none_right_eq_some.mp h
    split at h
    · cases h
      exact .quiet (fun _ h ↦ nomatch h) rfl rfl fun _ ↦ .inl
    · rename_i hfree
      split at h
      · cases h
        exact .opening gatt opened rfl hunused (Bool.eq_false_of_not_eq_true hfree) rfl rfl rfl
      · cases h
        exact .quiet (fun _ h ↦ nomatch h) rfl rfl fun _ ↦ .inl
  | connected gatt =>
    obtain ⟨hconnecting, h⟩ := Option.ite_none_right_eq_some.mp h
    cases h
    exact .up gatt rfl hconnecting rfl rfl rfl
  | disconnected gatt =>
    obtain ⟨hlive, h⟩ := Option.ite_none_right_eq_some.mp h
    cases h
    exact .down gatt rfl hlive rfl rfl rfl
  | message incoming gatt serialized =>
    obtain ⟨⟨-, hopened⟩, h⟩ := Option.ite_none_right_eq_some.mp h
    cases h
    exact .of_message incoming serialized hopened
  | graceOver index =>
    simp only [bleService, bleNext] at h
    split at h
    · obtain ⟨-, h⟩ := Option.ite_none_right_eq_some.mp h
      split at h
      · cases h
        exact .quiet (fun _ h ↦ nomatch h) rfl rfl fun _ ↦ .inl
      · cases h
        refine .quiet (fun _ h ↦ nomatch h) rfl rfl fun prompt hprompt ↦ .inl ?_
        exact List.mem_of_mem_filter hprompt
    · cases h
  | answer index approved calls =>
    obtain ⟨prompt, -, rfl⟩ := Option.map_eq_some_iff.mp h
    obtain ⟨hlinks, hdevices, hpending⟩ := answered_frame
      { s with pending := s.pending.eraseIdx index } prompt approved calls
    refine .quiet (fun _ h ↦ nomatch h) hlinks hdevices fun other hother ↦ .inl ?_
    rw [hpending] at hother
    exact List.mem_of_mem_eraseIdx hother
  | unanswered index =>
    obtain ⟨prompt, -, rfl⟩ := Option.map_eq_some_iff.mp h
    exact .quiet (fun _ h ↦ nomatch h) rfl rfl fun _ hother ↦
      .inl (List.mem_of_mem_eraseIdx hother)
  | gate event =>
    obtain ⟨-, h⟩ := Option.ite_none_right_eq_some.mp h
    obtain ⟨gate, -, rfl⟩ := Option.map_eq_some_iff.mp h
    exact .quiet (fun _ h ↦ nomatch h) rfl rfl fun _ ↦ .inl

namespace LinkStep

variable {event : BleEvent}

theorem opened_mono (h : LinkStep addressOf s event t) {gatt : Nat} (hgatt : s.Opened gatt) :
    t.Opened gatt := by
  unfold BleService.Opened at *
  cases h with
  | quiet _ hlinks =>
    rw [hlinks]
    exact hgatt
  | opening other _ _ hunused _ hlinks =>
    have hne : gatt ≠ other := by
      rintro rfl
      simp [hunused] at hgatt
    rwa [hlinks, update_of_ne hne]
  | up other _ _ hlinks =>
    rw [hlinks]
    by_cases heq : gatt = other
    · exact .inl (by rw [heq, update_self])
    · rwa [update_of_ne heq]
  | down other _ _ hlinks =>
    rw [hlinks]
    by_cases heq : gatt = other
    · exact .inr (by rw [heq, update_self])
    · rwa [update_of_ne heq]

/-- A handle is closed by the callback that says so, and stays closed. -/
theorem closed_iff (h : LinkStep addressOf s event t) (gatt : Nat) :
    t.links gatt = .closed ↔ s.links gatt = .closed ∨ event = .disconnected gatt := by
  cases h with
  | quiet hevent hlinks => simp [hlinks, hevent gatt]
  | opening other _ hevent hunused _ hlinks =>
    rw [hlinks, hevent]
    by_cases heq : gatt = other
    · simp [heq, hunused]
    · simp [update_of_ne heq]
  | up other hevent hconnecting hlinks =>
    rw [hlinks, hevent]
    by_cases heq : gatt = other
    · simp [heq, hconnecting]
    · simp [update_of_ne heq]
  | down other hevent _ hlinks =>
    rw [hlinks, hevent]
    by_cases heq : gatt = other
    · simp [heq]
    · simp [update_of_ne heq, Ne.symm heq]

end LinkStep

/-- There is one handle for a desktop at a time, and a prompt's has been connected. -/
structure BleService.Exclusive (addressOf : Nat → String) (s : BleService) : Prop where
  known : ∀ gatt, s.Live gatt → s.connectingOrConnectedDevices (addressOf gatt) = true
  unique : ∀ gatt other, s.Live gatt → s.Live other → addressOf gatt = addressOf other →
    gatt = other
  opened : ∀ prompt ∈ s.pending, s.Opened prompt.gatt

theorem exclusive_start (addressOf : Nat → String) (gate : RequestGate) :
    (BleService.start gate).Exclusive addressOf where
  known _ h := by simp [BleService.Live, BleService.start] at h
  unique _ _ h := by simp [BleService.Live, BleService.start] at h
  opened _ h := nomatch h

/-- Which handles are live once the state of one has been set. -/
theorem live_update {links : Nat → LinkState} {state : LinkState}
    (hlinks : t.links = update links gatt state) (other : Nat) :
    t.Live other ↔
      if other = gatt then state = .connecting ∨ state = .connected
      else links other = .connecting ∨ links other = .connected := by
  unfold BleService.Live
  rw [hlinks]
  split
  · rename_i heq
    rw [heq, update_self]
  · rename_i hne
    rw [update_of_ne hne]

/-- No handle becomes live, and the desktops of the live ones are as before. -/
theorem BleService.Exclusive.shrink (h : s.Exclusive addressOf)
    (hlive : ∀ gatt, t.Live gatt → s.Live gatt)
    (hdevices : ∀ gatt, t.Live gatt → t.connectingOrConnectedDevices (addressOf gatt) =
      s.connectingOrConnectedDevices (addressOf gatt))
    (hopened : ∀ prompt ∈ t.pending, t.Opened prompt.gatt) : t.Exclusive addressOf where
  known gatt hgatt := (hdevices gatt hgatt).trans (h.known gatt (hlive gatt hgatt))
  unique gatt other hgatt hother := h.unique gatt other (hlive gatt hgatt) (hlive other hother)
  opened := hopened

/-- A new handle, for a desktop that has none. -/
theorem BleService.Exclusive.opening (h : s.Exclusive addressOf)
    (hfree : s.connectingOrConnectedDevices (addressOf gatt) = false)
    (hlinks : t.links = update s.links gatt .connecting)
    (hdevices : t.connectingOrConnectedDevices =
      update s.connectingOrConnectedDevices (addressOf gatt) true)
    (hopened : ∀ prompt ∈ t.pending, t.Opened prompt.gatt) : t.Exclusive addressOf := by
  -- whoever else is live has another address
  have hother : ∀ other, other ≠ gatt → t.Live other →
      s.Live other ∧ addressOf other ≠ addressOf gatt := by
    intro other hne hlive
    rw [live_update hlinks, if_neg hne] at hlive
    refine ⟨hlive, fun haddress ↦ ?_⟩
    have hknown := h.known other hlive
    rw [haddress, hfree] at hknown
    cases hknown
  refine ⟨fun other hlive ↦ ?_, fun first second hfirst hsecond haddress ↦ ?_, hopened⟩
  · rw [hdevices]
    by_cases heq : other = gatt
    · rw [heq, update_self]
    · obtain ⟨hlive, haddress⟩ := hother other heq hlive
      rw [update_of_ne haddress]
      exact h.known other hlive
  · by_cases heq : first = gatt
    · by_contra hne
      exact (hother second (fun h ↦ hne (heq.trans h.symm)) hsecond).2
        (haddress ▸ congrArg addressOf heq)
    · obtain ⟨hlive, hfar⟩ := hother first heq hfirst
      by_cases hsame : second = gatt
      · exact absurd (haddress.trans (congrArg addressOf hsame)) hfar
      · exact h.unique first second hlive (hother second hsame hsecond).1 haddress

theorem BleService.Exclusive.next {event : BleEvent} (h : s.Exclusive addressOf)
    (hstep : LinkStep addressOf s event t) : t.Exclusive addressOf := by
  have hopened : ∀ prompt ∈ s.pending, t.Opened prompt.gatt := fun prompt hprompt ↦
    hstep.opened_mono (h.opened prompt hprompt)
  cases hstep with
  | quiet hevent hlinks hdevices hpending =>
    refine h.shrink (fun gatt hgatt ↦ ?_) (fun _ _ ↦ by rw [hdevices]) fun prompt hprompt ↦ ?_
    · rwa [BleService.Live, hlinks] at hgatt
    · rcases hpending prompt hprompt with hold | hnew
      · exact hopened prompt hold
      · rwa [BleService.Opened, hlinks]
  | opening gatt _ _ hunused hfree hlinks hdevices hpending =>
    exact h.opening hfree hlinks hdevices (hpending ▸ hopened)
  | up gatt _ hconnecting hlinks hdevices hpending =>
    refine h.shrink (fun other hlive ↦ ?_) (fun _ _ ↦ by rw [hdevices]) (hpending ▸ hopened)
    rw [live_update hlinks] at hlive
    split at hlive
    · rename_i heq
      exact .inl (heq ▸ hconnecting)
    · exact hlive
  | down gatt _ hgatt hlinks hdevices hpending =>
    have hlive : ∀ other, t.Live other → s.Live other ∧ other ≠ gatt := by
      intro other hlive
      rw [live_update hlinks] at hlive
      split at hlive
      · simp at hlive
      · rename_i hne
        exact ⟨hlive, hne⟩
    refine h.shrink (fun other hother ↦ (hlive other hother).1) (fun other hother ↦ ?_)
      (hpending ▸ hopened)
    obtain ⟨hother, hne⟩ := hlive other hother
    have haddress : addressOf other ≠ addressOf gatt := fun heq ↦
      hne (h.unique other gatt hother hgatt heq)
    rw [hdevices, update_of_ne haddress]

/-! ## Where an answer goes -/

/-- The desktop has not been without a connection for as long as the grace period. -/
def BleService.BriefOutage (address : String) (s : BleService) (_ : BleEvent) : Prop :=
  (s.downSince address).all fun since ↦ s.gate.now - since < graceMs

instance (address : String) (s : BleService) (event : BleEvent) :
    Decidable (s.BriefOutage address event) :=
  inferInstanceAs (Decidable (_ = true))

theorem BleService.Exclusive.exec {gate : RequestGate}
    (hrun : (bleService P addressOf).exec (.start gate) events = some s) :
    s.Exclusive addressOf :=
  (bleService P addressOf).invariant (fun _ _ _ h hnext ↦ h.next (.of_next hnext))
    (exclusive_start addressOf gate) hrun

theorem closed_iff_mem {gate : RequestGate}
    (hrun : (bleService P addressOf).exec (.start gate) events = some s) (gatt : Nat) :
    s.links gatt = .closed ↔ .disconnected gatt ∈ events := by
  have hflag := (bleService P addressOf).flag_iff_meets (I := fun _ ↦ True)
    (F := fun s ↦ s.links gatt = .closed) (G := fun _ event ↦ event = .disconnected gatt)
    (fun _ _ _ _ hnext ↦ ⟨trivial, (LinkStep.of_next hnext).closed_iff gatt⟩) trivial hrun
  rw [hflag, (bleService P addressOf).meets_iff_exists_mem hrun]
  simp [BleService.start]

theorem written_answered (s : BleService) (prompt : Prompt) (approved : Bool) :
    (s.answered prompt approved .succeeding).written =
      if s.links prompt.gatt = .connected then
        ⟨prompt.job.key, approved, prompt.gatt⟩ :: s.written
      else s.written := by
  by_cases h : s.links prompt.gatt = .connected <;>
    simp [BleService.answered, BleService.sendResponseToClient, AnswerCalls.succeeding, h]

/-- The user answers a prompt while a connection to its desktop is up, and every call made for
the answer succeeds where it can.  The answer is written on that connection iff the one the
request was read over has not gone down since. -/
theorem answer_written_iff {gate : RequestGate} {events : List BleEvent} {index gatt : Nat}
    {prompt : Prompt} (approved : Bool)
    (hrun : (bleService P addressOf).exec (.start gate) events = some s)
    (hprompt : s.pending[index]? = some prompt) (hup : s.links gatt = .connected)
    (haddress : addressOf gatt = addressOf prompt.gatt) :
    ∃ t, (bleService P addressOf).next s (.answer index approved .succeeding) = some t ∧
      (t.written = ⟨prompt.job.key, approved, gatt⟩ :: s.written ↔
        .disconnected prompt.gatt ∉ events) := by
  have hexclusive := BleService.Exclusive.exec hrun
  refine ⟨_, Option.map_eq_some_iff.mpr ⟨prompt, hprompt, rfl⟩, ?_⟩
  rw [written_answered, ← closed_iff_mem hrun prompt.gatt]
  rcases hexclusive.opened prompt (List.mem_of_getElem? hprompt) with hopen | hclosed
  · have hsame : prompt.gatt = gatt :=
      hexclusive.unique prompt.gatt gatt (.inr hopen) (.inr hup) haddress.symm
    simp [hsame, hup]
  · simp [hclosed]

end

namespace LinkSample

def address : String := "A0:00:00:00:00:01"

/-- A connection, the request that is read over it, and the prompt. -/
def prompted : List BleEvent :=
  [.connectToClient 1 true, .connected 1, .message (GateSample.packet .ble 1) 1 true]

/-- The connection goes down and two seconds later there is another, over which the request is
read again. -/
def reconnected : List BleEvent :=
  prompted ++ [.disconnected 1, .gate (.clocks 1002000 7000), .connectToClient 2 true,
    .connected 2, .message (GateSample.packet .ble 1) 2 true]

def service : Machine BleService BleEvent := bleService RequestSample.primitives fun _ ↦ address

end LinkSample

open LinkSample

/-- The callback keeps the handle of the connection that is gone, and reading the request again
does not change that, since it is a replay. -/
theorem answer_lost_after_reconnection :
    ¬ ∀ (events : List BleEvent) (s t : BleService) (index gatt : Nat) (prompt : Prompt)
        (approved : Bool),
      service.exec (.start GateSample.start) events = some s →
      service.Along (BleService.BriefOutage address)
        (.start GateSample.start) events →
      s.pending[index]? = some prompt → s.links gatt = .connected →
      service.next s (.answer index approved .succeeding) = some t →
      ⟨prompt.job.key, approved, gatt⟩ ∈ t.written := by
  intro h
  have hrun : ((service.exec (.start GateSample.start) reconnected).map
      fun s ↦ (s.pending.length, s.links 2, (service.next s
        (.answer 0 true .succeeding)).map BleService.written)) =
      some (1, .connected, some []) := by
    decide +kernel
  obtain ⟨s, hs, hend⟩ := Option.map_eq_some_iff.mp hrun
  obtain ⟨hlength, hend⟩ := Prod.mk.inj hend
  obtain ⟨hup, hanswer⟩ := Prod.mk.inj hend
  obtain ⟨t, ht, hwritten⟩ := Option.map_eq_some_iff.mp hanswer
  obtain ⟨prompt, hprompt⟩ := List.length_eq_one_iff.mp hlength
  have hmem := h reconnected s t 0 2 prompt true hs (by decide +kernel)
    (by rw [hprompt]; rfl) hup ht
  rw [hwritten] at hmem
  exact List.not_mem_nil hmem

theorem answer_written_iff_sample :
    ∃ s t prompt, service.exec (.start GateSample.start) prompted = some s ∧
      s.pending = [prompt] ∧
      service.next s (.answer 0 true .succeeding) = some t ∧
      t.written = [⟨prompt.job.key, true, 1⟩] := by
  have hrun : ((service.exec (.start GateSample.start) prompted).map
      fun s ↦ (s.pending.length, s.links 1, s.written)) = some (1, .connected, []) := by
    decide +kernel
  obtain ⟨s, hs, hend⟩ := Option.map_eq_some_iff.mp hrun
  obtain ⟨hlength, hend⟩ := Prod.mk.inj hend
  obtain ⟨hup, hwritten⟩ := Prod.mk.inj hend
  obtain ⟨prompt, hprompt⟩ := List.length_eq_one_iff.mp hlength
  have hfirst : s.pending[0]? = some prompt := by
    rw [hprompt]
    rfl
  obtain ⟨t, ht, hiff⟩ := answer_written_iff true hs hfirst hup rfl
  refine ⟨s, t, prompt, hs, hprompt, ht, ?_⟩
  have hkept : BleEvent.disconnected prompt.gatt ∉ prompted := by
    simp [prompted]
  rw [hiff.mpr hkept, hwritten]

end TapAuth.Phone
