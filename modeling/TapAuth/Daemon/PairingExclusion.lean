import TapAuth.Daemon.AdminRequest

/-!
# One pairing session at a time

A pairing session is live while the slot holds it or a `WaitForPairing` handler waits
with it for the phone.  `handle_start_pairing` refuses to start a session when the slot
holds one, which leaves out those that a handler holds.

`pairing_exclusive` is what holds under interleaving: at most one session is live in
every run in which no session is put into the slot while a handler holds another, and
in every run a timeout discards no session but that of its own generation.
-/

namespace TapAuth.Daemon

open Shared

/-- The handler has taken the pending session out of the slot and waits with it: for the
connection, for the phone's messages or for the lock. -/
def PairingThread.holdsSession : PairingThread → Bool
  | .accepting _ | .handshaking _ | .activating _ _ => true
  | _ => false

def RequestThread.holdsSession : RequestThread → Bool
  | .request _ _ (.pairing l) => l.holdsSession
  | _ => false

/-- `handle_start_pairing` is about to look at the slot. -/
def PairingThread.installs : PairingThread → Bool
  | .installing _ => true
  | _ => false

def RequestThread.installs : RequestThread → Bool
  | .request _ _ (.pairing l) => l.installs
  | _ => false

section

variable {ι : Type*} (p : Pool ι AdminWorld RequestThread)

/-- A session is live in the slot (`none`) or at a handler. -/
def Live : Option ι → Prop
  | none => p.shared.pairing.slot.isSome = true
  | some i => (p.locals i).holdsSession = true

/-- Where a session is put into the slot, no handler holds one. -/
def InstallsAlone (label : ι × RequestEvent) : Prop :=
  (p.locals label.1).installs = true → ∀ i, (p.locals i).holdsSession = false

instance [Fintype ι] (label : ι × RequestEvent) : Decidable (InstallsAlone p label) :=
  inferInstanceAs (Decidable (_ → _))

end

/-! ## What a step does to the slot -/

/-- What a step can do to the slot, with whether the task holds a session before and after the
step and whether it is to put one into the slot. -/
inductive SlotStep (before after : Option PairingState) (held installs held' : Bool) : Prop where
  | quiet (hslot : after = before) (h : held' = true → held = true)
  | emptied (hslot : after = none) (h : held' = true → before.isSome = true)
  | filled (hslot : before = none) (h : held' = false) (hl : held = true ∨ installs = true)

section

variable {P : Primitives} {tpm : Bool} {s t : AdminWorld} {call : AdminCall}
  {reply : Option PolkitReply}

/-- A handler of the slot waits or leaves, takes the session or puts one there. -/
theorem pairingStep_slot {slot slot' : PairingSlot} {l l' : PairingThread} {event : PairingEvent}
    (h : pairingStep P slot l event = some (slot', l')) :
    SlotStep slot.slot slot'.slot l.holdsSession l.installs l'.holdsSession := by
  unfold pairingStep at h
  split at h
  case h_4 pending =>
    -- `handle_start_pairing` holds the lock
    split at h
    · cases h
      exact .quiet rfl nofun
    next hempty =>
      cases h
      exact .filled (Option.not_isSome_iff_eq_none.mp hempty) rfl (.inr rfl)
  case h_5 port =>
    -- `handle_wait_for_pairing` holds the lock
    split at h
    · cases h
      exact .quiet rfl nofun
    next pending htake =>
      cases h
      refine .emptied rfl fun _ ↦ ?_
      rw [takePending_eq_ok htake]
      rfl
  case h_8 active sas =>
    -- and again, with the session it has waited with
    split at h
    · cases h
      exact .quiet rfl nofun
    next hempty =>
      cases h
      exact .filled (Option.not_isSome_iff_eq_none.mp hempty) rfl (.inl rfl)
  case h_9 port username =>
    -- `handle_complete_pairing` holds the lock
    split at h
    · cases h
      exact .quiet rfl nofun
    · cases h
      exact .emptied rfl nofun
  case h_11 => cases h
  all_goals
    -- the other steps do not look at the slot
    repeat' split at h
    all_goals
      cases h
      exact .quiet rfl (by simp [PairingThread.holdsSession])

theorem holdsSession_ofReload (l : AdminThread) :
    (RequestThread.request call reply (.ofReload l)).holdsSession = false := by
  cases l <;> rfl

theorem holdsSession_dispatch (username : String) :
    (RequestThread.request call reply (.dispatch tpm call username)).holdsSession = false := by
  unfold Stage.dispatch
  split <;> rfl

theorem holdsSession_ofPairing (l : PairingThread) :
    (RequestThread.request call reply (.ofPairing tpm call l)).holdsSession = l.holdsSession := by
  cases l with
  | finished response =>
    simp only [Stage.ofPairing]
    split <;> rfl
  | _ => rfl

/-- Of the stages of a request only the handlers of the slot touch it. -/
theorem stageStep_slot {stage stage' : Stage} {reply' : Option PolkitReply} {event : RequestEvent}
    (h : stageStep P tpm s call stage event = some (t, reply', stage')) :
    SlotStep s.pairing.slot t.pairing.slot (RequestThread.request call reply stage).holdsSession
      (RequestThread.request call reply stage).installs
      (RequestThread.request call (reply'.or reply) stage').holdsSession := by
  unfold stageStep at h
  split at h
  case h_2 identity answer =>
    split at h
    · cases h
      exact .quiet rfl nofun
    · cases h
      exact .quiet rfl fun hheld ↦ by simp [holdsSession_dispatch] at hheld
  case h_6 l event left =>
    obtain ⟨⟨slot, l'⟩, hstep, hmoved⟩ := Option.map_eq_some_iff.mp h
    cases hmoved
    rw [holdsSession_ofPairing]
    exact pairingStep_slot hstep
  case h_7 l event left =>
    obtain ⟨moved, -, hmoved⟩ := Option.map_eq_some_iff.mp h
    cases hmoved
    exact .quiet rfl fun hheld ↦ by simp [holdsSession_ofReload] at hheld
  case h_8 => cases h
  all_goals
    try split at h
    all_goals
      cases h
      exact .quiet rfl nofun

theorem requestStep_slot {l l' : RequestThread} {event : RequestEvent}
    (h : requestStep P tpm s l event = some (t, l')) :
    SlotStep s.pairing.slot t.pairing.slot l.holdsSession l.installs l'.holdsSession := by
  unfold requestStep at h
  split at h
  · cases h
    exact .quiet rfl nofun
  · split at h
    · cases h
      exact .quiet rfl nofun
    · cases h
  next timeout =>
    cases h
    obtain hsame | ⟨hnone, -⟩ := timeout.fire_eq_or s.pairing.slot
    · exact .quiet hsame nofun
    · exact .emptied hnone nofun
  · obtain ⟨moved, hstep, hmoved⟩ := Option.map_eq_some_iff.mp h
    cases hmoved
    exact stageStep_slot hstep
  · cases h

end

/-- `StartPairing` has put its session into the slot; what is left is to answer with
success. -/
def RequestThread.started : RequestThread → Bool
  | .request _ _ (.pairing (.spawning timeout _)) => timeout.phase = .pending
  | _ => false

/-- `StartPairing` succeeds where the slot is empty. -/
theorem slot_eq_none_of_started {P : Primitives} {tpm : Bool} {s t : AdminWorld}
    {l l' : RequestThread} {left : OtherFiles} (hl : l.installs = true)
    (h : requestStep P tpm s l (.pairing .lock left) = some (t, l')) (hl' : l'.started = true) :
    s.pairing.slot = none := by
  rcases l with _ | _ | _ | ⟨call, reply, _ | _ | _ | _ | _ | l | _ | _⟩
  case request.pairing =>
    cases l with
    | installing pending =>
      cases hslot : s.pairing.slot with
      | none => rfl
      | some session =>
        -- the handler has answered that a session is in progress
        simp only [requestStep, stageStep, pairingStep, hslot, Option.isSome_some, if_true,
          Option.map_some, Option.some.injEq, Prod.mk.injEq] at h
        rw [← h.2] at hl'
        unfold Stage.ofPairing at hl'
        dsimp only at hl'
        split at hl' <;> cases hl'
    | _ => cases hl
  all_goals cases hl

/-! ## Runs -/

/-- A handler that holds a session has left the slot empty. -/
def HoldsApart (s : AdminWorld) (l : RequestThread) : Prop :=
  l.holdsSession = true → s.pairing.slot = none

section

variable {P : Primitives} {tpm : Bool} {ι : Type*} {p q : Pool ι AdminWorld RequestThread}
  {labels : List (ι × RequestEvent)}

/-- One session: the slot is empty while a handler holds one, and only one handler does. -/
abbrev OneSession (p : Pool ι AdminWorld RequestThread) : Prop :=
  Threads.Holds (fun _ ↦ True) HoldsApart (fun _ l ↦ l.holdsSession = true) p

theorem OneSession.subsingleton (h : OneSession p) : {place | Live p place}.Subsingleton := by
  rintro (_ | i) hx (_ | j) hy
  · rfl
  · have hslot : p.shared.pairing.slot = none := h.locals j hy
    simp [Live, hslot] at hx
  · have hslot : p.shared.pairing.slot = none := h.locals i hx
    simp [Live, hslot] at hy
  · rw [h.exclusive i j hx hy]

variable [DecidableEq ι]

theorem oneSession_along (hp : OneSession p)
    (hrun : (adminRequests P tpm).pool.exec p labels = some q)
    (halone : (adminRequests P tpm).pool.Along InstallsAlone p labels) : OneSession q := by
  refine (adminRequests P tpm).exclusion_along ?_ ?_ hp hrun halone
  · -- the task that moves
    intro p i event s l hp _ hstep
    refine ⟨trivial, ?_⟩
    cases requestStep_slot hstep with
    | quiet hslot h =>
      refine ⟨fun hl ↦ hslot.trans (hp.locals i (h hl)), fun hl j hji hj ↦ ?_⟩
      exact hji (hp.exclusive j i hj (h hl))
    | emptied hslot h =>
      refine ⟨fun _ ↦ hslot, fun hl j _ hj ↦ ?_⟩
      have hsome := h hl
      rw [hp.locals j hj] at hsome
      cases hsome
    | filled hslot h =>
      refine ⟨fun hl ↦ ?_, fun hl ↦ ?_⟩
      · cases h.symm.trans hl
      · cases h.symm.trans hl
  · -- the others
    intro p i j event s l hp halone hji hstep
    refine ⟨fun hj ↦ ?_, id⟩
    cases requestStep_slot hstep with
    | quiet hslot => exact hslot.trans (hp.locals j hj)
    | emptied hslot => exact hslot
    | filled _ _ hl =>
      rcases hl with hheld | hinstalls
      · exact absurd (hp.exclusive j i hj hheld) hji
      · cases (halone hinstalls j).symm.trans hj

/-- **One pairing session at a time.**  In every run in which no session is put into the slot
while a handler holds one, at most one session is live, and `StartPairing` succeeds only where
none is.  In every run a timeout discards a session of its own generation or none. -/
theorem pairing_exclusive (hp : ∀ i, p.locals i = .idle)
    (hrun : (adminRequests P tpm).pool.exec p labels = some q) :
    ((adminRequests P tpm).pool.Along InstallsAlone p labels →
      {place | Live q place}.Subsingleton ∧
      ∀ i left r, InstallsAlone q (i, .pairing .lock left) → (q.locals i).installs = true →
        (adminRequests P tpm).pool.next q (i, .pairing .lock left) = some r →
        (r.locals i).started = true → ∀ place, ¬ Live q place) ∧
    ∀ i timeout r, q.locals i = .sleeping timeout →
      (adminRequests P tpm).pool.next q (i, .elapse) = some r →
      r.shared.pairing.slot = q.shared.pairing.slot ∨
        r.shared.pairing.slot = none ∧
          ∃ session ∈ q.shared.pairing.slot, session.generation = timeout.generation := by
  have hstart : OneSession p := by
    refine ⟨trivial, fun i hi ↦ ?_, fun i j hi ↦ ?_⟩
    · rw [hp i] at hi
      cases hi
    · rw [hp i] at hi
      cases hi
  refine ⟨fun halone ↦ ⟨(oneSession_along hstart hrun halone).subsingleton, ?_⟩, ?_⟩
  · intro i left r halone hinstalls hnext hstarted
    have hstep := ((adminRequests P tpm).step_of_pool_next hnext).1
    have hslot := slot_eq_none_of_started hinstalls hstep hstarted
    rintro (_ | j) hlive
    · simp [Live, hslot] at hlive
    · cases (halone hinstalls j).symm.trans hlive
  · intro i timeout r hi hnext
    have hstep := ((adminRequests P tpm).step_of_pool_next hnext).1
    rw [hi] at hstep
    have hfired : timeout.fire q.shared.pairing.slot = r.shared.pairing.slot :=
      congrArg (fun moved ↦ moved.1.pairing.slot) (Option.some.inj hstep)
    rw [← hfired]
    obtain hsame | ⟨hnone, session, hsession, -, hgeneration⟩ :=
      timeout.fire_eq_or q.shared.pairing.slot
    · exact .inl hsame
    · exact .inr ⟨hnone, session, hsession, hgeneration⟩

end

namespace SlotSample

open RequestSample

/-- A granted request has passed the gate. -/
def granted {ι : Type} (i : ι) (payload : RequestPayload) : List (ι × RequestEvent) :=
  [(i, ask 1000 payload), (i, resolved), (i, .polkit (.answered true))]

def step {ι : Type} (i : ι) (event : PairingEvent) : ι × RequestEvent :=
  (i, .pairing event world.files)

def listenIo (port : UInt16) : ListenIo where
  ipv4 := some "192.168.1.7"
  ipv6 := none
  bindListener := .ok ()
  localPort := .ok port
  firewall := .ok ()
  x25519Keypair := .ok ⟨FixedBytes.fill 32 7⟩

/-- A whole `StartPairing`. -/
def starting {ι : Type} (i : ι) (port : UInt16) : List (ι × RequestEvent) :=
  granted i .startPairing ++ [step i (.loadKeypair (.ok Sample.desktop)),
    step i (.listen (listenIo port)), step i .lock, step i .spawn]

/-- A `WaitForPairing` that waits for the connection. -/
def waiting {ι : Type} (i : ι) : List (ι × RequestEvent) :=
  granted i (.waitForPairing 0) ++ [step i .lock]

/-- A second `StartPairing` while the first session waits for its phone. -/
def doubled : List (Nat × RequestEvent) := starting 0 4000 ++ waiting 1 ++ starting 2 4001

def startNat : Pool Nat AdminWorld RequestThread := ⟨world, fun _ ↦ .idle⟩

end SlotSample

open SlotSample

/-- Two sessions are live: one at a handler that waits for the connection, one in the slot. -/
theorem two_live_of_doubled :
    ∃ q, (adminRequests Sample.primitives false).pool.exec startNat
        doubled = some q ∧ Live q none ∧ Live q (some 1) ∧
      RequestSample.statusOf (q.locals 2) = some .success := by
  have hfinal : ((adminRequests Sample.primitives false).pool.exec startNat
      doubled).map (fun q ↦ decide (q.shared.pairing.slot.isSome = true ∧
        (q.locals 1).holdsSession = true ∧
        RequestSample.statusOf (q.locals 2) = some .success)) = some true := by decide +kernel
  obtain ⟨q, hq, hend⟩ := Option.map_eq_some_iff.mp hfinal
  obtain ⟨hslot, hheld, hsuccess⟩ := of_decide_eq_true hend
  exact ⟨q, hq, hslot, hheld, hsuccess⟩

/-- A session that is started and then waited with is the only one. -/
theorem pairing_exclusive_sample :
    ∃ q, (adminRequests Sample.primitives false).pool.exec RequestSample.start
        (starting false 4000 ++ waiting true) = some q ∧
      Live q (some true) ∧ {place | Live q place}.Subsingleton := by
  have hfinal : ((adminRequests Sample.primitives false).pool.exec RequestSample.start
      (starting false 4000 ++ waiting true)).map (fun q ↦
        decide ((q.locals true).holdsSession = true)) = some true := by decide +kernel
  obtain ⟨q, hq, hend⟩ := Option.map_eq_some_iff.mp hfinal
  have hheld := of_decide_eq_true hend
  refine ⟨q, hq, hheld, ?_⟩
  exact ((pairing_exclusive (fun _ ↦ rfl) hq).1 (by decide +kernel)).1

end TapAuth.Daemon
