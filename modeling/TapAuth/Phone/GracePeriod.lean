import TapAuth.Phone.Reconnection

/-!
# The grace period of a lost connection

When a connection goes down, a coroutine waits five seconds and then cancels the desktop's
prompts, unless there is a connection again.  It looks at the connections of that moment only,
and every loss starts a coroutine of its own.

If no connection is lost while the coroutine of an earlier loss is waiting, a desktop whose
prompts are cancelled has been without a connection for five seconds
(`cancelled_after_grace`).  If one is, the earlier coroutine cancels for the later loss
(`cancelled_too_early`).
-/

namespace TapAuth.Phone

open Shared

section

variable {P : Primitives} {addressOf : Nat → String} {s t : BleService} {event : BleEvent}
  {address : String}

/-- There is no connection to the desktop. -/
def BleService.Down (addressOf : Nat → String) (address : String) (s : BleService) : Prop :=
  ∀ gatt, addressOf gatt = address → s.links gatt ≠ .connected

theorem now_le_of_gateNext {gate next : RequestGate} {event : GateEvent}
    (h : gateNext P gate event = some next) : gate.now ≤ next.now := by
  cases event with
  | receive incoming gatt serialized =>
    cases h
    rw [now_receive]
    exact Int64.le_refl _
  | clocks currentTimeMillis elapsedRealtime =>
    obtain ⟨hle, h⟩ := Option.ite_none_right_eq_some.mp h
    cases h
    exact hle
  | cleanup | resetClient | releaseLock | disconnected =>
    cases h
    exact Int64.le_refl _

theorem now_cancelRequests (s : BleService) :
    (s.cancelRequests addressOf address).gate.now = s.gate.now := by
  unfold BleService.cancelRequests
  generalize s.pending.filter (fun prompt ↦ addressOf prompt.gatt = address) = cancelled
  have hnow : ∀ gate : RequestGate,
      (cancelled.foldl (fun gate prompt ↦ gate.releaseLock prompt.job.key) gate).now =
        gate.now := by
    induction cancelled with
    | nil => exact fun gate ↦ rfl
    | cons prompt cancelled ih => exact fun gate ↦ ih (gate.releaseLock prompt.job.key)
  exact hnow s.gate

theorem grace_answered (s : BleService) (prompt : Prompt) (approved : Bool) (calls : AnswerCalls) :
    (s.answered prompt approved calls).gate.now = s.gate.now ∧
      (s.answered prompt approved calls).graces = s.graces := by
  simp only [BleService.answered, BleService.sendResponseToClient]
  split
  · split <;> exact ⟨rfl, rfl⟩
  · exact ⟨rfl, rfl⟩

theorem grace_message (s : BleService) (incoming : Incoming) (gatt : Nat) (serialized : Bool) :
    (s.message P incoming gatt serialized).gate.now = s.gate.now ∧
      (s.message P incoming gatt serialized).graces = s.graces := by
  simp only [BleService.message]
  split <;> exact ⟨now_receive .., rfl⟩

/-- The clock does not go back, and a coroutine is started for a loss only. -/
theorem grace_of_next (h : (bleService P addressOf).next s event = some t) :
    s.gate.now ≤ t.gate.now ∧
      ((∀ x ∈ t.graces, x ∈ s.graces) ∨
        ∃ gatt, event = .disconnected gatt ∧ t.gate.now = s.gate.now ∧
          t.graces = (addressOf gatt, s.gate.now + graceMs) :: s.graces) := by
  cases event with
  | connectToClient gatt opened =>
    obtain ⟨-, h⟩ := Option.ite_none_right_eq_some.mp h
    split at h
    · cases h
      exact ⟨Int64.le_refl _, .inl fun _ ↦ id⟩
    · split at h <;> cases h <;> exact ⟨Int64.le_refl _, .inl fun _ ↦ id⟩
  | connected gatt =>
    obtain ⟨-, h⟩ := Option.ite_none_right_eq_some.mp h
    cases h
    exact ⟨Int64.le_refl _, .inl fun _ ↦ id⟩
  | disconnected gatt =>
    obtain ⟨-, h⟩ := Option.ite_none_right_eq_some.mp h
    cases h
    exact ⟨Int64.le_refl _, .inr ⟨gatt, rfl, rfl, rfl⟩⟩
  | message incoming gatt serialized =>
    obtain ⟨-, h⟩ := Option.ite_none_right_eq_some.mp h
    cases h
    obtain ⟨hnow, hgraces⟩ := grace_message s incoming gatt serialized (P := P)
    rw [hnow, hgraces]
    exact ⟨Int64.le_refl _, .inl fun _ ↦ id⟩
  | graceOver index =>
    simp only [bleService, bleNext] at h
    split at h
    · obtain ⟨-, h⟩ := Option.ite_none_right_eq_some.mp h
      split at h
      · cases h
        exact ⟨Int64.le_refl _, .inl fun _ ↦ List.mem_of_mem_eraseIdx⟩
      · cases h
        rw [now_cancelRequests]
        exact ⟨Int64.le_refl _, .inl fun _ ↦ List.mem_of_mem_eraseIdx⟩
    · cases h
  | answer index approved calls =>
    obtain ⟨prompt, -, rfl⟩ := Option.map_eq_some_iff.mp h
    obtain ⟨hnow, hgraces⟩ := grace_answered
      { s with pending := s.pending.eraseIdx index } prompt approved calls
    rw [hnow, hgraces]
    exact ⟨Int64.le_refl _, .inl fun _ ↦ id⟩
  | unanswered index =>
    obtain ⟨prompt, -, rfl⟩ := Option.map_eq_some_iff.mp h
    exact ⟨Int64.le_refl _, .inl fun _ ↦ id⟩
  | gate event =>
    obtain ⟨-, h⟩ := Option.ite_none_right_eq_some.mp h
    obtain ⟨gate, hgate, rfl⟩ := Option.map_eq_some_iff.mp h
    exact ⟨now_le_of_gateNext hgate, .inl fun _ ↦ id⟩

/-- Only its own callback takes a connection down. -/
theorem disconnected_of_down (h : LinkStep addressOf s event t) {gatt : Nat}
    (hup : s.links gatt = .connected) (hdown : t.links gatt ≠ .connected) :
    event = .disconnected gatt := by
  cases h with
  | quiet _ hlinks =>
    rw [hlinks] at hdown
    exact absurd hup hdown
  | opening other _ _ hunused _ hlinks =>
    have hne : gatt ≠ other := by
      rintro rfl
      rw [hup] at hunused
      cases hunused
    rw [hlinks, Function.update_of_ne hne] at hdown
    exact absurd hup hdown
  | up other _ _ hlinks =>
    by_cases heq : gatt = other
    · rw [hlinks, heq, Function.update_self] at hdown
      exact absurd rfl hdown
    · rw [hlinks, Function.update_of_ne heq] at hdown
      exact absurd hup hdown
  | down other hevent _ hlinks =>
    by_cases heq : gatt = other
    · rw [hevent, heq]
    · rw [hlinks, Function.update_of_ne heq] at hdown
      exact absurd hup hdown

/-! ## How long there has been no connection -/

/-- In the run there has been no connection to the desktop since this instant. -/
def DisconnectedSince (P : Primitives) (addressOf : Nat → String) (address : String)
    (start : BleService) (events : List BleEvent) (since : Int64) : Prop :=
  ∃ before after u, events = before ++ after ∧
    (bleService P addressOf).exec start before = some u ∧ u.gate.now = since ∧
    (bleService P addressOf).Along (fun s _ ↦ s.Down addressOf address) u after

variable {events : List BleEvent}

theorem disconnectedSince_now {start : BleService}
    (hrun : (bleService P addressOf).exec start events = some s) :
    DisconnectedSince P addressOf address start events s.gate.now :=
  ⟨events, [], s, (List.append_nil events).symm, hrun, rfl, trivial⟩

/-- It lasts through a step of a service that has no connection to the desktop. -/
theorem DisconnectedSince.concat {start : BleService} {since : Int64}
    (h : DisconnectedSince P addressOf address start events since)
    (hrun : (bleService P addressOf).exec start events = some s)
    (hdown : s.Down addressOf address) (event : BleEvent) :
    DisconnectedSince P addressOf address start (events ++ [event]) since := by
  obtain ⟨before, after, u, rfl, hbefore, hsince, hafter⟩ := h
  rw [(bleService P addressOf).exec_append hbefore] at hrun
  have hlonger : (bleService P addressOf).Along (fun s _ ↦ s.Down addressOf address) u
      (after ++ [event]) :=
    (Machine.along_append _ hrun).mpr ⟨hafter, hdown, fun _ _ ↦ trivial⟩
  exact ⟨before, after ++ [event], u, List.append_assoc .., hbefore, hsince, hlonger⟩

/-- A connection is lost when no coroutine waits for an earlier loss of the desktop, and not at
the end of all times. -/
def lossesApart (addressOf : Nat → String) (s : BleService) : BleEvent → Bool
  | .disconnected gatt =>
    s.gate.now.toInt + 5000 < 2 ^ 63 &&
      (s.links gatt ≠ .connected || s.graces.all fun grace ↦ grace.1 ≠ addressOf gatt)
  | _ => true

def LossesApart (addressOf : Nat → String) (s : BleService) (event : BleEvent) : Prop :=
  lossesApart addressOf s event

instance (s : BleService) (event : BleEvent) : Decidable (LossesApart addressOf s event) :=
  inferInstanceAs (Decidable (_ = true))

theorem toInt_add_graceMs {now : Int64} (h : now.toInt + 5000 < 2 ^ 63) :
    (now + graceMs).toInt = now.toInt + 5000 := by
  have hlow := now.le_toInt
  have hgrace : graceMs.toInt = 5000 := rfl
  rw [Int64.toInt_add, hgrace]
  exact Int.bmod_eq_of_le (by omega) (by omega)

/-- The coroutines that wait were started after the desktop's last connection. -/
theorem disconnectedSince_of_down {gate : RequestGate}
    (hrun : (bleService P addressOf).exec (.start gate) events = some s)
    (hapart : (bleService P addressOf).Along (LossesApart addressOf) (.start gate) events)
    (hdown : s.Down addressOf address) :
    ∃ since, DisconnectedSince P addressOf address (.start gate) events since ∧
      since ≤ s.gate.now ∧
      ∀ due, (address, due) ∈ s.graces → since.toInt + 5000 ≤ due.toInt := by
  refine (bleService P addressOf).history_along (H := fun events s ↦ s.Down addressOf address →
    ∃ since, DisconnectedSince P addressOf address (.start gate) events since ∧
      since ≤ s.gate.now ∧
      ∀ due, (address, due) ∈ s.graces → since.toInt + 5000 ≤ due.toInt) ?_ ?_ hrun hapart hdown
  · exact fun _ ↦ ⟨_, ⟨[], [], _, rfl, rfl, rfl, trivial⟩, Int64.le_refl _, nofun⟩
  · intro before u event v hbefore ih hapart hnext hv
    obtain ⟨hle, hgraces⟩ := grace_of_next hnext
    by_cases hu : u.Down addressOf address
    · -- it was down before: the same instant, and a new coroutine waits for even longer
      obtain ⟨since, hsince, hfrom, hdue⟩ := ih hu
      refine ⟨since, hsince.concat hbefore hu event, Int64.le_trans hfrom hle, fun due hmem ↦ ?_⟩
      obtain hold | ⟨gatt, rfl, -, hnew⟩ := hgraces
      · exact hdue due (hold _ hmem)
      · rw [hnew] at hmem
        obtain heq | hmem := List.mem_cons.mp hmem
        · simp only [LossesApart, lossesApart, Bool.and_eq_true, decide_eq_true_eq] at hapart
          obtain ⟨-, rfl⟩ := Prod.mk.inj heq
          rw [toInt_add_graceMs hapart.1]
          have := Int64.le_iff_toInt_le.mp hfrom
          omega
        · exact hdue due hmem
    · -- the connection has just been lost
      simp only [BleService.Down, not_forall, not_not] at hu
      obtain ⟨gatt, rfl, hup⟩ := hu
      obtain rfl := disconnected_of_down (.of_next hnext) hup (hv gatt rfl)
      simp only [LossesApart, lossesApart, hup, ne_eq, not_true_eq_false, decide_false,
        Bool.false_or, Bool.and_eq_true, decide_eq_true_eq, List.all_eq_true] at hapart
      obtain ⟨hclock, hnone⟩ := hapart
      have hrun : (bleService P addressOf).exec (.start gate) (before ++ [.disconnected gatt]) =
          some v := by
        rw [(bleService P addressOf).exec_append hbefore, Machine.exec_cons, hnext]
        rfl
      refine ⟨v.gate.now, disconnectedSince_now hrun, Int64.le_refl _, fun due hmem ↦ ?_⟩
      obtain hold | ⟨other, hsame, hnow, hnew⟩ := hgraces
      · exact absurd rfl (hnone _ (hold _ hmem))
      · rw [hnew] at hmem
        obtain heq | hmem := List.mem_cons.mp hmem
        · obtain ⟨-, rfl⟩ := Prod.mk.inj heq
          rw [hnow, toInt_add_graceMs hclock]
        · exact absurd rfl (hnone _ hmem)

/-- A prompt that is cancelled at the end of a grace period is one of a desktop without a
connection. -/
theorem cancelled_of_graceOver {index : Nat} {prompt : Prompt}
    (hnext : (bleService P addressOf).next s (.graceOver index) = some t)
    (hpending : prompt ∈ s.pending) (hcancelled : prompt ∉ t.pending) :
    s.connectingOrConnectedDevices (addressOf prompt.gatt) = false ∧
      ∃ due, (addressOf prompt.gatt, due) ∈ s.graces ∧ due ≤ s.gate.now := by
  simp only [bleService, bleNext] at hnext
  split at hnext
  next address due hgrace =>
    obtain ⟨hdue, hnext⟩ := Option.ite_none_right_eq_some.mp hnext
    split at hnext
    · cases hnext
      exact absurd hpending hcancelled
    · next hfree =>
        cases hnext
        have haddress : addressOf prompt.gatt = address := by
          by_contra hne
          exact hcancelled (List.mem_filter.mpr ⟨hpending, decide_eq_true hne⟩)
        rw [haddress]
        exact ⟨Bool.eq_false_of_not_eq_true hfree, due, List.mem_of_getElem? hgrace, hdue⟩
  · cases hnext

/-- **The grace period.**  If no connection of a desktop is lost while a coroutine waits for an
earlier loss, prompts are cancelled only when the desktop has been without a connection for
five seconds. -/
theorem cancelled_after_grace {gate : RequestGate} {events : List BleEvent} {index : Nat}
    {prompt : Prompt} (hrun : (bleService P addressOf).exec (.start gate) events = some s)
    (hapart : (bleService P addressOf).Along (LossesApart addressOf) (.start gate) events)
    (hnext : (bleService P addressOf).next s (.graceOver index) = some t)
    (hpending : prompt ∈ s.pending) (hcancelled : prompt ∉ t.pending) :
    s.Down addressOf (addressOf prompt.gatt) ∧
      ∃ since, DisconnectedSince P addressOf (addressOf prompt.gatt) (.start gate) events since ∧
        since.toInt + 5000 ≤ s.gate.now.toInt := by
  obtain ⟨hfree, due, hgrace, hdue⟩ := cancelled_of_graceOver hnext hpending hcancelled
  have hdown : s.Down addressOf (addressOf prompt.gatt) := by
    intro gatt haddress hup
    have hknown := (BleService.Exclusive.exec hrun).known gatt (.inr hup)
    rw [haddress, hfree] at hknown
    cases hknown
  obtain ⟨since, hsince, -, hwaits⟩ := disconnectedSince_of_down hrun hapart hdown
  have hfired := Int64.le_iff_toInt_le.mp hdue
  exact ⟨hdown, since, hsince, (hwaits due hgrace).trans hfired⟩

end

namespace LinkSample

/-- The connection goes down for a second, and is up for three. -/
def upAgain : List BleEvent :=
  prompted ++ [.disconnected 1, .gate (.clocks 1001000 6000), .connectToClient 2 true,
    .connected 2, .gate (.clocks 1004000 9000)]

/-- It goes down again, and a second later the first coroutine wakes up. -/
def downAgain : List BleEvent := [.disconnected 2, .gate (.clocks 1005000 10000)]

def connectedAgain : BleService :=
  (service.exec (.start GateSample.start) upAgain).get (by decide +kernel)

def lostAgain : BleService := (service.exec connectedAgain downAgain).get (by decide +kernel)

def cancelled : BleService := (service.next lostAgain (.graceOver 1)).get (by decide +kernel)

/-- The connection goes down and stays down. -/
def lost : List BleEvent := prompted ++ [.disconnected 1, .gate (.clocks 1005000 10000)]

end LinkSample

open LinkSample

/-- A second before its prompt is cancelled the desktop was connected. -/
theorem cancelled_too_early :
    ∃ u s t, service.exec (.start GateSample.start) upAgain = some u ∧
      u.links 2 = .connected ∧
      service.exec u downAgain = some s ∧
      s.gate.now = u.gate.now + 1000 ∧ s.pending.length = 1 ∧
      service.next s (.graceOver 1) = some t ∧ t.pending.length = 0 :=
  ⟨connectedAgain, lostAgain, cancelled,
    (Option.some_get _).symm, by decide +kernel, (Option.some_get _).symm, by decide +kernel,
    by decide +kernel, (Option.some_get _).symm, by decide +kernel⟩

/-- A connection that stays down, and the prompt is cancelled after five seconds. -/
theorem cancelled_after_grace_lost :
    ∃ s t prompt, service.exec (.start GateSample.start) lost = some s ∧
      service.next s (.graceOver 0) = some t ∧ s.pending = [prompt] ∧ t.pending = [] ∧
      ∃ since, DisconnectedSince RequestSample.primitives (fun _ ↦ address)
        address (.start GateSample.start) lost since ∧
        since.toInt + 5000 ≤ s.gate.now.toInt := by
  have hrun : (service.exec (.start GateSample.start) lost).map
      (fun s ↦ (s.pending.length, (service.next s (.graceOver 0)).map
        fun t ↦ t.pending.length)) = some (1, some 0) := by
    decide +kernel
  obtain ⟨s, hs, hrest⟩ := Option.map_eq_some_iff.mp hrun
  obtain ⟨hpending, hrest⟩ := Prod.mk.inj hrest
  obtain ⟨t, ht, hgone⟩ := Option.map_eq_some_iff.mp hrest
  obtain ⟨prompt, hprompt⟩ := List.length_eq_one_iff.mp hpending
  have hnone : t.pending = [] := List.length_eq_zero_iff.mp hgone
  have hsince := (cancelled_after_grace hs (by decide +kernel) ht
    (by rw [hprompt]; exact List.mem_singleton_self prompt)
    (by rw [hnone]; exact List.not_mem_nil)).2
  exact ⟨s, t, prompt, hs, ht, hprompt, hnone, hsince⟩

end TapAuth.Phone
