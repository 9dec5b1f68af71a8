import TapAuth.Daemon.CancelRegistry
import TapAuth.Pam.EventLoop

/-!
# Skipping to the password

The threaded flow of the PAM module and the daemon, composed.  The module has sent
its `PamAuthenticate` and runs `run_gui_event_loop`; when the password is entered or
its dialog is dismissed, the loop writes a `PamCancel` on the connection that carried
the request, and returns.

The daemon's task for that connection has read its one frame by then.  So the
`PamCancel` stays unread (`Owned.unread`), and the only thing that can end the session
as cancelled is a `PamCancel` from another connection (`skip_cancels_from_elsewhere`).

The client's turns and the daemon's steps interleave freely; the turns of a run are a
run of `run_gui_event_loop` (`exit_eq_run`).  What a turn reads from the socket is
part of its input and not tied to what the daemon has written, so the results hold for
more runs than there are.
-/

universe u

namespace TapAuth.System

open Shared Daemon Pam

/-- What is fixed in a threaded flow: the connection, the request that was sent on it
and when the wait ends. -/
structure Threaded (ι : Type u) where
  connection : ι
  request : PamAuthenticateRequest
  deadline : Nat

structure Flow (ι : Type u) where
  server : Server ι
  /-- How `run_gui_event_loop` has ended. -/
  exit : Option GuiExit
  /-- The loop ended for a password while the session ran: a ghost. -/
  skipped : Bool

inductive FlowEvent (ι : Type u) where
  | server (e : ServerEvent ι)
  /-- The event loop takes a turn. -/
  | turn (round : Round GuiFds)

/-- The loop ended because of the password prompt. -/
def forPassword : ExitReason → Bool
  | .passwordEntered | .passwordFailed => true
  | _ => false

section

variable {ι : Type u} [DecidableEq ι] (P : Primitives) (ble : Bool) (F : Threaded ι)

namespace Flow

def start : Flow ι := ⟨Server.start.write F.connection (.pamAuthenticate F.request), none, false⟩

/-- `send_cancel`, if the loop does it, and the end of the loop. -/
def leave (f : Flow ι) (exit : GuiExit) : Flow ι where
  server :=
    match exit.cancel with
    | some reason => f.server.write F.connection (.pamCancel reason F.request.requestId)
    | none => f.server
  exit := some exit
  skipped := forPassword exit.reason &&
    decide ((f.server.connection F.connection).running? = some F.request.requestId)

def next (f : Flow ι) : FlowEvent ι → Option (Flow ι)
  | .server e => (f.server.next P ble e).map fun server ↦ { f with server := server }
  | .turn round =>
    match f.exit, guiTurn F.deadline round with
    | none, .inl () => some f
    | none, .inr exit => some (f.leave F exit)
    | some _, _ => none

end Flow

def flow : Machine (Flow ι) (FlowEvent ι) := ⟨Flow.next P ble F⟩

/-- Everything a flow can do. -/
inductive FlowStep (f : Flow ι) : FlowEvent ι → Flow ι → Prop where
  | server {e : ServerEvent ι} {s : Server ι} (hnext : f.server.next P ble e = some s) :
      FlowStep f (.server e) { f with server := s }
  | again {round : Round GuiFds} (hexit : f.exit = none)
      (hturn : guiTurn F.deadline round = .inl ()) : FlowStep f (.turn round) f
  | left {round : Round GuiFds} {exit : GuiExit} (hexit : f.exit = none)
      (hturn : guiTurn F.deadline round = .inr exit) :
      FlowStep f (.turn round) (f.leave F exit)

variable {P ble F}

theorem flow_next_eq_some {f g : Flow ι} {e : FlowEvent ι}
    (h : (flow P ble F).next f e = some g) : FlowStep P ble F f e g := by
  cases e with
  | server e =>
    obtain ⟨s, hnext, rfl⟩ := Option.map_eq_some_iff.mp h
    exact .server hnext
  | turn round =>
    simp only [flow, Flow.next] at h
    split at h
    next hexit hturn => cases h; exact .again hexit hturn
    next hexit hturn => cases h; exact .left hexit hturn
    · cases h

end

/-! ## The client's side -/

/-- The loop that ends for a password has sent a cancel. -/
theorem exists_cancel_of_forPassword {deadline : Nat} {round : Round GuiFds} {exit : GuiExit}
    (h : guiTurn deadline round = .inr exit) (hpassword : forPassword exit.reason = true) :
    ∃ reason, exit.cancel = some reason := by
  unfold guiTurn guiPipe at h
  repeat' split at h
  all_goals cases h
  all_goals first | exact ⟨_, rfl⟩ | cases hpassword

/-- The turns among the events of a run. -/
def rounds {ι : Type u} (events : List (FlowEvent ι)) : List (Round GuiFds) :=
  events.filterMap fun
    | .turn round => some round
    | .server _ => none

section

variable {ι : Type u} [DecidableEq ι] {P : Primitives} {ble : Bool} {F : Threaded ι}
  {f g : Flow ι} {events : List (FlowEvent ι)}

theorem exit_of_left {exit : GuiExit} (hf : f.exit = some exit)
    (hrun : (flow P ble F).exec f events = some g) : g.exit = some exit := by
  refine (flow P ble F).invariant (I := fun f ↦ f.exit = some exit) ?_ hf hrun
  intro f e g hf hnext
  cases flow_next_eq_some hnext with
  | server hserver => exact hf
  | again hexit hturn => exact hf
  | left hexit hturn =>
    rw [hexit] at hf
    cases hf

/-- The flow's exit is what `run_gui_event_loop` returns on the turns of the run. -/
theorem exit_eq_run (hf : f.exit = none) (hrun : (flow P ble F).exec f events = some g) :
    g.exit = ((guiLoop F.deadline).run () (rounds events)).elim (fun _ ↦ none) some := by
  induction events generalizing f with
  | nil =>
    cases hrun
    exact hf
  | cons e events ih =>
    obtain ⟨f', hnext, hrun⟩ := (flow P ble F).exec_cons_eq_some.mp hrun
    cases flow_next_eq_some hnext with
    | @server e s hserver => exact ih (f := { f with server := s }) hf hrun
    | @again round hexit hturn =>
      have hrounds : rounds (.turn round :: events) = round :: rounds events := rfl
      rw [ih hf hrun, hrounds, (guiLoop F.deadline).run_cons_of_inl (t := ()) hturn]
    | @left round exit hexit hturn =>
      have hrounds : rounds (.turn round :: events) = round :: rounds events := rfl
      rw [exit_of_left rfl hrun, hrounds, (guiLoop F.deadline).run_cons_of_inr hturn]
      rfl

/-! ## The connection of the request -/

/-- What holds of the connection that carries the request: its first frame is the
request, its session runs under the request's id, and once the loop has ended for a
password while the session ran, the cancel lies unread. -/
structure Owned (F : Threaded ι) (f : Flow ι) : Prop where
  first : f.server.connection F.connection = .reading →
    [.pamAuthenticate F.request] <+: f.server.inbox F.connection
  requestId : ∀ id, (f.server.connection F.connection).requestId? = some id →
    F.request.requestId = id
  unread : f.skipped = true → f.server.connection F.connection ≠ .reading ∧
    ∃ reason, .pamCancel reason F.request.requestId ∈ f.server.inbox F.connection

theorem owned_start : Owned F (.start F) where
  first _ := by simp [Flow.start, Server.write, Server.start]
  requestId _ h := by cases h
  unread h := by cases h

/-- The daemon's side of a flow moves on. -/
theorem Owned.server (hf : Owned F f) {s : Server ι} {e : ServerEvent ι}
    (hnext : f.server.next P ble e = some s) : Owned F { f with server := s } := by
  by_cases hreading : f.server.connection F.connection = .reading
  · have hskipped : ¬ f.skipped = true := fun h ↦ (hf.unread h).1 hreading
    have hfirst := hf.first hreading
    rcases next_of_reading hnext hreading with ⟨hstill, hprefix⟩ | ⟨hmoved, hid⟩
    · refine ⟨fun _ ↦ hfirst.trans hprefix, ?_, fun h ↦ absurd h hskipped⟩
      intro id h
      rw [hstill] at h
      cases h
    · refine ⟨fun h ↦ absurd h hmoved, ?_, fun h ↦ absurd h hskipped⟩
      intro id h
      obtain ⟨message, rest, hinbox, hstarts⟩ := hid id h
      rw [hinbox, List.cons_prefix_cons] at hfirst
      obtain ⟨rfl, -⟩ := hfirst
      exact hstarts
  · obtain ⟨hmoved, hprefix, hid⟩ := next_of_not_reading hnext hreading
    refine ⟨fun h ↦ absurd h hmoved, fun id h ↦ hf.requestId id (hid id h), ?_⟩
    intro h
    obtain ⟨-, reason, hmem⟩ := hf.unread h
    exact ⟨hmoved, reason, hprefix.subset hmem⟩

/-- The loop ends. -/
theorem Owned.leave (hf : Owned F f) {exit : GuiExit}
    (hcancel : forPassword exit.reason = true → ∃ reason, exit.cancel = some reason) :
    Owned F (f.leave F exit) := by
  have hconnection : (f.leave F exit).server.connection = f.server.connection := by
    unfold Flow.leave
    cases exit.cancel <;> rfl
  constructor
  · intro hreading
    rw [hconnection] at hreading
    refine (hf.first hreading).trans ?_
    unfold Flow.leave
    cases exit.cancel with
    | none => exact List.prefix_rfl
    | some reason => exact Server.inbox_prefix_write ..
  · rw [hconnection]
    exact hf.requestId
  · intro hskipped
    obtain ⟨hpassword, hrunning⟩ := Bool.and_eq_true_iff.mp hskipped
    obtain ⟨reason, hreason⟩ := hcancel hpassword
    refine ⟨?_, reason, ?_⟩
    · rw [hconnection]
      intro hreading
      rw [hreading] at hrunning
      cases of_decide_eq_true hrunning
    · simp [Flow.leave, hreason, Server.write]

theorem owned_next {e : FlowEvent ι} (hf : Owned F f) (h : (flow P ble F).next f e = some g) :
    Owned F g := by
  cases flow_next_eq_some h with
  | server hnext => exact hf.server hnext
  | again hexit hturn => exact hf
  | left hexit hturn => exact hf.leave (exists_cancel_of_forPassword hturn)

/-! ## Who cancels the session -/

/-- The step is the processing of a `PamCancel` for the request, on one of the
connections `on`, while its session runs. -/
def CancelsOn (F : Threaded ι) (on : ι → Prop) (f : Flow ι) : FlowEvent ι → Prop
  | .server (.read j _) =>
    on j ∧ (∃ reason rest, f.server.inbox j = .pamCancel reason F.request.requestId :: rest) ∧
      (f.server.connection F.connection).running? = some F.request.requestId
  | _ => False

/-- A session that runs is not cancelled from its own connection. -/
theorem cancels_iff_cancelsOn (hf : Owned F f) {s : Server ι} {e : ServerEvent ι}
    (hnext : f.server.next P ble e = some s) {on : ι → Prop}
    (hon : ∀ j, j ≠ F.connection → on j) :
    Cancels F.connection f.server e ↔ CancelsOn F on f (.server e) := by
  cases e with
  | read j input =>
    obtain ⟨hreading, message, rest, hinbox, -⟩ := readStep_spec hnext
    constructor
    · intro h
      cases message with
      | pamCancel reason requestId =>
        simp only [Cancels, hinbox] at h
        obtain rfl := hf.requestId requestId (Connection.requestId?_of_running h)
        refine ⟨hon j ?_, ⟨reason, rest, hinbox⟩, h⟩
        rintro rfl
        rw [hreading] at h
        cases h
      | _ => simp [Cancels, hinbox] at h
    · rintro ⟨-, ⟨reason, rest, hcancel⟩, hrunning⟩
      simpa only [Cancels, hcancel] using hrunning
  | _ => exact Iff.rfl

@[simp] theorem cancelProcessed_leave (F : Threaded ι) (f : Flow ι) (exit : GuiExit) :
    (f.leave F exit).server.cancelProcessed = f.server.cancelProcessed := by
  unfold Flow.leave
  cases exit.cancel <;> rfl

/-- What the daemon's ghost says in a flow. -/
theorem cancelProcessed_iff_cancelsOn (hrun : (flow P ble F).exec (.start F) events = some f)
    {on : ι → Prop} (hon : ∀ j, j ≠ F.connection → on j) :
    f.server.cancelProcessed F.connection = true ↔
      (flow P ble F).Meets (CancelsOn F on) (.start F) events := by
  have hflag := (flow P ble F).flag_iff_meets (I := Owned F)
    (F := fun f ↦ f.server.cancelProcessed F.connection = true) (G := CancelsOn F on) ?_
    owned_start hrun
  · simpa [Flow.start, Server.write, Server.start] using hflag
  · intro f e g hf hnext
    refine ⟨owned_next hf hnext, ?_⟩
    cases flow_next_eq_some hnext with
    | server hserver =>
      rw [← cancels_iff_cancelsOn hf hserver hon]
      exact cancelProcessed_next hserver
    | again hexit hturn => exact (or_iff_left id).symm
    | left hexit hturn =>
      rw [cancelProcessed_leave]
      exact (or_iff_left id).symm

/-! ## Ending the session -/

/-- The daemon's steps are orderly. -/
def OrderlyFlow (f : Flow ι) : FlowEvent ι → Prop
  | .server e => Orderly f.server e
  | .turn _ => True

theorem sound_of_flow (hrun : (flow P ble F).exec (.start F) events = some f)
    (horderly : (flow P ble F).Along OrderlyFlow (.start F) events) : Sound f.server := by
  have hwrite : ∀ {s : Server ι} (i message), Sound s → Sound (s.write i message) :=
    fun _ _ hs ↦ ⟨hs.registered, hs.linked⟩
  refine (flow P ble F).invariant_along (I := fun f ↦ Sound f.server) ?_
    (hwrite _ _ sound_start) hrun horderly
  intro f e g hs hG hnext
  cases flow_next_eq_some hnext with
  | server hserver => exact sound_next hs hG hserver
  | again hexit hturn => exact hs
  | @left round exit hexit hturn =>
    unfold Flow.leave
    cases exit.cancel with
    | none => exact hs
    | some reason => exact hwrite _ _ hs

variable (P ble F) in
/-- A flow in which only the daemon moves. -/
theorem feed_server (f : Flow ι) (es : List (ServerEvent ι)) :
    ((flow P ble F).feed f (es.map .server)).server = (server P ble).feed f.server es := by
  induction es generalizing f with
  | nil => rfl
  | cons e es ih =>
    rw [List.map_cons, Machine.feed_cons, Machine.feed_cons, ih]
    congr 1
    simp only [flow, Flow.next, server]
    cases f.server.next P ble e <;> rfl

/-- **Skipping to the password.**  Whenever the loop has ended for a password while
the session ran: the cancel it wrote lies unread; a `PamCancel` for the request is
processed while the session runs only if one comes from another connection; and if
one does, in an orderly run, the session has ended as cancelled or is ended so by its
own next two steps. -/
theorem skip_cancels_from_elsewhere (P : Primitives) (ble : Bool) (F : Threaded ι)
    {events : List (FlowEvent ι)} {f : Flow ι}
    (hrun : (flow P ble F).exec (.start F) events = some f) (hskipped : f.skipped = true) :
    (∃ reason, .pamCancel reason F.request.requestId ∈ f.server.inbox F.connection) ∧
    ((flow P ble F).Meets (CancelsOn F fun _ ↦ True) (.start F) events →
      (flow P ble F).Meets (CancelsOn F (· ≠ F.connection)) (.start F) events) ∧
    ((flow P ble F).Along OrderlyFlow (.start F) events →
      (flow P ble F).Meets (CancelsOn F (· ≠ F.connection)) (.start F) events →
      (flow P ble F).Meets (CancelsOn F fun _ ↦ True) (.start F) events ∧
      ((f.server.connection F.connection).running? = none →
        (f.server.connection F.connection).ending? = some .cancelled) ∧
      (((flow P ble F).feed f [.server (.session F.connection .cancelled),
        .server (.session F.connection .cancellationDone)]).server.connection
          F.connection).ending? = some .cancelled) := by
  have howned : Owned F f :=
    (flow P ble F).invariant (fun _ _ _ hf hnext ↦ owned_next hf hnext) owned_start hrun
  have hany : f.server.cancelProcessed F.connection = true ↔
      (flow P ble F).Meets (CancelsOn F fun _ ↦ True) (.start F) events :=
    cancelProcessed_iff_cancelsOn hrun fun _ _ ↦ trivial
  have helsewhere : f.server.cancelProcessed F.connection = true ↔
      (flow P ble F).Meets (CancelsOn F (· ≠ F.connection)) (.start F) events :=
    cancelProcessed_iff_cancelsOn hrun fun _ h ↦ h
  refine ⟨(howned.unread hskipped).2, fun h ↦ helsewhere.mp (hany.mpr h), ?_⟩
  intro horderly hcancel
  have hprocessed := helsewhere.mpr hcancel
  have hs := sound_of_flow hrun horderly
  refine ⟨hany.mp hprocessed, hs.ended_of_processed hprocessed, ?_⟩
  have hfeed := feed_server P ble F f
    [.session F.connection .cancelled, .session F.connection .cancellationDone]
  rw [List.map_cons, List.map_cons, List.map_nil] at hfeed
  rw [hfeed]
  exact hs.feed_cancelled hprocessed

end

/-! ## A skip that cancels nothing -/

instance OrderlyFlow.decidable {n : Nat} (f : Flow (Fin n)) (e : FlowEvent (Fin n)) :
    Decidable (OrderlyFlow f e) := by
  unfold OrderlyFlow
  split <;> infer_instance

namespace SkipSample

open RegistrySample

/-- Alice's request, with 30 seconds to go. -/
def gui : Threaded (Fin 2) := ⟨here, ⟨"alice", 30, "gui-1"⟩, 30000000000⟩

/-- The password is entered: the pipe wakes the loop up. -/
def entered : FlowEvent (Fin 2) :=
  .turn ⟨0, .ready ⟨true, ⟨none, .ok none⟩, some ⟨true, false, false⟩⟩⟩

/-- The session waits in its `select!` when the password is entered. -/
def skip : List (FlowEvent (Fin 2)) :=
  .server (.read here input) :: (register here).map .server ++ [entered]

/-- Alice taps her phone all the same. -/
def tapped : List (FlowEvent (Fin 2)) :=
  skip ++ grant.map .server ++
    [.server (.session here (.joined .udp)), .server (.session here .closed)]

/-- A cancel comes on a connection of its own. -/
def cancelled : List (FlowEvent (Fin 2)) :=
  skip ++ [.server (.write elsewhere (.pamCancel "gui-password-skip" "gui-1")),
    .server (.read elsewhere input)]

end SkipSample

open SkipSample

/-- The password is entered while the session runs; no `PamCancel` is processed, and
the session ends with the phone's answer. -/
theorem skip_cancels_nothing :
    ∃ f, (flow Sample.primitives true gui).exec (.start gui)
        tapped = some f ∧
      f.exit = some ⟨.passwordEntered, none, some "gui-password-skip"⟩ ∧ f.skipped = true ∧
      ¬ (flow Sample.primitives true gui).Meets
        (CancelsOn gui fun _ ↦ True) (.start gui) tapped ∧
      (f.server.connection gui.connection).ending? = some .other := by
  have hcheck : ((flow Sample.primitives true gui).exec (.start gui)
      tapped).map (fun f ↦ decide (
        f.exit = some ⟨.passwordEntered, none, some "gui-password-skip"⟩ ∧ f.skipped = true ∧
        f.server.cancelProcessed gui.connection = false ∧
        (f.server.connection gui.connection).ending? = some .other)) = some true := by
    decide +kernel
  obtain ⟨f, hrun, hend⟩ := Option.map_eq_some_iff.mp hcheck
  obtain ⟨hexit, hskipped, hprocessed, hending⟩ := of_decide_eq_true hend
  refine ⟨f, hrun, hexit, hskipped, ?_, hending⟩
  rw [← cancelProcessed_iff_cancelsOn hrun fun _ _ ↦ trivial]
  exact (Bool.eq_false_iff.mp hprocessed)

/-- A `PamCancel` on a connection of its own ends the session. -/
theorem skip_cancels_from_elsewhere_sample :
    ∃ f, (flow Sample.primitives true gui).exec (.start gui)
        cancelled = some f ∧ f.skipped = true ∧
      (((flow Sample.primitives true gui).feed f
        [.server (.session gui.connection .cancelled),
          .server (.session gui.connection .cancellationDone)]).server.connection
            gui.connection).ending? = some .cancelled := by
  have hcheck : ((flow Sample.primitives true gui).exec (.start gui)
      cancelled).map (fun f ↦ decide (
        f.skipped = true ∧ f.server.cancelProcessed gui.connection = true)) =
      some true := by
    decide +kernel
  obtain ⟨f, hrun, hend⟩ := Option.map_eq_some_iff.mp hcheck
  obtain ⟨hskipped, hprocessed⟩ := of_decide_eq_true hend
  have helsewhere := (cancelProcessed_iff_cancelsOn hrun fun _ h ↦ h).mp hprocessed
  have hskip := skip_cancels_from_elsewhere Sample.primitives true gui hrun hskipped
  exact ⟨f, hrun, hskipped, (hskip.2.2 (by decide +kernel) helsewhere).2.2⟩

end TapAuth.System
