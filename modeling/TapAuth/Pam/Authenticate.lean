import TapAuth.Lib.Machine
import TapAuth.Lib.Bytes
import TapAuth.Pam.EventLoop

/-!
# The PAM module

`authenticate` of the PAM module: the display-manager bypass, the choice of how the
host's conversation may be driven, the replay of a conclusion this process has just
reached, the request to the daemon and the wait for its answer.

A process is a sequence of such calls with the one thing they share, the last
conclusion.  `pamSmAuthenticate_success_only` is the result about it: success is an answer of
the daemon, to this call or to the call whose conclusion is recorded, and the
recorded one only within its window.

Everything the module asks its surroundings is a field of `Call`: what PAM, the
environment, the file system and the daemon answer, and the instants at which the
clock is read.  What is shown to the user is not modelled.
-/

namespace TapAuth.Pam

open Shared

/-- The return codes the module uses, and `PAM_IGNORE`. -/
inductive PamCode where
  | success
  | permDenied
  | authErr
  | authinfoUnavail
  | userUnknown
  | ignore
  deriving DecidableEq, Repr

/-! ## Outcomes -/

/-- A number the protocol does not know is an error. -/
def outcomeFromRaw (raw : Int32) : PamOutcome :=
  if raw = 0 then .success
  else if raw = 1 then .denied
  else if raw = 2 then .timeout
  else if raw = 3 then .ignore
  else .error

def mapPamOutcome (response : Response) : PamCode :=
  match outcomeFromRaw response.outcome with
  | .success => .success
  | .denied => .permDenied
  | .timeout => .authinfoUnavail
  | .ignore => .authinfoUnavail
  | .error => .authErr

theorem mapPamOutcome_eq_success {response : Response} (h : mapPamOutcome response = .success) :
    response.outcome = 0 := by
  unfold mapPamOutcome outcomeFromRaw at h
  split_ifs at h
  assumption

theorem mapPamOutcome_ne_ignore (response : Response) : mapPamOutcome response ≠ .ignore := by
  unfold mapPamOutcome
  split <;> nofun

/-! ## The host -/

/-- `to_ascii_lowercase`. -/
def asciiLower (s : String) : List Char := s.toList.map Char.toLower

def dmServices : List String :=
  ["sddm", "gdm", "gdm3", "lightdm", "lxdm", "slim", "xdm", "kdm", "greetd", "ly", "nodm",
    "entrance", "plasmalogin"]

/-- A display manager's name, alone or followed by a hyphen. -/
def isDmService (service : String) : Bool :=
  dmServices.any fun p ↦
    asciiLower service = p.toList ∨
      (asciiLower service).take p.length = p.toList ∧ (asciiLower service)[p.length]? = some '-'

/-- `reauthVariable` is whether `GDM_SESSION_FOR_REAUTH` is set. -/
def isGdmReauth (reauthVariable : Bool) (service : String) : Bool :=
  asciiLower service = "gdm-password".toList && reauthVariable

inductive ConversationMode where
  | threaded
  | preCollected
  | sequential
  deriving DecidableEq, Repr

def threadedHosts : List String :=
  ["polkit-agent-helper-1", "polkit-agent-he", "kscreenlocker_worker", "kscreenlocker_w",
    "hyprlock", "authproto_pam"]

def gdmWorkers : List String := ["gdm-session-worker", "gdm-session-wor"]

def preCollectedHosts : List String := ["swaylock", "gtklock", "i3lock"]

def conversationMode (service : String) (process : Option String) (reauth : Bool) :
    ConversationMode :=
  match process with
  | some process =>
    if process ∈ threadedHosts then .threaded
    else if process ∈ gdmWorkers ∧ reauth ∧ asciiLower service = "gdm-password".toList then
      .threaded
    else if process ∈ preCollectedHosts then .preCollected
    else .sequential
  | none => if service = "polkit-1" then .threaded else .sequential

/-! ## The last conclusion -/

/-- `VERDICT_REUSE_WINDOW`: 500 ms. -/
def verdictReuseWindow : Nat := 500000000

structure LastConclusion where
  concludedAt : Nat
  username : String
  service : String
  code : PamCode
  deriving DecidableEq

/-- The difference of instants saturates at zero. -/
def reusableConclusion (prev : LastConclusion) (username service : String) (now : Nat) :
    Option PamCode :=
  if prev.username = username ∧ prev.service = service ∧ now - prev.concludedAt < verdictReuseWindow
  then some prev.code
  else none

/-- A poisoned lock is a miss. -/
def cachedConclusionFor (poisoned : Bool) (last : Option LastConclusion)
    (username service : String) (now : Nat) : Option PamCode :=
  if poisoned then none
  else last.bind fun prev ↦ reusableConclusion prev username service now

variable {prev : LastConclusion} {last : Option LastConclusion} {call : Call}
  {username service : String} {p : Process}

theorem reusableConclusion_eq_some {now : Nat} {code : PamCode}
    (h : reusableConclusion prev username service now = some code) :
    prev.username = username ∧ prev.service = service ∧
      now - prev.concludedAt < verdictReuseWindow ∧ prev.code = code := by
  unfold reusableConclusion at h
  split_ifs at h with hkey
  exact ⟨hkey.1, hkey.2.1, hkey.2.2, Option.some.inj h⟩

theorem cachedConclusionFor_eq_some {poisoned : Bool} {now : Nat} {code : PamCode}
    (h : cachedConclusionFor poisoned last username service now = some code) :
    ∃ prev, last = some prev ∧ reusableConclusion prev username service now = some code := by
  unfold cachedConclusionFor at h
  split at h
  · cases h
  · exact Option.bind_eq_some_iff.mp h

def recordConclusion (poisoned : Bool) (last : Option LastConclusion) (username service : String)
    (code : PamCode) (now : Nat) : Option LastConclusion :=
  if poisoned then last else some ⟨now, username, service, code⟩

/-- What the code being returned was about. -/
structure Verdict where
  username : String
  service : Option String
  fromCache : Bool
  deriving DecidableEq

/-! ## One call -/

structure PamConfig where
  pamOperationTimeoutSecs : UInt64
  pamGuiTimeoutSecs : UInt64

/-- What a call asks its surroundings. -/
structure Call where
  /-- `PAM_SERVICE`, if it can be resolved. -/
  service : Option String
  reauthVariable : Bool
  config : PamConfig
  /-- `get_user`. -/
  user : Option String
  /-- Whether there is a conversation function. -/
  conversation : Bool
  /-- `process_identity`. -/
  process : Option String
  /-- Whether `/dev/tty` can be opened. -/
  tty : Bool
  /-- Whether the lock of the last conclusion is poisoned. -/
  poisoned : Bool
  /-- When the last conclusion is looked up. -/
  lookupAt : Nat
  /-- The random bytes of the request's identifier. -/
  requestId : Option (FixedBytes 16)
  connects : Bool
  sends : Bool
  /-- When the wait starts. -/
  waitsAt : Nat
  sequentialRounds : List (Round IpcFd)
  /-- Whether the pipe and the password thread can be made. -/
  pipe : Bool
  thread : Bool
  guiRounds : List (Round GuiFds)
  terminalRounds : List (Round TerminalFds)
  /-- Whether the call panics. -/
  panics : Bool
  /-- When `authenticate_inner` has returned. -/
  returnedAt : Nat

namespace Call

variable (call : Call)

/-- The mode of the conversation; a service that is not resolved counts as empty. -/
def mode : ConversationMode :=
  conversationMode (call.service.getD "") call.process
    (isGdmReauth call.reauthVariable (call.service.getD ""))

def hasTerminal : Bool := call.mode = .sequential && call.tty

def guardDisplayManagerBypass : Option PamCode :=
  call.service.bind fun service ↦
    if isDmService service && !isGdmReauth call.reauthVariable service then
      some .authinfoUnavail
    else none

/-- The timeout, cut to 32 bits. -/
def timeoutSecs : Nat :=
  let effective :=
    if !call.hasTerminal && call.mode = .sequential then
      min call.config.pamGuiTimeoutSecs.toNat call.config.pamOperationTimeoutSecs.toNat
    else call.config.pamOperationTimeoutSecs.toNat
  min effective (2 ^ 32 - 1)

def deadline : Nat := call.waitsAt + call.timeoutSecs * 1000000000

end Call

/-- How a call ends: its code, the daemon's response it was made from, and the reason
of the cancel that is sent. -/
structure Ended where
  code : PamCode
  response : Option Response
  cancel : Option String
  deriving DecidableEq

/-- End without a response. -/
def Ended.without (code : PamCode) (cancel : Option String) : Ended := ⟨code, none, cancel⟩

/-- End with a response, or unavailable. -/
def Ended.ofResponse (response : Option Response) (cancel : Option String) : Ended :=
  match response with
  | some response => ⟨mapPamOutcome response, some response, cancel⟩
  | none => .without .authinfoUnavail cancel

namespace Call

variable (call : Call)

/-- The wait on the caller's thread. -/
def waitSequential : Option Ended :=
  match (sequentialLoop call.deadline).run () call.sequentialRounds with
  | .inl _ => none
  | .inr (.ipcResponseReceived, response) => some (.ofResponse response none)
  | .inr (.timeout, _) => some (.without .authinfoUnavail none)
  | .inr (_, _) => some (.without .authinfoUnavail (some "gui-ipc-error"))

/-- The wait beside the password thread. -/
def waitThreaded : Option Ended :=
  if !call.pipe then some (.without .authErr (some "gui-pipe2-fail"))
  else if !call.thread then some (.without .authErr (some "gui-thread-spawn-fail"))
  else
    match (guiLoop call.deadline).run () call.guiRounds with
    | .inl _ => none
    | .inr exit => some (.ofResponse exit.response exit.cancel)

/-- The wait at a terminal. -/
def waitTerminal : Option Ended :=
  match (terminalLoop call.deadline).run true call.terminalRounds with
  | .inl _ => none
  | .inr (.response response) => some (.ofResponse (some response) none)
  | .inr .skipped => some (.without .authinfoUnavail (some "tty-skip"))
  | .inr _ => some (.without .authinfoUnavail none)

def wait : Option Ended :=
  if call.hasTerminal then call.waitTerminal
  else if call.mode = .threaded then call.waitThreaded
  else call.waitSequential

/-- The part of `authenticate_inner` after a miss: request, wait, answer.  The verdict
is armed once the request is on the wire. -/
def transaction (username : String) : Option (Ended × Option Verdict) :=
  match call.requestId with
  | none => some (.without .authErr none, none)
  | some _ =>
    if !call.connects then some (.without .authinfoUnavail none, none)
    else if !call.sends then some (.without .authinfoUnavail none, none)
    else call.wait.map fun ended ↦ (ended, some ⟨username, call.service, false⟩)

/-- `authenticate_inner`; `none` while the call waits. -/
def authenticateInner (last : Option LastConclusion) : Option (Ended × Option Verdict) :=
  match call.guardDisplayManagerBypass with
  | some pamStatus => some (.without pamStatus none, none)
  | none =>
    match call.user with
    | none => some (.without .userUnknown none, none)
    | some username =>
      if !call.conversation then some (.without .authErr none, none)
      else if call.mode = .preCollected then some (.without .authinfoUnavail none, none)
      else
        match call.service.bind fun service ↦
            cachedConclusionFor call.poisoned last username service call.lookupAt with
        | some code => some (.without code none, some ⟨username, call.service, true⟩)
        | none => call.transaction username

/-- `record_verdict`: only a real transaction of a known service is recorded. -/
def recordVerdict (last : Option LastConclusion) (verdict : Option Verdict) (code : PamCode) :
    Option LastConclusion :=
  match verdict with
  | some ⟨username, some service, false⟩ =>
    recordConclusion call.poisoned last username service code call.returnedAt
  | _ => last

end Call

/-- What a call returns: how it ended, what the code was about, and the last
conclusion afterwards. -/
structure Returned where
  ended : Ended
  verdict : Option Verdict
  last : Option LastConclusion

def authenticate (last : Option LastConclusion) (call : Call) : Option Returned :=
  (call.authenticateInner last).map fun (ended, verdict) ↦
    ⟨ended, verdict, call.recordVerdict last verdict ended.code⟩

/-- The entry point: a panic is an error, and nothing is recorded. -/
def pamSmAuthenticate (last : Option LastConclusion) (call : Call) : Option Returned :=
  if call.panics then some ⟨.without .authErr none, none, last⟩ else authenticate last call

/-! ## What a call can do -/

namespace Call

variable {call : Call}

/-- The daemon's answer, read on this call's connection in the wait it is in. -/
def Reads (call : Call) (response : Response) : Prop :=
  if call.hasTerminal then ReadIn TerminalFds.ipc call.terminalRounds response
  else if call.mode = .threaded then ReadIn GuiFds.ipc call.guiRounds response
  else ReadIn id call.sequentialRounds response

/-- The code the wait ends with is the answer's, or neither success nor ignore. -/
def Justified (call : Call) (ended : Ended) : Prop :=
  match ended.response with
  | some response => call.Reads response ∧ ended.code = mapPamOutcome response
  | none => ended.code ≠ .success ∧ ended.code ≠ .ignore

theorem justified_ofResponse {response : Option Response} {cancel : Option String}
    (h : ∀ r, response = some r → call.Reads r) : call.Justified (.ofResponse response cancel) := by
  cases response with
  | none => exact ⟨nofun, nofun⟩
  | some r => exact ⟨h r rfl, rfl⟩

variable {ended : Ended} {verdict : Option Verdict}

theorem justified_waitSequential (hterminal : call.hasTerminal = false)
    (hmode : call.mode ≠ .threaded) (h : call.waitSequential = some ended) :
    call.Justified ended := by
  unfold waitSequential at h
  split at h
  · cases h
  · rename_i response hrun
    cases h
    refine justified_ofResponse fun r hr ↦ ?_
    subst hr
    simpa [Reads, hterminal, hmode] using sequentialLoop_readIn hrun
  · cases h
    exact ⟨nofun, nofun⟩
  · cases h
    exact ⟨nofun, nofun⟩

theorem justified_waitThreaded (hterminal : call.hasTerminal = false)
    (hmode : call.mode = .threaded) (h : call.waitThreaded = some ended) :
    call.Justified ended := by
  unfold waitThreaded at h
  split_ifs at h with hpipe hthread
  · cases h
    exact ⟨nofun, nofun⟩
  · cases h
    exact ⟨nofun, nofun⟩
  · split at h
    · cases h
    · rename_i exit hrun
      cases h
      refine justified_ofResponse fun r hr ↦ ?_
      simpa [Reads, hterminal, hmode] using guiLoop_readIn hrun hr

theorem justified_waitTerminal (hterminal : call.hasTerminal = true)
    (h : call.waitTerminal = some ended) : call.Justified ended := by
  unfold waitTerminal at h
  split at h
  · cases h
  · rename_i response hrun
    cases h
    refine justified_ofResponse fun r hr ↦ ?_
    cases hr
    simpa [Reads, hterminal] using terminalLoop_readIn hrun
  · cases h
    exact ⟨nofun, nofun⟩
  · cases h
    exact ⟨nofun, nofun⟩

theorem justified_wait (h : call.wait = some ended) : call.Justified ended := by
  unfold wait at h
  split_ifs at h with hterminal hmode
  · exact justified_waitTerminal hterminal h
  · exact justified_waitThreaded (by simpa using hterminal) hmode h
  · exact justified_waitSequential (by simpa using hterminal) hmode h

/-- What `authenticate_inner` can do: end by itself, replay, or ask the daemon. -/
inductive Inner (call : Call) (last : Option LastConclusion) : Ended → Option Verdict → Prop
  | byItself {code : PamCode} (hsuccess : code ≠ .success) (hignore : code ≠ .ignore) :
      Inner call last (.without code none) none
  | replayed {username service : String} {prev : LastConclusion} {code : PamCode}
      (huser : call.user = some username) (hservice : call.service = some service)
      (hlast : last = some prev)
      (hreusable : reusableConclusion prev username service call.lookupAt = some code) :
      Inner call last (.without code none) (some ⟨username, some service, true⟩)
  | asked {username : String} {ended : Ended} (huser : call.user = some username)
      (hconnects : call.connects = true) (hsends : call.sends = true)
      (hwait : call.wait = some ended) :
      Inner call last ended (some ⟨username, call.service, false⟩)

theorem inner_of_transaction {last : Option LastConclusion} {username : String}
    (huser : call.user = some username) (h : call.transaction username = some (ended, verdict)) :
    call.Inner last ended verdict := by
  unfold transaction at h
  split at h
  · cases h
    exact .byItself nofun nofun
  · split_ifs at h with hconnects hsends
    · cases h
      exact .byItself nofun nofun
    · cases h
      exact .byItself nofun nofun
    · obtain ⟨waited, hwait, heq⟩ := Option.map_eq_some_iff.mp h
      cases heq
      exact .asked huser (by simpa using hconnects) (by simpa using hsends) hwait

theorem inner_of_authenticateInner {last : Option LastConclusion}
    (h : call.authenticateInner last = some (ended, verdict)) :
    call.Inner last ended verdict := by
  unfold authenticateInner at h
  split at h
  · rename_i pamStatus hbypass
    obtain ⟨service, -, hstatus⟩ := Option.bind_eq_some_iff.mp hbypass
    split_ifs at hstatus
    cases hstatus
    cases h
    exact .byItself nofun nofun
  split at h
  · cases h
    exact .byItself nofun nofun
  rename_i username huser
  split_ifs at h
  · cases h
    exact .byItself nofun nofun
  · cases h
    exact .byItself nofun nofun
  split at h
  · rename_i code hcached
    obtain ⟨service, hservice, hcached⟩ := Option.bind_eq_some_iff.mp hcached
    obtain ⟨prev, hlast, hreusable⟩ := cachedConclusionFor_eq_some hcached
    cases h
    rw [hservice]
    exact .replayed huser hservice hlast hreusable
  · exact inner_of_transaction huser h

end Call

/-- What the entry point can do is what `authenticate_inner` can do, then recording. -/
theorem inner_of_pamSmAuthenticate {returned : Returned}
    (h : pamSmAuthenticate last call = some returned) :
    call.Inner last returned.ended returned.verdict ∧
      returned.last = call.recordVerdict last returned.verdict returned.ended.code := by
  unfold pamSmAuthenticate at h
  split_ifs at h
  · cases h
    exact ⟨.byItself nofun nofun, rfl⟩
  · obtain ⟨⟨ended, verdict⟩, hinner, heq⟩ := Option.map_eq_some_iff.mp h
    cases heq
    exact ⟨Call.inner_of_authenticateInner hinner, rfl⟩

/-! ## A process -/

/-- A call that has returned. -/
structure Logged where
  call : Call
  ended : Ended
  verdict : Option Verdict

/-- The conclusion the call recorded, if it did. -/
def Logged.conclusion (entry : Logged) : Option LastConclusion :=
  entry.call.recordVerdict none entry.verdict entry.ended.code

/-- A process: the last conclusion, and the calls that have returned, newest first. -/
structure Process where
  last : Option LastConclusion
  log : List Logged

/-- A process that has just loaded the module. -/
def Process.loaded : Process := ⟨none, []⟩

/-- Each label is a call. -/
def process : Machine Process Call where
  next p call :=
    (pamSmAuthenticate p.last call).map fun returned ↦
      ⟨returned.last, ⟨call, returned.ended, returned.verdict⟩ :: p.log⟩

/-- Times do not decrease: the call looks the conclusion up after the calls before it
have returned, and then returns. -/
def Process.InOrder (p : Process) (call : Call) : Prop :=
  (∀ entry ∈ p.log, entry.call.returnedAt ≤ call.lookupAt) ∧ call.lookupAt ≤ call.returnedAt

/-- The daemon answered success to this call. -/
def Call.AnsweredSuccess (call : Call) : Prop :=
  call.connects = true ∧ call.sends = true ∧
    ∃ ended response, call.wait = some ended ∧ ended.response = some response ∧
      call.Reads response ∧ response.outcome = 0

/-- The call whose conclusion is the most recent one of the process. -/
def Process.MostRecent (p : Process) (entry : Logged) : Prop :=
  ∃ newer older, p.log = newer ++ entry :: older ∧ entry.conclusion.isSome ∧
    ∀ e ∈ newer, e.conclusion = none

theorem Call.code_ne_ignore_of_asked {ended : Ended} (hwait : call.wait = some ended) :
    ended.code ≠ .ignore := by
  have hjustified := Call.justified_wait hwait
  unfold Call.Justified at hjustified
  split at hjustified
  · rw [hjustified.2]
    exact mapPamOutcome_ne_ignore _
  · exact hjustified.2

theorem Call.answeredSuccess_of_asked {ended : Ended} (hconnects : call.connects = true)
    (hsends : call.sends = true) (hwait : call.wait = some ended) (hcode : ended.code = .success) :
    call.AnsweredSuccess := by
  have hjustified := Call.justified_wait hwait
  unfold Call.Justified at hjustified
  split at hjustified
  · rename_i response hresponse
    obtain ⟨hreads, hmap⟩ := hjustified
    rw [hcode] at hmap
    exact ⟨hconnects, hsends, ended, response, hwait, hresponse, hreads,
      mapPamOutcome_eq_success hmap.symm⟩
  · exact absurd hcode hjustified.1

/-- A recorded conclusion is about the call that recorded it, and a success among them
is the daemon's. -/
structure Logged.Supports (entry : Logged) (conclusion : LastConclusion) : Prop where
  concludedAt : conclusion.concludedAt = entry.call.returnedAt
  username : entry.call.user = some conclusion.username
  service : entry.call.service = some conclusion.service
  notIgnore : conclusion.code ≠ .ignore
  answered : conclusion.code = .success → entry.call.AnsweredSuccess

theorem Call.recordVerdict_eq_or (call : Call) (last : Option LastConclusion)
    (verdict : Option Verdict) (code : PamCode) :
    call.recordVerdict last verdict code = (call.recordVerdict none verdict code).or last := by
  unfold Call.recordVerdict recordConclusion
  split
  · split <;> rfl
  · rfl

/-- Only a call that asked the daemon records, and it records its own end. -/
theorem Call.Inner.supports {ended : Ended} {verdict : Option Verdict}
    (h : call.Inner last ended verdict) {conclusion : LastConclusion}
    (hconclusion : Logged.conclusion ⟨call, ended, verdict⟩ = some conclusion) :
    Logged.Supports ⟨call, ended, verdict⟩ conclusion := by
  cases h with
  | byItself => cases hconclusion
  | replayed => cases hconclusion
  | @asked username ended huser hconnects hsends hwait =>
    cases hservice : call.service with
    | none =>
      simp [Logged.conclusion, Call.recordVerdict, hservice] at hconclusion
    | some service =>
      simp only [Logged.conclusion, Call.recordVerdict, recordConclusion, hservice]
        at hconclusion
      split_ifs at hconclusion
      cases hconclusion
      exact {
        concludedAt := rfl
        username := huser
        service := hservice
        notIgnore := Call.code_ne_ignore_of_asked hwait
        answered := Call.answeredSuccess_of_asked hconnects hsends hwait }

/-- The invariant of a process: its last conclusion is the newest that was recorded,
and each call supports what it recorded. -/
structure Process.Ok (p : Process) : Prop where
  last : p.last = p.log.findSome? Logged.conclusion
  supports : ∀ entry ∈ p.log, ∀ conclusion, entry.conclusion = some conclusion →
    entry.Supports conclusion

theorem Process.ok_loaded : Process.loaded.Ok :=
  ⟨rfl, fun _ hentry ↦ absurd hentry List.not_mem_nil⟩

theorem Process.Ok.step {p q : Process} (hp : p.Ok) (hnext : process.next p call = some q) :
    q.Ok := by
  obtain ⟨returned, hreturn, rfl⟩ := Option.map_eq_some_iff.mp hnext
  obtain ⟨hinner, hlast⟩ := inner_of_pamSmAuthenticate hreturn
  constructor
  · show returned.last = _
    rw [hlast, Call.recordVerdict_eq_or, List.findSome?_cons, hp.last]
    change (Logged.conclusion ⟨call, returned.ended, returned.verdict⟩).or _ = _
    cases Logged.conclusion ⟨call, returned.ended, returned.verdict⟩ <;> rfl
  · intro entry hentry conclusion hconclusion
    rcases List.mem_cons.mp hentry with rfl | hentry
    · exact hinner.supports hconclusion
    · exact hp.supports entry hentry conclusion hconclusion

theorem Process.ok_of_exec {calls : List Call} (hrun : process.exec .loaded calls = some p) :
    p.Ok :=
  process.invariant (fun _ _ _ hp hnext ↦ hp.step hnext) Process.ok_loaded hrun

theorem Process.Ok.exists_conclusion (hp : p.Ok) (hlast : p.last = some prev) :
    ∃ entry ∈ p.log, p.MostRecent entry ∧ entry.conclusion = some prev := by
  rw [hp.last] at hlast
  obtain ⟨newer, entry, older, hlog, hentry, hnewer⟩ := List.findSome?_eq_some_iff.mp hlast
  have hmem : entry ∈ p.log := hlog ▸ List.mem_append_right newer List.mem_cons_self
  refine ⟨entry, hmem, ⟨newer, older, hlog, ?_, hnewer⟩, hentry⟩
  rw [hentry]
  rfl

theorem Process.Ok.exists_mostRecent (hp : p.Ok) (hlast : p.last = some prev) :
    ∃ entry ∈ p.log, p.MostRecent entry ∧ entry.Supports prev := by
  obtain ⟨entry, hmem, hrecent, hentry⟩ := hp.exists_conclusion hlast
  exact ⟨entry, hmem, hrecent, hp.supports entry hmem prev hentry⟩

/-- A call of a process succeeds only on an answer of the daemon: to the call itself,
or to the call whose conclusion is the most recent, for the same user and service,
that returned less than the window ago.  A replay leaves the conclusion as it was, and
no call is ignored. -/
theorem pamSmAuthenticate_success_only {calls : List Call} {p : Process} {call : Call}
    {returned : Returned} (hrun : process.exec .loaded calls = some p) (horder : p.InOrder call)
    (hreturn : pamSmAuthenticate p.last call = some returned) :
    (returned.ended.code = .success →
      call.AnsweredSuccess ∨
        ∃ entry, p.MostRecent entry ∧ entry.call.AnsweredSuccess ∧
          entry.call.user = call.user ∧
          (∃ service, entry.call.service = some service ∧ call.service = some service) ∧
          entry.call.returnedAt ≤ call.lookupAt ∧
          call.lookupAt < entry.call.returnedAt + verdictReuseWindow) ∧
      ((∃ verdict, returned.verdict = some verdict ∧ verdict.fromCache = true) →
        returned.last = p.last) ∧
      returned.ended.code ≠ .ignore := by
  have hp := Process.ok_of_exec hrun
  obtain ⟨hinner, hlast⟩ := inner_of_pamSmAuthenticate hreturn
  rcases returned with ⟨ended, verdict, last⟩
  dsimp only at hinner hlast ⊢
  cases hinner with
  | byItself hsuccess hignore => exact ⟨fun h ↦ absurd h hsuccess, nofun, hignore⟩
  | replayed huser hservice hprev hreusable =>
    obtain ⟨entry, hmem, hrecent, hsupports⟩ := hp.exists_mostRecent hprev
    obtain ⟨rfl, rfl, hwindow, rfl⟩ := reusableConclusion_eq_some hreusable
    refine ⟨fun hsuccess ↦ .inr ⟨entry, hrecent, hsupports.answered hsuccess, ?_, ?_, ?_, ?_⟩,
      fun _ ↦ hlast, hsupports.notIgnore⟩
    · rw [huser, hsupports.username]
    · exact ⟨_, hsupports.service, hservice⟩
    · exact horder.1 entry hmem
    · have hbefore := horder.1 entry hmem
      rw [hsupports.concludedAt] at hwindow
      omega
  | asked huser hconnects hsends hwait =>
    refine ⟨fun hsuccess ↦ .inl ?_, ?_, Call.code_ne_ignore_of_asked hwait⟩
    · exact Call.answeredSuccess_of_asked hconnects hsends hwait hsuccess
    · rintro ⟨_, heq, hcache⟩
      cases heq
      cases hcache

namespace ReplaySample

/-- A call that is answered with success. -/
def first : Call where
  service := some "sudo"
  reauthVariable := false
  config := ⟨60, 15⟩
  user := some "alice"
  conversation := true
  process := some "sudo"
  tty := false
  poisoned := false
  lookupAt := 1000000000
  requestId := some ⟨List.replicate 16 0, rfl⟩
  connects := true
  sends := true
  waitsAt := 1000000000
  sequentialRounds := [⟨1200000000, .ready ⟨some ⟨true, false, false⟩, .ok (some ⟨0, ""⟩)⟩⟩]
  pipe := false
  thread := false
  guiRounds := []
  terminalRounds := []
  panics := false
  returnedAt := 1300000000

/-- The duplicate, 400 ms after the first has returned. -/
def second : Call :=
  { first with lookupAt := 1700000000, sequentialRounds := [], returnedAt := 1700000000 }

/-- The process between them. -/
def between : Process where
  last := some ⟨1300000000, "alice", "sudo", .success⟩
  log := [⟨first, ⟨.success, some ⟨0, ""⟩, none⟩, some ⟨"alice", some "sudo", false⟩⟩]

def replay : Returned where
  ended := ⟨.success, none, none⟩
  verdict := some ⟨"alice", some "sudo", true⟩
  last := between.last

theorem exec_first : process.exec .loaded [first] = some between := by rfl

theorem returns_replay : pamSmAuthenticate between.last second = some replay := by rfl

theorem second_inOrder : between.InOrder second := by
  refine ⟨fun entry hentry ↦ ?_, le_refl _⟩
  rcases List.mem_singleton.mp hentry with rfl
  decide

end ReplaySample

open ReplaySample

/-- A duplicate 400 ms later is answered with the success of the first call. -/
theorem pamSmAuthenticate_success_only_replay :
    replay.ended.code = .success ∧
      (second.AnsweredSuccess ∨
        ∃ entry, between.MostRecent entry ∧ entry.call.AnsweredSuccess ∧
          entry.call.user = some "alice" ∧
          (∃ service, entry.call.service = some service ∧
            second.service = some service) ∧
          entry.call.returnedAt ≤ 1700000000 ∧
          1700000000 < entry.call.returnedAt + verdictReuseWindow) ∧
      replay.last = between.last ∧
      replay.ended.code ≠ .ignore := by
  obtain ⟨hsuccess, hreplay, hignore⟩ := pamSmAuthenticate_success_only exec_first
    second_inOrder returns_replay
  exact ⟨rfl, hsuccess rfl, hreplay ⟨_, rfl, rfl⟩, hignore⟩

end TapAuth.Pam
