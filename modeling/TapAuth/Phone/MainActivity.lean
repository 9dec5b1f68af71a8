import TapAuth.Lib.Machine
import TapAuth.Phone.RequestHandlers
import TapAuth.Shared.Transparent

/-!
# The prompt of the main activity

While it is open, `MainActivity` receives the broadcasts of submitted requests, shows a
biometric prompt for each, and answers the request it keeps in `currentAuthRequest`
when the prompt is answered.

The platform shows one prompt at a time: `authenticate` called while a prompt is showing
leaves that prompt in place.  The request a prompt was built for and the request the
activity keeps are therefore two things, and only the second is approved.
`approves_displayed` says when they are the same: no other request arrives while a
prompt is showing, and the activity is not recreated under it.

A build for end-to-end tests, which approves without a prompt, is not modelled, nor is
what `AuthRequestManager` does with a response.
-/

namespace TapAuth.Phone

open Shared

/-- A submitted request. -/
structure AuthRequest where
  requestId : String
  deviceId : String
  deviceName : String
  username : String
  hostname : String
  challenge : Bytes
  timestamp : Int64
  transportType : TransportType
  deriving DecidableEq

def TransportType.displayName : TransportType → String
  | .udp => "Local Network"
  | .ble => "Bluetooth"

/-- What a prompt displays. -/
structure PromptInfo where
  title : String
  subtitle : String
  description : String
  negativeButtonText : String
  deriving DecidableEq

def promptInfo (authRequest : AuthRequest) : PromptInfo where
  title := "Authentication Request"
  subtitle := "Approve login for " ++ authRequest.username ++ "@" ++ authRequest.hostname
  description :=
    "From device: " ++ authRequest.deviceName ++ " via " ++ authRequest.transportType.displayName
  negativeButtonText := "Deny"

/-- The arguments of `AuthRequestManager.handleResponse`. -/
structure AuthResponse where
  requestId : String
  approved : Bool
  signedChallenge : Option Bytes
  explicitDenial : Bool
  deriving DecidableEq

/-- Sign the challenge of a request.  Without a private key, signing throws. -/
def approveRequest (P : Primitives) (privateKey : Option Ed25519KeyPair)
    (authRequest : AuthRequest) : AuthResponse :=
  match privateKey with
  | some privateKey =>
    ⟨authRequest.requestId, true, some (signEd25519 P privateKey authRequest.challenge), false⟩
  | none => ⟨authRequest.requestId, false, none, false⟩

/-- The errors of a prompt. -/
inductive BiometricError where
  | negativeButton
  | userCanceled
  | canceled
  | timeout
  | lockout
  | lockoutPermanent
  | hwNotPresent
  | hwUnavailable
  | noBiometrics
  | noDeviceCredential
  | unknown (code : Int32)
  deriving DecidableEq, Repr

/-! ## The activity -/

/-- The activity, the prompt and the responses so far, newest first. -/
structure Activity where
  currentAuthRequest : Option AuthRequest
  /-- The request the showing prompt was built for: the user sees its `promptInfo`. -/
  showing : Option AuthRequest
  responses : List AuthResponse
  deriving DecidableEq

namespace Activity

def created : Activity := ⟨none, none, []⟩

def handleAuthResponse (s : Activity) (response : AuthResponse) : Activity :=
  { s with responses := response :: s.responses }

/-- `authenticate` leaves a showing prompt in place. -/
def showBiometricPrompt (s : Activity) (authRequest : AuthRequest) : Activity :=
  { s with showing := s.showing.or (some authRequest) }

/-- `canAuthStrong` is whether strong biometrics are available. -/
def handleAuthRequest (s : Activity) (authRequest : AuthRequest) (canAuthStrong : Bool) :
    Activity :=
  if canAuthStrong then
    { s with currentAuthRequest := some authRequest }.showBiometricPrompt authRequest
  else s.handleAuthResponse ⟨authRequest.requestId, false, none, false⟩

/-- The kept request after an error. -/
def afterError (authRequest : AuthRequest) : BiometricError → Option AuthRequest
  | .canceled | .timeout | .lockout => some authRequest
  | .negativeButton | .userCanceled | .lockoutPermanent | .hwNotPresent | .hwUnavailable
  | .noBiometrics | .noDeviceCredential | .unknown _ => none

/-- An error dismisses the prompt.  Only the button is a denial. -/
def onAuthenticationError (s : Activity) (error : BiometricError) : Activity :=
  let s := { s with showing := none }
  match s.currentAuthRequest with
  | none => s
  | some authRequest =>
    let s := { s with currentAuthRequest := afterError authRequest error }
    match error with
    | .negativeButton => s.handleAuthResponse ⟨authRequest.requestId, false, none, true⟩
    | _ => s

def onAuthenticationSucceeded (P : Primitives) (s : Activity)
    (privateKey : Option Ed25519KeyPair) : Activity :=
  let s := { s with showing := none }
  match s.currentAuthRequest with
  | none => s
  | some authRequest =>
    { s.handleAuthResponse (approveRequest P privateKey authRequest) with
      currentAuthRequest := none }

end Activity

inductive ActivityEvent where
  | broadcast (authRequest : AuthRequest) (canAuthStrong : Bool)
  | error (error : BiometricError)
  | succeeded (privateKey : Option Ed25519KeyPair)
  /-- A finger that is not recognised; the prompt stays. -/
  | failed
  /-- A new instance of the activity; the platform may keep the prompt. -/
  | recreated (promptStays : Bool)
  | other
  deriving DecidableEq

/-- The activity under any events.  Only a showing prompt is answered. -/
def mainActivity (P : Primitives) : Machine Activity ActivityEvent where
  next s
  | .broadcast authRequest canAuthStrong => some (s.handleAuthRequest authRequest canAuthStrong)
  | .error error => some (s.onAuthenticationError error)
  | .succeeded privateKey =>
    if s.showing.isSome then some (s.onAuthenticationSucceeded P privateKey) else none
  | .failed | .other => some s
  | .recreated promptStays =>
    some { s with
      currentAuthRequest := none
      showing := if promptStays then s.showing else none }

/-! ## What is approved -/

/-- The condition on an event: a request that arrives with biometrics available finds no
prompt of another request, and the activity is not recreated under its prompt. -/
def Uninterrupted (s : Activity) : ActivityEvent → Prop
  | .broadcast authRequest true => s.showing = none ∨ s.showing = some authRequest
  | .recreated true => s.showing = none
  | _ => True

instance (s : Activity) : ∀ event, Decidable (Uninterrupted s event)
  | .broadcast _ true => inferInstanceAs (Decidable (_ ∨ _))
  | .broadcast _ false => instDecidableTrue
  | .recreated true => inferInstanceAs (Decidable (_ = _))
  | .recreated false => instDecidableTrue
  | .error _ | .succeeded _ | .failed | .other => instDecidableTrue

/-- The request the prompt was built for is the request that is kept. -/
def KeepsDisplayed (s : Activity) : Prop :=
  ∀ authRequest, s.showing = some authRequest → s.currentAuthRequest = some authRequest

variable {P : Primitives} {s t : Activity}

theorem keepsDisplayed_of_not_showing (h : s.showing = none) : KeepsDisplayed s := by
  intro authRequest hshowing
  rw [h] at hshowing
  cases hshowing

@[simp] theorem showing_onAuthenticationError (s : Activity) (error : BiometricError) :
    (s.onAuthenticationError error).showing = none := by
  unfold Activity.onAuthenticationError
  cases s.currentAuthRequest with
  | none => rfl
  | some authRequest => cases error <;> rfl

@[simp] theorem showing_onAuthenticationSucceeded (s : Activity)
    (privateKey : Option Ed25519KeyPair) :
    (s.onAuthenticationSucceeded P privateKey).showing = none := by
  unfold Activity.onAuthenticationSucceeded
  cases s.currentAuthRequest <;> rfl

theorem KeepsDisplayed.handleAuthRequest (h : KeepsDisplayed s) {authRequest : AuthRequest}
    {canAuthStrong : Bool} (hevent : Uninterrupted s (.broadcast authRequest canAuthStrong)) :
    KeepsDisplayed (s.handleAuthRequest authRequest canAuthStrong) := by
  cases canAuthStrong with
  | false => exact h
  | true =>
    intro displayed hdisplayed
    rcases hevent with hnone | hsame
    · rw [← hdisplayed]
      simp [Activity.handleAuthRequest, Activity.showBiometricPrompt, hnone]
    · rw [← hdisplayed]
      simp [Activity.handleAuthRequest, Activity.showBiometricPrompt, hsame]

theorem KeepsDisplayed.step (h : KeepsDisplayed s) {event : ActivityEvent}
    (hevent : Uninterrupted s event) (hnext : (mainActivity P).next s event = some t) :
    KeepsDisplayed t := by
  cases event with
  | broadcast authRequest canAuthStrong =>
    cases hnext
    exact h.handleAuthRequest hevent
  | error error =>
    cases hnext
    exact keepsDisplayed_of_not_showing (showing_onAuthenticationError s error)
  | succeeded privateKey =>
    simp only [mainActivity] at hnext
    split_ifs at hnext
    cases hnext
    exact keepsDisplayed_of_not_showing (showing_onAuthenticationSucceeded s privateKey)
  | failed => cases hnext; exact h
  | other => cases hnext; exact h
  | recreated promptStays =>
    cases hnext
    apply keepsDisplayed_of_not_showing
    cases promptStays with
    | false => rfl
    | true => exact hevent

theorem keepsDisplayed_of_exec {events : List ActivityEvent}
    (hrun : (mainActivity P).exec .created events = some s)
    (huninterrupted : (mainActivity P).Along Uninterrupted .created events) : KeepsDisplayed s :=
  (mainActivity P).invariant_along (fun _ _ _ h hevent hnext ↦ h.step hevent hnext)
    (keepsDisplayed_of_not_showing rfl) hrun huninterrupted

/-- **A success approves the request that was displayed**, after every sequence of
events that are not interrupted by another request or a new activity. -/
theorem approves_displayed {events : List ActivityEvent} {privateKey : Option Ed25519KeyPair}
    (hrun : (mainActivity P).exec .created events = some s)
    (huninterrupted : (mainActivity P).Along Uninterrupted .created events)
    (hsucceeded : (mainActivity P).next s (.succeeded privateKey) = some t) :
    ∃ displayed, s.showing = some displayed ∧
      t.responses = approveRequest P privateKey displayed :: s.responses := by
  have hkeeps := keepsDisplayed_of_exec hrun huninterrupted
  simp only [mainActivity] at hsucceeded
  split_ifs at hsucceeded with hshowing
  cases hsucceeded
  obtain ⟨displayed, hdisplayed⟩ := Option.isSome_iff_exists.mp hshowing
  refine ⟨displayed, hdisplayed, ?_⟩
  simp [Activity.onAuthenticationSucceeded, hkeeps displayed hdisplayed,
    Activity.handleAuthResponse]

/-- The denial button denies the request that was displayed, under the same condition. -/
theorem denies_displayed {events : List ActivityEvent} {displayed : AuthRequest}
    (hrun : (mainActivity P).exec .created events = some s)
    (huninterrupted : (mainActivity P).Along Uninterrupted .created events)
    (hdisplayed : s.showing = some displayed) :
    (s.onAuthenticationError .negativeButton).responses =
      ⟨displayed.requestId, false, none, true⟩ :: s.responses := by
  have hkeeps := keepsDisplayed_of_exec hrun huninterrupted
  simp [Activity.onAuthenticationError, hkeeps displayed hdisplayed, Activity.handleAuthResponse]

namespace PromptSample

def primitives : Primitives := Transparent.primitives

def privateKey : Option Ed25519KeyPair := some ⟨FixedBytes.fill 32 4⟩

def unlock : AuthRequest :=
  ⟨"r1", "d1", "laptop", "alice", "laptop", List.replicate 32 1, 1000000, .udp⟩

def becomeRoot : AuthRequest :=
  ⟨"r2", "d2", "server", "root", "server", List.replicate 32 2, 1000000, .udp⟩

end PromptSample

open PromptSample

/-- The prompt displays alice's request on the laptop.  A request for root on the server
arrives, the prompt stays, the user answers it, and root's challenge is signed. -/
theorem approves_other_than_displayed :
    promptInfo unlock ≠ promptInfo becomeRoot ∧
      ¬ ∀ events s t,
        (mainActivity primitives).exec .created events = some s →
        (mainActivity primitives).next s (.succeeded privateKey) =
          some t →
        ∃ displayed, s.showing = some displayed ∧
          t.responses = approveRequest primitives privateKey displayed ::
            s.responses := by
  refine ⟨by decide +kernel, fun h ↦ ?_⟩
  obtain ⟨displayed, hdisplayed, hresponses⟩ := h
    [.broadcast unlock true, .broadcast becomeRoot true]
    ⟨some becomeRoot, some unlock, []⟩
    ⟨none, none, [approveRequest primitives privateKey
      becomeRoot]⟩ rfl rfl
  cases hdisplayed
  exact absurd hresponses (by decide +kernel)

namespace PromptSample

/-- The second request comes after the first prompt has been answered. -/
def inTurn : List ActivityEvent :=
  [.broadcast unlock true, .failed, .succeeded privateKey, .broadcast becomeRoot true]

/-- The second prompt is showing. -/
def second : Activity :=
  ⟨some becomeRoot, some becomeRoot, [approveRequest primitives privateKey unlock]⟩

theorem exec_inTurn : (mainActivity primitives).exec .created inTurn = some second := rfl

end PromptSample

theorem approves_displayed_sample :
    ∃ t displayed,
      (mainActivity primitives).next second
        (.succeeded privateKey) = some t ∧
      second.showing = some displayed ∧
      t.responses = approveRequest primitives privateKey displayed ::
        second.responses := by
  obtain ⟨displayed, hdisplayed, hresponses⟩ := approves_displayed exec_inTurn
    (by decide +kernel)
    (show (mainActivity primitives).next second
      (.succeeded privateKey) = some _ from rfl)
  exact ⟨_, displayed, rfl, hdisplayed, hresponses⟩

end TapAuth.Phone
