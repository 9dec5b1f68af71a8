import Mathlib.Data.List.Infix
import TapAuth.Lib.Except

/-!
# Who sends an administrative request

The daemon takes the process and the user of the peer from its socket, looks the
user's name and the start time of the process up and asks PolKit about them.  Where
PolKit cannot be asked, only root may go on; whether it cannot is read off the text
of the error.

This is the production build: the bypass for development is compiled out.
-/

namespace TapAuth.Daemon

inductive PeerIdentityError where
  | invalidPid (pid : Int32)
  | resolveFailed
  | procStatRead (pid : Int32) (source : String)
  | procStatMalformed (pid : Int32) (detail : String)
  | dbusUnavailable (text : String)
  | authorizationDenied
  | polkitUnavailable (reason : String)
  | polkitError (text : String)
  deriving DecidableEq, Repr

def PeerIdentityError.display : PeerIdentityError → String
  | .invalidPid pid => "invalid peer PID " ++ toString pid.toInt
  | .resolveFailed => "failed to resolve peer identity"
  | .procStatRead pid source => "cannot read /proc/" ++ toString pid.toInt ++ "/stat: " ++ source
  | .procStatMalformed pid detail =>
    "malformed /proc/" ++ toString pid.toInt ++ "/stat: " ++ detail
  | .dbusUnavailable text => "D-Bus connection failed: " ++ text
  | .authorizationDenied => "authorization denied by PolKit"
  | .polkitUnavailable reason => "PolKit unavailable (" ++ reason ++ ") and caller is not root"
  | .polkitError text => "PolKit authorization failed: " ++ text

structure PeerIdentity where
  pid : Int32
  uid : UInt32
  username : String
  startTime : UInt64
  deriving DecidableEq

/-! ## The start time of a process -/

/-- The white space that `str::trim` and `split_whitespace` mean. -/
def isWhitespace (c : Char) : Bool :=
  ('\t' ≤ c && c ≤ '\r') || ('\u2000' ≤ c && c ≤ '\u200a') ||
    [' ', '\u0085', '\u00a0', '\u1680', '\u2028', '\u2029', '\u202f', '\u205f', '\u3000'].contains c

/-- `split_whitespace`. -/
def splitWhitespace (text : List Char) : List (List Char) :=
  (text.splitOnP isWhitespace).filter fun field ↦ !field.isEmpty

/-- What follows the last closing parenthesis: the name of the program may hold some itself. -/
def afterComm (text : List Char) : Option (List Char) :=
  if ')' ∈ text then some (text.reverse.takeWhile (· ≠ ')')).reverse else none

def parseDigits : Nat → List Char → Except String UInt64
  | value, [] => .ok (UInt64.ofNat value)
  | value, c :: rest =>
    if c.isDigit then
      let next := value * 10 + (c.toNat - '0'.toNat)
      if next < UInt64.size then parseDigits next rest
      else .error "number too large to fit in target type"
    else .error "invalid digit found in string"

/-- `str::parse::<u64>` of a text that is not empty: a plus sign may precede the digits. -/
def parseU64 : List Char → Except String UInt64
  | '+' :: c :: rest => parseDigits 0 (c :: rest)
  | text => parseDigits 0 text

/-- With what reading `/proc/pid/stat` gives. -/
def readProcessStartTime (pid : Int32) (stat : Except String String) :
    Except PeerIdentityError UInt64 := do
  let content ← stat.mapError (PeerIdentityError.procStatRead pid)
  match afterComm content.toList with
  | none => throw (.procStatMalformed pid "no closing parenthesis")
  | some rest =>
    let fields := splitWhitespace rest
    match fields[19]? with
    | none =>
      throw (.procStatMalformed pid ("only " ++ toString fields.length ++ " fields after comm"))
    | some field =>
      (parseU64 field).mapError fun e ↦
        .procStatMalformed pid ("failed to parse start_time: " ++ e)

/-- With the answers of the user database (its error, or the name if there is such a user)
and of `/proc`. -/
def resolvePeer (pid : Int32) (uid : UInt32) (user : Except String (Option String))
    (stat : Except String String) : Except PeerIdentityError PeerIdentity :=
  if pid ≤ 0 then .error (.invalidPid pid)
  else
    match user with
    | .error _ | .ok none => .error .resolveFailed
    | .ok (some username) =>
      (readProcessStartTime pid stat).map fun startTime ↦ ⟨pid, uid, username, startTime⟩

theorem resolvePeer_uid {pid : Int32} {uid : UInt32} {user : Except String (Option String)}
    {stat : Except String String} {identity : PeerIdentity}
    (h : resolvePeer pid uid user stat = .ok identity) : identity.uid = uid := by
  unfold resolvePeer at h
  split at h
  · cases h
  · rcases user with e | (_ | username)
    · cases h
    · cases h
    · cases htime : readProcessStartTime pid stat with
      | error e => simp [htime, Except.map] at h
      | ok startTime =>
        simp only [htime, Except.map, Except.ok.injEq] at h
        rw [← h]

/-! ## The authorization -/

/-- What the call to PolKit meets. -/
inductive PolkitReply where
  | noConnection (text : String)
  | callFailed (text : String)
  | unparsable (text : String)
  | answered (isAuthorized : Bool)
  deriving DecidableEq

def checkPolkit : PolkitReply → Except PeerIdentityError Bool
  | .noConnection text => .error (.dbusUnavailable text)
  | .callFailed text => .error (.polkitError text)
  | .unparsable text => .error (.polkitError ("response parse failed: " ++ text))
  | .answered isAuthorized => .ok isAuthorized

/-- `char::to_lowercase`, as far as it yields ASCII letters: besides the capital letters the
Kelvin sign and the dotted capital I do.  The other characters have no ASCII letter in their
lower case and stand for themselves. -/
def toLowercase (c : Char) : List Char :=
  if c.isUpper then [c.toLower]
  else if c = '\u212a' then ['k']
  else if c = '\u0130' then ['i', '\u0307']
  else [c]

/-- `s.to_lowercase().contains(pattern)` for a pattern of lower-case ASCII characters. -/
def lowercaseContains (text pattern : String) : Bool :=
  pattern.toList <:+: text.toList.flatMap toLowercase

def PeerIdentityError.isUnavailable : PeerIdentityError → Bool
  | .dbusUnavailable _ => true
  | .polkitError text =>
    lowercaseContains text "not found" || lowercaseContains text "no such" ||
      lowercaseContains text "serviceunknown" || lowercaseContains text "not registered"
  | _ => false

def checkAuthorization (identity : PeerIdentity) (reply : PolkitReply) :
    Except PeerIdentityError Unit :=
  match checkPolkit reply with
  | .ok true => .ok ()
  | .ok false => .error .authorizationDenied
  | .error e =>
    if e.isUnavailable then
      if identity.uid = 0 then .ok ()
      else
        .error (.polkitUnavailable ("PolKit unavailable (" ++ e.display ++
          ") and caller is not root. Install PolicyKit or run as root."))
    else .error e

/-- PolKit could not be asked, by the daemon's reading of the error. -/
def PolkitReply.Unavailable (reply : PolkitReply) : Prop :=
  ∃ e, checkPolkit reply = .error e ∧ e.isUnavailable = true

/-- PolKit said yes, or it could not be asked and the caller is root. -/
def PolkitReply.Grants (reply : PolkitReply) (uid : UInt32) : Prop :=
  reply = .answered true ∨ (reply.Unavailable ∧ uid = 0)

theorem checkAuthorization_eq_ok_iff {identity : PeerIdentity} {reply : PolkitReply} :
    checkAuthorization identity reply = .ok () ↔ reply.Grants identity.uid := by
  unfold checkAuthorization PolkitReply.Grants PolkitReply.Unavailable
  cases hreply : checkPolkit reply with
  | ok isAuthorized =>
    -- only an answer leaves `check_polkit` without an error
    cases reply <;> cases hreply
    cases isAuthorized <;> simp
  | error e =>
    have hne : reply ≠ .answered true := by
      rintro rfl
      cases hreply
    by_cases hu : e.isUnavailable = true
    · by_cases hroot : identity.uid = 0 <;> simp [hu, hroot, hne]
    · simp [hu, hne]

end TapAuth.Daemon
