import GpuManagement.Session.Basic

/-!
# The registry

All callers share one session. The first one opens it with its flags, those who come later join, and
the last one to leave closes it; `count` counts the callers between opening and closing. It has 32
bits and starts again at zero when it runs over. A session of which a device is still in use when
the last one leaves stays open until the device is let go, but nobody joins it any more.
-/

namespace GpuManagement

/-- The session that callers share, while there is one. -/
structure Registry where
  config : Config
  user : UInt32
  count : UInt32
  session : Option Session
  /-- Sessions that all callers have left and that a device in use keeps open. -/
  lingering : List Session
  deriving Repr

namespace Registry

def ofConfig (config : Config) (user : UInt32) : Registry := ⟨config, user, 0, none, []⟩

def users (r : Registry) : Nat := r.count.toNat

/-- Joins the session, or opens it; the flags matter only in the second case. -/
def join (r : Registry) (t : Tree) (flags : InitFlags) : Outcome Session × Registry :=
  match r.session with
  | some s => (.ok s, { r with count := r.count + 1 })
  | none =>
    match Session.build t r.config r.user flags with
    | .error e => (.error e, r)
    | .ok s => (.ok s, { r with count := 1, session := some s })

/-- The registry without its session, which is closed with all that it keeps open unless a device
of it is in use. -/
def dropSession (r : Registry) (k : Kernel) : Registry × Kernel :=
  let r' := { r with session := none }
  match r.session with
  | none => (r', k)
  | some s =>
    if s.held.isEmpty then (r', s.notifier.closeAll k)
    else ({ r' with lingering := r.lingering ++ [s] }, k)

/-- Leaves the session, which the last one drops. -/
def leave (r : Registry) (k : Kernel) : Outcome Unit × Registry × Kernel :=
  if r.count = 0 then (.fail .initError, r, k)
  else
    let r := { r with count := r.count - 1 }
    if r.count = 0 then (.ok (), r.dropSession k) else (.ok (), r, k)

/-- Lets go of all devices in use, which closes the sessions that lingered for them. -/
def release (r : Registry) (k : Kernel) : Registry × Kernel :=
  ({ r with session := r.session.map Session.release, lingering := [] },
    r.lingering.foldl (fun k s => s.notifier.closeAll k) k)

def current (r : Registry) : Outcome Session := .ofOption .initError r.session

def update (r : Registry) (s : Session) : Registry := { r with session := some s }

end Registry

end GpuManagement
