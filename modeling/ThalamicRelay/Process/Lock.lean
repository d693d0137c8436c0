import ThalamicRelay.Shared.Decimal
import ThalamicRelay.Shared.Transition
import Mathlib.Logic.Function.Basic

set_option autoImplicit false

namespace ThalamicRelay

open Transition

abbrev Pid := UInt32

def lockText (pid : Pid) : String :=
  String.ofList (Decimal.line pid.toNat)

def recordedPid (content : String) : Option Pid :=
  (Decimal.parse 0x100000000 (Decimal.trim content.toList)).map UInt32.ofNat

inductive LockError
  | writePid (cause : String)
  | unreadable
  | alreadyActive (pid : Pid)
  | clearStale (cause : String)
  | create (cause : String)
  deriving DecidableEq, Repr

def LockError.message (lockPath : String) : LockError → String
  | .writePid cause => s!"Failed to write PID to lock file {lockPath}: {cause}"
  | .unreadable =>
    s!"Lock file {lockPath} exists but is unreadable/unparseable; refusing to start."
  | .alreadyActive pid => s!"Another instance is already active (PID: {pid.toNat})."
  | .clearStale cause => s!"Failed to clear stale lock {lockPath}: {cause}"
  | .create cause => s!"Failed to create lock file {lockPath}: {cause}"

def notFound : String := "No such file or directory (os error 2)"

-- Where a process stands in try_acquire_lock, each phase named by the call it makes next.
-- judged is the creator of the file that was read; no step looks at it.
inductive LockPhase
  | absent
  | bystander
  | creating
  | writing
  | reading
  | checking (judged : Option Pid) (recorded : Pid)
  | removing (judged : Option Pid)
  | holding
  | released
  | failed (error : LockError)
  | dead
  deriving DecidableEq, Repr

namespace LockPhase

def live : LockPhase → Bool
  | .absent => false
  | .dead => false
  | _ => true

def claims : LockPhase → Bool
  | .writing => true
  | .holding => true
  | _ => false

def spent : LockPhase → Bool
  | .writing => true
  | .holding => true
  | .released => true
  | .failed _ => true
  | .dead => true
  | _ => false

def judges : LockPhase → Option Pid
  | .checking judged _ => judged
  | .removing judged => judged
  | _ => none

def isRemoving : LockPhase → Bool
  | .removing _ => true
  | _ => false

def outside : LockPhase → Bool
  | .absent => true
  | .bystander => true
  | .dead => true
  | _ => false

end LockPhase

structure LockFile where
  creator : Option Pid
  content : String
  deriving DecidableEq, Repr

structure LockWorld where
  path : Option LockFile
  phase : Pid → LockPhase

inductive LockAction
  | start
  | startBystander
  | create
  | createFails (cause : String)
  | write
  | writeFails (written : Nat) (cause : String)
  | read
  | readFails
  | check
  | remove
  | removeFails (cause : String)
  | dropGuard
  | dropGuardFails
  | exit
  deriving DecidableEq, Repr

namespace LockWorld

def enter (world : LockWorld) (pid : Pid) (phase : LockPhase) : LockWorld :=
  { world with phase := Function.update world.phase pid phase }

/-- What is written goes to the file that the process opened, linked at the path or not. -/
def writeFile (world : LockWorld) (pid : Pid) (text : String) : LockWorld :=
  { world with
    path := world.path.map fun file =>
      if file.creator = some pid then { file with content := file.content ++ text } else file }

def alive (world : LockWorld) (pid : Pid) : Bool :=
  (world.phase pid).live

def start (world : LockWorld) (pid : Pid) (entered : LockPhase) : Option LockWorld :=
  match world.phase pid with
  | .absent => some (world.enter pid entered)
  | _ => none

def create (world : LockWorld) (pid : Pid) : Option LockWorld :=
  match world.phase pid with
  | .creating =>
    match world.path with
    | none => some ({ world with path := some ⟨some pid, ""⟩ }.enter pid .writing)
    | some _ => some (world.enter pid .reading)
  | _ => none

def write (world : LockWorld) (pid : Pid) (text : String) (entered : LockPhase) :
    Option LockWorld :=
  match world.phase pid with
  | .writing => some ((world.writeFile pid text).enter pid entered)
  | _ => none

def read (world : LockWorld) (pid : Pid) : Option LockWorld :=
  match world.phase pid with
  | .reading =>
    match world.path with
    | none => some (world.enter pid (.failed .unreadable))
    | some file =>
      match recordedPid file.content with
      | none => some (world.enter pid (.failed .unreadable))
      | some recorded => some (world.enter pid (.checking file.creator recorded))
  | _ => none

def check (world : LockWorld) (pid : Pid) : Option LockWorld :=
  match world.phase pid with
  | .checking judged recorded =>
    if world.alive recorded then some (world.enter pid (.failed (.alreadyActive recorded)))
    else some (world.enter pid (.removing judged))
  | _ => none

def remove (world : LockWorld) (pid : Pid) : Option LockWorld :=
  match world.phase pid with
  | .removing _ =>
    match world.path with
    | none => some (world.enter pid (.failed (.clearStale notFound)))
    -- The loop turns: the create call is next.
    | some _ => some ({ world with path := none }.enter pid .creating)
  | _ => none

def dropGuard (world : LockWorld) (pid : Pid) (path : Option LockFile) : Option LockWorld :=
  match world.phase pid with
  | .holding => some ({ world with path := path }.enter pid .released)
  | _ => none

def fail (world : LockWorld) (pid : Pid) (calling : LockPhase → Bool) (error : LockError) :
    Option LockWorld :=
  if calling (world.phase pid) then some (world.enter pid (.failed error)) else none

def step (world : LockWorld) : Pid × LockAction → Option LockWorld
  | (pid, .start) => world.start pid .creating
  | (pid, .startBystander) => world.start pid .bystander
  | (pid, .create) => world.create pid
  | (pid, .createFails cause) => world.fail pid (· = .creating) (.create cause)
  | (pid, .write) => world.write pid (lockText pid) .holding
  | (pid, .writeFails written cause) =>
    world.write pid (String.ofList ((lockText pid).toList.take written)) (.failed (.writePid cause))
  | (pid, .read) => world.read pid
  | (pid, .readFails) => world.fail pid (· = .reading) .unreadable
  | (pid, .check) => world.check pid
  | (pid, .remove) => world.remove pid
  | (pid, .removeFails cause) => world.fail pid (·.isRemoving) (.clearStale cause)
  | (pid, .dropGuard) => world.dropGuard pid none
  | (pid, .dropGuardFails) => world.dropGuard pid world.path
  -- The end of the process, by return, signal or crash; a guard it returns with drops before.
  | (pid, .exit) => if world.alive pid then some (world.enter pid .dead) else none

structure Initial (world : LockWorld) : Prop where
  outside : ∀ pid, (world.phase pid).outside = true
  foreign : ∀ file, world.path = some file → file.creator = none

def system : System LockWorld (Pid × LockAction) :=
  System.ofPartial Initial step

/-- Since the process read the path, another one put its own file there and goes on with it. -/
def overtaken (world : LockWorld) (pid : Pid) : Bool :=
  match world.phase pid, world.path with
  | .removing judged, some ⟨some owner, _⟩ =>
    judged != some owner && (world.phase owner).claims
  | _, _ => false

def Atomic (world : LockWorld) (label : Pid × LockAction) : Prop :=
  label.2 = .remove → world.overtaken label.1 = false

instance (world : LockWorld) (label : Pid × LockAction) : Decidable (world.Atomic label) :=
  inferInstanceAs (Decidable (_ → _))

def SingleInstance (world : LockWorld) : Prop :=
  ∀ first second, world.phase first = .holding → world.phase second = .holding → first = second

end LockWorld

end ThalamicRelay
