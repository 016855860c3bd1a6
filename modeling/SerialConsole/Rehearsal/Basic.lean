import SerialConsole.Rehearsal.Console
import SerialConsole.Rehearsal.Files
import SerialConsole.Session.Host

/-!
# Rehearsals

A host on which consoles are scripted. One program starts them, each with the next script; there is
no other program. Nothing takes time: a wait ends at once if there is output or the console has
ended, and otherwise lasts as long as it may.
-/

namespace SerialConsole

/-- A host of scripted consoles. -/
structure Rehearsal where
  scripts : List Rehearsal.Script := []
  consoles : Array Rehearsal.Console := #[]
  files : Rehearsal.Files := {}
  issued : Nat := 0

namespace Rehearsal

def program : String := "/proc/self/exe"

/-- The marks that are given out, one for each number: the multiples of an odd constant, which are
distinct as far as there are enough of them. -/
def nthMark (n : Nat) : Mark := ⟨BitVec.ofNat 128 (n + 1) * 0x9e3779b97f4a7c15f39cc0605cedc835⟩

def hasIssued (r : Rehearsal) (m : Mark) : Bool := (List.range r.issued).any (nthMark · = m)

def spawn (launch : Launch) : StateM Rehearsal (Except String ProcessId) := do
  if launch.program = program then
    let r ← get
    let script := r.scripts.head?.getD {}
    let scripts := if r.scripts.length ≤ 1 then r.scripts else r.scripts.drop 1
    set { r with scripts, consoles := r.consoles.push (.start launch script) }
    return .ok r.consoles.size
  else return .error Refusal.absent.message

def await (process : ProcessId) : StateM Rehearsal Arrival := do
  let r ← get
  match r.consoles[process]? with
  | none => return .hangUp 0
  | some c =>
    if c.output.isEmpty then return if c.ended then .hangUp 0 else .silence
    else
      set { r with consoles := r.consoles.modify process ({ · with output := [] }) }
      return .output c.output 0

def modifyConsole (process : ProcessId) (f : Console → Console) : StateM Rehearsal Unit :=
  modify fun r => { r with consoles := r.consoles.modify process f }

def modifyFiles (f : Files → Except Refusal Files) : StateM Rehearsal (Except String Unit) := do
  let r ← get
  match f r.files with
  | .ok files =>
    set { r with files }
    return .ok ()
  | .error refusal => return .error refusal.message

def freshMark : StateM Rehearsal Mark := do
  let r ← get
  set { r with issued := r.issued + 1 }
  return nthMark r.issued

instance : Host Rehearsal where
  spawn := spawn
  write process bytes := do
    modifyConsole process (Console.type bytes)
    return .ok ()
  await process _ := await process
  isAlive process := do return ((← get).consoles[process]?).any (!·.ended)
  kill process := do
    modifyConsole process ({ · with ended := true })
    return .ok ()
  freshMark := freshMark
  isFile path := do return (← get).files.isFile path
  openFile path := do
    match (← get).files.read path with
    | .ok bytes => return .ok (Source.ofBytes bytes)
    | .error refusal => return .error refusal.message
  createFile path := modifyFiles (·.create path)
  appendFile path bytes := modifyFiles (·.append path bytes)
  flushFile _ := return .ok ()

end Rehearsal

end SerialConsole
