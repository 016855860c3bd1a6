import SerialConsole.Session.Host
import SerialConsole.Settings.Document

/-!
# Settings in files

A file of settings holds them as UTF-8 text.
-/

namespace SerialConsole

def Source.readAll : Source → Except String Bytes
  | [] => .ok []
  | .interrupted :: rest => readAll rest
  | .failed reason :: _ => .error reason
  | .data bytes :: rest => if bytes = [] then .ok [] else (readAll rest).map (bytes ++ ·)

namespace Settings

variable {σ τ : Type} [Host σ]

def ofBytes (bytes : Bytes) : Except Failure Settings :=
  match Text.decode? bytes with
  | some text => ofText text
  | none => .error (.io "stream did not contain valid UTF-8")

def ofFile (path : String) : Op σ τ Settings := do
  let source ← Op.demand (Host.openFile path) .io
  match source.readAll with
  | .ok bytes => Op.conclude (ofBytes bytes)
  | .error reason => throw (.io reason)

end Settings

end SerialConsole
