import IdxWorkspace.Library.Emission
import IdxWorkspace.PowerShell.Host

/-!
The calls a script makes, in the order it makes them. The outside is still
arbitrary; it only has to keep a list of the calls, those that raise with the
others. Questions to the outside and lines on the console are no calls.
-/

namespace IdxWorkspace.PowerShell

open Library.Effect Library.Emission

variable {Ω : Type} {out : Outside Ω} {log : Ω → List Call}

/-- The log of the outside has each call as it is made. -/
def Logs (out : Outside Ω) (log : Ω → List Call) : Prop :=
  ∀ call ω, log (out.react call ω).2 = log ω ++ [call]

def World.calls (log : Ω → List Call) (w : World Ω) : List Call := log w.outside

theorem invoke_calls (hlog : Logs out log) (call : Call) :
    Emits (World.calls log) (invoke out call) {[call]} := by
  apply Emits.step
  intro w
  change log (after (invoke out call w)).outside = log w.outside ++ [call]
  rw [← hlog call w.outside]
  unfold invoke
  cases out.react call w.outside with
  | mk failed ω => cases failed <;> rfl

theorem writeHost_calls (line : String) :
    Emits (World.calls log) (writeHost line : Script Ω PUnit) 1 :=
  Emits.quiet fun _ => ⟨⟨⟩, _, rfl, rfl⟩

theorem testPath_calls (path : String) : Emits (World.calls log) (testPath out path) 1 :=
  Emits.quiet fun _ => ⟨_, _, rfl, rfl⟩

end IdxWorkspace.PowerShell
