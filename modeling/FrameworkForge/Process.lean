import FrameworkForge.Path
import FrameworkForge.SystemCode
import FrameworkForge.Trace

/-!
How processes behave, and how the directories look that they are started in. A start runs to an exit
code, fails with an error of the system, or is refused before the system is asked; which it is may
depend on everything that was started before, through a state of any type.
-/

namespace FrameworkForge

/-- An error of the system on a start: whether it is of the kind for what is not found, the reason
that it gives, if any, and the text of the error as a whole. -/
structure StartFault where
  isNotFound : Bool
  reason : Option String
  text : String
  deriving DecidableEq, Repr

namespace StartFault

def system (code : Int) (reason : String) : StartFault :=
  ⟨code = SystemCode.noSuchFile, some reason, s!"[Errno {code}] {reason}"⟩

def unnumbered (text : String) : StartFault :=
  ⟨false, none, text⟩

/-- An error that gives no reason is shown as a whole. -/
def shown (fault : StartFault) : String :=
  match fault.reason with
  | none | some "" => fault.text
  | some reason => reason

end StartFault

/-- A request is refused, with a text, when it holds what no request can hold, as a null character
in an argument. -/
inductive Outcome where
  | exited (code : Int)
  | failed (fault : StartFault)
  | refused (text : String)
  deriving DecidableEq, Repr

/-- How a place looks to someone who asks for a directory. The system can refuse to look. -/
inductive Sight where
  | directory
  | other
  | unseen (text : String)
  deriving DecidableEq, Repr

structure Processes (σ : Type) where
  start : σ → Spawn → Outcome × σ
  look : σ → Path → Sight

structure Ran (σ α : Type) where
  value : α
  trace : Trace
  state : σ

end FrameworkForge
