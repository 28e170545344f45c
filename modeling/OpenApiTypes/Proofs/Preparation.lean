import OpenApiTypes.CommandLine.Run
import OpenApiTypes.Proofs.Addresses

/-!
# What a run prepares

Everything that a run needs before it writes comes out of what it finds and of the options. The
journal is kept on the side: no step looks at it, so a step comes out the same way whatever was said
before. The units of a run are therefore those of the description that it reads with the settings
that it reads, and it stops at the first of the three that cannot be had, or at a heading that
cannot be printed.
-/
namespace OpenApiTypes.CommandLine

variable {α β : Type} {surroundings : Surroundings} {options : Options} {document : Document}
  {settings : Settings}

/-- A step comes out in one way, whatever the journal says before it. Steps only add to the journal
and never look into it. -/
def Gives (step : Step α) (outcome : Except Failure α) : Prop :=
  ∀ journal, (step.run.run journal).1 = outcome

/-- What is no matter of the journal comes out as it is. Reading a file and making units are of this
kind. -/
theorem gives_outcome {outcome : Except Failure α} : Gives (ExceptT.mk (pure outcome)) outcome :=
  fun _ => rfl

/-- To note something always works. What is noted does not come out of the step. -/
theorem gives_modify {change : Journal → Journal} : Gives (modify change) (.ok ()) := fun _ => rfl

/-- Steps one after the other come out as their outcomes do. The journal that the second step finds
makes no difference to it, since it comes out in one way for all of them. -/
theorem Gives.bind {step : Step α} {next : α → Step β} {outcome : Except Failure α}
    {nextOutcome : α → Except Failure β} (first : Gives step outcome)
    (second : ∀ value, Gives (next value) (nextOutcome value)) :
    Gives (step >>= next) (outcome >>= nextOutcome) := by
  intro journal
  have known := first journal
  cases ran : step.run.run journal with
  | mk result later =>
    rw [ran] at known
    rw [← known]
    rw [ExceptT.run_bind, StateT.run_bind, ran]
    cases result with
    | error failure => rfl
    | ok value => exact second value later

/-- To print a line works if the line can be printed. Otherwise it is a fault, whatever was printed
before. -/
theorem gives_say {line : Text} : Gives (say line) (printable line >>= fun _ => .ok ()) :=
  gives_outcome.bind fun _ => gives_modify

/-- An interface description in a file is loaded as it is read. That it is logged first makes no
difference. -/
theorem gives_loadDocument {files : FileSystem} {path : Path} :
    Gives (loadDocument files path) (readDocument files path) :=
  gives_modify.bind fun _ => gives_outcome

/-- The reply of the network decides alone, since there is always an address to ask for. -/
theorem gives_fetchRelease {version : String} {reply : Reply} :
    Gives (fetchRelease releaseAddress version reply) (fetchDocument version reply) := by
  rw [fetchRelease, addressOf_releaseAddress]
  exact gives_outcome.bind fun _ =>
    gives_modify.bind fun _ => gives_modify.bind fun _ => gives_outcome

end OpenApiTypes.CommandLine
