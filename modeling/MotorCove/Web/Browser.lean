import MotorCove.Web.Submission

/-!
# A browser

The tabs of a browser submit operations and recheck them. Any number of these
runs are under way at once, and a tab may close at any await. The answers that
the runs get and the errors of local storage are the surroundings'.
-/

set_option autoImplicit false

namespace MotorCove.Web
open MotorCove.Asynchrony

inductive Task where
  | submit (context : SubmissionContext) (action : SubmissionAction)
  | recheck (observesFinality : Bool) (deploymentId clientOperationId : String)
      (candidateHash : Option String) (mode : Mode)

/-- The id is what `crypto.randomUUID()` gives the run. -/
structure Run where
  uuid : String
  task : Task

inductive Outcome where
  | submission (result : SubmissionResult)
  | recheck (result : Option RecoveryResult)
  deriving DecidableEq, Repr

def Run.program (run : Run) : Program Outcome :=
  match run.task with
  | .submit context action => do
    let result ← submitOperation run.uuid context action
    pure (.submission result)
  | .recheck observesFinality deploymentId clientOperationId candidateHash mode => do
    let result ← recheck run.uuid observesFinality deploymentId clientOperationId candidateHash mode
    pure (.recheck result)

def Run.called (run : Run) : Program Outcome :=
  Async.request .called >>= fun _ => run.program

variable {π ι : Type}

def browser (surroundings : Surroundings Answer Moment) (tab : π → ι) :
    System Answer Moment LocalStorage π ι where
  toSurroundings := surroundings
  home := tab
  onClose _ storage := storage

abbrev Session (π ι : Type) :=
  World Answer JsError Moment LocalStorage LocalStorageJournal Outcome π ι

/-- No run has begun, and no tab has read or kept anything. -/
def Session.start (storage : LocalStorage) (runs : π → Run) : Session π ι where
  shared := storage
  desk _ := .new
  left p := (runs p).called
  isOpen _ := true

end MotorCove.Web
