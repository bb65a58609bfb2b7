import MotorCove.Crashes

/-!
# The maintenance marker

One file records the maintenance in progress. It is published by an atomic
rename and removed by an unlink, so a later process finds it whole or not at all.
-/

set_option autoImplicit false

namespace MotorCove.Maintenance
open MotorCove.Crashes

inductive OperationType where
  | rebuildProjection
  | reindexProjection
  | reset
  | migrate
  | restore
  deriving DecidableEq, Repr

inductive Stage where
  | prepared
  | active
  | failed
  | activeQuarantined
  | installingSnapshot
  | chainReset
  | localStateCleared
  | backedUp
  | applying
  | finalizing
  deriving DecidableEq, Repr

inductive ProjectionPhase where
  | preparing
  | catchingUp
  deriving DecidableEq, Repr

inductive ResetPhase where
  | prepared
  | chainReset
  | localStateCleared
  deriving DecidableEq, Repr

structure MaintenanceMarker where
  operationId : String
  operationType : OperationType
  stage : Stage
  environmentId : String
  targetDatabase : String
  expectedSchemaContract : String
  expectedDeploymentId : Option String
  reindexFromBlock : Option String
  targetBlock : Option String
  targetHash : Option String
  projectionPhase : Option ProjectionPhase
  backupId : Option String
  transitionedFromOperationId : Option String
  transitionedFromOperationType : Option OperationType
  transitionedFromLastError : Option String
  lastError : Option String
  expectedMigrationBundleDigest : Option String := none
  resetPhase : Option ResetPhase := none
  deriving DecidableEq, Repr

structure EnvironmentPaths where
  environmentId : String
  databasePath : String
  deriving DecidableEq, Repr

end MotorCove.Maintenance
