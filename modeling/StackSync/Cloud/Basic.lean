import StackSync.Cloud.Handle
import StackSync.Resource.Basic

/-!
# Stacks and change sets as the cloud describes them

Statuses are texts: the service adds new ones at any time, and what they mean is decided in one place
(`Cloud.Phase`).
-/

namespace StackSync

structure StackDescription where
  stackName : String
  stackId : Option String
  status : String
  statusReason : Option String
  deriving DecidableEq, Repr, Inhabited

/-- The reason of the status; an absent one is empty. -/
def StackDescription.reason (s : StackDescription) : String := s.statusReason.getD ""

/-- What a change set would do to one resource. -/
structure ResourceChange where
  action : Option String
  logicalResourceId : Option String
  resourceType : Option String
  deriving DecidableEq, Repr, Inhabited

structure ChangeSetDescription where
  handle : ChangeSetHandle
  status : String
  executionStatus : Option String
  statusReason : Option String
  changes : List ResourceChange
  deriving DecidableEq, Repr, Inhabited

namespace ChangeSetDescription

def execution (d : ChangeSetDescription) : String := d.executionStatus.getD ""

def reason (d : ChangeSetDescription) : String := d.statusReason.getD ""

end ChangeSetDescription

/-- Where the service finds a template: in the request, or in a bucket. -/
inductive TemplateSource where
  | body (text : String)
  | url (url : String)
  deriving DecidableEq, Repr, Inhabited

structure ChangeSetRequest where
  region : String
  stackName : String
  changeSetName : String
  template : TemplateSource
  parameters : List KeyValue
  tags : List KeyValue
  deriving DecidableEq, Repr, Inhabited

def inlineLimit : Nat := 51200

/-- What can be asked of the cloud. -/
inductive CloudOperation where
  | describeStack
  | createStack
  | updateStack
  | deleteStack
  | continueUpdateRollback
  | describeChangeSet
  | executeChangeSet
  | deleteChangeSet
  | uploadTemplate
  deriving DecidableEq, Repr, Inhabited

def CloudOperation.isWrite (op : CloudOperation) : Bool := op ≠ .describeStack ∧ op ≠ .describeChangeSet

/-- Why a call to the cloud failed, in the service's words. -/
inductive CloudError where
  | api (detail : String)
  | upload (detail : String)
  deriving DecidableEq, Repr, Inhabited

def CloudError.message : CloudError → String
  | .api detail => "CloudFormation API error: " ++ detail
  | .upload detail => "template upload failed: " ++ detail

abbrev CloudAnswer := Except CloudError

/-- The address of an object in a bucket, with the bucket as part of the host. -/
def objectUrl (bucket region key : String) : String :=
  "https://" ++ bucket ++ ".s3." ++ region ++ ".amazonaws.com/" ++ key

end StackSync
