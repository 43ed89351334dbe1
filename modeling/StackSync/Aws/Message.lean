import StackSync.Cloud.Basic

/-!
# Messages to the service

Everything but a template travels as a query: an action and parameters, where the items of a list are numbered
from one and an empty list is one parameter without a text. Making a stack and updating it are one action and
differ in a parameter. A template is an object that is put into a bucket.
-/

namespace StackSync.Aws

inductive Message where
  | query (action region : String) (parameters : List (String × String))
  | putObject (region bucket key body : String)
  deriving DecidableEq, Repr, Inhabited

/-- The name of the action that an operation is. -/
def actionOf : CloudOperation → String
  | .describeStack => "DescribeStacks"
  | .createStack | .updateStack => "CreateChangeSet"
  | .deleteStack => "DeleteStack"
  | .continueUpdateRollback => "ContinueUpdateRollback"
  | .describeChangeSet => "DescribeChangeSet"
  | .executeChangeSet => "ExecuteChangeSet"
  | .deleteChangeSet => "DeleteChangeSet"
  | .uploadTemplate => "PutObject"

/-- The parameter of an item of a list, counted from one. -/
def memberName (list : String) (i : Nat) : String := list ++ ".member." ++ toString i

/-- The parameters of a list, each of whose items is one or more parameters below its own name. -/
def listParameters (list : String) (items : List (List (String × String))) : List (String × String) :=
  if items.isEmpty then [(list, "")]
  else
    (items.zipIdx 1).flatMap fun (item, i) =>
      item.map fun (part, value) => (memberName list i ++ part, value)

/-- What the service is allowed to do while it executes a change set. -/
def capabilities : List String := ["CAPABILITY_IAM", "CAPABILITY_NAMED_IAM", "CAPABILITY_AUTO_EXPAND"]

def templateParameter : TemplateSource → String × String
  | .body text => ("TemplateBody", text)
  | .url url => ("TemplateURL", url)

namespace Message

/-- Asks for a change set that makes a stack or updates one. -/
def ofRequest (isCreate : Bool) (r : ChangeSetRequest) : Message :=
  .query (actionOf .createStack) r.region
    ([("StackName", r.stackName), templateParameter r.template] ++
      listParameters "Parameters"
        (r.parameters.map fun p => [(".ParameterKey", p.key), (".ParameterValue", p.value)]) ++
      listParameters "Capabilities" (capabilities.map fun c => [("", c)]) ++
      listParameters "Tags" (r.tags.map fun t => [(".Key", t.key), (".Value", t.value)]) ++
      [("ChangeSetName", r.changeSetName), ("ChangeSetType", if isCreate then "CREATE" else "UPDATE")])

def onStack (op : CloudOperation) (region stackName : String) : Message :=
  .query (actionOf op) region [("StackName", stackName)]

/-- An operation on a change set, which is addressed by its ARN if that is known. -/
def onChangeSet (op : CloudOperation) (region stackName : String) (h : ChangeSetHandle) : Message :=
  .query (actionOf op) region [("ChangeSetName", h.reference), ("StackName", stackName)]

end Message

end StackSync.Aws
