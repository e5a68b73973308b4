import ChromiumAdblock.Base.Value
import ChromiumAdblock.Lib.Machine

/-! `AdBlockCustomResourceProvider`: the custom resources of a key are one list in a value store,
which answers on another task runner.  An operation on a resource gets the list, and saves it
changed when the reply is handled.  A reload of the merged resources, which these operations start,
only reads the store; it stands here as an effect. -/

namespace ChromiumAdblock

open EventMachine

def kStorageScriptletsKey : String := "SCRIPTLETS"
def kNameField : String := "name"
def kContentField : String := "content"
def kMimeField : String := "kind.mime"
def kAppJs : String := "application/javascript"

/-- `AdBlockCustomResourceProvider::ErrorCode`. -/
inductive ErrorCode
  | kOk
  | kInvalid
  | kAlreadyExists
  | kNotFound
deriving DecidableEq, Repr

/-- The `name` of a resource, if it has one. -/
def resourceName? (resource : Value) : Option String :=
  resource.getIfDict.bind fun dict => DictValue.findString dict kNameField

def hasName (resource : Value) : Bool := (resourceName? resource).isSome

def isStringASCII (text : String) : Bool := text.toList.all fun c => c.toNat < 128

def endsWith (text ending : String) : Bool := ending.toList.isSuffixOf text.toList

def isValidResource (resource : Value) (isScriptlet : Bool) : Bool :=
  match resource.getIfDict, resourceName? resource with
  | some dict, some name =>
    if (DictValue.findString dict kContentField).isNone then false
    else if name.isEmpty || !isStringASCII name then false
    else
      match DictValue.findStringByDottedPath dict kMimeField with
      | none => false
      | some mime => !(isScriptlet && (mime != kAppJs || !endsWith name ".js"))
  | _, _ => false

def getResourceName (resource : Value) : String := (resourceName? resource).getD ""

/-- The place of the first resource of a name. -/
def findResource (resources : List Value) (name : String) : Option Nat :=
  resources.findIdx? fun resource => getResourceName resource == name

/-- What an operation does with the list it got: the list that it saves, if it does, and its status.
-/
abbrev ListOutcome := Option (List Value) × ErrorCode

def addResourceInternal (resource : Value) (resources : List Value) : ListOutcome :=
  match findResource resources (getResourceName resource) with
  | some _ => (none, .kAlreadyExists)
  | none => (some (resources ++ [resource]), .kOk)

def updateResourceInternal (oldName : String) (resource : Value) (resources : List Value) :
    ListOutcome :=
  match findResource resources oldName with
  | none => (none, .kNotFound)
  | some i =>
    let newName := getResourceName resource
    if oldName ≠ newName ∧ (findResource resources newName).isSome then (none, .kAlreadyExists)
    else (some (resources.set i resource), .kOk)

def removeResourceInternal (name : String) (resources : List Value) : ListOutcome :=
  match findResource resources name with
  | some i => (some (resources.eraseIdx i), .kOk)
  | none => (none, .kNotFound)

/-- The calls of the provider that can change the store. -/
inductive ResourceCall
  | addResource (key : String) (resource : Value)
  | updateResource (key : String) (oldName : String) (resource : Value)
  | removeResource (key : String) (name : String)
  | removeKey (key : String)
deriving DecidableEq, Repr

namespace ResourceCall

def key : ResourceCall → String
  | addResource key _ | updateResource key _ _ | removeResource key _ | removeKey key => key

/-- Whether a call is refused before the store is asked. -/
def invalid : ResourceCall → Bool
  | addResource key resource | updateResource key _ resource =>
    !isValidResource resource (key == kStorageScriptletsKey)
  | removeResource _ _ | removeKey _ => false

/-- What a call does with the list that the store replied.  `RemoveKey` asks for no list. -/
def onResources : ResourceCall → List Value → ListOutcome
  | addResource _ resource => addResourceInternal resource
  | updateResource _ oldName resource => updateResourceInternal oldName resource
  | removeResource _ name => removeResourceInternal name
  | removeKey _ => fun _ => (none, .kOk)

end ResourceCall

/-- The content of the value store. -/
abbrev ValueStore := String → Option Value

/-- The list that `GetCustomResources` makes of a reply. -/
def listOf (value : Option Value) : List Value := (value.bind Value.getIfList).getD []

/-- A task on the task runner of the store. -/
inductive StoreRequest
  | get (call : ResourceCall)
  | set (key : String) (resources : List Value)
  | remove (key : String)
deriving DecidableEq, Repr

/-- What a task does to the store. -/
def StoreRequest.apply (store : ValueStore) : StoreRequest → ValueStore
  | .get _ => store
  | .set key resources => Function.update store key (some (.list resources))
  | .remove key => Function.update store key none

/-- The reply to the `Get` of a call. -/
structure StoreReply where
  call : ResourceCall
  value : Option Value
deriving DecidableEq, Repr

/-- What the provider sets off besides. -/
inductive ResourceEffect
  /-- The observers are told. -/
  | customResourcesChanged
  /-- `ReloadResourcesAndNotify`. -/
  | reloadResources
deriving DecidableEq, Repr

/-- The provider with its store, the tasks and the replies that are under way, and the statuses that
were reported. -/
structure CustomResourceProvider where
  store : ValueStore
  requests : List StoreRequest := []
  replies : List StoreReply := []
  reported : List (ResourceCall × ErrorCode) := []
  effects : List ResourceEffect := []

namespace CustomResourceProvider

def report (s : CustomResourceProvider) (call : ResourceCall) (status : ErrorCode) :
    CustomResourceProvider :=
  { s with reported := s.reported ++ [(call, status)] }

/-- A write is posted to the store, the observers are told, and a reload is started. -/
def write (s : CustomResourceProvider) (request : StoreRequest) : CustomResourceProvider :=
  { s with
    requests := s.requests ++ [request]
    effects := s.effects ++ [.customResourcesChanged, .reloadResources] }

/-- `AddResource`, `UpdateResource`, `RemoveResource`, or `RemoveKey`. -/
def call (s : CustomResourceProvider) (call : ResourceCall) : CustomResourceProvider :=
  if call.invalid then s.report call .kInvalid
  else
    match call with
    | .removeKey key => (s.write (.remove key)).report call .kOk
    | _ => { s with requests := s.requests ++ [.get call] }

/-- The store runs its next task. -/
def execute (s : CustomResourceProvider) : CustomResourceProvider :=
  match s.requests with
  | [] => s
  | request :: rest =>
    { s with
      store := request.apply s.store
      requests := rest
      replies := match request with
        | .get call => s.replies ++ [⟨call, s.store call.key⟩]
        | _ => s.replies }

/-- The next reply of the store is handled, by `AddResourceInternal` or its like. -/
def handleReply (s : CustomResourceProvider) : CustomResourceProvider :=
  match s.replies with
  | [] => s
  | reply :: rest =>
    let s := { s with replies := rest }
    match reply.call.onResources (listOf reply.value) with
    | (some resources, status) =>
      (s.write (.set reply.call.key resources)).report reply.call status
    | (none, status) => s.report reply.call status

def init (store : ValueStore) : CustomResourceProvider := { store := store }

end CustomResourceProvider

inductive ResourceEvent
  | call (call : ResourceCall)
  | execute
  | handleReply
deriving DecidableEq, Repr

namespace CustomResourceProvider

def step (s : CustomResourceProvider) : ResourceEvent → CustomResourceProvider
  | .call c => s.call c
  | .execute => s.execute
  | .handleReply => s.handleReply

def enabled (s : CustomResourceProvider) : ResourceEvent → Prop
  | .call _ => True
  | .execute => s.requests ≠ []
  | .handleReply => s.replies ≠ []

instance (s : CustomResourceProvider) : ∀ e, Decidable (s.enabled e)
  | .call _ => inferInstanceAs (Decidable True)
  | .execute => inferInstanceAs (Decidable (¬s.requests = []))
  | .handleReply => inferInstanceAs (Decidable (¬s.replies = []))

def machine : Machine CustomResourceProvider ResourceEvent Empty where
  enabled := enabled
  step s e := .ok (s.step e)

instance (s : CustomResourceProvider) (e : ResourceEvent) : Decidable (machine.enabled s e) :=
  inferInstanceAs (Decidable (s.enabled e))

/-- Every call is completed, and everything is stored. -/
def Idle (s : CustomResourceProvider) : Prop := s.requests = [] ∧ s.replies = []

instance (s : CustomResourceProvider) : Decidable s.Idle :=
  inferInstanceAs (Decidable (s.requests = [] ∧ s.replies = []))

end CustomResourceProvider

end ChromiumAdblock
