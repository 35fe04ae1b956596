import ClusterAdmin.Failure.BrokerCode
import ClusterAdmin.Failure.Classifier

namespace ClusterAdmin

/-- One link in the chain of causes: a failure in its own right, or some other error's text. -/
inductive Cause where
  | failure (category : Category) (message : String) (retryable : Bool)
  | plain (text : String)
  deriving DecidableEq, Repr

def Cause.text : Cause → String
  | .failure _ message _ => message
  | .plain text => text

/-- A failure of some category. It keeps the texts of what caused it. -/
structure Failure where
  category : Category
  message : String
  retryable : Bool
  /-- The nearest cause first. -/
  causes : List Cause
  deriving DecidableEq, Repr

namespace Failure

/-- A failure without a cause, retryable if its category is. -/
def new (category : Category) (message : String) : Failure :=
  ⟨category, message, category.retryable, []⟩

def transient (message : String) : Failure := new .transient message

def auth (message : String) : Failure := new .auth message

def invalid (message : String) : Failure := new .invalid message

def notFound (message : String) : Failure := new .notFound message

/-- The failure as a link in a longer chain. -/
def toCause (f : Failure) : Cause := .failure f.category f.message f.retryable

/-- The same failure with a foreign error as all that caused it. -/
def causedBy (f : Failure) (text : String) : Failure := { f with causes := [.plain text] }

/-- The failure of an operation on a resource, which may have no name. It keeps the category and
whether to try again, and has the failure itself for its cause. -/
def inContext (f : Failure) (operation resource : String) : Failure :=
  { f with
    message :=
      if resource.isEmpty then s!"{operation}: {f.message}"
      else s!"{operation} '{resource}': {f.message}"
    causes := f.toCause :: f.causes }

/-- The category of an error by its own text and those of its causes: the first link decides that
is a failure already or whose wording suggests a category. -/
def categoryOf : List Cause → Category
  | [] => .unknown
  | .failure category _ _ :: _ => category
  | .plain text :: rest => (Classifier.category? (Classifier.normalize text)).getD (categoryOf rest)

/-- An error, given with its causes, as a failure. What is one already stays as it is. -/
def ofError : List Cause → Failure
  | [] => new .unknown ""
  | .failure category message retryable :: rest => ⟨category, message, retryable, rest⟩
  | .plain text :: rest =>
    { new (categoryOf (.plain text :: rest)) text with causes := .plain text :: rest }

/-- The failure that a broker reports by code, with the broker's own message if it sent one.
There is none for code zero. -/
def ofBroker? (code : Int16) (message : Option String) : Option Failure :=
  if code = 0 then none
  else
    let said := message.filter (!·.isEmpty)
    match BrokerCode.ofCode? code with
    | some known =>
      let text := s!"{known.name}: {said.getD known.description}"
      some { new known.category text with retryable := known.category.retryable || known.retriable }
    | none =>
      let text := said.getD s!"Kafka error code {code.toInt}"
      some (new (Classifier.ofMessage text) text)

/-- How an input or output call failed, as far as a category hangs on it. -/
inductive IoKind where
  | connectionRefused
  | connectionReset
  | connectionAborted
  | notConnected
  | brokenPipe
  | timedOut
  | unexpectedEof
  | addrNotAvailable
  | interrupted
  | permissionDenied
  | notFound
  | invalidInput
  | invalidData
  | other
  deriving DecidableEq, Repr

/-- The category that the kind alone decides. -/
def IoKind.category? : IoKind → Option Category
  | .connectionRefused | .connectionReset | .connectionAborted | .notConnected | .brokenPipe
  | .timedOut | .unexpectedEof | .addrNotAvailable | .interrupted => some .transient
  | .permissionDenied => some .auth
  | .notFound => some .notFound
  | .invalidInput | .invalidData => some .invalid
  | .other => none

/-- An input or output error. -/
structure IoError where
  kind : IoKind
  text : String
  deriving DecidableEq, Repr

def ofIo (e : IoError) : Failure :=
  (new (e.kind.category?.getD (Classifier.ofMessage e.text)) s!"I/O error: {e.text}").causedBy e.text

def isNotFound (f : Failure) : Bool := f.category = .notFound

def isAuth (f : Failure) : Bool := f.category = .auth

@[simp] theorem category_inContext (f : Failure) (o r : String) :
    (f.inContext o r).category = f.category := rfl

@[simp] theorem retryable_inContext (f : Failure) (o r : String) :
    (f.inContext o r).retryable = f.retryable := rfl

@[simp] theorem causes_inContext (f : Failure) (o r : String) :
    (f.inContext o r).causes = f.toCause :: f.causes := rfl

end Failure

end ClusterAdmin
