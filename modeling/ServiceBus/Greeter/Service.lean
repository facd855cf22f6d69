import ServiceBus.Name.Words
import ServiceBus.Subject
import ServiceBus.Bus.Codec
import ServiceBus.Bus.Method
import ServiceBus.Greeter.Message

/-! # The greeter

A service of four methods. `Implementation` is what serves them: `remembering` greets and stores the
metadata it is given, and `gated` waits at a gate in every method, so that one can watch its calls. -/

namespace ServiceBus.Greeter

open Bus

/-- The methods of the greeter. -/
inductive MethodId where
  | sayHello
  | echo
  | fail
  | saveMetadata
deriving DecidableEq, Repr

namespace MethodId

/-- All methods, in the order of their declaration. -/
def all : List MethodId := [.sayHello, .echo, .fail, .saveMetadata]

/-- The declared name. -/
def name : MethodId → String
  | sayHello => "SayHello"
  | echo => "Echo"
  | fail => "Fail"
  | saveMetadata => "SaveMetadata"

/-- What the method is for. -/
def description : MethodId → String
  | sayHello => "Returns a greeting for the given name."
  | echo => "Returns the request unchanged."
  | fail => "Always fails."
  | saveMetadata => "Stores caller metadata."

/-- The name of the spans of the method. -/
def span (m : MethodId) : String := Name.snake m.name

/-- The subject that the method is served on by an instance. -/
def subject (m : MethodId) (inst : String) : String :=
  ServiceBus.subject "Greeter" m.name (some inst)

end MethodId

/-- What serves the methods. -/
structure Implementation where
  sayHello : HelloRequest → Work HelloReply
  echo : EchoMessage → Work EchoMessage
  fail : HelloRequest → Work HelloReply
  saveMetadata : Metadata → Work HelloReply

/-- Greets, echoes, fails, and stores metadata in `store`. -/
def remembering (store : StoreId) : Implementation where
  sayHello request :=
    .report { level := .debug, message := "greeting", fields := [("name", .text request.name)] }
      (.ok { message := "Hello, " ++ request.name ++ "!" })
  echo request := .ok request
  fail _ := .fail "boom"
  saveMetadata request :=
    .keep store request.key request.value (.ok { message := "saved " ++ request.key })

/-- Notes the start, waits at the gate of `payload`, and notes what became of the context. -/
def watched {β : Type} (label : String) (payload : Bytes) (next : Work β) : Work β :=
  .note (.started label payload) <| .pass payload <| .inspect fun e? =>
    .note (.ended label payload (.passed e?)) next

/-- Waits at the gate of the name or text, then replies it or fails with it. -/
def gated : Implementation where
  sayHello request := watched "say_hello" (Text.utf8 request.name) (.ok { message := request.name })
  echo request := watched "echo" (Text.utf8 request.text) (.ok request)
  fail request := watched "fail" (Text.utf8 request.name) (.fail request.name)
  saveMetadata _ := .crash

/-- A method as it is served, with the codec of services. -/
def method {In Out : Type} [Wire.WireMessage In] [Wire.WireMessage Out] (spans : List String)
    (subject : String) (serve : In → Work Out) : Method In Out :=
  { subject, spans, decode, encode, serve }

namespace Implementation

/-- What the endpoint of a method does with a request; `spans` are those that the server runs in. -/
def script (impl : Implementation) (spans : List String) (inst : String) (m : MethodId)
    (request : Request) : Script :=
  let spans := spans ++ [m.span]
  let subject := m.subject inst
  match m with
  | .sayHello => (method spans subject impl.sayHello).script request
  | .echo => (method spans subject impl.echo).script request
  | .fail => (method spans subject impl.fail).script request
  | .saveMetadata => (method spans subject impl.saveMetadata).script request

end Implementation

end ServiceBus.Greeter
