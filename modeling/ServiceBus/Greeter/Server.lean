import ServiceBus.Bus.Desk
import ServiceBus.Greeter.Service

/-! # Serving and calling the greeter

`World.startGreeter` puts the greeter on the bus, all methods on one pool; `World.startGreet` calls
one of them. -/

namespace ServiceBus.Greeter

open Bus

/-- How a greeter is to be served. -/
structure ServerOptions where
  concurrentJobs : Nat := defaultConcurrentJobs
  /-- The spans that the server runs in. -/
  spans : List String := []
  /-- Whether every method waits at a gate. -/
  gated : Bool := false

/-- A call of a method with its input. -/
inductive Call where
  | sayHello (input : HelloRequest)
  | echo (input : EchoMessage)
  | fail (input : HelloRequest)
  | saveMetadata (input : Metadata)

/-- The method that is called. -/
def Call.method : Call → MethodId
  | sayHello _ => .sayHello
  | echo _ => .echo
  | fail _ => .fail
  | saveMetadata _ => .saveMetadata

end ServiceBus.Greeter

namespace ServiceBus.Bus.World

open Greeter

/-- Subscribes the endpoints of `methods` to a service that runs on a pool. -/
def openMethods (s : ServiceId) (context : Context) (handler : MethodId → Handler) (inst : String) :
    List MethodId → World → World × Except TransportError Unit
  | [], w => (w, .ok ())
  | m :: methods, w =>
    match w.services[s]? with
    | none => (w, .ok ())
    | some service =>
      let config := (EndpointConfig.mk m.name (m.subject inst) []).withDescription m.description
      match w.openEndpoint s service context config (handler m) with
      | .error e => (w, .error e)
      | .ok w => openMethods s context handler inst methods w

/-- Puts the greeter on the bus under a name. -/
def startGreeter (w : World) (name : String) (config : ServiceConfig) (options : ServerOptions)
    (context? : Option String) : World × Except TransportError Unit :=
  let (w, context) := w.contextOf context?
  let s := w.services.length
  let pool := w.pools.length
  let store := w.stores.length
  match w.openService config with
  | .error e => (w, .error e)
  | .ok w =>
    let w := { w.openPool options.concurrentJobs with stores := w.stores ++ [[]] }
    let impl := if options.gated then gated else remembering store
    let handler (m : MethodId) : Handler :=
      { pool? := some pool, script := impl.script options.spans config.name m }
    match openMethods s context handler config.name MethodId.all w with
    | (w, .error e) => (w, .error e)
    | (w, .ok ()) =>
      ({ w.pairService s pool with
          desk.services := w.desk.services.insert name s,
          desk.stores := w.desk.stores.insert name store }, .ok ())

/-- What the greeter of a name has stored. -/
def saved? (w : World) (name : String) : Option (List Metadata) := do
  w.stores[← w.desk.stores[name]?]?

/-- Calls a method of the greeter that is served as `inst`. -/
def startGreet (w : World) (task inst : String) (spans : List String) (context? : Option String)
    (call : Greeter.Call) : World :=
  let m := call.method
  let spans := spans ++ [m.span]
  let subject := m.subject inst
  match call with
  | .sayHello input => w.startCall task none context? spans subject input .greeted
  | .echo input => w.startCall task none context? spans subject input .echoed
  | .fail input => w.startCall task none context? spans subject input .greeted
  | .saveMetadata input => w.startCall task none context? spans subject input .greeted

end ServiceBus.Bus.World
