import ServiceBus.Proofs.World.Errand

/-! # Every request is settled by one reply

A request that a handler begins with gets one reply, whatever comes of it and of the reply, and the
implementation is invoked for it or not.

* `World.Fits.extends`: what was done for a request goes on to what its script may do.
* `World.settled_once`: the script of a method and the refusal of a closed pool settle a request,
  and so does every run in which the request is handled. -/

namespace ServiceBus.Bus

namespace World

variable {In Out : Type} {w v : World} {id : Nat} {handler : Handler} {context : Context}
  {request : Request} {e : Errand} {acts : List Act} {closed : Prop} {m : Method In Out}
  {address : ReplyAddress}

/-- What was done for a request is the beginning of what a script may do that is run on it. -/
theorem Fits.extends (h : w.Fits handler context request closed e acts) :
    ∃ admitted rest crashed, (handler.scriptIf admitted request).Does request (acts ++ rest) crashed := by
  have hbegin : ∃ admitted rest crashed,
      (handler.scriptIf admitted request).Does request ([] ++ rest) crashed := by
    obtain ⟨rest, crashed, hdoes, -⟩ :=
      Script.exists_does (fun _ => .ok ()) (handler.scriptIf true request) request
    exact ⟨true, rest, crashed, hdoes⟩
  cases h with
  | offered | waiting | queued => exact hbegin
  | running id admitted run acts hand judges does =>
    obtain ⟨rest, crashed, hdoes, -⟩ := run.script.exists_does (fun _ => .ok ()) run.request
    exact ⟨admitted, rest, crashed, does rest crashed hdoes⟩
  | done admitted crashed acts judges does => exact ⟨admitted, [], crashed, by simpa using does⟩

/-- Whatever script is run on a request, it settles it. -/
theorem settles_scriptIf {admitted crashed : Bool} (served : handler.script = m.script)
    (fresh : request.replyTo? = some address) (finishes : ∀ input, (m.serve input).Finishes)
    (h : (handler.scriptIf admitted request).Does request acts crashed) :
    crashed = false ∧ m.Settles request admitted acts := by
  cases admitted with
  | true => exact m.settles_script fresh finishes (served ▸ h)
  | false => exact m.settles_reject fresh h

/-- **A request that is handled gets one reply.** Take a method, a handler that serves it, with a
pool or without one, and a request with an address for its reply. The implementation does not crash.

* Whatever the script of the handler does with the request, or the refusal of a closed pool, it does
  not crash, and it sends one reply: a failure to decode, of the implementation, to encode or to be
  admitted is told in the two error headers without a payload, and otherwise the reply is the output
  without headers. If the implementation notes that it is invoked, the note is there if and only if
  the request was admitted and could be decoded.
* It does so whatever comes of what it sends.
* In every run from the moment at which a task begins to handle the request it can be followed. No
  second reply is sent. When it is done, what was done for it settles it. A handler without a pool
  refuses no request, a pool refuses none before its closing has begun, and one that was declared
  closed at the beginning refuses it. -/
theorem settled_once (served : handler.script = m.script) (fresh : request.replyTo? = some address)
    (finishes : ∀ input, (m.serve input).Finishes) :
    (∀ admitted acts crashed, (handler.scriptIf admitted request).Does request acts crashed →
      crashed = false ∧ m.Settles request admitted acts ∧
      (∃ done outcome result, m.Yields request admitted done outcome ∧
        sends acts = [(request.replyOf outcome, result)]) ∧
      ∀ n (work : In → Work Out), (∀ input, m.serve input = .note n (work input)) →
        (.noted n ∈ acts ↔ admitted = true ∧ ∃ input, m.decode request.payload = .ok input)) ∧
    (∀ admitted (respond : Message → Except TransportError Unit), ∃ acts done outcome,
      (handler.scriptIf admitted request).Does request acts false ∧
      m.Yields request admitted done outcome ∧
      sends acts = [(request.replyOf outcome, respond (request.replyOf outcome))]) ∧
    ∀ (v w : World) (id : TaskId), Steps {} v → v.Handles id (handler.begin context request) →
      Steps v w → (∃ e acts, Pursues v (handler.errand id) w e acts) ∧
        ∀ e acts, Pursues v (handler.errand id) w e acts →
          (∃ admitted rest, m.Settles request admitted (acts ++ rest)) ∧ (sends acts).length ≤ 1 ∧
          ∀ admitted, e = .done admitted → m.Settles request admitted acts ∧
            (sends acts).length = 1 ∧ w.Judges handler (v.Declines handler) admitted := by
  have hsettles : ∀ {admitted acts crashed},
      (handler.scriptIf admitted request).Does request acts crashed →
        crashed = false ∧ m.Settles request admitted acts := settles_scriptIf served fresh finishes
  have hone : ∀ {admitted acts}, m.Settles request admitted acts → (sends acts).length = 1 := by
    intro admitted acts hsettle
    obtain ⟨done, outcome, result, -, hsends⟩ := hsettle.sends_eq
    rw [hsends]
    rfl
  refine ⟨fun admitted acts crashed hdoes => ?_, fun admitted respond => ?_,
    fun v w id hbefore hbegin hafter =>
      ⟨exists_pursues hbefore hbegin hafter, fun e acts hpursues => ?_⟩⟩
  · obtain ⟨hcrashed, hsettle⟩ := hsettles hdoes
    exact ⟨hcrashed, hsettle, hsettle.sends_eq, fun n work hserve => hsettle.noted_iff hserve⟩
  · obtain ⟨acts, crashed, hdoes, hrespond⟩ :=
      (handler.scriptIf admitted request).exists_does respond request
    obtain ⟨rfl, hsettle⟩ := hsettles hdoes
    obtain ⟨done, outcome, result, hyields, hsends⟩ := hsettle.sends_eq
    refine ⟨acts, done, outcome, hdoes, hyields, ?_⟩
    -- what comes of the one reply is what the responder says
    have hresult : result = respond (request.replyOf outcome) :=
      hrespond (_, result) (hsends ▸ List.mem_singleton_self _)
    rw [hsends, hresult]
  · have hfits := hpursues.fits hbefore hbegin
    obtain ⟨admitted, rest, crashed, hdoes⟩ := hfits.extends
    have hsettle := (hsettles hdoes).2
    refine ⟨⟨admitted, rest, hsettle⟩, ?_, fun admitted hdone => ?_⟩
    · have hall := hone hsettle
      rw [sends_append, List.length_append] at hall
      omega
    · subst hdone
      cases hfits with
      | done _ crashed _ judges does =>
        have hend := (hsettles does).2
        exact ⟨hend, hone hend, judges⟩

/-! ### A request that a closed pool refuses -/

/-- A method without data whose implementation fails without a reason. -/
def failing : Method Unit Unit where
  subject := "echo"
  spans := []
  decode := fun _ => .ok ()
  encode := fun _ => .ok []
  serve := fun _ => .fail ""

/-- A handler that serves it on a pool. -/
def pooled : Handler := { pool? := some 0, script := failing.script }

/-- A request whose reply cannot be sent. -/
def unreachable : Request := { subject := "echo", replyTo? := some .broken }

/-- A closed pool and a task that begins to handle the request. -/
def turnedAway : World :=
  ((({} : World).openPool 1).setPool 0 (WorkerPool.new 1).close).spawn
    (.handle (pooled.begin { scope := 0 } unreachable))

/-- There is a run to the beginning. -/
theorem steps_turnedAway : Steps {} turnedAway := by
  have h : Steps {} (({} : World).openPool 1) := .tail .refl (.openPool 1)
  have h := h.tail (.closePool 0 rfl)
  refine h.tail (.start (.handle (pooled.begin { scope := 0 } unreachable)) none ?_)
  rintro ⟨c, hc⟩
  cases hc

/-- The task has told the caller, in vain. -/
def turnedBack : World := (turnedAway.turns [1, 1, 1, 1, 1]).get (by decide)

/-- A reply that tells a failure for this reason. -/
def failedFor (reason : String) : Message where
  subject := "echo"
  headers := [("Nats-Service-Error", reason), ("Nats-Service-Error-Code", "500")]
  payload := []

/-- A request that a closed pool refuses is settled by one attempt to reply, although it fails. Had it
been admitted, its reply would have told that the implementation gives no reason. -/
theorem settled_once_of_refused :
    (∃ acts result, Pursues turnedAway (pooled.errand 1) turnedBack (.done false) acts ∧
      failing.Settles unreachable false acts ∧
      sends acts = [(failedFor "worker pool closed", result)]) ∧
    ∀ acts crashed, (pooled.scriptIf true unreachable).Does unreachable acts crashed →
      ∃ result, sends acts = [(failedFor "unspecified service error", result)] := by
  have hbegin : turnedAway.Handles 1 (pooled.begin { scope := 0 } unreachable) := Or.inl rfl
  obtain ⟨hdoes, -, hruns⟩ := settled_once (m := failing)
    (show pooled.script = failing.script from rfl)
    (show unreachable.replyTo? = some .broken from rfl) fun _ => trivial
  obtain ⟨⟨e, acts, hpursues⟩, hall⟩ := hruns turnedAway turnedBack 1 steps_turnedAway hbegin
    (steps_turns [1, 1, 1, 1, 1] (Option.some_get (by decide)).symm)
  have hfits := hpursues.fits steps_turnedAway hbegin
  -- nobody has anything in hand and nothing is queued, so the request is done with
  have hhand : ∀ id : Nat, turnedBack.hand? id = none
    | 0 | 1 | _ + 2 => rfl
  have hdone : e = .done false := by
    cases hfits with
    | offered id P bound hand => cases (hhand id).symm.trans hand.hand
    | waiting id P ticket p bound hand => cases (hhand id).symm.trans hand.hand
    | queued P ticket p hp mem opened => exact absurd ⟨0, _, rfl, rfl, rfl⟩ opened
    | running id admitted run acts hand => cases (hhand id).symm.trans hand
    | done admitted crashed acts judges =>
      cases admitted with
      | true => exact absurd ⟨0, _, rfl, rfl, rfl⟩ judges
      | false => rfl
  subst hdone
  obtain ⟨-, -, hsettled⟩ := hall _ acts hpursues
  obtain ⟨hsettles, -, -⟩ := hsettled false rfl
  obtain ⟨done, outcome, result, yields, hsends⟩ := hsettles.sends_eq
  -- a request that was not admitted comes to nothing else
  cases yields with
  | refused =>
    refine ⟨⟨acts, result, hpursues, hsettles, hsends⟩, fun acts crashed hadmitted => ?_⟩
    obtain ⟨-, -, ⟨done, outcome, result, yields, hsends⟩, -⟩ := hdoes true acts crashed hadmitted
    refine ⟨result, hsends.trans ?_⟩
    cases yields with
    | undecoded e decoded => cases decoded
    | failed input done reason decoded invoked =>
      cases invoked
      rfl
    | unencoded input done output e decoded invoked => cases invoked
    | answered input done output payload decoded invoked => cases invoked

end World

end ServiceBus.Bus
