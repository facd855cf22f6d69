import ServiceBus.Proofs.Bus.Answers

/-! # What scripts do

A script that is run on a request does one thing after another. What it sees of the world and what
comes of its replies is left open here, so whatever becomes of a script is among what it may do.

* `Act`, `sends`: one thing that a script does, and the replies that are sent among many.
* `Script.Does`: all that a script may do up to its end. There is something, whatever comes of its
  replies (`Script.exists_does`).
* `Work.Does`: the same for work, which sends nothing. What a script does that contains work begins
  with what the work does (`Work.Finishes.does_toScript`).
* `HandlerError.told`, `Request.replyOf`: the reply that tells what came of a request.
* `Method.Yields`, `Method.Settles`: what comes of a request at a method, and what is done for it.
* `Method.settles_script`, `Method.settles_reject`: a request is settled by the script of a method,
  and by the refusal of a pool that does not take it. -/

namespace ServiceBus.Bus

/-! ### Acts -/

/-- One thing that a script does. -/
inductive Act where
  | noted (n : Note)
  | reported (r : Log.Record)
  /-- A reply was sent, and this came of it. -/
  | sent (reply : Message) (result : Except TransportError Unit)
  | passed (gate : Bytes)
  | paused (ms : Time)
  /-- It saw whether the context was over. -/
  | saw (e? : Option ContextError)
  | kept (store : StoreId) (key value : String)

/-- The reply that is sent in an act, if any, and what came of it. -/
def Act.send? : Act → Option (Message × Except TransportError Unit)
  | .sent reply result => some (reply, result)
  | .noted _ | .reported _ | .passed _ | .paused _ | .saw _ | .kept .. => none

/-- The replies that are sent, and what came of them. -/
def sends (acts : List Act) : List (Message × Except TransportError Unit) := acts.filterMap Act.send?

@[simp] theorem sends_nil : sends [] = [] := rfl

/-- A reply that is sent comes before those that follow. -/
@[simp] theorem sends_sent (reply : Message) (result : Except TransportError Unit) (acts : List Act) :
    sends (.sent reply result :: acts) = (reply, result) :: sends acts := rfl

@[simp] theorem sends_append (acts acts' : List Act) :
    sends (acts ++ acts') = sends acts ++ sends acts' := List.filterMap_append

/-- Reports send nothing. -/
@[simp] theorem sends_reported (records : List Log.Record) : sends (records.map .reported) = [] :=
  List.filterMap_eq_nil_iff.mpr fun act hact => by
    obtain ⟨r, -, rfl⟩ := List.mem_map.mp hact
    rfl

/-! ### Scripts -/

/-- **All that a script may do** that is run on a request, up to its end, and whether it ends in a
crash. The first reply goes to the address of the request, and whatever comes of it, no other is
sent. -/
inductive Script.Does : Script → Request → List Act → Bool → Prop
  | stop (r : Request) : Does .stop r [] false
  | crash (r : Request) : Does .crash r [] true
  | note {n : Note} {next : Script} {r : Request} {acts : List Act} {crashed : Bool}
      (h : Does next r acts crashed) : Does (.note n next) r (.noted n :: acts) crashed
  | report {record : Log.Record} {next : Script} {r : Request} {acts : List Act} {crashed : Bool}
      (h : Does next r acts crashed) : Does (.report record next) r (.reported record :: acts) crashed
  | reply {headers : Headers} {payload : Bytes} {next : Except TransportError Unit → Script}
      {r : Request} {acts : List Act} {crashed : Bool} (address : ReplyAddress)
      (fresh : r.replyTo? = some address) (result : Except TransportError Unit)
      (h : Does (next result) { r with replyTo? := none } acts crashed) :
      Does (.reply headers payload next) r (.sent (r.reply headers payload) result :: acts) crashed
  /-- There was a reply before. -/
  | again {headers : Headers} {payload : Bytes} {next : Except TransportError Unit → Script}
      {r : Request} {acts : List Act} {crashed : Bool} (responded : r.replyTo? = none)
      (h : Does (next (.error .alreadyResponded)) r acts crashed) :
      Does (.reply headers payload next) r acts crashed
  | pass {gate : Bytes} {next : Script} {r : Request} {acts : List Act} {crashed : Bool}
      (h : Does next r acts crashed) : Does (.pass gate next) r (.passed gate :: acts) crashed
  | pause {ms : Time} {next : Script} {r : Request} {acts : List Act} {crashed : Bool}
      (h : Does next r acts crashed) : Does (.pause ms next) r (.paused ms :: acts) crashed
  | awaitEnd {next : ContextError → Script} {r : Request} {acts : List Act} {crashed : Bool}
      (e : ContextError) (h : Does (next e) r acts crashed) :
      Does (.awaitEnd next) r (.saw (some e) :: acts) crashed
  | inspect {next : Option ContextError → Script} {r : Request} {acts : List Act} {crashed : Bool}
      (e? : Option ContextError) (h : Does (next e?) r acts crashed) :
      Does (.inspect next) r (.saw e? :: acts) crashed
  | keep {store : StoreId} {key value : String} {next : Script} {r : Request} {acts : List Act}
      {crashed : Bool} (h : Does next r acts crashed) :
      Does (.keep store key value next) r (.kept store key value :: acts) crashed

/-- **A script does something, whatever comes of its replies.** -/
theorem Script.exists_does (respond : Message → Except TransportError Unit) (s : Script)
    (r : Request) : ∃ acts crashed, s.Does r acts crashed ∧ ∀ e ∈ sends acts, e.2 = respond e.1 := by
  -- the request changes with the first reply
  induction s generalizing r with
  | stop => exact ⟨[], false, .stop r, by simp⟩
  | crash => exact ⟨[], true, .crash r, by simp⟩
  | note n next ih =>
    obtain ⟨acts, crashed, h, hsends⟩ := ih r
    exact ⟨_, crashed, .note h, hsends⟩
  | report record next ih =>
    obtain ⟨acts, crashed, h, hsends⟩ := ih r
    exact ⟨_, crashed, .report h, hsends⟩
  | reply headers payload next ih =>
    cases hr : r.replyTo? with
    | none =>
      obtain ⟨acts, crashed, h, hsends⟩ := ih (.error .alreadyResponded) r
      exact ⟨acts, crashed, .again hr h, hsends⟩
    | some address =>
      obtain ⟨acts, crashed, h, hsends⟩ :=
        ih (respond (r.reply headers payload)) { r with replyTo? := none }
      refine ⟨_, crashed, .reply address hr _ h, fun e he => ?_⟩
      rcases List.mem_cons.mp he with rfl | he
      · rfl
      · exact hsends e he
  | pass gate next ih =>
    obtain ⟨acts, crashed, h, hsends⟩ := ih r
    exact ⟨_, crashed, .pass h, hsends⟩
  | pause ms next ih =>
    obtain ⟨acts, crashed, h, hsends⟩ := ih r
    exact ⟨_, crashed, .pause h, hsends⟩
  | awaitEnd next ih =>
    obtain ⟨acts, crashed, h, hsends⟩ := ih .cancelled r
    exact ⟨_, crashed, .awaitEnd .cancelled h, hsends⟩
  | inspect next ih =>
    obtain ⟨acts, crashed, h, hsends⟩ := ih none r
    exact ⟨_, crashed, .inspect none h, hsends⟩
  | keep store key value next ih =>
    obtain ⟨acts, crashed, h, hsends⟩ := ih r
    exact ⟨_, crashed, .keep h, hsends⟩

/-- A failure is told the caller in one reply, and it is reported if that cannot be sent. -/
theorem Script.does_signalError {spans : List String} {subject : String} {e : HandlerError}
    {r : Request} {acts : List Act} {crashed : Bool} {address : ReplyAddress}
    (fresh : r.replyTo? = some address)
    (h : (signalError spans subject e .stop).Does r acts crashed) :
    crashed = false ∧ ∃ (result : Except TransportError Unit) (late : List Log.Record),
      acts = .sent (r.reply (errorHeaders e.reason) []) result :: late.map .reported := by
  cases h with
  | again responded =>
    rw [fresh] at responded
    cases responded
  | reply _ _ result h =>
    cases result with
    | ok =>
      cases h
      exact ⟨rfl, _, [], rfl⟩
    | error sendError =>
      cases h with
      | report h =>
        cases h
        exact ⟨rfl, _, [e.unsent spans subject sendError], rfl⟩

/-- After a reply a failure is reported only. -/
theorem Script.does_signalError_again {spans : List String} {subject : String} {e : HandlerError}
    {r : Request} {acts : List Act} {crashed : Bool} (responded : r.replyTo? = none)
    (h : (signalError spans subject e .stop).Does r acts crashed) :
    crashed = false ∧ acts = [.reported (e.unsent spans subject .alreadyResponded)] := by
  cases h with
  | reply _ fresh =>
    rw [responded] at fresh
    cases fresh
  | again _ h =>
    cases h with
    | report h =>
      cases h
      exact ⟨rfl, rfl⟩

/-! ### Work -/

namespace Work

variable {β : Type} {spans : List String} {work : Work β} {acts : List Act}

/-- **All that work may do** inside some spans, and its result, which is none if it crashes. -/
inductive Does (spans : List String) : Work β → List Act → Option (Except String β) → Prop
  | finish (result : Except String β) : Does spans (.finish result) [] (some result)
  | crash : Does spans .crash [] none
  | note {n : Note} {w : Work β} {acts : List Act} {result? : Option (Except String β)}
      (h : Does spans w acts result?) : Does spans (.note n w) (.noted n :: acts) result?
  | report {record : Log.Record} {w : Work β} {acts : List Act} {result? : Option (Except String β)}
      (h : Does spans w acts result?) :
      Does spans (.report record w) (.reported (record.within spans) :: acts) result?
  | pass {gate : Bytes} {w : Work β} {acts : List Act} {result? : Option (Except String β)}
      (h : Does spans w acts result?) : Does spans (.pass gate w) (.passed gate :: acts) result?
  | inspect {w : Option ContextError → Work β} {acts : List Act}
      {result? : Option (Except String β)} (e? : Option ContextError)
      (h : Does spans (w e?) acts result?) : Does spans (.inspect w) (.saw e? :: acts) result?
  | keep {store : StoreId} {key value : String} {w : Work β} {acts : List Act}
      {result? : Option (Except String β)} (h : Does spans w acts result?) :
      Does spans (.keep store key value w) (.kept store key value :: acts) result?

/-- Whether work comes to a result, whatever it sees of the context. -/
def Finishes : Work β → Prop
  | finish _ => True
  | crash => False
  | note _ w | report _ w | pass _ w | keep _ _ _ w => w.Finishes
  | inspect w => ∀ e?, (w e?).Finishes

/-- Work sends nothing. -/
theorem Does.sends_eq_nil {result? : Option (Except String β)} (h : work.Does spans acts result?) :
    sends acts = [] := by
  induction h with
  | finish | crash => rfl
  | note _ ih | report _ ih | pass _ ih | inspect _ _ ih | keep _ ih => exact ih

/-- **A script that contains work** does what the work does, and then what is done with its result. -/
theorem Finishes.does_toScript {next : Except String β → Script} {r : Request} {crashed : Bool}
    (hwork : work.Finishes) (h : (work.toScript spans next).Does r acts crashed) :
    ∃ done result after, work.Does spans done (some result) ∧ (next result).Does r after crashed ∧
      acts = done ++ after := by
  induction work generalizing acts with
  | finish result => exact ⟨[], result, acts, .finish result, h, rfl⟩
  | crash => exact absurd hwork fun h => h
  | note n w ih =>
    cases h with
    | note h =>
      obtain ⟨done, result, after, hdone, hafter, rfl⟩ := ih hwork h
      exact ⟨_, result, after, .note hdone, hafter, rfl⟩
  | report record w ih =>
    cases h with
    | report h =>
      obtain ⟨done, result, after, hdone, hafter, rfl⟩ := ih hwork h
      exact ⟨_, result, after, .report hdone, hafter, rfl⟩
  | pass gate w ih =>
    cases h with
    | pass h =>
      obtain ⟨done, result, after, hdone, hafter, rfl⟩ := ih hwork h
      exact ⟨_, result, after, .pass hdone, hafter, rfl⟩
  | inspect w ih =>
    cases h with
    | inspect e? h =>
      obtain ⟨done, result, after, hdone, hafter, rfl⟩ := ih e? (hwork e?) h
      exact ⟨_, result, after, .inspect e? hdone, hafter, rfl⟩
  | keep store key value w ih =>
    cases h with
    | keep h =>
      obtain ⟨done, result, after, hdone, hafter, rfl⟩ := ih hwork h
      exact ⟨_, result, after, .keep hdone, hafter, rfl⟩

end Work

/-! ### Methods -/

/-- What is told of a failure: the stage that failed, with its cause; the service tells its own reason,
if it has one. -/
def HandlerError.told : HandlerError → String
  | .decode (.decode cause) => "decoding request: decode error: " ++ cause
  | .decode (.encode cause) => "decoding request: encode error: " ++ cause
  | .invoke reason => if reason = "" then "unspecified service error" else reason
  | .encode (.encode cause) => "encoding response: encode error: " ++ cause
  | .encode (.decode cause) => "encoding response: decode error: " ++ cause
  | .reply cause => "sending response: " ++ cause.message
  | .poolClosed => "worker pool closed"

/-- The reason of a failure that has a wording. -/
theorem HandlerError.reason_of_message {e : HandlerError} {s : String} (h : e.message = s)
    (hne : s ≠ "") : e.reason = s := by
  subst h
  exact if_neg fun hempty => hne (String.isEmpty_iff.mp hempty)

/-- The reason that is sent is what is told of a failure. -/
theorem HandlerError.reason_eq_told (e : HandlerError) : e.reason = e.told := by
  have hstage : ∀ {e : HandlerError} (stage kind cause : String), stage ≠ "" →
      e.message = stage ++ (kind ++ cause) → e.reason = stage ++ kind ++ cause := by
    intro e stage kind cause hne h
    rw [reason_of_message h (by simp [hne]), String.append_assoc]
  -- Only the service itself may give no reason.
  cases e with
  | decode e =>
    cases e with
    | decode cause => exact hstage "decoding request: " "decode error: " cause (by decide) rfl
    | encode cause => exact hstage "decoding request: " "encode error: " cause (by decide) rfl
  | invoke reason => exact reason_invoke reason
  | encode e =>
    cases e with
    | decode cause => exact hstage "encoding response: " "decode error: " cause (by decide) rfl
    | encode cause => exact hstage "encoding response: " "encode error: " cause (by decide) rfl
  | reply cause =>
    have hne : "sending response: " ++ cause.message ≠ "" := by simp
    exact reason_of_message rfl hne
  | poolClosed => exact reason_of_message rfl (by decide)
/-- The reply that tells what came of a request: a failure in two headers, or an output. -/
def Request.replyOf (r : Request) : Except HandlerError Bytes → Message
  | .error e =>
    { subject := r.subject,
      headers := [("Nats-Service-Error", e.told), ("Nats-Service-Error-Code", "500")] }
  | .ok payload => { subject := r.subject, payload }

/-- A failure is told in the headers that report it. -/
theorem Request.replyOf_error (r : Request) (e : HandlerError) :
    r.replyOf (.error e) = r.reply (errorHeaders e.reason) [] := by
  rw [replyOf, errorHeaders_eq, e.reason_eq_told]
  rfl

namespace Method

variable {In Out : Type} {m : Method In Out} {request : Request} {admitted : Bool}
  {acts done : List Act} {crashed : Bool} {address : ReplyAddress}

/-- **What comes of a request at a method**, and what the implementation does for it. It is invoked
if and only if the pool admitted the request, if there is one, and the request could be decoded. -/
inductive Yields (m : Method In Out) (request : Request) :
    (admitted : Bool) → (done : List Act) → Except HandlerError Bytes → Prop
  | refused : Yields m request false [] (.error .poolClosed)
  | undecoded (e : CodecError) (decoded : m.decode request.payload = .error e) :
      Yields m request true [] (.error (.decode e))
  | failed (input : In) (done : List Act) (reason : String)
      (decoded : m.decode request.payload = .ok input)
      (invoked : (m.serve input).Does m.spans done (some (.error reason))) :
      Yields m request true done (.error (.invoke reason))
  | unencoded (input : In) (done : List Act) (output : Out) (e : CodecError)
      (decoded : m.decode request.payload = .ok input)
      (invoked : (m.serve input).Does m.spans done (some (.ok output)))
      (encoded : m.encode output = .error e) : Yields m request true done (.error (.encode e))
  | answered (input : In) (done : List Act) (output : Out) (payload : Bytes)
      (decoded : m.decode request.payload = .ok input)
      (invoked : (m.serve input).Does m.spans done (some (.ok output)))
      (encoded : m.encode output = .ok payload) : Yields m request true done (.ok payload)

/-- **What is done for a request that is handled**: what the implementation does, one reply that
tells what came of the request, and reports before and after it. -/
inductive Settles (m : Method In Out) (request : Request) (admitted : Bool) : List Act → Prop
  | intro (done : List Act) (outcome : Except HandlerError Bytes) (early late : List Log.Record)
      (result : Except TransportError Unit) (yields : m.Yields request admitted done outcome) :
      Settles m request admitted (done ++ early.map .reported ++
        .sent (request.replyOf outcome) result :: late.map .reported)

/-- The implementation sends nothing. -/
theorem Yields.sends_eq_nil {outcome : Except HandlerError Bytes}
    (h : m.Yields request admitted done outcome) : sends done = [] := by
  cases h with
  | refused | undecoded => rfl
  | failed _ _ _ _ invoked | unencoded _ _ _ _ _ invoked | answered _ _ _ _ _ invoked =>
    exact invoked.sends_eq_nil

/-- **One reply is sent** for a request that is handled. -/
theorem Settles.sends_eq (h : m.Settles request admitted acts) :
    ∃ done outcome result, m.Yields request admitted done outcome ∧
      sends acts = [(request.replyOf outcome, result)] := by
  obtain ⟨done, outcome, early, late, result, yields⟩ := h
  exact ⟨done, outcome, result, yields, by simp [yields.sends_eq_nil]⟩

/-- **The implementation is invoked if and only if** the request was admitted and could be decoded.
If it notes that it is invoked, the note is there exactly then. -/
theorem Settles.noted_iff {n : Note} {work : In → Work Out} (h : m.Settles request admitted acts)
    (hserve : ∀ input, m.serve input = .note n (work input)) :
    .noted n ∈ acts ↔ admitted = true ∧ ∃ input, m.decode request.payload = .ok input := by
  obtain ⟨done, outcome, early, late, result, yields⟩ := h
  -- reports and replies are no notes
  have hdone : .noted n ∈ done ++ early.map Act.reported ++
      .sent (request.replyOf outcome) result :: late.map .reported ↔ .noted n ∈ done := by simp
  have hnoted : ∀ {input result?}, (m.serve input).Does m.spans done result? → .noted n ∈ done := by
    intro input result? hwork
    rw [hserve] at hwork
    cases hwork
    exact List.mem_cons_self
  rw [hdone]
  cases yields with
  | refused => simp
  | undecoded e decoded => simp [decoded]
  | failed input _ _ decoded invoked | unencoded input _ _ _ decoded invoked
  | answered input _ _ _ decoded invoked =>
    exact iff_of_true (hnoted invoked) ⟨rfl, input, decoded⟩

/-- A failure at a method settles a request. -/
theorem settles_fail {message reason : String} {e : HandlerError} {after : List Act}
    (fresh : request.replyTo? = some address) (yields : m.Yields request true done (.error e))
    (h : (m.fail request message reason e).Does request after crashed) :
    crashed = false ∧ m.Settles request true (done ++ after) := by
  cases h with
  | report h =>
    obtain ⟨hcrashed, result, late, rfl⟩ := Script.does_signalError fresh h
    refine ⟨hcrashed, ?_⟩
    rw [← request.replyOf_error, List.append_cons]
    exact .intro done _ [m.failure message reason] late result yields

/-- The reply with the output settles a request, also if it cannot be sent: nothing is sent after
it. -/
theorem settles_respond {payload : Bytes} {after : List Act}
    (yields : m.Yields request true done (.ok payload)) (fresh : request.replyTo? = some address)
    (h : (m.respond request payload).Does request after crashed) :
    crashed = false ∧ m.Settles request true (done ++ after) := by
  have hsettles : ∀ result (late : List Log.Record), m.Settles request true
      (done ++ .sent (request.reply [] payload) result :: late.map .reported) := by
    intro result late
    have hintro := Settles.intro done _ [] late result yields
    rwa [List.map_nil, List.append_nil] at hintro
  cases h with
  | again responded =>
    rw [fresh] at responded
    cases responded
  | reply _ _ result h =>
    cases result with
    | ok =>
      cases h
      exact ⟨rfl, hsettles _ []⟩
    | error e =>
      cases h with
      | report h =>
        obtain ⟨hcrashed, rfl⟩ := Script.does_signalError_again rfl h
        exact ⟨hcrashed, hsettles _ [_, _]⟩

/-- **The script of a method settles every request.** -/
theorem settles_script (fresh : request.replyTo? = some address)
    (hwork : ∀ input, (m.serve input).Finishes) (h : (m.script request).Does request acts crashed) :
    crashed = false ∧ m.Settles request true acts := by
  rw [script] at h
  cases hdecode : m.decode request.payload with
  | error e =>
    rw [hdecode] at h
    exact settles_fail fresh (.undecoded e hdecode) h
  | ok input =>
    rw [hdecode] at h
    obtain ⟨done, result, after, hdone, hafter, rfl⟩ := (hwork input).does_toScript h
    cases result with
    | error reason => exact settles_fail fresh (.failed input done reason hdecode hdone) hafter
    | ok output =>
      rw [conclude] at hafter
      cases hencode : m.encode output with
      | error e =>
        rw [hencode] at hafter
        exact settles_fail fresh (.unencoded input done output e hdecode hdone hencode) hafter
      | ok payload =>
        rw [hencode] at hafter
        exact settles_respond (.answered input done output payload hdecode hdone hencode) fresh
          hafter

/-- **The refusal of a request settles it**, if the pool does not take it. -/
theorem settles_reject (m : Method In Out) (fresh : request.replyTo? = some address)
    (h : (Script.reject request.subject).Does request acts crashed) :
    crashed = false ∧ m.Settles request false acts := by
  cases h with
  | report h =>
    obtain ⟨hcrashed, result, late, rfl⟩ := Script.does_signalError fresh h
    rw [← request.replyOf_error]
    exact ⟨hcrashed, .intro [] _ [_] late result .refused⟩

end Method

end ServiceBus.Bus
