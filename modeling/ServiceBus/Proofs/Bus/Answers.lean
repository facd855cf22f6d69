import ServiceBus.Bus.Method

/-! # What a caller is told

What comes of a request is one reply, or none if its script ends without one. A script `Answers` in one
way if it does so whatever it sees while it runs; what it does after its reply does not matter. Whether
it may wait before, at a gate or for time to pass, is told by a proposition `waits`.

* `Script.Answers`: what comes of a request that a script is run on.
* `Work.ComesTo`: the result of work, which is none if it crashes.
* `Method.answers_script`: what a served method answers, by the result of its work.
* `Client.outcome_answer`: what the caller makes of it.
* `serviceError?_errorHeaders`: a failure is read back from the headers that tell it. -/

namespace ServiceBus.Bus

/-! ### Failures out of band -/

/-- The reason that is told of a handler error is never empty. -/
theorem HandlerError.isEmpty_reason (e : HandlerError) : e.reason.isEmpty = false := by
  rw [reason]
  split
  · rfl
  · rename_i h
    exact Bool.eq_false_iff.mpr h

/-- The failure of a service is told in its own words, if there are any. -/
theorem HandlerError.reason_invoke (message : String) :
    (HandlerError.invoke message).reason = if message = "" then unspecifiedReason else message := by
  rw [reason, show (HandlerError.invoke message).message = message from rfl]
  by_cases h : message = ""
  · rw [if_pos h, if_pos (String.isEmpty_iff.mpr h)]
  · rw [if_neg h, if_neg fun hempty => h (String.isEmpty_iff.mp hempty)]

/-- The two headers of a failed reply. -/
theorem errorHeaders_eq (reason : String) :
    errorHeaders reason = [(errorHeader, reason), (errorCodeHeader, errorCode)] := by
  have hne : errorCodeHeader ≠ errorHeader := by decide
  have hnot : ¬ errorCodeHeader < errorHeader := by decide
  rw [errorHeaders, Text.Dictionary.ofList, Text.Dictionary.extend, List.foldl_cons, List.foldl_cons,
    List.foldl_nil]
  show Text.Dictionary.insert errorCodeHeader errorCode [(errorHeader, reason)] = _
  rw [Text.Dictionary.insert, if_neg hne, if_neg hnot]
  rfl

/-- **A failure is read back from the headers that tell it**, with its code and its reason. -/
theorem serviceError?_errorHeaders (e : HandlerError) :
    serviceError? (errorHeaders e.reason) = some { code := errorCode, reason := e.reason } := by
  have hne : (errorCodeHeader == errorHeader) = false := by decide
  have hreason : Text.Dictionary.get? (errorHeaders e.reason) errorHeader = some e.reason := by
    rw [errorHeaders_eq, Text.Dictionary.get?, List.lookup_cons_self]
  have hcode : Text.Dictionary.get? (errorHeaders e.reason) errorCodeHeader = some errorCode := by
    rw [errorHeaders_eq, Text.Dictionary.get?, List.lookup_cons, hne]
    exact List.lookup_cons_self
  rw [serviceError?, hreason, hcode]
  have hnonempty : nonemptyOr unspecifiedReason (some e.reason) = e.reason := by
    rw [nonemptyOr, Option.filter_some, e.isEmpty_reason]
    rfl
  rw [hnonempty]
  rfl

/-! ### Scripts -/

/-- The headers and the payload of the reply to a request, if there is one. -/
abbrev Answer := Option (Headers × Bytes)

/-- What the caller gets from those who had its request. -/
def Answer.delivered (subject : String) : Answer → Except TransportError Message
  | some (headers, payload) => .ok { subject, headers, payload }
  | none => .error (.droppedWithoutReply subject)

/-- Whether a script answers in one way, whatever it sees of the world. -/
def Script.Answers (waits : Prop) (answer : Answer) : Script → Prop
  | .stop | .crash => answer = none
  | .note _ next | .report _ next | .keep _ _ _ next => next.Answers waits answer
  | .pass _ next | .pause _ next => waits ∧ next.Answers waits answer
  | .reply headers payload _ => answer = some (headers, payload)
  | .awaitEnd next => waits ∧ ∀ e, (next e).Answers waits answer
  | .inspect next => ∀ e?, (next e?).Answers waits answer

namespace Work

variable {β : Type} {waits : Prop} {work : Work β} {result : Option (Except String β)}

/-- Whether work comes to one result, whatever it sees of the context; a crash is none. -/
def ComesTo (waits : Prop) (result : Option (Except String β)) : Work β → Prop
  | finish r => result = some r
  | crash => result = none
  | note _ w | report _ w | keep _ _ _ w => w.ComesTo waits result
  | pass _ w => waits ∧ w.ComesTo waits result
  | inspect w => ∀ e?, (w e?).ComesTo waits result

/-- The script of work answers as what is done with its result does, and not at all after a crash. -/
theorem ComesTo.answers (h : work.ComesTo waits result) (spans : List String)
    {next : Except String β → Script} {answer : Answer}
    (hnext : ∀ r, result = some r → (next r).Answers waits answer)
    (hcrash : result = none → answer = none) : (work.toScript spans next).Answers waits answer := by
  induction work with
  | finish r => exact hnext r h
  | crash => exact hcrash h
  | note n w ih => exact ih h
  | report r w ih => exact ih h
  | pass gate w ih => exact ⟨h.1, ih h.2⟩
  | keep store key value w ih => exact ih h
  | inspect w ih =>
    intro e?
    exact ih e? (h e?)

end Work

/-! ### Methods -/

namespace Method

variable {In Out : Type} {m : Method In Out} {request : Request} {input : In} {waits : Prop}
  {result : Option (Except String Out)}

/-- What a method answers when its work comes to a result. -/
def answer (m : Method In Out) : Option (Except String Out) → Answer
  | none => none
  | some (.error reason) => some (errorHeaders (HandlerError.invoke reason).reason, [])
  | some (.ok output) =>
    match m.encode output with
    | .error e => some (errorHeaders (HandlerError.encode e).reason, [])
    | .ok payload => some ([], payload)

/-- What is made of a result answers it. -/
theorem answers_conclude (m : Method In Out) (request : Request) (r : Except String Out) :
    (m.conclude request r).Answers waits (m.answer (some r)) := by
  cases r with
  | error reason => rfl
  | ok output =>
    rw [conclude, answer]
    cases m.encode output with
    | error e => rfl
    | ok payload => rfl

/-- **A method answers by the result of its work.** -/
theorem answers_script (hdecode : m.decode request.payload = .ok input)
    (h : (m.serve input).ComesTo waits result) :
    (m.script request).Answers waits (m.answer result) := by
  rw [script, hdecode]
  refine h.answers m.spans (fun r hr => ?_) fun hnone => ?_
  · rw [hr]
    exact m.answers_conclude request r
  · rw [hnone]
    rfl

end Method

/-! ### Callers -/

namespace Client

variable {In Out : Type} {m : Method In Out} {decode : Bytes → Except CodecError Out}
  {result : Option (Except String Out)}

/-- **What the caller of a method is told**, by the result of the work. -/
def told (subject : String) : Option (Except String Out) → Except ClientError Out
  | some (.ok output) => .ok output
  | some (.error message) =>
    .error (.service { code := "500",
                       reason := if message = "" then "unspecified service error" else message })
  | none => .error (.transport (.other ("request on " ++ subject ++ " dropped without a reply")))

/-- A reply that tells of a failure is read as that failure. -/
theorem outcome_errorHeaders (decode : Bytes → Except CodecError Out) (spans : List String)
    (subject : String) (e : HandlerError) (payload : Bytes) :
    (outcome decode spans subject (.ok { subject, headers := errorHeaders e.reason, payload })).value =
      .error (.service { code := errorCode, reason := e.reason }) := by
  rw [outcome, serviceError?_errorHeaders]
  rfl

/-- A reply without headers is decoded. -/
theorem outcome_nil (decode : Bytes → Except CodecError Out) (spans : List String) (subject : String)
    (payload : Bytes) : (outcome decode spans subject (.ok { subject, payload })).value =
      (decode payload).mapError .codec := rfl

/-- **The caller is told what the work came to**, if the codec undoes the encoding of outputs. -/
theorem outcome_answer (spans : List String) (subject : String)
    (hcodec : ∀ output, result = some (.ok output) →
      ∃ payload, m.encode output = .ok payload ∧ decode payload = .ok output) :
    (outcome decode spans subject ((m.answer result).delivered subject)).value =
      told subject result := by
  match result with
  | none => rfl
  | some (.error message) =>
    rw [Method.answer, Answer.delivered, outcome_errorHeaders, HandlerError.reason_invoke]
    rfl
  | some (.ok output) =>
    obtain ⟨payload, hencode, hdecode⟩ := hcodec output rfl
    rw [Method.answer, hencode]
    show (outcome decode spans subject (.ok { subject, payload })).value = _
    rw [outcome_nil, hdecode]
    rfl

end Client

end ServiceBus.Bus
