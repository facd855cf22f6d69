import ServiceBus.Proofs.Greeter.Saved
import ServiceBus.Proofs.World.Idle

/-! # Requests and their replies

In every run, whatever services, pools and callers there are and whoever takes the next step, the
requests of calls and their replies correspond: a request is stored once, one script is begun on it, and
its call comes to the first reply to it.

* `Register.Corresponds`: what the register of a run tells of the requests of calls.
* `replies_correspond`: it tells this in every run, and where an instance is served by a greeter that
  saves metadata, those of every call that came to a greeting are saved once. -/

namespace ServiceBus.Bus

open Greeter (HelloReply Metadata MethodId SavesIn)

/-! ### Correspondence -/

/-- **What the register of a run tells of the requests of calls.** -/
structure Register.Corresponds (g : Register) (w : World) : Prop where
  /-- A request is stored once at most, and so in one inbox. -/
  stored_once : (g.stored.map Prod.fst).Nodup
  /-- One script at most is begun on it. -/
  begun_once : (g.begun.map Prod.fst).Nodup
  /-- Whoever may still reply to it is known to hold it. -/
  held : ∀ x r c, w.request? x = some r → r.IsOf c → g.holds x = some c
  /-- Nobody else holds it. -/
  held_once : ∀ x y c, g.holds x = some c → g.holds y = some c → x = y
  /-- A call returns once at most. -/
  returned_once : (g.returned.map Prod.fst).Nodup
  /-- The message it returns is the first one that was passed to a reply to its request. -/
  first : ∀ c reply, (c, .ok reply) ∈ g.returned →
    ∃ rest, g.attempts c = ⟨c, reply, .ok ()⟩ :: rest
  /-- Every later attempt has failed. -/
  later : ∀ c a rest, g.attempts c = a :: rest → ∀ b ∈ rest, b.result = .error .alreadyResponded
  /-- A further attempt changes nothing. -/
  further : ∀ x c r, g.holds x = some c → g.attempts c ≠ [] → w.request? x = some r →
    ∀ headers payload, w.reply r headers payload = (w, r, .error .alreadyResponded)
  /-- A reply to one request is nothing to the calls of others. -/
  apart : ∀ x c r, g.holds x = some c → w.request? x = some r →
    ∀ headers payload d, d ≠ c → (w.reply r headers payload).1.bus.stage? d = w.bus.stage? d

variable {rule : World → Mover → World → Prop} {w : World} {g : Register}

/-- **The register of every run tells this.** -/
theorem Correspondence.corresponds (h : Correspondence rule w g) : g.Corresponds w where
  stored_once := h.counts.stored_nodup
  begun_once := h.counts.begun_nodup
  held := h.tracks.holds
  held_once := h.tracks.unique
  returned_once := h.counts.returned_nodup
  first := h.counts.first
  later := h.counts.later
  further x c r hx hne hr headers payload := by
    obtain ⟨r', hr', ⟨-, hnil⟩ | ⟨haddress, -⟩⟩ := h.tracks.request x c hx
    · exact absurd hnil hne
    · rw [hr] at hr'
      rw [World.reply, Option.some.inj hr', haddress]
  apart x c r hx hr headers payload d hd := by
    obtain ⟨-, ⟨hbus, -⟩ | ⟨e, of, hbus⟩⟩ := w.reply_bus r headers payload
    · rw [hbus]
    · -- the holder of a request that has its address is known to hold it
      have hholds := h.tracks.holds x r e hr of
      rw [hx] at hholds
      cases hholds
      rw [hbus, MemoryBus.stage?_answer, if_neg hd]

/-- A caller that is told no failure has a reply that tells of none. -/
theorem Client.outcome_ok {β : Type} {decode : Bytes → Except CodecError β} {spans : List String}
    {subject : String} {result : Except TransportError Message} {output : β}
    (h : (outcome decode spans subject result).value = .ok output) :
    ∃ reply, result = .ok reply ∧ serviceError? reply.headers = none := by
  cases result with
  | error e => cases h
  | ok reply =>
    refine ⟨reply, rfl, ?_⟩
    cases hservice : serviceError? reply.headers with
    | none => rfl
    | some e =>
      rw [outcome, hservice] at h
      cases h

/-- **Requests and replies correspond in every run.** Every run has a register, and in every register a
request of a call is stored once and begun once at most, its call returns the first reply to it, and
later attempts fail and change nothing. Where the metadata for an instance are saved in a store, the
store holds what was kept in it, and on the request of a call that came to a greeting its metadata were
kept there once, and nothing else. -/
theorem replies_correspond (h : World.Steps {} w) :
    (∃ g, Correspondence (fun _ _ _ => True) w g) ∧
    ∀ rule g, Correspondence rule w g → g.Corresponds w ∧
      ∀ inst store, (∀ v m v', rule v m v' → SavesIn inst store v m v') →
        w.stored store = g.saved store ∧
        ∀ (c : CallId) (headers : Headers) (metadata : Metadata)
          (result : Except TransportError Message) (spans : List String) (reply : HelloReply),
          w.bus.letters[c]? = some ⟨MethodId.saveMetadata.subject inst, headers,
            Wire.WireMessage.encode metadata⟩ →
          (c, result) ∈ g.returned →
          (Client.outcome decode spans (MethodId.saveMetadata.subject inst) result).value =
            .ok reply →
          g.keeps c = [(store, metadata)] := by
  refine ⟨h.correspondence, fun rule g hg => ⟨hg.corresponds, fun inst store hrule => ?_⟩⟩
  refine ⟨hg.stored_eq fun v m v' hkeeps houtside => ((hrule v m v' hkeeps).apart houtside).2, ?_⟩
  intro c headers metadata result spans reply hletter hreturned houtcome
  obtain ⟨message, rfl, hwell⟩ := Client.outcome_ok houtcome
  obtain ⟨rest, hattempts⟩ := hg.counts.first c message hreturned
  exact (Greeter.Saving.of_correspondence hg hrule hletter).first _ rest hattempts hwell

/-! ### A call that saves -/

namespace World

variable {w w' : World}

/-- Where all tasks wait and no request has a name, a step is one from outside. -/
theorem Step.outside_of_atRest (hs : w.Step w') (hrest : w.AtRest)
    (hnames : ∀ name : String, w.desk.requests[name]? = none) : w.Moves .outside w' := by
  have hstill : ∀ id : Nat, w.turn id ≠ some w' := fun id h => by
    rw [hrest id] at h
    cases h
  refine .outside hs hstill ?_
  rcases hs.cases_reply with ⟨id, h⟩ | ⟨name, request, -, -, h, -⟩ | h
  · exact absurd h (hstill id)
  · rw [hnames] at h
    cases h
  · exact h.requests

/-- All tasks wait if none of those that there are has a turn. -/
theorem atRest_of_all (h : ∀ j < w.tasks.length, (w.turn j).isNone) : w.AtRest := by
  intro id
  cases hturn : w.turn id with
  | none => rfl
  | some w' =>
    obtain ⟨program, hid⟩ := exists_program_of_turn hturn
    have hnone := h id (lt_of_program? hid)
    rw [hturn] at hnone
    cases hnone

/-- No inbox holds a request. -/
theorem buffer_of_all (h : ∀ inbox ∈ w.bus.inboxes, inbox.buffer = []) (i : Nat) :
    w.bus.buffer i = [] := by
  cases hinbox : w.bus.inboxes[i]? with
  | none => exact MemoryBus.buffer_eq_nil hinbox
  | some inbox => exact (MemoryBus.buffer_eq hinbox).trans (h inbox (List.mem_of_getElem? hinbox))

/-- Some turns, before each of which no inbox holds a request. -/
def emptyTurns (w : World) (ids : List TaskId) : Option World :=
  ids.foldlM (fun w id =>
    if ∀ inbox ∈ w.bus.inboxes, inbox.buffer = [] then w.turn id else none) w

/-- Whether an instance was served by a greeter that saves in a store, in some run up to a world. -/
def ServedUpTo (inst : String) (store : StoreId) (w : World) : Prop :=
  ∃ g, Correspondence (SavesIn inst store) w g

namespace ServedUpTo

variable {inst : String} {store : StoreId} {id : TaskId}

/-- A step from outside before the first request. -/
theorem outside (h : w.ServedUpTo inst store) (hs : w.Step w')
    (hrest : ∀ j < w.tasks.length, (w.turn j).isNone)
    (hnames : ∀ name : String, w.desk.requests[name]? = none)
    (hempty : ∀ inbox ∈ w.bus.inboxes, inbox.buffer = [])
    (hapart : w.stores.length ≤ w'.stores.length ∧ w'.stored store = w.stored store) :
    w'.ServedUpTo inst store := by
  obtain ⟨g, hg⟩ := h
  exact ⟨_, hg.tail (hs.outside_of_atRest (atRest_of_all hrest) hnames)
    (.of_empty (buffer_of_all hempty) fun _ => hapart)⟩

/-- A turn. -/
theorem turn (h : w.ServedUpTo inst store) (hturn : w.turn id = some w')
    (hsaves : SavesIn inst store w (.task id) w') : w'.ServedUpTo inst store := by
  obtain ⟨g, hg⟩ := h
  exact ⟨_, hg.tail (.turn id hturn) hsaves⟩

/-- Some turns, before each of which no inbox holds a request. -/
theorem turns {ids : List TaskId} (h : w.ServedUpTo inst store)
    (hturns : w.emptyTurns ids = some w') : w'.ServedUpTo inst store := by
  induction ids generalizing w with
  | nil =>
    rw [emptyTurns, List.foldlM_nil] at hturns
    cases hturns
    exact h
  | cons id ids ih =>
    rw [emptyTurns, List.foldlM_cons] at hturns
    obtain ⟨next, hnext, hturns⟩ := Option.bind_eq_some_iff.mp hturns
    split at hnext
    · rename_i hempty
      exact ih (h.turn hnext (.of_empty (buffer_of_all hempty) (by simp))) hturns
    · cases hnext

end ServedUpTo

/-- A pool of one executor, a store, and a greeter with the endpoint that saves metadata. -/
def saver : World :=
  let world : World := { ({} : World) with scopes := ScopeTree.fresh {}, stores := [[]] }.openPool 1
  let world := (world.openService { name := "greeter", version := "1" }).toOption.getD {}
  (world.openEndpoint 0 { info := .ofConfig { name := "greeter", version := "1" }, stop := 1 }
    { scope := 0 } { name := "SaveMetadata", subject := MethodId.saveMetadata.subject "greeter" }
    { pool? := some 0, script := (Greeter.remembering 0).script [] "greeter" .saveMetadata }
    ).toOption.getD {}

/-- There is a run to the greeter. -/
theorem servedUpTo_saver : saver.ServedUpTo "greeter" 0 := by
  have h : World.ServedUpTo "greeter" 0 {} := ⟨_, .refl⟩
  have h := h.outside (.scopes (ScopeTree.fresh {}) (by decide) fun s hs => by cases hs)
    (by decide) (fun name => Std.TreeMap.getElem?_emptyc) (by decide) (by decide)
  have h := h.outside (.aside [] [[]] 0 [] .cancelled) (by decide) (fun name => Std.TreeMap.getElem?_emptyc)
    (by decide) (by decide)
  have h := h.outside (.openPool 1) (by decide) (fun name => Std.TreeMap.getElem?_emptyc)
    (by decide) (by decide)
  have h := h.outside (.openService { name := "greeter", version := "1" } rfl) (by decide +kernel)
    (fun name => Std.TreeMap.getElem?_emptyc) (by decide) (by decide)
  exact h.outside (.openEndpoint 0 { scope := 0 }
    { name := "SaveMetadata", subject := MethodId.saveMetadata.subject "greeter" }
    { pool? := some 0, script := (Greeter.remembering 0).script [] "greeter" .saveMetadata } rfl rfl)
    (by decide +kernel) (fun name => Std.TreeMap.getElem?_emptyc) (by decide) (by decide)

/-- What is to be saved. -/
def colour : Metadata := { key := "colour", value := "blue" }

/-- The subject of the endpoint. -/
def saveSubject : String := MethodId.saveMetadata.subject "greeter"

/-- Somebody asks the greeter to save it. -/
def saverAsked : World :=
  (saver.withBus (saver.bus.ask
    { subject := saveSubject, payload := Wire.WireMessage.encode colour })).spawn
      (.exchange 0 none false none fun result =>
        return .greeted (← Client.outcome decode [] saveSubject result)) (some "call")

/-- The request is in the inbox. -/
def saverStocked : World := (saverAsked.turn 2).get (by decide +kernel)

/-- The loop has the request. -/
def saverTook : World := (saverStocked.turn 1).get (by decide +kernel)

/-- The executor has replied. -/
def saverReplied : World := (saverTook.emptyTurns [1, 1, 1, 0, 0, 0]).get (by decide +kernel)

/-- The caller has the reply. -/
def saverDone : World := (saverReplied.turn 2).get (by decide +kernel)

/-- The reply. -/
def savedReply : Message :=
  { subject := saveSubject,
    payload := Wire.WireMessage.encode ({ message := "saved colour" } : HelloReply) }

/-- There is a run up to the reply. -/
theorem servedUpTo_saverReplied : saverReplied.ServedUpTo "greeter" 0 := by
  have hasked : saverAsked.ServedUpTo "greeter" 0 := by
    refine servedUpTo_saver.outside (.ask _ rfl none none _ (some "call")) (by decide +kernel)
      (fun name => Std.TreeMap.getElem?_emptyc) (by decide) (by decide)
  have hturn : saverAsked.turn 2 = some saverStocked := (Option.some_get _).symm
  have hstocked := hasked.turn hturn
    (.of_empty (buffer_of_all (by decide)) (by simp))
  -- the request is in the inbox of the loop, which goes on as it was
  have htook : saverTook.ServedUpTo "greeter" 0 := by
    obtain ⟨g, hg⟩ := hstocked
    have hloop : saverStocked.program? 1 = saverAsked.program? 1 :=
      (others_of_turn hturn).2 1 (by decide)
    refine ⟨_, hg.tail (.turn 1 (Option.some_get _).symm) (.of_loop (.of_steps hg.steps)
      (hloop.trans rfl) rfl (by decide +kernel) (fun i r hr _ => ?_) (by simp))⟩
    have hone : saverStocked.bus.inboxes.length = 1 := by decide +kernel
    exact Nat.lt_one_iff.mp (hone ▸ MemoryBus.lt_of_mem_buffer hr)
  exact htook.turns (Option.some_get _).symm

/-- The metadata of a call that came to a greeting are saved. -/
theorem replies_correspond_saver : ∃ g, Correspondence (SavesIn "greeter" 0) saverDone g ∧
    (∃ rest, g.attempts 0 = ⟨0, savedReply, .ok ()⟩ :: rest) ∧ (0, .ok savedReply) ∈ g.returned ∧
    g.keeps 0 = [(0, colour)] ∧ g.saved 0 = saverDone.stored 0 ∧ saverDone.stored 0 = [colour] := by
  obtain ⟨g, hg⟩ := servedUpTo_saverReplied
  have hresult : saverReplied.result? (.task 2) = some (0, .ok savedReply) := by decide +kernel
  have hdone : Correspondence (SavesIn "greeter" 0) saverDone _ :=
    hg.tail (.turn 2 (Option.some_get _).symm)
      (.of_empty (buffer_of_all (by decide +kernel)) (by simp))
  have hreturned : (0, .ok savedReply) ∈ (g.after saverReplied (.task 2) saverDone).returned :=
    List.mem_append_right _ (by rw [hresult]; exact List.mem_singleton_self _)
  obtain ⟨hcorresponds, hsaves⟩ := (replies_correspond hdone.steps).2 _ _ hdone
  obtain ⟨hstored, hkeeps⟩ := hsaves "greeter" 0 fun _ _ _ h => h
  refine ⟨_, hdone, hcorresponds.first 0 savedReply hreturned, hreturned, ?_, hstored.symm,
    by decide +kernel⟩
  exact hkeeps 0 [] colour (.ok savedReply) [] { message := "saved colour" } (by decide +kernel)
    hreturned (by decide +kernel)

end World

end ServiceBus.Bus
