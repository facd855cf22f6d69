import ServiceBus.Greeter.Service
import ServiceBus.Proofs.Wire.Fields
import ServiceBus.Proofs.World.Kept
import ServiceBus.Proofs.World.Serving

/-! # What the greeter has saved

Where the requests to save metadata for an instance go to a greeter that remembers them, a call with
such a request that is replied to well has its metadata in the store of the greeter once.

* `Greeter.saves_script`: the script of the method keeps the metadata before it replies well.
* `Greeter.SavesIn`: what it takes for an instance to be served by a greeter that saves in a store.
* `Greeter.Saving`: how far the request of a call is, and what was kept on it. Every step keeps this
  (`Saving.step`), and so it holds in every run (`Saving.of_correspondence`). -/

namespace ServiceBus.Bus

variable {todo : List (StoreId × Greeter.Metadata)}

/-! ### Scripts of methods -/

/-- A script that is over keeps nothing. -/
theorem Script.saves_stop : stop.Saves todo := trivial

/-- A script that tells of a failure keeps nothing. -/
theorem Script.saves_signalError {next : Script} (hnext : next.Saves []) (spans : List String)
    (subject : String) (e : HandlerError) : (signalError spans subject e next).Saves todo := by
  refine ⟨fun hnone => ?_, fun result => ?_⟩
  · rw [serviceError?_errorHeaders] at hnone
    cases hnone
  · cases result with
    | ok u => exact hnext
    | error sendError => exact hnext

/-- A script that refuses a request keeps nothing. -/
theorem Script.saves_reject (subject : String) : (reject subject).Saves todo :=
  saves_signalError saves_stop _ _ _

namespace Method

variable {In Out : Type} {m : Method In Out} {request : Request}

/-- A method that fails keeps nothing more. -/
theorem saves_fail (message reason : String) (e : HandlerError) :
    (m.fail request message reason e).Saves todo :=
  Script.saves_signalError Script.saves_stop _ _ _

/-- A method keeps nothing after its work. -/
theorem saves_conclude (result : Except String Out) : (m.conclude request result).Saves [] := by
  cases result with
  | error reason => exact m.saves_fail _ _ _
  | ok output =>
    rw [conclude]
    cases m.encode output with
    | error e => exact m.saves_fail _ _ _
    | ok payload =>
      refine ⟨fun _ => rfl, fun sent => ?_⟩
      cases sent with
      | ok u => trivial
      | error e => exact m.saves_fail _ _ _

end Method

end ServiceBus.Bus

namespace ServiceBus.Greeter

open Bus Wire

variable {store : StoreId} {metadata : Metadata}

/-- **What is read of written metadata**, if anything, are the metadata. -/
theorem eq_of_decode_metadata {m m' : Metadata}
    (h : Wire.decode (WireMessage.encode m) = .ok m') : m' = m := by
  have hempty : ∀ (text : String) (value : Metadata) (f : String → Metadata → Metadata),
      f "" value = value → (if text = "" then value else f text value) = f text value := by
    intro text value f hf
    split
    · rename_i htext
      rw [htext, hf]
    · rfl
  obtain ⟨rest, hread⟩ := Layout.read_eq_ok h
  obtain ⟨n, hn, hread⟩ := Layout.readUntil_textField 1 rfl (by decide) (by decide)
    (Nat.lt_succ_self _) hread
  rw [← List.append_nil (textField 2 m.value)] at hn hread
  obtain ⟨k, -, hread⟩ := Layout.readUntil_textField 2 rfl (by decide) (by decide) hn hread
  rw [Layout.readUntil_nil] at hread
  cases hread
  rw [hempty _ _ (fun s m => { m with key := s }) rfl]
  exact hempty _ _ (fun s m => { m with value := s }) rfl

/-- **The script of the method that saves metadata** keeps those of its request before it replies
well. -/
theorem saves_script {request : Request} (spans : List String) (inst : String)
    (hpayload : request.payload = WireMessage.encode metadata) :
    ((remembering store).script spans inst .saveMetadata request).Saves [(store, metadata)] := by
  show ((method (spans ++ [MethodId.saveMetadata.span]) (MethodId.saveMetadata.subject inst)
    (remembering store).saveMetadata).script request).Saves _
  rw [Method.script, hpayload]
  split
  · exact Method.saves_fail _ _ _
  · rename_i input hinput
    -- what the codec reads, if anything, is what was written
    have hdecode : Wire.decode (WireMessage.encode metadata) = .ok input := by
      have hmap : (Wire.decode (α := Metadata) (WireMessage.encode metadata)).mapError
        (fun e => CodecError.decode e.message) = .ok input := hinput
      generalize Wire.decode (α := Metadata) (WireMessage.encode metadata) = result at hmap
      cases result with
      | error e => cases hmap
      | ok value =>
        cases hmap
        rfl
    rw [eq_of_decode_metadata hdecode]
    exact ⟨[], rfl, Method.saves_conclude _⟩

/-! ### Instances whose metadata are saved -/

/-- **Whether the metadata for an instance are saved in a store**, as far as one step shows it. A request
to save them is in the inbox of the greeter only, which has the store, and from outside nobody changes
the store. -/
structure SavesIn (inst : String) (store : StoreId) (w : World) (m : Mover) (w' : World) :
    Prop where
  served : ∀ (x : Reader) (i : InboxId) (r : Request), w.Reads x i → r ∈ w.bus.buffer i →
    r.subject = MethodId.saveMetadata.subject inst → store < w.stores.length ∧
      ∃ id d spans, x = .task id ∧ w.program? id = some (.deliver d) ∧
        d.handler.script = (remembering store).script spans inst .saveMetadata
  apart : m = .outside → w.stores.length ≤ w'.stores.length ∧ w'.stored store = w.stored store

/-- Where no inbox holds a request, only the store matters. -/
theorem SavesIn.of_empty {inst : String} {w w' : World} {m : Mover}
    (h : ∀ i : Nat, w.bus.buffer i = [])
    (hapart : m = .outside → w.stores.length ≤ w'.stores.length ∧ w'.stored store = w.stored store) :
    SavesIn inst store w m w' := by
  refine ⟨fun x i r _ hr => ?_, hapart⟩
  rw [h i] at hr
  cases hr

/-- **One loop serves an instance** if the requests to save are in its inbox only. -/
theorem SavesIn.of_loop {inst : String} {w w' : World} {m : Mover} {id : TaskId} {d : Delivery}
    {spans : List String} (hread : w.ReadOnce) (hd : w.program? id = some (.deliver d))
    (hscript : d.handler.script = (remembering store).script spans inst .saveMetadata)
    (hlt : store < w.stores.length)
    (honly : ∀ (i : InboxId) (r : Request), r ∈ w.bus.buffer i →
      r.subject = MethodId.saveMetadata.subject inst → i = d.inbox)
    (hapart : m = .outside → w.stores.length ≤ w'.stores.length ∧ w'.stored store = w.stored store) :
    SavesIn inst store w m w' := by
  refine ⟨fun x i r hx hr hsubject => ⟨hlt, id, d, spans, ?_, hd, hscript⟩, hapart⟩
  exact hread.unique x (.task id) i hx (honly i r hr hsubject ▸ World.reads_deliver hd)

/-- **How far the request of a call is that carries metadata**, and what was kept on it. -/
structure Saving (inst : String) (store : StoreId) (metadata : Metadata) (c : CallId) (w : World)
    (g : Register) : Prop where
  stored : ∀ (i : InboxId) (r : Request), r ∈ w.bus.buffer i → r.IsOf c →
    r.subject = MethodId.saveMetadata.subject inst ∧ r.payload = WireMessage.encode metadata
  named : ∀ (name : String) (r : Request), w.desk.requests[name]? = some r → ¬ r.IsOf c
  offered : ∀ (id P : Nat) (job : Job), w.hand? id = some (.submitting P (.offered job)) →
    job.request.IsOf c → store < w.stores.length ∧ job.script.Saves [(store, metadata)]
  pooled : ∀ (P : Nat) (p : WorkerPool Job) (job : Job), w.pools[P]? = some p → job ∈ p.jobs →
    job.request.IsOf c → store < w.stores.length ∧ job.script.Saves [(store, metadata)]
  held : ∀ x, g.holds x = some c → store < w.stores.length ∧ g.OwedBy w c (store, metadata) x
  first : ∀ a rest, g.attempts c = a :: rest → serviceError? a.reply.headers = none →
    g.keeps c = [(store, metadata)]

namespace Saving

variable {inst : String} {w w' : World} {g : Register} {m : Mover} {c id : Nat} {run : Run}

/-- Nobody has the request of a call that there is not, and nothing was kept on it. -/
theorem of_not_lt (hcalls : w.Accounted) (ht : g.Tracks w) (hlt : ¬ c < w.bus.calls.length) :
    Saving inst store metadata c w g := by
  have hnew : ¬ w.Held c := fun hheld => hlt (hcalls.held_lt c hheld)
  have hgone : ¬ w.Gone c := by
    rintro ⟨⟨s, hs, -⟩, -⟩
    obtain ⟨call, hcall, -⟩ := Option.map_eq_some_iff.mp hs
    exact hlt (List.getElem?_eq_some_iff.mp hcall).1
  refine ⟨fun i r hr hc => ?_, fun name r hr hc => ?_, fun id P job hand hc => ?_,
    fun P p job hp hmem hc => ?_, fun x hx => absurd (ht.gone x c hx) hgone, fun a rest ha => ?_⟩
  · exact absurd (.stored i r (MemoryBus.stores_iff.mpr hr) hc) hnew
  · exact hnew (.named name r hr hc)
  · exact absurd (.offered id P job hand hc) hnew
  · exact absurd (.pooled P p job hp hmem hc) hnew
  · have hmem : a ∈ g.attempts c := ha ▸ List.mem_cons_self
    obtain ⟨hmem, hcall⟩ := List.mem_filter.mp hmem
    exact absurd (beq_iff_eq.mp hcall ▸ ht.attempted a hmem) hgone

section Steps

variable (h : Saving inst store metadata c w g) (hrule : SavesIn inst store w m w')

include h hrule

/-- What a delivery makes of the request keeps the metadata. -/
theorem of_served {d : Delivery} {r : Request} (hd : w.program? id = some (.deliver d))
    (hr : w.bus.Stores d.inbox r) (hc : r.IsOf c) :
    store < w.stores.length ∧ (d.handler.script r).Saves [(store, metadata)] := by
  have hmem := MemoryBus.stores_iff.mp hr
  obtain ⟨hsubject, hpayload⟩ := h.stored d.inbox r hmem hc
  obtain ⟨hlt, j, d', spans, hj, hd', hscript⟩ :=
    hrule.served (.task id) d.inbox r (World.reads_deliver hd) hmem hsubject
  cases hj
  rw [hd] at hd'
  cases hd'
  rw [hscript]
  exact ⟨hlt, saves_script spans inst hpayload⟩

/-- Whoever begins a script on the request keeps the metadata, or refuses it. -/
theorem of_resumes (hresumes : w.Resumes id run) (hc : run.request.IsOf c)
    (hnone : w.request? (.task id) = none) :
    store < w.stores.length ∧ run.script.Saves [(store, metadata)] := by
  cases hresumes with
  | taken d hd pool stored script =>
    rw [script]
    exact h.of_served hrule hd stored hc
  | refused P p job hp shut request had script =>
    rw [script]
    refine ⟨?_, Script.saves_reject _⟩
    rcases had with hmem | hand
    · exact (h.pooled P p job hp hmem (request ▸ hc)).1
    · exact (h.offered id P job hand (request ▸ hc)).1
  | picked P i p job hp role mem run_eq =>
    rw [run_eq] at hc ⊢
    exact h.pooled P p job hp mem hc
  | went before v hand turn =>
    rw [World.request?_task.mpr ⟨before, hand, rfl⟩] at hnone
    cases hnone

variable (ht : g.Tracks w) (hm : w.Moves m w') (hl : w.Located)
  (hp : ∀ (P : Nat) p, w.pools[P]? = some p → p.Sound)

include hm in
omit h in
/-- The store stays. -/
theorem store_lt (hlt : store < w.stores.length) : store < w'.stores.length := by
  by_cases hinside : m = .outside
  · exact Nat.lt_of_lt_of_le hlt (hrule.apart hinside).1
  · rw [(hm.stored hinside store).2]
    exact hlt

include ht hm in
/-- Who held the request before a step goes on with a script that keeps the metadata. -/
theorem goes_on {x : Holder} {r : Request} (hx : g.holds x = some c) (hr : w'.request? x = some r) :
    store < w'.stores.length ∧ (g.after w m w').OwedBy w' c (store, metadata) x := by
  obtain ⟨hlt, id, run, rfl, hand, howes⟩ := h.held x hx
  obtain ⟨run', hand', -⟩ := World.request?_task.mp hr
  exact ⟨store_lt hrule hm hlt, id, run', rfl, hand', howes.step ht hm hx hand hand' hlt⟩

include ht hm hp in
/-- Who gets the request from the place where it was begins a script that keeps the metadata. -/
theorem begins {y : World.Place} (hand' : w'.hand? id = some (.running run)) (hc : run.request.IsOf c)
    (hnone : w.request? (.task id) = none) (had : w.At c y) (silent : w.Silent m w') :
    store < w'.stores.length ∧ (g.after w m w').OwedBy w' c (store, metadata) (.task id) := by
  -- nothing was attempted or kept before
  have hattempts : g.attempts c = [] := List.filter_eq_nil_iff.mpr fun a ha heq =>
    (ht.attempted a ha).2 y (beq_iff_eq.mp heq ▸ had)
  have hkeeps : g.keeps c = [] := ht.keeps_eq_nil fun hgone => hgone.2 y had
  have hkeeps' : (g.after w m w').keeps c = [] := by
    rw [Register.keeps_other fun e _ he => (ht.gone _ _ he).2 y had, hkeeps]
  obtain ⟨hlt, hsaves⟩ : store < w.stores.length ∧ run.script.Saves [(store, metadata)] := by
    rcases (hm.step.custody hp).running c id run hc hand' with hand | hresumes
    · rw [World.request?_task.mpr ⟨run, hand, rfl⟩] at hnone
      cases hnone
    · exact h.of_resumes hrule hresumes hc hnone
  refine ⟨store_lt hrule hm hlt, id, run, rfl, hand', _, hsaves, Or.inl ⟨?_, ?_⟩⟩
  · rw [Register.attempts_silent silent.attempt, hattempts]
  · rw [hkeeps', List.nil_append]

include ht hm hl hp in
/-- Whoever holds the request after a step runs a script that keeps the metadata. -/
theorem held_after (hnamed : ∀ (name : String) (r : Request), w'.desk.requests[name]? = some r →
      ¬ r.IsOf c) {x : Holder} (hx : (g.after w m w').holds x = some c) :
    store < w'.stores.length ∧ (g.after w m w').OwedBy w' c (store, metadata) x := by
  obtain ⟨r, hr, -⟩ := (ht.after hm hl hp).request x c hx
  cases hm.hands hl hp with
  | keeps silent hback => exact h.goes_on hrule ht hm (ht.holding_kept hback hx).2 hr
  | hands silent x₀ r₀ c₀ y₀ of had gone holds new others =>
    by_cases hne : x = x₀
    · -- who gets it now begins a script, because no request to save gets a name
      obtain rfl : c₀ = c :=
        Option.some.inj ((World.holding_of_isOf holds of).symm.trans (hne ▸ hx))
      rw [hne]
      cases x₀ with
      | name name => exact absurd of (hnamed name r₀ holds)
      | task id =>
        obtain ⟨run, hand', rfl⟩ := World.request?_task.mp holds
        exact h.begins hrule ht hm hp hand' of (new id rfl) had silent
    · exact h.goes_on hrule ht hm (ht.holding_same (others x hne) ▸ hx) hr
  | replies a attempt bus holds others =>
    by_cases hne : x = a.holder
    · have haddress := (w.reply_bus a.request a.headers a.payload).1
      have hsame : w.holding w' g.holds a.holder = g.holds a.holder :=
        World.holding_of_none (World.request?_of_attempt attempt) holds haddress
      rw [hne] at hx hr ⊢
      exact h.goes_on hrule ht hm (hsame ▸ hx) hr
    · exact h.goes_on hrule ht hm (ht.holding_same (others x hne) ▸ hx) hr

include ht hm hl hp in
/-- **A step keeps track of the request**, if the call sends the metadata. -/
theorem step {headers : Headers} (hletter : w'.bus.letters[c]? =
      some ⟨MethodId.saveMetadata.subject inst, headers, WireMessage.encode metadata⟩) :
    Saving inst store metadata c w' (g.after w m w') := by
  have hcustody := hm.step.custody hp
  have hnamed : ∀ (name : String) (r : Request), w'.desk.requests[name]? = some r → ¬ r.IsOf c := by
    intro name r hr hc
    rcases hcustody.named c name r hc hr with hr | ⟨id, subscription, i, hprogram, hstored⟩
    · exact h.named name r hr hc
    · -- who takes it from an inbox delivers it
      have hmem := MemoryBus.stores_iff.mp hstored
      obtain ⟨-, j, d, spans, hj, hd, -⟩ := hrule.served (.task id) i r
        (World.reads_receive hprogram) hmem (h.stored i r hmem hc).1
      cases hj
      rw [hprogram] at hd
      cases hd
  refine ⟨fun i r hr hc => ?_, hnamed, fun id P job hand hc => ?_, fun P p' job hp' hmem hc => ?_,
    fun x hx => h.held_after hrule ht hm hl hp hnamed hx, fun a rest hattempts hwell =>
    Register.Owes.first (fun x hx => (h.held x hx).2) h.first hattempts hwell⟩
  · cases hm.step.stocks with
    | thins touched hthins => exact h.stored i r ((hthins.sublist i).subset hr) hc
    | enters id d k exchanges turn henters =>
      by_cases hi : i = k
      · obtain ⟨call, hcall, -, hbuffer⟩ := henters.call
        rw [hi, hbuffer, List.mem_append, List.mem_singleton] at hr
        rcases hr with hr | rfl
        · exact h.stored k r hr hc
        · obtain rfl : c = d := hc.eq (call.isOf_request d)
          have hlt := (List.getElem?_eq_some_iff.mp hcall).1
          rw [hm.step.letters hp hlt, MemoryBus.letters, List.getElem?_map, hcall] at hletter
          obtain ⟨hsubject, -, hpayload⟩ := Message.mk.inj (Option.some.inj hletter)
          exact ⟨hsubject, hpayload⟩
      · exact h.stored i r (henters.others i hi ▸ hr) hc
  · rcases hcustody.offered c id P job hc hand with hand | ⟨d, hd, -, hstored, hscript⟩
    · exact (h.offered id P job hand hc).imp_left (store_lt hrule hm)
    · rw [hscript]
      exact (h.of_served hrule hd hstored hc).imp_left (store_lt hrule hm)
  · refine And.imp_left (store_lt hrule hm) ?_
    rcases hcustody.pooled c P p' job hc hp' hmem with ⟨p, hp, hmem⟩ | ⟨id, hand⟩
    · exact h.pooled P p job hp hmem hc
    · exact h.offered id P job hand hc

end Steps

/-- **In every run in which the metadata for an instance are saved**, the request of a call that sends
some is kept track of. -/
theorem of_correspondence {rule : World → Mover → World → Prop} (h : Correspondence rule w g)
    (hrule : ∀ v m v', rule v m v' → SavesIn inst store v m v') {headers : Headers}
    (hletter : w.bus.letters[c]? =
      some ⟨MethodId.saveMetadata.subject inst, headers, WireMessage.encode metadata⟩) :
    Saving inst store metadata c w g := by
  induction h with
  | refl => cases hletter
  | @tail w w' g m h hm hkeeps ih =>
    have hpools := (World.Attended.of_steps h.steps).pools
    have hbefore : Saving inst store metadata c w g := by
      by_cases hlt : c < w.bus.calls.length
      · exact ih (hm.step.letters hpools hlt ▸ hletter)
      · exact of_not_lt (.of_steps h.steps) h.tracks hlt
    exact hbefore.step (hrule w m w' hkeeps) h.tracks hm (.of_steps h.steps) hpools hletter

end Saving

end ServiceBus.Greeter
