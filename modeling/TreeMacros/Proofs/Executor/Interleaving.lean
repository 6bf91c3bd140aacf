import Mathlib.Data.List.Nodup
import Mathlib.Logic.Relation
import TreeMacros.Executor.Worker

/-! # A link in the middle of its work

The calls, the dispatcher of replies and the worker take their steps in any order: between two
steps of a call its reply may arrive, or its time may end while the reply is under way. All of them
strike ids off one table. A call finds its reply in a mailbox of its own; who strikes the id off
first decides how the call ends. Ids are numbers that count up, so there are fewer than 2^64 calls
where the counter has 64 bits.
-/

namespace TreeMacros

/-- How far a call has come. -/
inductive CallStage where
  /-- There is no such call. -/
  | unknown
  /-- It has an id. -/
  | numbered
  /-- Its id is in the table; its request has not been sent. -/
  | listed
  /-- Its request was sent. -/
  | waiting
  /-- Its request could not be sent, and its id is to be struck off. -/
  | refused
  /-- Its time is over, and its id is to be struck off. -/
  | expired
  | finished

/-- How many steps a call has behind it. -/
def CallStage.rank : CallStage → Nat
  | unknown => 0
  | numbered => 1
  | listed => 2
  | waiting | refused | expired => 3
  | finished => 4

/-- What is handed to a call. -/
inductive Mailbox where
  | empty
  | letter (reply : WorkerReply)
  /-- Nobody is left who could hand over a reply. -/
  | dropped

/-- What the dispatcher of replies is about. -/
inductive Dispatcher where
  | idle
  /-- It has received a reply and has not looked at the table. -/
  | received (reply : WorkerReply)
  /-- It has struck the id of the reply off the table. -/
  | addressed (reply : WorkerReply)
  | stopped

/-- A link in the middle of its work. -/
structure Traffic extends WorkerLink where
  stage : String → CallStage := fun _ => .unknown
  mailbox : String → Mailbox := fun _ => .empty
  /-- The replies that have not been received, in order. -/
  inbox : List WorkerReply := []
  dispatcher : Dispatcher := .idle

/-- The call was issued and has not ended. -/
def WorkerLink.IsOpen (link : WorkerLink) (id : String) : Prop :=
  (∃ k < link.issued, id = callId k) ∧ id ∉ link.ended.map (·.1)

namespace Traffic

open WorkerLink (callId)

/-- A call comes to a stage. -/
def advance (t : Traffic) (id : String) (stage : CallStage) : Traffic :=
  { t with stage := Function.update t.stage id stage }

/-- A call ends. -/
def conclude (t : Traffic) (id : String) (how : CallEnd) : Traffic :=
  { t.advance id .finished with ended := t.ended ++ [(id, how)] }

/-- An id is struck off the table. -/
def strike (t : Traffic) (id : String) : Traffic :=
  { t with pending := t.pending.filter (· != id) }

section Views

variable (t : Traffic) (id : String) (stage : CallStage) (how : CallEnd)

@[grind =] theorem stage_advance (other : String) :
    (t.advance id stage).stage other = if other = id then stage else t.stage other :=
  Function.update_apply ..

@[grind =] theorem pending_advance : (t.advance id stage).pending = t.pending := rfl
@[grind =] theorem ended_advance : (t.advance id stage).ended = t.ended := rfl
@[grind =] theorem sent_advance : (t.advance id stage).sent = t.sent := rfl
@[grind =] theorem issued_advance : (t.advance id stage).issued = t.issued := rfl
@[grind =] theorem mailbox_advance (other : String) :
    (t.advance id stage).mailbox other = t.mailbox other := rfl

@[grind =] theorem dispatcher_advance : (t.advance id stage).dispatcher = t.dispatcher := rfl

@[grind =] theorem stage_conclude (other : String) :
    (t.conclude id how).stage other = if other = id then .finished else t.stage other :=
  Function.update_apply ..

@[grind =] theorem pending_conclude : (t.conclude id how).pending = t.pending := rfl
@[grind =] theorem ended_conclude : (t.conclude id how).ended = t.ended ++ [(id, how)] := rfl
@[grind =] theorem sent_conclude : (t.conclude id how).sent = t.sent := rfl
@[grind =] theorem issued_conclude : (t.conclude id how).issued = t.issued := rfl
@[grind =] theorem mailbox_conclude (other : String) :
    (t.conclude id how).mailbox other = t.mailbox other := rfl

@[grind =] theorem dispatcher_conclude : (t.conclude id how).dispatcher = t.dispatcher := rfl

@[grind =] theorem mem_pending_strike (other : String) :
    other ∈ (t.strike id).pending ↔ other ∈ t.pending ∧ other ≠ id := by
  simp [strike]

@[grind =] theorem stage_strike (other : String) :
    (t.strike id).stage other = t.stage other := rfl

@[grind =] theorem ended_strike : (t.strike id).ended = t.ended := rfl
@[grind =] theorem sent_strike : (t.strike id).sent = t.sent := rfl
@[grind =] theorem issued_strike : (t.strike id).issued = t.issued := rfl
@[grind =] theorem mailbox_strike (other : String) :
    (t.strike id).mailbox other = t.mailbox other := rfl

@[grind =] theorem dispatcher_strike : (t.strike id).dispatcher = t.dispatcher := rfl

end Views

/-- What may happen next. -/
inductive Step : Traffic → Traffic → Prop
  | number (t : Traffic) :
      Step t { t.advance (callId t.issued) .numbered with issued := t.issued + 1 }
  | enlist {t : Traffic} {id : String} (numbered : t.stage id = .numbered) :
      Step t { t.advance id .listed with
        pending := t.pending.filter (· != id) ++ [id]
        mailbox := Function.update t.mailbox id .empty }
  | send {t : Traffic} {id : String} (request : Request) (listed : t.stage id = .listed)
      (takes : t.takesRequests = true) :
      Step t { t.advance id .waiting with sent := t.sent ++ [⟨id, request⟩] }
  | refuse {t : Traffic} {id : String} (listed : t.stage id = .listed)
      (takes : t.takesRequests = false) : Step t (t.advance id .refused)
  | withdraw {t : Traffic} {id : String} (refused : t.stage id = .refused) :
      Step t ((t.strike id).conclude id .unsent)
  | collect {t : Traffic} {id : String} {reply : WorkerReply} (waiting : t.stage id = .waiting)
      (mail : t.mailbox id = .letter reply) : Step t (t.conclude id (.replied reply))
  | abandon {t : Traffic} {id : String} (waiting : t.stage id = .waiting)
      (mail : t.mailbox id = .dropped) : Step t (t.conclude id .stopped)
  | expire {t : Traffic} {id : String} (waiting : t.stage id = .waiting) :
      Step t (t.advance id .expired)
  | giveUp {t : Traffic} {id : String} (expired : t.stage id = .expired) :
      Step t ((t.strike id).conclude id .timedOut)
  | post {t : Traffic} (reply : WorkerReply) (sends : t.sendsReplies = true) :
      Step t { t with inbox := t.inbox ++ [reply] }
  | closeRequests (t : Traffic) : Step t { t with takesRequests := false }
  | closeReplies (t : Traffic) : Step t { t with sendsReplies := false }
  | receive {t : Traffic} {reply : WorkerReply} {rest : List WorkerReply}
      (idle : t.dispatcher = .idle) (next : t.inbox = reply :: rest) :
      Step t { t with inbox := rest, dispatcher := .received reply }
  | address {t : Traffic} {reply : WorkerReply} (received : t.dispatcher = .received reply)
      (waits : reply.id ∈ t.pending) :
      Step t { t.strike reply.id with dispatcher := .addressed reply }
  | discard {t : Traffic} {reply : WorkerReply} (received : t.dispatcher = .received reply)
      (absent : reply.id ∉ t.pending) : Step t { t with dispatcher := .idle }
  | deliver {t : Traffic} {reply : WorkerReply} (addressed : t.dispatcher = .addressed reply) :
      Step t { t with
        mailbox := Function.update t.mailbox reply.id (.letter reply)
        dispatcher := .idle }
  | stop {t : Traffic} (idle : t.dispatcher = .idle) (none : t.inbox = [])
      (closed : t.sendsReplies = false) :
      Step t { t with
        pending := []
        mailbox := fun id => if id ∈ t.pending then .dropped else t.mailbox id
        dispatcher := .stopped }

/-- What holds of a link at every moment. -/
structure Sound (t : Traffic) : Prop where
  issued : ∀ id, t.stage id ≠ .unknown ↔ ∃ k < t.issued, id = callId k
  listed : ∀ id ∈ t.pending, 2 ≤ (t.stage id).rank ∧ (t.stage id).rank ≤ 3
  unique : t.pending.Nodup
  handed : ∀ id, t.mailbox id ≠ .empty → id ∉ t.pending
  addressed : ∀ reply, t.dispatcher = .addressed reply →
    reply.id ∉ t.pending ∧ 2 ≤ (t.stage reply.id).rank
  own : ∀ id reply, t.mailbox id = .letter reply → reply.id = id
  ended : ∀ id, id ∈ t.ended.map (·.1) ↔ t.stage id = .finished
  once : (t.ended.map (·.1)).Nodup
  replied : ∀ id reply, (id, .replied reply) ∈ t.ended → reply.id = id
  sent : ∀ request ∈ t.sent, 3 ≤ (t.stage request.id).rank
  apart : (t.sent.map (·.id)).Nodup

variable {t u : Traffic}

theorem callId_injective : Function.Injective callId := by
  intro j k same
  have digits : Nat.toDigits 10 (j + 1) = Nat.toDigits 10 (k + 1) := by
    simpa [callId, Nat.repr, String.ofList_inj] using same
  have numbers := congrArg (fun digits => Nat.ofDigitChars 10 digits 0) digits
  simpa only [Nat.ofDigitChars_ten_toDigits, Nat.add_right_cancel_iff] using numbers

theorem sound_empty : Sound {} where
  issued := by simp
  listed := by simp
  unique := List.nodup_nil
  handed := by simp
  addressed := by simp
  own := by simp
  ended := by simp
  once := List.nodup_nil
  replied := by simp
  sent := by simp
  apart := List.nodup_nil

namespace Sound

variable (sound : Sound t)

include sound

theorem stage_fresh : t.stage (callId t.issued) = .unknown := by
  by_contra known
  obtain ⟨k, old, same⟩ := (sound.issued _).mp known
  exact absurd (callId_injective same) (Nat.ne_of_gt old)

theorem fresh_not_pending : callId t.issued ∉ t.pending := by
  intro mem
  have listed := (sound.listed _ mem).1
  rw [sound.stage_fresh] at listed
  exact absurd listed (by decide)

end Sound

/-- No call goes back. -/
theorem Step.rank_le (sound : Sound t) (step : Step t u) (id : String) :
    (t.stage id).rank ≤ (u.stage id).rank := by
  have fresh := sound.stage_fresh
  cases step <;> grind [CallStage.rank]

namespace Sound

variable (sound : Sound t) (step : Step t u)

include sound step

theorem step_issued (id : String) :
    u.stage id ≠ .unknown ↔ ∃ k < u.issued, id = callId k := by
  have issued := sound.issued
  cases step <;> grind

theorem step_listed (id : String) (mem : id ∈ u.pending) :
    2 ≤ (u.stage id).rank ∧ (u.stage id).rank ≤ 3 := by
  have listed := sound.listed
  have handed := sound.handed
  have fresh := sound.stage_fresh
  cases step <;> grind [CallStage.rank]

theorem step_unique : u.pending.Nodup := by
  have unique := sound.unique
  cases step <;> grind [List.nodup_append, strike]

theorem step_addressed (reply : WorkerReply) (addressed : u.dispatcher = .addressed reply) :
    reply.id ∉ u.pending ∧ 2 ≤ (u.stage reply.id).rank := by
  have before := sound.addressed
  have listed := sound.listed
  have ranks := step.rank_le sound reply.id
  cases step <;> grind [CallStage.rank]

theorem step_handed (id : String) (mail : u.mailbox id ≠ .empty) : id ∉ u.pending := by
  have handed := sound.handed
  have addressed := sound.addressed
  cases step <;> grind [Function.update_apply]

theorem step_own (id : String) (reply : WorkerReply) (mail : u.mailbox id = .letter reply) :
    reply.id = id := by
  have own := sound.own
  cases step <;> grind [Function.update_apply]

theorem step_ended (id : String) : id ∈ u.ended.map (·.1) ↔ u.stage id = .finished := by
  have ended := sound.ended
  have fresh := sound.stage_fresh
  cases step <;> grind

theorem step_once : (u.ended.map (·.1)).Nodup := by
  have once := sound.once
  have ended := sound.ended
  cases step <;> grind [List.nodup_append]

theorem step_replied (id : String) (reply : WorkerReply)
    (replied : (id, .replied reply) ∈ u.ended) : reply.id = id := by
  have before := sound.replied
  have own := sound.own
  cases step <;> grind

theorem step_sent (request : WorkerRequest) (mem : request ∈ u.sent) :
    3 ≤ (u.stage request.id).rank := by
  have sent := sound.sent
  have ranks := step.rank_le sound request.id
  cases step <;> grind [CallStage.rank]

theorem step_apart : (u.sent.map (·.id)).Nodup := by
  have apart := sound.apart
  have sent := sound.sent
  cases step <;> grind [CallStage.rank, List.nodup_append]

theorem next : Sound u :=
  ⟨sound.step_issued step, sound.step_listed step, sound.step_unique step, sound.step_handed step,
    sound.step_addressed step, sound.step_own step, sound.step_ended step, sound.step_once step,
    sound.step_replied step, sound.step_sent step, sound.step_apart step⟩

end Sound

/-- What may happen in the end. -/
abbrev Reaches : Traffic → Traffic → Prop :=
  Relation.ReflTransGen Step

theorem Sound.reaches (sound : Sound t) (steps : Reaches t u) : Sound u := by
  induction steps with
  | refl => exact sound
  | tail _ step ih => exact ih.next step

theorem Sound.isOpen (sound : Sound t) (id : String) (mem : id ∈ t.pending) : t.IsOpen id := by
  obtain ⟨atLeast, atMost⟩ := sound.listed id mem
  constructor
  · refine (sound.issued id).mp fun unknown => ?_
    rw [unknown] at atLeast
    exact absurd atLeast (by decide)
  · intro ended
    rw [(sound.ended id).mp ended] at atMost
    exact absurd atMost (by decide)

/-! ## The link as one schedule -/

/-- Nothing is under way but calls that wait. -/
structure Settled (t : Traffic) : Prop where
  inbox : t.inbox = []
  dispatcher : t.dispatcher = if t.sendsReplies then .idle else .stopped
  waiting : ∀ id ∈ t.pending, t.stage id = .waiting

theorem settled_empty : Settled {} :=
  ⟨rfl, rfl, nofun⟩

/-- The calls that wait in vain end one after the other. -/
theorem reaches_abandoned (ids : List String) (distinct : ids.Nodup)
    (waits : ∀ id ∈ ids, t.stage id = .waiting ∧ t.mailbox id = .dropped) :
    ∃ u, Reaches t u ∧ u.inbox = t.inbox ∧ u.dispatcher = t.dispatcher ∧
      u.toWorkerLink = { t.toWorkerLink with ended := t.ended ++ ids.map (·, .stopped) } := by
  induction ids generalizing t with
  | nil => exact ⟨t, .refl, rfl, rfl, by simp⟩
  | cons id rest ih =>
      obtain ⟨fresh, distinct⟩ := List.nodup_cons.mp distinct
      obtain ⟨waiting, dropped⟩ := waits id List.mem_cons_self
      have others : ∀ other ∈ rest, (t.conclude id .stopped).stage other = .waiting ∧
          (t.conclude id .stopped).mailbox other = .dropped := by
        intro other mem
        have apart : other ≠ id := fun same => fresh (same ▸ mem)
        rw [stage_conclude, if_neg apart]
        exact waits other (List.mem_cons_of_mem id mem)
      obtain ⟨u, steps, inbox, dispatcher, link⟩ := ih distinct others
      refine ⟨u, .head (.abandon waiting dropped) steps, inbox, dispatcher, ?_⟩
      rw [link]
      simp [conclude, advance]

theorem reaches_call (sound : Sound t) (settled : Settled t) (request : Request) :
    ∃ u, Reaches t u ∧ Settled u ∧ u.toWorkerLink = t.toWorkerLink.step (.call request) := by
  have absent := sound.fresh_not_pending
  have struck : t.pending.filter (· != callId t.issued) = t.pending := by
    refine List.filter_eq_self.mpr fun id mem => bne_iff_ne.mpr ?_
    rintro rfl
    exact absent mem
  have known : ({ t.advance (callId t.issued) .numbered with issued := t.issued + 1 } :
      Traffic).stage (callId t.issued) = .numbered := Function.update_self ..
  have enlisted := (Relation.ReflTransGen.single (Step.number t)).tail (.enlist known)
  cases takes : t.takesRequests with
  | true =>
      refine ⟨_, enlisted.tail (.send request (Function.update_self ..) takes),
        ⟨settled.inbox, settled.dispatcher, ?_⟩, ?_⟩
      · have waiting := settled.waiting
        grind
      · simp [WorkerLink.step, takes, advance, struck]
  | false =>
      refine ⟨_, (enlisted.tail (.refuse (Function.update_self ..) takes)).tail
        (.withdraw (Function.update_self ..)), ⟨settled.inbox, settled.dispatcher, ?_⟩, ?_⟩
      · have waiting := settled.waiting
        grind
      · simp [WorkerLink.step, takes, conclude, strike, advance, struck]

theorem reaches_reply (settled : Settled t) (reply : WorkerReply) :
    ∃ u, Reaches t u ∧ Settled u ∧ u.toWorkerLink = t.toWorkerLink.step (.reply reply) := by
  cases sends : t.sendsReplies with
  | false => exact ⟨t, .refl, settled, by simp [WorkerLink.step, sends]⟩
  | true =>
      have idle : t.dispatcher = .idle := by rw [settled.dispatcher, sends, if_pos rfl]
      have next : t.inbox ++ [reply] = [reply] := by rw [settled.inbox, List.nil_append]
      have posted := Relation.ReflTransGen.single (Step.post reply sends)
      have received := posted.tail (.receive idle next)
      by_cases waits : reply.id ∈ t.pending
      · have delivered := (received.tail (.address rfl waits)).tail (.deliver rfl)
        refine ⟨_, delivered.tail (.collect (settled.waiting _ waits) (Function.update_self ..)),
          ⟨rfl, ?_, ?_⟩, ?_⟩
        · simp [conclude, advance, strike, sends]
        · have waiting := settled.waiting
          grind
        · simp [WorkerLink.step, WorkerLink.finish, sends, waits, conclude, strike, advance]
      · refine ⟨_, received.tail (.discard rfl waits), ⟨rfl, ?_, settled.waiting⟩, ?_⟩
        · simp [sends]
        · simp [WorkerLink.step, WorkerLink.finish, sends, waits]

theorem reaches_timeout (settled : Settled t) (id : String) :
    ∃ u, Reaches t u ∧ Settled u ∧ u.toWorkerLink = t.toWorkerLink.step (.timeout id) := by
  by_cases waits : id ∈ t.pending
  · have expired := Relation.ReflTransGen.single (Step.expire (settled.waiting id waits))
    refine ⟨_, expired.tail (.giveUp (Function.update_self ..)),
      ⟨settled.inbox, settled.dispatcher, ?_⟩, ?_⟩
    · have waiting := settled.waiting
      grind
    · simp [WorkerLink.step, WorkerLink.finish, waits, conclude, strike, advance]
  · exact ⟨t, .refl, settled, by simp [WorkerLink.step, WorkerLink.finish, waits]⟩

theorem reaches_closeReplies (sound : Sound t) (settled : Settled t) :
    ∃ u, Reaches t u ∧ Settled u ∧ u.toWorkerLink = t.toWorkerLink.step .closeReplies := by
  cases sends : t.sendsReplies with
  | false => exact ⟨t, .refl, settled, by simp [WorkerLink.step, sends]⟩
  | true =>
      have idle : t.dispatcher = .idle := by rw [settled.dispatcher, sends, if_pos rfl]
      have closed := Relation.ReflTransGen.single (Step.closeReplies t)
      have stopped := closed.tail (.stop idle settled.inbox rfl)
      obtain ⟨u, steps, inbox, dispatcher, link⟩ := reaches_abandoned t.pending sound.unique
        (t := { t with
          sendsReplies := false
          pending := []
          mailbox := fun id => if id ∈ t.pending then .dropped else t.mailbox id
          dispatcher := .stopped })
        fun id mem => ⟨settled.waiting id mem, if_pos mem⟩
      refine ⟨u, stopped.trans steps, ⟨inbox.trans settled.inbox, ?_, ?_⟩, ?_⟩
      · simp [dispatcher, link]
      · simp [link]
      · simp [link, WorkerLink.step, sends]

/-- What the link does at an event, the traffic can do step by step. -/
theorem reaches_step (sound : Sound t) (settled : Settled t) (event : LinkEvent) :
    ∃ u, Reaches t u ∧ Settled u ∧ u.toWorkerLink = t.toWorkerLink.step event := by
  cases event with
  | call request => exact reaches_call sound settled request
  | reply reply => exact reaches_reply settled reply
  | timeout id => exact reaches_timeout settled id
  | closeRequests =>
      have still : Settled { t with takesRequests := false } :=
        ⟨settled.inbox, settled.dispatcher, settled.waiting⟩
      exact ⟨_, .single (.closeRequests t), still, rfl⟩
  | closeReplies => exact reaches_closeReplies sound settled

theorem reaches_run (sound : Sound t) (settled : Settled t) (events : List LinkEvent) :
    ∃ u, Reaches t u ∧ u.toWorkerLink = t.toWorkerLink.run events := by
  induction events generalizing t with
  | nil => exact ⟨t, .refl, rfl⟩
  | cons event rest ih =>
      obtain ⟨next, steps, settled, link⟩ := reaches_step sound settled event
      obtain ⟨u, more, same⟩ := ih (sound.reaches steps) settled
      refine ⟨u, steps.trans more, ?_⟩
      rw [same, link]
      rfl

/-- No step takes back that a call ended. -/
theorem Step.ended_prefix (step : Step t u) : t.ended <+: u.ended := by
  cases step <;> first | exact List.prefix_refl _ | exact List.prefix_append _ _

theorem Reaches.ended_prefix (steps : Reaches t u) : t.ended <+: u.ended := by
  induction steps with
  | refl => exact List.prefix_refl _
  | tail _ step ih => exact ih.trans step.ended_prefix

/-- In every order of events all calls have ids of their own and end once at most, a reply that ends
    a call carries its id and is handed to no other, and what is in the table belongs to calls that
    go on. What the link does at a time is one such order. -/
theorem replies_reach_their_calls :
    (∀ t, Reaches {} t →
      (∀ j < t.issued, ∀ k < t.issued, callId j = callId k → j = k) ∧
      (t.sent.map (·.id)).Nodup ∧
      (t.ended.map (·.1)).Nodup ∧
      (∀ u, Reaches t u → t.ended <+: u.ended) ∧
      (∀ id reply, (id, .replied reply) ∈ t.ended → reply.id = id ∧
        ∀ other, t.mailbox other = .letter reply ∨ (other, .replied reply) ∈ t.ended →
          other = id) ∧
      (∀ id ∈ t.pending, t.IsOpen id) ∧
      ((∀ id, ¬t.IsOpen id) → t.inFlight = 0)) ∧
    ∀ events, ∃ t, Reaches {} t ∧ t.toWorkerLink = ({} : WorkerLink).run events := by
  refine ⟨fun t reached => ?_, reaches_run sound_empty settled_empty⟩
  have sound := sound_empty.reaches reached
  have opened := sound.isOpen
  refine ⟨fun j _ k _ same => callId_injective same, sound.apart, sound.once,
    fun u more => more.ended_prefix, ?_, opened, ?_⟩
  · intro id reply replied
    have own := sound.replied id reply replied
    refine ⟨own, fun other elsewhere => ?_⟩
    rcases elsewhere with mail | ended
    · exact (sound.own other reply mail).symm.trans own
    · exact (sound.replied other reply ended).symm.trans own
  · intro closed
    refine List.length_eq_zero_iff.mpr (List.eq_nil_iff_forall_not_mem.mpr fun id mem => ?_)
    exact closed id (opened id mem)

/-- A reply that is on its way when the time of the call ends. -/
theorem replies_reach_their_calls_late :
    ∃ t, Reaches {} t ∧ t.ended = [("m1", .timedOut)] ∧ t.inFlight = 0 := by
  have numbered := Relation.ReflTransGen.single (Step.number {})
  have listed := numbered.tail (.enlist (Function.update_self ..))
  have waiting := listed.tail (.send default (Function.update_self ..) rfl)
  have posted := waiting.tail (.post ⟨"m1", .failure "late"⟩ rfl)
  have received := posted.tail (.receive rfl rfl)
  have addressed := received.tail (.address rfl (List.mem_singleton_self _))
  have expired := addressed.tail (.expire (Function.update_self ..))
  have delivered := (expired.tail (.giveUp (Function.update_self ..))).tail (.deliver rfl)
  refine ⟨_, delivered, rfl, ?_⟩
  refine (replies_reach_their_calls.1 _ delivered).2.2.2.2.2.2 ?_
  rintro _ ⟨⟨k, one, rfl⟩, going⟩
  obtain rfl : k = 0 := Nat.lt_one_iff.mp one
  exact going (List.mem_singleton_self _)

end Traffic
end TreeMacros
