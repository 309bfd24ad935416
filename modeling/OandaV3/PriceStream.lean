import OandaV3.Dict
import OandaV3.LatestQueues
import OandaV3.Models

/-! # The price stream

`.worktrees/scan-force/background/stream_task.py`: one producer reads the ticks of the price stream and
publishes each of them to two queues, whose consumers hand them to the excursion tracker and to the price
alerts.  A queue holds instruments; the latest tick of each is kept aside, and replaces the one before.

The tasks take turns at their `await`s, so a run is a list of `StreamAction`s in any order.  A consumer may be
interrupted between the end of `queue.get` and the code after it, as `wait_for` runs it in a task of
its own.  Starting and stopping are not modelled.

* `see_cases`: what an action can do to one queue (`Seen`), in terms of `Latest.Mailbox`.
* `priceStream_accounts`: every tick is handed over, waits, or is counted as dropped; the ticks of an
  instrument keep their order, and the last one is never dropped.
* `priceStream_serves`: a tick is handed over, or a newer one, before as many ticks are handed over as there
  are instruments. -/

namespace OandaV3

open Dict Latest

/-! ### Ticks -/

/-- `PriceTick`. -/
structure PriceTick where
  instrument : String
  bid : ℚ
  ask : ℚ
  time : Instant
  contract : bid ≤ ask
deriving DecidableEq

/-- What the stream client yields. -/
inductive StreamEvent where
  | tick (event : PriceTick)
  | heartbeat (time : Instant)
deriving DecidableEq

/-! ### Queues -/

/-- `_QueueState`, with its count of `_dropped_events`. -/
structure QueueState where
  maxsize : ℕ
  queue : List String := []
  latestByInstrument : List (String × PriceTick) := []
  queuedInstruments : List String := []
  droppedEvents : ℕ := 0
deriving DecidableEq

/-- `_enqueue_latest`. -/
def QueueState.enqueueLatest (s : QueueState) (event : PriceTick) : QueueState :=
  let replaced := (s.latestByInstrument.lookup event.instrument).isSome
  let latest := assign s.latestByInstrument event.instrument event
  if event.instrument ∈ s.queuedInstruments then
    { s with
      latestByInstrument := latest
      droppedEvents := if replaced then s.droppedEvents + 1 else s.droppedEvents }
  else if s.queue.length < s.maxsize then
    { s with
      latestByInstrument := latest
      queue := s.queue ++ [event.instrument]
      queuedInstruments := s.queuedInstruments.insert event.instrument }
  else
    -- `asyncio.QueueFull`
    { s with
      latestByInstrument := pop latest event.instrument
      droppedEvents := s.droppedEvents + 1 }

/-! ### Tasks -/

/-- `BackgroundRuntimeState`. -/
inductive BackgroundRuntimeState where
  | STOPPED
  | RUNNING
  | DEGRADED
  | FAILED
deriving DecidableEq, Repr

/-- `_TaskState`, but for its times. -/
structure TaskState where
  state : BackgroundRuntimeState := .RUNNING
  restartCount : ℕ := 0
  lastError : Option String := none
deriving DecidableEq, Repr

/-- Where a consumer is: in `queue.get`, between it and the code after it, or in its handler. -/
inductive ConsumerStage where
  | waiting
  | got (instrument : String)
  | handling (tick : PriceTick)
deriving DecidableEq

structure Consumer where
  queue : QueueState
  stage : ConsumerStage := .waiting
  task : TaskState := {}
deriving DecidableEq

/-- What a consumer does next; its handler returns or raises. -/
inductive ConsumerAction where
  | get
  | take
  | handled (error : Option String)
deriving DecidableEq

/-- One action of `_run_consumer`, and the tick it hands to the handler; an action that is not the next one
does nothing. -/
def Consumer.act (c : Consumer) : ConsumerAction → Consumer × List PriceTick
  | .get =>
      match c.stage, c.queue.queue with
      | .waiting, instrument :: rest =>
          ({ c with stage := .got instrument, queue := { c.queue with queue := rest } }, [])
      | _, _ => (c, [])
  | .take =>
      match c.stage with
      | .got instrument =>
          let queue := { c.queue with
            queuedInstruments := c.queue.queuedInstruments.filter (· ≠ instrument)
            latestByInstrument := pop c.queue.latestByInstrument instrument }
          match c.queue.latestByInstrument.lookup instrument with
          | none => ({ c with stage := .waiting, queue }, [])
          | some tick => ({ c with stage := .handling tick, queue }, [tick])
      | _ => (c, [])
  | .handled error =>
      match c.stage with
      | .handling _ =>
          match error with
          | none => ({ c with stage := .waiting, task := { c.task with state := .RUNNING } }, [])
          | some message =>
              ({ c with
                stage := .waiting
                task := { c.task with state := .DEGRADED, lastError := some message } }, [])
      | _ => (c, [])

/-- `_QUEUE_NAMES`. -/
inductive QueueName where
  | excursion
  | priceAlert
deriving DecidableEq, Repr

/-- What happens to the tasks: the stream yields an event, ends or raises, or a consumer goes on. -/
inductive StreamAction where
  | event (event : StreamEvent)
  | ended
  | failed (message : String)
  | consumer (name : QueueName) (action : ConsumerAction)
deriving DecidableEq

/-- The state of `_run_stream`. -/
structure StreamProducer where
  task : TaskState := {}
  latestTicks : List (String × PriceTick) := []
  lastTickAt : Option Instant := none
  lastHeartbeatAt : Option Instant := none
  lastError : Option String := none
  reconnectCount : ℕ := 0
  backoffSeconds : ℕ := 1
deriving DecidableEq

/-- What an action does to the producer; `backoff_seconds` is what it sleeps for after the stream. -/
def StreamProducer.see (p : StreamProducer) : StreamAction → StreamProducer
  | .event event =>
      let p := if p.lastError.isSome then
        { p with lastError := none, task := { p.task with lastError := none } } else p
      match event with
      | .heartbeat time => { p with lastHeartbeatAt := some time }
      | .tick tick => { p with
          lastTickAt := some tick.time
          latestTicks := assign p.latestTicks tick.instrument tick }
  | .ended => { p with
      reconnectCount := p.reconnectCount + 1
      task := { p.task with state := .RUNNING, restartCount := p.task.restartCount + 1 }
      -- doubled after the sleep, and reset by the `else` of the `try`
      backoffSeconds := 1 }
  | .failed message => { p with
      lastError := some message
      reconnectCount := p.reconnectCount + 1
      task := { state := .DEGRADED, restartCount := p.task.restartCount + 1,
                lastError := some message }
      backoffSeconds := min (p.backoffSeconds * 2) 60 }
  | .consumer _ _ => p

/-- What an action does to the consumer of a queue, and the tick it hands to the handler. -/
def Consumer.see (name : QueueName) (c : Consumer) : StreamAction → Consumer × List PriceTick
  | .event (.tick tick) => ({ c with queue := c.queue.enqueueLatest tick }, [])
  | .consumer name' action => if name' = name then c.act action else (c, [])
  | _ => (c, [])

/-- `PriceStreamTask`, with the ticks handed to the handler of each queue so far. -/
structure PriceStreamTask where
  producer : StreamProducer := {}
  consumers : QueueName → Consumer
  handed : QueueName → List PriceTick := fun _ => []

namespace PriceStreamTask

/-- `start`, with the size of the queues from the constructor. -/
def start (streamInstruments : List String) (queueMaxsize : ℤ) : PriceStreamTask where
  consumers := fun _ =>
    { queue := { maxsize := max (max queueMaxsize.toNat streamInstruments.length) 1 } }

def step (s : PriceStreamTask) (a : StreamAction) : PriceStreamTask where
  producer := s.producer.see a
  consumers := fun name => ((s.consumers name).see name a).1
  handed := fun name => s.handed name ++ ((s.consumers name).see name a).2

def run (s : PriceStreamTask) (actions : List StreamAction) : PriceStreamTask := actions.foldl step s

end PriceStreamTask

def StreamAction.ticks : StreamAction → List PriceTick
  | .event (.tick tick) => [tick]
  | _ => []

/-- The ticks of a run, in the order in which the stream yields them. -/
def publishedTicks (actions : List StreamAction) : List PriceTick := actions.flatMap StreamAction.ticks

/-! ### One queue as a mailbox -/

/-- The instrument a consumer has got and not taken yet. -/
def ConsumerStage.inHand : ConsumerStage → List String
  | .got instrument => [instrument]
  | _ => []

/-- The consumer stands for a mailbox: the instrument in its hand has the first turn. -/
structure Consumer.Represents (size : ℕ) (c : Consumer) (m : Mailbox PriceTick.instrument) : Prop where
  maxsize : c.queue.maxsize = size
  turns : c.stage.inHand ++ c.queue.queue = m.turns
  waiting : ∀ i, c.queue.latestByInstrument.lookup i = m.waiting i
  queued : ∀ i, i ∈ c.queue.queuedInstruments ↔ i ∈ m.turns
  keys : (c.queue.latestByInstrument.map Prod.fst).Nodup

section mailbox

variable {size : ℕ} {c : Consumer} {m : Mailbox PriceTick.instrument}

theorem represents_start (size : ℕ) :
    Consumer.Represents size { queue := { maxsize := size } } (Mailbox.empty PriceTick.instrument) :=
  ⟨rfl, rfl, fun _ => rfl, fun _ => Iff.rfl, List.nodup_nil⟩

theorem waiting_put (m : Mailbox PriceTick.instrument) (tick : PriceTick) {d : List (String × PriceTick)}
    (h : ∀ i, d.lookup i = m.waiting i) (i : String) :
    (assign d tick.instrument tick).lookup i = (m.put tick).waiting i := by
  by_cases hi : i = tick.instrument
  · subst hi
    rw [lookup_assign_self, m.waiting_put_self]
  · rw [lookup_assign_ne d tick hi, m.waiting_put_of_ne tick hi, h]

/-- What an action can do to a queue: a tick is put, or dropped by a full queue; or nothing happens to the
mailbox; or the first of its ticks is handed over. -/
inductive Seen (size : ℕ) (c : Consumer) (m : Mailbox PriceTick.instrument) :
    StreamAction → Consumer × List PriceTick → Mailbox PriceTick.instrument → Prop
  | put (tick : PriceTick) (c' : Consumer) (represents : c'.Represents size (m.put tick))
      (dropped : c'.queue.droppedEvents + (m.put tick).turns.length =
        c.queue.droppedEvents + m.turns.length + 1) :
      Seen size c m (.event (.tick tick)) (c', []) (m.put tick)
  | full (tick : PriceTick) (c' : Consumer) (represents : c'.Represents size m)
      (newcomer : tick.instrument ∉ m.turns) (full : size ≤ m.turns.length)
      (dropped : c'.queue.droppedEvents = c.queue.droppedEvents + 1) :
      Seen size c m (.event (.tick tick)) (c', []) m
  | silent (a : StreamAction) (c' : Consumer) (noTick : a.ticks = []) (represents : c'.Represents size m)
      (dropped : c'.queue.droppedEvents = c.queue.droppedEvents) :
      Seen size c m a (c', []) m
  | took (a : StreamAction) (c' : Consumer) (noTick : a.ticks = []) (tick : PriceTick) {i : String}
      {rest : List String} (turns : m.turns = i :: rest) (waiting : m.waiting i = some tick)
      (represents : c'.Represents size (m.take turns))
      (dropped : c'.queue.droppedEvents = c.queue.droppedEvents) :
      Seen size c m a (c', [tick]) (m.take turns)

theorem seen_enqueueLatest (h : c.Represents size m) (tick : PriceTick) :
    ∃ m', Seen size c m (.event (.tick tick)) ({ c with queue := c.queue.enqueueLatest tick }, []) m' := by
  unfold QueueState.enqueueLatest
  by_cases hqueued : tick.instrument ∈ c.queue.queuedInstruments
  · -- the instrument has a turn, so that it has a tick to replace
    have hturn : tick.instrument ∈ m.turns := (h.queued tick.instrument).mp hqueued
    have hreplaced : (c.queue.latestByInstrument.lookup tick.instrument).isSome = true := by
      rw [h.waiting]
      exact (m.mem_turns tick.instrument).mp hturn
    have hturns : (m.put tick).turns = m.turns := if_pos hturn
    simp only [if_pos hqueued, hreplaced, if_true]
    refine ⟨m.put tick, .put tick _ ⟨h.maxsize, h.turns.trans hturns.symm, waiting_put m tick h.waiting,
      fun i => ?_, nodup_assign tick h.keys⟩ ?_⟩
    · rw [hturns]
      exact h.queued i
    · rw [hturns]
      exact Nat.add_right_comm _ _ _
  · have hnew : tick.instrument ∉ m.turns := fun hturn => hqueued ((h.queued tick.instrument).mpr hturn)
    have hturns : (m.put tick).turns = m.turns ++ [tick.instrument] := if_neg hnew
    by_cases hroom : c.queue.queue.length < c.queue.maxsize
    · simp only [if_neg hqueued, if_pos hroom]
      refine ⟨m.put tick, .put tick _ ⟨h.maxsize, ?_, waiting_put m tick h.waiting, fun i => ?_,
        nodup_assign tick h.keys⟩ ?_⟩
      · rw [hturns, ← h.turns, List.append_assoc]
      · rw [hturns, List.mem_insert_iff, List.mem_append, List.mem_singleton, h.queued, or_comm]
      · rw [hturns, List.length_append]
        exact (Nat.add_assoc _ _ _).symm
    · simp only [if_neg hqueued, if_neg hroom]
      refine ⟨m, .full tick _ ⟨h.maxsize, h.turns, fun i => ?_, h.queued,
        nodup_pop _ (nodup_assign tick h.keys)⟩ hnew ?_ rfl⟩
      · by_cases hi : i = tick.instrument
        · subst hi
          rw [lookup_pop_self, eq_comm, ← Option.not_isSome_iff_eq_none, ← m.mem_turns]
          exact hnew
        · rw [lookup_pop_ne _ hi, lookup_assign_ne _ tick hi]
          exact h.waiting i
      · rw [← h.maxsize, ← h.turns, List.length_append]
        exact (not_lt.mp hroom).trans (Nat.le_add_left _ _)

theorem seen_act (h : c.Represents size m) {a : StreamAction} (hnone : a.ticks = [])
    (action : ConsumerAction) : ∃ m', Seen size c m a (c.act action) m' := by
  cases action with
  | get =>
      rw [Consumer.act]
      split
      · next instrument rest hstage hqueue =>
          refine ⟨m, .silent a _ hnone ⟨h.maxsize, ?_, h.waiting, h.queued, h.keys⟩ rfl⟩
          rw [← h.turns, hstage, hqueue]
          rfl
      · exact ⟨m, .silent a c hnone h rfl⟩
  | take =>
      rw [Consumer.act]
      cases hstage : c.stage with
      | got instrument =>
          have hturns : m.turns = instrument :: c.queue.queue := by
            rw [← h.turns, hstage]
            rfl
          obtain ⟨tick, htick, -⟩ := m.exists_of_turns hturns
          have hlookup := (h.waiting instrument).trans htick
          simp only [hlookup]
          refine ⟨m.take hturns, .took a _ hnone tick hturns htick ⟨h.maxsize, rfl, fun i => ?_, fun i => ?_,
            nodup_pop instrument h.keys⟩ rfl⟩
          · by_cases hi : i = instrument
            · subst hi
              rw [lookup_pop_self, m.waiting_take_self]
            · rw [lookup_pop_ne _ hi, h.waiting, m.waiting_take_of_ne hturns hi]
          · have hnot : instrument ∉ c.queue.queue := (List.nodup_cons.mp (hturns ▸ m.nodup)).1
            have hrest : (m.take hturns).turns = c.queue.queue := rfl
            rw [hrest, List.mem_filter, h.queued, hturns, List.mem_cons, decide_eq_true_eq]
            constructor
            · rintro ⟨rfl | hi, hne⟩
              · exact absurd rfl hne
              · exact hi
            · exact fun hi => ⟨Or.inr hi, fun heq => hnot (heq ▸ hi)⟩
      | _ => exact ⟨m, .silent a c hnone h rfl⟩
  | handled error =>
      cases hstage : c.stage with
      | handling tick =>
          have hturns : c.queue.queue = m.turns := by
            rw [← h.turns, hstage]
            rfl
          cases error with
          | none =>
              simp only [Consumer.act, hstage]
              exact ⟨m, .silent a _ hnone ⟨h.maxsize, hturns, h.waiting, h.queued, h.keys⟩ rfl⟩
          | some message =>
              simp only [Consumer.act, hstage]
              exact ⟨m, .silent a _ hnone ⟨h.maxsize, hturns, h.waiting, h.queued, h.keys⟩ rfl⟩
      | _ =>
          simp only [Consumer.act, hstage]
          exact ⟨m, .silent a c hnone h rfl⟩

theorem see_cases (h : c.Represents size m) (name : QueueName) (a : StreamAction) :
    ∃ m', Seen size c m a (c.see name a) m' := by
  cases a with
  | event event =>
      cases event with
      | tick tick => exact seen_enqueueLatest h tick
      | heartbeat time => exact ⟨m, .silent _ c rfl h rfl⟩
  | ended => exact ⟨m, .silent _ c rfl h rfl⟩
  | failed message => exact ⟨m, .silent _ c rfl h rfl⟩
  | consumer name' action =>
      rw [Consumer.see]
      split_ifs with hname
      · exact seen_act h rfl action
      · exact ⟨m, .silent _ c rfl h rfl⟩

/-- As many ticks wait as there are turns. -/
theorem Consumer.Represents.length_latest (h : c.Represents size m) :
    c.queue.latestByInstrument.length = m.turns.length := by
  rw [← List.length_map (f := Prod.fst)]
  refine ((List.perm_ext_iff_of_nodup h.keys m.nodup).mpr fun i => ?_).length_eq
  rw [m.mem_turns, ← h.waiting, isSome_lookup]

/-! ### One queue in a run -/

/-- What holds of a queue after any ticks were published and some of them handed over. -/
structure Accounted (size : ℕ) (published handed : List PriceTick) (c : Consumer)
    (m : Mailbox PriceTick.instrument) : Prop where
  represents : c.Represents size m
  part : ∃ accepted, accepted.Sublist published ∧ Accounts accepted handed m
  total : published.length = handed.length + m.turns.length + c.queue.droppedEvents
  complete : ∀ instruments : List String, instruments.length ≤ size →
    (∀ tick ∈ published, tick.instrument ∈ instruments) → Accounts published handed m

variable {published handed : List PriceTick}

theorem accounted_start (size : ℕ) :
    Accounted size [] [] { queue := { maxsize := size } } (Mailbox.empty PriceTick.instrument) :=
  ⟨represents_start size, ⟨[], List.Sublist.refl [], Accounts.empty⟩, rfl, fun _ _ _ => Accounts.empty⟩

theorem Accounted.not_full (h : Accounted size published handed c m) {instruments : List String}
    (hsize : instruments.length ≤ size) (hpublished : ∀ tick ∈ published, tick.instrument ∈ instruments)
    {i : String} (hi : i ∈ instruments) (hnew : i ∉ m.turns) : m.turns.length < size := by
  have haccounts := h.complete instruments hsize hpublished
  have hsub : (i :: m.turns).Subperm instruments := by
    refine (List.nodup_cons.mpr ⟨hnew, m.nodup⟩).subperm fun k hk => ?_
    cases List.mem_cons.mp hk with
    | inl heq => exact heq ▸ hi
    | inr hk =>
        obtain ⟨tick, htick⟩ := Option.isSome_iff_exists.mp ((m.mem_turns k).mp hk)
        exact m.keyed k tick htick ▸ hpublished tick (haccounts.mem_puts htick)
  exact hsub.length_le.trans hsize

theorem Accounted.see (h : Accounted size published handed c m) {a : StreamAction}
    {seen : Consumer × List PriceTick} {m' : Mailbox PriceTick.instrument} (hseen : Seen size c m a seen m') :
    Accounted size (published ++ a.ticks) (handed ++ seen.2) seen.1 m' := by
  obtain ⟨accepted, hsub, haccepted⟩ := h.part
  have htotal := h.total
  cases hseen with
  | put tick c' hrep hdropped =>
      refine ⟨hrep, ⟨accepted ++ [tick], hsub.append (List.Sublist.refl [tick]), ?_⟩, ?_,
        fun instruments hsize hall => ?_⟩
      · rw [List.append_nil]
        exact haccepted.put tick
      · simp only [StreamAction.ticks, List.length_append, List.length_cons, List.length_nil]
        omega
      · rw [List.append_nil]
        exact (h.complete instruments hsize fun t ht => hall t (List.mem_append_left _ ht)).put tick
  | full tick c' hrep hnew hfull hdropped =>
      refine ⟨hrep, ⟨accepted, hsub.trans (List.sublist_append_left _ _), ?_⟩, ?_,
        fun instruments hsize hall => ?_⟩
      · rw [List.append_nil]
        exact haccepted
      · simp only [StreamAction.ticks, List.length_append, List.length_cons, List.length_nil]
        omega
      · have hroom := h.not_full hsize (fun t ht => hall t (List.mem_append_left _ ht))
          (hall tick (List.mem_append_right _ List.mem_cons_self)) hnew
        exact absurd hfull (not_le.mpr hroom)
  | silent a c' hnone hrep hdropped =>
      rw [hnone, List.append_nil, List.append_nil]
      exact ⟨hrep, h.part, hdropped ▸ htotal, h.complete⟩
  | took a c' hnone tick hturns hwaiting hrep hdropped =>
      rw [hnone, List.append_nil]
      refine ⟨hrep, ⟨accepted, hsub, haccepted.take hturns hwaiting⟩, ?_, fun instruments hsize hall =>
        (h.complete instruments hsize hall).take hturns hwaiting⟩
      have hlength : m.turns.length = (m.take hturns).turns.length + 1 := congrArg List.length hturns
      simp only [List.length_append, List.length_cons, List.length_nil]
      omega

/-- A tick was handed over, or a newer one of its instrument; or fewer ticks were handed over than there
are instruments. -/
def Serves (tick : PriceTick) (instruments : ℕ) (later since : List PriceTick)
    (m : Mailbox PriceTick.instrument) : Prop :=
  (∃ newer ∈ since, newer.instrument = tick.instrument ∧ newer ∈ tick :: later) ∨
    ∃ n newer, Ahead m tick.instrument n ∧ n + since.length < instruments ∧
      m.waiting tick.instrument = some newer ∧ newer ∈ tick :: later

/-- One action serves the tick, or brings its turn closer. -/
theorem Serves.see {tick : PriceTick} {instruments : ℕ} {later since : List PriceTick}
    (h : Serves tick instruments later since m) {a : StreamAction} {seen : Consumer × List PriceTick}
    {m' : Mailbox PriceTick.instrument} (hseen : Seen size c m a seen m') :
    Serves tick instruments (later ++ a.ticks) (since ++ seen.2) m' := by
  have hlater : ∀ newer ∈ tick :: later, newer ∈ tick :: (later ++ a.ticks) := fun newer hnewer =>
    List.cons_subset_cons tick (List.subset_append_left later a.ticks) hnewer
  cases h with
  | inl hserved =>
      obtain ⟨newer, hnewer, hinstrument, hmem⟩ := hserved
      exact Or.inl ⟨newer, List.mem_append_left _ hnewer, hinstrument, hlater newer hmem⟩
  | inr hwaits =>
      obtain ⟨n, newer, hahead, hfew, hwaiting, hmem⟩ := hwaits
      cases hseen with
      | put other c' hrep hdropped =>
          rw [List.append_nil]
          by_cases hother : other.instrument = tick.instrument
          · refine Or.inr ⟨n, other, hahead.put other, hfew, ?_, ?_⟩
            · rw [← hother, m.waiting_put_self]
            · exact List.mem_cons_of_mem _ (List.mem_append_right _ List.mem_cons_self)
          · have hsame := m.waiting_put_of_ne other (Ne.symm hother)
            exact Or.inr ⟨n, newer, hahead.put other, hfew, hsame.trans hwaiting, hlater newer hmem⟩
      | full other c' hrep hnew hfull hdropped =>
          rw [List.append_nil]
          exact Or.inr ⟨n, newer, hahead, hfew, hwaiting, hlater newer hmem⟩
      | silent a c' hnone hrep hdropped =>
          rw [List.append_nil]
          exact Or.inr ⟨n, newer, hahead, hfew, hwaiting, hlater newer hmem⟩
      | @took a c' hnone first i rest hturns hfirst hrep hdropped =>
          cases n with
          | zero =>
              obtain rfl := hahead.eq_of_turns hturns
              obtain rfl := Option.some.inj (hfirst.symm.trans hwaiting)
              exact Or.inl ⟨first, List.mem_append_right _ List.mem_cons_self, m.keyed _ first hfirst,
                hlater first hmem⟩
          | succ n =>
              have hne : tick.instrument ≠ i := by
                rintro rfl
                have hfirst : m.turns[0]? = some tick.instrument := by rw [hturns, List.getElem?_cons_zero]
                have hzero := (List.getElem?_inj (Nat.zero_lt_of_lt hahead.lt_length) m.nodup).mp
                  (hfirst.trans hahead.symm)
                cases hzero
              refine Or.inr ⟨n, newer, hahead.take hturns, ?_,
                (m.waiting_take_of_ne hturns hne).trans hwaiting, hlater newer hmem⟩
              rw [List.length_append, List.length_singleton]
              omega

end mailbox

/-! ### Runs -/

namespace PriceStreamTask

variable (streamInstruments : List String) (queueMaxsize : ℤ) (name : QueueName)

theorem run_concat (s : PriceStreamTask) (actions : List StreamAction) (a : StreamAction) :
    s.run (actions ++ [a]) = (s.run actions).step a := List.foldl_append

theorem publishedTicks_concat (actions : List StreamAction) (a : StreamAction) :
    publishedTicks (actions ++ [a]) = publishedTicks actions ++ a.ticks := by
  unfold publishedTicks
  rw [List.flatMap_append, List.flatMap_singleton]

theorem run_accounted (actions : List StreamAction) : ∃ m,
    Accounted (max (max queueMaxsize.toNat streamInstruments.length) 1) (publishedTicks actions)
      (((start streamInstruments queueMaxsize).run actions).handed name)
      (((start streamInstruments queueMaxsize).run actions).consumers name) m := by
  induction actions using List.reverseRecOn with
  | nil => exact ⟨_, accounted_start _⟩
  | append_singleton actions a ih =>
      obtain ⟨m, hm⟩ := ih
      obtain ⟨m', hseen⟩ := see_cases hm.represents name a
      rw [run_concat, publishedTicks_concat]
      exact ⟨m', hm.see hseen⟩

/-- A tick that is published has its turn before the instruments are through. -/
theorem serves_published {actions : List StreamAction} {tick : PriceTick}
    (h : ∀ t ∈ publishedTicks (actions ++ [.event (.tick tick)]), t.instrument ∈ streamInstruments) :
    ∃ m, Accounted (max (max queueMaxsize.toNat streamInstruments.length) 1)
        (publishedTicks (actions ++ [.event (.tick tick)]))
        (((start streamInstruments queueMaxsize).run (actions ++ [.event (.tick tick)])).handed name)
        (((start streamInstruments queueMaxsize).run (actions ++ [.event (.tick tick)])).consumers name) m ∧
      Serves tick streamInstruments.length [] [] m := by
  obtain ⟨m, hm⟩ := run_accounted streamInstruments queueMaxsize name actions
  obtain ⟨m', hseen⟩ := see_cases hm.represents name (.event (.tick tick))
  have hafter := hm.see hseen
  have hsize : streamInstruments.length ≤ max (max queueMaxsize.toNat streamInstruments.length) 1 :=
    (le_max_right _ _).trans (le_max_left _ _)
  rw [run_concat, publishedTicks_concat]
  rw [publishedTicks_concat] at h
  refine ⟨m', hafter, ?_⟩
  have hlength := (hafter.complete streamInstruments hsize h).turns_length_le h
  generalize (((start streamInstruments queueMaxsize).run actions).consumers name).see name
    (.event (.tick tick)) = seen at hseen
  cases hseen with
  | put _ c' hrep hdropped =>
      obtain ⟨n, hahead⟩ := Ahead.exists_put m tick
      exact Or.inr ⟨n, tick, hahead, hahead.lt_length.trans_le hlength,
        m.waiting_put_self tick, List.mem_cons_self⟩
  | full _ c' hrep hnew hfull hdropped =>
      have hroom := hm.not_full hsize (fun t ht => h t (List.mem_append_left _ ht))
        (h tick (List.mem_append_right _ List.mem_cons_self)) hnew
      exact absurd hfull (not_le.mpr hroom)
  | silent _ c' hnone hrep hdropped => cases hnone
  | took _ c' hnone first hturns hfirst hrep hdropped => cases hnone

theorem serves_run {s : PriceStreamTask} {size : ℕ} {published : List PriceTick}
    {m : Mailbox PriceTick.instrument} {tick : PriceTick} {instruments : ℕ}
    (h : Accounted size published (s.handed name) (s.consumers name) m)
    (hserves : Serves tick instruments [] [] m) (after : List StreamAction) :
    ∃ since m', (s.run after).handed name = s.handed name ++ since ∧
      Accounted size (published ++ publishedTicks after) ((s.run after).handed name)
        ((s.run after).consumers name) m' ∧
      Serves tick instruments (publishedTicks after) since m' := by
  induction after using List.reverseRecOn with
  | nil => exact ⟨[], m, (List.append_nil _).symm, (List.append_nil published).symm ▸ h, hserves⟩
  | append_singleton after a ih =>
      obtain ⟨since, m', hsince, haccounted, hserves'⟩ := ih
      obtain ⟨m'', hseen⟩ := see_cases haccounted.represents name a
      rw [run_concat, publishedTicks_concat, ← List.append_assoc]
      refine ⟨since ++ (((s.run after).consumers name).see name a).2, m'', ?_, haccounted.see hseen,
        hserves'.see hseen⟩
      rw [← List.append_assoc, ← hsince]
      rfl

end PriceStreamTask

/-- **No tick of the stream gets lost.**  In every run, each tick that was published was handed over, waits,
or was counted as dropped; the ticks of an instrument that were handed over or wait are some of those
published, in their order; and when the stream brings its own instruments only, the last of them is the last
one published. -/
theorem priceStream_accounts (streamInstruments : List String) (queueMaxsize : ℤ)
    (actions : List StreamAction) (name : QueueName) :
    let s := (PriceStreamTask.start streamInstruments queueMaxsize).run actions
    let queue := (s.consumers name).queue
    (publishedTicks actions).length =
      (s.handed name).length + queue.latestByInstrument.length + queue.droppedEvents ∧
    (∀ i, (ofKey PriceTick.instrument i (s.handed name) ++
      (queue.latestByInstrument.lookup i).toList).Sublist
        (ofKey PriceTick.instrument i (publishedTicks actions))) ∧
    ((∀ tick ∈ publishedTicks actions, tick.instrument ∈ streamInstruments) → ∀ i,
      (ofKey PriceTick.instrument i (s.handed name) ++
        (queue.latestByInstrument.lookup i).toList).getLast? =
          (ofKey PriceTick.instrument i (publishedTicks actions)).getLast?) := by
  intro s queue
  obtain ⟨m, hm⟩ := PriceStreamTask.run_accounted streamInstruments queueMaxsize name actions
  have hwaiting : ∀ i, queue.latestByInstrument.lookup i = m.waiting i := hm.represents.waiting
  refine ⟨?_, fun i => ?_, fun hall i => ?_⟩
  · have hlength : queue.latestByInstrument.length = m.turns.length := hm.represents.length_latest
    rw [hlength]
    exact hm.total
  · obtain ⟨accepted, hsub, haccepted⟩ := hm.part
    rw [hwaiting]
    exact (haccepted.sublist i).trans (hsub.filter _)
  · have hsize : streamInstruments.length ≤ max (max queueMaxsize.toNat streamInstruments.length) 1 :=
      (le_max_right _ _).trans (le_max_left _ _)
    rw [hwaiting]
    exact (hm.complete streamInstruments hsize hall).getLast? i

/-- **No instrument of the stream starves.**  When the stream brings its own instruments only, then after a
tick was published and as many ticks were handed over as there are instruments, one of these is the tick,
or one of the same instrument that was published after it. -/
theorem priceStream_serves (streamInstruments : List String) (queueMaxsize : ℤ)
    (before after : List StreamAction) (tick : PriceTick) (name : QueueName)
    (h : ∀ t ∈ publishedTicks (before ++ [.event (.tick tick)]) ++ publishedTicks after,
      t.instrument ∈ streamInstruments) :
    let s := (PriceStreamTask.start streamInstruments queueMaxsize).run (before ++ [.event (.tick tick)])
    ∃ since, (s.run after).handed name = s.handed name ++ since ∧
      (streamInstruments.length ≤ since.length →
        ∃ newer ∈ since, newer.instrument = tick.instrument ∧ newer ∈ tick :: publishedTicks after) := by
  intro s
  obtain ⟨m, hm, hserves⟩ := PriceStreamTask.serves_published streamInstruments queueMaxsize name
    fun t ht => h t (List.mem_append_left _ ht)
  obtain ⟨since, m', hsince, -, hserves'⟩ := PriceStreamTask.serves_run name hm hserves after
  refine ⟨since, hsince, fun hmany => ?_⟩
  cases hserves' with
  | inl hserved => exact hserved
  | inr hwaits =>
      obtain ⟨n, newer, -, hfew, -⟩ := hwaits
      omega

def goldTick (price : ℚ) (time : Instant) : PriceTick := ⟨"XAU_USD", price, price, time, le_refl price⟩

def euroTick : PriceTick := ⟨"EUR_USD", 11 / 10, 12 / 10, 2, by decide +kernel⟩

/-- A consumer takes one tick. -/
def handOver : List StreamAction :=
  [.consumer .excursion .get, .consumer .excursion .take, .consumer .excursion (.handled none)]

/-- Two ticks of gold around one of the euro: the consumer gets the newer one of gold first. -/
example :
    let s := (PriceStreamTask.start ["XAU_USD", "EUR_USD"] 1).run
      ([.event (.tick (goldTick 3000 1)), .event (.tick euroTick), .event (.tick (goldTick 3001 3))] ++
        handOver)
    s.handed .excursion = [goldTick 3001 3] ∧ (s.consumers .excursion).queue.queue = ["EUR_USD"] ∧
      (s.consumers .excursion).queue.droppedEvents = 1 ∧ s.handed .priceAlert = [] := by
  decide +kernel

/-- The tick of the euro is handed over after one of gold. -/
theorem priceStream_serves_euro :
    let s := (PriceStreamTask.start ["XAU_USD", "EUR_USD"] 1).run
      ([.event (.tick (goldTick 3000 1))] ++ [.event (.tick euroTick)])
    ∃ since, (s.run (handOver ++ handOver)).handed .excursion = s.handed .excursion ++ since ∧
      (["XAU_USD", "EUR_USD"].length ≤ since.length →
        ∃ newer ∈ since, newer.instrument = euroTick.instrument ∧
          newer ∈ euroTick :: publishedTicks (handOver ++ handOver)) :=
  priceStream_serves ["XAU_USD", "EUR_USD"] 1 [.event (.tick (goldTick 3000 1))] (handOver ++ handOver)
    euroTick .excursion (by decide +kernel)

/-! ### Reconnecting -/

/-- The failures of the stream since it last ended by itself. -/
def failuresInARow (actions : List StreamAction) : ℕ :=
  actions.foldl (fun n a => match a with
    | .ended => 0
    | .failed _ => n + 1
    | _ => n) 0

/-- The pause doubles with every failure in a row, up to a minute. -/
theorem backoffSeconds_run (streamInstruments : List String) (queueMaxsize : ℤ)
    (actions : List StreamAction) :
    ((PriceStreamTask.start streamInstruments queueMaxsize).run actions).producer.backoffSeconds =
      min (2 ^ failuresInARow actions) 60 := by
  induction actions using List.reverseRecOn with
  | nil => rfl
  | append_singleton actions a ih =>
      rw [PriceStreamTask.run_concat, failuresInARow, List.foldl_append, ← failuresInARow]
      unfold PriceStreamTask.step
      cases a with
      | event event =>
          rw [List.foldl_cons, List.foldl_nil, ← ih]
          unfold StreamProducer.see
          cases event <;> (dsimp only; split_ifs <;> rfl)
      | ended => rfl
      | failed message =>
          rw [List.foldl_cons, List.foldl_nil]
          show min (_ * 2) 60 = _
          rw [ih, pow_succ]
          omega
      | consumer name action => exact ih

end OandaV3
