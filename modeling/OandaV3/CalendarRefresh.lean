import OandaV3.CalendarClient
import OandaV3.Stages

/-! # Concurrent refreshes of the calendar

Any number of calls of `get_events`, forced or not, on one client.  The fetch is made without the lock,
and a forced call publishes whatever it finds under the lock: a slow call may publish after a faster one,
with the earlier time at which it began (`refreshes_backwards`).

* `refreshes_published`: the client holds the events and the time of the last publication, the grouping of
  these events, and the number of publications.
* `refreshes_failed`: a call whose fetch fails changes none of them.
* `refreshes_forward`: when the calls publish in the order in which they began, the time of the last
  refresh never goes back. -/

namespace OandaV3

open Interaction Program

/-! ### Runs -/

/-- The client and the clock. -/
structure CalendarWorld where
  client : ForexCalendarClient
  now : Instant
deriving DecidableEq

/-- A call reads the clock of the world, and a fetch may be answered with anything. -/
def calendarHost (refreshHours : ℤ) : Host CalendarCall CalendarAns Exn CalendarWorld where
  step c w r w' := ∃ fetched,
    w.client.answer refreshHours w.now fetched c = (r, w'.client) ∧ w'.now = w.now

/-- Between the calls the clock moves. -/
def ClockMoves (w w' : CalendarWorld) : Prop := w'.client = w.client

abbrev CalendarStep (ι : Type) : Type := Event CalendarCall CalendarAns Exn CalendarWorld ι

section

variable {ι : Type}

/-- A configuration that calls of `get_events` reach on a new client. -/
def Refreshes [DecidableEq ι] (u : UnicodeTable) (refreshHours : ℤ) (force : ι → Bool) (start : Instant)
    (tr : List (CalendarStep ι)) (pool : ι → Program CalendarCall CalendarAns Exn CalendarEvents)
    (w : CalendarWorld) : Prop :=
  Run (calendarHost refreshHours) ClockMoves (fun i => getEvents u (force i))
    ⟨ForexCalendarClient.initial, start⟩ tr pool w

/-- The time and the events that a call publishes. -/
def publication : (c : CalendarCall) → Except Exn (CalendarAns c) → Option (Instant × CalendarEvents)
  | .publish _ attemptTime events, .ok (kept : Option CalendarEvents) =>
      if kept.isNone then some (attemptTime, events) else none
  | _, _ => none

def publications (tr : List (CalendarStep ι)) : List (Instant × CalendarEvents) :=
  tr.filterMap fun e => publication e.call e.answer

/-- The time at which a refresh begins. -/
def attemptTime : (c : CalendarCall) → Except Exn (CalendarAns c) → Option Instant
  | .now, .ok time => some time
  | _, _ => none

/-- Whether a fetch succeeded. -/
def fetchOutcome : (c : CalendarCall) → Except Exn (CalendarAns c) → Option Bool
  | .fetchRows, .ok (fetched : Except String (List CalendarRow)) => some fetched.isOk
  | _, _ => none

/-- The fetch of the call has failed. -/
def FailedRefresh (tr : List (CalendarStep ι)) (i : ι) : Prop :=
  ∃ f ∈ tr, f.thread = i ∧ fetchOutcome f.call f.answer = some false

/-- The clock does not go back from one attempt to a later one. -/
def ClockForward (tr : List (CalendarStep ι)) : Prop :=
  tr.Pairwise fun f f' => ∀ time ∈ attemptTime f.call f.answer,
    ∀ time' ∈ attemptTime f'.call f'.answer, time ≤ time'

/-- The attempt of the second call does not come before the attempt of the first. -/
def AttemptedNoLater (tr : List (CalendarStep ι)) (i j : ι) : Prop :=
  tr.Pairwise fun f f' => (attemptTime f.call f.answer).isSome → f.thread = j →
    (attemptTime f'.call f'.answer).isSome → f'.thread ≠ i

/-- The time of the last refresh does not go back. -/
def KeepsForward (client client' : ForexCalendarClient) : Prop :=
  ∀ before ∈ client.lastRefreshedAt, ∃ after ∈ client'.lastRefreshedAt, before ≤ after

/-- No call publishes after a call that began later has published. -/
def PublishesInOrder (tr : List (CalendarStep ι)) : Prop :=
  tr.Pairwise fun e e' => (publication e.call e.answer).isSome → (publication e'.call e'.answer).isSome →
    AttemptedNoLater tr e.thread e'.thread

end

/-! ### One step -/

section

variable {refreshHours : ℤ} {w w' : CalendarWorld}

theorem calendarHost_cases {c : CalendarCall} {r : Except Exn (CalendarAns c)}
    (h : (calendarHost refreshHours).step c w r w') :
    (publication c r = none ∧ w.client.SameCalendar w'.client) ∨
      ∃ time events, publication c r = some (time, events) ∧
        w'.client = w.client.withEvents time events := by
  obtain ⟨fetched, hanswer, -⟩ := h
  have hr : r = (w.client.answer refreshHours w.now fetched c).1 := (congrArg Prod.fst hanswer).symm
  have hclient : w'.client = (w.client.answer refreshHours w.now fetched c).2 :=
    (congrArg Prod.snd hanswer).symm
  rw [hclient, hr]
  cases c with
  | checkDue force =>
      refine Or.inl ⟨rfl, ?_⟩
      simp only [ForexCalendarClient.answer, ForexCalendarClient.checkDue]
      split_ifs
      · exact ⟨rfl, rfl, rfl, rfl⟩
      · exact ⟨rfl, rfl, rfl, rfl⟩
  | publish force time events =>
      cases hstale : force || refreshDue refreshHours w.client.lastRefreshedAt w.now ||
          w.client.events.list.isEmpty with
      | true =>
          refine Or.inr ⟨time, events, ?_⟩
          simp only [ForexCalendarClient.answer, ForexCalendarClient.publish_of_stale hstale]
          exact ⟨rfl, trivial⟩
      | false =>
          refine Or.inl ?_
          simp only [ForexCalendarClient.answer, ForexCalendarClient.publish_of_fresh hstale]
          exact ⟨rfl, rfl, rfl, rfl, rfl⟩
  | _ => exact Or.inl ⟨rfl, rfl, rfl, rfl, rfl⟩

end

/-! ### The calls of one thread -/

/-- The call publishes nothing. -/
def Silent (c : CalendarCall) : Prop := ∀ r, publication c r = none

theorem publication_publish {force : Bool} {time : Instant} {events : CalendarEvents}
    {r : Except Exn (CalendarAns (.publish force time events))} {published : Instant × CalendarEvents}
    (h : published ∈ publication (.publish force time events) r) : published = (time, events) := by
  rcases r with e | _ | kept
  · cases h
  · exact (Option.some.inj h).symm
  · cases h

theorem calls_publishEvents {force : Bool} {time : Instant} {events : CalendarEvents}
    {P : CalendarCall → Prop} (h : P (.publish force time events)) :
    (publishEvents force time events).Calls P := by
  refine ⟨h, fun r => ?_⟩
  rcases r with e | _ | kept
  · trivial
  · trivial
  · trivial

/-- Before it reads the clock a call publishes nothing, and afterwards nothing but with this reading. -/
theorem staged_attemptTime (u : UnicodeTable) (force : Bool) : (getEvents u force).Staged attemptTime Silent
    fun time c => ∀ r, ∀ published ∈ publication c r, published.1 = time := by
  have hquiet : ∀ {c : CalendarCall} {time : Instant}, Silent c →
      ∀ r, ∀ published ∈ publication c r, published.1 = time := by
    intro c time hc r published hpublished
    rw [hc r] at hpublished
    cases hpublished
  refine ⟨fun _ => rfl, fun r => ?_⟩
  rcases r with e | _ | cached
  · trivial
  · refine ⟨fun _ => rfl, fun r => ?_⟩
    rcases r with e | time
    · trivial
    · refine ⟨hquiet fun _ => rfl, fun r => ?_⟩
      rcases r with e | noted
      · trivial
      · refine ⟨hquiet fun _ => rfl, fun r => ?_⟩
        rcases r with e | error | rows
        · trivial
        · refine ⟨hquiet fun _ => rfl, fun r => ?_⟩
          cases r <;> trivial
        · apply calls_publishEvents
          intro r published hpublished
          rw [publication_publish hpublished]
  · trivial

/-- A call fetches once; it publishes nothing before its fetch, nor after a fetch that failed. -/
theorem staged_fetchOutcome (u : UnicodeTable) (force : Bool) : (getEvents u force).Staged fetchOutcome Silent
    fun succeeded c => (∀ r, fetchOutcome c r = none) ∧ (succeeded = false → Silent c) := by
  refine ⟨fun _ => rfl, fun r => ?_⟩
  rcases r with e | _ | cached
  · trivial
  · refine ⟨fun _ => rfl, fun r => ?_⟩
    rcases r with e | time
    · trivial
    · refine ⟨fun _ => rfl, fun r => ?_⟩
      rcases r with e | noted
      · trivial
      · refine ⟨fun _ => rfl, fun r => ?_⟩
        rcases r with e | error | rows
        · trivial
        · refine ⟨⟨fun _ => rfl, fun _ _ => rfl⟩, fun r => ?_⟩
          cases r <;> trivial
        · apply calls_publishEvents
          refine ⟨fun _ => rfl, fun hfailed => ?_⟩
          cases hfailed
  · trivial

/-! ### Every run -/

section

variable {ι : Type} {u : UnicodeTable} {refreshHours : ℤ} {force : ι → Bool} {start : Instant}
  {tr : List (CalendarStep ι)} {pool : ι → Program CalendarCall CalendarAns Exn CalendarEvents}
  {w : CalendarWorld}

theorem publications_concat (tr : List (CalendarStep ι)) (e : CalendarStep ι) :
    publications (tr ++ [e]) = publications tr ++ (publication e.call e.answer).toList := by
  unfold publications
  rw [List.filterMap_append]
  cases hpublication : publication e.call e.answer <;> simp [hpublication]

structure HoldsLast (client : ForexCalendarClient) (published : List (Instant × CalendarEvents)) :
    Prop where
  events : client.events = (published.getLast?.map Prod.snd).getD CalendarEvents.empty
  indexes : client.indexes.Groups client.events.list
  lastRefreshedAt : client.lastRefreshedAt = published.getLast?.map Prod.fst
  calendarVersion : client.calendarVersion = published.length

/-- On a clock that goes forward, an attempt that does not come later has no later time. -/
theorem attempts_le (hclock : ClockForward tr) {f f' : CalendarStep ι} (hf : f ∈ tr) (hf' : f' ∈ tr)
    (horder : AttemptedNoLater tr f.thread f'.thread) {time time' : Instant}
    (htime : attemptTime f.call f.answer = some time)
    (htime' : attemptTime f'.call f'.answer = some time') : time ≤ time' := by
  obtain ⟨m, hm, rfl⟩ := List.mem_iff_getElem.mp hf
  obtain ⟨n, hn, rfl⟩ := List.mem_iff_getElem.mp hf'
  rcases lt_trichotomy m n with hlt | rfl | hgt
  · exact List.pairwise_iff_getElem.mp hclock m n hm hn hlt time htime time' htime'
  · exact (Option.some.inj (htime.symm.trans htime')).le
  · have hnot := List.pairwise_iff_getElem.mp horder n m hn hm hgt
    rw [htime, htime'] at hnot
    exact absurd rfl (hnot rfl rfl rfl)

variable [DecidableEq ι]

theorem refreshes_published (hrun : Refreshes u refreshHours force start tr pool w) :
    HoldsLast w.client (publications tr) := by
  induction hrun with
  | start => exact ⟨rfl, groupsBy_groupEvents [], rfl, rfl⟩
  | env _ hclock ih => rwa [hclock]
  | @call tr pool w w' i c k r _ _ hstep ih =>
      rw [publications_concat]
      rcases calendarHost_cases hstep with ⟨hnone, hsame⟩ | ⟨time, events, hsome, hclient⟩
      · rw [hnone, Option.toList_none, List.append_nil]
        refine ⟨hsame.events.trans ih.events, ?_, hsame.lastRefreshedAt.trans ih.lastRefreshedAt,
          hsame.calendarVersion.trans ih.calendarVersion⟩
        rw [hsame.indexes, hsame.events]
        exact ih.indexes
      · rw [hsome, Option.toList_some, hclient]
        refine ⟨by simp [ForexCalendarClient.withEvents], groupsBy_groupEvents events.list,
          by simp [ForexCalendarClient.withEvents], ?_⟩
        rw [List.length_append, ← ih.calendarVersion]
        rfl

theorem refreshes_step (hrun : Refreshes u refreshHours force start tr pool w) :
    ∀ e ∈ tr, (calendarHost refreshHours).step e.call e.pre e.answer e.post := by
  induction hrun with
  | start => exact fun e he => absurd he List.not_mem_nil
  | env _ _ ih => exact ih
  | call _ _ hstep ih =>
      intro e he
      rcases List.mem_append.mp he with hold | hlast
      · exact ih e hold
      · obtain rfl := List.mem_singleton.mp hlast
        exact hstep

theorem refreshes_failed (hrun : Refreshes u refreshHours force start tr pool w) {i : ι}
    (hfailed : FailedRefresh tr i) :
    ∀ e ∈ tr, e.thread = i → e.pre.client.SameCalendar e.post.client := by
  intro e he hi
  have hsilent : Silent e.call := by
    rcases Run.staged (fun i => staged_fetchOutcome u (force i)) hrun i with
      ⟨-, hearly⟩ | ⟨succeeded, -, ⟨f, hf, hfi, hmark⟩, hcalls⟩
    · exact (hearly e he hi).1
    · obtain ⟨f', hf', hfi', hmark'⟩ := hfailed
      have hfalse : succeeded = false := by
        rcases hcalls f' hf' hfi' with ⟨-, honly⟩ | ⟨hnone, -⟩
        · exact (honly false hmark').symm
        · rw [hnone] at hmark'
          cases hmark'
      rcases hcalls e he hi with ⟨hearly, -⟩ | ⟨-, hlate⟩
      · exact hearly
      · exact hlate hfalse
  rcases calendarHost_cases (refreshes_step hrun e he) with ⟨-, hsame⟩ | ⟨time, events, hsome, -⟩
  · exact hsame
  · rw [hsilent] at hsome
    cases hsome

theorem exists_attempt (hrun : Refreshes u refreshHours force start tr pool w) {e : CalendarStep ι}
    (he : e ∈ tr) {published : Instant × CalendarEvents}
    (hpublished : publication e.call e.answer = some published) :
    ∃ f ∈ tr, f.thread = e.thread ∧ attemptTime f.call f.answer = some published.1 := by
  have hloud : ¬ Silent e.call := by
    intro hsilent
    rw [hsilent] at hpublished
    cases hpublished
  rcases Run.staged (fun i => staged_attemptTime u (force i)) hrun e.thread with
    ⟨-, hearly⟩ | ⟨time, -, ⟨f, hf, hthread, hmark⟩, hcalls⟩
  · exact absurd (hearly e he rfl).1 hloud
  · rcases hcalls e he rfl with ⟨hsilent, -⟩ | hlate
    · exact absurd hsilent hloud
    · rw [hlate e.answer published hpublished]
      exact ⟨f, hf, hthread, hmark⟩

/-- When the calls publish in the order in which they began, the last refresh never goes back. -/
theorem refreshes_forward (hrun : Refreshes u refreshHours force start tr pool w)
    (hclock : ClockForward tr) (horder : PublishesInOrder tr) :
    ∀ e ∈ tr, KeepsForward e.pre.client e.post.client := by
  induction hrun with
  | start => exact fun e he => absurd he List.not_mem_nil
  | env _ _ ih => exact ih hclock horder
  | @call tr pool w w' i c k r hrun hi hstep ih =>
      have hextended := Run.call hrun hi hstep
      obtain ⟨hbefore, -, hlast⟩ := List.pairwise_append.mp horder
      have hsub : tr.Sublist (tr ++ [⟨i, c, r, w, w'⟩]) := List.sublist_append_left _ _
      have hold := ih (hclock.sublist hsub)
        (hbefore.imp fun h he he' => (h he he').sublist hsub)
      intro e he
      rcases List.mem_append.mp he with he | he
      · exact hold e he
      obtain rfl := List.mem_singleton.mp he
      intro before hbefore
      rcases calendarHost_cases hstep with ⟨-, hsame⟩ | ⟨time, events, hsome, hclient⟩
      · exact ⟨before, hsame.lastRefreshedAt.trans hbefore, le_refl _⟩
      · refine ⟨time, congrArg ForexCalendarClient.lastRefreshedAt hclient, ?_⟩
        -- what is replaced was published by an earlier step
        have hmem : before ∈ (publications tr).getLast?.map Prod.fst := by
          rw [← (refreshes_published hrun).lastRefreshedAt]
          exact hbefore
        obtain ⟨published, hpublished, rfl⟩ := Option.mem_map.mp hmem
        obtain ⟨e₀, he₀, hsome₀⟩ := List.mem_filterMap.mp (List.mem_of_mem_getLast? hpublished)
        obtain ⟨f₀, hf₀, hthread₀, htime₀⟩ := exists_attempt hextended (List.mem_append_left _ he₀) hsome₀
        obtain ⟨f, hf, hthread, htime⟩ :=
          exists_attempt hextended (List.mem_append_right _ List.mem_cons_self) hsome
        have hattempts := hlast e₀ he₀ _ List.mem_cons_self (by rw [hsome₀]; rfl) (by rw [hsome]; rfl)
        rw [← hthread₀, ← hthread] at hattempts
        exact attempts_le hclock hf₀ hf hattempts htime₀ htime

/-- **Concurrent refreshes.** In every run of any number of calls of `get_events` on a new client, the
client holds the events and the time of the last publication, the grouping of these events, and the number
of publications; a call whose fetch fails changes none of them; and the time of the last refresh never goes
back when the clock does not and the calls publish in the order in which they began. -/
theorem refreshes_calendar {ι : Type} [DecidableEq ι] (u : UnicodeTable) (refreshHours : ℤ)
    (force : ι → Bool) (start : Instant) (tr : List (CalendarStep ι))
    (pool : ι → Program CalendarCall CalendarAns Exn CalendarEvents) (w : CalendarWorld)
    (hrun : Refreshes u refreshHours force start tr pool w) :
    HoldsLast w.client (publications tr) ∧
      (∀ i, FailedRefresh tr i →
        ∀ e ∈ tr, e.thread = i → e.pre.client.SameCalendar e.post.client) ∧
      (ClockForward tr → PublishesInOrder tr → ∀ e ∈ tr, KeepsForward e.pre.client e.post.client) :=
  ⟨refreshes_published hrun, fun _ hfailed => refreshes_failed hrun hfailed, refreshes_forward hrun⟩

end

/-! ### Two forced refreshes -/

instance {ι : Type} (tr : List (CalendarStep ι)) : Decidable (ClockForward tr) :=
  inferInstanceAs (Decidable (tr.Pairwise fun _ _ => ∀ _ ∈ _, ∀ _ ∈ _, _))

instance {ι : Type} [DecidableEq ι] (tr : List (CalendarStep ι)) (i j : ι) :
    Decidable (AttemptedNoLater tr i j) :=
  inferInstanceAs (Decidable (tr.Pairwise fun _ _ => _ → _ → _ → _))

instance {ι : Type} [DecidableEq ι] (tr : List (CalendarStep ι)) : Decidable (PublishesInOrder tr) :=
  inferInstanceAs (Decidable (tr.Pairwise fun _ _ => _ → _ → _))

/-- The row of an event on the jobs of a month. -/
def payrollRow : CalendarRow where
  texts := [("title", "Non-Farm Employment Change"), ("country", "US"), ("impact", "High")]
  eventTime := some (60 * minuteMicros)

/-- A provider that answers with this row. -/
def answerPayroll (c : CalendarCall) (w : CalendarWorld) :
    Except Exn (CalendarAns c) × CalendarWorld :=
  ((w.client.answer 1 w.now (.ok [payrollRow]) c).1,
    { w with client := (w.client.answer 1 w.now (.ok [payrollRow]) c).2 })

theorem answerPayroll_step (c : CalendarCall) (w : CalendarWorld) :
    (calendarHost 1).step c w (answerPayroll c w).1 (answerPayroll c w).2 :=
  ⟨.ok [payrollRow], rfl, rfl⟩

theorem Refreshes.schedule {ι : Type} [DecidableEq ι] {force : ι → Bool} {start now : Instant}
    {tr : List (CalendarStep ι)} {pool : ι → Program CalendarCall CalendarAns Exn CalendarEvents}
    {w : CalendarWorld} (hrun : Refreshes .ascii 1 force start tr pool w) (is : List ι) :
    let rest := Run.schedule answerPayroll is pool { w with now }
    Refreshes .ascii 1 force start (tr ++ rest.1) rest.2.1 rest.2.2 := by
  intro rest
  have hclock : ClockMoves w { w with now } := rfl
  exact (hrun.env hclock).append (Run.of_schedule answerPayroll_step is pool _)

/-- One call begins at time 0, ... -/
def slowAttempt :=
  Run.schedule answerPayroll [false, false, false] (fun _ : Bool => getEvents .ascii true)
    ⟨ForexCalendarClient.initial, 0⟩

/-- ... another one begins and publishes at time 5, and the first one publishes. -/
def slowPublish :=
  Run.schedule answerPayroll (List.replicate 5 true ++ [false, false]) slowAttempt.2.1
    { slowAttempt.2.2 with now := 5 }

theorem refreshes_slow : Refreshes .ascii 1 (fun _ : Bool => true) 0 (slowAttempt.1 ++ slowPublish.1)
    slowPublish.2.1 slowPublish.2.2 :=
  Refreshes.schedule (Run.of_schedule answerPayroll_step _ _ _) _

/-- The time of the last refresh goes back from 5 to 0. -/
theorem refreshes_backwards :
    ¬ ∀ tr pool w, Refreshes .ascii 1 (fun _ : Bool => true) 0 tr pool w →
      ∀ e ∈ tr, KeepsForward e.pre.client e.post.client := by
  intro h
  have hlast : ∃ e ∈ slowAttempt.1 ++ slowPublish.1, e.pre.client.lastRefreshedAt = some 5 ∧
      e.post.client.lastRefreshedAt = some 0 := by decide +kernel
  obtain ⟨e, he, hpre, hpost⟩ := hlast
  obtain ⟨after, hafter, hle⟩ := h _ _ _ refreshes_slow e he 5 hpre
  obtain rfl := Option.some.inj (hpost.symm.trans hafter)
  exact absurd hle (by decide)

/-- The first call publishes before the second one begins. -/
def fastCall :=
  Run.schedule answerPayroll (List.replicate 5 false) (fun _ : Bool => getEvents .ascii true)
    ⟨ForexCalendarClient.initial, 0⟩

def secondCall :=
  Run.schedule answerPayroll (List.replicate 5 true) fastCall.2.1 { fastCall.2.2 with now := 5 }

theorem refreshes_fast : Refreshes .ascii 1 (fun _ : Bool => true) 0 (fastCall.1 ++ secondCall.1)
    secondCall.2.1 secondCall.2.2 :=
  Refreshes.schedule (Run.of_schedule answerPayroll_step _ _ _) _

theorem refreshes_calendar_fast :
    secondCall.2.2.client.lastRefreshedAt = some 5 ∧
      secondCall.2.2.client.events.list.map CalendarEvent.currency = [some "USD"] ∧
      HoldsLast secondCall.2.2.client (publications (fastCall.1 ++ secondCall.1)) ∧
      ∀ e ∈ fastCall.1 ++ secondCall.1, KeepsForward e.pre.client e.post.client := by
  obtain ⟨hholds, -, hforward⟩ := refreshes_calendar .ascii 1 (fun _ : Bool => true) 0
    (fastCall.1 ++ secondCall.1) secondCall.2.1 secondCall.2.2 refreshes_fast
  exact ⟨by decide +kernel, by decide +kernel, hholds, hforward (by decide +kernel) (by decide +kernel)⟩

end OandaV3
