import OandaV3.ForexCalendar
import OandaV3.Grouping
import OandaV3.Program

/-! # The calendar client

`ForexCalendarClient` of `data/forex_calendar.py` keeps the events of the last successful fetch and four
indexes of them.  A call of `get_events` asks under the lock whether a refresh is due, fetches without
the lock, and takes the lock again to publish.

What one call does is the program `getEvents`; its calls are the sections under the lock, the clock and
the fetch.  `ForexCalendarClient.getEvents` is the same on the state, for a call that nobody interrupts
(`eval_getEvents`).

* `groupsBy_groupEvents`: the four indexes hold, for each key, the events with this key. -/

namespace OandaV3

open DocTable Dict Interaction Program

/-! ### The four indexes -/

/-- The values of `_group_events`. -/
structure CalendarIndexes where
  currency : List (String × List CalendarEvent)
  country : List (String × List CalendarEvent)
  impact : List (String × List CalendarEvent)
  currencyImpact : List (String × List (String × List CalendarEvent))
deriving DecidableEq, Repr

def CalendarIndexes.empty : CalendarIndexes := ⟨[], [], [], []⟩

/-- One round of the loop of `_group_events`. -/
def CalendarIndexes.addEvent (indexes : CalendarIndexes) (event : CalendarEvent) : CalendarIndexes where
  impact := append indexes.impact event.impact.text event
  currency := match event.currency with
    | none => indexes.currency
    | some currency => append indexes.currency currency event
  currencyImpact := match event.currency with
    | none => indexes.currencyImpact
    | some currency => assign indexes.currencyImpact currency
        (append ((indexes.currencyImpact.lookup currency).getD []) event.impact.text event)
  country := match event.country with
    | none => indexes.country
    | some country => append indexes.country country event

/-- `_group_events`. -/
def groupEvents (events : List CalendarEvent) : CalendarIndexes :=
  let indexes := events.foldl CalendarIndexes.addEvent CalendarIndexes.empty
  { currency := sortOn Prod.fst indexes.currency
    country := sortOn Prod.fst indexes.country
    impact := sortOn Prod.fst indexes.impact
    currencyImpact := (sortOn Prod.fst indexes.currencyImpact).map fun group =>
      (group.1, sortOn Prod.fst group.2) }

def CalendarEvent.impactKey (event : CalendarEvent) : Option String := some event.impact.text

/-- The indexes hold the events of each key, in the order of the events. -/
structure CalendarIndexes.Groups (indexes : CalendarIndexes) (events : List CalendarEvent) : Prop where
  currency : GroupsBy CalendarEvent.currency (fun items group => group = items) events indexes.currency
  country : GroupsBy CalendarEvent.country (fun items group => group = items) events indexes.country
  impact : GroupsBy CalendarEvent.impactKey (fun items group => group = items) events indexes.impact
  currencyImpact : GroupsBy CalendarEvent.currency
    (GroupsBy CalendarEvent.impactKey fun items group => group = items) events indexes.currencyImpact

/-- One append to the group of an event. -/
abbrev addTo (group : List CalendarEvent) (event : CalendarEvent) : List CalendarEvent :=
  group ++ [event]

theorem foldl_addEvent (events : List CalendarEvent) :
    events.foldl CalendarIndexes.addEvent CalendarIndexes.empty =
      { currency := foldGroups CalendarEvent.currency addTo [] events
        country := foldGroups CalendarEvent.country addTo [] events
        impact := foldGroups CalendarEvent.impactKey addTo [] events
        currencyImpact := foldGroups CalendarEvent.currency
          (groupStep CalendarEvent.impactKey addTo []) [] events } := by
  induction events using List.reverseRecOn with
  | nil => rfl
  | append_singleton events event ih =>
      rw [List.foldl_append, List.foldl_cons, List.foldl_nil, ih]
      simp only [foldGroups_concat]
      obtain ⟨title, eventTime, impact, currency, country, rest⟩ := event
      cases currency <;> cases country <;> rfl

theorem groupsBy_list (key : CalendarEvent → Option String) (events : List CalendarEvent) :
    GroupsBy key (fun items group => group = items) events
      (sortOn Prod.fst (foldGroups key addTo [] events)) :=
  (groupsBy_sortOn key addTo [] events).mono fun items _ hgroup =>
    hgroup.trans ((foldl_concat [] items).trans (List.nil_append items))

/-- The indexes of `_group_events` hold the events of each key. -/
theorem groupsBy_groupEvents (events : List CalendarEvent) : (groupEvents events).Groups events := by
  unfold groupEvents
  rw [foldl_addEvent]
  refine ⟨groupsBy_list _ events, groupsBy_list _ events, groupsBy_list _ events, ?_⟩
  refine (groupsBy_sortOn CalendarEvent.currency (groupStep CalendarEvent.impactKey addTo []) [] events).map
    (sortOn Prod.fst) fun items group hgroup => ?_
  rw [hgroup]
  exact groupsBy_list _ items

/-! ### The state of the client -/

/-- `ForexCalendarClient`. -/
structure ForexCalendarClient where
  events : CalendarEvents
  indexes : CalendarIndexes
  lastAttemptedAt : Option Instant
  lastRefreshedAt : Option Instant
  calendarVersion : ℕ
  lastError : Option String
  lastRequestUsedCached : Bool
deriving DecidableEq

/-- `_refresh_due_locked`, with the `calendar_refresh_hours` of the settings. -/
def refreshDue (refreshHours : ℤ) (lastRefreshedAt : Option Instant) (now : Instant) : Bool :=
  match lastRefreshedAt with
  | none => true
  | some last => decide (last + refreshHours * (60 * minuteMicros) ≤ now)

namespace ForexCalendarClient

/-- `__init__`. -/
def initial : ForexCalendarClient where
  events := CalendarEvents.empty
  indexes := CalendarIndexes.empty
  lastAttemptedAt := none
  lastRefreshedAt := none
  calendarVersion := 0
  lastError := none
  lastRequestUsedCached := false

variable (client : ForexCalendarClient)

/-- The client has answered from its events. -/
def useCached : ForexCalendarClient := { client with lastRequestUsedCached := true }

/-- The first section under the lock of `get_events`: the events when no refresh is needed. -/
def checkDue (refreshHours : ℤ) (now : Instant) (force : Bool) :
    Option CalendarEvents × ForexCalendarClient :=
  if force || refreshDue refreshHours client.lastRefreshedAt now then (none, client)
  else (some client.events, client.useCached)

/-- `self._last_attempted_at = attempt_time`. -/
def noteAttempt (attemptTime : Instant) : ForexCalendarClient :=
  { client with lastAttemptedAt := some attemptTime }

/-- The section under the lock after a failure. -/
def keepCached (error : String) : ForexCalendarClient :=
  { client with lastError := some error, lastRequestUsedCached := !client.events.list.isEmpty }

/-- The client with newly fetched events. -/
def withEvents (attemptTime : Instant) (events : CalendarEvents) : ForexCalendarClient where
  events := events
  indexes := groupEvents events.list
  lastAttemptedAt := client.lastAttemptedAt
  lastRefreshedAt := some attemptTime
  calendarVersion := client.calendarVersion + 1
  lastError := none
  lastRequestUsedCached := false

/-- The section under the lock after a fetch: the events of the client when it keeps them. -/
def publish (refreshHours : ℤ) (now : Instant) (force : Bool) (attemptTime : Instant)
    (events : CalendarEvents) : Option CalendarEvents × ForexCalendarClient :=
  if !force && !refreshDue refreshHours client.lastRefreshedAt now && !client.events.list.isEmpty then
    (some client.events, client.useCached)
  else (none, client.withEvents attemptTime events)

/-- The published events, their indexes, their time and their version are the same. -/
structure SameCalendar (client client' : ForexCalendarClient) : Prop where
  events : client'.events = client.events
  indexes : client'.indexes = client.indexes
  lastRefreshedAt : client'.lastRefreshedAt = client.lastRefreshedAt
  calendarVersion : client'.calendarVersion = client.calendarVersion

section publish

variable {client} {refreshHours : ℤ} {now attemptTime : Instant} {force : Bool} {events : CalendarEvents}

theorem publish_of_stale (h : (force || refreshDue refreshHours client.lastRefreshedAt now ||
    client.events.list.isEmpty) = true) :
    client.publish refreshHours now force attemptTime events =
      (none, client.withEvents attemptTime events) := by
  unfold publish
  revert h
  cases force <;> cases refreshDue refreshHours client.lastRefreshedAt now <;>
    cases client.events.list.isEmpty <;> intro h <;> first | rfl | cases h

theorem publish_of_fresh (h : (force || refreshDue refreshHours client.lastRefreshedAt now ||
    client.events.list.isEmpty) = false) :
    client.publish refreshHours now force attemptTime events = (some client.events, client.useCached) := by
  unfold publish
  revert h
  cases force <;> cases refreshDue refreshHours client.lastRefreshedAt now <;>
    cases client.events.list.isEmpty <;> intro h <;> first | rfl | cases h

end publish

end ForexCalendarClient

/-! ### The program -/

/-- What one call of `get_events` asks for. -/
inductive CalendarCall where
  | checkDue (force : Bool)
  | now
  | noteAttempt (attemptTime : Instant)
  | fetchRows
  | keepCached (error : String)
  | publish (force : Bool) (attemptTime : Instant) (events : CalendarEvents)
deriving DecidableEq

/-- The answers.  The answer of a fetch is its rows or the text of the exception that it raised, or that
parsing the rows raised. -/
def CalendarAns : CalendarCall → Type
  | .checkDue _ => Option CalendarEvents
  | .now => Instant
  | .noteAttempt _ => Unit
  | .fetchRows => Except String (List CalendarRow)
  | .keepCached _ => CalendarEvents
  | .publish _ _ _ => Option CalendarEvents

def askCalendar (c : CalendarCall) : Program CalendarCall CalendarAns Exn (CalendarAns c) := perform c

/-- The end of `_refresh` after a fetch. -/
def publishEvents (force : Bool) (attemptTime : Instant) (events : CalendarEvents) :
    Program CalendarCall CalendarAns Exn CalendarEvents :=
  (askCalendar (.publish force attemptTime events)).bind fun kept =>
  match kept with
  | some cached => done cached
  | none => done events

/-- `_refresh`. -/
def refreshEvents (u : UnicodeTable) (force : Bool) : Program CalendarCall CalendarAns Exn CalendarEvents :=
  (askCalendar .now).bind fun attemptTime =>
  (askCalendar (.noteAttempt attemptTime)).bind fun _ =>
  (askCalendar .fetchRows).bind fun fetched =>
  match fetched with
  | .error error => askCalendar (.keepCached error)
  | .ok rows => publishEvents force attemptTime (parseCalendarRows u rows)

/-- `get_events`. -/
def getEvents (u : UnicodeTable) (force : Bool) : Program CalendarCall CalendarAns Exn CalendarEvents :=
  (askCalendar (.checkDue force)).bind fun cached =>
  match cached with
  | some events => done events
  | none => refreshEvents u force

/-- The answer of a client to a call, with the reading of the clock and the answer of the provider. -/
def ForexCalendarClient.answer (refreshHours : ℤ) (now : Instant)
    (fetched : Except String (List CalendarRow)) (client : ForexCalendarClient) :
    (c : CalendarCall) → Except Exn (CalendarAns c) × ForexCalendarClient
  | .checkDue force =>
      (.ok (client.checkDue refreshHours now force).1, (client.checkDue refreshHours now force).2)
  | .now => (.ok now, client)
  | .noteAttempt attemptTime => (.ok (), client.noteAttempt attemptTime)
  | .fetchRows => (.ok fetched, client)
  | .keepCached error => (.ok client.events, client.keepCached error)
  | .publish force attemptTime events =>
      (.ok (client.publish refreshHours now force attemptTime events).1,
        (client.publish refreshHours now force attemptTime events).2)

/-! ### A call that nobody interrupts -/

/-- What one call of `get_events` meets: the readings of the clock, and the answer of the provider. -/
structure CalendarOccasion where
  checkAt : Instant
  attemptAt : Instant
  recheckAt : Instant
  fetched : Except String (List CalendarRow)

/-- The reading of the clock at a call. -/
def CalendarOccasion.time (occasion : CalendarOccasion) : CalendarCall → Instant
  | .checkDue _ => occasion.checkAt
  | .publish _ _ _ => occasion.recheckAt
  | _ => occasion.attemptAt

/-- `get_events`. -/
def ForexCalendarClient.getEvents (u : UnicodeTable) (refreshHours : ℤ) (occasion : CalendarOccasion)
    (force : Bool) (client : ForexCalendarClient) : CalendarEvents × ForexCalendarClient :=
  match client.checkDue refreshHours occasion.checkAt force with
  | (some events, client) => (events, client)
  | (none, client) =>
      let client := client.noteAttempt occasion.attemptAt
      match occasion.fetched with
      | .error error => (client.events, client.keepCached error)
      | .ok rows =>
          let events := parseCalendarRows u rows
          match client.publish refreshHours occasion.recheckAt force occasion.attemptAt events with
          | (some cached, client) => (cached, client)
          | (none, client) => (events, client)

def CalendarOccasion.answer (refreshHours : ℤ) (occasion : CalendarOccasion) (c : CalendarCall)
    (client : ForexCalendarClient) : Except Exn (CalendarAns c) × ForexCalendarClient :=
  client.answer refreshHours (occasion.time c) occasion.fetched c

theorem eval_publishEvents (refreshHours : ℤ) (occasion : CalendarOccasion) (force : Bool)
    (attemptTime : Instant) (events : CalendarEvents) (client : ForexCalendarClient) :
    let published := client.publish refreshHours occasion.recheckAt force attemptTime events
    (publishEvents force attemptTime events).eval (occasion.answer refreshHours) client =
      (.ok (published.1.getD events), published.2) := by
  intro published
  have hanswer : occasion.answer refreshHours (.publish force attemptTime events) client =
      (.ok published.1, published.2) := rfl
  unfold publishEvents
  rw [eval_bind, askCalendar, eval_perform, hanswer]
  cases published.1 <;> rfl

theorem eval_getEvents (u : UnicodeTable) (refreshHours : ℤ) (occasion : CalendarOccasion) (force : Bool)
    (client : ForexCalendarClient) :
    (getEvents u force).eval (occasion.answer refreshHours) client =
      (.ok (client.getEvents u refreshHours occasion force).1,
        (client.getEvents u refreshHours occasion force).2) := by
  obtain ⟨checkAt, attemptAt, recheckAt, fetched⟩ := occasion
  have hcheck : CalendarOccasion.answer refreshHours ⟨checkAt, attemptAt, recheckAt, fetched⟩
      (.checkDue force) client = (.ok (client.checkDue refreshHours checkAt force).1,
        (client.checkDue refreshHours checkAt force).2) := rfl
  unfold getEvents ForexCalendarClient.getEvents
  rw [eval_bind, askCalendar, eval_perform, hcheck]
  rcases client.checkDue refreshHours checkAt force with ⟨_ | events, client⟩
  · cases fetched with
    | error error => rfl
    | ok rows =>
        change (publishEvents force attemptAt (parseCalendarRows u rows)).eval
          (CalendarOccasion.answer refreshHours ⟨checkAt, attemptAt, recheckAt, .ok rows⟩)
          (client.noteAttempt attemptAt) = _
        rw [eval_publishEvents]
        simp only
        rcases (client.noteAttempt attemptAt).publish refreshHours recheckAt force attemptAt
          (parseCalendarRows u rows) with ⟨_ | cached, client⟩ <;> rfl
  · rfl

end OandaV3
