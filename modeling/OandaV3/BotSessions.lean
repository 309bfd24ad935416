import Mathlib.Data.List.Basic
import OandaV3.Dict
import OandaV3.Fallible
import OandaV3.Models

/-! # Sessions of the chat bot

`.worktrees/scan-force/bot/security_manager.py` and the checks of `bot/bot.py` before a command: a user who
starts the bot with its password has a session, which belongs to one chat, until a logout.  The bot handles one
message after the other; each read and write of the store may fail, the clock may be set back, and the settings
may change between messages, with a restart.

* `grantOf_afterEvent`: what each message does to what each user may do.
* `sessions_authorize`: who may use the bot, read off the messages so far. -/

/-! ## Histories

Events, the last one first.  `Since starts keeps` holds of a history in which something started and every event
after that kept it; a state that an event sets, keeps or ends is read off such a history. -/

namespace Histories

variable {α : Type} {starts keeps : α → Prop} {history : List α}

/-- Something started, and all that came since has kept it. -/
def Since (starts keeps : α → Prop) : List α → Prop
  | [] => False
  | event :: history => starts event ∨ keeps event ∧ Since starts keeps history

theorem since_iff : Since starts keeps history ↔
    ∃ later event earlier, history = later ++ event :: earlier ∧ starts event ∧ ∀ e ∈ later, keeps e := by
  induction history with
  | nil => simp [Since]
  | cons event history ih =>
      rw [Since, ih]
      constructor
      · rintro (hstarts | ⟨hkeeps, later, first, earlier, rfl, hfirst, hlater⟩)
        · exact ⟨[], event, history, rfl, hstarts, by simp⟩
        · exact ⟨event :: later, first, earlier, rfl, hfirst, by simpa using ⟨hkeeps, hlater⟩⟩
      · rintro ⟨later, first, earlier, heq, hfirst, hlater⟩
        cases later with
        | nil =>
            obtain ⟨rfl, rfl⟩ := List.cons.inj heq
            exact Or.inl hfirst
        | cons last later =>
            obtain ⟨rfl, rfl⟩ := List.cons.inj heq
            rw [List.forall_mem_cons] at hlater
            exact Or.inr ⟨hlater.1, later, first, earlier, rfl, hfirst, hlater.2⟩

end Histories

namespace OandaV3

open Dict Fallible Histories

/-! ### Sessions -/

/-- `BotSessionRecord`. -/
structure BotSessionRecord where
  userId : ℤ
  chatId : ℤ
  isAdmin : Bool
  username : Option String
  firstName : Option String
  authenticatedAt : Instant
  lastActivityAt : Instant
deriving DecidableEq, Repr

/-- The first violation of the contract of `BotSessionRecord`. -/
def BotSessionRecord.contractError (session : BotSessionRecord) : Option String :=
  firstViolation
    [(decide (0 < session.userId), "user_id must be greater than 0."),
     (!session.username.any Text.isBlank, "username must be a non-empty string when provided."),
     (!session.firstName.any Text.isBlank, "first_name must be a non-empty string when provided."),
     (decide (session.authenticatedAt ≤ session.lastActivityAt),
      "last_activity_at must be greater than or equal to authenticated_at.")]

/-- The table of the sessions.  What is in it need not keep the contract: an update is not validated. -/
abbrev SessionTable := List (ℤ × BotSessionRecord)

/-- `upsert_session`. -/
def upsertSession (refuses : Bool) (session : BotSessionRecord) (sessions : SessionTable) :
    Except Exn BotSessionRecord × SessionTable :=
  if refuses then (.error (.persistenceWriteError "upsert_session"), sessions)
  else (.ok session, assign sessions session.userId session)

/-- `get_session`: a read that fails finds nothing, and so does one of a record that breaks the contract. -/
def getSession (readable : Bool) (userId : ℤ) (sessions : SessionTable) : Option BotSessionRecord :=
  if readable then (sessions.lookup userId).filter fun session => session.contractError.isNone else none

/-- `delete_session`. -/
def deleteSession (readable refuses : Bool) (userId : ℤ) (sessions : SessionTable) :
    Except Exn (Option BotSessionRecord) × SessionTable :=
  match getSession readable userId sessions with
  | none => (.ok none, sessions)
  | some existing =>
      if refuses then (.error (.persistenceWriteError "delete_session"), sessions)
      else (.ok (some existing), pop sessions userId)

/-! ### The security manager -/

structure BotSettings where
  telegramBotPassword : String
  telegramAdminIds : List ℤ

/-- `is_admin`. -/
def BotSettings.isAdmin (settings : BotSettings) (userId : ℤ) : Bool :=
  decide (userId ∈ settings.telegramAdminIds)

/-- A `/start` message, and what the store does with it. -/
structure StartMessage where
  userId : ℤ
  chatId : ℤ
  password : String
  username : Option String
  firstName : Option String
  now : Instant
  refuses : Bool

/-- The session a `/start` message asks for. -/
def StartMessage.session (settings : BotSettings) (message : StartMessage) : BotSessionRecord where
  userId := message.userId
  chatId := message.chatId
  isAdmin := settings.isAdmin message.userId
  username := message.username
  firstName := message.firstName
  authenticatedAt := message.now
  lastActivityAt := message.now

@[simp] theorem StartMessage.userId_session (settings : BotSettings) (message : StartMessage) :
    (message.session settings).userId = message.userId := rfl

/-- `authenticate`. -/
def authenticate (settings : BotSettings) (message : StartMessage) (sessions : SessionTable) :
    Except Exn (Option BotSessionRecord) × SessionTable :=
  if message.password ≠ settings.telegramBotPassword then (.ok none, sessions)
  else match (message.session settings).contractError with
    | some error => (.error (.valueError error), sessions)
    | none =>
        match upsertSession message.refuses (message.session settings) sessions with
        | (.error e, sessions) => (.error e, sessions)
        | (.ok session, sessions) => (.ok (some session), sessions)

/-- `get_session_for_chat`. -/
def getSessionForChat (readable : Bool) (userId chatId : ℤ) (sessions : SessionTable) :
    Option BotSessionRecord :=
  (getSession readable userId sessions).filter fun session => decide (session.chatId = chatId)

/-- `touch_for_chat`. -/
def touchForChat (readable refuses : Bool) (now : Instant) (userId chatId : ℤ) (sessions : SessionTable) :
    Except Exn (Option BotSessionRecord) × SessionTable :=
  match getSessionForChat readable userId chatId sessions with
  | none => (.ok none, sessions)
  | some existing =>
      match upsertSession refuses { existing with lastActivityAt := now } sessions with
      | (.error e, sessions) => (.error e, sessions)
      | (.ok session, sessions) => (.ok (some session), sessions)

/-! ### Messages -/

/-- What the check of a message meets: its read, the read and the write of the touch, and the time. -/
structure SessionCheck where
  readable : Bool
  touchReadable : Bool
  refuses : Bool
  now : Instant

/-- `_require_session`: the session the command runs with, if any. -/
def requireSession (check : SessionCheck) (userId chatId : ℤ) (sessions : SessionTable) :
    Option BotSessionRecord × SessionTable :=
  match getSession check.readable userId sessions with
  | none => (none, sessions)
  | some session =>
      if session.chatId ≠ chatId then (none, sessions)
      else (some session, (touchForChat check.touchReadable check.refuses check.now userId chatId sessions).2)

/-- `_require_admin_session`. -/
def requireAdminSession (settings : BotSettings) (check : SessionCheck) (userId chatId : ℤ)
    (sessions : SessionTable) : Option BotSessionRecord × SessionTable :=
  match requireSession check userId chatId sessions with
  | (none, sessions) => (none, sessions)
  | (some session, sessions) =>
      (if session.isAdmin || settings.isAdmin userId then some session else none, sessions)

/-- The messages that change sessions; any other command only checks the session. -/
inductive BotMessage where
  | start (message : StartMessage)
  | command (userId chatId : ℤ) (check : SessionCheck)
  | logout (userId chatId : ℤ) (check : SessionCheck) (readable refuses : Bool)

/-- `logout_command`. -/
def logoutCommand (userId chatId : ℤ) (check : SessionCheck) (readable refuses : Bool)
    (sessions : SessionTable) : SessionTable :=
  match requireSession check userId chatId sessions with
  | (none, sessions) => sessions
  | (some session, sessions) => (deleteSession readable refuses session.userId sessions).2

/-- A message, and the settings it meets. -/
structure BotEvent where
  settings : BotSettings
  message : BotMessage

/-- The sessions after a message. -/
def afterEvent (sessions : SessionTable) (event : BotEvent) : SessionTable :=
  match event.message with
  | .start message => (authenticate event.settings message sessions).2
  | .command userId chatId check => (requireSession check userId chatId sessions).2
  | .logout userId chatId check readable refuses =>
      logoutCommand userId chatId check readable refuses sessions

/-- The sessions after messages, the last one first. -/
def sessionsAfter : List BotEvent → SessionTable
  | [] => []
  | event :: history => afterEvent (sessionsAfter history) event

/-! ### What a message does to a session -/

/-- What a session lets its user do: from which chat, since when, and whether as an admin. -/
structure Grant where
  chatId : ℤ
  since : Instant
  isAdmin : Bool
deriving DecidableEq, Repr

def BotSessionRecord.grant (session : BotSessionRecord) : Grant where
  chatId := session.chatId
  since := session.authenticatedAt
  isAdmin := session.isAdmin

def grantOf (userId : ℤ) (sessions : SessionTable) : Option Grant :=
  (getSession true userId sessions).map BotSessionRecord.grant

/-- A session is listed under its user. -/
def Keyed (sessions : SessionTable) : Prop :=
  ∀ userId session, sessions.lookup userId = some session → session.userId = userId

section steps

variable {sessions : SessionTable} {userId u c : ℤ} {g : Grant}

theorem Keyed.assign (h : Keyed sessions) (session : BotSessionRecord) :
    Keyed (assign sessions session.userId session) := by
  intro userId found hfound
  by_cases huser : userId = session.userId
  · subst huser
    rw [lookup_assign_self] at hfound
    exact (Option.some.inj hfound) ▸ rfl
  · rw [lookup_assign_ne _ _ huser] at hfound
    exact h userId found hfound

theorem Keyed.pop (h : Keyed sessions) (u : ℤ) : Keyed (pop sessions u) := by
  intro userId found hfound
  by_cases huser : userId = u
  · subst huser
    rw [lookup_pop_self] at hfound
    cases hfound
  · rw [lookup_pop_ne _ huser] at hfound
    exact h userId found hfound

theorem getSession_assign_ne (session : BotSessionRecord) (h : userId ≠ u) :
    getSession true userId (assign sessions u session) = getSession true userId sessions := by
  simp [getSession, lookup_assign_ne _ _ h]

theorem grantOf_assign_ne (session : BotSessionRecord) (h : userId ≠ u) :
    grantOf userId (assign sessions u session) = grantOf userId sessions := by
  rw [grantOf, getSession_assign_ne session h, grantOf]

theorem grantOf_assign_self (session : BotSessionRecord) :
    grantOf u (assign sessions u session) = some g ↔ session.contractError = none ∧ session.grant = g := by
  simp [grantOf, getSession, Option.filter]

theorem grantOf_pop (u : ℤ) :
    grantOf userId (pop sessions u) = some g ↔ grantOf userId sessions = some g ∧ userId ≠ u := by
  by_cases h : userId = u
  · subst h
    simp [grantOf, getSession]
  · simp [grantOf, getSession, lookup_pop_ne _ h, h]

theorem contractError_touched {session : BotSessionRecord} (h : session.contractError = none) (now : Instant) :
    { session with lastActivityAt := now }.contractError = none ↔ session.authenticatedAt ≤ now := by
  simp only [BotSessionRecord.contractError, firstViolation_eq_none, List.forall_mem_cons] at h ⊢
  simp [h.1, h.2.1, h.2.2.1]

theorem getSession_some {session : BotSessionRecord} (h : getSession true u sessions = some session) :
    sessions.lookup u = some session ∧ session.contractError = none := by
  simpa [getSession, Option.filter_eq_some_iff] using h

theorem touchForChat_found {session : BotSessionRecord} (h : getSession true u sessions = some session)
    (hchat : session.chatId = c) (now : Instant) :
    (touchForChat true false now u c sessions).2 =
      assign sessions session.userId { session with lastActivityAt := now } := by
  simp [touchForChat, getSessionForChat, h, Option.filter, hchat, upsertSession]

theorem touchForChat_else (readable refuses : Bool) (now : Instant)
    (h : readable = true → refuses = false → ∀ session, getSession true u sessions = some session →
      session.chatId ≠ c) : (touchForChat readable refuses now u c sessions).2 = sessions := by
  rw [touchForChat]
  cases hfound : getSessionForChat readable u c sessions with
  | none => rfl
  | some session =>
      obtain ⟨hsession, hchat⟩ := Option.filter_eq_some_iff.mp hfound
      cases readable with
      | false => simp [getSession] at hsession
      | true =>
          cases refuses with
          | true => rfl
          | false => exact absurd (of_decide_eq_true hchat) (h rfl rfl session hsession)

/-- A touch keeps a grant, unless the clock is before it. -/
theorem grantOf_touchForChat (hkeyed : Keyed sessions) (readable refuses : Bool) (now : Instant) (u c : ℤ) :
    grantOf userId (touchForChat readable refuses now u c sessions).2 = some g ↔
      grantOf userId sessions = some g ∧
        (u = userId → c = g.chatId → readable = true → refuses = false → g.since ≤ now) := by
  by_cases hwrites : readable = true ∧ refuses = false ∧
      ∃ session, getSession true u sessions = some session ∧ session.chatId = c
  · obtain ⟨rfl, rfl, session, hfound, rfl⟩ := hwrites
    obtain ⟨hlookup, hcontract⟩ := getSession_some hfound
    obtain rfl := hkeyed u session hlookup
    rw [touchForChat_found hfound rfl]
    by_cases huser : userId = session.userId
    · subst huser
      have hgrant : grantOf session.userId sessions = some session.grant := by simp [grantOf, hfound]
      rw [grantOf_assign_self, contractError_touched hcontract, hgrant, Option.some_inj]
      constructor
      · rintro ⟨hle, rfl⟩
        exact ⟨rfl, fun _ _ _ _ => hle⟩
      · rintro ⟨rfl, hle⟩
        exact ⟨hle rfl rfl rfl rfl, rfl⟩
    · simp [grantOf_assign_ne _ huser, Ne.symm huser]
  · rw [touchForChat_else]
    · refine (and_iff_left_of_imp fun hgrant huser hchat hreadable hrefuses => ?_).symm
      subst huser
      obtain ⟨session, hfound, rfl⟩ := Option.map_eq_some_iff.mp hgrant
      exact absurd ⟨hreadable, hrefuses, session, hfound, hchat.symm⟩ hwrites
    · exact fun hreadable hrefuses session hfound hchat =>
        hwrites ⟨hreadable, hrefuses, session, hfound, hchat⟩

theorem Keyed.upsertSession (h : Keyed sessions) (refuses : Bool) (session : BotSessionRecord) :
    Keyed (upsertSession refuses session sessions).2 := by
  cases refuses with
  | true => exact h
  | false => exact h.assign session

theorem Keyed.touchForChat (h : Keyed sessions) (readable refuses : Bool) (now : Instant) (u c : ℤ) :
    Keyed (touchForChat readable refuses now u c sessions).2 := by
  unfold OandaV3.touchForChat
  cases getSessionForChat readable u c sessions with
  | none => exact h
  | some session =>
      cases refuses with
      | true => exact h
      | false => exact h.assign { session with lastActivityAt := now }

theorem requireSession_some {check : SessionCheck} {session : BotSessionRecord} :
    (requireSession check u c sessions).1 = some session ↔
      check.readable = true ∧ getSession true u sessions = some session ∧ session.chatId = c := by
  rw [requireSession]
  cases hreadable : check.readable with
  | false => simp [getSession]
  | true =>
      cases getSession true u sessions with
      | none => simp
      | some found =>
          by_cases hchat : found.chatId = c
          · simpa [hchat] using fun h : found = session => h ▸ hchat
          · simpa [hchat] using fun h : found = session => h ▸ hchat

theorem requireAdminSession_some {settings : BotSettings} {check : SessionCheck} {session : BotSessionRecord} :
    (requireAdminSession settings check u c sessions).1 = some session ↔
      (check.readable = true ∧ getSession true u sessions = some session ∧ session.chatId = c) ∧
        (session.isAdmin = true ∨ u ∈ settings.telegramAdminIds) := by
  rw [← requireSession_some, requireAdminSession]
  obtain ⟨_ | found, checked⟩ := requireSession check u c sessions
  · simp
  · have hadmin : (found.isAdmin || settings.isAdmin u) = true ↔
        found.isAdmin = true ∨ u ∈ settings.telegramAdminIds := by simp [BotSettings.isAdmin]
    by_cases h : (found.isAdmin || settings.isAdmin u) = true
    · simpa [h] using fun heq : found = session => heq ▸ hadmin.mp h
    · simp only [h, Bool.false_eq_true, if_false, reduceCtorEq, Option.some_inj, false_iff, not_and]
      rintro rfl
      exact mt hadmin.mpr h

theorem requireSession_none {check : SessionCheck} (h : (requireSession check u c sessions).1 = none) :
    requireSession check u c sessions = (none, sessions) := by
  unfold requireSession at h ⊢
  cases hfound : getSession check.readable u sessions with
  | none => rfl
  | some session =>
      rw [hfound] at h
      by_cases hchat : session.chatId = c
      · simp [hchat] at h
      · simp [hchat]

theorem requireSession_snd {check : SessionCheck} {session : BotSessionRecord}
    (h : (requireSession check u c sessions).1 = some session) :
    (requireSession check u c sessions).2 =
      (touchForChat check.touchReadable check.refuses check.now u c sessions).2 := by
  obtain ⟨hreadable, hfound, hchat⟩ := requireSession_some.mp h
  simp [requireSession, hreadable, hfound, hchat]

theorem Keyed.requireSession (h : Keyed sessions) (check : SessionCheck) (u c : ℤ) :
    Keyed (requireSession check u c sessions).2 := by
  cases hsession : (OandaV3.requireSession check u c sessions).1 with
  | none =>
      rw [requireSession_none hsession]
      exact h
  | some session =>
      rw [requireSession_snd hsession]
      exact h.touchForChat _ _ _ _ _

/-- The check writes the time of the message. -/
def SessionCheck.touches (check : SessionCheck) : Bool :=
  check.readable && check.touchReadable && !check.refuses

theorem grantOf_requireSession (hkeyed : Keyed sessions) (check : SessionCheck) (u c : ℤ) :
    grantOf userId (requireSession check u c sessions).2 = some g ↔
      grantOf userId sessions = some g ∧
        (u = userId → c = g.chatId → check.touches = true → g.since ≤ check.now) := by
  cases hsession : (requireSession check u c sessions).1 with
  | none =>
      rw [requireSession_none hsession]
      show grantOf userId sessions = some g ↔ _
      refine (and_iff_left_of_imp fun hgrant huser hchat htouches => ?_).symm
      subst huser hchat
      obtain ⟨session, hfound, rfl⟩ := Option.map_eq_some_iff.mp hgrant
      have hreadable : check.readable = true := by simp_all [SessionCheck.touches]
      have hserved := requireSession_some.mpr ⟨hreadable, hfound, rfl⟩
      exact absurd (hserved.symm.trans hsession) (Option.some_ne_none session)
  | some session =>
      obtain ⟨hreadable, -, -⟩ := requireSession_some.mp hsession
      rw [requireSession_snd hsession, grantOf_touchForChat hkeyed]
      simp [SessionCheck.touches, hreadable]

theorem grantOf_deleteSession (readable refuses : Bool) (u : ℤ) :
    grantOf userId (deleteSession readable refuses u sessions).2 = some g ↔
      grantOf userId sessions = some g ∧ (u = userId → readable = true → refuses = true) := by
  rw [deleteSession]
  cases readable with
  | false => simp [getSession]
  | true =>
      cases hfound : getSession true u sessions with
      | none =>
          refine (and_iff_left_of_imp fun hgrant huser _ => ?_).symm
          subst huser
          simp [grantOf, hfound] at hgrant
      | some session =>
          cases refuses with
          | true => simp
          | false => simp [grantOf_pop, ne_comm]

theorem grantOf_logoutCommand (hkeyed : Keyed sessions) (check : SessionCheck) (readable refuses : Bool)
    (u c : ℤ) :
    grantOf userId (logoutCommand u c check readable refuses sessions) = some g ↔
      grantOf userId sessions = some g ∧ (u = userId → c = g.chatId → check.readable = true →
        (check.touches = true → g.since ≤ check.now) ∧ (readable = true → refuses = true)) := by
  cases hsession : (requireSession check u c sessions).1 with
  | none =>
      have hunread : ∀ session, getSession true u sessions = some session → session.chatId = c →
          check.readable = false := by
        intro session hfound hchat
        by_contra hreadable
        have hserved := requireSession_some.mpr ⟨Bool.eq_true_of_not_eq_false hreadable, hfound, hchat⟩
        exact absurd (hserved.symm.trans hsession) (Option.some_ne_none session)
      rw [logoutCommand, requireSession_none hsession]
      refine (and_iff_left_of_imp fun hgrant huser hchat hreadable => ?_).symm
      subst huser hchat
      obtain ⟨session, hfound, rfl⟩ := Option.map_eq_some_iff.mp hgrant
      simp [hunread session hfound rfl] at hreadable
  | some session =>
      obtain ⟨hreadable, hfound, hchat⟩ := requireSession_some.mp hsession
      obtain rfl := hkeyed u session (getSession_some hfound).1
      -- the session that is found is the one of the chat
      have hchatOf : session.userId = userId → grantOf userId sessions = some g → c = g.chatId := by
        rintro rfl hgrant
        rw [grantOf, hfound, Option.map_some, Option.some_inj] at hgrant
        rw [← hgrant, ← hchat, BotSessionRecord.grant]
      have hpair : requireSession check session.userId c sessions =
          (some session, (requireSession check session.userId c sessions).2) := Prod.ext hsession rfl
      rw [logoutCommand, hpair]
      show grantOf userId (deleteSession readable refuses session.userId _).2 = some g ↔ _
      rw [grantOf_deleteSession, grantOf_requireSession hkeyed]
      constructor
      · rintro ⟨⟨hgrant, htouch⟩, hdelete⟩
        exact ⟨hgrant, fun huser hchat _ => ⟨htouch huser hchat, hdelete huser⟩⟩
      · rintro ⟨hgrant, hkeeps⟩
        exact ⟨⟨hgrant, fun huser hchat => (hkeeps huser hchat hreadable).1⟩,
          fun huser => (hkeeps huser (hchatOf huser hgrant) hreadable).2⟩

theorem Keyed.authenticate (h : Keyed sessions) (settings : BotSettings) (message : StartMessage) :
    Keyed (authenticate settings message sessions).2 := by
  unfold OandaV3.authenticate
  split_ifs with hpassword
  · exact h
  · cases (message.session settings).contractError with
    | some error => exact h
    | none =>
        cases message.refuses with
        | true => exact h
        | false => exact h.assign (message.session settings)

theorem Keyed.deleteSession (h : Keyed sessions) (readable refuses : Bool) (u : ℤ) :
    Keyed (deleteSession readable refuses u sessions).2 := by
  unfold OandaV3.deleteSession
  cases getSession readable u sessions with
  | none => exact h
  | some existing =>
      cases refuses with
      | true => exact h
      | false => exact h.pop u

theorem Keyed.logoutCommand (h : Keyed sessions) (u c : ℤ) (check : SessionCheck) (readable refuses : Bool) :
    Keyed (logoutCommand u c check readable refuses sessions) := by
  have hchecked := h.requireSession check u c
  unfold OandaV3.logoutCommand
  generalize OandaV3.requireSession check u c sessions = checked at hchecked ⊢
  obtain ⟨_ | session, checked⟩ := checked
  · exact hchecked
  · exact hchecked.deleteSession readable refuses session.userId

theorem Keyed.afterEvent (h : Keyed sessions) (event : BotEvent) : Keyed (afterEvent sessions event) := by
  obtain ⟨settings, message⟩ := event
  cases message with
  | start message => exact h.authenticate settings message
  | command u c check => exact h.requireSession check u c
  | logout u c check readable refuses => exact h.logoutCommand u c check readable refuses

def StartMessage.Saves (settings : BotSettings) (message : StartMessage) (userId : ℤ) : Prop :=
  message.userId = userId ∧ message.password = settings.telegramBotPassword ∧
    (message.session settings).contractError = none ∧ message.refuses = false

theorem grantOf_authenticate (settings : BotSettings) (message : StartMessage) :
    grantOf userId (authenticate settings message sessions).2 = some g ↔
      (message.Saves settings userId ∧ (message.session settings).grant = g) ∨
        ¬ message.Saves settings userId ∧ grantOf userId sessions = some g := by
  unfold authenticate StartMessage.Saves
  by_cases hpassword : message.password = settings.telegramBotPassword
  · cases hcontract : (message.session settings).contractError with
    | some error => simp [hpassword]
    | none =>
        cases hrefuses : message.refuses with
        | true => simp [hpassword, upsertSession]
        | false =>
            by_cases huser : message.userId = userId
            · subst huser
              have hself : grantOf message.userId
                  (assign sessions message.userId (message.session settings)) = some g ↔ _ :=
                grantOf_assign_self (message.session settings)
              simpa [hpassword, upsertSession, hcontract] using hself
            · simp [hpassword, upsertSession, huser, grantOf_assign_ne _ (Ne.symm huser)]
  · simp [hpassword]

def BotEvent.Grants (userId : ℤ) (g : Grant) (event : BotEvent) : Prop :=
  ∃ message, event.message = .start message ∧ message.Saves event.settings userId ∧
    (message.session event.settings).grant = g

/-- The event leaves the user the grant: it is no other start and no logout, and the clock is not before the
grant when its time is written. -/
def BotEvent.Keeps (userId : ℤ) (g : Grant) (event : BotEvent) : Prop :=
  match event.message with
  | .start message => ¬ message.Saves event.settings userId
  | .command u c check => u = userId → c = g.chatId → check.touches = true → g.since ≤ check.now
  | .logout u c check readable refuses => u = userId → c = g.chatId → check.readable = true →
      (check.touches = true → g.since ≤ check.now) ∧ (readable = true → refuses = true)

theorem grantOf_afterEvent (hkeyed : Keyed sessions) (event : BotEvent) :
    grantOf userId (afterEvent sessions event) = some g ↔
      event.Grants userId g ∨ event.Keeps userId g ∧ grantOf userId sessions = some g := by
  obtain ⟨settings, message⟩ := event
  cases message with
  | start message =>
      simpa [afterEvent, BotEvent.Grants, BotEvent.Keeps] using grantOf_authenticate settings message
  | command u c check =>
      simpa [afterEvent, BotEvent.Grants, BotEvent.Keeps, and_comm] using grantOf_requireSession hkeyed check u c
  | logout u c check readable refuses =>
      simpa [afterEvent, BotEvent.Grants, BotEvent.Keeps, and_comm] using
        grantOf_logoutCommand hkeyed check readable refuses u c

theorem keyed_sessionsAfter (history : List BotEvent) : Keyed (sessionsAfter history) := by
  induction history with
  | nil => exact fun _ _ hfound => nomatch hfound
  | cons event history ih => exact ih.afterEvent event

/-- The user has the grant: an event gave it, and all that came since have kept it. -/
def Granted (userId : ℤ) (g : Grant) (history : List BotEvent) : Prop :=
  ∃ later event earlier, history = later ++ event :: earlier ∧ event.Grants userId g ∧
    ∀ e ∈ later, e.Keeps userId g

theorem grantOf_sessionsAfter (history : List BotEvent) :
    grantOf userId (sessionsAfter history) = some g ↔ Granted userId g history := by
  rw [Granted, ← since_iff]
  induction history with
  | nil => simp [sessionsAfter, grantOf, getSession, Since]
  | cons event history ih =>
      rw [sessionsAfter, grantOf_afterEvent (keyed_sessionsAfter history), ih, Since]

end steps

/-- **Who may use the bot.**  A command runs with a session exactly when its user has started the bot from the
same chat with the password of that time, and no start, logout or clock before that start came since; it runs
as an admin when besides the user was an admin at that start, or is one now. -/
theorem sessions_authorize (settings : BotSettings) (history : List BotEvent) (check : SessionCheck)
    (userId chatId : ℤ) :
    ((requireSession check userId chatId (sessionsAfter history)).1.isSome = true ↔
      check.readable = true ∧ ∃ g : Grant, g.chatId = chatId ∧ Granted userId g history) ∧
    ((requireAdminSession settings check userId chatId (sessionsAfter history)).1.isSome = true ↔
      check.readable = true ∧ ∃ g : Grant, g.chatId = chatId ∧
        (g.isAdmin = true ∨ userId ∈ settings.telegramAdminIds) ∧ Granted userId g history) := by
  simp only [← grantOf_sessionsAfter]
  simp only [Option.isSome_iff_exists, requireAdminSession_some, requireSession_some]
  constructor
  · constructor
    · rintro ⟨session, hreadable, hfound, hchat⟩
      exact ⟨hreadable, session.grant, hchat, by simp [grantOf, hfound]⟩
    · rintro ⟨hreadable, g, hchat, hgrant⟩
      obtain ⟨session, hfound, rfl⟩ := Option.map_eq_some_iff.mp hgrant
      exact ⟨session, hreadable, hfound, hchat⟩
  · constructor
    · rintro ⟨session, ⟨hreadable, hfound, hchat⟩, hadmin⟩
      exact ⟨hreadable, session.grant, hchat, hadmin, by simp [grantOf, hfound]⟩
    · rintro ⟨hreadable, g, hchat, hadmin, hgrant⟩
      obtain ⟨session, hfound, rfl⟩ := Option.map_eq_some_iff.mp hgrant
      exact ⟨session, ⟨hreadable, hfound, hchat⟩, hadmin⟩

end OandaV3
