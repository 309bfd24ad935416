import OandaV3.DocTable
import OandaV3.Models

/-! # The economic calendar

The events of `data/forex_calendar.py`: how the rows of an answer are parsed, how the events are
filtered, and the test for a blackout.

A row of the answer is its texts by key, and the instant its time fields denote (the date formats are
left out).  The texts come from a third party, and their letters are those of a `UnicodeTable`. -/

namespace OandaV3

open DocTable

/-! ### Events -/

/-- `ImpactLevel`. -/
inductive ImpactLevel where
  | HIGH
  | MEDIUM
  | LOW
  | HOLIDAY
  | UNKNOWN
deriving DecidableEq, Repr

def ImpactLevel.text : ImpactLevel → String
  | HIGH => "HIGH"
  | MEDIUM => "MEDIUM"
  | LOW => "LOW"
  | HOLIDAY => "HOLIDAY"
  | UNKNOWN => "UNKNOWN"

/-- `CalendarEvent`. -/
structure CalendarEvent where
  title : String
  eventTime : Instant
  impact : ImpactLevel
  currency : Option String
  country : Option String
  isBlackout : Bool
  forecast : Option String
  previous : Option String
  actual : Option String
deriving DecidableEq, Repr

/-- Events in the order of their times. -/
structure CalendarEvents where
  list : List CalendarEvent
  sorted : list.Pairwise fun e f => e.eventTime ≤ f.eventTime
deriving DecidableEq

/-- `()`. -/
def CalendarEvents.empty : CalendarEvents := ⟨[], List.Pairwise.nil⟩

/-! ### Rows -/

/-- A row of the fetched answer: the texts of its fields, and what `_parse_event_time` reads. -/
structure CalendarRow where
  texts : List (String × String)
  eventTime : Option Instant
deriving DecidableEq, Repr

/-- `_first_text`. -/
def CalendarRow.firstText (row : CalendarRow) (keys : List String) : Option String :=
  keys.findSome? fun key => (row.texts.lookup key).bind fun value =>
    let text := Text.strip value
    if text = "" then none else some text

/-- `_COUNTRY_TO_CURRENCY`. -/
def countryToCurrency : List (String × String) :=
  [("AUSTRALIA", "AUD"), ("AUD", "AUD"), ("CANADA", "CAD"), ("CAD", "CAD"), ("SWITZERLAND", "CHF"),
   ("CHF", "CHF"), ("EU", "EUR"), ("EMU", "EUR"), ("EUR", "EUR"), ("EURO AREA", "EUR"),
   ("EURO ZONE", "EUR"), ("FRANCE", "EUR"), ("GERMANY", "EUR"), ("ITALY", "EUR"), ("SPAIN", "EUR"),
   ("UNITED KINGDOM", "GBP"), ("UK", "GBP"), ("GBP", "GBP"), ("JAPAN", "JPY"), ("JPY", "JPY"),
   ("NEW ZEALAND", "NZD"), ("NZD", "NZD"), ("UNITED STATES", "USD"),
   ("UNITED STATES OF AMERICA", "USD"), ("US", "USD"), ("USA", "USD"), ("USD", "USD")]

def impactMarkers : List (ImpactLevel × List String) :=
  [(.HIGH, ["HIGH", "RED", "3", "THREE", "HIGH IMPACT EXPECTED"]),
   (.MEDIUM, ["MEDIUM", "ORANGE", "2", "TWO", "MODERATE VOLATILITY EXPECTED"]),
   (.LOW, ["LOW", "YELLOW", "1", "ONE", "LOW IMPACT EXPECTED"]),
   (.HOLIDAY, ["HOLIDAY", "BANK HOLIDAY", "NON-ECONOMIC", "GRAY", "GREY"])]

section

variable (u : UnicodeTable)

/-- `_normalize_impact`. -/
def normalizeImpact : Option String → ImpactLevel
  | none => .UNKNOWN
  | some value =>
      let normalized := u.upperString (Text.strip value)
      ((impactMarkers.find? fun level => level.2.contains normalized).map Prod.fst).getD .UNKNOWN

/-- `_normalize_currency` of the calendar. -/
def normalizeCalendarCurrency (value : Option String) : Option String :=
  value.bind fun value =>
    let normalized := u.upperString (Text.strip value)
    if normalized.length = 3 ∧ normalized.toList.all u.isAlpha then some normalized
    else countryToCurrency.lookup normalized

/-- `_parse_currency_and_country`. -/
def parseCurrencyAndCountry (row : CalendarRow) : Option String × Option String :=
  let rawCurrency := row.firstText ["currency", "ccy", "code"]
  let rawCountry := row.firstText ["country", "country_name", "nation"]
  let currency := (normalizeCalendarCurrency u rawCurrency).or
    (rawCountry.bind fun country => countryToCurrency.lookup (u.upperString country))
  let country := (rawCountry.map Text.strip).or
    (if normalizeCalendarCurrency u rawCurrency = none then rawCurrency.map Text.strip else none)
  (currency, country)

/-- `_parse_row`: a row without a title or a time is left out. -/
def parseCalendarRow (row : CalendarRow) : Option CalendarEvent := do
  let title ← row.firstText ["title", "event", "event_title", "name"]
  let eventTime ← row.eventTime
  let (currency, country) := parseCurrencyAndCountry u row
  let impact := normalizeImpact u
    (row.firstText ["impact", "impact_name", "impactTitle", "impact_class"])
  return {
    title
    eventTime
    impact
    currency
    country
    isBlackout := impact == .HIGH
    forecast := row.firstText ["forecast", "f_cast", "expected"]
    previous := row.firstText ["previous", "prev"]
    actual := row.firstText ["actual", "act"] }

/-- `_parse_rows`. -/
def parseCalendarRows (rows : List CalendarRow) : CalendarEvents :=
  ⟨sortOn CalendarEvent.eventTime (rows.filterMap (parseCalendarRow u)), pairwise_sortOn⟩

/-! ### Filters -/

/-- `_normalize_value_set` in the mode `upper`; without values there is no filter. -/
def normalizeUpperSet (values : Option (List String)) : Option (List String) :=
  values.map fun values => values.filterMap fun value =>
    let text := Text.strip value
    if text = "" then none else some (u.upperString text)

/-- `_normalize_value_set` in the mode `impact`. -/
def normalizeImpactSet (values : Option (List String)) : Option (List ImpactLevel) :=
  values.map fun values => values.filterMap fun value =>
    let text := Text.strip value
    if text = "" then none else some (normalizeImpact u (some text))

/-- The filters of `filter_events`; a single text is the list of it. -/
structure EventFilters where
  currencies : Option (List String)
  countries : Option (List String)
  impacts : Option (List String)
deriving DecidableEq, Repr

/-- The three set tests of `filter_events`. -/
def EventFilters.accepts (filters : EventFilters) (event : CalendarEvent) : Bool :=
  (normalizeUpperSet u filters.currencies).all
      (fun currencies => currencies.contains (u.upperString (event.currency.getD ""))) &&
    (normalizeUpperSet u filters.countries).all
      (fun countries => countries.contains (u.upperString (event.country.getD ""))) &&
    (normalizeImpactSet u filters.impacts).all fun impacts => impacts.contains event.impact

/-- `filter_events`, on the events `get_events` returns. -/
def filterEvents (events : List CalendarEvent) (filters : EventFilters)
    (windowStart windowEnd : Option Instant) : List CalendarEvent :=
  events.filter fun event =>
    filters.accepts u event && windowStart.all (fun start => decide (start ≤ event.eventTime)) &&
      windowEnd.all fun stop => decide (event.eventTime ≤ stop)

def minuteMicros : ℤ := 60 * 1000000

/-- `is_event_blackout`, on the events `get_events` returns. -/
def isEventBlackout (events : List CalendarEvent) (minutesBefore minutesAfter : ℤ)
    (currencies impacts : Option (List String)) (nowUtc : Instant) : Except Exn Bool :=
  if minutesBefore < 0 ∨ minutesAfter < 0 then
    .error (.valueError "Blackout window minutes must be greater than or equal to zero.")
  else
    let upcoming := filterEvents u events { currencies, countries := none, impacts }
      (some (nowUtc - minutesBefore * minuteMicros)) (some (nowUtc + minutesAfter * minuteMicros))
    .ok (upcoming.any CalendarEvent.isBlackout)

end

end OandaV3
