import FleetLocator.Decimal.Binary64
import FleetLocator.Driver.Record

/-! # Counts of what the service did, and their text -/
namespace FleetLocator.Service

inductive Outcome
  | error
  | success
  deriving DecidableEq, Repr

def Outcome.label : Outcome → String
  | error => "error"
  | success => "success"

def Outcome.ofBool (success : Bool) : Outcome := if success then .success else .error

structure Tally where
  error : Nat := 0
  success : Nat := 0
  deriving DecidableEq, Repr

namespace Tally

def count (t : Tally) : Outcome → Nat
  | .error => t.error
  | .success => t.success

def add (t : Tally) : Outcome → Tally
  | .error => { t with error := t.error + 1 }
  | .success => { t with success := t.success + 1 }

@[simp] theorem count_add (t : Tally) (o p : Outcome) :
    (t.add o).count p = t.count p + if p = o then 1 else 0 := by
  cases o <;> cases p <;> rfl

end Tally

/-- How many observations there were, their sum, and how many were at most each bound. -/
structure Histogram where
  within : List (Nat × Nat)
  sum : Nat := 0
  count : Nat := 0
  deriving DecidableEq, Repr

namespace Histogram

def ofBounds (bounds : List Nat) : Histogram := { within := bounds.map fun bound => (bound, 0) }

def observe (h : Histogram) (x : Nat) : Histogram where
  within := h.within.map fun entry => (entry.1, if x ≤ entry.1 then entry.2 + 1 else entry.2)
  sum := h.sum + x
  count := h.count + 1

end Histogram

structure Metrics where
  searches : Tally := {}
  /-- How often candidates were asked for; how long that took is measured elsewhere. -/
  retrievals : Nat := 0
  returned : Histogram := .ofBounds [0, 1, 2, 5, 10, 20, 50, 100]
  locations : Tally := {}
  statuses : Tally := {}
  deriving DecidableEq, Repr

namespace Metrics

def updates (m : Metrics) : Driver.ChangeKind → Tally
  | .location => m.locations
  | .status => m.statuses

def searchFailed (m : Metrics) : Metrics :=
  { m with searches := m.searches.add .error, retrievals := m.retrievals + 1 }

def searchFound (m : Metrics) (drivers : Nat) : Metrics :=
  { m with
    searches := m.searches.add .success
    retrievals := m.retrievals + 1
    returned := m.returned.observe drivers }

def updated (m : Metrics) (kind : Driver.ChangeKind) (outcome : Outcome) : Metrics :=
  match kind with
  | .location => { m with locations := m.locations.add outcome }
  | .status => { m with statuses := m.statuses.add outcome }

@[simp] theorem updates_updated (m : Metrics) (kind other : Driver.ChangeKind) (outcome : Outcome) :
    (m.updated kind outcome).updates other =
      if other = kind then (m.updates other).add outcome else m.updates other := by
  cases kind <;> cases other <;> rfl

end Metrics

/-- How long the retrievals took, as it is measured elsewhere: how many took at most so many seconds, and how long
all of them took together. -/
structure Durations where
  within : Float → Nat
  sum : Float

def Durations.bounds : List Float := [0.005, 0.01, 0.025, 0.05, 0.1, 0.25, 0.5, 1, 2.5, 5, 10]

def escapeLabel (c : Char) : List Char :=
  if c = '\\' then ['\\', '\\'] else if c = '\n' then ['\\', 'n'] else if c = '"' then ['\\', '"'] else [c]

def label (pair : String × String) : String :=
  pair.1 ++ "=\"" ++ String.ofList (pair.2.toList.flatMap escapeLabel) ++ "\""

def labels (pairs : List (String × String)) : String :=
  if pairs.isEmpty then "" else "\x7b" ++ ",".intercalate (pairs.map label) ++ "\x7d"

def sample (name : String) (pairs : List (String × String)) (value : String) : String :=
  name ++ labels pairs ++ " " ++ value ++ "\n"

/-- What is said of a family of samples before them; nothing is said of a family without samples. -/
def family (name help kind : String) (samples : List String) : String :=
  if samples.isEmpty then ""
  else "# HELP " ++ name ++ " " ++ help ++ "\n# TYPE " ++ name ++ " " ++ kind ++ "\n" ++ String.join samples

/-- One sample per outcome that has occurred. -/
def Tally.samples (t : Tally) (name : String) (pairs : List (String × String)) : List String :=
  [Outcome.error, Outcome.success].filterMap fun o =>
    if t.count o = 0 then none else some (sample name (pairs ++ [("outcome", o.label)]) (toString (t.count o)))

def countSample (name : String) (pairs : List (String × String)) (count : Nat) : String :=
  sample (name ++ "_count") pairs (toString count)

/-- How many observations were within each bound, how much they are together, and how many they are. -/
def histogramSamples (name : String) (pairs : List (String × String)) (within : List (String × Nat)) (sum : String)
    (count : Nat) : List String :=
  (within ++ [("+Inf", count)]).map (fun entry =>
      sample (name ++ "_bucket") (pairs ++ [("le", entry.1)]) (toString entry.2)) ++
    [sample (name ++ "_sum") pairs sum, countSample name pairs count]

def Histogram.samples (h : Histogram) (name : String) : List String :=
  histogramSamples name [] (h.within.map fun entry => (toString entry.1, entry.2)) (toString h.sum) h.count

/-- The samples of retrievals from the named source. Where durations are left out, so are their samples. -/
def retrievalSamples (source name : String) (retrievals : Nat) (durations : Option Durations) : List String :=
  if retrievals = 0 then []
  else match durations with
    | some d => histogramSamples name [("source", source)]
        (Durations.bounds.map fun bound => (Decimal.plain.text bound, d.within bound)) (Decimal.plain.text d.sum)
        retrievals
    | none => [countSample name [("source", source)] retrievals]

/-- All families in the order of their names, for a service over the named backend. -/
def Metrics.text (source : String) (m : Metrics) (durations : Option Durations := none) : String :=
  family "driver_updates_total" "Driver updates by kind and outcome" "counter"
    ([Driver.ChangeKind.location, Driver.ChangeKind.status].flatMap fun kind =>
      (m.updates kind).samples "driver_updates_total" [("kind", kind.label)])
  ++ family "nearby_drivers_returned" "Number of drivers returned per successful search" "histogram"
    (m.returned.samples "nearby_drivers_returned")
  ++ family "nearby_queries_total" "Nearby driver searches by outcome" "counter"
    (m.searches.samples "nearby_queries_total" [])
  ++ family "nearby_query_latency_seconds" "Latency of candidate retrieval in seconds" "histogram"
    (retrievalSamples source "nearby_query_latency_seconds" m.retrievals durations)

end FleetLocator.Service
