import CalloutHost.Json.Record
import CalloutHost.Url.Parse

/-!
# The collector of metrics

The collector is told how to name a server, where to find it and how often to look. It asks for the
statistics at the path `varz` under the server's address and records them: one gauge for each
number, with the last value for each server. It cannot take other options; a new collector has to be
created for them.
-/

namespace CalloutHost

/-- A span of time, in nanoseconds. -/
abbrev Nanoseconds := Nat

/-- So many seconds. -/
def seconds (n : Nat) : Nanoseconds := n * 1000000000

/-- So many milliseconds. -/
def milliseconds (n : Nat) : Nanoseconds := n * 1000000

/-- What the collector is told. -/
structure CollectorOptions where
  /-- How the server is named. -/
  label : String
  url : String
  interval : Nanoseconds
  deriving DecidableEq, Repr

/-- How often to look when nothing is configured. -/
def CollectorOptions.defaultInterval : Nanoseconds := seconds 15

/-- What goes wrong with a collector. -/
inductive CollectorFault
  | reloadUnsupported
  | invalidUrl (url reason : String)
  | alreadyStarted
  deriving DecidableEq, Repr

/-- The text of a fault. -/
def CollectorFault.message : CollectorFault → String
  | .reloadUnsupported => "collector cannot apply new options in place"
  | .invalidUrl url reason => "invalid collector url " ++ url ++ ": " ++ reason
  | .alreadyStarted => "collector already started"

/-! ## Where metrics are found -/

/-- The path of the metrics under a path. -/
def metricsPath (path : String) : String :=
  String.ofList (path.toList.reverse.dropWhile (· = '/')).reverse ++ "/varz"

/-- Where the metrics of a server are found. -/
def metricsEndpoint (address : String) : Except CollectorFault Url :=
  let invalid (reason : String) := CollectorFault.invalidUrl address reason
  match Url.parse address with
  | .error e => .error (invalid e.message)
  | .ok (.other scheme) => .error (invalid ("unsupported scheme " ++ scheme))
  | .ok (.common u) =>
    if u.scheme = "http" ∨ u.scheme = "https" then
      (u.join (metricsPath u.path)).mapError fun e => invalid e.message
    else .error (invalid ("unsupported scheme " ++ u.scheme))

/-! ## What a server reports -/

/-- What a server reports of itself. -/
structure ServerStats where
  connections : UInt64
  subscriptions : UInt64
  slowConsumers : UInt64
  messagesIn : UInt64
  messagesOut : UInt64
  bytesIn : UInt64
  bytesOut : UInt64
  /-- How much memory the server holds, in bytes. -/
  memory : UInt64
  /-- How busy the processor is, in percent. -/
  load : Binary64
  deriving DecidableEq, Repr

namespace ServerStats

/-- The form of a report; what is not reported is zero. -/
def record : Json.Record ServerStats where
  title := "Varz"
  fields :=
    [.defaulted "connections" .uint64 (·.connections) (fun x s => { s with connections := x }),
     .defaulted "subscriptions" .uint64 (·.subscriptions)
       (fun x s => { s with subscriptions := x }),
     .defaulted "slow_consumers" .uint64 (·.slowConsumers)
       (fun x s => { s with slowConsumers := x }),
     .defaulted "in_msgs" .uint64 (·.messagesIn) (fun x s => { s with messagesIn := x }),
     .defaulted "out_msgs" .uint64 (·.messagesOut) (fun x s => { s with messagesOut := x }),
     .defaulted "in_bytes" .uint64 (·.bytesIn) (fun x s => { s with bytesIn := x }),
     .defaulted "out_bytes" .uint64 (·.bytesOut) (fun x s => { s with bytesOut := x }),
     .defaulted "mem" .uint64 (·.memory) (fun x s => { s with memory := x }),
     .defaulted "cpu" .binary64 (·.load) (fun x s => { s with load := x })]
  initial := ⟨0, 0, 0, 0, 0, 0, 0, 0, ⟨0⟩⟩
  strict := false

end ServerStats

/-- A number that is exported. -/
structure Gauge where
  name : String
  /-- Its unit, empty for a count. -/
  unit : String
  description : String
  reading : ServerStats → String

namespace Gauge

/-- A gauge of a whole number. -/
def ofCount (name unit description : String) (count : ServerStats → UInt64) : Gauge :=
  ⟨"nats.server." ++ name, unit, description, fun s => toString (count s).toNat⟩

/-- All gauges, in the order of their names. -/
def all : List Gauge :=
  [ofCount "connections" "" "Current client connections" (·.connections),
   ⟨"nats.server.cpu", "", "Server CPU usage in percent", fun s => s.load.hex⟩,
   ofCount "in_bytes" "By" "Bytes received" (·.bytesIn),
   ofCount "in_msgs" "" "Messages received" (·.messagesIn),
   ofCount "mem" "By" "Resident memory of the server process" (·.memory),
   ofCount "out_bytes" "By" "Bytes sent" (·.bytesOut),
   ofCount "out_msgs" "" "Messages sent" (·.messagesOut),
   ofCount "slow_consumers" "" "Slow consumers seen" (·.slowConsumers),
   ofCount "subscriptions" "" "Active subscriptions" (·.subscriptions)]

/-- The name, the unit and the description. -/
def title (g : Gauge) : String := g.name ++ " [" ++ g.unit ++ "] " ++ g.description

end Gauge

/-- The last report of each server. -/
abbrev GaugeBoard := Dict ServerStats

namespace GaugeBoard

/-- Records a report. -/
def record (b : GaugeBoard) (server : String) (s : ServerStats) : GaugeBoard := b.insert server s

/-- For each gauge and each server the title, the attribute and the last value. -/
def readings (b : GaugeBoard) : List (String × String × String) :=
  Gauge.all.flatMap fun g =>
    b.toList.map fun (server, s) => (g.title, "server=" ++ server, g.reading s)

end GaugeBoard

/-! ## The collector -/

/-- What a server answers when it is asked for a document, `none` if it is not reached. -/
abbrev Fetch := Url → Option (Nat × Bytes)

/-- Why no statistics are read. -/
inductive ScrapeFault
  | unreachable
  | status (code : Nat)
  | document (cause : Json.Refusal)
  deriving DecidableEq, Repr

/-- A collector. -/
structure Collector where
  options : CollectorOptions
  endpoint : Url
  /-- It asks by itself. -/
  running : Bool

namespace Collector

/-- The collector for some options. -/
def create (o : CollectorOptions) : Except CollectorFault Collector := do
  let endpoint ← metricsEndpoint o.url
  return ⟨o, endpoint, false⟩

/-- Asks for the statistics. -/
def scrape (c : Collector) (fetch : Fetch) : Except ScrapeFault ServerStats :=
  match fetch c.endpoint with
  | none => .error .unreachable
  | some (code, body) =>
    if 400 ≤ code ∧ code < 600 then .error (.status code)
    else (ServerStats.record.codec.ofBytes body).mapError .document

/-- Asks for the statistics and records them. -/
def poll (c : Collector) (fetch : Fetch) (board : GaugeBoard) :
    Except ScrapeFault ServerStats × GaugeBoard :=
  match c.scrape fetch with
  | .ok stats => (.ok stats, board.record c.options.label stats)
  | .error e => (.error e, board)

/-- Begins to ask by itself, at once for the first time. -/
def start (c : Collector) (fetch : Fetch) (board : GaugeBoard) :
    Except CollectorFault Unit × Collector × GaugeBoard :=
  if c.running then (.error .alreadyStarted, c, board)
  else (.ok (), { c with running := true }, (c.poll fetch board).2)

/-- Takes other options, which it cannot. -/
def reload (c : Collector) (o : CollectorOptions) : Except CollectorFault Unit :=
  if c.options = o then .ok () else .error .reloadUnsupported

/-- Ends asking by itself. -/
def stop (c : Collector) : Collector := { c with running := false }

end Collector

end CalloutHost
