import ServiceBus.Handle

/-!
Telemetry on a best effort. An atom is handed over to the daemon or it is not, and the caller is
told which; what the daemon does with it is not reported. Any failure drops the connection.
-/
namespace ServiceBus

inductive BreadcrumbState
  | unspecified
  | stop
  | start
deriving DecidableEq

def BreadcrumbState.raw : BreadcrumbState → Int32
  | unspecified => 0
  | stop => 1
  | start => 2

inductive PushOption
  | requireStaging
  | rollbackEnabled
  | requireLowLatencyMonitor
deriving DecidableEq

namespace PushOption

def all : List PushOption := [requireStaging, rollbackEnabled, requireLowLatencyMonitor]

def raw : PushOption → Int32
  | requireStaging => 1
  | rollbackEnabled => 2
  | requireLowLatencyMonitor => 4

def mask : Int32 := all.foldl (fun n o => n ||| o.raw) 0

theorem mask_eq : mask = 7 := by decide

end PushOption

structure StatsLog where
  handle : HandleRef .stats

namespace StatsLog

def serviceName : String := "stats"

def ofDirectory (w : World) (directory : Directory) : StatsLog × World :=
  match w.addHandle .stats serviceName directory with
  | (r, w) => (⟨r⟩, w)

/-- Hands an atom over; the label says what it is about. -/
def send (host : Host) (l : StatsLog) (label : String) (m : Method .stats) (args : m.Args)
    (w : World) : Bool × World :=
  match w.resolve host l.handle with
  | (none, w) => (false, w.say .debug ("Failed to find statsd when logging " ++ label))
  | (some c, w) =>
    match w.onBus (c.call host m args) with
    | (.ok _, w) => (true, w)
    | (.error status, w) =>
      (false, (w.invalidate l.handle).say .debug
        ("Failed to connect to statsd when logging " ++ label ++ ": " ++ status.render))

def start (host : Host) (l : StatsLog) (label : Int32) (w : World) : Bool × World :=
  l.send host "start" .sendBreadcrumb (label, BreadcrumbState.start.raw, ()) w

def stop (host : Host) (l : StatsLog) (label : Int32) (w : World) : Bool × World :=
  l.send host "stop" .sendBreadcrumb (label, BreadcrumbState.stop.raw, ()) w

def event (host : Host) (l : StatsLog) (label : Int32) (w : World) : Bool × World :=
  l.send host "event" .sendBreadcrumb (label, BreadcrumbState.unspecified.raw, ()) w

/-- The install of a binary changed its state. Of the options only the known bits are kept. -/
def binaryPush (host : Host) (l : StatsLog) (train : String) (version : Int64)
    (options state : Int32) (experiments : List Int64) (w : World) : Bool × World :=
  l.send host "binary push state changed" .sendBinaryPush
    (train, version, options &&& PushOption.mask, state, experiments, ()) w

end StatsLog

end ServiceBus
