/-! The connectivity signal: whether the network can be reached, as those who
follow it see it. A follower remembers the version of the signal that it saw
last, and has news when there is another. -/
namespace PrinterRoster

structure Signal where
  online : Bool
  version : Nat
  isOpen : Bool
deriving DecidableEq, Inhabited

namespace Signal

def start (online : Bool) : Signal := ⟨online, 0, true⟩

def send (signal : Signal) (online : Bool) : Signal :=
  { signal with online, version := signal.version + 1 }

def publish (signal : Signal) (online : Bool) : Signal × Bool :=
  if signal.online = online then (signal, false) else (signal.send online, true)

def close (signal : Signal) : Signal := { signal with isOpen := false }

def hasNews (signal : Signal) (seen : Nat) : Bool := signal.version ≠ seen

end Signal

structure Monitor where
  interval : Nat
  signal : Signal
deriving DecidableEq, Inhabited

namespace Monitor

def start (interval : Nat) (online : Bool) : Monitor := ⟨interval, .start online⟩

/-- One look. A monitor without an interval gives up when it takes the first. -/
def look (monitor : Monitor) (online : Bool) : Monitor :=
  { monitor with
    signal := if monitor.interval = 0 then monitor.signal.close else (monitor.signal.publish online).1 }

def stop (monitor : Monitor) : Monitor := { monitor with signal := monitor.signal.close }

end Monitor

end PrinterRoster
