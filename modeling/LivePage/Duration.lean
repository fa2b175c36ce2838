/-!
# Durations

Spans of time in whole nanoseconds, shorter than `2 ^ 64` seconds.
-/

namespace LivePage

/-- A span of time. -/
structure Duration where
  nanoseconds : Nat
  nanoseconds_lt : nanoseconds < UInt64.size * 1000000000
  deriving DecidableEq, Repr

namespace Duration

/-- A span of whole nanoseconds, if it is short enough. -/
def ofNanoseconds? (n : Nat) : Option Duration :=
  if h : n < UInt64.size * 1000000000 then some ⟨n, h⟩ else none

def ofMillis (n : UInt64) : Duration :=
  ⟨n.toNat * 1000000, by have := n.toNat_lt_size; omega⟩

/-- A span of seconds and a part of a second. -/
def ofParts (seconds : UInt64) (nanoseconds : Fin 1000000000) : Duration :=
  ⟨seconds.toNat * 1000000000 + nanoseconds.val, by
    have := seconds.toNat_lt_size
    have := nanoseconds.isLt
    omega⟩

def wholeSeconds (d : Duration) : Nat :=
  d.nanoseconds / 1000000000

/-- The nanoseconds of a span beyond its whole seconds. -/
def subsecond (d : Duration) : Nat :=
  d.nanoseconds % 1000000000

theorem nanoseconds_inj {d e : Duration} : d.nanoseconds = e.nanoseconds ↔ d = e := by
  obtain ⟨n, hn⟩ := d
  obtain ⟨m, hm⟩ := e
  simp

theorem ofNanoseconds?_nanoseconds (d : Duration) :
    ofNanoseconds? d.nanoseconds = some d :=
  dif_pos d.nanoseconds_lt

end Duration
end LivePage
