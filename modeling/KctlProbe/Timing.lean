import KctlProbe.Run
import KctlProbe.Duration

/-!
# Timing

A command is run many times with its output discarded, and the time that this took is reported
together with the number of runs that failed. The first run that cannot be started ends the timing.
-/

namespace KctlProbe

/-- The measurements of repeated runs. -/
structure TimingReport where
  /-- The number of runs. -/
  iterations : UInt32
  /-- The time that all runs took together. -/
  total : Duration
  /-- The runs that did not exit with code 0. -/
  failures : UInt32
  deriving DecidableEq, Repr

namespace TimingReport

/-- The mean time of a run, zero if there was none. -/
def average (r : TimingReport) : Duration :=
  if h : r.iterations = 0 then .zero else r.total.divide r.iterations h

/-- The mean time of a run in microseconds, or the greatest number of 64 bits if that is less. -/
def averageMicros (r : TimingReport) : UInt64 :=
  UInt64.ofNat (min r.average.toMicros 18446744073709551615)

/-- What follows the measured number in a report. -/
def measureText (r : TimingReport) : String :=
  " seconds, average over " ++ Text.decimal r.iterations.toNat ++ " iterations"

/-- A report in words. -/
def text (r : TimingReport) : String :=
  r.total.secondsText ++ r.measureText

end TimingReport

variable {σ : Type}

/-- How far repeated runs have come. -/
structure Progress (σ : Type) where
  failures : UInt32
  /-- The events so far, the last one first. -/
  log : List Event
  host : σ

/-- Starts the process of an argument vector `n` times, without capture, or until it cannot be
started. -/
def repeatRuns (host : Host σ) (argv : List Bytes) :
    Nat → Progress σ → Except Failure Unit × Progress σ
  | 0, p => (.ok (), p)
  | n + 1, p =>
    let t := execute host argv false p.host
    let log := t.log.reverse ++ p.log
    match t.result with
    | .error f => (.error f, { p with log, host := t.host })
    | .ok outcome =>
      let failures := if outcome.success then p.failures else p.failures + 1
      repeatRuns host argv n { failures, log, host := t.host }

/-- Runs a command `iterations` times and measures how long that takes. -/
def timeRuns {α : Type} [Command α] (host : Host σ) (command : α) (positional : List String)
    (iterations : UInt32) (state : σ) : Trace σ TimingReport :=
  let (result, p) := repeatRuns host (Command.argv command positional) iterations.toNat
    { failures := 0, log := [], host := state }
  match result with
  | .error f => { result := .error f, log := p.log.reverse, host := p.host }
  | .ok () =>
    let report : TimingReport :=
      { iterations
        total := .ofNanos (host.clock p.host - host.clock state)
        failures := p.failures }
    let finished := Event.timed (Command.subCommand command) iterations p.failures
      report.averageMicros
    { result := .ok report, log := (finished :: p.log).reverse, host := p.host }

end KctlProbe
