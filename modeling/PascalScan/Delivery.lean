import PascalScan.Lexeme
import PascalScan.Logging.Entry

/-!
# Delivery to sinks

A scan hands its records over one by one: each token to one sink, each diagnostic to another, in
the order of the source, and at the very end the mark for the end of the source. A sink may
refuse a record, and the scan stops at that call.

* `feed` hands a sequence of records over.
* `deliver` scans a source, hands over its records and logs how many there were.
-/

namespace PascalScan

/-- All records of a source, without the mark at its end. -/
def sourceRecords (source : List Element) : List Record :=
  Lexeme.records 1 (Lexeme.lexemes source)

/-- Two sinks over one state. A sink that refuses gives its fault. -/
structure Sinks (σ ε : Type) where
  token : Token → σ → Except ε σ
  diagnostic : Diagnostic → σ → Except ε σ

/-- How far a hand-over came: the state that the accepted records led to, what was logged, and the
fault that stopped it. -/
structure Feed (σ ε : Type) where
  state : σ
  log : List Logging.Entry
  fault : Option ε

namespace Sinks

variable {σ ε : Type}

/-- Each diagnostic is logged before it is handed over. -/
def diagnosticEntry (d : Diagnostic) : Logging.Entry :=
  ⟨Logging.lexerService, .debug, "diagnostic: " ++ d.msg⟩

def feed (k : Sinks σ ε) : List Record → σ → Feed σ ε
  | [], st => ⟨st, [], none⟩
  | .token t :: rs, st =>
      match k.token t st with
      | .error e => ⟨st, [], some e⟩
      | .ok st' => k.feed rs st'
  | .diagnostic d :: rs, st =>
      match k.diagnostic d st with
      | .error e => ⟨st, [diagnosticEntry d], some e⟩
      | .ok st' =>
          let f := k.feed rs st'
          { f with log := diagnosticEntry d :: f.log }

end Sinks

/-- What a finished scan logs: the elements read, the tokens with the mark at the end, and the
diagnostics. -/
def summaryEntry (elements tokens diagnostics : Nat) : Logging.Entry :=
  ⟨Logging.lexerService, .info,
    "scanned " ++ toString elements ++ " chars: " ++ toString tokens ++ " tokens, " ++
      toString diagnostics ++ " diagnostics"⟩

/-- What a delivery came to: the state of the sinks, the log, and either the fault that stopped it
or whether the source was free of diagnostics. -/
structure Delivery (σ ε : Type) where
  state : σ
  log : List Logging.Entry
  outcome : Except ε Bool

/-- Scans a source and hands over its records. -/
def deliver {σ ε : Type} (k : Sinks σ ε) (source : List Element) (st : σ) : Delivery σ ε :=
  let rs := sourceRecords source ++ [.endOfFile]
  let f := k.feed rs st
  match f.fault with
  | some e => ⟨f.state, f.log, .error e⟩
  | none =>
      let tokens := (Record.tokens rs).length
      let diagnostics := (Record.diagnostics rs).length
      ⟨f.state, f.log ++ [summaryEntry source.length tokens diagnostics], .ok (diagnostics == 0)⟩

/-! ## Sinks that keep what they are given -/

/-- Which sink refused. -/
inductive SinkFault where
  | token
  | diagnostic
  deriving DecidableEq, Repr

def SinkFault.message : SinkFault → String
  | token => "token sink failed"
  | diagnostic => "error sink failed"

/-- The records that were accepted, the latest first, and how many went to each sink. -/
structure Recording where
  latestFirst : List Record
  tokens : Nat
  diagnostics : Nat

namespace Recording

def empty : Recording := ⟨[], 0, 0⟩

/-- The records in the order in which they were accepted. -/
def records (r : Recording) : List Record := r.latestFirst.reverse

end Recording

/-- Sinks that keep the records. Each may be set to refuse its call of a given number, counted
from one. -/
def Sinks.recording (failToken failDiagnostic : Option Nat) : Sinks Recording SinkFault where
  token t st :=
    if failToken = some (st.tokens + 1) then .error .token
    else .ok { st with latestFirst := .token t :: st.latestFirst, tokens := st.tokens + 1 }
  diagnostic d st :=
    if failDiagnostic = some (st.diagnostics + 1) then .error .diagnostic
    else .ok { st with
      latestFirst := .diagnostic d :: st.latestFirst
      diagnostics := st.diagnostics + 1 }

end PascalScan
