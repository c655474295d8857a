import GitDrift.Json.Record
import GitDrift.Text.Diagnostic

/-!
Failures of talking to the API server of a cluster.
-/
namespace GitDrift.Cluster

open Json Text

/-- What a server says about a request that it refuses. -/
structure Refusal where
  status : String := ""
  message : String := ""
  reason : String := ""
  code : Nat := 0
deriving DecidableEq, Inhabited

namespace Refusal

def recordType : RecordType Refusal where
  name := "ErrorResponse"
  blank := {}
  fields := [
    field "status" Decoder.string (fun r v => { r with status := v }) .required,
    field "message" Decoder.string fun r v => { r with message := v },
    field "reason" Decoder.string fun r v => { r with reason := v },
    field "code" Decoder.uint16 (fun r v => { r with code := v.toNat }) .required]

def decode : Decoder Refusal := recordType.decoder

def diagnostic (r : Refusal) : Diagnostic :=
  .record "ErrorResponse" [("status", .text r.status), ("message", .text r.message),
    ("reason", .text r.reason), ("code", .word (ofNat r.code))] false

end Refusal

inductive Failure where
  /-- The server refused. -/
  | refused (r : Refusal)
  /-- The server's answer is not what was asked for. -/
  | undecodable (e : ReadError)
  /-- There was no answer. -/
  | connection
  /-- No request could be made of what was given. -/
  | badRequest
deriving DecidableEq, Inhabited

def Failure.diagnostic : Failure → Diagnostic
  | .refused r => .applied "Api" [r.diagnostic]
  | .undecodable e => .applied "SerdeError" [e.diagnostic]
  | .connection => .word "Service"
  | .badRequest => .word "BuildRequest"

end GitDrift.Cluster
