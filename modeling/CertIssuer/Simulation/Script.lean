import CertIssuer.Authority.Endpoint
import CertIssuer.Simulation.World

/-!
Scripted authorities: signers with prepared replies, or clients of an endpoint with prepared
responses. A script keeps the service keys and the calls it received.
-/

namespace CertIssuer

/-- A prepared reply to a signing call. -/
inductive Reply where
  | certificate (text : String)
  | failure (e : SignError)
  deriving DecidableEq

/-- A signer of a scripted authority. -/
inductive ScriptSigner where
  /-- One that takes the next prepared reply. -/
  | scripted
  /-- A client of the endpoint. -/
  | client (c : Client)
  deriving DecidableEq

/-- A scripted authority. -/
structure Script where
  /-- Why no signer can be opened; none of the texts means that signers can. -/
  refusal : List String
  replies : List Reply
  /-- The endpoint to call, with its URL, if signers are clients. -/
  endpoint : Option (String × Endpoint)
  /-- The service keys for which signers were opened or refused. -/
  serviceKeys : List Bytes
  /-- The calls of signers that are no clients. -/
  requests : List SignRequest

namespace Script

/-- The script of an authority that signs everything. -/
def new : Script := ⟨[], [], none, [], []⟩

/-- The certificate of replies that were not prepared. -/
def standardCertificate : String := "bogus"

/-- The answer that a reply stands for. -/
def answer (r : SignRequest) : Reply → Except SignError SignResponse
  | .failure e => .error e
  | .certificate text =>
    .ok { SignResponse.ofCertificate text with
      hostnames := r.hostnames, requestType := r.requestType, validity := r.validity.toInt }

/-- The reply to the next call. -/
def reply (s : Script) : Reply :=
  (Endpoint.atOrLast s.replies s.requests.length).getD (.certificate standardCertificate)

/-- Opens a signer. -/
def openSigner (serviceKey : Bytes) (s : Script) : Except (List String) ScriptSigner × Script :=
  let opened : Except (List String) ScriptSigner :=
    if !s.refusal.isEmpty then .error s.refusal
    else
      match s.endpoint with
      | none => .ok .scripted
      | some (url, _) =>
        match Client.new url serviceKey with
        | .ok c => .ok (.client c)
        | .error fault => .error fault.chain
  (opened, { s with serviceKeys := s.serviceKeys ++ [serviceKey] })

/-- Answers a call. -/
def sign (signer : ScriptSigner) (r : SignRequest) (s : Script) :
    (Except SignError SignResponse × List Log.Event) × Script :=
  match signer, s.endpoint with
  | .client c, some (url, e) =>
    let (called, after) := e.call c r
    (called, { s with endpoint := some (url, after) })
  | _, _ => ((answer r s.reply, []), { s with requests := s.requests ++ [r] })

/-- The authority that a script makes. -/
def authority : Authority ScriptSigner Script := ⟨openSigner, sign⟩

end Script
end CertIssuer
